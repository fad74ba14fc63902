import Mathlib.Algebra.Order.Field.Basic
import Mathlib.Tactic.Linarith
import Mathlib.Tactic.Ring

namespace PetlibroRelay
namespace Foundations

/-!
# Spaced points of time

A rate limit says that admissions keep a distance.  What its user wants is a
bound on how many of them fall into a window.  Times are elements of an
arbitrary ordered field and are listed newest first, as a log grows.
-/

universe u

variable {K : Type u} [Field K] [LinearOrder K] [IsStrictOrderedRing K]

/-- Any two of the listed times are at least the gap apart, newest first. -/
def Spaced (gap : K) (times : List K) : Prop :=
  times.Pairwise (fun newer older => older + gap ≤ newer)

/-- The newest of some spaced times exceeds a lower bound of all of them by
the gap for every older one. -/
theorem Spaced.newest_ge {gap lower : K} {newest : K} {older : List K}
    (spaced : Spaced gap (newest :: older))
    (above : forall time, time ∈ newest :: older -> lower ≤ time) :
    lower + older.length * gap ≤ newest := by
  induction older generalizing newest with
  | nil =>
      rw [List.length_nil, Nat.cast_zero, zero_mul, add_zero]
      exact above newest List.mem_cons_self
  | cons second rest inductionHypothesis =>
      have parts := List.pairwise_cons.mp spaced
      have step := parts.1 second List.mem_cons_self
      have rest := inductionHypothesis parts.2
        (fun time member => above time (List.mem_cons_of_mem newest member))
      rw [List.length_cons, Nat.cast_succ, add_mul, one_mul]
      linarith

/-- A window holds at most one spaced time more than it has gaps. -/
theorem Spaced.length_le {gap lower span : K} {times : List K} (spaced : Spaced gap times)
    (positive : 0 < gap) (nonneg : 0 ≤ span)
    (inside : forall time, time ∈ times -> lower ≤ time ∧ time ≤ lower + span) :
    (times.length : K) ≤ 1 + span / gap := by
  cases times with
  | nil =>
      rw [List.length_nil, Nat.cast_zero]
      have := div_nonneg nonneg positive.le
      linarith
  | cons newest older =>
      have reached := spaced.newest_ge (fun time member => (inside time member).1)
      have bound := (inside newest List.mem_cons_self).2
      rw [List.length_cons, Nat.cast_succ, add_comm]
      refine add_le_add_right ?_ 1
      rw [le_div_iff₀ positive]
      linarith

end Foundations
end PetlibroRelay
