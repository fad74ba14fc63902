import Mathlib.Algebra.Order.Group.Abs
import Mathlib.Algebra.Order.Group.MinMax
import Mathlib.Tactic.Abel

namespace PetlibroRelay
namespace Foundations

/-!
# How long a signal is on within a window

A signal with two values is given by its value at some time and by its switches, in
order.  The time it is on within a window is the sum of the parts of its stretches
that lie in the window.  The part of a stretch is the difference of its ends, each
moved into the window.
-/

universe u

section Windows

variable {K : Type u} [LinearOrder K]

/-- The time in the window that is nearest. -/
def clamp (start stop time : K) : K := max start (min time stop)

variable {start stop : K}

/-! ## Moving into the window -/

theorem clamp_of_le {time : K} (before : time ≤ start) : clamp start stop time = start :=
  max_eq_left ((min_le_left _ _).trans before)

theorem clamp_of_inside {time : K} (after : start ≤ time) (before : time ≤ stop) :
    clamp start stop time = time := by
  rw [clamp, min_eq_left before, max_eq_right after]

theorem clamp_mono {first second : K} (order : first ≤ second) :
    clamp start stop first ≤ clamp start stop second :=
  max_le_max_left start (min_le_min_right stop order)

theorem le_clamp (time : K) : start ≤ clamp start stop time := le_max_left _ _

theorem clamp_le (window : start ≤ stop) (time : K) : clamp start stop time ≤ stop :=
  max_le window (min_le_right _ _)

/-- Of switches in order, none comes before a switch that comes first. -/
theorem clamp_le_of_ordered {switch : K × Bool} {rest : List (K × Bool)}
    (ordered : ((switch :: rest).map Prod.fst).Pairwise (· ≤ ·)) :
    forall later, later ∈ rest -> clamp start stop switch.1 ≤ clamp start stop later.1 := by
  rw [List.map_cons, List.pairwise_cons] at ordered
  exact fun later member => clamp_mono (ordered.1 _ (List.mem_map_of_mem member))

end Windows

section Signals

variable {K : Type u} [AddCommGroup K] [LinearOrder K]

/-- The time the signal is on from now to the end of the window: its value, since when, and
its switches. -/
def timeOn (start stop : K) : Bool -> K -> List (K × Bool) -> K
  | value, since, [] => if value then stop - clamp start stop since else 0
  | value, since, (moment, next) :: rest =>
      (if value then clamp start stop moment - clamp start stop since else 0) +
        timeOn start stop next moment rest

variable {start stop : K}

/-! ## Switches that do not matter -/

/-- For a signal that is off it does not matter since when. -/
theorem timeOn_off (since other : K) (switches : List (K × Bool)) :
    timeOn start stop false since switches = timeOn start stop false other switches := by
  cases switches with
  | nil => rfl
  | cons switch rest => rfl

/-- A switch to the value the signal has changes nothing. -/
theorem timeOn_repeat (value : Bool) (since moment : K) (rest : List (K × Bool)) :
    timeOn start stop value since ((moment, value) :: rest) =
      timeOn start stop value since rest := by
  cases value with
  | false =>
      rw [timeOn, if_neg Bool.false_ne_true, zero_add]
      exact timeOn_off moment since rest
  | true =>
      rw [timeOn, if_pos rfl]
      cases rest with
      | nil => rw [timeOn, timeOn, if_pos rfl, if_pos rfl, add_comm, sub_add_sub_cancel]
      | cons switch later =>
          rw [timeOn, timeOn, if_pos rfl, if_pos rfl, ← add_assoc, add_comm (_ - _) (_ - _),
            sub_add_sub_cancel]

/-- A stretch that begins before the window counts from its start. -/
theorem timeOn_from_start {since : K} (before : since ≤ start) (value : Bool)
    (switches : List (K × Bool)) :
    timeOn start stop value since switches = timeOn start stop value start switches := by
  have same : clamp start stop since = clamp start stop start := by
    rw [clamp_of_le before, clamp_of_le le_rfl]
  cases switches with
  | nil => rw [timeOn, timeOn, same]
  | cons switch rest => rw [timeOn, timeOn, same]

/-- A switch before the window decides the value alone. -/
theorem timeOn_switch_before {since moment : K} (early : since ≤ start) (before : moment ≤ start)
    (value next : Bool) (rest : List (K × Bool)) :
    timeOn start stop value since ((moment, next) :: rest) =
      timeOn start stop next start rest := by
  rw [timeOn, clamp_of_le before, clamp_of_le early, sub_self, ite_self, zero_add]
  exact timeOn_from_start before next rest

/-! ## Bounds -/

variable [IsOrderedAddMonoid K]

theorem timeOn_nonneg (window : start ≤ stop) (value : Bool) {since : K}
    {switches : List (K × Bool)} (ordered : (switches.map Prod.fst).Pairwise (· ≤ ·))
    (first : forall switch, switch ∈ switches ->
      clamp start stop since ≤ clamp start stop switch.1) :
    0 ≤ timeOn start stop value since switches := by
  induction switches generalizing value since with
  | nil =>
      rw [timeOn]
      split
      · exact sub_nonneg.mpr (clamp_le window since)
      · exact le_rfl
  | cons switch rest inductionHypothesis =>
      rw [timeOn]
      refine add_nonneg ?_ (inductionHypothesis _ ordered.of_cons (clamp_le_of_ordered ordered))
      split
      · exact sub_nonneg.mpr (first switch List.mem_cons_self)
      · exact le_rfl

theorem timeOn_le (window : start ≤ stop) (value : Bool) {since : K}
    {switches : List (K × Bool)} (ordered : (switches.map Prod.fst).Pairwise (· ≤ ·))
    (first : forall switch, switch ∈ switches ->
      clamp start stop since ≤ clamp start stop switch.1) :
    timeOn start stop value since switches ≤ stop - clamp start stop since := by
  induction switches generalizing value since with
  | nil =>
      rw [timeOn]
      split
      · exact le_rfl
      · exact sub_nonneg.mpr (clamp_le window since)
  | cons switch rest inductionHypothesis =>
      have order := first switch List.mem_cons_self
      have later := inductionHypothesis switch.2 ordered.of_cons (clamp_le_of_ordered ordered)
      rw [timeOn, ← sub_add_sub_cancel stop (clamp start stop switch.1), add_comm]
      refine add_le_add later ?_
      split
      · exact le_rfl
      · exact sub_nonneg.mpr order

end Signals
end Foundations
end PetlibroRelay
