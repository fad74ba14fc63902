import Mathlib.Algebra.Order.Group.Int
import Mathlib.Data.Int.Init

namespace PetlibroRelay
namespace Foundations

/-!
# Signals with changes far apart

A signal over the integers changes where it differs from the value just before.
Between two changes it is constant.  When changes are at least a gap apart, an
interval no longer than the gap has at most one, and it can be told from the values
at its ends whether it has one.
-/

universe u

/-- The signal differs from its value just before. -/
def ChangesAt {α : Type u} (signal : Int -> α) (time : Int) : Prop := signal time ≠ signal (time - 1)

/-- Changes are at least a gap apart. -/
def ChangesSpaced {α : Type u} (signal : Int -> α) (gap : Int) : Prop :=
  forall first second, ChangesAt signal first -> ChangesAt signal second -> first < second ->
    first + gap ≤ second

/-- The first changes after a time and up to another, in order, and no more than a number. -/
structure FirstChanges {α : Type u} (signal : Int -> α) (after upTo : Int) (count : Nat)
    (changes : List Int) : Prop where
  ordered : changes.Pairwise (fun first second => first < second)
  inside : forall time, time ∈ changes -> after < time ∧ time ≤ upTo
  real : forall time, time ∈ changes -> ChangesAt signal time
  bounded : changes.length ≤ count
  complete : forall time, ChangesAt signal time -> after < time -> time ≤ upTo ->
    time ∈ changes ∨ changes.length = count ∧ forall earlier, earlier ∈ changes -> earlier < time

section Signals

variable {α : Type u} {signal : Int -> α}

/-! ## Constant stretches -/

theorem constant_of_unchanged {first last : Int} (order : first ≤ last)
    (unchanged : forall time, first < time -> time ≤ last -> ¬ ChangesAt signal time) :
    signal last = signal first := by
  induction last, order using Int.leInduction with
  | base => rfl
  | succ last order inductionHypothesis =>
      have same : ¬ ChangesAt signal (last + 1) := unchanged _ (by omega) (Int.le_refl _)
      rw [ChangesAt, not_not, Int.add_sub_cancel] at same
      rw [same]
      exact inductionHypothesis (fun time later sooner => unchanged time later (by omega))

/-- In an interval no longer than the gap there is at most one change. -/
theorem change_unique {gap after upTo : Int} (spaced : ChangesSpaced signal gap)
    (short : upTo ≤ after + gap) {first second : Int} (changes : ChangesAt signal first)
    (changesToo : ChangesAt signal second) (afterFirst : after < first)
    (afterSecond : after < second) (beforeFirst : first ≤ upTo) (beforeSecond : second ≤ upTo) :
    first = second := by
  rcases Int.lt_trichotomy first second with less | same | greater
  · have apart := spaced first second changes changesToo less
    omega
  · exact same
  · have apart := spaced second first changesToo changes greater
    omega

/-- An interval no longer than the gap is constant before its change and from its change on. -/
theorem around_change {gap after upTo change : Int} (spaced : ChangesSpaced signal gap)
    (short : upTo ≤ after + gap) (changes : ChangesAt signal change) (inside : after < change)
    (before : change ≤ upTo) :
    (forall time, after ≤ time -> time < change -> signal time = signal after) ∧
      forall time, change ≤ time -> time ≤ upTo -> signal time = signal change := by
  constructor
  · intro time later sooner
    apply constant_of_unchanged later
    intro other afterOther beforeOther otherChanges
    have same := change_unique spaced short otherChanges changes afterOther inside (by omega) before
    omega
  · intro time later sooner
    apply constant_of_unchanged later
    intro other afterOther beforeOther otherChanges
    have same := change_unique spaced short otherChanges changes (by omega) inside (by omega) before
    omega

/-- Whether an interval no longer than the gap has a change shows at its ends. -/
theorem differs_of_change {gap after upTo change : Int} (spaced : ChangesSpaced signal gap)
    (short : upTo ≤ after + gap) (changes : ChangesAt signal change) (inside : after < change)
    (before : change ≤ upTo) : signal upTo ≠ signal after := by
  obtain ⟨earlier, later⟩ := around_change spaced short changes inside before
  rw [later upTo before (Int.le_refl _)]
  rw [ChangesAt, earlier (change - 1) (by omega) (by omega)] at changes
  exact changes

theorem exists_change {after upTo : Int} (order : after ≤ upTo)
    (differs : signal upTo ≠ signal after) :
    exists change, ChangesAt signal change ∧ after < change ∧ change ≤ upTo := by
  by_contra none
  apply differs
  apply constant_of_unchanged order
  intro time later sooner changes
  exact none ⟨time, changes, later, sooner⟩

/-! ## Lists of changes -/

namespace FirstChanges

variable {after middle upTo : Int} {count : Nat} {changes : List Int}

theorem of_count_zero : FirstChanges signal after upTo 0 [] where
  ordered := .nil
  inside := nofun
  real := nofun
  bounded := Nat.le_refl _
  complete := fun _ _ _ _ => Or.inr ⟨rfl, nofun⟩

theorem of_interval_empty (empty : upTo ≤ after) : FirstChanges signal after upTo count [] where
  ordered := .nil
  inside := nofun
  real := nofun
  bounded := Nat.zero_le _
  complete := fun _ _ later sooner => absurd (Int.lt_of_lt_of_le later sooner) (by omega)

/-- A stretch without a change adds nothing. -/
theorem skip (rest : FirstChanges signal middle upTo count changes) (order : after ≤ middle)
    (unchanged : forall time, after < time -> time ≤ middle -> ¬ ChangesAt signal time) :
    FirstChanges signal after upTo count changes where
  ordered := rest.ordered
  inside time member := ⟨Int.lt_of_le_of_lt order (rest.inside time member).1,
    (rest.inside time member).2⟩
  real := rest.real
  bounded := rest.bounded
  complete time changes later sooner := by
    by_cases early : time ≤ middle
    · exact absurd changes (unchanged time later early)
    · exact rest.complete time changes (by omega) sooner

/-- A stretch with one change puts it before the others. -/
theorem cons (rest : FirstChanges signal middle upTo count changes) {change : Int}
    (real : ChangesAt signal change) (inside : after < change) (before : change ≤ middle)
    (order : middle ≤ upTo)
    (unique : forall time, ChangesAt signal time -> after < time -> time ≤ middle ->
      time = change) :
    FirstChanges signal after upTo (count + 1) (change :: changes) where
  ordered := List.pairwise_cons.mpr
    ⟨fun time member => Int.lt_of_le_of_lt before (rest.inside time member).1, rest.ordered⟩
  inside := by
    rw [List.forall_mem_cons]
    refine ⟨⟨inside, by omega⟩, fun time member => ?_⟩
    have known := rest.inside time member
    exact ⟨by omega, known.2⟩
  real := List.forall_mem_cons.mpr ⟨real, rest.real⟩
  bounded := Nat.succ_le_succ rest.bounded
  complete := by
    intro time changes later sooner
    by_cases early : time ≤ middle
    · exact Or.inl (List.mem_cons.mpr (Or.inl (unique time changes later early)))
    · rcases rest.complete time changes (by omega) sooner with listed | ⟨full, earlier⟩
      · exact Or.inl (List.mem_cons_of_mem _ listed)
      · refine Or.inr ⟨congrArg Nat.succ full, List.forall_mem_cons.mpr ⟨by omega, earlier⟩⟩

end FirstChanges

/-! ## Tables of changes -/

/-- The value of the last entry that is not after a time, and another value before the first. -/
def lookup (otherwise : α) : List (Int × α) -> Int -> α
  | [], _ => otherwise
  | entry :: entries, time => if entry.1 ≤ time then lookup entry.2 entries time else otherwise

section Tables

variable {report : Int -> Int} {after time : Int} {changes : List Int}

/-- A table may tell changes late, as long as it tells each before the next one. -/
structure ToldInTurn (report : Int -> Int) (after : Int) (changes : List Int) : Prop where
  late : forall change, change ≤ report change
  ordered : changes.Pairwise (fun first second => first < second ∧ report first ≤ second)
  inside : forall change, change ∈ changes -> after < change

theorem ToldInTurn.tail {change : Int} (told : ToldInTurn report after (change :: changes)) :
    ToldInTurn report change changes where
  late := told.late
  ordered := (List.pairwise_cons.mp told.ordered).2
  inside := fun later member => ((List.pairwise_cons.mp told.ordered).1 later member).1

/-- A change that is listed is the first one, or comes after it. -/
theorem ToldInTurn.first_le {change later : Int}
    (told : ToldInTurn report after (change :: changes)) (member : later ∈ change :: changes) :
    change ≤ later := by
  rcases List.mem_cons.mp member with same | rest
  · exact Int.le_of_eq same.symm
  · exact Int.le_of_lt ((List.pairwise_cons.mp told.ordered).1 later rest).1

theorem signal_before_first {change : Int} (told : ToldInTurn report after (change :: changes))
    (known : forall other, ChangesAt signal other -> after < other -> other ≤ time ->
      other ∈ change :: changes) {moment : Int} (order : after ≤ moment) (inTime : moment ≤ time)
    (early : moment < change) : signal moment = signal after := by
  apply constant_of_unchanged order
  intro other later sooner changed
  have first := told.first_le (known other changed later (by omega))
  omega

/-- Where all changes up to a time are listed, the table has the value of the signal, or a
change is about to be told. -/
theorem lookup_eq (told : ToldInTurn report after changes) (order : after ≤ time)
    (known : forall other, ChangesAt signal other -> after < other -> other ≤ time ->
      other ∈ changes)
    (settled : forall change, change ∈ changes -> change ≤ time -> report change ≤ time) :
    lookup (signal after) (changes.map fun change => (report change, signal change)) time =
      signal time := by
  induction changes generalizing after with
  | nil =>
      refine (constant_of_unchanged order fun other later sooner changed => ?_).symm
      exact absurd (known other changed later sooner) List.not_mem_nil
  | cons change changes inductionHypothesis =>
      rw [List.map_cons, lookup]
      by_cases reached : report change ≤ time
      · rw [if_pos reached]
        have begun : change ≤ time := Int.le_trans (told.late change) reached
        apply inductionHypothesis told.tail begun
        · intro other changed later sooner
          have outside := told.inside change List.mem_cons_self
          rcases List.mem_cons.mp (known other changed (by omega) sooner) with same | rest
          · omega
          · exact rest
        · exact fun other member => settled other (List.mem_cons_of_mem _ member)
      · rw [if_neg reached]
        have early : time < change := by
          by_contra begun
          exact reached (settled change List.mem_cons_self (Int.not_lt.mp begun))
        exact (signal_before_first told known order (Int.le_refl _) early).symm

/-- Until a change is told, the table has the value from before it. -/
theorem lookup_untold (told : ToldInTurn report after changes)
    (known : forall other, ChangesAt signal other -> after < other -> other ≤ time ->
      other ∈ changes)
    {change : Int} (listed : change ∈ changes) (begun : change ≤ time)
    (untold : time < report change) :
    lookup (signal after) (changes.map fun change => (report change, signal change)) time =
      signal (change - 1) := by
  induction changes generalizing after with
  | nil => exact absurd listed List.not_mem_nil
  | cons first changes inductionHypothesis =>
      have outside := told.inside first List.mem_cons_self
      rw [List.map_cons, lookup]
      rcases List.mem_cons.mp listed with same | rest
      · subst same
        rw [if_neg (Int.not_le.mpr untold)]
        exact (signal_before_first told known (by omega) (by omega) (by omega)).symm
      · have apart := (List.pairwise_cons.mp told.ordered).1 change rest
        rw [if_pos (by omega)]
        apply inductionHypothesis told.tail _ rest
        intro other changed later sooner
        rcases List.mem_cons.mp (known other changed (by omega) sooner) with same | member
        · omega
        · exact member

end Tables

end Signals
end Foundations
end PetlibroRelay
