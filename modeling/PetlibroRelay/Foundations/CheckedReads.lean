import Mathlib.Data.List.Basic

namespace PetlibroRelay
namespace Foundations

/-!
# Reads that can be out of range

A program that reads a sequence by index is an optional value here, and `none` says that it
read out of range.  A test of several conditions stops at the first one that is false, so
what stands behind it is not read.
-/

universe u

variable {α : Type u}

/-- Test conditions from the left. -/
def allChecks : List (Option Bool) -> Option Bool
  | [] => some true
  | check :: rest => check.bind (fun holds => if holds then allChecks rest else some false)

@[simp] theorem allChecks_nil : allChecks [] = some true := rfl

@[simp] theorem allChecks_cons_some (holds : Bool) (rest : List (Option Bool)) :
    allChecks (some holds :: rest) = if holds then allChecks rest else some false := rfl

/-- Conditions that can all be tested. -/
theorem allChecks_map_some (checks : List Bool) :
    allChecks (checks.map some) = some (checks.all id) := by
  induction checks with
  | nil => rfl
  | cons holds rest inductionHypothesis =>
      rw [List.map_cons, allChecks_cons_some, inductionHypothesis, List.all_cons]
      cases holds <;> rfl

/-- Compare what stands at an index. -/
def readIs [DecidableEq α] (items : List α) (index : Nat) (expected : α) : Option Bool :=
  items[index]?.map (fun item => decide (item = expected))

theorem readIs_of_lt [DecidableEq α] {items : List α} {index : Nat} (within : index < items.length)
    (expected : α) : readIs items index expected = some (decide (items[index] = expected)) := by
  rw [readIs, List.getElem?_eq_getElem within, Option.map_some]

/-- Reads behind an index are reads of what is left from there on. -/
theorem getElem?_of_drop {items rest : List α} {index : Nat} (split : items.drop index = rest)
    (further : Nat) : items[index + further]? = rest[further]? := by
  rw [← split, List.getElem?_drop]

theorem readIs_of_drop [DecidableEq α] {items rest : List α} {index : Nat}
    (split : items.drop index = rest) (further : Nat) (expected : α) :
    readIs items (index + further) expected = readIs rest further expected := by
  rw [readIs, readIs, getElem?_of_drop split]

/-- The items from the first index up to the last one. -/
def readSlice (items : List α) (first last : Nat) : Option (List α) :=
  if first ≤ last ∧ last ≤ items.length then some ((items.drop first).take (last - first)) else none

theorem readSlice_of_le {items : List α} {first last : Nat} (ordered : first ≤ last)
    (within : last ≤ items.length) :
    readSlice items first last = some ((items.drop first).take (last - first)) :=
  if_pos ⟨ordered, within⟩

/-- The items from an index on. -/
theorem readSlice_length {items : List α} {first : Nat} (within : first ≤ items.length) :
    readSlice items first items.length = some (items.drop first) := by
  rw [readSlice_of_le within (Nat.le_refl _), ← List.length_drop, List.take_length]

end Foundations
end PetlibroRelay
