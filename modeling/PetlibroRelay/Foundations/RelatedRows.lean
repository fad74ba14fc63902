import Mathlib.Data.List.Forall2
import Mathlib.Data.List.Sort
import PetlibroRelay.Foundations.Dict

namespace PetlibroRelay
namespace Foundations

/-!
# Tables related row by row

Two tables with the same keys in the same order, whose values are related.  Sorting
by what related rows have in common, and selecting by key, keep the relation.
-/

universe u v w

section Sorting

variable {α : Type u} {β : Type v} {related : α -> β -> Prop}
  (orderFirst : α -> α -> Prop) [DecidableRel orderFirst]
  (orderSecond : β -> β -> Prop) [DecidableRel orderSecond]

/-- A sort takes related lists to related lists when the orders agree on related elements. -/
theorem forall₂_insertionSort
    (agree : forall a b c d, related a b -> related c d -> (orderFirst a c ↔ orderSecond b d))
    {first : List α} {second : List β} (rows : List.Forall₂ related first second) :
    List.Forall₂ related (first.insertionSort orderFirst) (second.insertionSort orderSecond) := by
  have insert : forall a b, related a b -> forall {restFirst restSecond},
      List.Forall₂ related restFirst restSecond ->
        List.Forall₂ related (restFirst.orderedInsert orderFirst a)
          (restSecond.orderedInsert orderSecond b) := by
    intro a b same restFirst restSecond rest
    induction rest with
    | nil => exact .cons same .nil
    | cons head tail inductionHypothesis =>
        rw [List.orderedInsert, List.orderedInsert]
        have order := agree _ _ _ _ same head
        split
        · next before =>
            rw [if_pos (order.mp before)]
            exact .cons same (.cons head tail)
        · next after =>
            rw [if_neg (fun before => after (order.mpr before))]
            exact .cons head inductionHypothesis
  induction rows with
  | nil => exact .nil
  | cons head _ inductionHypothesis => exact insert _ _ head inductionHypothesis

end Sorting

namespace Dict

variable {κ : Type u} {ν : Type v} {μ : Type w}

/-- The rows have the same keys, and values that are related under them. -/
def RowsRelated (related : κ -> ν -> μ -> Prop) (first : Dict κ ν) (second : Dict κ μ) : Prop :=
  List.Forall₂ (fun a b => a.1 = b.1 ∧ related a.1 a.2 b.2) first second

variable [DecidableEq κ]

theorem RowsRelated.get? {related : κ -> ν -> μ -> Prop} {first : Dict κ ν} {second : Dict κ μ}
    (rows : RowsRelated related first second) (key : κ) :
    Option.Rel (related key) (Dict.get? first key) (Dict.get? second key) := by
  rw [RowsRelated] at rows
  induction rows with
  | nil => exact .none
  | cons head _ inductionHypothesis =>
      rw [Dict.get?, Dict.get?, ← head.1]
      split
      · next found =>
          rw [← found]
          exact .some head.2
      · exact inductionHypothesis

omit [DecidableEq κ] in
/-- The rows of one owner. -/
theorem RowsRelated.forFirst {ι : Type u} [DecidableEq ι] {related : ι × κ -> ν -> μ -> Prop}
    {first : Dict (ι × κ) ν} {second : Dict (ι × κ) μ} (rows : RowsRelated related first second)
    (owner : ι) :
    RowsRelated (fun key => related (owner, key)) (Dict.forFirst first owner)
      (Dict.forFirst second owner) := by
  rw [RowsRelated] at rows
  induction rows with
  | nil => exact .nil
  | @cons a b _ _ head _ inductionHypothesis =>
      rw [Dict.forFirst, Dict.forFirst, List.filter_cons, List.filter_cons, ← head.1]
      split
      · next own =>
          have same : a.1 = (owner, a.1.2) := Prod.ext (of_decide_eq_true own) rfl
          refine .cons ⟨congrArg Prod.snd head.1, ?_⟩ inductionHypothesis
          have value : related a.1 a.2 b.2 := head.2
          rw [same] at value
          exact value
      · exact inductionHypothesis

end Dict
end Foundations
end PetlibroRelay
