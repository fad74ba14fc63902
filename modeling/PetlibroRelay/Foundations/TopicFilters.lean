import Mathlib.Data.List.Basic

namespace PetlibroRelay
namespace Foundations

/-!
# Topic filters

A publish-subscribe broker passes a message on to the subscriptions whose filter
covers its topic.  Topics are lists of levels.  A filter may leave one level open,
and all levels from one on.  A filter that ends in a given level covers only topics that
end in it, which is what keeps the two directions of a bridge apart.
-/

universe u

namespace TopicFilters

/-- One level of a filter. -/
inductive Level (α : Type u) where
  | exactly (level : α)
  | anyOne
  | anyRest
  deriving DecidableEq, Repr

section Covers

variable {α : Type u} [DecidableEq α]

/-- Whether a filter covers the levels of a topic.  Open levels at the end may also be
no levels at all, and nothing may follow them. -/
def covers : List (Level α) -> List α -> Bool
  | [.anyRest], _ => true
  | [], [] => true
  | .exactly expected :: filter, level :: topic => decide (expected = level) && covers filter topic
  | .anyOne :: filter, _ :: topic => covers filter topic
  | _, _ => false

/-- A covered topic ends in the last level of the filter, if that is a given one. -/
theorem getLast?_of_covers {filter : List (Level α)} {topic : List α} {last : α}
    (covered : covers filter topic = true) (ends : filter.getLast? = some (.exactly last)) :
    topic.getLast? = some last := by
  induction filter generalizing topic with
  | nil => cases ends
  | cons level filter inductionHypothesis =>
      cases topic with
      | nil =>
          cases level with
          | exactly expected => cases covered
          | anyOne => cases covered
          | anyRest =>
              cases filter with
              | nil => cases ends
              | cons next filter => cases covered
      | cons first topic =>
          have later : covers filter topic = true -> filter ≠ [] ->
              (first :: topic).getLast? = some last := by
            intro rest more
            have restEnds : filter.getLast? = some (.exactly last) := by
              rw [← ends, List.getLast?_cons]
              cases found : filter.getLast? with
              | none => exact absurd (List.getLast?_eq_none_iff.mp found) more
              | some other => rfl
            have found := inductionHypothesis rest restEnds
            rw [List.getLast?_cons, found, Option.getD_some]
          cases level with
          | exactly expected =>
              rw [covers, Bool.and_eq_true, decide_eq_true_iff] at covered
              cases filter with
              | nil =>
                  cases ends
                  cases topic with
                  | nil => rw [covered.1]; rfl
                  | cons next topic => cases covered.2
              | cons next filter => exact later covered.2 (List.cons_ne_nil _ _)
          | anyOne =>
              cases filter with
              | nil => cases ends
              | cons next filter =>
                  refine later ?_ (List.cons_ne_nil _ _)
                  rw [covers] at covered
                  exact covered
          | anyRest =>
              cases filter with
              | nil => cases ends
              | cons next filter => cases covered

end Covers

end TopicFilters
end Foundations
end PetlibroRelay
