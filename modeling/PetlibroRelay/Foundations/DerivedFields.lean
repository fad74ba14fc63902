import Mathlib.Data.List.Basic

namespace PetlibroRelay
namespace Foundations

/-!
# Derived fields

Some fields of a record are computed from others, one after the other, and computing
one may fail.  When no computed field is a source of another, every one is computed
from the record as it was, and a field that is not computed keeps its value.
-/

universe u v w x

/-- Records whose fields are read and written by name. -/
structure Fields (σ : Type w) (κ : Type u) (ν : Type v) [DecidableEq κ] where
  read : σ -> κ -> Option ν
  write : σ -> κ -> ν -> σ
  read_write : forall record key value other,
    read (write record key value) other = if key = other then some value else read record other

/-- How one field is computed, from the fields it names as its sources.  It may also not
apply. -/
structure DerivedField (κ : Type u) (ν : Type v) (ε : Type x) where
  target : κ
  sources : List κ
  outcome : (κ -> Option ν) -> Except ε (Option ν)
  reads : forall first second, (forall source, source ∈ sources -> first source = second source) ->
    outcome first = outcome second

variable {σ : Type w} {κ : Type u} {ν : Type v} {ε : Type x} [DecidableEq κ]

/-- No computed field is a source. -/
def Separate (rules : List (DerivedField κ ν ε)) : Prop :=
  forall rule, rule ∈ rules -> forall other, other ∈ rules -> rule.target ∉ other.sources

namespace Fields

variable (fields : Fields σ κ ν)

def derive (record : σ) (rule : DerivedField κ ν ε) : Except ε σ :=
  match rule.outcome (fields.read record) with
  | .error problem => .error problem
  | .ok none => .ok record
  | .ok (some value) => .ok (fields.write record rule.target value)

def deriveAll (rules : List (DerivedField κ ν ε)) (record : σ) : Except ε σ :=
  rules.foldlM fields.derive record

variable {fields}

/-- One rule writes its own field, if it applies. -/
theorem read_derive {record after : σ} {rule : DerivedField κ ν ε}
    (done : fields.derive record rule = .ok after) :
    exists value, rule.outcome (fields.read record) = .ok value ∧
      forall key, fields.read after key =
        if rule.target = key then value.or (fields.read record key) else fields.read record key := by
  rw [derive] at done
  split at done
  · cases done
  · next outcome =>
      cases done
      exact ⟨none, outcome, fun key => (ite_self _).symm⟩
  · next value outcome =>
      cases done
      exact ⟨some value, outcome, fun key => fields.read_write record rule.target value key⟩

/-- A rule computes the same after a rule that does not write its sources. -/
theorem outcome_derive {record after : σ} {rule other : DerivedField κ ν ε}
    (apart : rule.target ∉ other.sources) (done : fields.derive record rule = .ok after) :
    other.outcome (fields.read after) = other.outcome (fields.read record) := by
  obtain ⟨value, outcome, result⟩ := read_derive done
  apply other.reads
  intro source member
  rw [result, if_neg]
  rintro rfl
  exact apart member

/-- Every rule is computed from the record as it was, and every field keeps its value or is
the result of a rule that applies. -/
theorem deriveAll_spec {rules : List (DerivedField κ ν ε)} (separate : Separate rules)
    {record after : σ} (done : fields.deriveAll rules record = .ok after) :
    (forall rule, rule ∈ rules -> exists value, rule.outcome (fields.read record) = .ok value) ∧
      forall key, fields.read after key = fields.read record key ∨
        exists rule value, rule ∈ rules ∧ rule.target = key ∧
          rule.outcome (fields.read record) = .ok (some value) ∧
            fields.read after key = some value := by
  induction rules generalizing record with
  | nil =>
      cases done
      exact ⟨fun rule member => (List.not_mem_nil member).elim, fun key => Or.inl rfl⟩
  | cons first rest inductionHypothesis =>
      rw [deriveAll, List.foldlM_cons] at done
      cases begun : fields.derive record first with
      | error problem =>
          rw [begun] at done
          cases done
      | ok middle =>
          rw [begun] at done
          obtain ⟨value, outcome, result⟩ := read_derive begun
          have later : forall rule, rule ∈ rest ->
              rule.outcome (fields.read middle) = rule.outcome (fields.read record) :=
            fun rule member => outcome_derive
              (separate first List.mem_cons_self rule (List.mem_cons_of_mem _ member)) begun
          have separateRest : Separate rest := fun rule member other otherMember =>
            separate rule (List.mem_cons_of_mem _ member) other (List.mem_cons_of_mem _ otherMember)
          obtain ⟨computed, kept⟩ := inductionHypothesis separateRest done
          constructor
          · intro rule member
            rcases List.mem_cons.mp member with rfl | member
            · exact ⟨value, outcome⟩
            · rw [← later rule member]
              exact computed rule member
          · intro key
            rcases kept key with same | ⟨rule, written, member, target, applies, stored⟩
            · rw [same, result]
              by_cases own : first.target = key
              · rw [if_pos own]
                cases value with
                | none => exact Or.inl rfl
                | some written =>
                    exact Or.inr ⟨first, written, List.mem_cons_self, own, outcome, rfl⟩
              · rw [if_neg own]
                exact Or.inl rfl
            · rw [later rule member] at applies
              exact Or.inr ⟨rule, written, List.mem_cons_of_mem _ member, target, applies, stored⟩

end Fields
end Foundations
end PetlibroRelay
