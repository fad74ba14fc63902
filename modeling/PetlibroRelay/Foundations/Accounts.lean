import Mathlib.Data.List.Nodup

namespace PetlibroRelay
namespace Foundations

/-!
# Accounts of created and settled items

Conservation of numbered items: everything ever created is present or has been
settled, nothing is both, and nothing is settled twice.  Two rules carry such
accounts through a step that creates an item and through a step that settles
some of the present ones.
-/

universe u

/-- The items ever created, those present now, and those settled, in the order
of their settlement. -/
structure Accounts {ι : Type u} (created present settled : List ι) : Prop where
  once : settled.Nodup
  present_created : forall id, id ∈ present -> id ∈ created
  settled_iff : forall id, id ∈ settled ↔ id ∈ created ∧ id ∉ present

namespace Accounts

variable {ι : Type u} {created present settled : List ι}

theorem empty : Accounts ([] : List ι) [] [] where
  once := List.nodup_nil
  present_created := fun _ member => member
  settled_iff := fun _ => ⟨fun member => absurd member List.not_mem_nil,
    fun both => absurd both.1 List.not_mem_nil⟩

/-- A new item becomes present. -/
theorem create (accounts : Accounts created present settled) {new : ι} (fresh : new ∉ created)
    {grown : List ι} (grown_iff : forall id, id ∈ grown ↔ id ∈ present ∨ id = new) :
    Accounts (created ++ [new]) grown settled where
  once := accounts.once
  present_created := by
    intro id member
    rcases (grown_iff id).mp member with old | same
    · exact List.mem_append_left _ (accounts.present_created id old)
    · exact List.mem_append_right _ (List.mem_singleton.mpr same)
  settled_iff := by
    intro id
    rw [accounts.settled_iff, grown_iff, List.mem_append, List.mem_singleton]
    constructor
    · rintro ⟨known, absent⟩
      refine ⟨Or.inl known, ?_⟩
      rintro (there | same)
      · exact absent there
      · exact fresh (same ▸ known)
    · rintro ⟨known | same, absent⟩
      · exact ⟨known, fun there => absent (Or.inl there)⟩
      · exact absurd (Or.inr same) absent

/-- Some of the present items are settled. -/
theorem settle (accounts : Accounts created present settled) {gone : List ι} (once : gone.Nodup)
    (there : forall id, id ∈ gone -> id ∈ present) {remaining : List ι}
    (remaining_iff : forall id, id ∈ remaining ↔ id ∈ present ∧ id ∉ gone) :
    Accounts created remaining (settled ++ gone) where
  once := by
    refine List.nodup_append.mpr ⟨accounts.once, once, ?_⟩
    intro first firstMember second secondMember same
    exact ((accounts.settled_iff first).mp firstMember).2 (same ▸ there second secondMember)
  present_created := fun id member =>
    accounts.present_created id ((remaining_iff id).mp member).1
  settled_iff := by
    intro id
    rw [List.mem_append, accounts.settled_iff, remaining_iff]
    constructor
    · rintro (⟨known, absent⟩ | leaving)
      · exact ⟨known, fun both => absent both.1⟩
      · exact ⟨accounts.present_created id (there id leaving), fun both => both.2 leaving⟩
    · rintro ⟨known, absent⟩
      by_cases leaving : id ∈ gone
      · exact Or.inr leaving
      · exact Or.inl ⟨known, fun stays => absent ⟨stays, leaving⟩⟩

end Accounts
end Foundations
end PetlibroRelay
