import Mathlib.Data.List.Dedup
import Mathlib.Data.List.Perm.Basic
import Mathlib.Data.List.Perm.Subperm

namespace PetlibroRelay
namespace Foundations

/-!
# Parties that hold things

In a list of parties each holds at most one thing, which a function names.  What they hold
together is the list of these things.  A party that takes a thing or gives it up changes
that list by one, and where no thing is held twice, the holder of a thing is one place of
the list.
-/

universe u v

namespace Holders

variable {Party : Type u} {Thing : Type v} {hold : Party -> Option Thing} {parties : List Party}
  {place : Nat} {own next : Party} {thing : Thing}

/-- A party that changes, but not in what it holds. -/
theorem filterMap_set_same (found : parties[place]? = some own) (same : hold next = hold own) :
    (parties.set place next).filterMap hold = parties.filterMap hold := by
  induction parties generalizing place with
  | nil => cases found
  | cons party rest inductionHypothesis =>
      cases place with
      | zero =>
          cases found
          rw [List.set_cons_zero, List.filterMap_cons, List.filterMap_cons, same]
      | succ place =>
          rw [List.set_cons_succ, List.filterMap_cons, List.filterMap_cons,
            inductionHypothesis found]

/-- A party gives up what it holds. -/
theorem filterMap_set_released (found : parties[place]? = some own)
    (held : hold own = some thing) (released : hold next = none) :
    (parties.filterMap hold).Perm (thing :: (parties.set place next).filterMap hold) := by
  induction parties generalizing place with
  | nil => cases found
  | cons party rest inductionHypothesis =>
      cases place with
      | zero =>
          cases found
          rw [List.set_cons_zero, List.filterMap_cons_some held, List.filterMap_cons_none released]
      | succ place =>
          rw [List.set_cons_succ]
          cases other : hold party with
          | none =>
              rw [List.filterMap_cons_none other, List.filterMap_cons_none other]
              exact inductionHypothesis found
          | some further =>
              rw [List.filterMap_cons_some other, List.filterMap_cons_some other]
              exact ((inductionHypothesis found).cons further).trans (List.Perm.swap _ _ _)

/-- A party takes a thing. -/
theorem filterMap_set_taken (found : parties[place]? = some own) (free : hold own = none)
    (taken : hold next = some thing) :
    ((parties.set place next).filterMap hold).Perm (thing :: parties.filterMap hold) := by
  obtain ⟨inside, same⟩ := List.getElem?_eq_some_iff.mp found
  have placed : (parties.set place next)[place]? = some next := List.getElem?_set_self inside
  have perm : ((parties.set place next).filterMap hold).Perm
      (thing :: ((parties.set place next).set place own).filterMap hold) :=
    filterMap_set_released placed taken free
  rw [List.set_set, ← same, List.set_getElem_self] at perm
  exact perm

/-- A change of the holder of a thing that nobody holds changes nobody. -/
theorem map_eq_self_of_free {change : Party -> Party}
    (others : forall party, hold party ≠ some thing -> change party = party)
    (free : thing ∉ parties.filterMap hold) : parties.map change = parties := by
  refine (List.map_congr_left fun party member => ?_).trans parties.map_id
  refine others party fun holds => free ?_
  exact List.mem_filterMap.mpr ⟨party, member, holds⟩

/-- A change of the holder of a thing changes one place. -/
theorem map_eq_set_of_holder {change : Party -> Party}
    (others : forall party, hold party ≠ some thing -> change party = party)
    (distinct : (parties.filterMap hold).Nodup) (found : parties[place]? = some own)
    (held : hold own = some thing) : parties.map change = parties.set place (change own) := by
  induction parties generalizing place with
  | nil => cases found
  | cons party rest inductionHypothesis =>
      cases place with
      | zero =>
          cases found
          rw [List.filterMap_cons_some held, List.nodup_cons] at distinct
          rw [List.map_cons, List.set_cons_zero, map_eq_self_of_free others distinct.1]
      | succ place =>
          rw [List.map_cons, List.set_cons_succ]
          have later : thing ∈ rest.filterMap hold :=
            List.mem_filterMap.mpr ⟨own, List.mem_of_getElem? found, held⟩
          cases other : hold party with
          | none =>
              rw [List.filterMap_cons_none other] at distinct
              rw [inductionHypothesis distinct found, others party (by rw [other]; rintro ⟨⟩)]
          | some further =>
              rw [List.filterMap_cons_some other, List.nodup_cons] at distinct
              rw [inductionHypothesis distinct.2 found, others party]
              rintro same
              rw [other] at same
              cases same
              exact distinct.1 later

/-- Distinct numbers of exactly the selected places are as many as these. -/
theorem length_eq_countP {Item : Type u} {items : List Item} {selected : Item -> Bool}
    {numbers : List Nat} (distinct : numbers.Nodup)
    (exactly : forall number, number ∈ numbers ↔
      exists item, items[number]? = some item ∧ selected item = true) :
    numbers.length = items.countP selected := by
  rw [← List.length_findIdxs (s := 0)]
  refine List.Perm.length_eq ((List.perm_ext_iff_of_nodup distinct List.nodup_findIdxs).mpr ?_)
  intro number
  rw [exactly, List.mem_findIdxs_iff_exists_getElem_pos]
  constructor
  · rintro ⟨item, found, holds⟩
    obtain ⟨inside, same⟩ := List.getElem?_eq_some_iff.mp found
    exact ⟨inside, same ▸ holds⟩
  · rintro ⟨inside, holds⟩
    exact ⟨_, List.getElem?_eq_getElem inside, holds⟩

end Holders
end Foundations
end PetlibroRelay
