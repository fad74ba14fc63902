import Mathlib.Data.List.Basic
import Mathlib.Data.List.Induction
import Mathlib.Data.List.Nodup
import PetlibroRelay.Foundations.BoundedLog

namespace PetlibroRelay
namespace Foundations

/-!
# Insertion-ordered dictionaries

A dictionary is a list of keyed entries.  Assigning to a known key replaces
its value in place and assigning to a new key appends, which is what an
in-memory dictionary does and also what an upsert does on a table with a
primary key.  Lookup reads the first entry, so the lookup laws need no
uniqueness hypothesis.  Uniqueness of keys is kept by every operation and
matters only where entries are listed.
-/

universe u v

/-- Keyed entries in insertion order. -/
abbrev Dict (κ : Type u) (ν : Type v) := List (κ × ν)

namespace Dict

variable {κ : Type u} {ν : Type v} [DecidableEq κ]

def get? : Dict κ ν -> κ -> Option ν
  | [], _ => none
  | entry :: rest, key => if entry.1 = key then some entry.2 else Dict.get? rest key

/-- Assign a value, in place when the key is known. -/
def set : Dict κ ν -> κ -> ν -> Dict κ ν
  | [], key, value => [(key, value)]
  | entry :: rest, key, value =>
      if entry.1 = key then (key, value) :: rest else entry :: Dict.set rest key value

/-- Remove a key. -/
def erase (dict : Dict κ ν) (key : κ) : Dict κ ν :=
  dict.filter (fun entry => decide (entry.1 ≠ key))

/-- Assign all entries of the second dictionary, in order. -/
def update (dict updates : Dict κ ν) : Dict κ ν :=
  updates.foldl (fun result entry => Dict.set result entry.1 entry.2) dict

def keys (dict : Dict κ ν) : List κ :=
  dict.map Prod.fst

omit [DecidableEq κ] in
@[simp] theorem keys_nil : Dict.keys ([] : Dict κ ν) = [] := rfl

omit [DecidableEq κ] in
@[simp] theorem keys_cons (entry : κ × ν) (rest : Dict κ ν) :
    Dict.keys (entry :: rest) = entry.1 :: Dict.keys rest := rfl

@[simp] theorem get?_nil (key : κ) : Dict.get? ([] : Dict κ ν) key = none := rfl

theorem get?_cons (entry : κ × ν) (rest : Dict κ ν) (key : κ) :
    Dict.get? (entry :: rest) key = if entry.1 = key then some entry.2 else Dict.get? rest key :=
  rfl

theorem get?_set (dict : Dict κ ν) (key : κ) (value : ν) (other : κ) :
    Dict.get? (Dict.set dict key value) other =
      if key = other then some value else Dict.get? dict other := by
  induction dict with
  | nil => rfl
  | cons entry rest inductionHypothesis =>
      rw [set]
      by_cases known : entry.1 = key
      · rw [if_pos known, get?_cons, get?_cons]
        by_cases same : key = other
        · rw [if_pos same, if_pos same]
        · rw [if_neg same, if_neg same, if_neg (known.symm ▸ same)]
      · rw [if_neg known, get?_cons, get?_cons, inductionHypothesis]
        by_cases found : entry.1 = other
        · rw [if_pos found, if_pos found, if_neg (fun same => known (found.trans same.symm))]
        · rw [if_neg found, if_neg found]

@[simp] theorem get?_set_self (dict : Dict κ ν) (key : κ) (value : ν) :
    Dict.get? (Dict.set dict key value) key = some value := by
  rw [get?_set, if_pos rfl]

theorem get?_set_of_ne (dict : Dict κ ν) {key other : κ} (value : ν) (different : key ≠ other) :
    Dict.get? (Dict.set dict key value) other = Dict.get? dict other := by
  rw [get?_set, if_neg different]

/-- Deleting entries by a predicate on their keys. -/
theorem get?_filter_keys (dict : Dict κ ν) (keep : κ -> Bool) (key : κ) :
    Dict.get? (dict.filter (fun entry => keep entry.1)) key =
      if keep key then Dict.get? dict key else none := by
  induction dict with
  | nil => rw [List.filter_nil, get?_nil, ite_self]
  | cons entry rest inductionHypothesis =>
      rw [List.filter_cons, get?_cons]
      by_cases same : entry.1 = key
      · rw [if_pos same]
        by_cases kept : keep entry.1 = true
        · rw [if_pos kept, get?_cons, if_pos same, if_pos (same ▸ kept)]
        · rw [if_neg kept, inductionHypothesis, if_neg (same ▸ kept), if_neg (same ▸ kept)]
      · rw [if_neg same]
        split
        · rw [get?_cons, if_neg same, inductionHypothesis]
        · exact inductionHypothesis

theorem get?_erase (dict : Dict κ ν) (key other : κ) :
    Dict.get? (Dict.erase dict key) other =
      if key = other then none else Dict.get? dict other := by
  rw [erase, get?_filter_keys dict (fun candidate => decide (candidate ≠ key)) other]
  by_cases same : key = other
  · rw [if_pos same, if_neg (by simp only [same, ne_eq, not_true_eq_false, decide_false,
      Bool.false_eq_true, not_false_eq_true])]
  · have kept : other ≠ key := fun equal => same equal.symm
    rw [if_neg same, if_pos (decide_eq_true kept)]

theorem get?_erase_of_ne (dict : Dict κ ν) {key other : κ} (different : key ≠ other) :
    Dict.get? (Dict.erase dict key) other = Dict.get? dict other := by
  rw [get?_erase, if_neg different]

/-- Changing the values under their keys. -/
theorem get?_mapValues {μ : Type v} (dict : Dict κ ν) (change : κ -> ν -> μ) (key : κ) :
    Dict.get? (dict.map (fun entry => (entry.1, change entry.1 entry.2))) key =
      (Dict.get? dict key).map (change key) := by
  induction dict with
  | nil => rfl
  | cons entry rest inductionHypothesis =>
      rw [List.map_cons, get?_cons, get?_cons, inductionHypothesis]
      by_cases same : entry.1 = key
      · rw [if_pos same, if_pos same, Option.map_some, same]
      · rw [if_neg same, if_neg same]

theorem mem_of_get?_eq_some {dict : Dict κ ν} {key : κ} {value : ν}
    (found : Dict.get? dict key = some value) : (key, value) ∈ dict := by
  induction dict with
  | nil => cases found
  | cons entry rest inductionHypothesis =>
      rw [get?_cons] at found
      by_cases same : entry.1 = key
      · rw [if_pos same] at found
        have equal : (key, value) = entry := Prod.ext same.symm (Option.some.inj found).symm
        rw [equal]
        exact List.mem_cons_self
      · rw [if_neg same] at found
        exact List.mem_cons_of_mem _ (inductionHypothesis found)

theorem get?_eq_none_iff (dict : Dict κ ν) (key : κ) :
    Dict.get? dict key = none ↔ key ∉ Dict.keys dict := by
  induction dict with
  | nil => simp only [get?_nil, keys_nil, List.not_mem_nil, not_false_eq_true]
  | cons entry rest inductionHypothesis =>
      rw [get?_cons, keys_cons, List.mem_cons, not_or]
      by_cases same : entry.1 = key
      · rw [if_pos same]
        exact ⟨fun impossible => absurd impossible (Option.some_ne_none _),
          fun absent => absurd same.symm absent.1⟩
      · rw [if_neg same, inductionHypothesis]
        exact ⟨fun absent => ⟨fun equal => same equal.symm, absent⟩, fun absent => absent.2⟩

/-- Removing a key that is not there changes nothing. -/
theorem erase_of_get?_eq_none {dict : Dict κ ν} {key : κ} (absent : Dict.get? dict key = none) :
    Dict.erase dict key = dict := by
  refine List.filter_eq_self.mpr ?_
  intro entry member
  refine decide_eq_true ?_
  intro same
  rw [get?_eq_none_iff] at absent
  exact absent (List.mem_map.mpr ⟨entry, member, same⟩)

/-- With unique keys, the entries of the list are what lookup finds. -/
theorem get?_eq_some_of_mem {dict : Dict κ ν} (unique : (Dict.keys dict).Nodup) {key : κ}
    {value : ν} (member : (key, value) ∈ dict) : Dict.get? dict key = some value := by
  induction dict with
  | nil => cases member
  | cons entry rest inductionHypothesis =>
      have parts := List.nodup_cons.mp unique
      rw [get?_cons]
      rcases List.mem_cons.mp member with same | later
      · rw [← same, if_pos rfl]
      · have different : entry.1 ≠ key := by
          intro equal
          refine parts.1 ?_
          rw [equal]
          exact List.mem_map_of_mem later
        rw [if_neg different]
        exact inductionHypothesis parts.2 later

/-- With unique keys, deleting entries by a predicate on the whole entry. -/
theorem get?_filter {dict : Dict κ ν} (unique : (Dict.keys dict).Nodup) (keep : κ × ν -> Bool)
    (key : κ) :
    Dict.get? (dict.filter keep) key =
      (Dict.get? dict key).filter (fun value => keep (key, value)) := by
  have uniqueKept : (Dict.keys (dict.filter keep)).Nodup :=
    (List.filter_sublist.map Prod.fst).nodup unique
  cases found : Dict.get? (dict.filter keep) key with
  | some value =>
      have member := List.mem_filter.mp (mem_of_get?_eq_some found)
      rw [get?_eq_some_of_mem unique member.1, Option.filter_some, if_pos member.2]
  | none =>
      symm
      rw [Option.filter_eq_none_iff]
      intro value stored kept
      have member := List.mem_filter.mpr ⟨mem_of_get?_eq_some stored, kept⟩
      rw [get?_eq_some_of_mem uniqueKept member] at found
      cases found

theorem keys_set (dict : Dict κ ν) (key : κ) (value : ν) :
    Dict.keys (Dict.set dict key value) =
      if key ∈ Dict.keys dict then Dict.keys dict else Dict.keys dict ++ [key] := by
  induction dict with
  | nil => rfl
  | cons entry rest inductionHypothesis =>
      rw [set]
      by_cases known : entry.1 = key
      · rw [if_pos known, if_pos (known ▸ List.mem_cons_self), keys_cons, keys_cons, known]
      · rw [if_neg known, keys_cons, keys_cons, inductionHypothesis]
        by_cases member : key ∈ Dict.keys rest
        · rw [if_pos member, if_pos (List.mem_cons_of_mem _ member)]
        · have absent : key ∉ entry.1 :: Dict.keys rest := by
            intro either
            rcases List.mem_cons.mp either with same | later
            · exact known same.symm
            · exact member later
          rw [if_neg member, if_neg absent, List.cons_append]

theorem nodup_keys_set (dict : Dict κ ν) (key : κ) (value : ν)
    (unique : (Dict.keys dict).Nodup) : (Dict.keys (Dict.set dict key value)).Nodup := by
  rw [keys_set]
  split
  · exact unique
  · next fresh =>
      refine List.nodup_append.mpr ⟨unique, List.nodup_singleton key, ?_⟩
      intro first firstMember second secondMember same
      rw [List.mem_singleton.mp secondMember] at same
      exact fresh (same ▸ firstMember)

theorem mem_set {dict : Dict κ ν} {key : κ} {value : ν} {entry : κ × ν}
    (member : entry ∈ Dict.set dict key value) : entry ∈ dict ∨ entry = (key, value) := by
  induction dict with
  | nil => exact Or.inr (List.mem_singleton.mp member)
  | cons first rest inductionHypothesis =>
      rw [set] at member
      split at member
      · rcases List.mem_cons.mp member with new | old
        · exact Or.inr new
        · exact Or.inl (List.mem_cons_of_mem _ old)
      · rcases List.mem_cons.mp member with old | later
        · exact Or.inl (old ▸ List.mem_cons_self)
        · rcases inductionHypothesis later with old | new
          · exact Or.inl (List.mem_cons_of_mem _ old)
          · exact Or.inr new

/-! ## Assigning many entries -/

theorem mem_update {dict updates : Dict κ ν} {entry : κ × ν}
    (member : entry ∈ Dict.update dict updates) : entry ∈ dict ∨ entry ∈ updates := by
  induction updates generalizing dict with
  | nil => exact Or.inl member
  | cons first rest inductionHypothesis =>
      rcases inductionHypothesis member with early | later
      · rcases mem_set early with old | new
        · exact Or.inl old
        · exact Or.inr (new ▸ List.mem_cons_self)
      · exact Or.inr (List.mem_cons_of_mem _ later)

theorem nodup_keys_update (dict updates : Dict κ ν) (unique : (Dict.keys dict).Nodup) :
    (Dict.keys (Dict.update dict updates)).Nodup := by
  induction updates generalizing dict with
  | nil => exact unique
  | cons entry rest inductionHypothesis =>
      exact inductionHypothesis _ (nodup_keys_set dict entry.1 entry.2 unique)

/-- The last assignment to a key counts, and without one the old value stays. -/
theorem get?_update (dict updates : Dict κ ν) (key : κ) :
    Dict.get? (Dict.update dict updates) key =
      ((lastWhere (fun entry => decide (entry.1 = key)) updates).map Prod.snd).or
        (Dict.get? dict key) := by
  induction updates using List.reverseRecOn with
  | nil => rfl
  | append_singleton earlier entry inductionHypothesis =>
      have last : Dict.update dict (earlier ++ [entry]) =
          Dict.set (Dict.update dict earlier) entry.1 entry.2 := by
        rw [update, List.foldl_append]
        rfl
      rw [last, get?_set, lastWhere_concat, inductionHypothesis]
      by_cases same : entry.1 = key
      · rw [if_pos same, if_pos (decide_eq_true same), Option.map_some, Option.some_or]
      · rw [if_neg same, if_neg (by rw [decide_eq_true_eq]; exact same)]

/-- What the second dictionary assigns, for itself, and the old values otherwise. -/
theorem get?_update_or (dict updates : Dict κ ν) (key : κ) :
    Dict.get? (Dict.update dict updates) key =
      (Dict.get? (Dict.update [] updates) key).or (Dict.get? dict key) := by
  rw [get?_update, get?_update, get?_nil, Option.or_none]

/-- With unique keys the last entry of a key is the one lookup finds. -/
theorem lastWhere_key (dict : Dict κ ν) (unique : (Dict.keys dict).Nodup) (key : κ) :
    (lastWhere (fun entry => decide (entry.1 = key)) dict).map Prod.snd = Dict.get? dict key := by
  cases found : lastWhere (fun entry => decide (entry.1 = key)) dict with
  | none =>
      symm
      rw [Option.map_none, get?_eq_none_iff]
      intro member
      rcases List.mem_map.mp member with ⟨entry, entryMember, same⟩
      exact (lastWhere_eq_none_iff _ _).mp found entry entryMember (decide_eq_true same)
  | some entry =>
      have facts := mem_of_lastWhere found
      rw [Option.map_some]
      symm
      apply get?_eq_some_of_mem unique
      rw [← of_decide_eq_true facts.2]
      exact facts.1

/-- The entries of a table whose keys have two parts, for one first part. -/
def forFirst {ι : Type u} [DecidableEq ι] (table : Dict (ι × κ) ν) (first : ι) : Dict κ ν :=
  (table.filter (fun entry => decide (entry.1.1 = first))).map
    (fun entry => (entry.1.2, entry.2))

/-- Setting a value reaches the entries of its own first part only. -/
theorem forFirst_set {ι : Type u} [DecidableEq ι] (table : Dict (ι × κ) ν) (first : ι) (key : κ)
    (value : ν) (owner : ι) :
    forFirst (Dict.set table (first, key) value) owner =
      if first = owner then Dict.set (forFirst table owner) key value
      else forFirst table owner := by
  induction table with
  | nil =>
      by_cases same : first = owner
      · simp only [Dict.set, forFirst, same, List.filter_cons, decide_true, if_true,
          List.filter_nil, List.map_cons, List.map_nil]
      · simp only [Dict.set, forFirst, same, List.filter_cons, decide_false, Bool.false_eq_true,
          if_false, List.filter_nil, List.map_nil]
  | cons entry rest inductionHypothesis =>
      simp only [forFirst] at inductionHypothesis
      by_cases found : entry.1 = (first, key)
      · by_cases same : first = owner
        · simp only [Dict.set, forFirst, found, same, List.filter_cons, decide_true, if_true,
            List.map_cons]
        · simp only [Dict.set, forFirst, found, same, List.filter_cons, decide_false,
            Bool.false_eq_true, if_true, if_false]
      · by_cases own : entry.1.1 = owner
        · by_cases same : first = owner
          · subst same
            have other : entry.1.2 ≠ key := fun equal => found (Prod.ext own equal)
            simp only [if_true] at inductionHypothesis
            simp only [Dict.set, forFirst, found, own, other, List.filter_cons, decide_true,
              if_true, if_false, List.map_cons, inductionHypothesis]
          · simp only [same, if_false] at inductionHypothesis
            simp only [Dict.set, forFirst, found, own, same, List.filter_cons, decide_true, if_true,
              if_false, List.map_cons, inductionHypothesis]
        · simp only [Dict.set, forFirst, found, own, List.filter_cons, decide_false,
            Bool.false_eq_true, if_false, inductionHypothesis]

/-- Entries under other first parts do not reach those of a first part. -/
theorem forFirst_update_of_foreign {ι : Type u} [DecidableEq ι] (table updates : Dict (ι × κ) ν)
    {owner : ι} (foreign : forall entry, entry ∈ updates -> entry.1.1 ≠ owner) :
    forFirst (Dict.update table updates) owner = forFirst table owner := by
  induction updates generalizing table with
  | nil => rfl
  | cons entry rest inductionHypothesis =>
      have later := inductionHypothesis (Dict.set table entry.1 entry.2)
        (fun other member => foreign other (List.mem_cons_of_mem _ member))
      refine later.trans ?_
      exact (forFirst_set table entry.1.1 entry.1.2 entry.2 owner).trans
        (if_neg (foreign entry List.mem_cons_self))

omit [DecidableEq κ] in
theorem forFirst_filter_of_kept {ι : Type u} [DecidableEq ι] (table : Dict (ι × κ) ν)
    {owner : ι} {keep : (ι × κ) × ν -> Bool}
    (kept : forall entry, entry.1.1 = owner -> keep entry = true) :
    forFirst (table.filter keep) owner = forFirst table owner := by
  rw [forFirst, forFirst, List.filter_filter]
  congr 1
  apply List.filter_congr
  intro entry _
  by_cases own : entry.1.1 = owner
  · rw [kept entry own, Bool.and_true]
  · rw [decide_eq_false own, Bool.false_and]

theorem set_of_not_mem {dict : Dict κ ν} {key : κ} (absent : key ∉ Dict.keys dict) (value : ν) :
    Dict.set dict key value = dict ++ [(key, value)] := by
  induction dict with
  | nil => rfl
  | cons entry rest inductionHypothesis =>
      rw [keys_cons, List.mem_cons, not_or] at absent
      rw [Dict.set, if_neg (fun same => absent.1 same.symm), inductionHypothesis absent.2,
        List.cons_append]

/-- Updates under new keys are appended. -/
theorem update_of_fresh {dict updates : Dict κ ν} (unique : (Dict.keys updates).Nodup)
    (fresh : forall key, key ∈ Dict.keys updates -> key ∉ Dict.keys dict) :
    Dict.update dict updates = dict ++ updates := by
  induction updates generalizing dict with
  | nil => exact (List.append_nil dict).symm
  | cons entry rest inductionHypothesis =>
      rw [keys_cons, List.nodup_cons] at unique
      have added := set_of_not_mem (fresh entry.1 List.mem_cons_self) entry.2
      have later : forall key, key ∈ Dict.keys rest ->
          key ∉ Dict.keys (Dict.set dict entry.1 entry.2) := by
        intro key member
        rw [added, Dict.keys, List.map_append, List.mem_append, not_or]
        refine ⟨fresh key (List.mem_cons_of_mem _ member), ?_⟩
        rw [List.map_singleton, List.mem_singleton]
        exact fun same => unique.1 (same ▸ member)
      refine (inductionHypothesis unique.2 later).trans ?_
      rw [added, List.append_assoc]
      rfl

end Dict
end Foundations
end PetlibroRelay
