import Mathlib.Data.List.Induction
import Mathlib.Data.List.Nodup

namespace PetlibroRelay
namespace Foundations

/-!
# Logs

The abstract content of one partition of a durable queue is a list.  Adding
an entry first drops the entries it supersedes, then appends it, and then
keeps only the newest entries up to a limit.

Unbounded logs record what has happened, and are asked for their last entry
with a given property.  A log of partial assignments is applied to a map in
order, and its last entries decide the result.
-/

universe u v

variable {α : Type u}

/-- The last entries of a list, at most `limit` of them. -/
def keepLast (limit : Nat) (entries : List α) : List α :=
  entries.drop (entries.length - limit)

theorem keepLast_length_le (limit : Nat) (entries : List α) :
    (keepLast limit entries).length ≤ limit := by
  rw [keepLast, List.length_drop]
  omega

theorem keepLast_sublist (limit : Nat) (entries : List α) :
    (keepLast limit entries).Sublist entries :=
  List.drop_sublist _ _

/-- With room for one entry, the newest one is kept, and kept last. -/
theorem keepLast_concat_getLast (limit : Nat) (room : 1 ≤ limit) (entries : List α) (new : α) :
    (keepLast limit (entries ++ [new])).getLast? = some new := by
  have short : (entries ++ [new]).length - limit ≤ entries.length := by
    rw [List.length_append, List.length_singleton]
    omega
  rw [keepLast, List.drop_append_of_le_length short, List.getLast?_append, List.getLast?_singleton,
    Option.some_or]

/-- Within the limit nothing is dropped. -/
theorem keepLast_of_length_le (limit : Nat) (entries : List α) (fits : entries.length ≤ limit) :
    keepLast limit entries = entries := by
  rw [keepLast, Nat.sub_eq_zero_of_le fits, List.drop_zero]

/-- What was dropped before would be dropped now. -/
theorem keepLast_keepLast_concat (limit : Nat) (entries : List α) (new : α) :
    keepLast limit (keepLast limit entries ++ [new]) = keepLast limit (entries ++ [new]) := by
  have kept : keepLast limit entries ++ [new] =
      (entries ++ [new]).drop (entries.length - limit) := by
    rw [keepLast, List.drop_append_of_le_length (Nat.sub_le _ _)]
  rw [kept, keepLast, keepLast, List.drop_drop, List.length_drop, List.length_append,
    List.length_singleton]
  congr 1
  omega

namespace BoundedLog

/-- Drop what the new entry supersedes, append it, keep the newest. -/
def add (limit : Nat) (supersedes : α -> Bool) (new : α) (entries : List α) : List α :=
  keepLast limit (entries.filter (fun entry => !supersedes entry) ++ [new])

theorem add_length_le (limit : Nat) (supersedes : α -> Bool) (new : α) (entries : List α) :
    (add limit supersedes new entries).length ≤ limit :=
  keepLast_length_le limit _

theorem add_getLast (limit : Nat) (room : 1 ≤ limit) (supersedes : α -> Bool) (new : α)
    (entries : List α) : (add limit supersedes new entries).getLast? = some new :=
  keepLast_concat_getLast limit room _ new

/-- An entry with a mark supersedes the entries with the same mark, and an
unmarked entry supersedes nothing. -/
def sameMark {κ : Type v} [DecidableEq κ] (mark : α -> Option κ) (new entry : α) : Bool :=
  (mark new).isSome && decide (mark entry = mark new)

/-- Marks stay unique when new entries supersede the ones with their mark. -/
theorem add_unique_marks {κ : Type v} [DecidableEq κ] (mark : α -> Option κ) (limit : Nat)
    (new : α) (entries : List α)
    (unique : entries.Pairwise (fun first second =>
      mark first = none ∨ mark first ≠ mark second)) :
    (add limit (sameMark mark new) new entries).Pairwise (fun first second =>
      mark first = none ∨ mark first ≠ mark second) := by
  refine List.Pairwise.sublist (keepLast_sublist limit _) ?_
  rw [List.pairwise_append]
  refine ⟨unique.filter _, List.pairwise_singleton _ _, ?_⟩
  intro old oldMember added addedMember
  rw [List.mem_singleton.mp addedMember]
  have survives := (List.mem_filter.mp oldMember).2
  by_cases unmarked : mark old = none
  · exact Or.inl unmarked
  · refine Or.inr (fun same => ?_)
    have marked : (mark new).isSome = true := by
      rw [← same]
      exact Option.isSome_iff_ne_none.mpr unmarked
    simp only [sameMark, marked, same, decide_true, Bool.and_true, Bool.not_true,
      Bool.false_eq_true] at survives

end BoundedLog

/-! ## The last entry with a property -/

/-- The last entry that satisfies the predicate. -/
def lastWhere (selected : α -> Bool) (entries : List α) : Option α :=
  (entries.filter selected).getLast?

@[simp] theorem lastWhere_nil (selected : α -> Bool) : lastWhere selected [] = none := rfl

theorem lastWhere_concat (selected : α -> Bool) (entries : List α) (new : α) :
    lastWhere selected (entries ++ [new]) =
      if selected new then some new else lastWhere selected entries := by
  rw [lastWhere, List.filter_append, List.filter_cons, List.filter_nil]
  split
  · rw [List.getLast?_append, List.getLast?_singleton, Option.some_or]
  · rw [List.append_nil]
    rfl

theorem lastWhere_filter (selected kept : α -> Bool) (entries : List α) :
    lastWhere selected (entries.filter kept) =
      lastWhere (fun entry => selected entry && kept entry) entries := by
  rw [lastWhere, lastWhere, List.filter_filter]

theorem lastWhere_map {β : Type v} (selected : β -> Bool) (image : α -> β) (entries : List α) :
    lastWhere selected (entries.map image) =
      (lastWhere (fun entry => selected (image entry)) entries).map image := by
  rw [lastWhere, List.filter_map, List.getLast?_map]
  rfl

theorem lastWhere_congr {first second : α -> Bool} {entries : List α}
    (same : forall entry, entry ∈ entries -> first entry = second entry) :
    lastWhere first entries = lastWhere second entries := by
  rw [lastWhere, lastWhere, List.filter_congr same]

theorem mem_of_lastWhere {selected : α -> Bool} {entries : List α} {last : α}
    (found : lastWhere selected entries = some last) : last ∈ entries ∧ selected last = true :=
  List.mem_filter.mp (List.mem_of_getLast? found)

theorem lastWhere_eq_none_iff (selected : α -> Bool) (entries : List α) :
    lastWhere selected entries = none ↔ forall entry, entry ∈ entries -> ¬ selected entry = true := by
  rw [lastWhere, List.getLast?_eq_none_iff, List.filter_eq_nil_iff]

/-- A selected entry that no other selected entry differs from is the last. -/
theorem lastWhere_of_unique {selected : α -> Bool} {entries : List α} {entry : α}
    (member : entry ∈ entries) (holds : selected entry = true)
    (unique : forall other, other ∈ entries -> selected other = true -> other = entry) :
    lastWhere selected entries = some entry := by
  cases found : lastWhere selected entries with
  | none => exact absurd holds ((lastWhere_eq_none_iff _ _).mp found entry member)
  | some last =>
      have facts := mem_of_lastWhere found
      rw [unique last facts.1 facts.2]

/-- The last entry of the log is the last one with a property it has. -/
theorem lastWhere_of_getLast {selected : α -> Bool} {entries : List α} {last : α}
    (ends : entries.getLast? = some last) (holds : selected last = true) :
    lastWhere selected entries = some last := by
  rcases List.getLast?_eq_some_iff.mp ends with ⟨earlier, same⟩
  rw [same, lastWhere_concat, if_pos holds]

/-- In a log whose selected entries are in order the last of them has the largest
key. -/
theorem le_of_lastWhere {selected : α -> Bool} {entries : List α} (key : α -> Nat)
    (ordered : entries.Pairwise (fun first second =>
      selected first = true -> selected second = true -> key first ≤ key second)) {last : α}
    (found : lastWhere selected entries = some last) {entry : α} (member : entry ∈ entries)
    (holds : selected entry = true) : key entry ≤ key last := by
  have lastHolds := (mem_of_lastWhere found).2
  rcases List.getLast?_eq_some_iff.mp found with ⟨earlier, same⟩
  have kept := (ordered.filter selected)
  have inside : entry ∈ entries.filter selected := List.mem_filter.mpr ⟨member, holds⟩
  rw [same] at kept inside
  rcases List.mem_append.mp inside with before | itself
  · exact (List.pairwise_append.mp kept).2.2 entry before last (List.mem_singleton.mpr rfl) holds
      lastHolds
  · exact Nat.le_of_eq (congrArg key (List.mem_singleton.mp itself))

/-- In a log with increasing positions a position belongs to one entry. -/
theorem eq_of_position {entries : List α} {position : α -> Nat}
    (increasing : entries.Pairwise (fun earlier later => position earlier < position later))
    {first second : α} (firstMember : first ∈ entries) (secondMember : second ∈ entries)
    (same : position first = position second) : first = second := by
  have positions : (entries.map position).Nodup :=
    List.pairwise_map.mpr (increasing.imp (fun less => Nat.ne_of_lt less))
  exact List.inj_on_of_nodup_map positions firstMember secondMember same

/-- Two logs end in the same selected entry when both are in the order of the
positions, the first has no selected entry of its own, and it has the last one of
the second. -/
theorem lastWhere_eq_of_ordered {selected : α -> Bool} {first second : List α}
    (position : α -> Nat)
    (forward : forall entry, entry ∈ first -> selected entry = true -> entry ∈ second)
    (reached : forall last, lastWhere selected second = some last -> last ∈ first)
    (firstOrdered : first.Pairwise (fun earlier later =>
      selected earlier = true -> selected later = true -> position earlier ≤ position later))
    (secondOrdered : second.Pairwise (fun earlier later => position earlier < position later)) :
    lastWhere selected first = lastWhere selected second := by
  cases found : lastWhere selected second with
  | none =>
      rw [lastWhere_eq_none_iff] at found ⊢
      intro entry member holds
      exact found entry (forward entry member holds) holds
  | some last =>
      rcases mem_of_lastWhere found with ⟨member, holds⟩
      have inFirst := reached last found
      cases ending : lastWhere selected first with
      | none => exact absurd holds ((lastWhere_eq_none_iff _ _).mp ending last inFirst)
      | some other =>
          rcases mem_of_lastWhere ending with ⟨otherMember, otherHolds⟩
          have inSecond := forward other otherMember otherHolds
          have upper : position other ≤ position last :=
            le_of_lastWhere position (secondOrdered.imp (fun less _ _ => Nat.le_of_lt less)) found
              inSecond otherHolds
          have lower : position last ≤ position other :=
            le_of_lastWhere position firstOrdered ending inFirst holds
          rw [eq_of_position secondOrdered inSecond member (Nat.le_antisymm upper lower)]

/-! ## Overriding a map -/

section Override

variable {κ : Type u} {ν : Type v}

/-- An entry that overrides a map at the keys it writes. -/
def override (writes : α -> κ -> Bool) (value : α -> κ -> ν) (map : κ -> ν) (entry : α) : κ -> ν :=
  fun key => if writes entry key then value entry key else map key

/-- After a log of overrides a key has the value of the last entry that wrote it. -/
theorem foldl_override (writes : α -> κ -> Bool) (value : α -> κ -> ν) (initial : κ -> ν)
    (entries : List α) (key : κ) :
    entries.foldl (override writes value) initial key =
      ((lastWhere (fun entry => writes entry key) entries).map
        (fun entry => value entry key)).getD (initial key) := by
  induction entries using List.reverseRecOn with
  | nil => rfl
  | append_singleton entries entry inductionHypothesis =>
      rw [List.foldl_append, List.foldl_cons, List.foldl_nil, override, lastWhere_concat,
        inductionHypothesis]
      split
      · rw [Option.map_some, Option.getD_some]
      · rfl

end Override

end Foundations
end PetlibroRelay
