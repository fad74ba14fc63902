import Mathlib.Data.List.Basic
import Mathlib.Data.List.Range
import PetlibroRelay.Foundations.BoundedLog

namespace PetlibroRelay
namespace Foundations

/-!
# Numbered logs and their readers

Entries of a log are numbered as they are written, from one on.  A reader that
asks for what is newer than a number gets the end of the log from there, or less
where a bounded store has dropped its oldest entries.
-/

universe u

namespace NumberedLog

variable {α : Type u} {number : α -> Nat}

/-- The entries have the numbers from one on, in their order. -/
def Numbered (number : α -> Nat) (log : List α) : Prop :=
  log.map number = List.range' 1 log.length

theorem numbered_nil : Numbered number [] := rfl

theorem Numbered.concat {log : List α} (numbered : Numbered number log) {entry : α}
    (next : number entry = log.length + 1) : Numbered number (log ++ [entry]) := by
  rw [Numbered, List.map_append, numbered, List.map_singleton, next, List.length_append,
    List.length_singleton, List.range'_1_concat, Nat.add_comm 1]

theorem Numbered.number_getElem {log : List α} (numbered : Numbered number log) (index : Nat)
    (inside : index < log.length) : number log[index] = index + 1 := by
  have same : (log.map number)[index]? = (List.range' 1 log.length)[index]? := by rw [numbered]
  rw [List.getElem?_map, List.getElem?_eq_getElem inside, Option.map_some,
    List.getElem?_range' inside, Option.some_inj] at same
  omega

theorem Numbered.increasing {log : List α} (numbered : Numbered number log) :
    log.Pairwise (fun earlier later => number earlier < number later) := by
  rw [← List.pairwise_map, numbered]
  exact List.pairwise_lt_range'

/-- What is dropped from the start has the numbers up to there. -/
theorem Numbered.lt_of_mem_drop {log : List α} (numbered : Numbered number log) {count : Nat}
    {entry : α} (member : entry ∈ log.drop count) : count < number entry := by
  obtain ⟨index, inside, rfl⟩ := List.getElem_of_mem member
  rw [List.getElem_drop, numbered.number_getElem]
  omega

theorem Numbered.le_of_mem_take {log : List α} (numbered : Numbered number log) {count : Nat}
    {entry : α} (member : entry ∈ log.take count) : number entry ≤ count := by
  obtain ⟨index, inside, rfl⟩ := List.getElem_of_mem member
  rw [List.length_take] at inside
  rw [List.getElem_take, numbered.number_getElem]
  omega

/-- The entries with larger numbers are the end of the log. -/
theorem Numbered.filter_newer {log : List α} (numbered : Numbered number log) (after : Nat) :
    log.filter (fun entry => decide (after < number entry)) = log.drop after := by
  conv_lhs => rw [← List.take_append_drop after log]
  rw [List.filter_append, List.filter_eq_nil_iff.mpr, List.nil_append,
    List.filter_eq_self.mpr]
  · intro entry member
    exact decide_eq_true (numbered.lt_of_mem_drop member)
  · intro entry member newer
    exact absurd (of_decide_eq_true newer) (Nat.not_lt.mpr (numbered.le_of_mem_take member))

/-- What a bounded store still has of the newer entries. -/
theorem Numbered.filter_newer_keepLast {log : List α} (numbered : Numbered number log)
    (capacity after : Nat) :
    (keepLast capacity log).filter (fun entry => decide (after < number entry)) =
      log.drop (max after (log.length - capacity)) := by
  rw [keepLast, ← numbered.filter_newer (log.length - capacity), List.filter_filter,
    ← numbered.filter_newer (max after (log.length - capacity))]
  refine List.filter_congr fun entry _ => ?_
  rw [← Bool.decide_and, decide_eq_decide]
  omega

/-- The number of the last entry of a stretch that goes to the end. -/
theorem Numbered.getLast?_drop {log : List α} (numbered : Numbered number log) {count : Nat}
    (inside : count < log.length) : (log.drop count).getLast?.map number = some log.length := by
  rw [List.getLast?_drop, if_neg (Nat.not_le.mpr inside), List.getLast?_eq_getElem?,
    List.getElem?_eq_getElem (by omega), Option.map_some,
    numbered.number_getElem _ (by omega)]
  congr 1
  omega

/-! ## Readers -/

/-- What has been read since a number, up to another, is part of the log between the two. -/
def Reads (log : List α) (after reach : Nat) (read : List α) : Prop :=
  read.Sublist ((log.take reach).drop after)

/-- Nothing of the log between the two numbers was missed. -/
def ReadsAll (log : List α) (after reach : Nat) (read : List α) : Prop :=
  read = (log.take reach).drop after

theorem ReadsAll.reads {log read : List α} {after reach : Nat}
    (all : ReadsAll log after reach read) : Reads log after reach read := by
  rw [Reads, ← all]

/-- Where a reader stands: inside the log, or before its first entry. -/
def Placed (log : List α) (after reach : Nat) : Prop :=
  after ≤ reach ∧ (reach ≤ log.length ∨ reach = after)

theorem Placed.concat {log : List α} {after reach : Nat} (placed : Placed log after reach)
    (entry : α) : Placed (log ++ [entry]) after reach := by
  refine ⟨placed.1, placed.2.imp (fun inside => ?_) id⟩
  rw [List.length_append]
  omega

/-- New entries do not change the part of the log before a reader. -/
theorem Placed.stretch_concat {log : List α} {after reach : Nat}
    (placed : Placed log after reach) (entry : α) :
    ((log ++ [entry]).take reach).drop after = (log.take reach).drop after := by
  rcases placed.2 with inside | rfl
  · rw [List.take_append_of_le_length inside]
  · rw [List.drop_eq_nil_of_le (List.length_take_le _ _),
      List.drop_eq_nil_of_le (List.length_take_le _ _)]

/-- Two stretches that meet are one stretch. -/
theorem stretch_append {log : List α} {after middle : Nat} (ordered : after ≤ middle) :
    (log.take middle).drop after ++ log.drop middle = log.drop after := by
  conv_rhs => rw [← List.take_append_drop middle log]
  rcases Nat.le_total middle log.length with inside | beyond
  · rw [List.drop_append_of_le_length]
    rw [List.length_take]
    omega
  · rw [List.drop_eq_nil_of_le beyond, List.append_nil, List.append_nil]

/-- A reader that takes what a bounded store has of the newer entries stays a reader. -/
theorem Reads.catchUp {log read : List α} {after reach : Nat} (placed : Placed log after reach)
    (reads : Reads log after reach read) (capacity : Nat) :
    Reads log after log.length
      (read ++ log.drop (max reach (log.length - capacity))) := by
  rw [Reads, List.take_length, ← stretch_append placed.1]
  refine List.Sublist.append reads ?_
  rw [← Nat.add_sub_of_le (Nat.le_max_left reach (log.length - capacity)), ← List.drop_drop]
  exact List.drop_sublist _ _

/-- It misses nothing exactly when the store still had everything it lacked. -/
theorem ReadsAll.catchUp_iff {log read : List α} {after reach capacity : Nat}
    (placed : Placed log after reach) (all : ReadsAll log after reach read)
    (behind : max reach (log.length - capacity) < log.length) :
    ReadsAll log after log.length (read ++ log.drop (max reach (log.length - capacity))) ↔
      log.length - reach ≤ capacity := by
  rw [ReadsAll, List.take_length, ← stretch_append placed.1, all, List.append_cancel_left_eq]
  constructor
  · intro same
    have lengths := congrArg List.length same
    rw [List.length_drop, List.length_drop] at lengths
    omega
  · intro near
    rw [Nat.max_eq_left (by omega)]

end NumberedLog
end Foundations
end PetlibroRelay
