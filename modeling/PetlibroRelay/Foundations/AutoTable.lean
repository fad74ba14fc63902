import Mathlib.Data.List.Sort

namespace PetlibroRelay
namespace Foundations

/-!
# Tables whose rows are numbered by an increasing sequence

This is the part of a relational table that a durable queue rests on.  The
primary key is drawn from a persistent sequence, so a new row gets a number
above every number ever given out, including those of rows deleted since.
Rows are kept in key order, as a B-tree keeps them.

The two facts every user of such a table needs are fields of the structure:
the keys increase along the rows, and none exceeds the sequence.  Deletions
and in-place updates keep both, so a table violating them cannot be built.
-/

universe u

/-- Rows with their keys, and the last key that was given out. -/
structure AutoTable (α : Type u) where
  rows : List (Nat × α)
  sequence : Nat
  ordered : rows.Pairwise (fun first second => first.1 < second.1)
  bounded : forall row, row ∈ rows -> row.1 ≤ sequence

namespace AutoTable

variable {α : Type u}

/-- A table without rows whose sequence has already been used. -/
def empty (sequence : Nat) : AutoTable α where
  rows := []
  sequence := sequence
  ordered := List.Pairwise.nil
  bounded := by intro row member; cases member

/-- Append a row under the next key of the sequence. -/
def insert (table : AutoTable α) (value : α) : AutoTable α where
  rows := table.rows ++ [(table.sequence + 1, value)]
  sequence := table.sequence + 1
  ordered := by
    rw [List.pairwise_append]
    refine ⟨table.ordered, List.pairwise_singleton _ _, ?_⟩
    intro row member new newMember
    rw [List.mem_singleton.mp newMember]
    exact Nat.lt_succ_of_le (table.bounded row member)
  bounded := by
    intro row member
    rcases List.mem_append.mp member with old | new
    · exact Nat.le_succ_of_le (table.bounded row old)
    · rw [List.mem_singleton.mp new]

/-- Delete the rows that satisfy the predicate. -/
def deleteWhere (table : AutoTable α) (doomed : Nat × α -> Bool) : AutoTable α where
  rows := table.rows.filter (fun row => !doomed row)
  sequence := table.sequence
  ordered := table.ordered.filter _
  bounded := fun row member => table.bounded row (List.mem_filter.mp member).1

/-- Rewrite the values of the rows that satisfy the predicate. -/
def updateWhere (table : AutoTable α) (selected : Nat × α -> Bool) (change : α -> α) :
    AutoTable α where
  rows := table.rows.map (fun row => if selected row then (row.1, change row.2) else row)
  sequence := table.sequence
  ordered := by
    rw [List.pairwise_map]
    refine table.ordered.imp ?_
    intro first second less
    split <;> split <;> exact less
  bounded := by
    intro row member
    rcases List.mem_map.mp member with ⟨old, oldMember, same⟩
    subst row
    split <;> exact table.bounded old oldMember

/-- The rows that satisfy the predicate, in key order. -/
def select (table : AutoTable α) (selected : Nat × α -> Bool) : List (Nat × α) :=
  table.rows.filter selected

/-- Sort selected rows by key. -/
def orderById (rows : List (Nat × α)) : List (Nat × α) :=
  rows.insertionSort (fun first second => first.1 ≤ second.1)

/-- Sort selected rows by a flag, set flags first, and then by key. -/
def orderByFlagThenId (flag : α -> Bool) (rows : List (Nat × α)) : List (Nat × α) :=
  rows.insertionSort (fun first second =>
    (flag second.2 = true -> flag first.2 = true) ∧
      (flag first.2 = flag second.2 -> first.1 ≤ second.1))

/-! ## Selections stay ordered -/

theorem select_ordered (table : AutoTable α) (selected : Nat × α -> Bool) :
    (table.select selected).Pairwise (fun first second => first.1 < second.1) :=
  table.ordered.filter _

/-- Sorting a selection by key changes nothing: it is stored in that order. -/
theorem orderById_select (table : AutoTable α) (selected : Nat × α -> Bool) :
    orderById (table.select selected) = table.select selected := by
  refine List.Pairwise.insertionSort_eq ?_
  exact (table.select_ordered selected).imp (fun less => Nat.le_of_lt less)

theorem select_insert (table : AutoTable α) (value : α) (selected : Nat × α -> Bool) :
    (table.insert value).select selected =
      table.select selected ++
        (if selected (table.sequence + 1, value) then [(table.sequence + 1, value)] else []) := by
  simp only [select, insert, List.filter_append, List.filter_cons, List.filter_nil]

theorem select_deleteWhere (table : AutoTable α) (doomed selected : Nat × α -> Bool) :
    (table.deleteWhere doomed).select selected =
      (table.select selected).filter (fun row => !doomed row) := by
  simp only [select, deleteWhere, List.filter_filter]
  exact List.filter_congr (fun row _ => Bool.and_comm _ _)

/-- A deletion is invisible to a selection that avoids it. -/
theorem select_deleteWhere_of_disjoint (table : AutoTable α) (doomed selected : Nat × α -> Bool)
    (disjoint : forall row, row ∈ table.rows -> selected row = true -> doomed row = false) :
    (table.deleteWhere doomed).select selected = table.select selected := by
  rw [select_deleteWhere]
  refine List.filter_eq_self.mpr ?_
  intro row member
  have parts := List.mem_filter.mp member
  rw [disjoint row parts.1 parts.2]
  rfl

/-- An update that the selection cannot observe acts on the selected rows. -/
theorem select_updateWhere (table : AutoTable α) (updated selected : Nat × α -> Bool)
    (change : α -> α)
    (stable : forall row : Nat × α, selected (row.1, change row.2) = selected row) :
    (table.updateWhere updated change).select selected =
      (table.select selected).map
        (fun row => if updated row then (row.1, change row.2) else row) := by
  simp only [select, updateWhere, List.filter_map]
  congr 1
  refine List.filter_congr ?_
  intro row _
  simp only [Function.comp_apply]
  split
  · exact stable row
  · rfl

/-! ## Deleting the oldest selected rows -/

/-- Keys are unique in any list of rows in key order. -/
theorem nodup_ids {rows : List (Nat × α)}
    (ordered : rows.Pairwise (fun first second => first.1 < second.1)) :
    (rows.map Prod.fst).Nodup := by
  rw [List.Nodup, List.pairwise_map]
  exact ordered.imp (fun less => Nat.ne_of_lt less)

/-- Keys identify rows: two rows of one table under one key are one row. -/
theorem eq_of_same_id (table : AutoTable α) {first second : Nat × α}
    (firstMember : first ∈ table.rows) (secondMember : second ∈ table.rows)
    (same : first.1 = second.1) : first = second :=
  List.inj_on_of_nodup_map (nodup_ids table.ordered) firstMember secondMember same

/-- A key selects its one row. -/
theorem filter_key_eq_singleton {rows : List (Nat × α)} (once : (rows.map Prod.fst).Nodup)
    {id : Nat} {value : α} (member : (id, value) ∈ rows) :
    rows.filter (fun row => decide (row.1 = id)) = [(id, value)] := by
  induction rows with
  | nil => cases member
  | cons row rest inductionHypothesis =>
      have parts := List.nodup_cons.mp once
      rcases List.mem_cons.mp member with same | later
      · subst row
        rw [List.filter_cons, if_pos (decide_eq_true rfl)]
        refine congrArg _ (List.filter_eq_nil_iff.mpr ?_)
        intro other otherMember
        rw [decide_eq_true_eq]
        intro equal
        exact parts.1 (List.mem_map.mpr ⟨other, otherMember, equal⟩)
      · have different : row.1 ≠ id := by
          intro equal
          exact parts.1 (equal ▸ List.mem_map_of_mem later)
        rw [List.filter_cons, if_neg (by rw [decide_eq_true_eq]; exact different)]
        exact inductionHypothesis parts.2 later

/-! ## Updating rows by their keys -/

/-- Rewrite rows one after the other, each named by its key. -/
def updateEach (table : AutoTable α) (updates : List (Nat × (α -> α))) : AutoTable α :=
  updates.foldl (fun current update =>
    current.updateWhere (fun row => decide (row.1 = update.1)) update.2) table

/-- A table is its rows and its sequence. -/
theorem eq_of_rows {first second : AutoTable α} (rows : first.rows = second.rows)
    (sequence : first.sequence = second.sequence) : first = second := by
  cases first
  cases second
  cases rows
  cases sequence
  rfl

theorem sequence_updateEach (table : AutoTable α) (updates : List (Nat × (α -> α))) :
    (table.updateEach updates).sequence = table.sequence := by
  induction updates generalizing table with
  | nil => rfl
  | cons update rest inductionHypothesis => exact inductionHypothesis _

/-- A row undergoes the updates that name its key, in order. -/
theorem rows_updateEach (table : AutoTable α) (updates : List (Nat × (α -> α))) :
    (table.updateEach updates).rows = table.rows.map (fun row =>
      (row.1, (updates.filter (fun update => decide (update.1 = row.1))).foldl
        (fun value update => update.2 value) row.2)) := by
  induction updates generalizing table with
  | nil => exact (List.map_id table.rows).symm
  | cons update rest inductionHypothesis =>
      refine (inductionHypothesis _).trans ?_
      simp only [updateWhere, List.map_map]
      refine List.map_congr_left ?_
      intro row _
      simp only [Function.comp_apply, decide_eq_true_eq, List.filter_cons]
      by_cases named : row.1 = update.1
      · rw [if_pos named, if_pos named.symm, List.foldl_cons]
      · rw [if_neg named, if_neg (fun same => named same.symm)]

/-- The updates that a table's selected rows call for. -/
def updatesFor (table : AutoTable α) (selected : Nat × α -> Bool)
    (change : α -> Option (α -> α)) : List (Nat × (α -> α)) :=
  (table.select selected).filterMap
    (fun row => (change row.2).map (fun effect => (row.1, effect)))

/-- The updates that name a row are those it calls for itself. -/
theorem filter_updatesFor (table : AutoTable α) (selected : Nat × α -> Bool)
    (change : α -> Option (α -> α)) {row : Nat × α} (member : row ∈ table.rows) :
    (table.updatesFor selected change).filter (fun update => decide (update.1 = row.1)) =
      ([row].filter selected).filterMap
        (fun row => (change row.2).map (fun effect => (row.1, effect))) := by
  rw [← filter_key_eq_singleton (nodup_ids table.ordered) member, updatesFor, select,
    List.filter_filter, List.filter_filterMap, List.filterMap_filter, List.filterMap_filter]
  refine List.filterMap_congr ?_
  intro other _
  cases change other.2 with
  | none => simp only [Option.map_none, Option.filter_none, ite_self]
  | some effect =>
      simp only [Option.map_some, Option.filter_some, decide_eq_true_eq, Bool.and_eq_true]
      by_cases chosen : selected other = true <;> by_cases same : other.1 = row.1 <;>
        simp [chosen, same]

/-- Updates computed from the selected rows and applied by key are one update of
the selected rows. -/
theorem updateEach_updatesFor (table : AutoTable α) (selected : Nat × α -> Bool)
    (change : α -> Option (α -> α)) :
    table.updateEach (table.updatesFor selected change) =
      table.updateWhere selected (fun value => ((change value).getD id) value) := by
  refine eq_of_rows ?_ (sequence_updateEach table _)
  rw [rows_updateEach]
  refine List.map_congr_left ?_
  intro row member
  rw [filter_updatesFor table selected change member]
  cases chosen : selected row <;> cases given : change row.2 <;> simp [chosen, given]

/-- The keys of the rows, in order. -/
def ids (table : AutoTable α) : List Nat :=
  table.rows.map Prod.fst

theorem mem_ids_insert (table : AutoTable α) (value : α) (id : Nat) :
    id ∈ (table.insert value).ids ↔ id ∈ table.ids ∨ id = table.sequence + 1 := by
  simp only [ids, insert, List.map_append, List.map_cons, List.map_nil, List.mem_append,
    List.mem_singleton]

/-- A key survives a deletion exactly when its row was not selected. -/
theorem mem_ids_deleteWhere (table : AutoTable α) (doomed : Nat × α -> Bool) (id : Nat) :
    id ∈ (table.deleteWhere doomed).ids ↔
      id ∈ table.ids ∧ id ∉ (table.select doomed).map Prod.fst := by
  constructor
  · intro member
    rcases List.mem_map.mp member with ⟨row, rowMember, same⟩
    have parts := List.mem_filter.mp rowMember
    refine ⟨same ▸ List.mem_map_of_mem parts.1, ?_⟩
    intro gone
    rcases List.mem_map.mp gone with ⟨other, otherMember, otherSame⟩
    have otherParts := List.mem_filter.mp otherMember
    have equal := table.eq_of_same_id otherParts.1 parts.1 (otherSame.trans same.symm)
    rw [equal] at otherParts
    rw [otherParts.2] at parts
    exact absurd parts.2 Bool.false_ne_true
  · rintro ⟨member, kept⟩
    rcases List.mem_map.mp member with ⟨row, rowMember, same⟩
    refine List.mem_map.mpr ⟨row, List.mem_filter.mpr ⟨rowMember, ?_⟩, same⟩
    rw [Bool.not_eq_true', Bool.eq_false_iff]
    intro selected
    exact kept (same ▸ List.mem_map_of_mem (List.mem_filter.mpr ⟨rowMember, selected⟩))

theorem ids_updateWhere (table : AutoTable α) (selected : Nat × α -> Bool) (change : α -> α) :
    (table.updateWhere selected change).ids = table.ids := by
  simp only [ids, updateWhere, List.map_map]
  refine List.map_congr_left ?_
  intro row _
  simp only [Function.comp_apply]
  split <;> rfl

/-- Removing the keys of an initial segment leaves the remaining segment. -/
theorem filter_not_mem_take (rows : List (Nat × α)) (count : Nat)
    (ordered : rows.Pairwise (fun first second => first.1 < second.1)) :
    rows.filter (fun row => !decide (row.1 ∈ (rows.take count).map Prod.fst)) =
      rows.drop count := by
  have unique := nodup_ids ordered
  have parts := List.take_append_drop count rows
  generalize rows.drop count = later at *
  generalize rows.take count = earlier at *
  subst rows
  rw [List.map_append] at unique
  have apart := List.disjoint_of_nodup_append unique
  rw [List.filter_append]
  have removed : earlier.filter (fun row => !decide (row.1 ∈ earlier.map Prod.fst)) = [] := by
    refine List.filter_eq_nil_iff.mpr ?_
    intro row member
    simp only [List.mem_map_of_mem member, decide_true, Bool.not_true, Bool.false_eq_true,
      not_false_eq_true]
  have kept : later.filter (fun row => !decide (row.1 ∈ earlier.map Prod.fst)) = later := by
    refine List.filter_eq_self.mpr ?_
    intro row member
    have outside : row.1 ∉ earlier.map Prod.fst :=
      fun early => apart early (List.mem_map_of_mem member)
    simp only [outside, decide_false, Bool.not_false]
  rw [removed, kept, List.nil_append]

/-! ## The first row of a flagged order -/

private theorem head_orderedInsert {r : α -> α -> Prop} [DecidableRel r] (value : α)
    (rows : List α) :
    (rows.orderedInsert r value).head? =
      match rows.head? with
      | none => some value
      | some first => if r value first then some value else some first := by
  cases rows with
  | nil => rfl
  | cons first rest =>
      simp only [List.orderedInsert_cons, List.head?_cons]
      split <;> rfl

/-- Flags first, then keys: the first row is the first flagged one, and the
first row of all when no row is flagged. -/
theorem head_orderByFlagThenId (flag : α -> Bool) (rows : List (Nat × α))
    (ordered : rows.Pairwise (fun first second => first.1 < second.1)) :
    (orderByFlagThenId flag rows).head? =
      (rows.find? (fun row => flag row.2)).or rows.head? := by
  induction rows with
  | nil => rfl
  | cons row rest inductionHypothesis =>
      have parts := List.pairwise_cons.mp ordered
      have tail := inductionHypothesis parts.2
      simp only [orderByFlagThenId, List.insertionSort_cons] at tail ⊢
      rw [head_orderedInsert, tail, List.find?_cons, List.head?_cons]
      cases found : rest.find? (fun row => flag row.2) with
      | none =>
          have unflagged : forall other, other ∈ rest -> flag other.2 = false := by
            intro other member
            have := List.find?_eq_none.mp found other member
            simpa only [Bool.not_eq_true] using this
          cases rest with
          | nil => by_cases rowFlag : flag row.2 = true <;> simp [rowFlag]
          | cons second later =>
              have less := parts.1 second List.mem_cons_self
              have secondFlag := unflagged second List.mem_cons_self
              by_cases rowFlag : flag row.2 = true <;>
                simp [secondFlag, rowFlag, Nat.le_of_lt less]
      | some other =>
          have otherFlag := List.find?_some found
          have less := parts.1 other (List.mem_of_find?_eq_some found)
          by_cases rowFlag : flag row.2 = true <;>
            simp [otherFlag, rowFlag, Nat.le_of_lt less]

end AutoTable
end Foundations
end PetlibroRelay
