import PetlibroRelay.Foundations.Durable
import PetlibroRelay.Registry.DeviceRegistry

namespace PetlibroRelay
namespace Registry

open Foundations

/-!
# Opening the registry, statement by statement

The constructor of the registry adds the three columns a registry of a
single-device version does not have, each by a statement that reaches the disk at
once, and then carries the old decision over by three updates in a transaction:
the default product, the identity that was bridged, and all others as candidates.

The updates are skipped where no column had to be added.  A process that dies
after the third column was added and before the commit leaves identities without
a status, and no later opening gives them one.  The lookup of the identity that
was bridged reads the empty name where none is stored, which is the name of a
device that connects without one.
-/

inductive IdentityColumn where
  | productId
  | status
  | enabled
  deriving DecidableEq, Repr

namespace IdentityColumns

def has (columns : IdentityColumns) : IdentityColumn -> Bool
  | .productId => columns.productId
  | .status => columns.status
  | .enabled => columns.enabled

def add (columns : IdentityColumns) : IdentityColumn -> IdentityColumns
  | .productId => { columns with productId := true }
  | .status => { columns with status := true }
  | .enabled => { columns with enabled := true }

/-- The columns to add, in the order of the statements. -/
def missing (columns : IdentityColumns) : List IdentityColumn :=
  [.productId, .status, .enabled].filter (fun column => !columns.has column)

theorem foldl_add_missing (columns : IdentityColumns) :
    columns.missing.foldl add columns = ⟨true, true, true⟩ := by
  rcases columns with ⟨productId, status, enabled⟩
  cases productId <;> cases status <;> cases enabled <;> rfl

theorem missing_eq_nil_iff (columns : IdentityColumns) :
    columns.missing = [] ↔ columns = ⟨true, true, true⟩ := by
  rcases columns with ⟨productId, status, enabled⟩
  cases productId <;> cases status <;> cases enabled <;> decide

end IdentityColumns

/-- A row in a column that has just been added. -/
def IdentityColumn.clear (row : IdentityRow) : IdentityColumn -> IdentityRow
  | .productId => { row with productId := none }
  | .status => { row with status := none }
  | .enabled => { row with enabled := none }

namespace RegistryDatabase

/-- Rewrite every row under its key. -/
def rewriteRows (change : String -> IdentityRow -> IdentityRow) (database : RegistryDatabase) :
    RegistryDatabase where
  columns := database.columns
  activeClientId := database.activeClientId
  identities := database.identities.map (fun entry => (entry.1, change entry.1 entry.2))
  unique := by
    rw [Dict.keys, List.map_map]
    exact database.unique

/-- `ALTER TABLE ... ADD COLUMN`. -/
def addColumn (column : IdentityColumn) (database : RegistryDatabase) : RegistryDatabase :=
  { database.rewriteRows (fun _ row => column.clear row) with
    columns := database.columns.add column }

/-- `UPDATE ... SET product_id = ? WHERE product_id IS NULL`. -/
def setProduct (database : RegistryDatabase) : RegistryDatabase :=
  database.rewriteRows (fun _ row =>
    { row with productId := some (row.productId.getD Protocol.PRODUCT_ID) })

/-- `UPDATE ... SET status = ?, enabled = 1 WHERE status IS NULL AND client_id = ?`. -/
def setKnown (database : RegistryDatabase) : RegistryDatabase :=
  database.rewriteRows (fun clientId row =>
    if row.status = none ∧ clientId = database.activeClientId.getD "" then
      { row with status := some .known, enabled := some 1 }
    else row)

/-- `UPDATE ... SET status = ?, enabled = 0 WHERE status IS NULL`. -/
def setCandidate (database : RegistryDatabase) : RegistryDatabase :=
  database.rewriteRows (fun _ row =>
    if row.status = none then { row with status := some .candidate, enabled := some 0 } else row)

/-- `CREATE TABLE IF NOT EXISTS` of a table that exists. -/
def create (database : RegistryDatabase) : RegistryDatabase := database

/-- Everything the constructor executes on a database. -/
def upgrade (database : RegistryDatabase) : Durable.Upgrade RegistryDatabase where
  definitions := [create, create] ++ database.columns.missing.map addColumn
  changes := if database.columns.missing = [] then [] else [setProduct, setKnown, setCandidate]
  closing := []

/-- The database after the constructor. -/
def opened (database : RegistryDatabase) : RegistryDatabase :=
  Durable.diskAfter database.upgrade.statements database

/-- The database that a constructor leaves which dies after some statements. -/
def interrupted (database : RegistryDatabase) (count : Nat) : RegistryDatabase :=
  Durable.diskAfter (database.upgrade.statements.take count) database

/-! ## What the statements leave -/

theorem eq_of_parts {first second : RegistryDatabase} (columns : first.columns = second.columns)
    (active : first.activeClientId = second.activeClientId)
    (identities : first.identities = second.identities) : first = second := by
  cases first
  cases second
  cases columns
  cases active
  cases identities
  rfl

theorem rewriteRows_rewriteRows (first second : String -> IdentityRow -> IdentityRow)
    (database : RegistryDatabase) :
    (database.rewriteRows first).rewriteRows second =
      database.rewriteRows (fun clientId row => second clientId (first clientId row)) := by
  refine eq_of_parts rfl rfl ?_
  simp only [rewriteRows, List.map_map]
  rfl

theorem applied_addColumns (added : List IdentityColumn) (database : RegistryDatabase) :
    Durable.applied (added.map addColumn) database =
      { database.rewriteRows (fun _ row => added.foldl IdentityColumn.clear row) with
        columns := added.foldl IdentityColumns.add database.columns } := by
  induction added generalizing database with
  | nil =>
      refine eq_of_parts rfl rfl ?_
      exact (List.map_id database.identities).symm
  | cons column rest inductionHypothesis =>
      refine (inductionHypothesis (database.addColumn column)).trans ?_
      refine eq_of_parts rfl rfl ?_
      simp only [addColumn, rewriteRows, List.map_map]
      rfl

/-- Clearing what is missing is the row of the old table with its new columns. -/
theorem foldl_clear_missing (columns : IdentityColumns) (row : IdentityRow) :
    columns.missing.foldl IdentityColumn.clear row = addColumns columns row := by
  rcases columns with ⟨productId, status, enabled⟩
  cases productId <;> cases status <;> cases enabled <;> rfl

theorem applied_definitions (database : RegistryDatabase) :
    Durable.applied database.upgrade.definitions database =
      { database.rewriteRows (fun _ row => addColumns database.columns row) with
        columns := ⟨true, true, true⟩ } := by
  have added := applied_addColumns database.columns.missing database
  simp only [IdentityColumns.foldl_add_missing, foldl_clear_missing] at added
  exact added

/-- The three updates of one row. -/
theorem updates_eq_carryOver (database : RegistryDatabase) :
    setCandidate (setKnown (setProduct database)) =
      database.rewriteRows (carryOver database.activeClientId) := by
  rw [setProduct, setKnown, rewriteRows_rewriteRows, setCandidate, rewriteRows_rewriteRows]
  refine eq_of_parts rfl rfl (List.map_congr_left ?_)
  intro entry _
  simp only [rewriteRows, carryOver, Prod.mk.injEq, true_and]
  by_cases unset : entry.2.status = none
  · by_cases active : entry.1 = database.activeClientId.getD ""
    · simp [unset, active]
    · simp [unset, active]
  · simp [unset]

/-- The constructor is the migration of the registry. -/
theorem opened_eq (database : RegistryDatabase) :
    database.opened = database.migrateToMultiDevice := by
  rw [opened, Durable.Upgrade.diskAfter_statements, Durable.applied_append, applied_definitions]
  simp only [upgrade, migrateToMultiDevice, IdentityColumns.missing_eq_nil_iff, List.append_nil]
  by_cases current : database.columns = ⟨true, true, true⟩
  · rw [if_pos current, if_pos current]
    refine eq_of_parts current.symm rfl ?_
    simp only [Durable.applied, List.foldl_nil, rewriteRows, current, addColumns, if_true]
    exact List.map_id _
  · rw [if_neg current, if_neg current]
    refine (updates_eq_carryOver _).trans ?_
    refine eq_of_parts rfl rfl ?_
    simp only [rewriteRows, List.map_map]
    rfl

theorem columns_opened (database : RegistryDatabase) :
    database.opened.columns = ⟨true, true, true⟩ := by
  rw [opened_eq]
  exact (DeviceRegistry.openOn database 0 false).migrated

/-- What the constructor makes of a registry that lacks a column. -/
theorem opened_of_missing {database : RegistryDatabase}
    (missing : database.columns ≠ ⟨true, true, true⟩) :
    database.opened.activeClientId = database.activeClientId ∧
      database.opened.identities = database.identities.map (fun entry =>
        (entry.1, carryOver database.activeClientId entry.1
          (addColumns database.columns entry.2))) := by
  rw [opened_eq, migrateToMultiDevice, if_neg missing]
  exact ⟨rfl, rfl⟩

theorem opened_opened (database : RegistryDatabase) : database.opened.opened = database.opened := by
  rw [opened_eq database.opened, migrateToMultiDevice, if_pos (columns_opened database)]

end RegistryDatabase

/-! ## Crashes while a single-device registry is opened -/

/-- A registry of a version that bridged one device. -/
structure LegacyRegistry extends RegistryDatabase where
  legacy : columns = ⟨false, false, false⟩

namespace LegacyRegistry

/-- The process dies when all three columns are there and the updates are not
committed. -/
def DiesUnclassified (registry : LegacyRegistry) (count : Nat) : Prop :=
  registry.upgrade.definitions.length ≤ count ∧ count < registry.upgrade.statements.length

/-- The registry as the next process opens it. -/
def reopened (registry : LegacyRegistry) (count : Nat) : RegistryDatabase :=
  (registry.interrupted count).opened

/-- Recovery from one crash: opening again gives the registry of an uninterrupted
upgrade, the identity that was bridged is known and enabled and every other one is a
candidate, and the identities can be listed. -/
structure Recovers (registry : LegacyRegistry) (count : Nat) : Prop where
  same : registry.reopened count = registry.opened
  active : forall entry, entry ∈ (registry.reopened count).identities ->
    registry.activeClientId = some entry.1 ->
      entry.2.status = some .known ∧ entry.2.enabled = some 1
  others : forall entry, entry ∈ (registry.reopened count).identities ->
    registry.activeClientId ≠ some entry.1 ->
      entry.2.status = some .candidate ∧ entry.2.enabled = some 0
  listed : forall retentionSeconds autoEnroll now,
    ((DeviceRegistry.openOn (registry.interrupted count) retentionSeconds autoEnroll).entries
      now).isSome

theorem statements_length (registry : LegacyRegistry) :
    registry.upgrade.definitions.length = 5 ∧ registry.upgrade.statements.length = 9 := by
  simp only [Durable.Upgrade.statements, Durable.Upgrade.body, RegistryDatabase.upgrade,
    registry.legacy]
  exact ⟨rfl, rfl⟩

theorem columns_ne (registry : LegacyRegistry) : registry.columns ≠ ⟨true, true, true⟩ := by
  rw [registry.legacy]
  decide

/-- The rows of an uninterrupted upgrade. -/
theorem identities_opened (registry : LegacyRegistry) :
    registry.opened.identities = registry.identities.map (fun entry =>
      (entry.1, RegistryDatabase.carryOver registry.activeClientId entry.1
        (RegistryDatabase.addColumns ⟨false, false, false⟩ entry.2))) := by
  rw [(RegistryDatabase.opened_of_missing registry.columns_ne).2, registry.legacy]

/-- Some of the columns are added, and the others are added when the registry is
opened again. -/
theorem opened_of_first_columns (registry : LegacyRegistry) {added : List IdentityColumn}
    (first : added ∈ [[], [IdentityColumn.productId], [.productId, .status]]) :
    (Durable.applied (added.map RegistryDatabase.addColumn) registry.toRegistryDatabase).opened =
      registry.opened := by
  have unfinished : added.foldl IdentityColumns.add ⟨false, false, false⟩ ≠ ⟨true, true, true⟩ := by
    revert added
    decide
  have cleared : forall row : IdentityRow,
      RegistryDatabase.addColumns (added.foldl IdentityColumns.add ⟨false, false, false⟩)
          (added.foldl IdentityColumn.clear row) =
        RegistryDatabase.addColumns ⟨false, false, false⟩ row := by
    intro row
    simp only [List.mem_cons, List.not_mem_nil, or_false] at first
    rcases first with rfl | rfl | rfl
    · rfl
    · rfl
    · rfl
  have missing : (Durable.applied (added.map RegistryDatabase.addColumn)
      registry.toRegistryDatabase).columns ≠ ⟨true, true, true⟩ := by
    rw [RegistryDatabase.applied_addColumns, registry.legacy]
    exact unfinished
  obtain ⟨pointer, rows⟩ := RegistryDatabase.opened_of_missing missing
  refine RegistryDatabase.eq_of_parts ?_ ?_ ?_
  · rw [RegistryDatabase.columns_opened, RegistryDatabase.columns_opened]
  · rw [pointer, RegistryDatabase.applied_addColumns]
    exact (RegistryDatabase.opened_of_missing registry.columns_ne).1.symm
  · rw [rows, identities_opened, RegistryDatabase.applied_addColumns, registry.legacy]
    simp only [RegistryDatabase.rewriteRows, List.map_map]
    refine List.map_congr_left ?_
    intro entry _
    simp only [Function.comp_apply, cleared]

/-- In the window the disk holds the identities with all their new columns empty,
and the next opening leaves them so. -/
theorem reopened_of_dies {registry : LegacyRegistry} {count : Nat}
    (dies : registry.DiesUnclassified count) :
    registry.interrupted count =
        Durable.applied registry.upgrade.definitions registry.toRegistryDatabase ∧
      registry.reopened count =
        Durable.applied registry.upgrade.definitions registry.toRegistryDatabase := by
  have held : registry.interrupted count =
      Durable.applied registry.upgrade.definitions registry.toRegistryDatabase := by
    apply Durable.Upgrade.diskAfter_held
    · rw [RegistryDatabase.upgrade, registry.legacy]
      decide
    · exact dies.1
    · have uncommitted := dies.2
      rw [Durable.Upgrade.statements, List.length_append, List.length_singleton] at uncommitted
      exact Nat.le_of_lt_succ uncommitted
  refine ⟨held, ?_⟩
  rw [reopened, held, RegistryDatabase.opened_eq, RegistryDatabase.migrateToMultiDevice, if_pos]
  rw [RegistryDatabase.applied_definitions]

/-- A crash outside of the window is made good by the next opening. -/
theorem reopened_of_survives {registry : LegacyRegistry} {count : Nat}
    (survives : ¬ registry.DiesUnclassified count ∨ registry.identities = []) :
    registry.reopened count = registry.opened := by
  by_cases dies : registry.DiesUnclassified count
  · rcases survives with outside | empty
    · exact absurd dies outside
    · rw [(reopened_of_dies dies).2, RegistryDatabase.applied_definitions]
      refine RegistryDatabase.eq_of_parts ?_ ?_ ?_
      · exact (RegistryDatabase.columns_opened registry.toRegistryDatabase).symm
      · exact (RegistryDatabase.opened_of_missing registry.columns_ne).1.symm
      · rw [identities_opened]
        simp only [RegistryDatabase.rewriteRows, empty, List.map_nil]
  · obtain ⟨defined, whole⟩ := registry.statements_length
    rw [DiesUnclassified, defined, whole] at dies
    by_cases committed : 9 ≤ count
    · rw [reopened, RegistryDatabase.interrupted, List.take_of_length_le (whole.trans_le committed)]
      exact RegistryDatabase.opened_opened registry.toRegistryDatabase
    · have early : count < 5 := by omega
      have atOnce : registry.interrupted count = Durable.applied
          (registry.upgrade.definitions.take count) registry.toRegistryDatabase :=
        Durable.Upgrade.diskAfter_early _ _ (by rw [defined]; exact Nat.le_of_lt early)
      have columns : registry.upgrade.definitions =
          [RegistryDatabase.create, RegistryDatabase.create] ++
            [IdentityColumn.productId, .status, .enabled].map RegistryDatabase.addColumn := by
        rw [RegistryDatabase.upgrade, registry.legacy]
        rfl
      rw [reopened, atOnce, columns]
      match count, early with
      | 0, _ => exact @opened_of_first_columns registry [] (by decide)
      | 1, _ => exact @opened_of_first_columns registry [] (by decide)
      | 2, _ => exact @opened_of_first_columns registry [] (by decide)
      | 3, _ => exact @opened_of_first_columns registry [.productId] (by decide)
      | 4, _ => exact @opened_of_first_columns registry [.productId, .status] (by decide)

/-! ## Which crashes are made good -/

/-- A row of the upgraded registry is known exactly where its name is read as the
one that was bridged. -/
theorem status_of_opened {registry : LegacyRegistry} {entry : String × IdentityRow}
    (member : entry ∈ registry.opened.identities) :
    (entry.1 = registry.activeClientId.getD "" ∧
        entry.2.status = some .known ∧ entry.2.enabled = some 1) ∨
      (entry.1 ≠ registry.activeClientId.getD "" ∧
        entry.2.status = some .candidate ∧ entry.2.enabled = some 0) := by
  rw [identities_opened] at member
  obtain ⟨old, -, rfl⟩ := List.mem_map.mp member
  simp only [RegistryDatabase.carryOver, RegistryDatabase.addColumns, Bool.false_eq_true, if_false,
    ne_eq, not_true_eq_false]
  by_cases active : old.1 = registry.activeClientId.getD ""
  · rw [if_pos active]
    exact Or.inl ⟨active, rfl, rfl⟩
  · rw [if_neg active]
    exact Or.inr ⟨active, rfl, rfl⟩

theorem mem_keys_of_opened {registry : LegacyRegistry} {entry : String × IdentityRow}
    (member : entry ∈ registry.opened.identities) : entry.1 ∈ Dict.keys registry.identities := by
  rw [identities_opened] at member
  obtain ⟨old, held, rfl⟩ := List.mem_map.mp member
  exact List.mem_map.mpr ⟨old, held, rfl⟩

/-- Rows that all have a status can be listed. -/
theorem mapM_entry_isSome {rows : List (String × IdentityRow)}
    (classified : forall entry, entry ∈ rows -> entry.2.status ≠ none) :
    (rows.mapM (fun entry : String × IdentityRow => entry.2.entry entry.1)).isSome := by
  induction rows with
  | nil => rfl
  | cons first rest inductionHypothesis =>
      obtain ⟨status, given⟩ := Option.ne_none_iff_exists'.mp
        (classified first List.mem_cons_self)
      obtain ⟨others, listed⟩ := Option.isSome_iff_exists.mp
        (inductionHypothesis (fun entry member => classified entry (List.mem_cons_of_mem _ member)))
      rw [List.mapM_cons, IdentityRow.entry, given, listed]
      rfl

theorem entries_isSome {registry : DeviceRegistry}
    (classified : forall entry, entry ∈ registry.database.identities -> entry.2.status ≠ none)
    (now : Rat) : (registry.entries now).isSome := by
  apply mapM_entry_isSome
  intro entry member
  rw [List.mem_insertionSort] at member
  exact classified entry (List.mem_of_mem_filter member)

theorem recovers_of_reopened {registry : LegacyRegistry} {count : Nat}
    (same : registry.reopened count = registry.opened)
    (named : registry.activeClientId.isSome ∨ "" ∉ Dict.keys registry.identities) :
    registry.Recovers count := by
  have read : forall entry, entry ∈ registry.opened.identities ->
      (entry.1 = registry.activeClientId.getD "" ↔ registry.activeClientId = some entry.1) := by
    intro entry member
    cases stored : registry.activeClientId with
    | some clientId =>
        rw [Option.getD_some, Option.some_inj]
        exact eq_comm
    | none =>
        rw [stored] at named
        rcases named with impossible | unnamed
        · cases impossible
        · refine ⟨fun empty => absurd (mem_keys_of_opened member) ?_, nofun⟩
          rw [empty]
          exact unnamed
  refine ⟨same, ?_, ?_, ?_⟩
  · intro entry member active
    rw [same] at member
    rcases status_of_opened member with known | candidate
    · exact known.2
    · exact absurd ((read entry member).mpr active) candidate.1
  · intro entry member other
    rw [same] at member
    rcases status_of_opened member with known | candidate
    · exact absurd ((read entry member).mp known.1) other
    · exact candidate.2
  · intro retentionSeconds autoEnroll now
    apply entries_isSome
    intro entry member
    have listed : entry ∈ registry.opened.identities := by
      rw [← same, reopened, RegistryDatabase.opened_eq]
      exact member
    rcases status_of_opened listed with known | candidate
    · rw [known.2.1]
      exact nofun
    · rw [candidate.2.1]
      exact nofun

/-- In the window an identity has no status, so it is neither known nor a candidate. -/
theorem not_recovers_of_dies {registry : LegacyRegistry} {count : Nat}
    (dies : registry.DiesUnclassified count) {entry : String × IdentityRow}
    (member : entry ∈ registry.identities) : ¬ registry.Recovers count := by
  intro recovers
  have unclassified : (entry.1, RegistryDatabase.addColumns ⟨false, false, false⟩ entry.2) ∈
      (registry.reopened count).identities := by
    rw [(reopened_of_dies dies).2, RegistryDatabase.applied_definitions, registry.legacy]
    exact List.mem_map.mpr ⟨entry, member, rfl⟩
  by_cases active : registry.activeClientId = some entry.1
  · exact nomatch (recovers.active _ unclassified active).1
  · exact nomatch (recovers.others _ unclassified active).1

/-- A device without a name is taken for the bridged one where none is stored. -/
theorem not_recovers_of_unnamed {registry : LegacyRegistry} {count : Nat}
    (unset : registry.activeClientId = none) (unnamed : "" ∈ Dict.keys registry.identities) :
    ¬ registry.Recovers count := by
  intro recovers
  obtain ⟨entry, member, empty⟩ := List.mem_map.mp unnamed
  have upgraded : (entry.1, RegistryDatabase.carryOver registry.activeClientId entry.1
      (RegistryDatabase.addColumns ⟨false, false, false⟩ entry.2)) ∈
        registry.opened.identities := by
    rw [identities_opened]
    exact List.mem_map.mpr ⟨entry, member, rfl⟩
  have candidate := recovers.others _ (recovers.same ▸ upgraded) (by rw [unset]; exact nofun)
  rcases status_of_opened upgraded with known | other
  · rw [known.2.1] at candidate
    exact nomatch candidate.1
  · apply other.1
    rw [unset]
    exact empty

/-- An upgrade that dies between two statements is made good by the next opening
exactly when it did not die with all columns added and the updates not yet
committed, or had no identity, and no device without a name stands in a registry
that bridged none. -/
theorem registry_crash_recovery_iff (registry : LegacyRegistry) (count : Nat) :
    registry.Recovers count ↔
      (¬ registry.DiesUnclassified count ∨ registry.identities = []) ∧
        (registry.activeClientId.isSome ∨ "" ∉ Dict.keys registry.identities) := by
  constructor
  · intro recovers
    constructor
    · by_cases dies : registry.DiesUnclassified count
      · refine Or.inr (List.eq_nil_iff_forall_not_mem.mpr ?_)
        intro entry member
        exact not_recovers_of_dies dies member recovers
      · exact Or.inl dies
    · cases stored : registry.activeClientId with
      | some clientId => exact Or.inl rfl
      | none => exact Or.inr (fun unnamed => not_recovers_of_unnamed stored unnamed recovers)
  · rintro ⟨survives, named⟩
    exact recovers_of_reopened (reopened_of_survives survives) named

/-- A registry that bridges the one device it knows. -/
def bridgedOne : LegacyRegistry where
  columns := ⟨false, false, false⟩
  activeClientId := some "A"
  identities := [("A",
    { username := "user", password := "secret", productId := none, firstSeenAt := 0
      lastSeenAt := 0, status := none, enabled := none })]
  unique := by decide
  legacy := rfl

/-- The process dies after the fifth statement, which added the third column.  The
device stays without a status, and every later opening takes the registry for an
upgraded one. -/
theorem crash_loses_bridged_device : ¬ bridgedOne.Recovers 5 := by
  have dies : bridgedOne.DiesUnclassified 5 := by
    rw [DiesUnclassified, bridgedOne.statements_length.1, bridgedOne.statements_length.2]
    decide
  exact not_recovers_of_dies dies List.mem_cons_self

end LegacyRegistry
end Registry
end PetlibroRelay
