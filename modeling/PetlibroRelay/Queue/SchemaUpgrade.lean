import PetlibroRelay.Foundations.Durable
import PetlibroRelay.Foundations.Machine
import PetlibroRelay.Queue.Migration

namespace PetlibroRelay
namespace Queue

open Foundations
open Protocol

/-!
# Opening the queue, statement by statement

The constructor of the queue reads which columns the table has and then executes
one statement after the other: it adds each missing column, and if a device
column was missing it writes device and product into every row without a device
whose topic parses.  The columns are definitions and reach the disk at once.  The
writes open a transaction that is committed when the constructor is done.

The presence of both device columns is the only mark of a finished upgrade.  A
process that dies after the second of them was added and before the commit leaves
a table that looks finished, and its rows stay without a device for good.
-/

inductive Column where
  | coalesceKey
  | maxAgeSeconds
  | isLive
  | deviceId
  | productId
  deriving DecidableEq, Repr

namespace Columns

def has (columns : Columns) : Column -> Bool
  | .coalesceKey => columns.coalesceKey
  | .maxAgeSeconds => columns.maxAgeSeconds
  | .isLive => columns.isLive
  | .deviceId => columns.deviceId
  | .productId => columns.productId

def add (columns : Columns) : Column -> Columns
  | .coalesceKey => { columns with coalesceKey := true }
  | .maxAgeSeconds => { columns with maxAgeSeconds := true }
  | .isLive => { columns with isLive := true }
  | .deviceId => { columns with deviceId := true }
  | .productId => { columns with productId := true }

/-- The columns to add, in the order of the statements. -/
def missing (columns : Columns) : List Column :=
  [.coalesceKey, .maxAgeSeconds, .isLive, .deviceId, .productId].filter
    (fun column => !columns.has column)

/-- The mark of a finished upgrade. -/
def tagged (columns : Columns) : Bool :=
  columns.deviceId && columns.productId

theorem has_add (columns : Columns) (column other : Column) :
    (columns.add column).has other = (columns.has other || decide (column = other)) := by
  cases column <;> cases other <;> simp [add, has]

theorem eq_of_has {first second : Columns}
    (same : forall column, first.has column = second.has column) : first = second := by
  have parts := And.intro (same .coalesceKey) (And.intro (same .maxAgeSeconds)
    (And.intro (same .isLive) (And.intro (same .deviceId) (same .productId))))
  cases first
  cases second
  simp only [has] at parts
  simp only [mk.injEq]
  exact parts

theorem has_foldl_add (columns : Columns) (added : List Column) (column : Column) :
    (added.foldl add columns).has column = (columns.has column || decide (column ∈ added)) := by
  induction added generalizing columns with
  | nil => simp only [List.foldl_nil, List.not_mem_nil, decide_false, Bool.or_false]
  | cons first rest inductionHypothesis =>
      have either : decide (first = column ∨ column ∈ rest) = decide (column ∈ first :: rest) :=
        decide_eq_decide.mpr (by rw [List.mem_cons, eq_comm])
      rw [List.foldl_cons, inductionHypothesis, has_add, Bool.or_assoc, ← Bool.decide_or, either]

theorem mem_missing (columns : Columns) (column : Column) :
    column ∈ columns.missing ↔ columns.has column = false := by
  rw [missing, List.mem_filter, Bool.not_eq_true']
  refine ⟨fun both => both.2, fun absent => ⟨?_, absent⟩⟩
  cases column <;> decide

/-- Adding what is missing gives the current columns. -/
theorem foldl_add_missing (columns : Columns) :
    columns.missing.foldl add columns = current := by
  apply eq_of_has
  intro column
  rw [has_foldl_add]
  have all : current.has column = true := by cases column <;> rfl
  rw [all, Bool.or_eq_true, decide_eq_true_eq, mem_missing]
  cases columns.has column
  · exact Or.inr rfl
  · exact Or.inl rfl

theorem missing_nodup (columns : Columns) : columns.missing.Nodup :=
  List.Nodup.filter _ (by decide)

/-- A device column is the last that an unfinished upgrade adds. -/
theorem last_missing (columns : Columns) (unfinished : columns.tagged = false) :
    columns.missing.getLast? = some (if columns.productId then .deviceId else .productId) := by
  rcases columns with ⟨coalesceKey, maxAgeSeconds, isLive, deviceId, productId⟩
  revert unfinished
  revert coalesceKey maxAgeSeconds isLive deviceId productId
  decide

/-- Stopping before the last column leaves the upgrade unfinished. -/
theorem tagged_of_partial (columns : Columns) {count : Nat}
    (partial_ : count < columns.missing.length) (unfinished : columns.tagged = false) :
    ((columns.missing.take count).foldl add columns).tagged = false := by
  obtain ⟨earlier, split⟩ := List.getLast?_eq_some_iff.mp (last_missing columns unfinished)
  have unique := missing_nodup columns
  rw [split, List.length_append, List.length_singleton] at partial_
  rw [split] at unique ⊢
  rw [List.take_append_of_le_length (Nat.le_of_lt_succ partial_)]
  have absent : (if columns.productId then Column.deviceId else .productId) ∉
      earlier.take count := by
    intro member
    exact (List.nodup_append.mp unique).2.2 _ (List.mem_of_mem_take member) _
      List.mem_cons_self rfl
  have device := has_foldl_add columns (earlier.take count) .deviceId
  have product := has_foldl_add columns (earlier.take count) .productId
  simp only [has] at device product
  rw [tagged, device, product]
  rw [tagged] at unfinished
  cases given : columns.productId with
  | true =>
      rw [given, if_pos rfl] at absent
      rw [given, Bool.and_true] at unfinished
      rw [unfinished, decide_eq_false absent]
      rfl
  | false =>
      rw [given, if_neg Bool.false_ne_true] at absent
      rw [decide_eq_false absent, Bool.or_false, Bool.and_false]

end Columns

/-! ## The statements -/

/-- A column that is added reads what it read as a missing one. -/
theorem Columns.Absent.add {columns : Columns} {message : PendingMessage}
    (absent : columns.Absent message) (column : Column) : (columns.add column).Absent message := by
  have before : forall other, (columns.add column).has other = false ->
      columns.has other = false := by
    intro other missing
    rw [Columns.has_add, Bool.or_eq_false_iff] at missing
    exact missing.1
  exact ⟨fun missing => absent.coalesceKey (before .coalesceKey missing),
    fun missing => absent.maxAgeSeconds (before .maxAgeSeconds missing),
    fun missing => absent.isLive (before .isLive missing),
    fun missing => absent.deviceId (before .deviceId missing),
    fun missing => absent.productId (before .productId missing)⟩

namespace Database

/-- `ALTER TABLE ... ADD COLUMN`.  The rows read the default they read before. -/
def addColumn (column : Column) (database : Database) : Database where
  columns := database.columns.add column
  pendingMessages := database.pendingMessages
  absent := fun row member => (database.absent row member).add column

/-- A row with the device and product of an address. -/
def tag (address : TopicAddress) (message : PendingMessage) : PendingMessage :=
  { message with deviceId := some address.deviceId, productId := some address.productId }

theorem absent_tag {columns : Columns} {message : PendingMessage}
    (absent : columns.Absent message) (finished : columns.tagged = true)
    (address : TopicAddress) : columns.Absent (tag address message) := by
  rw [Columns.tagged, Bool.and_eq_true] at finished
  exact ⟨absent.coalesceKey, absent.maxAgeSeconds, absent.isLive,
    fun missing => absurd (missing.symm.trans finished.1) Bool.false_ne_true,
    fun missing => absurd (missing.symm.trans finished.2) Bool.false_ne_true⟩

/-- `UPDATE ... SET device_id = ?, product_id = ? WHERE id = ?`.  It names both
device columns and is only executed where they exist. -/
def tagRow (update : Nat × TopicAddress) (database : Database) : Database :=
  if finished : database.columns.tagged = true then
    { columns := database.columns
      pendingMessages := database.pendingMessages.updateWhere
        (fun row => decide (row.1 = update.1)) (tag update.2)
      absent := by
        intro row member
        rcases List.mem_map.mp member with ⟨old, oldMember, same⟩
        subst row
        split
        · exact absent_tag (database.absent old oldMember) finished update.2
        · exact database.absent old oldMember }
  else database

/-- The rows to tag: those without a device whose topic parses. -/
def resolved (database : Database) : List (Nat × TopicAddress) :=
  (database.pendingMessages.select (fun row => row.2.deviceId.isNone)).filterMap
    (fun row => (parseTopic row.2.topic).map (fun address => (row.1, address)))

/-- `CREATE ... IF NOT EXISTS` of the table or of an index, where it neither adds
a row nor a column. -/
def create (database : Database) : Database := database

/-- Everything the constructor executes on a database. -/
def upgrade (database : Database) : Durable.Upgrade Database where
  definitions := [create, create] ++ database.columns.missing.map addColumn
  changes := if database.columns.tagged then [] else database.resolved.map tagRow
  closing := [create]

/-- The database after the constructor. -/
def opened (database : Database) : Database :=
  Durable.diskAfter database.upgrade.statements database

/-- The database that a constructor leaves which dies after some statements. -/
def interrupted (database : Database) (count : Nat) : Database :=
  Durable.diskAfter (database.upgrade.statements.take count) database

/-! ## What the statements leave -/

theorem eq_of_parts {first second : Database} (columns : first.columns = second.columns)
    (rows : first.pendingMessages = second.pendingMessages) : first = second := by
  cases first
  cases second
  cases columns
  cases rows
  rfl

theorem applied_addColumns (added : List Column) (database : Database) :
    (Durable.applied (added.map addColumn) database).columns =
        added.foldl Columns.add database.columns ∧
      (Durable.applied (added.map addColumn) database).pendingMessages =
        database.pendingMessages := by
  induction added generalizing database with
  | nil => exact ⟨rfl, rfl⟩
  | cons column rest inductionHypothesis => exact inductionHypothesis (database.addColumn column)

theorem applied_tagRows (updates : List (Nat × TopicAddress)) (database : Database)
    (finished : database.columns.tagged = true) :
    (Durable.applied (updates.map tagRow) database).columns = database.columns ∧
      (Durable.applied (updates.map tagRow) database).pendingMessages =
        database.pendingMessages.updateEach
          (updates.map (fun update => (update.1, tag update.2))) := by
  induction updates generalizing database with
  | nil => exact ⟨rfl, rfl⟩
  | cons update rest inductionHypothesis =>
      have first : (tagRow update database).columns = database.columns ∧
          (tagRow update database).pendingMessages =
            database.pendingMessages.updateWhere (fun row => decide (row.1 = update.1))
              (tag update.2) := by
        rw [tagRow, dif_pos finished]
        exact ⟨rfl, rfl⟩
      have later := inductionHypothesis (tagRow update database) (first.1.symm ▸ finished)
      refine ⟨later.1.trans first.1, later.2.trans ?_⟩
      rw [first.2]
      rfl

/-- Tagging the resolved rows one by one is the backfill. -/
theorem updateEach_resolved (database : Database) :
    database.pendingMessages.updateEach
        (database.resolved.map (fun update => (update.1, tag update.2))) =
      backfillDeviceColumnsLocked database.pendingMessages := by
  have updates : database.resolved.map (fun update => (update.1, tag update.2)) =
      database.pendingMessages.updatesFor (fun row => row.2.deviceId.isNone)
        (fun message => (parseTopic message.topic).map tag) := by
    rw [resolved, AutoTable.updatesFor, List.map_filterMap]
    refine List.filterMap_congr ?_
    intro row _
    rw [Option.map_map, Option.map_map]
    rfl
  rw [updates, AutoTable.updateEach_updatesFor, backfillDeviceColumnsLocked]
  congr 1
  funext message
  rw [addressed]
  cases parseTopic message.topic <;> rfl

theorem applied_definitions (database : Database) :
    (Durable.applied database.upgrade.definitions database).columns = Columns.current ∧
      (Durable.applied database.upgrade.definitions database).pendingMessages =
        database.pendingMessages := by
  have added := applied_addColumns database.columns.missing database
  rw [Columns.foldl_add_missing] at added
  exact added

/-- The constructor brings the columns up to date and migrates the rows. -/
theorem opened_spec (database : Database) :
    database.opened.columns = Columns.current ∧
      database.opened.pendingMessages = migrateSchemaLocked database := by
  have defined := applied_definitions database
  have closed : database.opened =
      Durable.applied database.upgrade.changes
        (Durable.applied database.upgrade.definitions database) := by
    rw [opened, Durable.Upgrade.diskAfter_statements, Durable.applied_append,
      Durable.applied_append]
    rfl
  rw [closed, migrateSchemaLocked, ← Columns.tagged]
  simp only [upgrade] at defined ⊢
  cases finished : database.columns.tagged with
  | true => exact defined
  | false =>
      have current : (Durable.applied ([create, create] ++
          database.columns.missing.map addColumn) database).columns.tagged = true := by
        rw [defined.1]
        rfl
      have tagged := applied_tagRows database.resolved _ current
      rw [if_neg Bool.false_ne_true, if_neg Bool.false_ne_true, tagged.1, tagged.2, defined.1,
        defined.2, updateEach_resolved]
      exact ⟨rfl, rfl⟩

/-- An opened database opens as it is. -/
theorem opened_opened (database : Database) : database.opened.opened = database.opened := by
  have first := opened_spec database
  have second := opened_spec database.opened
  refine eq_of_parts (second.1.trans first.1.symm) (second.2.trans ?_)
  exact migrateSchemaLocked_current database.opened first.1

/-- A table with all the columns. -/
def ofCurrent (pendingMessages : AutoTable PendingMessage) : Database where
  columns := Columns.current
  pendingMessages := pendingMessages
  absent := fun _ _ => ⟨nofun, nofun, nofun, nofun, nofun⟩

end Database

/-! ## Using an opened queue -/

/-- A queue, and the keys of the messages it has ever handed out.  Nobody knows
the key of a row that was never handed out. -/
structure QueueUse where
  queue : MessageQueue
  peeked : List Nat := []

inductive UseAction where
  | call (operation : Operation)
  | reopen (maxSizePerDirection : Nat)

/-- Any calls of the queue's methods and any restarts.  A message is removed by
the key under which it was handed out. -/
def useMachine : Machine QueueUse UseAction where
  step use
    | .call (.remove messageId) =>
        if messageId ∈ use.peeked then some { use with queue := use.queue.remove messageId }
        else none
    | .call (.peekOldest deviceId direction prioritizeLive) =>
        some { use with peeked := ((use.queue.peekOldest deviceId direction prioritizeLive).map
          QueuedMessage.id).toList ++ use.peeked }
    | .call operation => some { use with queue := (use.queue.perform operation).1 }
    | .reopen maxSizePerDirection =>
        some { use with queue :=
          ⟨maxSizePerDirection, (Database.ofCurrent use.queue.pendingMessages).opened.pendingMessages⟩ }

/-- A row without a device that is pending and was never handed out. -/
structure Unrouted (row : Nat × PendingMessage) (use : QueueUse) : Prop where
  pending : row ∈ use.queue.pendingMessages.rows
  unread : row.1 ∉ use.peeked

theorem not_inPartition {row : Nat × PendingMessage} (untagged : row.2.deviceId = none)
    (deviceId direction : String) : inPartition deviceId direction row = false := by
  have other : ¬ none = some deviceId := by rintro ⟨⟩
  rw [inPartition, untagged, decide_eq_false other, Bool.false_and]

/-- An insertion supersedes and evicts rows of its own device only. -/
theorem mem_enqueue_of_untagged {queue : MessageQueue} {row : Nat × PendingMessage}
    (member : row ∈ queue.pendingMessages.rows) (untagged : row.2.deviceId = none)
    (call : EnqueueCall) (now : Rat) :
    row ∈ (queue.enqueue call now).1.pendingMessages.rows := by
  have outside := not_inPartition untagged call.deviceId call.direction
  have kept : MessageQueue.supersededBy call.deviceId call.direction call.coalesceKey row =
      false := by
    unfold MessageQueue.supersededBy
    split
    · rfl
    · rw [outside, Bool.false_and]
  have grown : row ∈ ((queue.coalesce call).insert call now).pendingMessages.rows := by
    apply List.mem_append_left
    exact List.mem_filter.mpr ⟨member, by rw [kept]; rfl⟩
  simp only [MessageQueue.enqueue, MessageQueue.enforceSizeLimitLocked]
  split
  · refine List.mem_filter.mpr ⟨grown, ?_⟩
    rw [Bool.not_eq_true', decide_eq_false_iff_not]
    intro overflow
    have inside := MessageQueue.mem_partition_of_overflow _ _ _ grown overflow
    have device := ((MessageQueue.mem_partition_iff _ _ _ _).mp inside).2.1
    rw [untagged] at device
    cases device
  · exact grown

theorem unrouted_step {row : Nat × PendingMessage} (untagged : row.2.deviceId = none)
    {use after : QueueUse} {action : UseAction} (unrouted : Unrouted row use)
    (moved : useMachine.step use action = some after) : Unrouted row after := by
  cases action with
  | reopen maxSizePerDirection =>
      cases moved
      refine ⟨?_, unrouted.unread⟩
      rw [(Database.opened_spec _).2, migrateSchemaLocked_current _ rfl]
      exact unrouted.pending
  | call operation =>
      cases operation with
      | enqueue call now =>
          cases moved
          exact ⟨mem_enqueue_of_untagged unrouted.pending untagged call now, unrouted.unread⟩
      | remove messageId =>
          simp only [useMachine] at moved
          split at moved
          · next handed =>
              cases moved
              refine ⟨List.mem_filter.mpr ⟨unrouted.pending, ?_⟩, unrouted.unread⟩
              rw [Bool.not_eq_true', decide_eq_false_iff_not]
              intro same
              exact unrouted.unread (same ▸ handed)
          · cases moved
      | demoteLiveMessages deviceId direction =>
          cases moved
          refine ⟨List.mem_map.mpr ⟨row, unrouted.pending, ?_⟩, unrouted.unread⟩
          rw [if_neg]
          rw [MessageQueue.isLiveIn, not_inPartition untagged, Bool.false_and]
          exact Bool.false_ne_true
      | peekOldest deviceId direction prioritizeLive =>
          cases moved
          refine ⟨unrouted.pending, ?_⟩
          rw [List.mem_append, not_or]
          refine ⟨?_, unrouted.unread⟩
          rw [Option.mem_toList, Option.map_eq_some_iff]
          rintro ⟨message, found, same⟩
          obtain ⟨other, inside, read⟩ := MessageQueue.row_of_peekOldest found
          have stored := (MessageQueue.mem_partition_iff _ _ _ _).mp inside
          have key : other.1 = row.1 := by rw [← same, ← read]; rfl
          have equal := use.queue.pendingMessages.eq_of_same_id stored.1 unrouted.pending key
          rw [equal, untagged] at stored
          cases stored.2.1

/-! ## The backlog of an earlier version -/

/-- The columns every version has. -/
def content (row : Nat × PendingMessage) : Nat × String × String × List UInt8 × Nat × Rat :=
  (row.1, row.2.direction, row.2.topic, row.2.payload, row.2.qos, row.2.createdAt)

/-- A migrated row is an old row, addressed if the upgrade was unfinished and it
had no device. -/
theorem rows_opened (database : Database) :
    database.opened.pendingMessages.rows = database.pendingMessages.rows.map (fun row =>
      if !database.columns.tagged && row.2.deviceId.isNone then (row.1, addressed row.2)
      else row) := by
  rw [(Database.opened_spec database).2, migrateSchemaLocked, ← Columns.tagged]
  cases database.columns.tagged with
  | true =>
      simp only [if_true, Bool.not_true, Bool.false_and, Bool.false_eq_true, if_false,
        List.map_id']
  | false =>
      rw [if_neg Bool.false_ne_true]
      rfl

theorem content_addressed (id : Nat) (message : PendingMessage) :
    content (id, addressed message) = content (id, message) ∧
      (addressed message).maxAgeSeconds = message.maxAgeSeconds ∧
      (addressed message).isLive = message.isLive := by
  rw [addressed]
  cases parseTopic message.topic <;> exact ⟨rfl, rfl, rfl⟩

/-- Every row of the opened table is a row of the old one with the same columns
apart from device and product. -/
theorem old_of_opened {database : Database} {row : Nat × PendingMessage}
    (member : row ∈ database.opened.pendingMessages.rows) :
    exists old, old ∈ database.pendingMessages.rows ∧
      row.2.maxAgeSeconds = old.2.maxAgeSeconds ∧ row.2.isLive = old.2.isLive := by
  rw [rows_opened] at member
  obtain ⟨old, oldMember, same⟩ := List.mem_map.mp member
  refine ⟨old, oldMember, ?_⟩
  rw [← same]
  split
  · exact (content_addressed old.1 old.2).2
  · exact ⟨rfl, rfl⟩

/-- Where a table had no device columns a row has the address its topic names. -/
theorem address_of_opened {database : Database} (noDevice : database.columns.deviceId = false)
    (noProduct : database.columns.productId = false) {row : Nat × PendingMessage}
    (member : row ∈ database.opened.pendingMessages.rows) :
    row.2.deviceId = (parseTopic row.2.topic).map TopicAddress.deviceId ∧
      row.2.productId = (parseTopic row.2.topic).map TopicAddress.productId := by
  rw [rows_opened] at member
  obtain ⟨old, oldMember, same⟩ := List.mem_map.mp member
  have absent := database.absent old oldMember
  have device := absent.deviceId noDevice
  have product := absent.productId noProduct
  simp only [Columns.tagged, noDevice, device, Bool.false_and, Bool.not_false,
    Option.isNone_none, Bool.and_self, if_true] at same
  rw [← same, addressed]
  cases parsed : parseTopic old.2.topic with
  | none => simp only [parsed, Option.map_none, device, product, and_self]
  | some address => simp only [parsed, Option.map_some, and_self]

/-- Opening a database of any earlier version keeps its backlog.  The rows, their
order and the columns they were written with are unchanged.  A table without
device columns is tagged exactly where a topic names a device, and a row without
a device is neither removed nor handed out in any later use of the queue.  Columns
that were added read their defaults, and opening once more changes nothing. -/
theorem opening_preserves_backlog (database : Database) :
    let table := database.opened.pendingMessages
    database.opened.columns = Columns.current ∧
      table.rows.map content = database.pendingMessages.rows.map content ∧
      (database.columns.deviceId = false -> database.columns.productId = false ->
        forall row, row ∈ table.rows ->
          row.2.deviceId = (parseTopic row.2.topic).map TopicAddress.deviceId ∧
            row.2.productId = (parseTopic row.2.topic).map TopicAddress.productId) ∧
      (forall row, row ∈ table.rows -> row.2.deviceId = none ->
        forall maxSizePerDirection actions,
          let use := useMachine.run { queue := ⟨maxSizePerDirection, table⟩ } actions
          row ∈ use.queue.pendingMessages.rows ∧ row.1 ∉ use.peeked) ∧
      (database.columns.maxAgeSeconds = false ->
        forall row, row ∈ table.rows -> row.2.maxAgeSeconds = none) ∧
      (database.columns.isLive = false -> forall row, row ∈ table.rows -> row.2.isLive = false) ∧
      database.opened.opened = database.opened := by
  intro table
  refine ⟨(Database.opened_spec database).1, ?_, ?_, ?_, ?_, ?_, Database.opened_opened database⟩
  · rw [rows_opened, List.map_map]
    refine List.map_congr_left ?_
    intro row _
    rw [Function.comp_apply]
    split
    · exact (content_addressed row.1 row.2).1
    · rfl
  · intro noDevice noProduct row member
    exact address_of_opened noDevice noProduct member
  · intro row member untagged maxSizePerDirection actions
    have unrouted := useMachine.run_invariant (Unrouted row)
      (fun _ _ _ before moved => unrouted_step untagged before moved)
      { queue := ⟨maxSizePerDirection, table⟩ } actions ⟨member, List.not_mem_nil⟩
    exact ⟨unrouted.pending, unrouted.unread⟩
  · intro missing row member
    obtain ⟨old, oldMember, maxAge, -⟩ := old_of_opened member
    rw [maxAge]
    exact (database.absent old oldMember).maxAgeSeconds missing
  · intro missing row member
    obtain ⟨old, oldMember, -, live⟩ := old_of_opened member
    rw [live]
    exact (database.absent old oldMember).isLive missing

/-! ## Dying between two statements -/

/-- What opening leaves depends on the rows and on the mark alone. -/
theorem opened_congr {first second : Database}
    (rows : first.pendingMessages = second.pendingMessages)
    (mark : first.columns.tagged = second.columns.tagged) : first.opened = second.opened := by
  have firstSpec := Database.opened_spec first
  have secondSpec := Database.opened_spec second
  refine Database.eq_of_parts (firstSpec.1.trans secondSpec.1.symm) ?_
  rw [firstSpec.2, secondSpec.2, migrateSchemaLocked, migrateSchemaLocked, ← Columns.tagged,
    ← Columns.tagged, rows, mark]

/-- A definition changes no row and takes no column away. -/
theorem definition_keeps {database : Database} {effect : Database -> Database}
    (member : effect ∈ database.upgrade.definitions ++ database.upgrade.closing)
    (current : Database) :
    (effect current).pendingMessages = current.pendingMessages ∧
      (current.columns.tagged = true -> (effect current).columns.tagged = true) := by
  have kinds : effect = Database.create ∨ exists column, effect = Database.addColumn column := by
    simp only [Database.upgrade, List.mem_append, List.mem_cons, List.not_mem_nil, or_false,
      List.mem_map] at member
    rcases member with ((created | created) | ⟨column, -, added⟩) | created
    · exact Or.inl created
    · exact Or.inl created
    · exact Or.inr ⟨column, added.symm⟩
    · exact Or.inl created
  rcases kinds with rfl | ⟨column, rfl⟩
  · exact ⟨rfl, fun finished => finished⟩
  · refine ⟨rfl, fun finished => ?_⟩
    rw [Columns.tagged, Bool.and_eq_true] at finished ⊢
    have device := current.columns.has_add column .deviceId
    have product := current.columns.has_add column .productId
    simp only [Columns.has] at device product
    rw [Database.addColumn, device, product, finished.1, finished.2]
    exact ⟨Bool.true_or _, Bool.true_or _⟩

theorem applied_keeps_rows (database : Database) {effects : List (Database -> Database)}
    (within : forall effect, effect ∈ effects ->
      effect ∈ database.upgrade.definitions ++ database.upgrade.closing) :
    (Durable.applied effects database).pendingMessages = database.pendingMessages := by
  apply Durable.applied_invariant
    (fun current : Database => current.pendingMessages = database.pendingMessages)
  · intro effect member current same
    exact (definition_keeps (within effect member) current).1.trans same
  · rfl

theorem applied_keeps_mark (database : Database) {effects : List (Database -> Database)}
    (within : forall effect, effect ∈ effects ->
      effect ∈ database.upgrade.definitions ++ database.upgrade.closing)
    (finished : database.columns.tagged = true) :
    (Durable.applied effects database).columns.tagged = true := by
  apply Durable.applied_invariant (fun current : Database => current.columns.tagged = true)
  · intro effect member current
    exact (definition_keeps (within effect member) current).2
  · exact finished

/-- The columns after the first definitions. -/
theorem mark_of_first_definitions (database : Database) {count : Nat}
    (early : count < database.upgrade.definitions.length)
    (unfinished : database.columns.tagged = false) :
    (Durable.applied (database.upgrade.definitions.take count) database).columns.tagged = false := by
  match count with
  | 0 => exact unfinished
  | 1 => exact unfinished
  | further + 2 =>
      have some_ : further < database.columns.missing.length := by
        simpa [Database.upgrade] using early
      have columns := (Database.applied_addColumns (database.columns.missing.take further)
        database).1
      have first : Durable.applied (database.upgrade.definitions.take (further + 2)) database =
          Durable.applied ((database.columns.missing.take further).map Database.addColumn)
            database := by
        rw [List.map_take]
        rfl
      rw [first, columns]
      exact Columns.tagged_of_partial database.columns some_ unfinished

/-- A row that the upgrade has to tag. -/
def taggable (row : Nat × PendingMessage) : Bool :=
  row.2.deviceId.isNone && (parseTopic row.2.topic).isSome

/-- The process dies when the columns say that the upgrade is finished and its
rows are not written. -/
def DiesUntagged (database : Database) (count : Nat) : Prop :=
  database.columns.tagged = false ∧ database.upgrade.definitions.length ≤ count ∧
    count < database.upgrade.statements.length

theorem resolved_eq_nil_iff (database : Database) :
    database.resolved = [] ↔
      forall row, row ∈ database.pendingMessages.rows -> taggable row = false := by
  rw [Database.resolved, List.filterMap_eq_nil_iff]
  simp only [AutoTable.select, List.mem_filter, Option.map_eq_none_iff, taggable]
  constructor
  · intro none_ row member
    cases device : row.2.deviceId.isNone with
    | false => rfl
    | true => rw [none_ row ⟨member, device⟩]; rfl
  · intro none_ row chosen
    have unparsed := none_ row chosen.1
    rw [chosen.2, Bool.true_and] at unparsed
    exact Option.not_isSome_iff_eq_none.mp (Bool.eq_false_iff.mp unparsed)

/-- Without a row to tag, the backfill changes nothing. -/
theorem backfill_of_untaggable {database : Database}
    (none_ : forall row, row ∈ database.pendingMessages.rows -> taggable row = false) :
    backfillDeviceColumnsLocked database.pendingMessages = database.pendingMessages := by
  rw [← Database.updateEach_resolved, (resolved_eq_nil_iff database).mpr none_]
  rfl

/-- Recovery from one crash: opening again gives the database of an uninterrupted
upgrade, and a table of a single-device version is tagged wherever a topic names
a device. -/
def Recovers (database : Database) (count : Nat) : Prop :=
  (database.interrupted count).opened = database.opened ∧
    (database.columns.deviceId = false ->
      forall row, row ∈ (database.interrupted count).opened.pendingMessages.rows ->
        forall address, parseTopic row.2.topic = some address ->
          row.2.deviceId = some address.deviceId)

theorem recovers_of_opened {database : Database} {count : Nat}
    (same : (database.interrupted count).opened = database.opened) : Recovers database count := by
  refine ⟨same, fun single row member address parsed => ?_⟩
  rw [same, (Database.opened_spec database).2] at member
  have device := (@deviceId_of_migrated ⟨database, single⟩ _ member).1
  rw [device, parsed, Option.map_some]

theorem interrupted_of_dies {database : Database} {count : Nat}
    (dies : DiesUntagged database count) {row : Nat × PendingMessage}
    (member : row ∈ database.pendingMessages.rows) (due : taggable row = true) :
    database.interrupted count = Durable.applied database.upgrade.definitions database := by
  apply Durable.Upgrade.diskAfter_held
  · intro none_
    simp only [Database.upgrade, dies.1, Bool.false_eq_true, if_false, List.map_eq_nil_iff] at none_
    have untaggable := (resolved_eq_nil_iff database).mp none_ row member
    rw [due] at untaggable
    cases untaggable
  · exact dies.2.1
  · have uncommitted := dies.2.2
    rw [Durable.Upgrade.statements, List.length_append, List.length_singleton] at uncommitted
    exact Nat.le_of_lt_succ uncommitted

/-- A database whose mark was set and whose rows were lost is never tagged. -/
theorem not_recovers_of_dies {database : Database} {count : Nat}
    (dies : DiesUntagged database count) {row : Nat × PendingMessage}
    (member : row ∈ database.pendingMessages.rows) (due : taggable row = true) :
    ¬ Recovers database count := by
  intro recovers
  have defined := Database.applied_definitions database
  have stays : database.opened.pendingMessages = database.pendingMessages := by
    rw [← recovers.1, interrupted_of_dies dies member due, (Database.opened_spec _).2,
      migrateSchemaLocked_current _ defined.1, defined.2]
  rw [taggable, Bool.and_eq_true] at due
  have tagged : (row.1, addressed row.2) ∈ database.opened.pendingMessages.rows := by
    rw [rows_opened]
    refine List.mem_map.mpr ⟨row, member, ?_⟩
    rw [dies.1, due.1]
    rfl
  rw [stays] at tagged
  have same := database.pendingMessages.eq_of_same_id tagged member rfl
  obtain ⟨address, parsed⟩ := Option.isSome_iff_exists.mp due.2
  have device : row.2.deviceId = some address.deviceId := by
    rw [← same, addressed, parsed]
  rw [device] at due
  exact absurd due.1 Bool.false_ne_true

/-- A crash anywhere else is made good when the database is opened again. -/
theorem opened_of_interrupted {database : Database} {count : Nat}
    (safe : ¬ DiesUntagged database count ∨
      forall row, row ∈ database.pendingMessages.rows -> taggable row = false) :
    (database.interrupted count).opened = database.opened := by
  by_cases committed : database.upgrade.body.length < count
  · rw [Database.interrupted, Durable.Upgrade.diskAfter_committed _ _ committed]
    exact Database.opened_opened database
  · have uncommitted := Nat.le_of_not_lt committed
    have prefix_ : forall effects : List (Database -> Database), forall effect,
        effect ∈ effects.take count -> effect ∈ effects :=
      fun _ _ member => List.mem_of_mem_take member
    cases finished : database.columns.tagged with
    | true =>
        have none_ : database.upgrade.changes = [] := by
          rw [Database.upgrade, finished]
          rfl
        rw [Database.interrupted, Durable.Upgrade.diskAfter_defined _ _ none_ uncommitted]
        exact opened_congr (applied_keeps_rows database (prefix_ _))
          ((applied_keeps_mark database (prefix_ _) finished).trans finished.symm)
    | false =>
        by_cases early : count < database.upgrade.definitions.length
        · rw [Database.interrupted,
            Durable.Upgrade.diskAfter_early _ _ (Nat.le_of_lt early)]
          refine opened_congr (applied_keeps_rows database ?_)
            ((mark_of_first_definitions database early finished).trans finished.symm)
          intro effect member
          exact List.mem_append_left _ (List.mem_of_mem_take member)
        · -- the window: only a table without rows to tag is safe here
          have untaggable : forall row, row ∈ database.pendingMessages.rows ->
              taggable row = false := by
            rcases safe with outside | untaggable
            · refine absurd ⟨finished, Nat.le_of_not_lt early, ?_⟩ outside
              rw [Durable.Upgrade.statements, List.length_append, List.length_singleton]
              exact Nat.lt_succ_of_le uncommitted
            · exact untaggable
          have none_ : database.upgrade.changes = [] := by
            rw [Database.upgrade, (resolved_eq_nil_iff database).mpr untaggable]
            exact ite_self _
          have rows := applied_keeps_rows database
            (prefix_ (database.upgrade.definitions ++ database.upgrade.closing))
          have backfilled : forall current : Database,
              current.pendingMessages = database.pendingMessages ->
              migrateSchemaLocked current = database.pendingMessages := by
            intro current same
            rw [migrateSchemaLocked, same, backfill_of_untaggable untaggable, ite_self]
          rw [Database.interrupted, Durable.Upgrade.diskAfter_defined _ _ none_ uncommitted]
          refine Database.eq_of_parts ?_ ?_
          · rw [(Database.opened_spec _).1, (Database.opened_spec _).1]
          · rw [(Database.opened_spec _).2, (Database.opened_spec _).2, backfilled _ rows,
              backfilled _ rfl]

/-- An upgrade that dies between two statements is made good by the next opening
exactly when it did not die with the device columns added and the rows not yet
committed, or had no row to tag. -/
theorem crash_recovery_iff (database : Database) (count : Nat) :
    Recovers database count ↔
      ¬ DiesUntagged database count ∨
        forall row, row ∈ database.pendingMessages.rows -> taggable row = false := by
  constructor
  · intro recovers
    by_cases dies : DiesUntagged database count
    · refine Or.inr (fun row member => ?_)
      cases due : taggable row with
      | false => rfl
      | true => exact absurd recovers (not_recovers_of_dies dies member due)
    · exact Or.inl dies
  · intro safe
    exact recovers_of_opened (opened_of_interrupted safe)

/-- A queue of the version before several devices, with one pending event. -/
def singleDeviceQueue : Database where
  columns := ⟨true, false, false, false, false⟩
  pendingMessages := (AutoTable.empty 0).insert
    { deviceId := none, productId := none, direction := "local-to-upstream"
      topic := "dl/PLAF203/A/device/event/post", payload := [], qos := 0, coalesceKey := none
      maxAgeSeconds := none, isLive := false, createdAt := 0 }
  absent := by
    intro row member
    rw [List.mem_singleton.mp member]
    exact ⟨nofun, fun _ => rfl, fun _ => rfl, fun _ => rfl, fun _ => rfl⟩

/-- The process dies after the sixth statement, which added the second device
column.  Every later opening takes the table for an upgraded one, and the event
stays without a device. -/
theorem crash_loses_device_of_backlog : ¬ Recovers singleDeviceQueue 6 := by
  have dies : DiesUntagged singleDeviceQueue 6 := ⟨by decide, by decide, by decide⟩
  apply not_recovers_of_dies dies List.mem_cons_self
  decide

end Queue
end PetlibroRelay
