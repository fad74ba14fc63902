import PetlibroRelay.Queue.Refinement

namespace PetlibroRelay
namespace Queue

open Foundations
open Protocol

/-!
# Databases of earlier versions

Earlier versions wrote the table without some of its columns.  Opening such a
database adds what is missing, and a table without device columns is then
backfilled: each row is given the device its own topic names.  A row whose
topic does not parse keeps its `NULL` and belongs to no device.
-/

/-- Which of the columns added over time a database has. -/
structure Columns where
  coalesceKey : Bool
  maxAgeSeconds : Bool
  isLive : Bool
  deviceId : Bool
  productId : Bool
  deriving DecidableEq, Repr

/-- The columns of a table the current version has opened. -/
def Columns.current : Columns := ⟨true, true, true, true, true⟩

/-- What a row reads in a column that the database does not have. -/
structure Columns.Absent (columns : Columns) (message : PendingMessage) : Prop where
  coalesceKey : columns.coalesceKey = false -> message.coalesceKey = none
  maxAgeSeconds : columns.maxAgeSeconds = false -> message.maxAgeSeconds = none
  isLive : columns.isLive = false -> message.isLive = false
  deviceId : columns.deviceId = false -> message.deviceId = none
  productId : columns.productId = false -> message.productId = none

/-- A database file.  A missing column reads as the default it is added with. -/
structure Database where
  columns : Columns
  pendingMessages : AutoTable PendingMessage
  absent : forall row, row ∈ pendingMessages.rows -> columns.Absent row.2

/-- A database of a version that bridged a single device. -/
structure LegacyDatabase extends Database where
  single : columns.deviceId = false

/-- The device columns of a row, read off its topic. -/
def addressed (message : PendingMessage) : PendingMessage :=
  match parseTopic message.topic with
  | none => message
  | some address => { message with
      deviceId := some address.deviceId, productId := some address.productId }

/-- Derive device and product for rows of a single-device version. -/
def backfillDeviceColumnsLocked (table : AutoTable PendingMessage) : AutoTable PendingMessage :=
  table.updateWhere (fun row => row.2.deviceId.isNone) addressed

/-- Bring a database created by an earlier version up to date. -/
def migrateSchemaLocked (database : Database) : AutoTable PendingMessage :=
  if database.columns.deviceId && database.columns.productId then database.pendingMessages
  else backfillDeviceColumnsLocked database.pendingMessages

/-- Opening the database of a running version changes nothing. -/
theorem migrateSchemaLocked_current (database : Database)
    (current : database.columns = Columns.current) :
    migrateSchemaLocked database = database.pendingMessages := by
  rw [migrateSchemaLocked, current]
  rfl

/-- After the migration of a table without devices, each row belongs to the
device its topic names, and to none if its topic does not parse. -/
theorem deviceId_of_migrated {database : LegacyDatabase} {row : Nat × PendingMessage}
    (member : row ∈ (migrateSchemaLocked database.toDatabase).rows) :
    row.2.deviceId = (parseTopic row.2.topic).map TopicAddress.deviceId ∧
      exists old, old ∈ database.pendingMessages.rows ∧ old.1 = row.1 ∧
        old.2.topic = row.2.topic := by
  rw [migrateSchemaLocked, database.single, Bool.false_and, if_neg Bool.false_ne_true] at member
  rcases List.mem_map.mp member with ⟨old, oldMember, same⟩
  have unassigned := (database.absent old oldMember).deviceId database.single
  simp only [unassigned, Option.isNone_none, if_true] at same
  subst row
  cases parsed : parseTopic old.2.topic with
  | none =>
      simp only [addressed, parsed, Option.map_none]
      exact ⟨unassigned, old, oldMember, rfl, rfl⟩
  | some address =>
      simp only [addressed, parsed, Option.map_some]
      exact ⟨trivial, old, oldMember, rfl, rfl⟩

end Queue
end PetlibroRelay
