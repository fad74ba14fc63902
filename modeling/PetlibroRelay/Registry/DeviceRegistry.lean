import Mathlib.Algebra.Order.Field.Rat
import Mathlib.Data.List.Sort
import Mathlib.Data.Rat.Floor
import PetlibroRelay.Foundations.Dict
import PetlibroRelay.Foundations.Machine
import PetlibroRelay.Protocol.Topics

namespace PetlibroRelay
namespace Registry

open Foundations

/-!
# The device registry

The durable store of the identities learned from CONNECT packets.  Being seen
is not being trusted: every row carries a status, and only rows that are known,
enabled and fresh may be bridged.  A row is inserted with the status the
auto-enrolment setting gives it, and seeing the device again refreshes its
credentials but never its status.  A row whose device stays away for the
retention window is forgotten, whatever its status is.

Every method runs under one lock and one transaction, so each is an atomic
function on the database.  A row's own times are whole seconds, which is what
the database's clock gives.  The decision of the schema before several devices
could be bridged is carried over once, when the columns are added.
-/

/-- Whether an identity may be bridged. -/
inductive DeviceStatus where
  | known
  | candidate
  | disabled
  deriving DecidableEq, Repr

/-- What recording an identity did. -/
inductive RecordOutcome where
  | enrolled
  | refreshed
  | pendingApproval
  | heldDisabled
  deriving DecidableEq, Repr

/-- A device's client identifier, credentials and product. -/
structure DeviceIdentity where
  clientId : String
  username : String
  password : String
  productId : String := Protocol.PRODUCT_ID
  deriving DecidableEq, Repr

/-- Non-secret metadata of an identity. -/
structure DeviceRegistryEntry where
  clientId : String
  username : String
  productId : String
  firstSeenAt : Rat
  lastSeenAt : Rat
  status : DeviceStatus
  enabled : Bool
  deriving DecidableEq, Repr

/-- One row of `device_identities`, without its key.  A column that is NULL is
`none`. -/
structure IdentityRow where
  username : String
  password : String
  productId : Option String
  firstSeenAt : Rat
  lastSeenAt : Rat
  status : Option DeviceStatus
  enabled : Option Int
  deriving DecidableEq, Repr

namespace IdentityRow

/-- The identity a row stands for.  A missing or empty product is the default. -/
def identity (row : IdentityRow) (clientId : String) : DeviceIdentity where
  clientId := clientId
  username := row.username
  password := row.password
  productId := (row.productId.filter (fun product => decide (product ≠ ""))).getD
    Protocol.PRODUCT_ID

/-- What is shown of a row, where a missing `enabled` counts as false. -/
def entry (row : IdentityRow) (clientId : String) : Option DeviceRegistryEntry :=
  row.status.map (fun status =>
    { clientId := clientId
      username := row.username
      productId := (row.identity clientId).productId
      firstSeenAt := row.firstSeenAt
      lastSeenAt := row.lastSeenAt
      status := status
      enabled := decide (row.enabled.getD 0 ≠ 0) })

/-- The row is known and enabled. -/
def enrolled (row : IdentityRow) : Bool :=
  decide (row.status = some .known) && decide (row.enabled = some 1)

end IdentityRow

/-- The columns that the older schema does not have. -/
structure IdentityColumns where
  productId : Bool
  status : Bool
  enabled : Bool
  deriving DecidableEq, Repr

/-- The database file.  The client identifier is the primary key. -/
structure RegistryDatabase where
  columns : IdentityColumns
  activeClientId : Option String
  identities : Dict String IdentityRow
  unique : (Dict.keys identities).Nodup

namespace RegistryDatabase

/-- A row of a table that has just been given the columns it did not have. -/
def addColumns (columns : IdentityColumns) (row : IdentityRow) : IdentityRow :=
  { row with
    productId := if columns.productId then row.productId else none
    status := if columns.status then row.status else none
    enabled := if columns.enabled then row.enabled else none }

/-- The three updates that follow: the default product, the identity that was
active, and everything else as a candidate. -/
def carryOver (activeClientId : Option String) (clientId : String) (row : IdentityRow) :
    IdentityRow :=
  let product := { row with productId := some (row.productId.getD Protocol.PRODUCT_ID) }
  if product.status ≠ none then product
  else if clientId = activeClientId.getD "" then
    { product with status := some .known, enabled := some 1 }
  else { product with status := some .candidate, enabled := some 0 }

def migrateToMultiDevice (database : RegistryDatabase) : RegistryDatabase :=
  if database.columns = ⟨true, true, true⟩ then database
  else
    { columns := ⟨true, true, true⟩
      activeClientId := database.activeClientId
      identities := database.identities.map (fun entry =>
        (entry.1, carryOver database.activeClientId entry.1 (addColumns database.columns entry.2)))
      unique := by
        rw [Dict.keys, List.map_map]
        exact database.unique }

end RegistryDatabase

/-- An open registry.  Opening adds the columns that are missing. -/
structure DeviceRegistry where
  retentionSeconds : Rat
  autoEnroll : Bool
  database : RegistryDatabase
  migrated : database.columns = ⟨true, true, true⟩

namespace DeviceRegistry

/-- Open the registry on a database. -/
def openOn (database : RegistryDatabase) (retentionSeconds : Rat) (autoEnroll : Bool) :
    DeviceRegistry where
  retentionSeconds := retentionSeconds
  autoEnroll := autoEnroll
  database := database.migrateToMultiDevice
  migrated := by
    rw [RegistryDatabase.migrateToMultiDevice]
    split
    · assumption
    · rfl

/-- The row of a client. -/
def row (registry : DeviceRegistry) (clientId : String) : Option IdentityRow :=
  Dict.get? registry.database.identities clientId

def cutoff (registry : DeviceRegistry) (now : Rat) : Rat :=
  now - registry.retentionSeconds

/-- The status of a client, where a row without one counts as no row. -/
def statusOf (registry : DeviceRegistry) (clientId : String) : Option DeviceStatus :=
  (registry.row clientId).bind IdentityRow.status

/-- The database's clock, in whole seconds. -/
def databaseTime (now : Rat) : Rat := (now.floor : Rat)

/-- The row an upsert leaves for an identity: a new row takes the given status, a
known one keeps its own. -/
def upserted (now : Rat) (identity : DeviceIdentity) (status : DeviceStatus) :
    Option IdentityRow -> IdentityRow
  | none =>
      { username := identity.username
        password := identity.password
        productId := some identity.productId
        firstSeenAt := databaseTime now
        lastSeenAt := databaseTime now
        status := some status
        enabled := some (if status = .known then 1 else 0) }
  | some row =>
      { row with
        username := identity.username
        password := identity.password
        productId := some identity.productId
        lastSeenAt := databaseTime now }

/-- The status to store and the outcome to report. -/
def resolve (registry : DeviceRegistry) (clientId : String) : DeviceStatus × RecordOutcome :=
  match registry.statusOf clientId with
  | none => if registry.autoEnroll then (.known, .enrolled) else (.candidate, .pendingApproval)
  | some .known => (.known, .refreshed)
  | some .disabled => (.disabled, .heldDisabled)
  | some .candidate => (.candidate, .pendingApproval)

/-- Record an identity seen on a CONNECT and resolve its status. -/
def record (registry : DeviceRegistry) (now : Rat) (identity : DeviceIdentity) :
    DeviceRegistry × RecordOutcome :=
  let resolved := registry.resolve identity.clientId
  ({ registry with
      database := { registry.database with
        identities := Dict.set registry.database.identities identity.clientId
          (upserted now identity resolved.1 (registry.row identity.clientId))
        unique := Dict.nodup_keys_set _ _ _ registry.database.unique } },
    resolved.2)

/-- Every fresh identity that may be bridged, in the order they were first seen. -/
def getBridgeable (registry : DeviceRegistry) (now : Rat) : List DeviceIdentity :=
  ((registry.database.identities.filter (fun entry =>
      entry.2.enrolled && decide (registry.cutoff now ≤ entry.2.lastSeenAt))).insertionSort
    (fun first second => first.2.firstSeenAt ≤ second.2.firstSeenAt)).map
      (fun entry => entry.2.identity entry.1)

/-- Metadata of every fresh identity.  The status of a row has to be one of the
three, so a row without one raises. -/
def entries (registry : DeviceRegistry) (now : Rat) : Option (List DeviceRegistryEntry) :=
  ((registry.database.identities.filter (fun entry =>
      decide (registry.cutoff now ≤ entry.2.lastSeenAt))).insertionSort
    (fun first second => first.2.firstSeenAt ≤ second.2.firstSeenAt)).mapM
      (fun entry => entry.2.entry entry.1)

/-- Forget the identities whose device has stayed away, and say how many. -/
def purgeExpired (registry : DeviceRegistry) (now : Rat) : DeviceRegistry × Nat :=
  let fresh := registry.database.identities.filter (fun entry =>
    decide (registry.cutoff now ≤ entry.2.lastSeenAt))
  ({ registry with
      database := { registry.database with
        identities := fresh
        unique := (List.filter_sublist.map Prod.fst).nodup registry.database.unique } },
    registry.database.identities.length - fresh.length)

/-! ## What each method does to a row -/

theorem row_record (registry : DeviceRegistry) (now : Rat) (identity : DeviceIdentity)
    (clientId : String) :
    (registry.record now identity).1.row clientId =
      if identity.clientId = clientId then
        some (upserted now identity (registry.resolve identity.clientId).1
          (registry.row identity.clientId))
      else registry.row clientId :=
  Dict.get?_set _ _ _ _

theorem row_purgeExpired (registry : DeviceRegistry) (now : Rat) (clientId : String) :
    (registry.purgeExpired now).1.row clientId =
      (registry.row clientId).filter (fun row => decide (registry.cutoff now ≤ row.lastSeenAt)) :=
  Dict.get?_filter registry.database.unique _ clientId

/-- An open registry has all the columns, so opening it again changes no row. -/
theorem row_openOn (registry : DeviceRegistry) (retentionSeconds : Rat) (autoEnroll : Bool)
    (clientId : String) :
    (openOn registry.database retentionSeconds autoEnroll).row clientId =
      registry.row clientId := by
  have same : registry.database.migrateToMultiDevice = registry.database := by
    rw [RegistryDatabase.migrateToMultiDevice, if_pos registry.migrated]
  exact congrArg (fun database => Dict.get? database.identities clientId) same

/-- The identities that may be bridged are those of the fresh enrolled rows. -/
theorem mem_getBridgeable (registry : DeviceRegistry) (now : Rat) (identity : DeviceIdentity) :
    identity ∈ registry.getBridgeable now ↔
      exists clientId row, registry.row clientId = some row ∧ row.enrolled = true ∧
        registry.cutoff now ≤ row.lastSeenAt ∧ row.identity clientId = identity := by
  simp only [getBridgeable, List.mem_map, List.mem_insertionSort, List.mem_filter,
    Bool.and_eq_true, decide_eq_true_eq]
  constructor
  · rintro ⟨entry, ⟨member, enrolled, fresh⟩, same⟩
    exact ⟨entry.1, entry.2, Dict.get?_eq_some_of_mem registry.database.unique member, enrolled,
      fresh, same⟩
  · rintro ⟨clientId, row, found, enrolled, fresh, same⟩
    exact ⟨(clientId, row), ⟨Dict.mem_of_get?_eq_some found, enrolled, fresh⟩, same⟩

/-- Seeing a device again keeps the status it has. -/
theorem statusOf_record {registry : DeviceRegistry} {clientId : String} {status : DeviceStatus}
    (stored : registry.statusOf clientId = some status) (now : Rat) (identity : DeviceIdentity) :
    (registry.record now identity).1.statusOf clientId = some status := by
  rw [statusOf, row_record]
  split
  · next same =>
      rw [same]
      obtain ⟨row, found, own⟩ := Option.bind_eq_some_iff.mp stored
      rw [found, Option.bind_some]
      exact own
  · exact stored

end DeviceRegistry

/-! ## Runs of the registry -/

inductive RegistryAction where
  | record (now : Rat) (identity : DeviceIdentity)
  | purgeExpired (now : Rat)
  | reopen (retentionSeconds : Rat) (autoEnroll : Bool)
  deriving DecidableEq, Repr

/-- The registry over any history of captures, purges and restarts, with any
readings of the clocks. -/
def registryMachine : Machine DeviceRegistry RegistryAction where
  step registry
    | .record now identity => some (registry.record now identity).1
    | .purgeExpired now => some (registry.purgeExpired now).1
    | .reopen retentionSeconds autoEnroll =>
        some (.openOn registry.database retentionSeconds autoEnroll)

/-- The action does not forget the client. -/
def keepsRow (clientId : String) (registry : DeviceRegistry) : RegistryAction -> Bool
  | .purgeExpired now =>
      (registry.row clientId).all (fun row => decide (registry.cutoff now ≤ row.lastSeenAt))
  | _ => true

theorem statusOf_step {registry after : DeviceRegistry} {action : RegistryAction}
    {clientId : String} {status : DeviceStatus}
    (stored : registry.statusOf clientId = some status)
    (keeps : keepsRow clientId registry action = true)
    (moved : registryMachine.step registry action = some after) :
    after.statusOf clientId = some status := by
  cases action with
  | record now identity =>
      cases moved
      exact DeviceRegistry.statusOf_record stored now identity
  | purgeExpired now =>
      cases moved
      obtain ⟨row, found, own⟩ := Option.bind_eq_some_iff.mp stored
      rw [keepsRow, found, Option.all_some] at keeps
      rw [DeviceRegistry.statusOf, DeviceRegistry.row_purgeExpired, found, Option.filter_some,
        if_pos keeps, Option.bind_some]
      exact own
  | reopen retentionSeconds autoEnroll =>
      cases moved
      rw [DeviceRegistry.statusOf, DeviceRegistry.row_openOn]
      exact stored

/-- A row that is not known is never returned as bridgeable. -/
theorem not_bridgeable_of_status {registry : DeviceRegistry} {clientId : String}
    {status : DeviceStatus} (stored : registry.statusOf clientId = some status)
    (held : status ≠ .known) (now : Rat) (identity : DeviceIdentity)
    (bridgeable : identity ∈ registry.getBridgeable now) : identity.clientId ≠ clientId := by
  obtain ⟨own, row, found, enrolled, -, rfl⟩ :=
    (DeviceRegistry.mem_getBridgeable registry now identity).mp bridgeable
  intro same
  have sameClient : own = clientId := same
  rw [DeviceRegistry.statusOf, ← sameClient, found, Option.bind_some] at stored
  rw [IdentityRow.enrolled, Bool.and_eq_true, decide_eq_true_eq] at enrolled
  exact held (Option.some.inj (stored.symm.trans enrolled.1))

/-- A decision against bridging an identity sticks for as long as no purge
forgets it: from any registry that stores it as a candidate or as disabled,
through any further captures, purges and openings, it keeps that status and is
never bridgeable. -/
theorem enrolment_decision_sticks (registry : DeviceRegistry) (actions : List RegistryAction)
    (clientId : String) (status : DeviceStatus)
    (stored : registry.statusOf clientId = some status) (held : status ≠ .known)
    (kept : registryMachine.Meets
      (fun registry action => keepsRow clientId registry action = true) registry actions) :
    (registryMachine.run registry actions).statusOf clientId = some status ∧
      forall now identity,
        identity ∈ (registryMachine.run registry actions).getBridgeable now ->
          identity.clientId ≠ clientId := by
  have sticks : (registryMachine.run registry actions).statusOf clientId = some status := by
    apply registryMachine.run_invariant_of_meets
      (fun registry action => keepsRow clientId registry action = true)
      (fun registry => registry.statusOf clientId = some status)
    · intro registry action after before keeps moved
      exact statusOf_step before keeps moved
    · exact stored
    · exact kept
  exact ⟨sticks, not_bridgeable_of_status sticks held⟩

/-- An empty database of the current schema. -/
def emptyDatabase : RegistryDatabase where
  columns := ⟨true, true, true⟩
  activeClientId := none
  identities := []
  unique := List.nodup_nil

/-- A feeder that connects while auto-enrolment is off. -/
def waitingFeeder : DeviceIdentity where
  clientId := "feeder"
  username := "user"
  password := "secret"

/-- The waiting feeder reconnects after a restart with auto-enrolment on, within
the retention of three days. -/
theorem candidate_stays_candidate :
    let registry := (DeviceRegistry.openOn emptyDatabase 259200 false).record 0 waitingFeeder
    (registryMachine.run registry.1 [.reopen 259200 true, .purgeExpired 100000,
        .record 100000 waitingFeeder]).statusOf "feeder" = some .candidate ∧
      forall now identity,
        identity ∈ (registryMachine.run registry.1 [.reopen 259200 true, .purgeExpired 100000,
          .record 100000 waitingFeeder]).getBridgeable now -> identity.clientId ≠ "feeder" :=
  enrolment_decision_sticks _ _ "feeder" .candidate (by decide +kernel) (by decide)
    (by decide +kernel)

/-- A candidate that stays away for longer than the retention is forgotten, and
is then enrolled like a feeder that was never seen. -/
theorem forgotten_candidate_is_enrolled :
    ¬ forall (registry : DeviceRegistry) (early late : List RegistryAction) (clientId : String),
      ((registryMachine.run registry early).statusOf clientId = some .candidate ∨
        (registryMachine.run registry early).statusOf clientId = some .disabled) ->
      (registryMachine.run registry (early ++ late)).statusOf clientId ≠ some .known ∧
        forall now identity,
          identity ∈ (registryMachine.run registry (early ++ late)).getBridgeable now ->
            identity.clientId ≠ clientId := by
  intro sticky
  have never := (sticky (DeviceRegistry.openOn emptyDatabase 259200 false)
    [.record 0 waitingFeeder]
    [.reopen 259200 true, .purgeExpired 300000, .record 300000 waitingFeeder] "feeder"
    (Or.inl (by decide +kernel))).1
  exact never (by decide +kernel)

end Registry
end PetlibroRelay
