import PetlibroRelay.Camera.CameraRegistry
import PetlibroRelay.Responder.LocalResponder

namespace PetlibroRelay
namespace Camera

open Foundations
open Responder

/-!
# The registrar of the camera bridge

The relay tells the bridge the identifier and the address of each camera.  A call of
`register` is filtered by two sets of mappings, those in flight and those registered
before, and what passes is put into a queue.  A worker takes the mappings out one after
the other, sends each to the bridge and notes the answer.

The filter and the put are two sections, and so are the request of the worker and the
note of its answer, so other steps can come in between.

For one sequence of calls the last mapping that was queued for a device is the one the
bridge has in the end.  A call whose mapping has been registered before is passed over
even if another mapping was queued since.
-/

/-! ## Mappings -/

structure CameraBridgeMapping where
  deviceId : String
  uid : String
  feederIp : Option String
  deriving DecidableEq, Repr

def validDeviceID (deviceId : String) : Bool :=
  !deviceId.toList.isEmpty && deviceId.toList.all (fun character =>
    (decide ('A' ≤ character) && decide (character ≤ 'Z')) ||
      (decide ('a' ≤ character) && decide (character ≤ 'z')) ||
      (decide ('0' ≤ character) && decide (character ≤ '9')) ||
      decide (character = '_') || decide (character = '-'))

/-- One number of an address, as it is printed. -/
def isIPv4Part (part : List Char) : Bool :=
  !part.isEmpty && decide (part.length ≤ 3) && part.all Char.isDigit &&
    (decide (part.length = 1) || decide (part.head? ≠ some '0')) &&
    decide (part.foldl (fun value digit => 10 * value + (digit.toNat - '0'.toNat)) 0 ≤ 255)

/-- An address in the form in which the relay has all of them. -/
def isIPv4 (text : String) : Bool :=
  let parts := text.toList.splitOn '.'
  decide (parts.length = 4) && parts.all isIPv4Part

/-! ## The bridge -/

/-- What the bridge knows of a device. -/
structure BridgeEntry where
  uid : String
  ip : Option String
  deriving DecidableEq, Repr

abbrev BridgeRegistry := Dict String BridgeEntry

/-- The checks of `Upsert`. -/
def CameraBridgeMapping.isAccepted (mapping : CameraBridgeMapping) : Bool :=
  validDeviceID mapping.deviceId && validUID mapping.uid && mapping.feederIp.all isIPv4

/-- The entry after an `Upsert` that passed its checks.  Without an address the known one
is kept. -/
def upsertEntry (known : Option BridgeEntry) (uid : String) (ip : Option String) : BridgeEntry :=
  ⟨uid, ip.or (known.bind BridgeEntry.ip)⟩

def upsertRegistry (registry : BridgeRegistry) (mapping : CameraBridgeMapping) : BridgeRegistry :=
  Dict.set registry mapping.deviceId
    (upsertEntry (Dict.get? registry mapping.deviceId) mapping.uid mapping.feederIp)

/-- What the bridge lists of its registry. -/
def listRegistry (registry : BridgeRegistry) : Dict String (Option String) :=
  registry.map (fun entry => (entry.1, entry.2.ip))

/-! ## The registrar -/

def REGISTRATION_QUEUE_MAXSIZE : Nat := 128

/-- Two sets and a queue. -/
structure CameraBridgeRegistrar where
  registered : List CameraBridgeMapping := []
  inFlight : List CameraBridgeMapping := []
  pending : List CameraBridgeMapping := []
  deriving DecidableEq, Repr

namespace CameraBridgeRegistrar

variable (registrar : CameraBridgeRegistrar) (mapping : CameraBridgeMapping)

/-- A call of `register` returns at once. -/
def skips (force : Bool) : Bool :=
  !isCameraUid (.str mapping.uid) || decide (mapping ∈ registrar.inFlight) ||
    (!force && decide (mapping ∈ registrar.registered))

/-- The mapping is in flight from here on. -/
def enter : CameraBridgeRegistrar :=
  { registrar with inFlight := mapping :: registrar.inFlight }

def isFull : Bool := decide (REGISTRATION_QUEUE_MAXSIZE ≤ registrar.pending.length)

def putNowait : CameraBridgeRegistrar :=
  { registrar with pending := registrar.pending ++ [mapping] }

/-- The mapping is no longer in flight. -/
def discard : CameraBridgeRegistrar :=
  { registrar with inFlight := registrar.inFlight.filter (fun other => decide (other ≠ mapping)) }

/-- The worker notes an answer. -/
def note (accepted : Bool) : CameraBridgeRegistrar :=
  { registrar.discard mapping with
    registered :=
      if accepted then registrar.registered.insert mapping
      else registrar.registered.filter (fun other => decide (other ≠ mapping)) }

end CameraBridgeRegistrar

/-- Where the worker is with the mapping it has taken. -/
inductive RegistrarWorker where
  | idle
  | sending (mapping : CameraBridgeMapping)
  | answered (mapping : CameraBridgeMapping) (accepted : Bool)
  deriving DecidableEq, Repr

/-- The mapping that has been taken and may not have reached the bridge. -/
def RegistrarWorker.unsent : RegistrarWorker -> List CameraBridgeMapping
  | .sending mapping => [mapping]
  | _ => []

/-- The registrar, its worker and the bridge. -/
structure Registrations where
  registrar : CameraBridgeRegistrar := {}
  worker : RegistrarWorker := .idle
  bridge : BridgeRegistry := []
  deriving DecidableEq, Repr

namespace Registrations

variable (registrations : Registrations)

/-- The worker takes a mapping out of the queue. -/
def get : Option Registrations :=
  match registrations.worker, registrations.registrar.pending with
  | .idle, mapping :: rest => some { registrations with
      registrar := { registrations.registrar with pending := rest }
      worker := .sending mapping }
  | _, _ => none

/-- The request of the worker.  It may not reach the bridge, and the answer may be lost on
the way back. -/
def request (delivered heard : Bool) : Option Registrations :=
  match registrations.worker with
  | .sending mapping =>
      let taken := delivered && mapping.isAccepted
      some { registrations with
        bridge := if taken then upsertRegistry registrations.bridge mapping
          else registrations.bridge
        worker := .answered mapping (taken && heard) }
  | _ => none

/-- The worker notes the answer. -/
def note : Option Registrations :=
  match registrations.worker with
  | .answered mapping accepted => some { registrations with
      registrar := registrations.registrar.note mapping accepted
      worker := .idle }
  | _ => none

/-- The mappings that have not reached the bridge, in the order in which they will. -/
def ahead : List CameraBridgeMapping :=
  registrations.worker.unsent ++ registrations.registrar.pending

variable {registrations} {after : Registrations}

theorem get_eq_some (moved : registrations.get = some after) :
    exists mapping rest, registrations.worker = .idle ∧
      registrations.registrar.pending = mapping :: rest ∧
      after = { registrations with
        registrar := { registrations.registrar with pending := rest }
        worker := .sending mapping } := by
  unfold get at moved
  split at moved
  · next mapping rest idle queued =>
      cases moved
      exact ⟨mapping, rest, idle, queued, rfl⟩
  · cases moved

theorem request_eq_some {delivered heard : Bool}
    (moved : registrations.request delivered heard = some after) :
    exists mapping, registrations.worker = .sending mapping ∧
      after = { registrations with
        bridge := if delivered && mapping.isAccepted then upsertRegistry registrations.bridge mapping
          else registrations.bridge
        worker := .answered mapping (delivered && mapping.isAccepted && heard) } := by
  unfold request at moved
  split at moved
  · next mapping sending =>
      cases moved
      exact ⟨mapping, sending, rfl⟩
  · cases moved

theorem note_eq_some (moved : registrations.note = some after) :
    exists mapping accepted, registrations.worker = .answered mapping accepted ∧
      after = { registrations with
        registrar := registrations.registrar.note mapping accepted
        worker := .idle } := by
  unfold note at moved
  split at moved
  · next mapping accepted answered =>
      cases moved
      exact ⟨mapping, accepted, answered, rfl⟩
  · cases moved

/-- Taking a mapping out of the queue leaves it ahead of the others. -/
theorem ahead_of_get (moved : registrations.get = some after) :
    after.ahead = registrations.ahead ∧ after.bridge = registrations.bridge := by
  obtain ⟨mapping, rest, idle, queued, rfl⟩ := get_eq_some moved
  refine ⟨?_, rfl⟩
  simp only [ahead, RegistrarWorker.unsent, idle, queued, List.nil_append, List.singleton_append]

theorem ahead_of_note (moved : registrations.note = some after) :
    after.ahead = registrations.ahead ∧ after.bridge = registrations.bridge := by
  obtain ⟨mapping, accepted, answered, rfl⟩ := note_eq_some moved
  refine ⟨?_, rfl⟩
  simp only [ahead, RegistrarWorker.unsent, answered, CameraBridgeRegistrar.note,
    CameraBridgeRegistrar.discard]

/-- What is being sent is ahead of everything else. -/
theorem ahead_of_sending {mapping : CameraBridgeMapping}
    (sending : registrations.worker = .sending mapping) :
    registrations.ahead = mapping :: registrations.registrar.pending := by
  rw [ahead, sending]
  rfl

end Registrations

end Camera
end PetlibroRelay
