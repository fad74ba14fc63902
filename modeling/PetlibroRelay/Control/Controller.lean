import PetlibroRelay.Control.Settings
import PetlibroRelay.Foundations.Machine
import PetlibroRelay.Responder.LocalResponder

namespace PetlibroRelay
namespace Control

open Foundations
open Protocol
open Shadow
open Responder

/-!
# The device control controller

Calls of the controller run on threads of their own.  The machine interleaves
them with device messages and cloud messages at the grain of the locks: a read
or a write of the shadow, the section that registers a transaction, the section
that resolves an acknowledgement and the section that cleans up are steps of
their own.  What a thread does between two of these is part of one of them.

The waiter reads the code of its transaction twice without the lock, first for
its type and then for its value, and these reads are two steps.

Whether the device is bridged and present, what the publisher returns, when a
wait ends and which identifier is minted are left to the environment.  Minted
identifiers are distinct, and payloads can be serialized.
-/

def SUPPORTED_PRODUCT_ID : String := "PLAF203"

inductive Request where
  | setGroup (groupName : String) (updates : Dict String Json) (minimal : Bool)
  | dispense (grainNum : Int)
  | edit (request : EditRequest)
  | resync

/-- What is left to write once the feeder has confirmed a command. -/
inductive Persistence where
  | settings (values : Settings)
  | schedule (edit : ScheduleEdit)
  | nothing

/-- The arguments of `_submit`, with what the caller does afterwards. -/
structure Submission where
  command : String
  controlName : String
  values : Dict String Json
  payload : Dict String Json
  persistence : Persistence

/-- What a call returns. -/
inductive Reply where
  | confirmed (controlName : String) (values : Dict String Json) (cloudSyncBehavior : String)
  | resynced (plansTotal cloudPlans localPlans : Nat)
  | skipped

/-- A call's transaction.  The number of events before it is kept for reference. -/
structure Registration where
  msgId : String
  submission : Submission
  eventsBefore : Nat

abbrev Result := Except ControlError Reply

/-- How far a registered transaction is.  `leaving` is the entry of the final
cleanup. -/
inductive Progress where
  | registered
  | published
  | waiting
  | woken
  | integer
  | leaving (result : Except ControlError Unit)

inductive Phase where
  | begun
  | emptyTable
  | desiredRead (allowed : List String) (desired : Dict String Json)
  | built (submission : Submission)
  | bridged (submission : Submission)
  | online (submission : Submission)
  | inFlight (registration : Registration) (progress : Progress)
  | confirmed (registration : Registration)
  | returned (registration : Option Registration) (result : Result)

/-- One call.  `code` and `completed` belong to its pending entry, and
`readVersion` notes how many edits were stored when it read the table. -/
structure Call where
  deviceId : String
  request : Request
  phase : Phase := .begun
  code : Json := .null
  completed : Bool := false
  readVersion : Nat := 0

/-- The transaction of a call that has one. -/
def Phase.registration? : Phase -> Option Registration
  | .inFlight registration _ => some registration
  | .confirmed registration => some registration
  | .returned registration _ => registration
  | _ => none

/-- What a call is about to submit, has submitted or has yet to write. -/
def Phase.submission? : Phase -> Option Submission
  | .built submission => some submission
  | .bridged submission => some submission
  | .online submission => some submission
  | .inFlight registration _ => some registration.submission
  | .confirmed registration => some registration.submission
  | _ => none

/-- Whether the call is over. -/
def Phase.isReturned : Phase -> Bool
  | .returned _ _ => true
  | _ => false

def Call.registration? (call : Call) : Option Registration :=
  call.phase.registration?

/-! ## Building submissions -/

/-- The clock readings of one step. -/
structure Clock where
  timestampMs : Int
  syncTimeMs : Int
  toUtc : LocalTime -> String

def settingsSubmission (clock : Clock) (known : Settings) (updates : Dict String Json) :
    Except ControlError Submission := do
  let values ← groupValues clock.toUtc known updates
  return {
    command := Command.ATTR_SET_SERVICE
    controlName := (updates.head?.map Prod.fst).getD ""
    values := values.entries
    payload := Dict.update [("cmd", .str Command.ATTR_SET_SERVICE),
      ("ts", .int clock.timestampMs)] values.entries
    persistence := .settings values }

def dispenseSubmission (clock : Clock) (grainNum : Int) : Except ControlError Submission :=
  if MIN_GRAIN_NUM ≤ grainNum ∧ grainNum ≤ MAX_GRAIN_NUM then
    .ok {
      command := Command.MANUAL_FEEDING_SERVICE
      controlName := "manual:dispense"
      values := [("grainNum", .int grainNum)]
      payload := [("cmd", .str Command.MANUAL_FEEDING_SERVICE), ("ts", .int clock.timestampMs),
        ("grainNum", .int grainNum)]
      persistence := .nothing }
  else .error (.stateUnavailable "grainNum must be between 1 and 48")

/-- The submission of a complete schedule snapshot. -/
def snapshotSubmission (clock : Clock) (controlName : String) (plans : List Plan)
    (persistence : Persistence) : Submission where
  command := Command.FEEDING_PLAN_SERVICE
  controlName := controlName
  values := [("plans", .arr (plans.map Json.obj))]
  payload := [("cmd", .str Command.FEEDING_PLAN_SERVICE), ("ts", .int clock.timestampMs),
    ("plans", .arr (plans.map Json.obj))]
  persistence := persistence

def editSubmission (clock : Clock) (plans : List Plan) (request : EditRequest) :
    Except ControlError Submission := do
  let edit ← editSchedule plans clock.syncTimeMs request
  return snapshotSubmission clock edit.kind.controlName edit.plans (.schedule edit)

/-- The plans with integer identifiers other than zero. -/
def persistedSchedulePlans (stored : List SchedulePlan) : List Plan :=
  (stored.map SchedulePlan.plan).filter (fun plan =>
    (planId? plan).any (fun id => decide (id ≠ 0)))

/-- The plans of a snapshot submission. -/
def Submission.plans (submission : Submission) : List Plan :=
  match Dict.get? submission.values "plans" with
  | some (.arr items) => items.filterMap Json.fields?
  | _ => []

def CLOUD_SYNC_CONFIRMED : List String := ["soundSwitch"]

/-- What a call returns after its transaction succeeded. -/
def Submission.reply (submission : Submission) : Request -> Reply
  | .resync =>
      let ids := submission.plans.filterMap planId?
      .resynced submission.plans.length (ids.countP (fun id => decide (0 < id)))
        (ids.countP (fun id => decide (id < 0)))
  | _ => .confirmed submission.controlName submission.values
      (if submission.controlName ∈ CLOUD_SYNC_CONFIRMED then "confirmed" else "unknown")

/-- Go on with a submission, or return what was raised while building it. -/
def Phase.ofSubmission : Except ControlError Submission -> Phase
  | .ok submission => .built submission
  | .error problem => .returned none (.error problem)

/-! ## Steps of one thread -/

inductive PublishOutcome where
  | published
  | refused
  | raised
  deriving DecidableEq, Repr

/-- One step of a thread that changes nothing but its own call, with what the
environment answers in it. -/
inductive Answer where
  | build (clock : Clock)
  | readDesired
  | readConfirmed (clock : Clock)
  | readTable (clock : Clock)
  | readFallback (clock : Clock)
  | context (productId : Option String)
  | presence (online : Bool)
  | publish (outcome : PublishOutcome)
  | startWait
  | wake
  | timeOut
  | readType
  | readCode

def Answer.isTableRead : Answer -> Bool
  | .readTable _ => true
  | _ => false

/-- The phase after a step of the thread's own. -/
def Call.advance (shadow : StateShadow) (call : Call) (answer : Answer) : Option Phase :=
  match call.phase, answer with
  | .begun, .build clock =>
      match call.request with
      | .setGroup groupName updates true =>
          some (Phase.ofSubmission (do
            let _ ← allowedFields groupName updates
            settingsSubmission clock (Settings.empty.update updates) updates))
      | .dispense grainNum => some (Phase.ofSubmission (dispenseSubmission clock grainNum))
      | _ => none
  | .begun, .readDesired =>
      match call.request with
      | .setGroup groupName updates false =>
          match allowedFields groupName updates with
          | .ok allowed => some (.desiredRead allowed (shadow.getDesired call.deviceId))
          | .error problem => some (.returned none (.error problem))
      | _ => none
  | .desiredRead allowed desired, .readConfirmed clock =>
      match call.request with
      | .setGroup _ updates _ =>
          let effective := (Settings.empty.update desired).update
            (shadow.getLocalConfirmed call.deviceId)
          some (Phase.ofSubmission
            (settingsSubmission clock (effective.restrict allowed) updates))
      | _ => none
  | .begun, .readTable clock =>
      let stored := shadow.getSchedulePlans call.deviceId
      match call.request with
      | .edit request =>
          match stored with
          | [] => some .emptyTable
          | _ :: _ => some (Phase.ofSubmission
              (editSubmission clock (stored.map SchedulePlan.plan) request))
      | .resync =>
          match persistedSchedulePlans stored with
          | [] => some (.returned none (.ok .skipped))
          | plan :: rest => some (.built
              (snapshotSubmission clock "schedule:resync" (plan :: rest) .nothing))
      | _ => none
  | .emptyTable, .readFallback clock =>
      match call.request with
      | .edit request => some (Phase.ofSubmission
          (editSubmission clock ((shadow.getFeedingPlans call.deviceId).getD []) request))
      | _ => none
  | .built submission, .context productId =>
      if productId = some SUPPORTED_PRODUCT_ID then some (.bridged submission)
      else some (.returned none
        (.error (.stateUnavailable "Device is not bridged or supported")))
  | .bridged submission, .presence present =>
      if present then some (.online submission)
      else some (.returned none (.error (.offline "Device is offline")))
  | .inFlight registration .registered, .publish outcome =>
      match outcome with
      | .published => some (.inFlight registration .published)
      | .refused => some (.inFlight registration
          (.leaving (.error (.publishFailed "Local MQTT publication failed"))))
      | .raised => some (.inFlight registration (.leaving (.error .raised)))
  | .inFlight registration .published, .startWait =>
      if call.completed then some (.inFlight registration .woken)
      else some (.inFlight registration .waiting)
  | .inFlight registration .waiting, .wake =>
      if call.completed then some (.inFlight registration .woken) else none
  | .inFlight registration .waiting, .timeOut =>
      some (.inFlight registration
        (.leaving (.error (.ackTimeout "Device acknowledgement timeout"))))
  | .inFlight registration .woken, .readType =>
      match call.code with
      | .int _ => some (.inFlight registration .integer)
      | code => some (.inFlight registration
          (.leaving (.error (.ackRejected registration.submission.controlName code))))
  | .inFlight registration .integer, .readCode =>
      if call.code.eqInt 0 then some (.inFlight registration (.leaving (.ok ())))
      else some (.inFlight registration
        (.leaving (.error (.ackRejected registration.submission.controlName call.code))))
  | _, _ => none

/-! ## The controller machine -/

inductive Event where
  | arrived (deviceId topic : String) (payload : List UInt8)
  | persisted (call : Nat) (deviceId : String) (persistence : Persistence)
  | plansCached (deviceId : String) (plans : List Plan)
  | plansMerged (deviceId : String) (plans : List Plan)

/-- How many edits of a device have been stored. -/
def version (deviceId : String) (events : List Event) : Nat :=
  events.countP (fun event =>
    match event with
    | .persisted _ owner (.schedule _) => decide (owner = deviceId)
    | _ => false)

/-- The controller with its shadow.  `merging` are the cloud snapshots that are
cached but not yet merged into the schedule.  `minted` and `events` only record
what has happened. -/
structure Controller where
  shadow : StateShadow
  pending : Dict (String × String) Nat := []
  active : List String := []
  calls : List Call := []
  merging : List (String × List Plan) := []
  minted : Dict (String × String) Nat := []
  events : List Event := []

inductive ControlAction where
  | call (deviceId : String) (request : Request)
  | advance (call : Nat) (answer : Answer)
  | register (call : Nat) (msgId : String)
  | observe (deviceId topic : String) (payload : List UInt8)
  | cleanUp (call : Nat)
  | persist (call : Nat)
  | cloudMessage (deviceId topic : String) (payload : List UInt8)
  | mergePlans (deviceId : String) (plans : List Plan)

/-! ### What a step makes of a call -/

/-- The call after a step of its own. -/
def Call.moved (call : Call) (answer : Answer) (phase : Phase) (events : List Event) : Call :=
  { call with
    phase := phase
    readVersion := if answer.isTableRead then version call.deviceId events else call.readVersion }

/-- The call after its slot turned out to be taken. -/
def Call.refused (call : Call) : Call :=
  let message := "A control request is already pending for device " ++ call.deviceId
  { call with phase := .returned none (.error (.busy message)) }

/-- The call after it returned from a transaction. -/
def Call.finished (call : Call) (registration : Registration) (result : Result) : Call :=
  { call with phase := .returned (some registration) result }

/-- The phase after the final cleanup. -/
def Registration.afterCleanUp (registration : Registration) : Except ControlError Unit -> Phase
  | .ok _ => .confirmed registration
  | .error problem => .returned (some registration) (.error problem)

/-- The shadow after the write of a confirmed command, unless it raises. -/
def Persistence.write (shadow : StateShadow) (deviceId : String) :
    Persistence -> Option StateShadow
  | .settings values => some (shadow.updateLocalConfirmed deviceId values.entries)
  | .schedule edit => shadow.replaceLocalSchedulePlans deviceId edit.plans
  | .nothing => some shadow

/-! ### Acknowledgements -/

/-- What an acknowledgement says. -/
structure Acknowledgement where
  msgId : String
  command : String
  code : Json
  deriving DecidableEq

def servicePostTopic (deviceId : String) : String :=
  topicPrefix deviceId ++ "/device/service/post"

/-- Read a message as an acknowledgement of a command. -/
def acknowledgement? (loads : Loads) (deviceId topic : String) (payload : List UInt8) :
    Option Acknowledgement :=
  if topic = servicePostTopic deviceId then
    match decodedObject loads payload with
    | some body =>
        match Dict.get? body "msgId", Dict.get? body "cmd" with
        | some (.str msgId), some (.str command) =>
            some ⟨msgId, command, fieldOrNull body "code"⟩
        | _, _ => none
    | none => none
  else none

inductive AckRoute where
  | notMatched
  | forwardToCloud
  | localOnly
  deriving DecidableEq, Repr

namespace Controller

def setCall (controller : Controller) (number : Nat) (call : Call) : Controller :=
  { controller with calls := controller.calls.set number call }

/-- The call whose pending entry an acknowledgement matches. -/
def matched? (controller : Controller) (deviceId : String) (ack : Acknowledgement) :
    Option (Nat × Call) :=
  match Dict.get? controller.pending (deviceId, ack.msgId) with
  | none => none
  | some number =>
      match controller.calls[number]? with
      | none => none
      | some call =>
          match call.registration? with
          | none => none
          | some registration =>
              if registration.submission.command = ack.command then some (number, call) else none

/-- Resolve one acknowledgement and say where the message may go. -/
def observeDeviceMessage (loads : Loads) (controller : Controller) (deviceId topic : String)
    (payload : List UInt8) : AckRoute × Controller :=
  match acknowledgement? loads deviceId topic payload with
  | none => (.notMatched, controller)
  | some ack =>
      match controller.matched? deviceId ack with
      | none => (.notMatched, controller)
      | some (number, call) =>
          (if ack.command = Command.FEEDING_PLAN_SERVICE then .localOnly else .forwardToCloud,
            controller.setCall number { call with code := ack.code, completed := true })

/-- The locked section of `_submit` that takes the slot of the device. -/
def register (controller : Controller) (number : Nat) (msgId : String) : Option Controller :=
  match controller.calls[number]? with
  | none => none
  | some call =>
      match call.phase with
      | .online submission =>
          if call.deviceId ∈ controller.active then
            some (controller.setCall number call.refused)
          else if (Dict.keys controller.minted).any (fun key => decide (key.2 = msgId)) then none
          else
            let registration : Registration :=
              { msgId := msgId, submission := submission, eventsBefore := controller.events.length }
            some { controller with
              pending := Dict.set controller.pending (call.deviceId, msgId) number
              active := call.deviceId :: controller.active
              minted := Dict.set controller.minted (call.deviceId, msgId) number
              calls := controller.calls.set number
                { call with phase := .inFlight registration .registered } }
      | _ => none

/-- The locked section at the end of `_submit`. -/
def cleanUp (controller : Controller) (number : Nat) : Option Controller :=
  match controller.calls[number]? with
  | none => none
  | some call =>
      match call.phase with
      | .inFlight registration (.leaving result) =>
          some { controller with
            pending := Dict.erase controller.pending (call.deviceId, registration.msgId)
            active := controller.active.filter (fun deviceId => decide (deviceId ≠ call.deviceId))
            calls := controller.calls.set number
              { call with phase := registration.afterCleanUp result } }
      | _ => none

/-- The write of what the feeder confirmed.  A write that raises is rolled back,
and the call fails. -/
def persist (controller : Controller) (number : Nat) : Option Controller :=
  match controller.calls[number]? with
  | none => none
  | some call =>
      match call.phase with
      | .confirmed registration =>
          match registration.submission.persistence.write controller.shadow call.deviceId with
          | some shadow =>
              some { controller with
                shadow := shadow
                events := controller.events ++
                  [.persisted number call.deviceId registration.submission.persistence]
                calls := controller.calls.set number
                  (call.finished registration (.ok (registration.submission.reply call.request))) }
          | none => some (controller.setCall number (call.finished registration (.error .raised)))
      | _ => none

/-- What a cloud message without a plan set leaves in the shadow. -/
def learned (archived : StateShadow) (deviceId : String) : Lesson -> StateShadow
  | .settings values => archived.updateDesired deviceId values
  | _ => archived

/-- The writes of `observe_cloud_message` up to the cached plan set. -/
def cloudMessage (loads : Loads) (controller : Controller) (deviceId topic : String)
    (payload : List UInt8) : Controller :=
  let archived := controller.shadow.recordRaw deviceId topic payload (extractCommand loads payload)
  match lesson loads payload with
  | .plans plans => { controller with
      shadow := archived.updateFeedingPlans deviceId plans
      merging := (deviceId, plans) :: controller.merging
      events := controller.events ++ [.plansCached deviceId plans] }
  | other => { controller with shadow := learned archived deviceId other }

/-- The second write of a schedule push. -/
def mergePlans (controller : Controller) (deviceId : String) (plans : List Plan) :
    Option Controller :=
  if (deviceId, plans) ∈ controller.merging then
    let rest := { controller with merging := controller.merging.erase (deviceId, plans) }
    match controller.shadow.updateCloudSchedulePlans deviceId plans with
    | some shadow => some { rest with
        shadow := shadow, events := controller.events ++ [.plansMerged deviceId plans] }
    | none => some rest
  else none

end Controller

def controllerStep (loads : Loads) (controller : Controller) : ControlAction -> Option Controller
  | .call deviceId request => some { controller with
      calls := controller.calls ++ [{ deviceId := deviceId, request := request }] }
  | .advance number answer =>
      match controller.calls[number]? with
      | none => none
      | some call =>
          (call.advance controller.shadow answer).map (fun phase =>
            controller.setCall number (call.moved answer phase controller.events))
  | .register number msgId => controller.register number msgId
  | .observe deviceId topic payload =>
      let after := (controller.observeDeviceMessage loads deviceId topic payload).2
      some { after with events := after.events ++ [.arrived deviceId topic payload] }
  | .cleanUp number => controller.cleanUp number
  | .persist number => controller.persist number
  | .cloudMessage deviceId topic payload =>
      some (controller.cloudMessage loads deviceId topic payload)
  | .mergePlans deviceId plans => controller.mergePlans deviceId plans

/-- The controller among its threads, the feeders and the cloud. -/
def controllerMachine (loads : Loads) : Machine Controller ControlAction where
  step := controllerStep loads

/-- A fresh controller over what an earlier process left in the shadow. -/
def Controller.initial (shadow : StateShadow) : Controller := { shadow := shadow }

/-! ## Stretches of a run -/

def noClock : Clock := ⟨0, 0, fun _ => "00:00"⟩

/-- From the built submission to the wait for the feeder. -/
def submitSteps (number : Nat) (msgId : String) : List ControlAction :=
  [.advance number (.context (some SUPPORTED_PRODUCT_ID)), .advance number (.presence true),
    .register number msgId, .advance number (.publish .published), .advance number .startWait]

/-- From the wait to the return of a call whose feeder has answered. -/
def confirmSteps (number : Nat) : List ControlAction :=
  [.advance number .wake, .advance number .readType, .advance number .readCode, .cleanUp number,
    .persist number]

/-- A message of a device on its service topic. -/
def answerFrom (deviceId : String) (payload : List UInt8) : ControlAction :=
  .observe deviceId (servicePostTopic deviceId) payload

/-- Whether a call has returned success. -/
def Phase.succeeded : Phase -> Bool
  | .returned (some _) (.ok _) => true
  | _ => false

end Control
end PetlibroRelay
