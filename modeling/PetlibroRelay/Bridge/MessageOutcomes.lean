import PetlibroRelay.Bridge.LocalMessages

namespace PetlibroRelay
namespace Bridge

open Foundations
open Protocol
open Queue
open Pump
open Shadow
open Responder
open Upstream
open Control

/-!
# What becomes of a message

A message of a bridged feeder ends in one of five ways: the controller consumes
it, it is queued for the cloud, it is answered, it is ignored, or it is dropped.
The endings are told apart by what the handling does to the queue and the broker
and by the grounds on which it does nothing, so that no message can have two.

A message on which the handling raises ends in none of them.  The responder raises on a
clock request whose clock is an integer too large for a floating-point number.  The
decoder refuses some payloads with errors that are not caught, a text with an unpaired
surrogate cannot be stored as the command or as part of the key of a row, and the state
cache is written before anything else is done.
-/

/-- A message together with what the thread reads while it handles it.  The state
of the cloud session is the same at every reading. -/
structure LocalDelivery where
  bridge : MqttBridge
  shadow : StateShadow
  responder : LocalResponder
  moment : Moment
  upstream : UpstreamState
  topic : String
  payload : List UInt8
  qos : Nat
  faults : Faults := {}

namespace LocalDelivery

def reads (delivery : LocalDelivery) : LaterReads where
  shadow := delivery.shadow
  responder := delivery.responder
  moment := delivery.moment
  decidesIn := delivery.upstream
  queuesIn := delivery.upstream
  countsLiveIn := delivery.upstream

def outcome (loads : Loads) (delivery : LocalDelivery) : LocalOutcome :=
  delivery.bridge.onLocalMessage loads delivery.reads delivery.topic delivery.payload delivery.qos
    delivery.faults

end LocalDelivery

/-- The rows an outcome puts into the queue. -/
def LocalOutcome.rows : LocalOutcome -> List EnqueueCall
  | .enqueued call => [call]
  | _ => []

/-- The replies an outcome publishes to the feeder. -/
def LocalOutcome.replies : LocalOutcome -> List (String × Dict String Json)
  | .answered topic payload => [(topic, payload)]
  | _ => []

def LocalOutcome.returned : LocalOutcome -> Bool
  | .raised => false
  | _ => true

/-! ## Grounds -/

section Grounds

variable (loads : Loads) (delivery : LocalDelivery) (deviceId : String)

/-- The message acknowledges a schedule whose transaction is open. -/
def MatchedScheduleAck : Prop :=
  exists controller ack matched, delivery.bridge.soundSwitchController = some controller ∧
    acknowledgement? loads deviceId delivery.topic delivery.payload = some ack ∧
    controller.matched? deviceId ack = some matched ∧
    ack.command = Command.FEEDING_PLAN_SERVICE

/-- The message is a clock correction whose identifier the responder has answered
within the retention time. -/
def AnsweredSync : Prop :=
  extractCommand loads delivery.payload = some Command.NTP_SYNC ∧
    exists settings body msgId answeredAt, delivery.bridge.responder = some settings ∧
      decodedObject loads delivery.payload = some body ∧
      Dict.get? body "msgId" = some (.str msgId) ∧
      ((deviceId, msgId), answeredAt) ∈ delivery.responder.handledMsgIds ∧
      delivery.moment.now - settings.handledMsgIdTtlSeconds ≤ answeredAt

/-- The message is a report that is not kept for a session that is not there. -/
def EphemeralOffline : Prop :=
  (policyFor false (extractCommand loads delivery.payload)).dropWhenDestinationOffline = true ∧
    delivery.upstream.isOnline = false

/-- The responder has a clock request to answer and cannot divide its clock. -/
def ClockRaises : Prop :=
  exists settings body, delivery.bridge.responder = some settings ∧ settings.enabled = true ∧
    decodedObject loads delivery.payload = some body ∧
    extractCommand loads delivery.payload = some Command.NTP ∧ settings.ntp = true ∧
    (settings.alwaysAnswerNtpLocally = true ∨ delivery.upstream.isOnline = false) ∧
    clockDivisionRaises body = true

/-- What makes the handling raise.  The acknowledgement of a schedule whose transaction is
open is only decoded and logged. -/
inductive Raises : Prop
  | refused (refuses : delivery.faults.refuses delivery.payload = true)
  | unloggable (raises : delivery.bridge.logDeviceStartEventRaises loads delivery.payload
      delivery.faults = true)
  | uncached (unmatched : ¬ MatchedScheduleAck loads delivery deviceId)
      (fails : delivery.faults.cacheFails = true)
  | unarchived (unmatched : ¬ MatchedScheduleAck loads delivery deviceId)
      (responder : delivery.bridge.responder.isSome = true) (command : String)
      (named : extractCommand loads delivery.payload = some command)
      (unencodable : delivery.faults.unencodable command = true)
  | clock (raises : ClockRaises loads delivery)
  | setting (named : extractCommand loads delivery.payload = some Command.ATTR_SET_SERVICE)
      (field : String) (pushed : field ∈ attrSetSettingFields loads delivery.payload)
      (unencodable : delivery.faults.unencodable field = true)

end Grounds

/-! ## Endings -/

inductive Ending where
  | consumed
  | queued
  | answered
  | ignored
  | dropped
  deriving DecidableEq, Repr

/-- Nothing is queued and nothing is published. -/
def LocalOutcome.Silent (outcome : LocalOutcome) : Prop :=
  outcome.rows = [] ∧ outcome.replies = []

/-- The handling returns and has ended in the given way. -/
def EndsAs (loads : Loads) (delivery : LocalDelivery) (deviceId : String) (ending : Ending) :
    Prop :=
  (delivery.outcome loads).returned = true ∧
    match ending with
    | .consumed => (delivery.outcome loads).Silent ∧ MatchedScheduleAck loads delivery deviceId
    | .queued => (delivery.outcome loads).replies = [] ∧
        exists call, (delivery.outcome loads).rows = [call] ∧ call.deviceId = deviceId ∧
          call.direction = LOCAL_TO_UPSTREAM ∧ call.topic = delivery.topic ∧
          call.payload = delivery.payload ∧ call.qos = delivery.qos
    | .answered => (delivery.outcome loads).rows = [] ∧
        exists reply, (delivery.outcome loads).replies = [reply]
    | .ignored => (delivery.outcome loads).Silent ∧ AnsweredSync loads delivery deviceId
    | .dropped => (delivery.outcome loads).Silent ∧ EphemeralOffline loads delivery

section Cases

variable {loads : Loads} {delivery : LocalDelivery} {address : TopicAddress}

/-- The command of a message that acknowledges a schedule. -/
theorem command_of_matched {deviceId : String}
    (matched : MatchedScheduleAck loads delivery deviceId) :
    extractCommand loads delivery.payload = some Command.FEEDING_PLAN_SERVICE := by
  obtain ⟨_, ack, _, _, read, _, schedule⟩ := matched
  rw [(command_of_acknowledgement read).2, schedule]

/-- The ending that the effects and the command leave possible. -/
def possibleEnding (outcome : LocalOutcome) (command : Option String) : Ending :=
  match outcome.rows, outcome.replies with
  | _ :: _, _ => .queued
  | [], _ :: _ => .answered
  | [], [] =>
      if command = some Command.FEEDING_PLAN_SERVICE then .consumed
      else if command = some Command.NTP_SYNC then .ignored
      else .dropped

theorem EndsAs.possible {deviceId : String} {ending : Ending}
    (ends : EndsAs loads delivery deviceId ending) :
    ending = possibleEnding (delivery.outcome loads) (extractCommand loads delivery.payload) := by
  obtain ⟨_, grounds⟩ := ends
  cases ending with
  | consumed =>
      obtain ⟨⟨rows, replies⟩, matched⟩ := grounds
      simp only [possibleEnding, rows, replies, command_of_matched matched, if_true]
  | queued =>
      obtain ⟨_, call, rows, _⟩ := grounds
      simp only [possibleEnding, rows]
  | answered =>
      obtain ⟨rows, reply, replies⟩ := grounds
      simp only [possibleEnding, rows, replies]
  | ignored =>
      obtain ⟨⟨rows, replies⟩, named, _⟩ := grounds
      have other : some Command.NTP_SYNC ≠ some Command.FEEDING_PLAN_SERVICE := by decide
      simp only [possibleEnding, rows, replies, named, if_neg other, if_true]
  | dropped =>
      obtain ⟨⟨rows, replies⟩, ephemeral, _⟩ := grounds
      -- Neither of the two commands is one of an ephemeral report.
      have notSchedule : extractCommand loads delivery.payload ≠
          some Command.FEEDING_PLAN_SERVICE := by
        intro named
        rw [named] at ephemeral
        exact absurd ephemeral (by decide)
      have notSync : extractCommand loads delivery.payload ≠ some Command.NTP_SYNC := by
        intro named
        rw [named] at ephemeral
        exact absurd ephemeral (by decide)
      simp only [possibleEnding, rows, replies, if_neg notSchedule, if_neg notSync]

end Cases

/-- A clock request with the given digits. -/
def clockRequest (digits : String) : List UInt8 :=
  utf8 ("\x7b\"cmd\": \"NTP\", \"ts\": " ++ digits ++ "\x7d")

def clockBody (stamp : Int) : Dict String Json := [("cmd", .str Command.NTP), ("ts", .int stamp)]

/-- A decoder that knows one request. -/
def loadsClock (digits : String) (stamp : Int) : Loads := fun payload =>
  if payload = clockRequest digits then some (.obj (clockBody stamp)) else none

end Bridge
end PetlibroRelay
