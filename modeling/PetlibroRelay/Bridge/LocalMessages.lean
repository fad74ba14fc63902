import PetlibroRelay.Control.ScheduleEdits
import PetlibroRelay.Control.Transactions
import PetlibroRelay.Upstream.DeviceContext

namespace PetlibroRelay
namespace Bridge

open Foundations
open Protocol
open Queue
open Shadow
open Responder
open Upstream
open Control

/-!
# Messages of the feeders

A message of a feeder is routed by its topic to a bridged device, shown to the
controller, and then answered by the responder or queued for the cloud.  The
acknowledgement of a schedule that the relay submitted itself belongs to neither:
the cloud never issued it, and it is no request.

The controller recognizes it by its pending entry.  That entry is gone once the
call has left its transaction, and later copies of the acknowledgement take the
way of any other message.
-/

/-! ## The way of a message -/

/-- The bridge, as far as messages of feeders are concerned. -/
structure MqttBridge where
  contexts : Dict String DeviceContext := []
  soundSwitchController : Option Controller := none
  responder : Option LocalResponderSettings := none
  logDeviceStartEvent : Bool := false

/-- What the thread reads after the controller has seen the message.  The state
of the cloud session is read anew each time. -/
structure LaterReads where
  shadow : StateShadow
  responder : LocalResponder
  moment : Moment
  decidesIn : UpstreamState
  queuesIn : UpstreamState
  countsLiveIn : UpstreamState

/-- What becomes of a message. -/
inductive LocalOutcome where
  | notDeviceTopic
  | unknownDevice
  | localOnly
  | answered (topic : String) (payload : Dict String Json)
  | swallowed
  | dropped
  | enqueued (call : EnqueueCall)
  | raised

/-- Whether the message was neither queued for the cloud nor answered. -/
def LocalOutcome.staysLocal : LocalOutcome -> Bool
  | .answered _ _ => false
  | .enqueued _ => false
  | _ => true

/-- The end of `handle_local_message`. -/
def enqueue (loads : Loads) (later : LaterReads) (deviceId productId topic : String)
    (payload : List UInt8) (qos : Nat) (faults : Faults := {}) : LocalOutcome :=
  if mayEnqueue loads false payload later.queuesIn then
    if faults.bindsKey loads payload then
      .enqueued (enqueueCall loads
        { deviceId := deviceId, productId := productId, isCloudToDevice := false, topic := topic,
          payload := payload, qos := qos } later.countsLiveIn.isOnline)
    else .raised
  else .dropped

/-- Where nothing raises a message is queued unless it is not kept. -/
theorem enqueue_none (loads : Loads) (later : LaterReads) (deviceId productId topic : String)
    (payload : List UInt8) (qos : Nat) :
    enqueue loads later deviceId productId topic payload qos =
      if mayEnqueue loads false payload later.queuesIn then
        .enqueued (enqueueCall loads
          { deviceId := deviceId, productId := productId, isCloudToDevice := false, topic := topic,
            payload := payload, qos := qos } later.countsLiveIn.isOnline)
      else .dropped := by
  rw [enqueue, Faults.bindsKey_none, if_pos rfl]

/-- What the device context does with a message.  It is put into the state cache first. -/
def handleLocalMessage (loads : Loads) (responder : Option LocalResponderSettings)
    (later : LaterReads) (deviceId productId topic : String) (payload : List UInt8) (qos : Nat)
    (faults : Faults := {}) : LocalOutcome :=
  if faults.cacheFails then .raised
  else
    match responder with
    | none => enqueue loads later deviceId productId topic payload qos faults
    | some settings =>
        match (later.responder.decide settings loads later.shadow later.moment deviceId topic
            payload later.decidesIn faults).1 with
        | .respondLocal replyTopic reply _ => .answered replyTopic reply
        | .ignore => .swallowed
        | .raised => .raised
        | .cacheAndForward => enqueue loads later deviceId productId topic payload qos faults

namespace MqttBridge

/-- The device a message is routed to, with its context. -/
def route (bridge : MqttBridge) (topic : String) : Except LocalOutcome (String × DeviceContext) :=
  match parseTopic topic with
  | none => .error .notDeviceTopic
  | some address =>
      if address.isPost then
        match Dict.get? bridge.contexts address.deviceId with
        | none => .error .unknownDevice
        | some context => .ok (address.deviceId, context)
      else .error .notDeviceTopic

/-- What the controller says about the message. -/
def ackRoute (bridge : MqttBridge) (loads : Loads) (deviceId topic : String)
    (payload : List UInt8) : AckRoute :=
  match bridge.soundSwitchController with
  | none => .notMatched
  | some controller => (controller.observeDeviceMessage loads deviceId topic payload).1

/-- Whether the log line of a start event raises. -/
def logDeviceStartEventRaises (bridge : MqttBridge) (loads : Loads) (payload : List UInt8)
    (faults : Faults) : Bool :=
  bridge.logDeviceStartEvent &&
    decide (extractCommand loads payload = some Command.DEVICE_START_EVENT) &&
    faults.unloggable payload

/-- A payload that the decoder refuses ends the call before it does anything: whoever looks
at the message first decodes it. -/
def onLocalMessage (bridge : MqttBridge) (loads : Loads) (later : LaterReads) (topic : String)
    (payload : List UInt8) (qos : Nat) (faults : Faults := {}) : LocalOutcome :=
  match bridge.route topic with
  | .error outcome => outcome
  | .ok (deviceId, context) =>
      if faults.refuses payload || bridge.logDeviceStartEventRaises loads payload faults then
        .raised
      else
        match bridge.ackRoute loads deviceId topic payload with
        | .localOnly => .localOnly
        | _ => handleLocalMessage loads bridge.responder later deviceId context.productId topic
            payload qos faults

/-- Whether a message on the topic goes to a bridged device. -/
def isRouted (bridge : MqttBridge) (topic : String) : Bool :=
  match bridge.route topic with
  | .error _ => false
  | .ok _ => true

end MqttBridge

/-! ## Topics -/

theorem segments_servicePostTopic (deviceId : String) :
    segments (servicePostTopic deviceId) =
      "dl" :: "PLAF203" :: (segments deviceId ++ ["device", "service", "post"]) := by
  have start : TOPIC_ROOT ++ "/" ++ PRODUCT_ID = "dl/PLAF203" := by decide
  have ending : "/device/service/post" = "/" ++ "device/service/post" := by decide
  rw [servicePostTopic, topicPrefix, start, ending, ← String.append_assoc, segments_append,
    segments_append]
  have startParts : segments "dl/PLAF203" = ["dl", "PLAF203"] := by decide
  have endParts : segments "device/service/post" = ["device", "service", "post"] := by decide
  rw [startParts, endParts, List.append_assoc]
  rfl

/-- A service topic that parses belongs to the device it was made for. -/
theorem deviceId_of_servicePostTopic {deviceId : String} {address : TopicAddress}
    (parsed : parseTopic (servicePostTopic deviceId) = some address) :
    address.deviceId = deviceId := by
  have parts := (parts_of_parseTopic parsed).1
  rw [segments_servicePostTopic] at parts
  have ends : segments deviceId ++ ["device", "service", "post"] =
      [address.deviceId] ++ [DEVICE_SEGMENT, address.category, address.direction] :=
    (List.cons.inj (List.cons.inj parts).2).2
  exact eq_of_segments (List.append_inj' ends rfl).1

/-! ## What the responder makes of an acknowledgement -/

/-- The topic and the command of a message that reads as an acknowledgement. -/
theorem command_of_acknowledgement {loads : Loads} {deviceId topic : String}
    {payload : List UInt8} {ack : Acknowledgement}
    (read : acknowledgement? loads deviceId topic payload = some ack) :
    topic = servicePostTopic deviceId ∧ extractCommand loads payload = some ack.command := by
  rw [acknowledgement?] at read
  split at read
  · next same =>
      refine ⟨same, ?_⟩
      split at read
      · next body decoded =>
          split at read
          · next msgId command _ named =>
              cases read
              rw [extractCommand, decoded, Option.bind_some, named]
              rfl
          · cases read
      · cases read
  · cases read

/-- Whether the responder leaves a message to be queued or answers it. -/
def proceeds : ResponderAction -> Bool
  | .ignore => false
  | .raised => false
  | _ => true

/-- Only acknowledgements of clock corrections are swallowed, and only a clock
request can make the responder raise. -/
theorem answer_schedule_proceeds (responder : LocalResponder) (settings : LocalResponderSettings)
    (shadow : StateShadow) (moment : Moment) (deviceId productId : String)
    (body : Dict String Json) (upstream : UpstreamState) :
    proceeds (responder.answer settings shadow moment deviceId productId
      Command.FEEDING_PLAN_SERVICE body upstream).1 = true := by
  have cases := responder.answer_cases settings shadow moment deviceId productId
    Command.FEEDING_PLAN_SERVICE body upstream
  generalize (responder.answer settings shadow moment deviceId productId
    Command.FEEDING_PLAN_SERVICE body upstream).1 = action at cases
  cases cases with
  | acked handled =>
      have other : Command.FEEDING_PLAN_SERVICE ≠ Command.NTP_SYNC := by decide
      rw [LocalResponder.ackForLocalMessage, if_neg other] at handled
      cases handled
  | clockRaises answers raises =>
      have other : Command.FEEDING_PLAN_SERVICE ≠ Command.NTP := by decide
      exact absurd answers.1 other
  | replied category msgId reply known may => rfl
  | forwarded => rfl

theorem decide_schedule_proceeds (responder : LocalResponder) (settings : LocalResponderSettings)
    {loads : Loads} (shadow : StateShadow) (moment : Moment) (deviceId topic : String)
    {payload : List UInt8} (upstream : UpstreamState)
    (schedule : extractCommand loads payload = some Command.FEEDING_PLAN_SERVICE) :
    proceeds (responder.decide settings loads shadow moment deviceId topic payload upstream).1 =
      true := by
  rw [LocalResponder.decide, Faults.archives_none, if_pos rfl]
  dsimp only
  split
  · next command body read =>
      have known : extractCommand loads payload = some command := congrArg Prod.fst read
      cases schedule.symm.trans known
      split
      · exact answer_schedule_proceeds _ _ _ _ _ _ _ _
      · rfl
  · rfl

/-- A schedule message that the context handles is queued or answered. -/
theorem handled_schedule_leaves {loads : Loads} (responder : Option LocalResponderSettings)
    (later : LaterReads) (deviceId productId topic : String) {payload : List UInt8} (qos : Nat)
    (schedule : extractCommand loads payload = some Command.FEEDING_PLAN_SERVICE) :
    (handleLocalMessage loads responder later deviceId productId topic payload qos).staysLocal =
      false := by
  have queued : (enqueue loads later deviceId productId topic payload qos).staysLocal = false := by
    have admitted : mayEnqueue loads false payload later.queuesIn = true := by
      rw [mayEnqueue, schedule, shouldEnqueue]
      exact Bool.or_true _
    rw [enqueue_none, if_pos admitted]
    rfl
  cases responder with
  | none => exact queued
  | some settings =>
      have proceeded := decide_schedule_proceeds later.responder settings later.shadow later.moment
        deviceId topic later.decidesIn schedule
      rw [handleLocalMessage, if_neg Bool.false_ne_true]
      split
      · rfl
      · next ignored =>
          rw [ignored] at proceeded
          cases proceeded
      · next raised =>
          rw [raised] at proceeded
          cases proceeded
      · exact queued

/-! ## Acknowledgements of the relay's own schedules -/

/-- What the controller says to the acknowledgement of a schedule it submitted:
it is local as long as its entry is there. -/
theorem ackRoute_of_schedule {loads : Loads} {controller : Controller}
    (coherent : Coherent controller) (minted : Minted controller) {number : Nat} {call : Call}
    {registration : Registration} {topic : String} {payload : List UInt8} {code : Json}
    (found : controller.calls[number]? = some call)
    (own : call.registration? = some registration)
    (schedule : registration.submission.command = Command.FEEDING_PLAN_SERVICE)
    (read : acknowledgement? loads call.deviceId topic payload =
      some ⟨registration.msgId, Command.FEEDING_PLAN_SERVICE, code⟩) :
    (controller.observeDeviceMessage loads call.deviceId topic payload).1 =
      if (Dict.get? controller.pending (call.deviceId, registration.msgId)).isSome then .localOnly
      else .notMatched := by
  rw [Controller.observeDeviceMessage, read]
  dsimp only
  cases entry : Dict.get? controller.pending (call.deviceId, registration.msgId) with
  | none =>
      have unmatched : controller.matched? call.deviceId
          ⟨registration.msgId, Command.FEEDING_PLAN_SERVICE, code⟩ = none := by
        simp only [Controller.matched?, entry]
      rw [unmatched]
      rfl
  | some holder =>
      have mine : Dict.get? controller.minted (call.deviceId, registration.msgId) = some number := by
        rw [minted, viewOf, found, Option.bind_some, Call.mintKey_of_registration own]
      cases mine.symm.trans (coherent.minted_of_entry minted entry)
      have matched : controller.matched? call.deviceId
          ⟨registration.msgId, Command.FEEDING_PLAN_SERVICE, code⟩ = some (number, call) :=
        matched_of_entry entry found own schedule
      rw [matched]
      rfl

/-- In every reachable state of the controller, whatever the message reads on its
way: the acknowledgement of a schedule that the relay submitted is neither queued
nor answered if and only if it is not routed to a bridged device or the
transaction's entry is still there. -/
theorem schedule_ack_stays_local_iff (loads : Loads) (shadow : StateShadow)
    (actions : List ControlAction) (contexts : Dict String DeviceContext)
    (responder : Option LocalResponderSettings) (later : LaterReads) (number : Nat) (call : Call)
    (registration : Registration) (topic : String) (payload : List UInt8) (qos : Nat) (code : Json)
    (found : ((controllerMachine loads).run (.initial shadow) actions).calls[number]? = some call)
    (own : call.registration? = some registration)
    (schedule : registration.submission.command = Command.FEEDING_PLAN_SERVICE)
    (read : acknowledgement? loads call.deviceId topic payload =
      some ⟨registration.msgId, Command.FEEDING_PLAN_SERVICE, code⟩) :
    let final := (controllerMachine loads).run (.initial shadow) actions
    let bridge : MqttBridge :=
      { contexts := contexts, soundSwitchController := some final, responder := responder }
    (bridge.onLocalMessage loads later topic payload qos).staysLocal = true ↔
      bridge.isRouted topic = false ∨
        (Dict.get? final.pending (call.deviceId, registration.msgId)).isSome = true := by
  intro final bridge
  have coherent : Coherent final := coherent_run loads shadow actions
  have minted : Minted final := minted_run loads shadow actions
  rcases command_of_acknowledgement read with ⟨topicSame, command⟩
  have routes := ackRoute_of_schedule coherent minted found own schedule read
  rw [MqttBridge.onLocalMessage, MqttBridge.isRouted]
  unfold MqttBridge.route
  cases parsed : parseTopic topic with
  | none => exact ⟨fun _ => Or.inl rfl, fun _ => rfl⟩
  | some address =>
      rw [topicSame] at parsed
      have device := deviceId_of_servicePostTopic parsed
      dsimp only
      by_cases posts : address.isPost = true
      · rw [if_pos posts]
        cases known : Dict.get? bridge.contexts address.deviceId with
        | none => exact ⟨fun _ => Or.inl rfl, fun _ => rfl⟩
        | some context =>
            dsimp only
            rw [MqttBridge.ackRoute, device]
            dsimp only [bridge]
            rw [routes]
            cases entry : Dict.get? final.pending (call.deviceId, registration.msgId) with
            | none =>
                have leaves := handled_schedule_leaves responder later call.deviceId
                  context.productId topic qos command
                refine ⟨fun stays => ?_, fun condition => ?_⟩
                · exact absurd (leaves.symm.trans stays) Bool.false_ne_true
                · rcases condition with impossible | impossible
                  · cases impossible
                  · cases impossible
            | some holder => exact ⟨fun _ => Or.inr rfl, fun _ => rfl⟩
      · rw [if_neg posts]
        exact ⟨fun _ => Or.inl rfl, fun _ => rfl⟩

/-! ## A second acknowledgement -/

/-- A call creates a plan on device `A` and waits for the feeder. -/
def createsPlan : List ControlAction :=
  [.call "A" (.edit (.create mondayPlan)), .advance 0 (.readTable noClock),
    .advance 0 (.readFallback noClock)] ++ submitSteps 0 "m"

/-- The controller after some actions. -/
def controllerAfter (actions : List ControlAction) : Controller :=
  (controllerMachine loadsSnapshots).run (.initial {}) actions

/-- A bridge with device `A` over a controller. -/
def bridgeOver (controller : Controller) : MqttBridge :=
  { contexts := [("A", {})], soundSwitchController := some controller, responder := none }

/-- The cloud session is up and the responder is not used. -/
def onlineReads : LaterReads where
  shadow := {}
  responder := {}
  moment := ⟨0, "f", ⟨0, none, none, none, none⟩⟩
  decidesIn := .online
  queuesIn := .online
  countsLiveIn := .online

/-- The feeder acknowledges the plan and the call returns.  The broker delivers the
same acknowledgement again, and it is queued for the cloud. -/
theorem repeated_schedule_ack_is_queued :
    let final := controllerAfter
      (createsPlan ++ [answerFrom "A" (snapshotAccepted "m")] ++ confirmSteps 0)
    (final.calls[0]?).any (fun call => call.phase.succeeded) = true ∧
      ((bridgeOver final).onLocalMessage loadsSnapshots onlineReads (servicePostTopic "A")
        (snapshotAccepted "m") 0).staysLocal = false := by
  decide +kernel

/-- The first acknowledgement, while the call is waiting. -/
theorem schedule_ack_stays_local_while_pending :
    ((bridgeOver (controllerAfter createsPlan)).onLocalMessage loadsSnapshots onlineReads
      (servicePostTopic "A") (snapshotAccepted "m") 0).staysLocal = true := by
  have found : ((controllerAfter createsPlan).calls[0]?).isSome = true := by decide +kernel
  have own : (((controllerAfter createsPlan).calls[0]?).get found).registration?.isSome = true := by
    decide +kernel +revert
  refine (schedule_ack_stays_local_iff loadsSnapshots {} createsPlan [("A", {})] none onlineReads 0
    _ _ (servicePostTopic "A") (snapshotAccepted "m") 0 (.int 0) (Option.some_get found).symm
    (Option.some_get own).symm ?_ ?_).mpr (Or.inr ?_)
  · decide +kernel +revert
  · decide +kernel +revert
  · decide +kernel +revert

end Bridge
end PetlibroRelay
