import PetlibroRelay.Protocol.ReplayPolicy
import PetlibroRelay.Shadow.StateShadow
import PetlibroRelay.Upstream.Telemetry

namespace PetlibroRelay
namespace Responder

open Foundations
open Protocol
open Shadow
open Upstream

/-!
# The local responder

What the relay learns from cloud messages, and which requests of a feeder it
answers itself while the cloud is unreachable.  Counters and log lines are left
out.  The clock, fresh identifiers and the daylight-saving schedule of the
device's time zone are inputs.
-/

/-- The `cmd` of a payload and its decoded body. -/
def parse (loads : Loads) (payload : List UInt8) : Option String × Option (Dict String Json) :=
  (extractCommand loads payload, decodedObject loads payload)

/-! ## Learning from the cloud -/

def REQUIRED_PLAN_FIELDS : List String := ["planId", "executionTime", "grainNum"]

/-- The plan an entry defines, unless it only names one. -/
def completePlan? (entry : Json) : Option Plan :=
  match entry with
  | .obj fields =>
      if REQUIRED_PLAN_FIELDS.all (fun field => decide (field ∈ Dict.keys fields)) then some fields
      else none
  | _ => none

/-- The value of a field, where a missing one is null. -/
def fieldOrNull (body : Dict String Json) (field : String) : Json :=
  (Dict.get? body field).getD .null

/-- Whether a value can be bound to a column as it is. -/
def isBindable (value : Json) (faults : Faults := {}) : Bool :=
  match value with
  | .arr _ => false
  | .obj _ => false
  | .int number => fitsInteger number
  | .str text => !faults.unencodable text
  | _ => true

/-- What a cloud message teaches.  A plan set is stored together with the
identifier of the message, and one that cannot be bound is refused.  Settings are
stored under their names, all of them or, where a name cannot be bound, none. -/
inductive Lesson where
  | plans (plans : List Plan)
  | refused
  | settings (values : Dict String Json)
  | nothing

/-- The part of `observe_cloud_message` that reads the message. -/
def lesson (loads : Loads) (payload : List UInt8) (faults : Faults := {}) : Lesson :=
  match parse loads payload with
  | (some command, some body) =>
      if command = Command.FEEDING_PLAN_SERVICE then
        match Dict.get? body "plans" with
        | some (.arr entries) =>
            match entries.mapM completePlan? with
            | some plans =>
                if isBindable (fieldOrNull body "msgId") faults then .plans plans else .refused
            | none => .nothing
        | _ => .nothing
      else if command ∈ [Command.ATTR_SET_SERVICE, Command.SERVER_CONFIG_PUSH,
          Command.DEVICE_CONFIG_SYNC] then
        match body.filter (fun entry => decide (entry.1 ∉ ["cmd", "ts", "msgId"])) with
        | [] => .nothing
        | values =>
            if values.all (fun entry => !faults.unencodable entry.1) then .settings values
            else .refused
      else .nothing
  | _ => .nothing

/-- Learn from a message of the cloud.  The flag is false where the decoder or a
write raises.  The second write of a plan set leaves the first one behind. -/
def observeCloudMessage (loads : Loads) (shadow : StateShadow) (deviceId topic : String)
    (payload : List UInt8) (faults : Faults := {}) : StateShadow × Bool :=
  if faults.archives loads payload then
    let archived := shadow.recordRaw deviceId topic payload (extractCommand loads payload)
    match lesson loads payload faults with
    | .plans plans =>
        let cached := archived.updateFeedingPlans deviceId plans
        match cached.updateCloudSchedulePlans deviceId plans with
        | some merged => (merged, true)
        | none => (cached, false)
    | .refused => (archived, false)
    | .settings values => (archived.updateDesired deviceId values, true)
    | .nothing => (archived, true)
  else (shadow, false)

/-! ## Answering the feeder -/

structure LocalResponderSettings where
  enabled : Bool := false
  ntp : Bool := false
  config : Bool := false
  feedingPlan : Bool := false
  alwaysAnswerNtpLocally : Bool := false
  clockDriftToleranceSeconds : Rat := 10
  handledMsgIdTtlSeconds : Rat

/-- The current offset and the next two transitions. -/
structure DstSchedule where
  offsetSeconds : Int
  nextOffsetSeconds : Option Int
  nextTransitionTsMs : Option Int
  secondNextOffsetSeconds : Option Int
  secondNextTransitionTsMs : Option Int

/-- What the responder returns, or that it raised. -/
inductive ResponderAction where
  | cacheAndForward
  | ignore
  | respondLocal (topic : String) (payload : Dict String Json) (handledMsgId : String)
  | raised
  deriving DecidableEq

/-- What the environment supplies to one decision. -/
structure Moment where
  now : Rat
  freshMsgId : String
  schedule : DstSchedule

/-- The identifiers answered locally, by device, with the time of the answer. -/
structure LocalResponder where
  handledMsgIds : Dict (String × String) Rat := []

def CAMERA_UID_LENGTH : Nat := 20

/-- Whether a value has the shape of a camera identifier. -/
def isCameraUid (value : Json) : Bool :=
  match value with
  | .str text => decide (text.length = CAMERA_UID_LENGTH) &&
      text.toList.all (fun character => decide (0x21 ≤ character.toNat) &&
        decide (character.toNat ≤ 0x7e))
  | _ => false

/-- Store the physical facts a device reported. -/
def recordReported (shadow : StateShadow) (deviceId command : String) (body : Dict String Json) :
    StateShadow :=
  if command = Command.HEARTBEAT then
    shadow.updateReported deviceId
      [("last_heartbeat_ts", fieldOrNull body "ts"), ("rssi", fieldOrNull body "rssi"),
        ("wifi_type", fieldOrNull body "wifiType")]
  else if command = Command.DEVICE_START_EVENT then
    let reported := shadow.updateReported deviceId
      [("firmware", fieldOrNull body "softwareVersion"),
        ("hardware_version", fieldOrNull body "hardwareVersion"), ("mac", fieldOrNull body "mac")]
    match Dict.get? body "uuid" with
    | some (.str uid) =>
        if isCameraUid (.str uid) then reported.recordCameraUid deviceId uid else reported
    | _ => reported
  else shadow

def MILLISECONDS_PER_SECOND : Nat := 1000

/-- The least magnitude that is rounded beyond the largest floating-point number. -/
def FLOAT_OVERFLOW : Nat := 2 ^ 1024 - 2 ^ 970

/-- Whether the division of the reported clock raises.  The quotient of two
integers is a floating-point number, which an integer clock can be too large for. -/
def clockDivisionRaises (body : Dict String Json) : Bool :=
  match fieldOrNull body "ts" with
  | .int stamp => decide (MILLISECONDS_PER_SECOND * FLOAT_OVERFLOW ≤ stamp.natAbs)
  | _ => false

/-- Whether the reported clock is far enough off.  A missing one counts as off,
and a number that is not one never compares as off. -/
def deviceClockHasDrifted (tolerance now : Rat) (body : Dict String Json) : Bool :=
  let drifted := fun stamp : Rat => decide (tolerance < |now - stamp / 1000|)
  match fieldOrNull body "ts" with
  | .bool flag => drifted (if flag then 1 else 0)
  | .int stamp => drifted stamp
  | .float (.finite stamp) => drifted stamp
  | .float (.infinity _) => true
  | .float .nan => false
  | _ => true

def milliseconds (now : Rat) : Json := .int (now * 1000).floor

/-- The fields of one announced transition. -/
def transitionFields (offsetName stampName : String) (offset stamp : Option Int) :
    Dict String Json :=
  match stamp with
  | none => []
  | some moment => [(offsetName, (offset.map Json.int).getD .null), (stampName, .int moment)]

/-- The body of a clock correction. -/
def ntpSync (moment : Moment) : Dict String Json :=
  [("cmd", .str Command.NTP_SYNC), ("ts", milliseconds moment.now),
    ("msgId", .str moment.freshMsgId),
    ("timezoneOffsetSeconds", .int moment.schedule.offsetSeconds),
    ("timezone", .int (moment.schedule.offsetSeconds.fdiv 3600))] ++
  transitionFields "nextDSTOffsetSeconds" "nextDSTTransitionTs"
    moment.schedule.nextOffsetSeconds moment.schedule.nextTransitionTsMs ++
  transitionFields "secondNextDSTOffsetSeconds" "secondNextDSTTransitionTs"
    moment.schedule.secondNextOffsetSeconds moment.schedule.secondNextTransitionTsMs

namespace LocalResponder

/-- Forget the answers that are older than the retention time. -/
def prune (responder : LocalResponder) (ttl now : Rat) : LocalResponder :=
  { handledMsgIds := responder.handledMsgIds.filter (fun entry => now - ttl ≤ entry.2) }

def wasHandledLocally (responder : LocalResponder) (deviceId msgId : String) : Bool :=
  (Dict.get? responder.handledMsgIds (deviceId, msgId)).isSome

/-- Whether a cloud message answers a request that was already served locally.
Looking it up also forgets old answers. -/
def isSuppressedCloudResponse (responder : LocalResponder) (settings : LocalResponderSettings)
    (loads : Loads) (now : Rat) (deviceId : String) (payload : List UInt8) :
    Bool × LocalResponder :=
  match (decodedObject loads payload).bind (fun body => Dict.get? body "msgId") with
  | some (.str msgId) =>
      let pruned := responder.prune settings.handledMsgIdTtlSeconds now
      (pruned.wasHandledLocally deviceId msgId, pruned)
  | _ => (false, responder)

/-- Remember the identifier and hand out the reply. -/
def reply (responder : LocalResponder) (now : Rat) (deviceId category productId msgId : String)
    (payload : Dict String Json) : ResponderAction × LocalResponder :=
  (.respondLocal (subTopic deviceId category productId) payload msgId,
    { handledMsgIds := Dict.set responder.handledMsgIds (deviceId, msgId) now })

/-- Answer with the last complete plan set of the cloud, if there is one. -/
def respondFeedingPlan (responder : LocalResponder) (shadow : StateShadow) (now : Rat)
    (deviceId productId : String) (body : Dict String Json) :
    ResponderAction × LocalResponder :=
  match shadow.getFeedingPlans deviceId, Dict.get? body "msgId" with
  | some (plan :: rest), some (.str msgId) =>
      responder.reply now deviceId "service" productId msgId
        [("cmd", .str Command.FEEDING_PLAN_SERVICE), ("ts", milliseconds now),
          ("msgId", .str msgId), ("plans", .arr ((plan :: rest).map Json.obj))]
  | _, _ => (.cacheAndForward, responder)

/-- Answer with the last settings the cloud pushed, if there are any. -/
def respondConfig (responder : LocalResponder) (shadow : StateShadow) (now : Rat)
    (deviceId productId : String) (body : Dict String Json) :
    ResponderAction × LocalResponder :=
  match shadow.getDesired deviceId, Dict.get? body "msgId" with
  | setting :: rest, some (.str msgId) =>
      responder.reply now deviceId "service" productId msgId
        (Dict.update [("cmd", .str Command.ATTR_SET_SERVICE), ("ts", milliseconds now),
          ("msgId", .str msgId)] (setting :: rest))
  | _, _ => (.cacheAndForward, responder)

/-- An acknowledgement of a clock correction that this relay made.  Looking it up
also forgets old answers. -/
def ackForLocalMessage (responder : LocalResponder) (settings : LocalResponderSettings)
    (now : Rat) (deviceId command : String) (body : Dict String Json) : Bool × LocalResponder :=
  if command = Command.NTP_SYNC then
    match Dict.get? body "msgId" with
    | some (.str msgId) =>
        let pruned := responder.prune settings.handledMsgIdTtlSeconds now
        (pruned.wasHandledLocally deviceId msgId, pruned)
    | _ => (false, responder)
  else (false, responder)

/-- The choice for a decoded message when the responder is enabled. -/
def answer (responder : LocalResponder) (settings : LocalResponderSettings)
    (shadow : StateShadow) (moment : Moment) (deviceId productId command : String)
    (body : Dict String Json) (upstream : UpstreamState) : ResponderAction × LocalResponder :=
  let acked := responder.ackForLocalMessage settings moment.now deviceId command body
  if acked.1 then (.ignore, acked.2)
  else if command = Command.NTP ∧ settings.ntp = true ∧
      (settings.alwaysAnswerNtpLocally = true ∨ upstream.isOnline = false) then
    if clockDivisionRaises body then (.raised, acked.2)
    else if deviceClockHasDrifted settings.clockDriftToleranceSeconds moment.now body then
      acked.2.reply moment.now deviceId "ntp" productId moment.freshMsgId (ntpSync moment)
    else (.cacheAndForward, acked.2)
  else if upstream.isOnline = true then (.cacheAndForward, acked.2)
  else if command = Command.FEEDING_PLAN_SERVICE ∧ settings.feedingPlan = true then
    acked.2.respondFeedingPlan shadow moment.now deviceId productId body
  else if command = Command.ATTR_GET_SERVICE ∧ settings.config = true then
    acked.2.respondConfig shadow moment.now deviceId productId body
  else (.cacheAndForward, acked.2)

/-- Decide what to do with a message the feeder published.  The message is
archived and its reported facts are stored in any case. -/
def decide (responder : LocalResponder) (settings : LocalResponderSettings) (loads : Loads)
    (shadow : StateShadow) (moment : Moment) (deviceId topic : String) (payload : List UInt8)
    (upstream : UpstreamState) (faults : Faults := {}) :
    ResponderAction × LocalResponder × StateShadow :=
  if faults.archives loads payload then
    let archived := shadow.recordRaw deviceId topic payload (extractCommand loads payload)
    match parse loads payload with
    | (some command, some body) =>
        let recorded := recordReported archived deviceId command body
        if settings.enabled then
          let productId := ((parseTopic topic).map TopicAddress.productId).getD PRODUCT_ID
          let chosen := responder.answer settings recorded moment deviceId productId command body
            upstream
          (chosen.1, chosen.2, recorded)
        else (.cacheAndForward, responder, recorded)
    | _ => (.cacheAndForward, responder, archived)
  else (.raised, responder, shadow)

/-! ## The cases of a decision -/

/-- The conditions under which a clock request is the responder's to answer. -/
def AnswersClock (settings : LocalResponderSettings) (command : String)
    (upstream : UpstreamState) : Prop :=
  command = Command.NTP ∧ settings.ntp = true ∧
    (settings.alwaysAnswerNtpLocally = true ∨ upstream.isOnline = false)

/-- What `answer` can return, and on what grounds. -/
inductive AnswerCase (responder : LocalResponder) (settings : LocalResponderSettings)
    (moment : Moment) (deviceId productId command : String) (body : Dict String Json)
    (upstream : UpstreamState) : ResponderAction -> Prop
  | acked
      (handled : (responder.ackForLocalMessage settings moment.now deviceId command body).1 = true) :
      AnswerCase responder settings moment deviceId productId command body upstream .ignore
  | clockRaises (answers : AnswersClock settings command upstream)
      (raises : clockDivisionRaises body = true) :
      AnswerCase responder settings moment deviceId productId command body upstream .raised
  | replied (category msgId : String) (reply : Dict String Json)
      (known : category ∈ ["ntp", "service"])
      (may : settings.alwaysAnswerNtpLocally = true ∨ upstream.isOnline = false) :
      AnswerCase responder settings moment deviceId productId command body upstream
        (.respondLocal (subTopic deviceId category productId) reply msgId)
  | forwarded :
      AnswerCase responder settings moment deviceId productId command body upstream
        .cacheAndForward

theorem answer_cases (responder : LocalResponder) (settings : LocalResponderSettings)
    (shadow : StateShadow) (moment : Moment) (deviceId productId command : String)
    (body : Dict String Json) (upstream : UpstreamState) :
    AnswerCase responder settings moment deviceId productId command body upstream
      (responder.answer settings shadow moment deviceId productId command body upstream).1 := by
  rw [answer]
  split
  · next handled => exact .acked handled
  · split
    · next answers =>
        split
        · next raises => exact .clockRaises answers raises
        · split
          · exact .replied "ntp" _ _ (by decide) answers.2.2
          · exact .forwarded
    · split
      · exact .forwarded
      · next offline =>
          have may : settings.alwaysAnswerNtpLocally = true ∨ upstream.isOnline = false :=
            Or.inr (Bool.not_eq_true _ ▸ offline)
          split
          · unfold respondFeedingPlan
            split
            · exact .replied "service" _ _ (by decide) may
            · exact .forwarded
          · split
            · unfold respondConfig
              split
              · exact .replied "service" _ _ (by decide) may
              · exact .forwarded
            · exact .forwarded

end LocalResponder
end Responder
end PetlibroRelay
