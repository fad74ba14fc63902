import PetlibroRelay.Foundations.Machine
import PetlibroRelay.Responder.LocalResponder

namespace PetlibroRelay
namespace Responder

open Foundations
open Protocol
open Shadow
open Upstream

/-!
# What a local reply holds

The responder over any history: messages of the cloud it learns from, lookups of
late answers, and messages of the feeders it decides on, over any devices.

The settings of a device are, after any history, the merge of every settings push
the cloud made for it, and none of them is called like a field of the envelope.  A
reply that is splatted over its envelope is therefore the envelope followed by the
merged settings.  A plan reply holds the last plan list the cloud pushed with all
its entries complete.

Both hold as long as every push is stored.  A push that the decoder refuses is not, nor
is one with a text that cannot be bound to a column: the identifier of a plan list, which
may be no text at all, or the name of a setting.  Storing it raises, and what was there
before stays.
-/

/-! ## Histories -/

/-- One step of the responder.  A feeder's message comes with what the environment
supplies to the decision. -/
inductive Exchange where
  | cloudMessage (deviceId topic : String) (payload : List UInt8)
  | lateAnswer (now : Rat) (deviceId : String) (payload : List UInt8)
  | deviceMessage (moment : Moment) (deviceId topic : String) (payload : List UInt8)
      (upstream : UpstreamState)

/-- The responder, its shadow, and the device, identifier and time of every reply so
far. -/
structure Exchanges where
  responder : LocalResponder := {}
  shadow : StateShadow := {}
  replies : List (String × String × Rat) := []

/-- The identifier an action says was answered. -/
def ResponderAction.handledMsgId? : ResponderAction -> Option String
  | .respondLocal _ _ handledMsgId => some handledMsgId
  | _ => none

def exchangeMachine (loads : Loads) (settings : LocalResponderSettings) (faults : Faults := {}) :
    Machine Exchanges Exchange where
  step state
    | .cloudMessage deviceId topic payload =>
        some { state with
          shadow := (observeCloudMessage loads state.shadow deviceId topic payload faults).1 }
    | .lateAnswer now deviceId payload =>
        if faults.refuses payload then some state
        else some { state with
          responder :=
            (state.responder.isSuppressedCloudResponse settings loads now deviceId payload).2 }
    | .deviceMessage moment deviceId topic payload upstream =>
        let chosen := state.responder.decide settings loads state.shadow moment deviceId topic
          payload upstream faults
        some
          { responder := chosen.2.1
            shadow := chosen.2.2
            replies := state.replies ++ chosen.1.handledMsgId?.toList.map
              (fun msgId => (deviceId, msgId, moment.now)) }

/-! ## What the cloud pushed -/

/-- The fields of a message that are not settings. -/
def ENVELOPE_FIELDS : List String := ["cmd", "ts", "msgId"]

/-- The settings a message of the cloud pushes. -/
def pushedSettings (loads : Loads) (payload : List UInt8) : Dict String Json :=
  match extractCommand loads payload, decodedObject loads payload with
  | some command, some body =>
      if command ∈ [Command.ATTR_SET_SERVICE, Command.SERVER_CONFIG_PUSH,
          Command.DEVICE_CONFIG_SYNC] then
        body.filter (fun entry => decide (entry.1 ∉ ENVELOPE_FIELDS))
      else []
  | _, _ => []

/-- The plan list a message of the cloud pushes, if all its entries are complete. -/
def pushedPlans (loads : Loads) (payload : List UInt8) : Option (List Plan) :=
  match extractCommand loads payload, decodedObject loads payload with
  | some command, some body =>
      if command = Command.FEEDING_PLAN_SERVICE then
        match Dict.get? body "plans" with
        | some (.arr entries) => entries.mapM completePlan?
        | _ => none
      else none
  | _, _ => none

/-- The identifier of a message, null where there is none. -/
def messageId (loads : Loads) (payload : List UInt8) : Json :=
  ((decodedObject loads payload).bind (fun body => Dict.get? body "msgId")).getD .null

namespace Exchange

def settingsFor (loads : Loads) (deviceId : String) : Exchange -> Dict String Json
  | .cloudMessage owner _ payload => if owner = deviceId then pushedSettings loads payload else []
  | _ => []

def plansFor (loads : Loads) (deviceId : String) : Exchange -> Option (List Plan)
  | .cloudMessage owner _ payload => if owner = deviceId then pushedPlans loads payload else none
  | _ => none

/-- A message that pushes something is decoded, the identifier of its plan list can be
bound to a column, and so can the names of its settings. -/
def isStorable (loads : Loads) (faults : Faults) : Exchange -> Bool
  | .cloudMessage _ _ payload =>
      ((pushedPlans loads payload).isNone ||
        faults.archives loads payload && isBindable (messageId loads payload) faults) &&
      ((pushedSettings loads payload).isEmpty ||
        faults.archives loads payload &&
          (pushedSettings loads payload).all (fun entry => !faults.unencodable entry.1))
  | _ => true

end Exchange

/-- The merge, in order, of all settings the cloud pushed for a device. -/
def mergedSettings (loads : Loads) (deviceId : String) (history : List Exchange) :
    Dict String Json :=
  history.foldl (fun merged exchange => Dict.update merged (exchange.settingsFor loads deviceId)) []

/-- The last complete plan list the cloud pushed for a device. -/
def lastPlans (loads : Loads) (deviceId : String) (history : List Exchange) :
    Option (List Plan) :=
  (history.filterMap (Exchange.plansFor loads deviceId)).getLast?

/-! ## What one message leaves -/

/-- The lesson of a message, in terms of what it pushes. -/
theorem lesson_eq (loads : Loads) (faults : Faults) (payload : List UInt8) :
    lesson loads payload faults =
      match pushedPlans loads payload with
      | some plans => if isBindable (messageId loads payload) faults then .plans plans else .refused
      | none =>
          match pushedSettings loads payload with
          | [] => .nothing
          | values =>
              if values.all (fun entry => !faults.unencodable entry.1) then .settings values
              else .refused := by
  unfold lesson parse pushedPlans pushedSettings messageId fieldOrNull
  cases extractCommand loads payload with
  | none => rfl
  | some command =>
      cases decodedObject loads payload with
      | none => rfl
      | some body =>
          by_cases plans : command = Command.FEEDING_PLAN_SERVICE
          · have other : Command.FEEDING_PLAN_SERVICE ∉ [Command.ATTR_SET_SERVICE,
                Command.SERVER_CONFIG_PUSH, Command.DEVICE_CONFIG_SYNC] := by decide
            simp only [plans, if_true, if_neg other, Option.bind_some]
            cases Dict.get? body "plans" with
            | none => rfl
            | some pushed =>
                cases pushed with
                | arr entries =>
                    cases known : entries.mapM completePlan? with
                    | none => simp only [known]
                    | some complete => simp only [known]
                | _ => rfl
          · simp only [plans, if_false]
            split
            · rfl
            · rfl

theorem cloudDesired_updateCloud {shadow after : StateShadow} {deviceId : String}
    {plans : List Plan} (stored : shadow.updateCloudSchedulePlans deviceId plans = some after) :
    after.cloudDesired = shadow.cloudDesired ∧ after.feedingPlans = shadow.feedingPlans := by
  simp only [StateShadow.updateCloudSchedulePlans] at stored
  split at stored
  · cases stored
    exact ⟨rfl, rfl⟩
  · cases stored

/-- A message that pushes plans pushes no settings. -/
theorem pushedSettings_of_plans {loads : Loads} {payload : List UInt8} {plans : List Plan}
    (pushed : pushedPlans loads payload = some plans) : pushedSettings loads payload = [] := by
  unfold pushedPlans at pushed
  unfold pushedSettings
  revert pushed
  cases extractCommand loads payload with
  | none => exact fun _ => rfl
  | some command =>
      cases decodedObject loads payload with
      | none => exact fun _ => rfl
      | some body =>
          intro pushed
          by_cases given : command = Command.FEEDING_PLAN_SERVICE
          · subst command
            exact if_neg (by decide)
          · simp only [given, if_false] at pushed
            cases pushed

/-- The settings of a message that are stored: all of them or none. -/
def storedSettings (loads : Loads) (faults : Faults) (payload : List UInt8) : Dict String Json :=
  if faults.archives loads payload &&
      (pushedSettings loads payload).all (fun entry => !faults.unencodable entry.1) then
    pushedSettings loads payload
  else []

/-- The plan list of a message that is stored. -/
def storedPlans (loads : Loads) (faults : Faults) (payload : List UInt8) : Option (List Plan) :=
  if faults.archives loads payload && isBindable (messageId loads payload) faults then
    pushedPlans loads payload
  else none

/-- Settings and plans after a message of the cloud. -/
theorem observe_spec (loads : Loads) (faults : Faults) (shadow : StateShadow)
    (deviceId topic : String) (payload : List UInt8) :
    (observeCloudMessage loads shadow deviceId topic payload faults).1.cloudDesired =
        StateShadow.updateKv shadow.cloudDesired deviceId (storedSettings loads faults payload) ∧
      (observeCloudMessage loads shadow deviceId topic payload faults).1.feedingPlans =
        match storedPlans loads faults payload with
        | some plans => Dict.set shadow.feedingPlans deviceId plans
        | none => shadow.feedingPlans := by
  rw [observeCloudMessage, storedSettings, storedPlans, lesson_eq]
  cases faults.archives loads payload with
  | false => exact ⟨rfl, rfl⟩
  | true =>
      rw [if_pos rfl, Bool.true_and, Bool.true_and]
      cases pushed : pushedPlans loads payload with
      | some plans =>
          rw [pushedSettings_of_plans pushed, ite_self]
          by_cases bindable : isBindable (messageId loads payload) faults = true
          · simp only [bindable, if_true]
            split
            · next merged stored => exact cloudDesired_updateCloud stored
            · exact ⟨rfl, rfl⟩
          · simp only [bindable, Bool.false_eq_true, if_false]
            exact ⟨rfl, rfl⟩
      | none =>
          rw [ite_self]
          cases pushedSettings loads payload with
          | nil => exact ⟨by rw [ite_self]; rfl, rfl⟩
          | cons setting rest =>
              by_cases bound :
                  ((setting :: rest).all fun entry => !faults.unencodable entry.1) = true
              · simp only [bound, if_true]
                exact ⟨rfl, rfl⟩
              · simp only [bound, Bool.false_eq_true, if_false]
                exact ⟨rfl, rfl⟩

/-- A message that can be stored is stored whole. -/
theorem stored_of_storable {loads : Loads} {faults : Faults} {deviceId topic : String}
    {payload : List UInt8}
    (storable : (Exchange.cloudMessage deviceId topic payload).isStorable loads faults = true) :
    storedSettings loads faults payload = pushedSettings loads payload ∧
      storedPlans loads faults payload = pushedPlans loads payload := by
  rw [Exchange.isStorable, Bool.and_eq_true, Bool.or_eq_true, Bool.or_eq_true,
    Option.isNone_iff_eq_none, List.isEmpty_iff] at storable
  constructor
  · rcases storable.2 with nothing | stored
    · rw [storedSettings, nothing, ite_self]
    · rw [storedSettings, if_pos stored]
  · rcases storable.1 with nothing | stored
    · rw [storedPlans, nothing, ite_self]
    · rw [storedPlans, if_pos stored]

theorem recordReported_frame (shadow : StateShadow) (deviceId command : String)
    (body : Dict String Json) :
    (recordReported shadow deviceId command body).cloudDesired = shadow.cloudDesired ∧
      (recordReported shadow deviceId command body).feedingPlans = shadow.feedingPlans := by
  unfold recordReported
  split
  · exact ⟨rfl, rfl⟩
  · split
    · split
      · split
        · exact ⟨rfl, rfl⟩
        · exact ⟨rfl, rfl⟩
      · exact ⟨rfl, rfl⟩
    · exact ⟨rfl, rfl⟩

/-- A decision changes neither settings nor plans. -/
theorem decide_frame (responder : LocalResponder) (settings : LocalResponderSettings)
    (loads : Loads) (faults : Faults) (shadow : StateShadow) (moment : Moment)
    (deviceId topic : String) (payload : List UInt8) (upstream : UpstreamState) :
    (responder.decide settings loads shadow moment deviceId topic payload upstream
        faults).2.2.cloudDesired = shadow.cloudDesired ∧
      (responder.decide settings loads shadow moment deviceId topic payload upstream
        faults).2.2.feedingPlans = shadow.feedingPlans := by
  unfold LocalResponder.decide
  dsimp only
  split
  · split
    · split
      · exact recordReported_frame _ _ _ _
      · exact recordReported_frame _ _ _ _
    · exact ⟨rfl, rfl⟩
  · exact ⟨rfl, rfl⟩

section Histories

variable (loads : Loads) (settings : LocalResponderSettings) (faults : Faults)

/-- A look for late answers leaves the shadow alone. -/
theorem shadow_next_lateAnswer (state : Exchanges) (now : Rat) (deviceId : String)
    (payload : List UInt8) :
    ((exchangeMachine loads settings faults).next state
      (.lateAnswer now deviceId payload)).shadow = state.shadow := by
  unfold Machine.next exchangeMachine
  dsimp only
  split
  · rfl
  · rfl

theorem getDesired_next (state : Exchanges) (exchange : Exchange)
    (storable : exchange.isStorable loads faults = true) (deviceId : String) :
    ((exchangeMachine loads settings faults).next state exchange).shadow.getDesired deviceId =
      Dict.update (state.shadow.getDesired deviceId) (exchange.settingsFor loads deviceId) := by
  cases exchange with
  | cloudMessage owner topic payload =>
      refine (congrArg (Dict.forFirst · deviceId)
        (observe_spec loads faults state.shadow owner topic payload).1).trans ?_
      rw [(stored_of_storable storable).1, StateShadow.forFirst_updateKv, Exchange.settingsFor]
      by_cases own : owner = deviceId
      · rw [if_pos own, if_pos own]
        rfl
      · rw [if_neg own, if_neg own]
        rfl
  | lateAnswer now owner payload =>
      rw [shadow_next_lateAnswer]
      rfl
  | deviceMessage moment owner topic payload upstream =>
      exact congrArg (Dict.forFirst · deviceId)
        (decide_frame state.responder settings loads faults state.shadow moment owner topic payload
          upstream).1

theorem getFeedingPlans_next (state : Exchanges) (exchange : Exchange)
    (storable : exchange.isStorable loads faults = true) (deviceId : String) :
    ((exchangeMachine loads settings faults).next state exchange).shadow.getFeedingPlans deviceId =
      (exchange.plansFor loads deviceId).or (state.shadow.getFeedingPlans deviceId) := by
  cases exchange with
  | cloudMessage owner topic payload =>
      refine (congrArg (Dict.get? · deviceId)
        (observe_spec loads faults state.shadow owner topic payload).2).trans ?_
      rw [(stored_of_storable storable).2, Exchange.plansFor]
      cases pushedPlans loads payload with
      | none =>
          rw [ite_self]
          rfl
      | some plans =>
          dsimp only
          rw [Dict.get?_set]
          by_cases own : owner = deviceId
          · rw [if_pos own, if_pos own]
            rfl
          · rw [if_neg own, if_neg own]
            rfl
  | lateAnswer now owner payload =>
      rw [shadow_next_lateAnswer]
      rfl
  | deviceMessage moment owner topic payload upstream =>
      exact congrArg (Dict.get? · deviceId)
        (decide_frame state.responder settings loads faults state.shadow moment owner topic payload
          upstream).2

/-- No setting is stored under the name of a field of the envelope. -/
def OutsideEnvelope (state : Exchanges) : Prop :=
  forall entry, entry ∈ state.shadow.cloudDesired -> entry.1.2 ∉ ENVELOPE_FIELDS

theorem mem_pushedSettings {loads : Loads} {payload : List UInt8} {entry : String × Json}
    (member : entry ∈ pushedSettings loads payload) : entry.1 ∉ ENVELOPE_FIELDS := by
  unfold pushedSettings at member
  split at member
  · split at member
    · exact of_decide_eq_true (List.mem_filter.mp member).2
    · cases member
  · cases member

theorem mem_storedSettings {loads : Loads} {faults : Faults} {payload : List UInt8}
    {entry : String × Json} (member : entry ∈ storedSettings loads faults payload) :
    entry ∈ pushedSettings loads payload := by
  rw [storedSettings] at member
  split at member
  · exact member
  · cases member

theorem outsideEnvelope_step {state after : Exchanges} {exchange : Exchange}
    (outside : OutsideEnvelope state)
    (moved : (exchangeMachine loads settings faults).step state exchange = some after) :
    OutsideEnvelope after := by
  cases exchange with
  | cloudMessage owner topic payload =>
      cases moved
      intro entry member
      rw [(observe_spec loads faults state.shadow owner topic payload).1] at member
      rcases Dict.mem_update member with old | new
      · exact outside entry old
      · obtain ⟨setting, stored, rfl⟩ := List.mem_map.mp new
        exact mem_pushedSettings (mem_storedSettings stored)
  | lateAnswer now owner payload =>
      have same : after.shadow = state.shadow := by
        rw [← shadow_next_lateAnswer loads settings faults state now owner payload, Machine.next,
          moved, Option.getD_some]
      rw [OutsideEnvelope, same]
      exact outside
  | deviceMessage moment owner topic payload upstream =>
      cases moved
      intro entry member
      rw [(decide_frame state.responder settings loads faults state.shadow moment owner topic
        payload upstream).1] at member
      exact outside entry member

/-- After a history that could be stored the settings of a device are the merge of what
was pushed. -/
theorem getDesired_run (history : List Exchange)
    (storable : forall exchange, exchange ∈ history -> exchange.isStorable loads faults = true)
    (deviceId : String) :
    ((exchangeMachine loads settings faults).run {} history).shadow.getDesired deviceId =
      mergedSettings loads deviceId history := by
  induction history using List.reverseRecOn with
  | nil => rfl
  | append_singleton earlier exchange inductionHypothesis =>
      have before := inductionHypothesis
        (fun other member => storable other (List.mem_append_left _ member))
      have last : exchange.isStorable loads faults = true :=
        storable exchange (List.mem_append_right _ List.mem_cons_self)
      rw [Machine.run_append, Machine.run_cons, Machine.run_nil,
        getDesired_next loads settings faults _ _ last, before, mergedSettings, mergedSettings,
        List.foldl_concat]

/-- After a history that could be stored the plans of a device are the last ones
that were pushed. -/
theorem getFeedingPlans_run (history : List Exchange)
    (storable : forall exchange, exchange ∈ history -> exchange.isStorable loads faults = true)
    (deviceId : String) :
    ((exchangeMachine loads settings faults).run {} history).shadow.getFeedingPlans deviceId =
      lastPlans loads deviceId history := by
  induction history using List.reverseRecOn with
  | nil => rfl
  | append_singleton earlier exchange inductionHypothesis =>
      have before := inductionHypothesis
        (fun other member => storable other (List.mem_append_left _ member))
      have last : exchange.isStorable loads faults = true :=
        storable exchange (List.mem_append_right _ List.mem_cons_self)
      rw [Machine.run_append, Machine.run_cons, Machine.run_nil,
        getFeedingPlans_next loads settings faults _ _ last, before, lastPlans, lastPlans,
        List.filterMap_append, List.filterMap_cons]
      cases exchange.plansFor loads deviceId with
      | none => rw [List.filterMap_nil, List.append_nil, Option.none_or]
      | some plans => rw [List.filterMap_nil, List.getLast?_concat, Option.some_or]

end Histories

/-! ## What a reply is built from -/

section Replies

variable {responder : LocalResponder} {settings : LocalResponderSettings} {loads : Loads}
  {faults : Faults} {shadow : StateShadow} {moment : Moment} {deviceId productId topic handled : String}
  {payload : List UInt8} {body reply : Dict String Json} {upstream : UpstreamState}

/-- A reply comes from `answer`, on the shadow with the reported facts. -/
theorem answer_of_reply {command replyTopic : String}
    (given : extractCommand loads payload = some command)
    (replied : (responder.decide settings loads shadow moment deviceId topic payload upstream
      faults).1 = .respondLocal replyTopic reply handled) :
    exists body productId, decodedObject loads payload = some body ∧
      (responder.answer settings
        (recordReported (shadow.recordRaw deviceId topic payload (some command)) deviceId command
          body)
        moment deviceId productId command body upstream).1 =
          .respondLocal replyTopic reply handled := by
  unfold LocalResponder.decide parse at replied
  rw [given] at replied
  dsimp only at replied
  split at replied
  · split at replied
    · next known decoded same =>
        obtain ⟨own, found⟩ := Prod.mk.inj same
        cases own
        split at replied
        · exact ⟨_, _, found, replied⟩
        · cases replied
    · cases replied
  · cases replied

/-- The answer to a request for the settings. -/
theorem answer_config {replyTopic : String}
    (replied : (responder.answer settings shadow moment deviceId productId
      Command.ATTR_GET_SERVICE body upstream).1 = .respondLocal replyTopic reply handled) :
    Dict.get? body "msgId" = some (.str handled) ∧
      reply = Dict.update [("cmd", .str Command.ATTR_SET_SERVICE),
        ("ts", milliseconds moment.now), ("msgId", .str handled)] (shadow.getDesired deviceId) := by
  have noAck : ¬ Command.ATTR_GET_SERVICE = Command.NTP_SYNC := by decide
  have noClock : ¬ Command.ATTR_GET_SERVICE = Command.NTP := by decide
  have noPlans : ¬ Command.ATTR_GET_SERVICE = Command.FEEDING_PLAN_SERVICE := by decide
  simp only [LocalResponder.answer, LocalResponder.ackForLocalMessage, noAck, noClock, noPlans,
    if_false, false_and, Bool.false_eq_true, true_and] at replied
  split at replied
  · cases replied
  · split at replied
    · unfold LocalResponder.respondConfig at replied
      split at replied
      · next setting rest msgId stored named =>
          cases replied
          exact ⟨named, by rw [stored]⟩
      · cases replied
    · cases replied

/-- The answer to a request for the plans. -/
theorem answer_plans {replyTopic : String}
    (replied : (responder.answer settings shadow moment deviceId productId
      Command.FEEDING_PLAN_SERVICE body upstream).1 = .respondLocal replyTopic reply handled) :
    Dict.get? body "msgId" = some (.str handled) ∧
      exists plans, shadow.getFeedingPlans deviceId = some plans ∧
        reply = [("cmd", .str Command.FEEDING_PLAN_SERVICE), ("ts", milliseconds moment.now),
          ("msgId", .str handled), ("plans", .arr (plans.map Json.obj))] := by
  have noAck : ¬ Command.FEEDING_PLAN_SERVICE = Command.NTP_SYNC := by decide
  have noClock : ¬ Command.FEEDING_PLAN_SERVICE = Command.NTP := by decide
  have noConfig : ¬ Command.FEEDING_PLAN_SERVICE = Command.ATTR_GET_SERVICE := by decide
  simp only [LocalResponder.answer, LocalResponder.ackForLocalMessage, noAck, noClock, noConfig,
    if_false, false_and, Bool.false_eq_true, true_and] at replied
  split at replied
  · cases replied
  · split at replied
    · unfold LocalResponder.respondFeedingPlan at replied
      split at replied
      · next plan rest msgId stored named =>
          cases replied
          exact ⟨named, _, stored, rfl⟩
      · cases replied
    · cases replied

end Replies

/-- The replies of the responder after a history belong to their requests. -/
structure RepliesCorrelated (loads : Loads) (settings : LocalResponderSettings)
    (faults : Faults) (history : List Exchange) : Prop where
  outside : OutsideEnvelope ((exchangeMachine loads settings faults).run {} history)
  config : forall moment deviceId topic payload upstream replyTopic reply handled,
    extractCommand loads payload = some Command.ATTR_GET_SERVICE ->
    (((exchangeMachine loads settings faults).run {} history).responder.decide settings loads
        ((exchangeMachine loads settings faults).run {} history).shadow moment deviceId topic
        payload upstream faults).1 = .respondLocal replyTopic reply handled ->
      messageId loads payload = .str handled ∧
        reply = [("cmd", .str Command.ATTR_SET_SERVICE), ("ts", milliseconds moment.now),
          ("msgId", .str handled)] ++ mergedSettings loads deviceId history
  plans : forall moment deviceId topic payload upstream replyTopic reply handled,
    extractCommand loads payload = some Command.FEEDING_PLAN_SERVICE ->
    (((exchangeMachine loads settings faults).run {} history).responder.decide settings loads
        ((exchangeMachine loads settings faults).run {} history).shadow moment deviceId topic
        payload upstream faults).1 = .respondLocal replyTopic reply handled ->
      messageId loads payload = .str handled ∧
        exists plans, lastPlans loads deviceId history = some plans ∧
          reply = [("cmd", .str Command.FEEDING_PLAN_SERVICE), ("ts", milliseconds moment.now),
            ("msgId", .str handled), ("plans", .arr (plans.map Json.obj))]

/-- The merged settings have one value under each name. -/
theorem nodup_mergedSettings (loads : Loads) (deviceId : String) (history : List Exchange) :
    (Dict.keys (mergedSettings loads deviceId history)).Nodup := by
  induction history using List.reverseRecOn with
  | nil => exact List.nodup_nil
  | append_singleton earlier exchange inductionHypothesis =>
      rw [mergedSettings, List.foldl_concat]
      exact Dict.nodup_keys_update _ _ inductionHypothesis

/-- Splatting the settings over the envelope appends them. -/
theorem update_envelope {loads : Loads} {settings : LocalResponderSettings} {faults : Faults}
    {history : List Exchange}
    (outside : OutsideEnvelope ((exchangeMachine loads settings faults).run {} history))
    (storable : forall exchange, exchange ∈ history -> exchange.isStorable loads faults = true)
    (deviceId : String) {envelope : Dict String Json} (fields : Dict.keys envelope = ENVELOPE_FIELDS) :
    Dict.update envelope (mergedSettings loads deviceId history) =
      envelope ++ mergedSettings loads deviceId history := by
  refine Dict.update_of_fresh (nodup_mergedSettings loads deviceId history) ?_
  intro key member
  rw [← getDesired_run loads settings faults history storable deviceId] at member
  obtain ⟨setting, stored, rfl⟩ := List.mem_map.mp member
  obtain ⟨entry, held, rfl⟩ := List.mem_map.mp stored
  rw [fields]
  exact outside entry (List.mem_of_mem_filter held)

/-- After every history whose pushes could be stored, no setting is called like a field
of the envelope, the reply to a settings request is its envelope with the merged
settings, and the reply to a plan request holds the last complete plan list. -/
theorem local_replies_correlated (loads : Loads) (settings : LocalResponderSettings)
    (faults : Faults) (history : List Exchange)
    (storable : forall exchange, exchange ∈ history -> exchange.isStorable loads faults = true) :
    RepliesCorrelated loads settings faults history := by
  have outside : OutsideEnvelope ((exchangeMachine loads settings faults).run {} history) := by
    refine Machine.run_invariant _ OutsideEnvelope ?_ {} history nofun
    intro state exchange after holds moved
    exact outsideEnvelope_step loads settings faults holds moved
  refine ⟨outside, ?_, ?_⟩
  · intro moment deviceId topic payload upstream replyTopic reply handled command replied
    obtain ⟨body, productId, decoded, answered⟩ := answer_of_reply command replied
    obtain ⟨named, built⟩ := answer_config answered
    refine ⟨by rw [messageId, decoded, Option.bind_some, named]; rfl, ?_⟩
    rw [built, StateShadow.getDesired, (recordReported_frame _ _ _ _).1]
    refine (congrArg (Dict.update _)
      (getDesired_run loads settings faults history storable deviceId)).trans ?_
    exact update_envelope outside storable deviceId rfl
  · intro moment deviceId topic payload upstream replyTopic reply handled command replied
    obtain ⟨body, productId, decoded, answered⟩ := answer_of_reply command replied
    obtain ⟨named, plans, stored, built⟩ := answer_plans answered
    refine ⟨by rw [messageId, decoded, Option.bind_some, named]; rfl, plans, ?_, built⟩
    rw [← getFeedingPlans_run loads settings faults history storable deviceId, ← stored,
      StateShadow.getFeedingPlans, StateShadow.getFeedingPlans, (recordReported_frame _ _ _ _).2]
    rfl

/-! ## A plan list that is not stored -/

def planOne : Plan := [("planId", .int 1), ("executionTime", .str "08:00"), ("grainNum", .int 1)]

def planTwo : Plan := [("planId", .int 2), ("executionTime", .str "09:00"), ("grainNum", .int 1)]

/-- A snapshot of the cloud with plan one. -/
def planOnePush : List UInt8 :=
  utf8 ("\x7b\"cmd\":\"FEEDING_PLAN_SERVICE\",\"msgId\":\"c\",\"plans\":[\x7b\"planId\":1," ++
    "\"executionTime\":\"08:00\",\"grainNum\":1\x7d]\x7d")

/-- A snapshot of the cloud with plan two, under an identifier that is a list. -/
def planTwoPush : List UInt8 :=
  utf8 ("\x7b\"cmd\":\"FEEDING_PLAN_SERVICE\",\"msgId\":[\"d\"],\"plans\":[\x7b\"planId\":2," ++
    "\"executionTime\":\"09:00\",\"grainNum\":1\x7d]\x7d")

/-- A settings push with a field called like one of the envelope. -/
def volumePush : List UInt8 :=
  utf8 "\x7b\"cmd\":\"ATTR_SET_SERVICE\",\"msgId\":\"e\",\"ts\":1,\"volume\":30\x7d"

/-- A feeder asks for its plans. -/
def planRequest : List UInt8 :=
  utf8 "\x7b\"cmd\":\"FEEDING_PLAN_SERVICE\",\"msgId\":\"r\"\x7d"

/-- A feeder asks for its settings. -/
def settingsRequest : List UInt8 :=
  utf8 "\x7b\"cmd\":\"ATTR_GET_SERVICE\",\"msgId\":\"s\"\x7d"

/-- The decoder, as far as these messages are concerned. -/
def loadsPushes : Loads := fun payload =>
  if payload = planOnePush then
    some (.obj [("cmd", .str "FEEDING_PLAN_SERVICE"), ("msgId", .str "c"),
      ("plans", .arr [.obj planOne])])
  else if payload = planTwoPush then
    some (.obj [("cmd", .str "FEEDING_PLAN_SERVICE"), ("msgId", .arr [.str "d"]),
      ("plans", .arr [.obj planTwo])])
  else if payload = volumePush then
    some (.obj [("cmd", .str "ATTR_SET_SERVICE"), ("msgId", .str "e"), ("ts", .int 1),
      ("volume", .int 30)])
  else if payload = planRequest then
    some (.obj [("cmd", .str "FEEDING_PLAN_SERVICE"), ("msgId", .str "r")])
  else if payload = settingsRequest then
    some (.obj [("cmd", .str "ATTR_GET_SERVICE"), ("msgId", .str "s")])
  else none

/-- Everything may be answered locally. -/
def answersAll : LocalResponderSettings :=
  { enabled := true, config := true, feedingPlan := true, handledMsgIdTtlSeconds := 60 }

/-- A decision at noon. -/
def noon : Moment where
  now := 43200
  freshMsgId := "f"
  schedule := ⟨0, none, none, none, none⟩

def serviceTopic : String := "dl/PLAF203/A/device/service/sub"

/-- The second push is complete, but its identifier cannot be stored.  The feeder
still gets plan one. -/
theorem unbindable_push_leaves_older_plans :
    ¬ RepliesCorrelated loadsPushes answersAll {}
      [.cloudMessage "A" serviceTopic planOnePush, .cloudMessage "A" serviceTopic planTwoPush] := by
  intro correlated
  obtain ⟨-, plans, last, built⟩ := correlated.plans noon "A" "dl/PLAF203/A/device/service/post"
    planRequest .disconnected "dl/PLAF203/A/device/service/sub"
    [("cmd", .str Command.FEEDING_PLAN_SERVICE), ("ts", milliseconds 43200), ("msgId", .str "r"),
      ("plans", .arr [.obj planOne])] "r" (by decide +kernel) (by decide +kernel)
  have pushed : lastPlans loadsPushes "A" [.cloudMessage "A" serviceTopic planOnePush,
      .cloudMessage "A" serviceTopic planTwoPush] = some [planTwo] := by decide +kernel
  cases pushed.symm.trans last
  revert built
  decide +kernel

/-- Plan one and a volume are pushed, and the feeder asks for its settings. -/
theorem local_replies_correlated_after_pushes :
    let history := [.cloudMessage "A" serviceTopic planOnePush,
      .cloudMessage "A" serviceTopic volumePush]
    (((exchangeMachine loadsPushes answersAll).run {} history).responder.decide answersAll
        loadsPushes ((exchangeMachine loadsPushes answersAll).run {} history).shadow noon "A"
        "dl/PLAF203/A/device/service/post" settingsRequest .disconnected).1 =
      .respondLocal serviceTopic [("cmd", .str "ATTR_SET_SERVICE"), ("ts", .int 43200000),
        ("msgId", .str "s"), ("volume", .int 30)] "s" ∧
      RepliesCorrelated loadsPushes answersAll {} history :=
  ⟨by decide +kernel, local_replies_correlated loadsPushes answersAll {} _ (by decide +kernel)⟩

end Responder
end PetlibroRelay
