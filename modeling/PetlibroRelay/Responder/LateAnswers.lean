import PetlibroRelay.Responder.LocalReplies

namespace PetlibroRelay
namespace Responder

open Foundations
open Protocol
open Shadow
open Upstream

/-!
# Late answers of the cloud

A request that was answered locally may still be answered by the cloud.  Such a
message is suppressed by its device and identifier for a retention time after the
local reply.

The memory is one dictionary for all devices.  A lookup for any device forgets
every entry that is too old, and a second reply under the same identifier moves the
time of the first.  Compared with the list of all replies ever made, nothing is lost
that a lookup at the same or a later time could still ask for.
-/

/-- The reading of the clock that a step takes. -/
def Exchange.reading? : Exchange -> Option Rat
  | .cloudMessage _ _ _ => none
  | .lateAnswer now _ _ => some now
  | .deviceMessage moment _ _ _ _ => some moment.now

/-- What the memory holds of the replies made so far, at a time of the clock.  A reply
is too old, or its entry is at least as recent. -/
structure Remembers (ttl clock : Rat) (responder : LocalResponder)
    (replies : List (String × String × Rat)) : Prop where
  unique : (Dict.keys responder.handledMsgIds).Nodup
  recorded : forall deviceId msgId time,
    Dict.get? responder.handledMsgIds (deviceId, msgId) = some time ->
      (deviceId, msgId, time) ∈ replies
  past : forall deviceId msgId time, (deviceId, msgId, time) ∈ replies -> time ≤ clock
  kept : forall deviceId msgId time, (deviceId, msgId, time) ∈ replies ->
    time < clock - ttl ∨
      exists latest, Dict.get? responder.handledMsgIds (deviceId, msgId) = some latest ∧
        time ≤ latest

namespace Remembers

variable {ttl clock now : Rat} {responder : LocalResponder}
  {replies : List (String × String × Rat)}

theorem initial (ttl clock : Rat) : Remembers ttl clock {} [] where
  unique := List.nodup_nil
  recorded := nofun
  past := nofun
  kept := nofun

/-- The clock moves on. -/
theorem later (remembers : Remembers ttl clock responder replies) (ordered : clock ≤ now) :
    Remembers ttl now responder replies where
  unique := remembers.unique
  recorded := remembers.recorded
  past := fun deviceId msgId time made =>
    (remembers.past deviceId msgId time made).trans ordered
  kept := by
    intro deviceId msgId time made
    rcases remembers.kept deviceId msgId time made with old | held
    · exact Or.inl (old.trans_le (sub_le_sub_right ordered ttl))
    · exact Or.inr held

/-- What a lookup finds is what it has not just forgotten. -/
theorem get?_prune (remembers : Remembers ttl clock responder replies) (deviceId msgId : String) :
    Dict.get? (responder.prune ttl now).handledMsgIds (deviceId, msgId) =
      (Dict.get? responder.handledMsgIds (deviceId, msgId)).filter
        (fun time => decide (now - ttl ≤ time)) :=
  Dict.get?_filter remembers.unique _ _

/-- Forgetting old entries. -/
theorem pruned (remembers : Remembers ttl clock responder replies) (ordered : clock ≤ now) :
    Remembers ttl now (responder.prune ttl now) replies where
  unique := (List.filter_sublist.map Prod.fst).nodup remembers.unique
  recorded := by
    intro deviceId msgId time found
    rw [remembers.get?_prune, Option.filter_eq_some_iff] at found
    exact remembers.recorded deviceId msgId time found.1
  past := (remembers.later ordered).past
  kept := by
    intro deviceId msgId time made
    rcases (remembers.later ordered).kept deviceId msgId time made with old | ⟨latest, held, newer⟩
    · exact Or.inl old
    · by_cases fresh : now - ttl ≤ latest
      · refine Or.inr ⟨latest, ?_, newer⟩
        rw [remembers.get?_prune, held, Option.filter_some, if_pos (decide_eq_true fresh)]
      · exact Or.inl (newer.trans_lt (lt_of_not_ge fresh))

/-- A reply is recorded at the time of the clock, over an older one under the same
identifier. -/
theorem replied (remembers : Remembers ttl clock responder replies) (ordered : clock ≤ now)
    (deviceId msgId : String) :
    Remembers ttl now
      { handledMsgIds := Dict.set responder.handledMsgIds (deviceId, msgId) now }
      (replies ++ [(deviceId, msgId, now)]) where
  unique := Dict.nodup_keys_set _ _ _ remembers.unique
  recorded := by
    intro owner id time found
    rw [Dict.get?_set] at found
    split at found
    · next same =>
        cases same
        cases found
        exact List.mem_append_right _ List.mem_cons_self
    · exact List.mem_append_left _ (remembers.recorded owner id time found)
  past := by
    intro owner id time made
    rcases List.mem_append.mp made with before | last
    · exact (remembers.past owner id time before).trans ordered
    · cases List.mem_singleton.mp last
      exact le_rfl
  kept := by
    intro owner id time made
    rw [Dict.get?_set]
    by_cases same : (deviceId, msgId) = (owner, id)
    · rw [if_pos same]
      refine Or.inr ⟨now, rfl, ?_⟩
      rcases List.mem_append.mp made with before | last
      · exact (remembers.past owner id time before).trans ordered
      · cases List.mem_singleton.mp last
        exact le_rfl
    · rw [if_neg same]
      rcases List.mem_append.mp made with before | last
      · exact (remembers.later ordered).kept owner id time before
      · cases List.mem_singleton.mp last
        exact absurd rfl same

/-- A lookup at the time of the clock finds a reply exactly when one was made within
the retention time. -/
theorem wasHandledLocally_prune (remembers : Remembers ttl now responder replies)
    (deviceId msgId : String) :
    (responder.prune ttl now).wasHandledLocally deviceId msgId = true ↔
      exists time, (deviceId, msgId, time) ∈ replies ∧ now - ttl ≤ time := by
  rw [LocalResponder.wasHandledLocally, remembers.get?_prune, Option.isSome_filter]
  constructor
  · intro found
    cases held : Dict.get? responder.handledMsgIds (deviceId, msgId) with
    | none => rw [held] at found; cases found
    | some time =>
        rw [held] at found
        exact ⟨time, remembers.recorded deviceId msgId time held, of_decide_eq_true found⟩
  · rintro ⟨time, made, fresh⟩
    rcases remembers.kept deviceId msgId time made with old | ⟨latest, held, newer⟩
    · exact absurd fresh (not_le_of_gt old)
    · rw [held]
      exact decide_eq_true (fresh.trans newer)

end Remembers

/-! ## What one step does to the memory -/

/-- A decision may forget old entries, and then records its reply if it makes one. -/
inductive MemoryStep (ttl now : Rat) (deviceId : String) (responder : LocalResponder) :
    Option String -> LocalResponder -> Prop
  | unchanged : MemoryStep ttl now deviceId responder none responder
  | pruned : MemoryStep ttl now deviceId responder none (responder.prune ttl now)
  | replied (msgId : String) :
      MemoryStep ttl now deviceId responder (some msgId)
        { handledMsgIds := Dict.set responder.handledMsgIds (deviceId, msgId) now }

section Steps

variable (responder : LocalResponder) (settings : LocalResponderSettings) (loads : Loads)
  (shadow : StateShadow) (moment : Moment) (deviceId productId topic command : String)
  (payload : List UInt8) (body : Dict String Json) (upstream : UpstreamState)

theorem respondFeedingPlan_memory (ttl now : Rat) :
    MemoryStep ttl now deviceId responder
      (responder.respondFeedingPlan shadow now deviceId productId body).1.handledMsgId?
      (responder.respondFeedingPlan shadow now deviceId productId body).2 := by
  unfold LocalResponder.respondFeedingPlan
  split
  · exact .replied _
  · exact .unchanged

theorem respondConfig_memory (ttl now : Rat) :
    MemoryStep ttl now deviceId responder
      (responder.respondConfig shadow now deviceId productId body).1.handledMsgId?
      (responder.respondConfig shadow now deviceId productId body).2 := by
  unfold LocalResponder.respondConfig
  split
  · exact .replied _
  · exact .unchanged

/-- Only the acknowledgement of a clock correction looks into the memory, and it is
never answered. -/
theorem answer_memory :
    MemoryStep settings.handledMsgIdTtlSeconds moment.now deviceId responder
      (responder.answer settings shadow moment deviceId productId command body
        upstream).1.handledMsgId?
      (responder.answer settings shadow moment deviceId productId command body upstream).2 := by
  unfold LocalResponder.answer LocalResponder.ackForLocalMessage
  by_cases correction : command = Command.NTP_SYNC
  · have noClock : ¬ Command.NTP_SYNC = Command.NTP := by decide
    have noPlans : ¬ Command.NTP_SYNC = Command.FEEDING_PLAN_SERVICE := by decide
    have noConfig : ¬ Command.NTP_SYNC = Command.ATTR_GET_SERVICE := by decide
    simp only [correction, if_true, noClock, noPlans, noConfig, false_and, if_false]
    cases Dict.get? body "msgId" with
    | none =>
        simp only [Bool.false_eq_true, if_false, ite_self]
        exact .unchanged
    | some given =>
        cases given with
        | str msgId =>
            dsimp only
            split
            · exact .pruned
            · simp only [ite_self]
              exact .pruned
        | _ =>
            simp only [Bool.false_eq_true, if_false, ite_self]
            exact .unchanged
  · simp only [correction, if_false, Bool.false_eq_true]
    split
    · split
      · exact .unchanged
      · split
        · exact .replied _
        · exact .unchanged
    · split
      · exact .unchanged
      · split
        · exact respondFeedingPlan_memory _ _ _ _ _ _ _
        · split
          · exact respondConfig_memory _ _ _ _ _ _ _
          · exact .unchanged

theorem decide_memory :
    MemoryStep settings.handledMsgIdTtlSeconds moment.now deviceId responder
      (responder.decide settings loads shadow moment deviceId topic payload
        upstream).1.handledMsgId?
      (responder.decide settings loads shadow moment deviceId topic payload upstream).2.1 := by
  rw [LocalResponder.decide, Faults.archives_none, if_pos rfl]
  dsimp only
  split
  · split
    · exact answer_memory _ _ _ _ _ _ _ _ _
    · exact .unchanged
  · exact .unchanged

end Steps

/-- A decision keeps the memory, with its reply added to the list. -/
theorem remembers_memoryStep {ttl now : Rat} {deviceId : String} {responder after : LocalResponder}
    {handled : Option String} {replies : List (String × String × Rat)}
    (step : MemoryStep ttl now deviceId responder handled after)
    (remembers : Remembers ttl now responder replies) :
    Remembers ttl now after
      (replies ++ handled.toList.map (fun msgId => (deviceId, msgId, now))) := by
  cases step with
  | unchanged =>
      rw [Option.toList_none, List.map_nil, List.append_nil]
      exact remembers
  | pruned =>
      rw [Option.toList_none, List.map_nil, List.append_nil]
      exact remembers.pruned le_rfl
  | replied msgId => exact remembers.replied le_rfl deviceId msgId

/-- A step at the time of the clock keeps the memory. -/
theorem remembers_next {loads : Loads} {settings : LocalResponderSettings} {now : Rat}
    {state : Exchanges} (exchange : Exchange)
    (atTime : forall reading, exchange.reading? = some reading -> reading = now)
    (remembers : Remembers settings.handledMsgIdTtlSeconds now state.responder state.replies) :
    Remembers settings.handledMsgIdTtlSeconds now
      ((exchangeMachine loads settings).next state exchange).responder
      ((exchangeMachine loads settings).next state exchange).replies := by
  cases exchange with
  | cloudMessage => exact remembers
  | lateAnswer reading deviceId payload =>
      cases atTime reading rfl
      simp only [Machine.next, exchangeMachine, LocalResponder.isSuppressedCloudResponse,
        Bool.false_eq_true, if_false, Option.getD_some]
      split
      · exact remembers.pruned le_rfl
      · exact remembers
  | deviceMessage moment deviceId topic payload upstream =>
      cases atTime moment.now rfl
      exact remembers_memoryStep (decide_memory _ _ _ _ _ _ _ _ _) remembers

/-- Over any history with a clock that does not run back, the memory answers for the
list of all replies. -/
theorem remembers_run (loads : Loads) (settings : LocalResponderSettings)
    (history : List Exchange) (now : Rat)
    (ordered : (history.filterMap Exchange.reading? ++ [now]).Pairwise (· ≤ ·)) :
    Remembers settings.handledMsgIdTtlSeconds now
      ((exchangeMachine loads settings).run {} history).responder
      ((exchangeMachine loads settings).run {} history).replies := by
  induction history using List.reverseRecOn generalizing now with
  | nil => exact Remembers.initial _ _
  | append_singleton earlier exchange inductionHypothesis =>
      rw [Machine.run_append, Machine.run_cons, Machine.run_nil]
      rw [List.filterMap_append, List.filterMap_cons, List.filterMap_nil] at ordered
      cases read : exchange.reading? with
      | none =>
          rw [read, List.append_nil] at ordered
          refine remembers_next exchange ?_ (inductionHypothesis now ordered)
          intro reading given
          rw [read] at given
          cases given
      | some reading =>
          rw [read] at ordered
          have before : Remembers settings.handledMsgIdTtlSeconds reading
              ((exchangeMachine loads settings).run {} earlier).responder
              ((exchangeMachine loads settings).run {} earlier).replies :=
            inductionHypothesis reading (List.pairwise_append.mp ordered).1
          have onward : reading ≤ now :=
            (List.pairwise_append.mp ordered).2.2 reading
              (List.mem_append_right _ List.mem_cons_self) now List.mem_cons_self
          refine (remembers_next exchange ?_ before).later onward
          intro other given
          exact Option.some.inj (given.symm.trans read)

/-- A message of the cloud is suppressed exactly when it is an object with a text
identifier under which its own device was answered locally within the retention
time. -/
theorem late_answers_suppressed_exactly (loads : Loads) (settings : LocalResponderSettings)
    (history : List Exchange) (now : Rat)
    (ordered : (history.filterMap Exchange.reading? ++ [now]).Pairwise (· ≤ ·))
    (deviceId : String) (payload : List UInt8) :
    (((exchangeMachine loads settings).run {} history).responder.isSuppressedCloudResponse settings
        loads now deviceId payload).1 = true ↔
      exists body msgId, decodedObject loads payload = some body ∧
        Dict.get? body "msgId" = some (.str msgId) ∧
        exists time,
          (deviceId, msgId, time) ∈ ((exchangeMachine loads settings).run {} history).replies ∧
            now - settings.handledMsgIdTtlSeconds ≤ time := by
  have remembers := remembers_run loads settings history now ordered
  rw [LocalResponder.isSuppressedCloudResponse]
  split
  · next msgId named =>
      obtain ⟨body, decoded, found⟩ := Option.bind_eq_some_iff.mp named
      rw [remembers.wasHandledLocally_prune]
      constructor
      · rintro ⟨time, made, fresh⟩
        exact ⟨body, msgId, decoded, found, time, made, fresh⟩
      · rintro ⟨other, id, same, own, answered⟩
        cases decoded.symm.trans same
        cases found.symm.trans own
        exact answered
  · next unnamed =>
      refine iff_of_false Bool.false_ne_true ?_
      rintro ⟨body, msgId, decoded, found, -⟩
      exact unnamed msgId (by rw [decoded, Option.bind_some, found])

/-- An answer of the cloud to the settings request of feeder `A`. -/
def lateSettings : List UInt8 :=
  utf8 "\x7b\"cmd\":\"ATTR_SET_SERVICE\",\"msgId\":\"s\",\"volume\":30\x7d"

/-- The decoder, as far as these messages are concerned. -/
def loadsLate : Loads := fun payload =>
  if payload = lateSettings then
    some (.obj [("cmd", .str "ATTR_SET_SERVICE"), ("msgId", .str "s"), ("volume", .int 30)])
  else loadsPushes payload

/-- Feeder `A` is answered at noon, and a lookup for feeder `B` follows.  A minute
later the answer of the cloud is still suppressed for `A`, and never for `B`. -/
theorem late_answer_of_feeder_suppressed :
    let history := [.cloudMessage "A" serviceTopic volumePush,
      .deviceMessage noon "A" "dl/PLAF203/A/device/service/post" settingsRequest .disconnected,
      .lateAnswer 43230 "B" lateSettings]
    let suppressed := fun deviceId =>
      (((exchangeMachine loadsLate answersAll).run {} history).responder.isSuppressedCloudResponse
        answersAll loadsLate 43260 deviceId lateSettings).1
    suppressed "A" = true ∧ suppressed "B" = false := by
  constructor
  · refine (late_answers_suppressed_exactly loadsLate answersAll _ 43260 (by decide +kernel) "A"
      lateSettings).mpr ⟨_, "s", rfl, rfl, 43200, ?_, ?_⟩
    · decide +kernel
    · decide +kernel
  · decide +kernel

end Responder
end PetlibroRelay
