import PetlibroRelay.Pump.Timing
import PetlibroRelay.Upstream.LiveRows

namespace PetlibroRelay
namespace Upstream

open Foundations
open Protocol
open Pump
open Queue

/-!
# The settle delay of a session

A backlog row may leave only some time after the subscriptions of the current
connection were confirmed.  The pump measures this from the pass in which it
first sees the device ready, and it forgets the measurement only when a pass
sees the client disconnected or the target missing.  A connection that is lost
and accepted again between two such passes inherits the window of its
predecessor.

The relay is put under one clock here.  Every action has a time, times do not go
back, and a pump that reads the clock reads the time of its step.  Each pass has
a target list of its own, built since the pass before.
-/

/-- An action and the time it happens at. -/
structure Timed where
  time : Rat
  action : RelayAction
  deriving DecidableEq, Repr

/-- One publish call for a backlog row over a connected client, with the moment
the subscriptions of that connection had become ready, if they had. -/
structure BacklogPublish where
  deviceId : String
  client : Nat
  time : Rat
  readySince : Option Rat
  deriving DecidableEq, Repr

/-- The clock, the first moment since its CONNACK at which each client saw the
readiness of its device turn true, the backlog publishes, and whether the target
list waits for its pass. -/
structure SettleLog where
  clock : Rat
  readySince : String × Nat -> Option Rat := fun _ => none
  published : List BacklogPublish := []
  listed : Bool := false

namespace SettleLog

/-- Readiness of a device is noted for the clients that have not seen it since
their last CONNACK. -/
def noteReady (log : SettleLog) (deviceId : String) (time : Rat) : SettleLog :=
  { log with
    readySince := fun key =>
      if key.1 = deviceId then some ((log.readySince key).getD time) else log.readySince key }

/-- What an action of the relay adds to the log, the clock apart. -/
def observe (log : SettleLog) (relay : Relay) (time : Rat) : RelayAction -> SettleLog
  | .connack deviceId client =>
      { log with readySince := Function.update log.readySince (deviceId, client) none }
  | .setReady deviceId true => log.noteReady deviceId time
  | .listDevices => { log with listed := true }
  | .pump .localToUpstream (.beginPass _) => { log with listed := false }
  | .pump .localToUpstream (.publish _) =>
      match relay.core.localToUpstreamPump.phase with
      | .publishing visit message =>
          if message.isLive then log
          else if (relay.session? visit.target).isSome then
            { log with published :=
                ⟨visit.target.deviceId, visit.target.client, time,
                  log.readySince (visit.target.deviceId, visit.target.client)⟩ :: log.published }
          else log
      | _ => log
  | .restart => { log with readySince := fun _ => none, listed := false }
  | _ => log

/-- Whether an action is consistent with the clock and with one target list for
each pass. -/
def admits (log : SettleLog) (timed : Timed) : Bool :=
  decide (log.clock ≤ timed.time) &&
    match timed.action with
    | .pump .localToUpstream (.beginPass _) => log.listed
    | .pump _ (.checkExpiry now) => decide (now = timed.time)
    | .pump _ (.askReplay now) => decide (now = timed.time)
    | .pump _ (.record now _ _) => decide (now = timed.time)
    | _ => true

end SettleLog

/-- The relay under one clock, with the log of its backlog publishes. -/
def settleMachine (settings : ReplaySettings) (loads : Loads) :
    Machine (Relay × SettleLog) Timed where
  step state timed :=
    if state.2.admits timed then
      (relayStep settings loads state.1 timed.action).map (fun after =>
        (after, { state.2.observe state.1 timed.time timed.action with clock := timed.time }))
    else none

/-- The publish came at least the delay after the connection was ready. -/
def Waited (delay : Rat) (publish : BacklogPublish) : Prop :=
  exists since, publish.readySince = some since ∧ since + delay ≤ publish.time

instance (delay : Rat) (publish : BacklogPublish) : Decidable (Waited delay publish) :=
  decidable_of_iff
    (publish.readySince.any (fun since => decide (since + delay ≤ publish.time)) = true) (by
      simp only [Option.any_eq_true, decide_eq_true_eq, Waited])

/-! ## When a connection is accepted -/

/-- Whether the device is marked ready for replay. -/
def Relay.replayReady (relay : Relay) (deviceId : String) : Bool :=
  ((Dict.get? relay.contexts deviceId).map DeviceContext.upstreamSubscriptionsReady).getD false

/-- The targets of the current pass and of the list that waits for its pass. -/
def inHand (state : Relay × SettleLog) : List PumpTarget :=
  (if state.2.listed then (state.1.gathering.map Gathering.found).getD [] else []) ++
    state.1.core.localToUpstreamPump.phase.targets

/-- Nothing of an earlier session is left when the cloud accepts a connection:
the device is not marked ready, the pump holds no target that says so, and it
has no replay window for the device. -/
def unscheduledAtConnack (state : Relay × SettleLog) (timed : Timed) : Bool :=
  match timed.action with
  | .connack deviceId _ =>
      !state.1.replayReady deviceId &&
        (inHand state).all (fun target =>
          !(target.replayReady && decide (target.deviceId = deviceId))) &&
        (state.1.core.localToUpstreamPump.readyAt? deviceId).isNone
  | _ => true

/-- The device is marked ready, or the pump took it for ready. -/
def Scheduled (state : Relay × SettleLog) (deviceId : String) : Prop :=
  state.1.replayReady deviceId = true ∨
    (exists target, target ∈ inHand state ∧ target.deviceId = deviceId ∧
      target.replayReady = true) ∨
    (exists ready, state.1.core.localToUpstreamPump.readyAt? deviceId = some ready)

/-- A connection of a scheduled device has been ready since some moment, and a
replay window of the device does not settle before the delay from then. -/
structure Settling (delay : Rat) (state : Relay × SettleLog) : Prop where
  known : forall deviceId client session,
    Dict.get? state.1.connections (deviceId, client) = some session ->
    exists context, Dict.get? state.1.contexts deviceId = some context
  ready : forall deviceId client session,
    Dict.get? state.1.connections (deviceId, client) = some session ->
    Scheduled state deviceId ->
    exists since, state.2.readySince (deviceId, client) = some since ∧
      forall settles, state.1.core.localToUpstreamPump.readyAt? deviceId = some settles ->
        since + delay ≤ settles
  past : forall key since, state.2.readySince key = some since -> since ≤ state.2.clock
  gate : forall visit message,
    state.1.core.localToUpstreamPump.phase = .publishing visit message ->
    message.isLive = false ->
    exists settles,
      state.1.core.localToUpstreamPump.readyAt? visit.target.deviceId = some settles ∧
        settles ≤ state.2.clock
  log : forall publish, publish ∈ state.2.published -> Waited delay publish

/-! ## Windows -/

section Windows

variable {settings : ReplaySettings} {thread after : PumpThread} {taken : PumpStep} {time : Rat}

/-- A window is an old one, or it was opened now for a target that says its
device is ready. -/
theorem window_of_timing
    (timing : Timing (settings.pumpConfig .localToUpstream) thread after taken)
    (reads : forall now, taken = .askReplay now -> now = time) {deviceId : String}
    {settles : Rat} (opened : after.readyAt? deviceId = some settles) :
    thread.readyAt? deviceId = some settles ∨
      settles = time + settings.replayStartDelaySeconds ∧
        exists target, target ∈ thread.phase.targets ∧ target.deviceId = deviceId ∧
          target.replayReady = true := by
  have asked : forall visit message now, thread.phase = .admitting visit message ->
      taken = .askReplay now -> after.scheduler = (thread.scheduler.canSendReplay
        (settings.pumpConfig .localToUpstream) visit.target now).2 ->
      thread.readyAt? deviceId = some settles ∨
        settles = time + settings.replayStartDelaySeconds ∧
          exists target, target ∈ thread.phase.targets ∧ target.deviceId = deviceId ∧
            target.replayReady = true := by
    intro visit message now place act changed
    rcases (asked_timing changed).2.2 deviceId with same | ⟨⟨own, ready⟩, fresh⟩
    · rw [same] at opened
      exact Or.inl opened
    · rw [fresh] at opened
      refine Or.inr ⟨?_, visit.target, ?_, own, ready⟩
      · rw [← Option.some.inj opened, reads now act]
        rfl
      · rw [place]
        exact List.mem_cons_self
  cases timing with
  | admitted visit message now place passes arrived changed =>
      exact asked visit message now place rfl changed
  | refused visit message now place fails arrived changed =>
      exact asked visit message now place rfl changed
  | confirmed visit message place arrived unchanged =>
      rw [PumpThread.readyAt?, unchanged] at opened
      exact Or.inl opened
  | removed visit message place backlog arrived unchanged =>
      rw [PumpThread.readyAt?, unchanged] at opened
      exact Or.inl opened
  | recorded visit now deviceRandom globalRandom place changed arrived =>
      rw [(recorded_timing rfl rfl changed).2.2 deviceId] at opened
      exact Or.inl opened
  | raised visit now deviceRandom globalRandom place fails arrived unchanged =>
      rw [PumpThread.readyAt?, unchanged] at opened
      exact Or.inl opened
  | other taken untimed before running still live global devices =>
      rcases devices deviceId with ⟨_, same⟩ | ⟨_, gone⟩
      · rw [same] at opened
        exact Or.inl opened
      · rw [gone] at opened
        cases opened

/-- Before a backlog row is published its window has settled. -/
theorem settled_of_timing
    (timing : Timing (settings.pumpConfig .localToUpstream) thread after taken)
    (reads : forall now, taken = .askReplay now -> now = time) {visit : Visit}
    {message : QueuedMessage} (arrived : after.phase = .publishing visit message)
    (backlog : message.isLive = false) :
    exists settles, after.readyAt? visit.target.deviceId = some settles ∧ settles ≤ time := by
  cases timing with
  | admitted own held now place passes there changed =>
      rw [there] at arrived
      cases arrived
      rcases (admitted_timing passes changed).2.2 with ⟨settles, opened, passed⟩
      exact ⟨settles, opened, reads now rfl ▸ passed⟩
  | other taken untimed before running still live global devices =>
      rw [live visit message arrived] at backlog
      cases backlog
  | refused own held now place fails there changed => rw [there] at arrived; cases arrived
  | confirmed own held place there unchanged => rw [there] at arrived; cases arrived
  | removed own held place old there unchanged => rw [there] at arrived; cases arrived
  | recorded own now deviceRandom globalRandom place changed there =>
      rw [there] at arrived
      cases arrived
  | raised own now deviceRandom globalRandom place fails there unchanged =>
      rw [there] at arrived
      cases arrived

end Windows

/-! ## Steps -/

section Steps

variable {delay : Rat} {state after : Relay × SettleLog}

/-- A step that accepts no connection, marks no device ready and opens no
window other than one that settles the delay from now. -/
theorem Settling.keep (settling : Settling delay state)
    (forward : state.2.clock ≤ after.2.clock)
    (connections : forall key session, Dict.get? after.1.connections key = some session ->
      exists earlier, Dict.get? state.1.connections key = some earlier)
    (contexts : forall deviceId context, Dict.get? state.1.contexts deviceId = some context ->
      exists changed, Dict.get? after.1.contexts deviceId = some changed)
    (scheduled : forall deviceId context, Dict.get? state.1.contexts deviceId = some context ->
      Scheduled after deviceId -> Scheduled state deviceId)
    (since : after.2.readySince = state.2.readySince)
    (windows : forall deviceId settles,
      after.1.core.localToUpstreamPump.readyAt? deviceId = some settles ->
      state.1.core.localToUpstreamPump.readyAt? deviceId = some settles ∨
        settles = after.2.clock + delay)
    (gate : forall visit message,
      after.1.core.localToUpstreamPump.phase = .publishing visit message ->
      message.isLive = false ->
      exists settles,
        after.1.core.localToUpstreamPump.readyAt? visit.target.deviceId = some settles ∧
          settles ≤ after.2.clock)
    (log : forall publish, publish ∈ after.2.published -> Waited delay publish) :
    Settling delay after := by
  have past : forall key moment, after.2.readySince key = some moment ->
      moment ≤ after.2.clock := by
    rw [since]
    exact fun key moment noted => le_trans (settling.past key moment noted) forward
  refine ⟨?_, ?_, past, gate, log⟩
  · intro deviceId client session connected
    rcases connections _ session connected with ⟨earlier, before⟩
    rcases settling.known deviceId client earlier before with ⟨context, there⟩
    exact contexts deviceId context there
  · intro deviceId client session connected marked
    rcases connections _ session connected with ⟨earlier, before⟩
    rcases settling.known deviceId client earlier before with ⟨context, there⟩
    rcases settling.ready deviceId client earlier before
      (scheduled deviceId context there marked) with ⟨moment, noted, bound⟩
    rw [← since] at noted
    refine ⟨moment, noted, ?_⟩
    intro settles opened
    rcases windows deviceId settles opened with old | fresh
    · exact bound settles old
    · rw [fresh]
      exact add_le_add_left (past _ moment noted) delay

/-- The same for a step that leaves the device-to-cloud pump alone. -/
theorem Settling.aside (settling : Settling delay state)
    (pump : after.1.core.localToUpstreamPump = state.1.core.localToUpstreamPump)
    (forward : state.2.clock ≤ after.2.clock)
    (connections : forall key session, Dict.get? after.1.connections key = some session ->
      exists earlier, Dict.get? state.1.connections key = some earlier)
    (contexts : forall deviceId context, Dict.get? state.1.contexts deviceId = some context ->
      exists changed, Dict.get? after.1.contexts deviceId = some changed ∧
        (changed.upstreamSubscriptionsReady = true ->
          context.upstreamSubscriptionsReady = true))
    (hand : forall target, target ∈ inHand after -> target.replayReady = true ->
      target ∈ inHand state ∨ state.1.replayReady target.deviceId = true)
    (since : after.2.readySince = state.2.readySince)
    (published : after.2.published = state.2.published) : Settling delay after := by
  refine settling.keep forward connections ?_ ?_ since ?_ ?_ ?_
  · intro deviceId context there
    rcases contexts deviceId context there with ⟨changed, found, _⟩
    exact ⟨changed, found⟩
  · rintro deviceId context there (marked | ⟨target, held, own, ready⟩ | window)
    · refine Or.inl ?_
      rcases contexts deviceId context there with ⟨changed, found, before⟩
      rw [Relay.replayReady, found] at marked
      rw [Relay.replayReady, there]
      exact before marked
    · rcases hand target held ready with old | marked
      · exact Or.inr (Or.inl ⟨target, old, own, ready⟩)
      · exact Or.inl (own ▸ marked)
    · rw [pump] at window
      exact Or.inr (Or.inr window)
  · intro deviceId settles opened
    rw [pump] at opened
    exact Or.inl opened
  · rw [pump]
    intro visit message place backlog
    rcases settling.gate visit message place backlog with ⟨settles, opened, passed⟩
    exact ⟨settles, opened, le_trans passed forward⟩
  · rw [published]
    exact settling.log

/-- A change of one context that does not mark the device ready. -/
theorem Settling.changeContext (settling : Settling delay state) {relay : Relay}
    {deviceId : String} {change : DeviceContext -> Option DeviceContext} {log : SettleLog}
    (moved : state.1.withContext deviceId change = some relay)
    (unmarked : forall context changed, change context = some changed ->
      changed.upstreamSubscriptionsReady = true -> context.upstreamSubscriptionsReady = true)
    (forward : state.2.clock ≤ log.clock) (since : log.readySince = state.2.readySince)
    (published : log.published = state.2.published) (listed : log.listed = state.2.listed) :
    Settling delay (relay, log) := by
  simp only [Relay.withContext, Option.bind_eq_some_iff, Option.map_eq_some_iff] at moved
  rcases moved with ⟨context, there, changed, changes, same⟩
  subst relay
  refine settling.aside rfl forward (fun _ session found => ⟨session, found⟩) ?_ ?_ since published
  · intro other known found
    simp only [Dict.get?_set]
    split
    · next same =>
        subst other
        rw [there] at found
        cases found
        exact ⟨changed, rfl, unmarked context changed changes⟩
    · exact ⟨known, found, fun ready => ready⟩
  · intro target held _
    simp only [inHand, listed] at held
    exact Or.inl held

/-- Readiness is noted for every connection of the device. -/
theorem Settling.markReady (settling : Settling delay state) {relay : Relay}
    {deviceId : String} {time : Rat} (forward : state.2.clock ≤ time)
    (moved : state.1.withContext deviceId
      (fun context => some { context with upstreamSubscriptionsReady := true }) = some relay) :
    Settling delay (relay, { state.2.noteReady deviceId time with clock := time }) := by
  simp only [Relay.withContext, Option.bind_eq_some_iff, Option.map_eq_some_iff] at moved
  rcases moved with ⟨context, there, changed, changes, same⟩
  subst relay
  refine ⟨?_, ?_, ?_, ?_, settling.log⟩
  · intro other client session connected
    rcases settling.known other client session connected with ⟨known, found⟩
    simp only [Dict.get?_set]
    split
    · exact ⟨changed, rfl⟩
    · exact ⟨known, found⟩
  · intro other client session connected marked
    have earlier : other ≠ deviceId -> Scheduled state other := by
      intro different
      rcases marked with ready | held | window
      · simp only [Relay.replayReady, Dict.get?_set_of_ne _ _ different.symm] at ready
        exact Or.inl ready
      · exact Or.inr (Or.inl held)
      · exact Or.inr (Or.inr window)
    by_cases own : other = deviceId
    · subst other
      simp only [SettleLog.noteReady, if_true]
      refine ⟨_, rfl, ?_⟩
      -- a window is older than this moment, so the connection has been ready before
      intro settles opened
      rcases settling.ready deviceId client session connected
        (Or.inr (Or.inr ⟨settles, opened⟩)) with ⟨moment, noted, bound⟩
      rw [noted]
      exact bound settles opened
    · rcases settling.ready other client session connected (earlier own) with
        ⟨moment, noted, bound⟩
      simp only [SettleLog.noteReady, if_neg own]
      exact ⟨moment, noted, bound⟩
  · intro key since noted
    simp only [SettleLog.noteReady] at noted
    split at noted
    · cases noted
      cases before : state.2.readySince key with
      | none => exact le_refl _
      | some moment => exact le_trans (settling.past key moment before) forward
    · exact le_trans (settling.past key since noted) forward
  · intro visit message place backlog
    rcases settling.gate visit message place backlog with ⟨settles, opened, passed⟩
    exact ⟨settles, opened, le_trans passed forward⟩

/-- A connection is accepted while nothing of an earlier session is left. -/
theorem Settling.accept (settling : Settling delay state) {timed : Timed} {relay : Relay}
    {deviceId : String} {client : Nat} (forward : state.2.clock ≤ timed.time)
    (act : timed.action = .connack deviceId client)
    (unscheduled : unscheduledAtConnack state timed = true)
    (pump : relay.core.localToUpstreamPump = state.1.core.localToUpstreamPump)
    (gathering : relay.gathering = state.1.gathering)
    (contexts : relay.contexts = state.1.contexts)
    (bridged : exists context, Dict.get? state.1.contexts deviceId = some context)
    (connections : forall key, key ≠ (deviceId, client) ->
      Dict.get? relay.connections key = Dict.get? state.1.connections key) :
    Settling delay (relay, { state.2 with
      readySince := Function.update state.2.readySince (deviceId, client) none
      clock := timed.time }) := by
  have same : forall other, Scheduled (relay, { state.2 with
      readySince := Function.update state.2.readySince (deviceId, client) none
      clock := timed.time }) other -> Scheduled state other := by
    intro other marked
    simp only [Scheduled, Relay.replayReady, inHand, pump, gathering, contexts] at marked
    exact marked
  have idle : ¬ Scheduled state deviceId := by
    simp only [unscheduledAtConnack, act, Bool.and_eq_true, Bool.not_eq_true',
      List.all_eq_true, Bool.and_eq_false_iff, decide_eq_false_iff_not,
      Option.isNone_iff_eq_none] at unscheduled
    rintro (ready | ⟨target, held, own, ready⟩ | ⟨settles, opened⟩)
    · rw [unscheduled.1.1] at ready
      cases ready
    · rcases unscheduled.1.2 target held with unready | other
      · rw [unready] at ready
        cases ready
      · exact other own
    · rw [unscheduled.2] at opened
      cases opened
  refine ⟨?_, ?_, ?_, ?_, settling.log⟩
  · intro other number session connected
    rw [contexts]
    by_cases own : other = deviceId
    · rw [own]
      exact bridged
    · refine settling.known other number session ?_
      rw [← connections (other, number) (fun same => own (Prod.mk.inj same).1)]
      exact connected
  · intro other number session connected marked
    have different : (other, number) ≠ (deviceId, client) := by
      intro equal
      rw [(Prod.mk.inj equal).1] at marked
      exact idle (same deviceId marked)
    simp only [Function.update_of_ne different, pump]
    refine settling.ready other number session ?_ (same other marked)
    rw [← connections _ different]
    exact connected
  · intro key since noted
    by_cases own : key = (deviceId, client)
    · rw [own] at noted
      simp only [Function.update_self] at noted
      cases noted
    · simp only [Function.update_of_ne own] at noted
      exact le_trans (settling.past key since noted) forward
  · intro visit message place backlog
    simp only [pump] at place ⊢
    rcases settling.gate visit message place backlog with ⟨settles, opened, passed⟩
    exact ⟨settles, opened, le_trans passed forward⟩

/-- What a pump may newly hold was in its hands or in the list made for it. -/
theorem inHand_pump {settings : ReplaySettings} {core : Core} {taken : PumpStep} {time : Rat}
    (answered : state.1.answers .localToUpstream taken = true)
    (admitted : state.2.admits ⟨time, .pump .localToUpstream taken⟩ = true)
    (moved : (coreMachine settings).step state.1.core (.pump .localToUpstream taken) =
      some core) {target : PumpTarget}
    (held : target ∈ inHand ({ state.1 with core := core },
      { state.2.observe state.1 time (.pump .localToUpstream taken) with clock := time })) :
    target ∈ inHand state := by
  rcases step_targets (coreMachine_stepped moved) with kept | ⟨targets, act, brought⟩
  · have listed : (state.2.observe state.1 time (.pump .localToUpstream taken)).listed = true ->
        state.2.listed = true := by
      cases taken with
      | beginPass targets => exact fun impossible => nomatch impossible
      | publish outcome =>
          simp only [SettleLog.observe]
          split
          · split
            · exact fun still => still
            · split <;> exact fun still => still
          · exact fun still => still
      | _ => exact fun still => still
    rcases List.mem_append.mp held with waiting | visited
    · refine List.mem_append_left _ ?_
      dsimp only at waiting
      split at waiting
      · next still =>
          rw [if_pos (listed still)]
          exact waiting
      · cases waiting
    · exact List.mem_append_right _ (kept target visited)
  · subst act
    rcases List.mem_append.mp held with waiting | visited
    · cases waiting
    · have gathered : state.1.gathering = some { remaining := [], found := targets } := by
        rw [Relay.answers, decide_eq_true_eq] at answered
        exact answered
      have waits : state.2.listed = true := by
        rw [SettleLog.admits, Bool.and_eq_true] at admitted
        exact admitted.2
      refine List.mem_append_left _ ?_
      rw [if_pos waits, gathered]
      exact brought target visited

/-- A backlog row goes out only after its connection has settled. -/
theorem Settling.publishes (settling : Settling delay state) {time : Rat}
    (forward : state.2.clock ≤ time) (action : RelayAction) :
    forall publish, publish ∈ (state.2.observe state.1 time action).published ->
      Waited delay publish := by
  unfold SettleLog.observe
  split
  · exact settling.log
  · exact settling.log
  · exact settling.log
  · exact settling.log
  · split
    · next visit message place =>
        split
        · exact settling.log
        · next backlog =>
            split
            · next connected =>
                intro publish member
                rcases List.mem_cons.mp member with new | old
                · rcases settling.gate visit message place (Bool.eq_false_iff.mpr backlog) with
                    ⟨settles, opened, passed⟩
                  rcases Option.isSome_iff_exists.mp connected with ⟨session, there⟩
                  rcases settling.ready visit.target.deviceId visit.target.client session there
                    (Or.inr (Or.inr ⟨settles, opened⟩)) with ⟨since, noted, bound⟩
                  rw [new]
                  refine ⟨since, noted, ?_⟩
                  calc since + delay ≤ settles := bound settles opened
                    _ ≤ state.2.clock := passed
                    _ ≤ time := forward
                · exact settling.log publish old
            · exact settling.log
    · exact settling.log
  · exact settling.log
  · exact settling.log

/-- Steps of a pump neither accept connections nor mark devices. -/
theorem readySince_pump (log : SettleLog) (relay : Relay) (time : Rat) (side : Side)
    (taken : PumpStep) :
    (log.observe relay time (.pump side taken)).readySince = log.readySince := by
  cases side with
  | upstreamToLocal => cases taken <;> rfl
  | localToUpstream =>
      cases taken with
      | publish outcome =>
          simp only [SettleLog.observe]
          split
          · split
            · rfl
            · split <;> rfl
          · rfl
      | _ => rfl

/-- A step of the device-to-cloud pump. -/
theorem Settling.pump {settings : ReplaySettings}
    (settling : Settling settings.replayStartDelaySeconds state) {core : Core} {taken : PumpStep}
    {time : Rat} (answered : state.1.answers .localToUpstream taken = true)
    (admitted : state.2.admits ⟨time, .pump .localToUpstream taken⟩ = true)
    (moved : (coreMachine settings).step state.1.core (.pump .localToUpstream taken) =
      some core) :
    Settling settings.replayStartDelaySeconds ({ state.1 with core := core },
      { state.2.observe state.1 time (.pump .localToUpstream taken) with clock := time }) := by
  have forward : state.2.clock ≤ time := by
    rw [SettleLog.admits, Bool.and_eq_true, decide_eq_true_eq] at admitted
    exact admitted.1
  have reads : forall now, taken = .askReplay now -> now = time := by
    rintro now rfl
    rw [SettleLog.admits, Bool.and_eq_true, decide_eq_true_eq, decide_eq_true_eq] at admitted
    exact admitted.2
  have timing : Timing (settings.pumpConfig .localToUpstream) state.1.core.localToUpstreamPump
      core.localToUpstreamPump taken :=
    step_timing rfl (coreMachine_stepped moved)
  refine settling.keep forward (fun _ session found => ⟨session, found⟩)
    (fun _ context found => ⟨context, found⟩) ?_ (readySince_pump _ _ _ _ _) ?_ ?_
    (settling.publishes forward _)
  · rintro deviceId _ _ (marked | ⟨target, held, own, ready⟩ | ⟨settles, opened⟩)
    · exact Or.inl marked
    · exact Or.inr (Or.inl ⟨target, inHand_pump answered admitted moved held, own, ready⟩)
    · rcases window_of_timing timing reads opened with old | ⟨_, target, visited, own, ready⟩
      · exact Or.inr (Or.inr ⟨settles, old⟩)
      · exact Or.inr (Or.inl ⟨target, List.mem_append_right _ visited, own, ready⟩)
  · intro deviceId settles opened
    rcases window_of_timing timing reads opened with old | ⟨fresh, _⟩
    · exact Or.inl old
    · exact Or.inr fresh
  · intro visit message arrived backlog
    exact settled_of_timing timing reads arrived backlog

end Steps

/-! ## Runs -/

section Runs

variable {settings : ReplaySettings} {loads : Loads}

/-- A target joins the list being made with the mark its context has now. -/
theorem Settling.gather (settling : Settling delay state) {time : Rat} {deviceId : String}
    {rest : List String} {found : List PumpTarget} {client : Nat} {context : DeviceContext}
    (forward : state.2.clock ≤ time)
    (gathering : state.1.gathering =
      some { remaining := deviceId :: rest, found := found, client := some client })
    (there : Dict.get? state.1.contexts deviceId = some context) :
    Settling delay ({ state.1 with gathering := some {
        remaining := rest
        found := found ++ [⟨deviceId, client, context.upstreamSubscriptionsReady⟩] } },
      { state.2.observe state.1 time .readReady with clock := time }) := by
  refine settling.aside rfl forward (fun _ session found => ⟨session, found⟩)
    (fun _ context found => ⟨context, found, fun ready => ready⟩) ?_ rfl rfl
  intro target held ready
  rcases List.mem_append.mp held with waiting | visited
  · have split : state.2.listed = true ∧
        target ∈ found ++ [⟨deviceId, client, context.upstreamSubscriptionsReady⟩] := by
      cases listed : state.2.listed with
      | true =>
          simp only [SettleLog.observe, listed, if_true] at waiting
          exact ⟨rfl, waiting⟩
      | false =>
          simp only [SettleLog.observe, listed, Bool.false_eq_true, if_false] at waiting
          cases waiting
    rcases List.mem_append.mp split.2 with old | new
    · refine Or.inl (List.mem_append_left _ ?_)
      rw [if_pos split.1, gathering]
      exact old
    · rw [List.mem_singleton.mp new] at ready ⊢
      refine Or.inr ?_
      rw [Relay.replayReady, there]
      exact ready
  · exact Or.inl (List.mem_append_right _ visited)

/-- A step that changes neither connections nor contexts and brings no target. -/
theorem Settling.unmarked (settling : Settling delay state)
    (pump : after.1.core.localToUpstreamPump = state.1.core.localToUpstreamPump)
    (forward : state.2.clock ≤ after.2.clock)
    (connections : after.1.connections = state.1.connections)
    (contexts : after.1.contexts = state.1.contexts)
    (hand : forall target, target ∈ inHand after -> target ∈ inHand state)
    (since : after.2.readySince = state.2.readySince)
    (published : after.2.published = state.2.published) : Settling delay after := by
  refine settling.aside pump forward ?_ ?_ (fun target held _ => Or.inl (hand target held)) since
    published
  · rw [connections]
    exact fun _ session found => ⟨session, found⟩
  · rw [contexts]
    exact fun _ context found => ⟨context, found, fun ready => ready⟩

/-- A device that is added is not marked. -/
theorem Settling.ensureDevice (settling : Settling delay state) {time : Rat} {deviceId : String}
    {context : DeviceContext} (forward : state.2.clock ≤ time)
    (absent : Dict.get? state.1.contexts deviceId = none) :
    Settling delay ({ state.1 with contexts := Dict.set state.1.contexts deviceId context },
      { state.2 with clock := time }) := by
  refine settling.aside rfl forward (fun _ session found => ⟨session, found⟩) ?_
    (fun _ held _ => Or.inl held) rfl rfl
  intro other known found
  refine ⟨known, ?_, fun ready => ready⟩
  have different : deviceId ≠ other := by
    rintro rfl
    rw [absent] at found
    cases found
  rw [Dict.get?_set_of_ne _ _ different]
  exact found

/-- Starting or stopping a session takes the mark away. -/
theorem Settling.changeSession (settling : Settling delay state) {relay : Relay} {time : Rat}
    {deviceId : String} {change : DeviceContext -> Option DeviceContext}
    (forward : state.2.clock ≤ time)
    (isChange : change = DeviceContext.startUpstream ∨ change = DeviceContext.stopUpstream)
    (changed : state.1.withContext deviceId change = some relay) :
    Settling delay (relay, { state.2 with clock := time }) := by
  refine settling.changeContext changed ?_ forward rfl rfl rfl
  intro context new changes ready
  rcases isChange with started | stopped
  · rw [started, DeviceContext.startUpstream] at changes
    split at changes <;> cases changes
    cases ready
  · rw [stopped, DeviceContext.stopUpstream] at changes
    split at changes <;> cases changes
    cases ready

/-- A device is marked, or its mark is taken away. -/
theorem Settling.setReady (settling : Settling delay state) {relay : Relay} {time : Rat}
    {deviceId : String} {ready : Bool} (forward : state.2.clock ≤ time)
    (changed : state.1.withContext deviceId (fun context =>
      some { context with upstreamSubscriptionsReady := ready }) = some relay) :
    Settling delay (relay,
      { state.2.observe state.1 time (.setReady deviceId ready) with clock := time }) := by
  cases ready with
  | true => exact settling.markReady forward changed
  | false =>
      refine settling.changeContext changed ?_ forward rfl rfl rfl
      intro context new changes impossible
      cases changes
      cases impossible

theorem Settling.connectionLost (settling : Settling delay state) {time : Rat}
    {deviceId : String} {client : Nat} (forward : state.2.clock ≤ time) :
    Settling delay ({ state.1 with
        connections := Dict.erase state.1.connections (deviceId, client) },
      { state.2 with clock := time }) := by
  refine settling.aside rfl forward ?_
    (fun _ context found => ⟨context, found, fun ready => ready⟩)
    (fun _ held _ => Or.inl held) rfl rfl
  intro key session found
  rw [Dict.get?_erase] at found
  split at found
  · cases found
  · exact ⟨session, found⟩

/-- A step of the cloud-to-device pump. -/
theorem Settling.pumpToLocal (settling : Settling delay state) {core : Core} {taken : PumpStep}
    {time : Rat} (forward : state.2.clock ≤ time)
    (moved : (coreMachine settings).step state.1.core (.pump .upstreamToLocal taken) =
      some core) :
    Settling delay ({ state.1 with core := core },
      { state.2.observe state.1 time (.pump .upstreamToLocal taken) with clock := time }) := by
  have alone : core.localToUpstreamPump = state.1.core.localToUpstreamPump :=
    (coreMachine_pump moved).2 .localToUpstream (by rintro ⟨⟩)
  have quiet : state.2.observe state.1 time (.pump .upstreamToLocal taken) = state.2 := by
    cases taken <;> rfl
  rw [quiet]
  refine settling.unmarked alone forward rfl rfl ?_ rfl rfl
  intro target held
  rw [inHand, alone] at held
  exact held

/-- A new process has no connections and no windows. -/
theorem Settling.restart (settling : Settling delay state) {time : Rat} {stamp : Nat -> Nat} :
    Settling delay (
      { core := { queue := state.1.core.queue }
        sessions := state.1.sessions
        stamp := stamp },
      { state.2.observe state.1 time .restart with clock := time }) := by
  refine ⟨?_, ?_, ?_, ?_, settling.log⟩
  · intro deviceId client session absent
    cases absent
  · intro deviceId client session absent
    cases absent
  · intro key since absent
    cases absent
  · intro visit message absent
    cases absent

theorem settling_step {state after : Relay × SettleLog} {timed : Timed}
    (settling : Settling settings.replayStartDelaySeconds state)
    (unscheduled : unscheduledAtConnack state timed = true)
    (moved : (settleMachine settings loads).step state timed = some after) :
    Settling settings.replayStartDelaySeconds after := by
  simp only [settleMachine] at moved
  split at moved
  case isFalse => cases moved
  next admitted =>
  rw [Option.map_eq_some_iff] at moved
  rcases moved with ⟨relay, stepped, same⟩
  subst after
  rcases timed with ⟨time, action⟩
  have forward : state.2.clock ≤ time := by
    rw [SettleLog.admits, Bool.and_eq_true, decide_eq_true_eq] at admitted
    exact admitted.1
  cases relayMove_of_step stepped with
  | ensured deviceId productId absent changed =>
      subst changed
      exact settling.ensureDevice forward absent
  | started deviceId changed => exact settling.changeSession forward (Or.inl rfl) changed
  | stopped deviceId changed => exact settling.changeSession forward (Or.inr rfl) changed
  | recorded deviceId call now changed =>
      refine settling.changeContext changed ?_ forward rfl rfl rfl
      intro context new changes ready
      cases changes
      exact ready
  | marked deviceId ready changed => exact settling.setReady forward changed
  | accepted deviceId client context free there built changed =>
      subst changed
      refine settling.accept forward rfl unscheduled rfl rfl rfl ⟨context, there⟩ ?_
      intro key different
      exact Dict.get?_set_of_ne _ _ different.symm
  | lost deviceId client changed =>
      subst changed
      exact settling.connectionLost forward
  | begun deviceId isCloudToDevice topic payload qos context there allowed changed =>
      subst changed
      exact settling.unmarked rfl forward rfl rfl (fun _ held => held) rfl rfl
  | readLive thread context begun unread there changed =>
      subst changed
      exact settling.unmarked rfl forward rfl rfl (fun _ held => held) rfl rfl
  | inserted thread now isLive begun read changed =>
      subst changed
      exact settling.unmarked rfl forward rfl rfl (fun _ held => held) rfl rfl
  | listed idle changed =>
      subst changed
      exact settling.unmarked rfl forward rfl rfl
        (fun _ held => List.mem_append_right _ held) rfl rfl
  | passedOver deviceId rest found context gathering there without changed =>
      subst changed
      refine settling.unmarked rfl forward rfl rfl ?_ rfl rfl
      intro target held
      rw [inHand, gathering]
      exact held
  | readClient deviceId rest found client context gathering there has changed =>
      subst changed
      refine settling.unmarked rfl forward rfl rfl ?_ rfl rfl
      intro target held
      rw [inHand, gathering]
      exact held
  | readReady deviceId rest found client context gathering there changed =>
      subst changed
      exact settling.gather forward gathering there
  | pumped side taken core answered pumped changed =>
      subst changed
      cases side with
      | localToUpstream => exact settling.pump answered admitted pumped
      | upstreamToLocal => exact settling.pumpToLocal forward pumped
  | restarted changed =>
      subst changed
      exact settling.restart

theorem settling_initial (delay : Rat) (maxSize sequence : Nat) (clock : Rat) :
    Settling delay (Relay.initial maxSize sequence, { clock := clock }) where
  known := fun _ _ _ absent => nomatch absent
  ready := fun _ _ _ absent => nomatch absent
  past := fun _ _ absent => nomatch absent
  gate := fun _ _ absent => nomatch absent
  log := fun _ absent => nomatch absent

/-- In every run in which the cloud accepts a connection of a device only while
nothing of an earlier session is left in the pump, every backlog row is published
at least the settle delay after the subscriptions of its connection became
ready. -/
theorem settle_delay_of_unscheduled (settings : ReplaySettings) (loads : Loads)
    (maxSize sequence : Nat) (clock : Rat) (actions : List Timed)
    (unscheduled : (settleMachine settings loads).Meets
      (fun state timed => unscheduledAtConnack state timed = true)
      (Relay.initial maxSize sequence, { clock := clock }) actions) :
    forall publish, publish ∈ ((settleMachine settings loads).run
        (Relay.initial maxSize sequence, { clock := clock }) actions).2.published ->
      Waited settings.replayStartDelaySeconds publish :=
  ((settleMachine settings loads).run_invariant_of_meets _
    (Settling settings.replayStartDelaySeconds)
    (fun _ _ _ settling guard moved => settling_step settling guard moved)
    _ actions (settling_initial _ maxSize sequence clock) unscheduled).log

end Runs

/-! ## A flap between two passes -/

/-- Actions that happen at one time. -/
def during (time : Rat) (actions : List RelayAction) : List Timed :=
  actions.map (fun action => ⟨time, action⟩)

/-- A report of device `A` is queued while its session is being started. -/
def queueOffline : List RelayAction :=
  [.ensureDevice "A" PRODUCT_ID, .startUpstream "A", .telemetry "A" .connectAttempt 0,
    .beginEnqueue "A" false "dl/PLAF203/A/device/event/post" errorEvent 0,
    .readLive (errorEventThread none), .insert (errorEventThread (some false)) 0]

/-- A pass asks the gate for the row at the given time. -/
def askForRow (time : Rat) : List RelayAction :=
  visitDevice true true ++
    [.pump .localToUpstream .peek, .pump .localToUpstream (.checkExpiry time),
      .pump .localToUpstream (.askReplay time)]

/-- The first session: it becomes ready, a pass opens the replay window, and the
connection is lost. -/
def firstSession : List Timed :=
  during 0 queueOffline ++ during 1 regainConnection ++
    during 2 (askForRow 2 ++ [.pump .localToUpstream .endPass]) ++ during 3 loseConnection

/-- The row leaves in the second session as soon as that is ready. -/
def flapBetweenPasses : List Timed :=
  firstSession ++ during 10 (regainConnection ++ askForRow 10 ++
    [.pump .localToUpstream (.publish .confirmed)])

/-- The second session inherits the window of the first and does not wait for
its own subscriptions to settle. -/
theorem flap_between_passes_skips_settle_delay :
    ¬ (forall publish, publish ∈ ((settleMachine .default loadsErrorEvent).run
        (Relay.initial DEFAULT_MAX_QUEUE_SIZE 0, { clock := 0 }) flapBetweenPasses).2.published ->
      Waited ReplaySettings.default.replayStartDelaySeconds publish) := by
  decide +kernel

/-- A pass sees the loss, and the row waits in the second session. -/
def lossSeenByPass : List Timed :=
  firstSession ++
    during 4 (visitDevice false false ++
      [.pump .localToUpstream .demote, .pump .localToUpstream .endPass]) ++
    during 10 (regainConnection ++ askForRow 10 ++ [.pump .localToUpstream .endPass]) ++
    during 12 (askForRow 12 ++ [.pump .localToUpstream (.publish .confirmed)])

theorem settle_delay_after_seen_loss :
    ((settleMachine .default loadsErrorEvent).Meets
      (fun state timed => unscheduledAtConnack state timed = true)
      (Relay.initial DEFAULT_MAX_QUEUE_SIZE 0, { clock := 0 }) lossSeenByPass ∧
    ((settleMachine .default loadsErrorEvent).run
        (Relay.initial DEFAULT_MAX_QUEUE_SIZE 0, { clock := 0 }) lossSeenByPass).2.published =
      [⟨"A", 0, 12, some 10⟩]) ∧
    forall publish, publish ∈ ((settleMachine .default loadsErrorEvent).run
        (Relay.initial DEFAULT_MAX_QUEUE_SIZE 0, { clock := 0 }) lossSeenByPass).2.published ->
      Waited ReplaySettings.default.replayStartDelaySeconds publish :=
  ⟨⟨by decide +kernel, by decide +kernel⟩,
    settle_delay_of_unscheduled .default loadsErrorEvent DEFAULT_MAX_QUEUE_SIZE 0 0 lossSeenByPass
      (by decide +kernel)⟩

end Upstream
end PetlibroRelay
