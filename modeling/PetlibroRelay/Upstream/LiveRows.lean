import PetlibroRelay.Queue.Refinement
import PetlibroRelay.Upstream.DeviceContext

namespace PetlibroRelay
namespace Upstream

open Foundations
open Protocol
open Pump
open Queue

/-!
# Live rows and the session they were queued for

A live row bypasses the replay gate because it belongs to the session that is
established now.  Demotion is what should take that privilege away when the
session ends, but it runs only when a pass of the pump happens to observe the
disconnected client.  A connection that is lost and restored between two
passes, a stopped session, a restart of the process and an enqueue that decided
on liveness before the loss all leave live rows behind.

The exact guard is at the CONNACK.  In every run in which no live row of the
device is pending, or in the pump's hands, when the cloud accepts a connection,
a row is published live only in the session it was queued in.
-/

/-- A publish of the device-to-cloud pump, over a client that is connected in a
session established after the row was queued, sends a backlog row. -/
def sentAsBacklog (relay : Relay) : RelayAction -> Bool
  | .pump .localToUpstream (.publish _) =>
      match relay.core.localToUpstreamPump.phase with
      | .publishing visit message =>
          match relay.session? visit.target with
          | some session => !(decide (relay.stamp message.id < session) && message.isLive)
          | none => true
      | _ => true
  | _ => true

/-- A backlog row reaches its publish only through the replay gate: finished
subscriptions, an elapsed settle delay and room in both rate budgets. -/
def PassesGate (settings : ReplaySettings) (loads : Loads) (relay : Relay)
    (action : RelayAction) : Prop :=
  forall taken after visit message, action = .pump .localToUpstream taken ->
    relayStep settings loads relay action = some after ->
    after.core.localToUpstreamPump.phase = .publishing visit message ->
    message.isLive = false ->
    exists now, taken = .askReplay now ∧ visit.target.replayReady = true ∧
      ((Dict.get? relay.core.localToUpstreamPump.scheduler.replayProgress
        visit.target.deviceId).getD
          { scheduledAt := now,
            readyAt := now + settings.replayStartDelaySeconds }).readyAt ≤ now ∧
      (Dict.get? relay.core.localToUpstreamPump.scheduler.nextDeviceSendAt
        visit.target.deviceId).getD 0 ≤ now ∧
      relay.core.localToUpstreamPump.scheduler.nextGlobalSendAt ≤ now

/-- Whether the pump is in the middle of handling a live row of the device. -/
def holdsLive (relay : Relay) (deviceId : String) : Bool :=
  match relay.core.localToUpstreamPump.phase.message? with
  | some message =>
      message.isLive &&
        decide (relay.core.localToUpstreamPump.phase.device? = some deviceId)
  | none => false

/-- When the cloud accepts a connection of a device, none of its live rows is
pending or in the pump's hands. -/
def noLiveAtConnack (relay : Relay) : RelayAction -> Bool
  | .connack deviceId client =>
      (Dict.get? relay.connections (deviceId, client)).isSome ||
        ((relay.core.queue.pendingMessages.select
            (MessageQueue.isLiveIn deviceId LOCAL_TO_UPSTREAM)).isEmpty &&
          !holdsLive relay deviceId)
  | _ => true

/-! ## The invariant -/

/-- Live rows, pending or held, are not older than any session their device is
connected in. -/
structure LiveIsCurrent (relay : Relay) : Prop where
  numbered : forall key session, Dict.get? relay.connections key = some session ->
    session ≤ relay.sessions
  rows : forall deviceId client session row,
    Dict.get? relay.connections (deviceId, client) = some session ->
    row ∈ relay.core.queue.pendingMessages.rows ->
    MessageQueue.isLiveIn deviceId LOCAL_TO_UPSTREAM row = true ->
    session ≤ relay.stamp row.1
  held : forall deviceId client session message,
    Dict.get? relay.connections (deviceId, client) = some session ->
    relay.core.localToUpstreamPump.phase.device? = some deviceId ->
    relay.core.localToUpstreamPump.phase.message? = some message ->
    message.isLive = true -> session ≤ relay.stamp message.id
  known : forall message, relay.core.localToUpstreamPump.phase.message? = some message ->
    message.id ≤ relay.core.queue.pendingMessages.sequence

theorem liveIsCurrent_initial (maxSize sequence : Nat) :
    LiveIsCurrent (Relay.initial maxSize sequence) where
  numbered := fun _ _ found => nomatch found
  rows := fun _ _ _ _ found => nomatch found
  held := fun _ _ _ _ found => nomatch found
  known := fun _ found => nomatch found

/-- Steps that touch neither the queue, the pump, the connections nor the
observed components keep the invariant. -/
theorem LiveIsCurrent.of_same {relay after : Relay} (current : LiveIsCurrent relay)
    (core : after.core = relay.core) (connections : after.connections = relay.connections)
    (sessions : after.sessions = relay.sessions) (stamp : after.stamp = relay.stamp) :
    LiveIsCurrent after := by
  refine ⟨?_, ?_, ?_, ?_⟩
  · rw [connections, sessions]
    exact current.numbered
  · rw [connections, core, stamp]
    exact current.rows
  · rw [connections, core, stamp]
    exact current.held
  · rw [core]
    exact current.known

theorem liveIsCurrent_withContext {relay after : Relay} (current : LiveIsCurrent relay)
    {deviceId : String} {change : DeviceContext -> Option DeviceContext}
    (moved : relay.withContext deviceId change = some after) : LiveIsCurrent after := by
  simp only [Relay.withContext, Option.bind_eq_some_iff, Option.map_eq_some_iff] at moved
  rcases moved with ⟨context, _, changed, _, same⟩
  subst after
  exact current.of_same rfl rfl rfl rfl

/-- A new session starts without live rows of its device. -/
theorem liveIsCurrent_connack {relay : Relay} (current : LiveIsCurrent relay)
    {deviceId : String} {client : Nat}
    (free : Dict.get? relay.connections (deviceId, client) = none)
    (quiet : noLiveAtConnack relay (.connack deviceId client) = true) :
    LiveIsCurrent { relay with
      connections := Dict.set relay.connections (deviceId, client) (relay.sessions + 1)
      sessions := relay.sessions + 1 } := by
  simp only [noLiveAtConnack, free, Option.isSome_none, Bool.false_or, Bool.and_eq_true,
    List.isEmpty_iff, Bool.not_eq_true'] at quiet
  rcases quiet with ⟨noRows, noHeld⟩
  refine ⟨?_, ?_, ?_, current.known⟩
  · intro key session found
    simp only [Dict.get?_set] at found
    split at found
    · cases found
      exact Nat.le_refl _
    · exact Nat.le_succ_of_le (current.numbered key session found)
  · intro other number session row found member live
    simp only [Dict.get?_set] at found
    split at found
    · next same =>
        cases same
        have listed : row ∈ relay.core.queue.pendingMessages.select
            (MessageQueue.isLiveIn deviceId LOCAL_TO_UPSTREAM) :=
          List.mem_filter.mpr ⟨member, live⟩
        rw [noRows] at listed
        cases listed
    · exact current.rows other number session row found member live
  · intro other number session message found device holds live
    simp only [Dict.get?_set] at found
    split at found
    · next same =>
        cases same
        simp only [holdsLive, holds, live, device, decide_true, Bool.and_self,
          Bool.true_eq_false] at noHeld
    · exact current.held other number session message found device holds live

theorem liveIsCurrent_connectionLost {relay : Relay} (current : LiveIsCurrent relay)
    (key : String × Nat) :
    LiveIsCurrent { relay with connections := Dict.erase relay.connections key } := by
  have remains : forall other session,
      Dict.get? (Dict.erase relay.connections key) other = some session ->
      Dict.get? relay.connections other = some session := by
    intro other session found
    rw [Dict.get?_erase] at found
    split at found
    · cases found
    · exact found
  exact ⟨fun other session found => current.numbered other session (remains _ _ found),
    fun deviceId client session row found => current.rows deviceId client session row
      (remains _ _ found),
    fun deviceId client session message found => current.held deviceId client session message
      (remains _ _ found),
    current.known⟩

/-- An inserted row carries the stamp of the latest session. -/
theorem liveIsCurrent_insert {relay : Relay} (current : LiveIsCurrent relay)
    (call : EnqueueCall) (now : Rat) (enqueues : List EnqueueThread) :
    LiveIsCurrent { relay with
      core := { relay.core with queue := (relay.core.queue.enqueue call now).1 }
      enqueues := enqueues
      stamp := Function.update relay.stamp
        (relay.core.queue.pendingMessages.sequence + 1) relay.sessions } := by
  have old : forall id, id ≤ relay.core.queue.pendingMessages.sequence ->
      Function.update relay.stamp (relay.core.queue.pendingMessages.sequence + 1)
        relay.sessions id = relay.stamp id := by
    intro id bound
    apply Function.update_of_ne
    omega
  refine ⟨current.numbered, ?_, ?_, ?_⟩
  · intro deviceId client session row found member live
    rcases MessageQueue.mem_rows_enqueue relay.core.queue call now member with earlier | new
    · simp only [old row.1 (relay.core.queue.pendingMessages.bounded row earlier)]
      exact current.rows deviceId client session row found earlier live
    · simp only [new, Function.update_self]
      exact current.numbered _ _ found
  · intro deviceId client session message found device holds live
    simp only [old message.id (current.known message holds)]
    exact current.held deviceId client session message found device holds live
  · intro message holds
    simp only [MessageQueue.sequence_enqueue]
    exact Nat.le_succ_of_le (current.known message holds)

/-- The facts about the device-to-cloud pump when the other pump moves. -/
theorem liveIsCurrent_pump {settings : ReplaySettings} {relay : Relay} {core : Core}
    {side : Side} {taken : PumpStep} (current : LiveIsCurrent relay)
    (moved : (coreMachine settings).step relay.core (.pump side taken) = some core) :
    LiveIsCurrent { relay with core := core } := by
  rcases coreMachine_pump moved with ⟨effect, others⟩
  have rows : forall deviceId client session row,
      Dict.get? relay.connections (deviceId, client) = some session ->
      row ∈ core.queue.pendingMessages.rows ->
      MessageQueue.isLiveIn deviceId LOCAL_TO_UPSTREAM row = true ->
      session ≤ relay.stamp row.1 := by
    intro deviceId client session row found member live
    have isLive : row.2.isLive = true := by
      simp only [MessageQueue.isLiveIn, Bool.and_eq_true] at live
      exact live.2
    exact current.rows deviceId client session row found
      (effect.mem_rows_of_live member isLive) live
  cases side with
  | upstreamToLocal =>
      have still : core.localToUpstreamPump = relay.core.localToUpstreamPump :=
        others .localToUpstream (by decide)
      refine ⟨current.numbered, rows, ?_, ?_⟩
      · simp only [still]
        exact current.held
      · intro message holds
        simp only [still] at holds
        simp only [effect.sequence_eq]
        exact current.known message holds
  | localToUpstream =>
      refine ⟨current.numbered, rows, ?_, ?_⟩
      · intro deviceId client session message found device holds live
        rcases effect.held holds with ⟨drained, drains, peeked⟩ | ⟨before, same⟩
        · have sameDevice : drained = deviceId := Option.some.inj (drains.symm.trans device)
          subst drained
          rcases MessageQueue.row_of_peekOldest peeked with ⟨row, inside, queued⟩
          subst message
          have place := (MessageQueue.mem_partition_iff _ _ _ _).mp inside
          refine current.rows deviceId client session row found place.1 ?_
          simp only [MessageQueue.isLiveIn, inPartition, place.2.1, place.2.2, decide_true,
            Bool.true_and]
          exact live
        · exact current.held deviceId client session message found
            (same.symm.trans device) before live
      · intro message holds
        simp only [effect.sequence_eq]
        rcases effect.held holds with ⟨drained, drains, peeked⟩ | ⟨before, _⟩
        · rcases MessageQueue.row_of_peekOldest peeked with ⟨row, inside, queued⟩
          subst message
          have place := (MessageQueue.mem_partition_iff _ _ _ _).mp inside
          exact relay.core.queue.pendingMessages.bounded row place.1
        · exact current.known message before

/-- Every step that meets the guard keeps the invariant. -/
theorem liveIsCurrent_step {settings : ReplaySettings} {loads : Loads} {relay after : Relay}
    {action : RelayAction} (current : LiveIsCurrent relay)
    (quiet : noLiveAtConnack relay action = true)
    (moved : (relayMachine settings loads).step relay action = some after) :
    LiveIsCurrent after := by
  cases relayMove_of_step moved with
  | started deviceId changed => exact liveIsCurrent_withContext current changed
  | stopped deviceId changed => exact liveIsCurrent_withContext current changed
  | recorded deviceId call now changed => exact liveIsCurrent_withContext current changed
  | marked deviceId ready changed => exact liveIsCurrent_withContext current changed
  | accepted deviceId client context free there built changed =>
      subst changed
      exact liveIsCurrent_connack current free quiet
  | lost deviceId client changed =>
      subst changed
      exact liveIsCurrent_connectionLost current (deviceId, client)
  | inserted thread now isLive begun read changed =>
      subst changed
      exact liveIsCurrent_insert current _ now _
  | pumped side taken core answered stepped changed =>
      subst changed
      exact liveIsCurrent_pump current stepped
  | restarted changed =>
      subst changed
      refine ⟨?_, ?_, ?_, ?_⟩
      · intro key session found
        cases found
      · intro deviceId client session row found
        cases found
      · intro deviceId client session message found
        cases found
      · intro message found
        cases found
  | _ =>
      subst after
      exact current.of_same rfl rfl rfl rfl

/-! ## What the invariant gives at a publish -/

theorem LiveIsCurrent.sentAsBacklog {relay : Relay} (current : LiveIsCurrent relay)
    (action : RelayAction) : Upstream.sentAsBacklog relay action = true := by
  unfold Upstream.sentAsBacklog
  split
  · split
    · next visit message place =>
        split
        · next session connected =>
            rw [Bool.not_eq_true', Bool.and_eq_false_iff, decide_eq_false_iff_not]
            by_cases live : message.isLive = true
            · refine Or.inl (Nat.not_lt_of_ge ?_)
              exact current.held visit.target.deviceId visit.target.client session message
                connected (by rw [place]; rfl) (by rw [place]; rfl) live
            · exact Or.inr (Bool.eq_false_iff.mpr live)
        · rfl
    · rfl
  · rfl

/-- The gate is passed in every state, with or without the guard. -/
theorem passesGate (settings : ReplaySettings) (loads : Loads) (relay : Relay)
    (action : RelayAction) : PassesGate settings loads relay action := by
  intro taken after visit message act moved arrived backlog
  subst action
  cases relayMove_of_step moved with
  | pumped _ _ core answered stepped changed =>
      subst changed
      rcases gate_of_publishing rfl (coreMachine_stepped stepped) arrived backlog with
        ⟨now, asked, _, passes⟩
      exact ⟨now, asked, (Scheduler.canSendReplay_iff _ _ _ _).mp passes⟩

/-- In every run in which no live row of a device is pending or in the pump's
hands when the cloud accepts a connection of that device, every publish of a row
that was queued before the session sends it as backlog, and backlog rows pass
the replay gate. -/
theorem live_rows_stay_in_their_session (settings : ReplaySettings) (loads : Loads)
    (maxSize sequence : Nat) (actions : List RelayAction)
    (quiet : (relayMachine settings loads).Meets
      (fun relay action => noLiveAtConnack relay action = true)
      (Relay.initial maxSize sequence) actions) :
    (relayMachine settings loads).Meets
      (fun relay action => sentAsBacklog relay action = true ∧
        PassesGate settings loads relay action)
      (Relay.initial maxSize sequence) actions :=
  (relayMachine settings loads).meets_of_invariant _ _ LiveIsCurrent
    (fun _ _ _ current guard moved => liveIsCurrent_step current guard moved)
    (fun relay action current _ =>
      ⟨current.sentAsBacklog action, passesGate settings loads relay action⟩)
    _ actions (liveIsCurrent_initial maxSize sequence) quiet

/-! ## A flap between two passes -/

/-- An event report of a feeder. -/
def errorEvent : List UInt8 := utf8 "\x7b\"cmd\":\"ERROR_EVENT\"\x7d"

/-- The decoder, as far as this payload is concerned. -/
def loadsErrorEvent : Loads := fun payload =>
  if payload = errorEvent then some (.obj [("cmd", .str "ERROR_EVENT")]) else none

/-- The call that handles the report, after it has looked at the state once. -/
def errorEventThread (isLive : Option Bool) : EnqueueThread where
  deviceId := "A"
  productId := PRODUCT_ID
  isCloudToDevice := false
  topic := "dl/PLAF203/A/device/event/post"
  payload := errorEvent
  qos := 0
  isLive := isLive

/-- Device `A` comes online and its report is queued as a live row. -/
def queueLive : List RelayAction :=
  [.ensureDevice "A" PRODUCT_ID, .startUpstream "A", .telemetry "A" .connectAttempt 0,
    .connack "A" 0, .telemetry "A" .online 1, .setReady "A" true,
    .beginEnqueue "A" false "dl/PLAF203/A/device/event/post" errorEvent 0,
    .readLive (errorEventThread none), .insert (errorEventThread (some true)) 2]

/-- The connection is lost, and later accepted again. -/
def loseConnection : List RelayAction :=
  [.connectionLost "A" 0, .setReady "A" false, .telemetry "A" (.disconnected "lost" none) 3,
    .telemetry "A" .connectAttempt 3]

def regainConnection : List RelayAction :=
  [.connack "A" 0, .setReady "A" false, .telemetry "A" .online 4, .setReady "A" true]

/-- A pass of the pump up to the answer of the client. -/
def visitDevice (connected ready : Bool) : List RelayAction :=
  [.listDevices, .readClient, .readReady, .pump .localToUpstream (.beginPass [⟨"A", 0, ready⟩]),
    .pump .localToUpstream (.checkConnected connected)]

/-- The pump takes the row and publishes it. -/
def publishRow : List RelayAction :=
  [.pump .localToUpstream .peek, .pump .localToUpstream (.checkExpiry 5),
    .pump .localToUpstream (.publish .confirmed)]

/-- The connection is lost and restored before any pass has seen the loss.  The
next pass publishes the row of the first session as a live row in the second. -/
theorem flap_between_passes_keeps_row_live :
    ¬ (relayMachine .default loadsErrorEvent).Meets
      (fun relay action => sentAsBacklog relay action = true)
      (Relay.initial DEFAULT_MAX_QUEUE_SIZE 0)
      (queueLive ++ loseConnection ++ regainConnection ++ visitDevice true true ++
        publishRow) := by
  decide +kernel

/-- A backlog row waits for the settle delay and is published after it. -/
def replayRow : List RelayAction :=
  [.pump .localToUpstream .peek, .pump .localToUpstream (.checkExpiry 5),
    .pump .localToUpstream (.askReplay 5), .pump .localToUpstream .endPass] ++
  visitDevice true true ++
  [.pump .localToUpstream .peek, .pump .localToUpstream (.checkExpiry 7),
    .pump .localToUpstream (.askReplay 7), .pump .localToUpstream (.publish .confirmed)]

/-- A pass between loss and reconnection demotes the row. -/
def observedLoss : List RelayAction :=
  queueLive ++ loseConnection ++ visitDevice false false ++
    [.pump .localToUpstream .demote, .pump .localToUpstream .endPass] ++ regainConnection ++
    visitDevice true true ++ replayRow

/-- The demoted row is published in the new session, as backlog. -/
theorem live_rows_stay_after_observed_loss :
    (relayMachine .default loadsErrorEvent).Meets
      (fun relay action => noLiveAtConnack relay action = true)
      (Relay.initial DEFAULT_MAX_QUEUE_SIZE 0) observedLoss ∧
    (relayMachine .default loadsErrorEvent).Meets
      (fun relay action => sentAsBacklog relay action = true ∧
        PassesGate .default loadsErrorEvent relay action)
      (Relay.initial DEFAULT_MAX_QUEUE_SIZE 0) observedLoss :=
  ⟨by decide +kernel,
    live_rows_stay_in_their_session .default loadsErrorEvent DEFAULT_MAX_QUEUE_SIZE 0 observedLoss
      (by decide +kernel)⟩

end Upstream
end PetlibroRelay
