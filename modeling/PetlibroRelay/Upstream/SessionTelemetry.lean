import PetlibroRelay.Upstream.SessionThreads

namespace PetlibroRelay
namespace Upstream

open Foundations

/-!
# The session and its telemetry state

The slot of the current client and the telemetry state are written in different
critical sections.  A stop records its suspension some time after it has emptied
the slot, and a start records its attempt some time after it has filled it.  When
these records come in another order than the changes of the slot, the state that
remains is the one of the wrong call.

They agree as long as a suspension is recorded only while the slot is empty or
its client has still to record its attempt, and an attempt only while a
suspension is still to come or the slot has a client that is not connected.
-/

namespace SessionThreads

/-- Whether some stop call has still to record its suspension. -/
def suspensionPending (session : SessionThreads) : Bool :=
  (List.range session.context.clientsBuilt).any (fun client =>
    (session.clients client).suspensionPending)

/-- Whether all calls and callbacks have returned. -/
def quiescent (session : SessionThreads) : Bool :=
  (List.range session.context.clientsBuilt).all (fun client => (session.clients client).settled)

/-- The order of records that keeps slot and state together. -/
def recordsInOrder (session : SessionThreads) : ThreadAction -> Bool
  | .advanceStop client _ =>
      if (session.clients client).stopping = .suspending then
        session.context.upstreamClient.all (fun current =>
          decide ((session.clients current).starting = .attempting))
      else true
  | .advanceStart client _ =>
      if (session.clients client).starting = .attempting then
        session.suspensionPending ||
          session.context.upstreamClient.any (fun current => !(session.clients current).linked)
      else true
  | _ => true

end SessionThreads

/-- No callback suspends a session. -/
theorem record_ne_suspended {event : NetworkEvent} {call : TelemetryCall}
    (member : .record call ∈ event.callback) : call ≠ .suspended := by
  rintro rfl
  cases event <;> simp [NetworkEvent.callback] at member

/-! ## One client -/

/-- What holds of each client, given the slot and the number of clients built. -/
structure ClientSound (slot : Option Nat) (built number : Nat) (client : SessionClient) :
    Prop where
  unbuilt : built ≤ number -> client = {}
  current : slot = some number -> client.stopping = .untouched
  gone : number < built -> slot ≠ some number -> client.stopping ≠ .untouched
  early : client.starting ≠ .returned ->
    client.loopStarted = false ∧ client.linked = false ∧ client.callback = []
  busy : client.callback ≠ [] -> slot = some number ∨ client.stopping = .loopStopping
  steps : forall call, .record call ∈ client.callback -> call ≠ .suspended
  link : client.linked = true -> client.callback = [] ∨
    client.callback = NetworkEvent.accepted.callback ∨ client.callback = [.record .online]

/-- The clients of a context are sound, and the current one has been built. -/
structure ThreadsSound (session : SessionThreads) : Prop where
  clients : forall number, ClientSound session.context.upstreamClient
    session.context.clientsBuilt number (session.clients number)
  bound : forall client, session.context.upstreamClient = some client ->
    client < session.context.clientsBuilt

theorem clientSound_initial (number : Nat) : ClientSound none 0 number {} where
  unbuilt := fun _ => rfl
  current := nofun
  gone := fun impossible => absurd impossible (Nat.not_lt_zero number)
  early := fun _ => ⟨rfl, rfl, rfl⟩
  busy := fun impossible => absurd rfl impossible
  steps := nofun
  link := nofun

section Clients

variable {session after : SessionThreads} {slot : Option Nat} {built number : Nat}
  {client : SessionClient}

/-- Only one client changes, and neither the slot nor the number of clients. -/
theorem ThreadsSound.change (sound : ThreadsSound session)
    {changed : SessionClient} {context : DeviceContext}
    (slots : context.upstreamClient = session.context.upstreamClient)
    (builts : context.clientsBuilt = session.context.clientsBuilt)
    (next : ClientSound session.context.upstreamClient session.context.clientsBuilt number
      changed) :
    ThreadsSound ({ session with context := context }.setClient number changed) := by
  refine ⟨?_, ?_⟩
  · intro other
    rw [clients_setClient]
    simp only [SessionThreads.setClient, slots, builts]
    split
    · next same =>
        rw [same]
        exact next
    · exact sound.clients other
  · simp only [SessionThreads.setClient, slots, builts]
    exact sound.bound

/-- A later stage of the start call, before the loop has been started. -/
theorem ClientSound.advanceStart (sound : ClientSound slot built number client)
    (before : number < built) (stage : client.starting ≠ .returned) (next : Starting)
    (wants loops : Bool) (ready : next ≠ .returned -> loops = false) :
    ClientSound slot built number { client with
      starting := next, wantsConnection := wants, loopStarted := loops } where
  unbuilt := fun impossible => absurd before (Nat.not_lt_of_ge impossible)
  current := sound.current
  gone := sound.gone
  early := fun unfinished => ⟨ready unfinished, (sound.early stage).2⟩
  busy := sound.busy
  steps := sound.steps
  link := sound.link

/-- A later stage of the stop call, after the callbacks have ended. -/
theorem ClientSound.advanceStop (sound : ClientSound slot built number client)
    (stage : client.stopping ≠ .untouched) (next : Stopping) (wants loops : Bool)
    (later : next ≠ .untouched) (idle : client.callback = [])
    (fewer : loops = true -> client.loopStarted = true) :
    ClientSound slot built number { client with
      stopping := next, wantsConnection := wants, loopStarted := loops } where
  unbuilt := by
    intro beyond
    rw [sound.unbuilt beyond] at stage
    exact absurd rfl stage
  current := fun same => absurd (sound.current same) stage
  gone := fun _ _ => later
  early := by
    intro unfinished
    have earlier := sound.early unfinished
    refine ⟨?_, earlier.2⟩
    cases loops with
    | false => rfl
    | true => rw [fewer rfl] at earlier; cases earlier.1
  busy := fun occupied => absurd idle occupied
  steps := sound.steps
  link := sound.link

/-- After the loop was stopped there is no callback. -/
theorem ClientSound.idle (sound : ClientSound slot built number client)
    (stage : client.stopping ≠ .untouched) (later : client.stopping ≠ .loopStopping) :
    client.callback = [] := by
  by_contra occupied
  rcases sound.busy occupied with same | joining
  · exact stage (sound.current same)
  · exact later joining

/-- The next part of a callback. -/
theorem ClientSound.advanceCallback (sound : ClientSound slot built number client)
    {step : CallbackStep} {rest next : List CallbackStep}
    (stage : client.callback = step :: rest) (fewer : next = rest ∨ next = [])
    (links : client.linked = true -> next = [] ∨ next = [.record .online]) :
    ClientSound slot built number { client with callback := next } where
  unbuilt := by
    intro beyond
    rw [sound.unbuilt beyond] at stage
    cases stage
  current := sound.current
  gone := sound.gone
  early := by
    intro unfinished
    rw [(sound.early unfinished).2.2] at stage
    cases stage
  busy := fun _ => sound.busy (by rw [stage]; exact List.cons_ne_nil _ _)
  steps := by
    intro call member
    refine sound.steps call ?_
    rcases fewer with same | nothing
    · rw [stage]
      exact List.mem_cons_of_mem _ (same ▸ member)
    · rw [nothing] at member
      cases member
  link := fun linked => (links linked).imp id Or.inr

theorem callback_online (sound : ClientSound slot built number client)
    (linked : client.linked = true) {step : CallbackStep} {rest : List CallbackStep}
    (stage : client.callback = step :: rest) :
    step = .check ∧ rest = [.record .online] ∨ step = .record .online ∧ rest = [] := by
  rcases sound.link linked with nothing | whole | ending
  · rw [nothing] at stage
    cases stage
  · rw [whole] at stage
    cases stage
    exact Or.inl ⟨rfl, rfl⟩
  · rw [ending] at stage
    cases stage
    exact Or.inr ⟨rfl, rfl⟩

/-- A client that has just been built. -/
theorem clientSound_built (number : Nat) : ClientSound (some number) (number + 1) number {} where
  unbuilt := fun _ => rfl
  current := fun _ => rfl
  gone := fun _ different => absurd rfl different
  early := fun _ => ⟨rfl, rfl, rfl⟩
  busy := fun occupied => absurd rfl occupied
  steps := nofun
  link := nofun

/-- Another client is put into the empty slot. -/
theorem ClientSound.installed (sound : ClientSound none built number client)
    (different : number ≠ built) : ClientSound (some built) (built + 1) number client where
  unbuilt := fun beyond => sound.unbuilt (Nat.le_of_succ_le beyond)
  current := fun same => absurd (Option.some.inj same).symm different
  gone := fun below _ =>
    sound.gone (Nat.lt_of_le_of_ne (Nat.le_of_lt_succ below) different) nofun
  early := sound.early
  busy := by
    intro occupied
    rcases sound.busy occupied with impossible | joining
    · cases impossible
    · exact Or.inr joining
  steps := sound.steps
  link := sound.link

/-- The client is taken out of the slot. -/
theorem ClientSound.takenOut (sound : ClientSound slot built number client)
    (below : number < built) :
    ClientSound none built number { client with stopping := .loopStopping } where
  unbuilt := fun beyond => absurd below (Nat.not_lt_of_ge beyond)
  current := nofun
  gone := by rintro _ _ ⟨⟩
  early := sound.early
  busy := fun _ => Or.inr rfl
  steps := sound.steps
  link := sound.link

/-- Another client is taken out of the slot. -/
theorem ClientSound.emptied (sound : ClientSound slot built number client)
    (elsewhere : slot ≠ some number) : ClientSound none built number client where
  unbuilt := sound.unbuilt
  current := nofun
  gone := fun below _ => sound.gone below elsewhere
  early := sound.early
  busy := by
    intro occupied
    rcases sound.busy occupied with same | joining
    · exact absurd same elsewhere
    · exact Or.inr joining
  steps := sound.steps
  link := sound.link

/-- The loop of the current client calls back. -/
theorem ClientSound.notified (sound : ClientSound slot built number client)
    (current : slot = some number) (below : number < built)
    (looping : client.loopStarted = true) (event : NetworkEvent) :
    ClientSound slot built number { client with
      linked := decide (event = .accepted), callback := event.callback } where
  unbuilt := fun beyond => absurd below (Nat.not_lt_of_ge beyond)
  current := sound.current
  gone := sound.gone
  early := by
    intro unfinished
    rw [(sound.early unfinished).1] at looping
    cases looping
  busy := fun _ => Or.inl current
  steps := fun _ member => record_ne_suspended member
  link := by
    intro linked
    rw [decide_eq_true_eq] at linked
    subst linked
    exact Or.inr (Or.inl rfl)

end Clients

section Sound

variable {session : SessionThreads}

theorem ThreadsSound.installed (sound : ThreadsSound session)
    (vacant : session.context.upstreamClient = none) :
    ThreadsSound ({ session with context := { session.context with
      upstreamClient := some session.context.clientsBuilt
      clientsBuilt := session.context.clientsBuilt + 1
      upstreamSubscriptionsReady := false } }.setClient session.context.clientsBuilt {}) := by
  refine ⟨?_, ?_⟩
  · intro other
    rw [clients_setClient]
    simp only [SessionThreads.setClient]
    split
    · next same =>
        subst same
        exact clientSound_built _
    · next different => exact (vacant ▸ sound.clients other).installed different
  · intro client same
    cases same
    exact Nat.lt_succ_self _

theorem ThreadsSound.takenOut (sound : ThreadsSound session) {client : Nat}
    (current : session.context.upstreamClient = some client) :
    ThreadsSound ({ session with context := { session.context with
      upstreamClient := none, upstreamSubscriptionsReady := false } }.setClient client
        { session.clients client with stopping := .loopStopping }) := by
  refine ⟨?_, fun _ impossible => (by cases impossible)⟩
  intro other
  rw [clients_setClient]
  simp only [SessionThreads.setClient]
  split
  · next same =>
      subst same
      exact (sound.clients other).takenOut (sound.bound other current)
  · next different =>
      refine (sound.clients other).emptied ?_
      rw [current]
      exact fun same => different (Option.some.inj same).symm

/-- A check lets the callback go on or ends it. -/
theorem ThreadsSound.checked (sound : ThreadsSound session) {client : Nat}
    {rest : List CallbackStep} (stage : (session.clients client).callback = .check :: rest) :
    ThreadsSound (session.setClient client { session.clients client with
      callback := if session.context.upstreamClient = some client then rest else [] }) := by
  have known := sound.clients client
  refine sound.change rfl rfl (known.advanceCallback stage ?_ ?_)
  · split
    · exact Or.inl rfl
    · exact Or.inr rfl
  · intro linked
    rcases callback_online known linked stage with ⟨_, ending⟩ | ⟨impossible, _⟩
    · split
      · exact Or.inr ending
      · exact Or.inl rfl
    · cases impossible

theorem ThreadsSound.recorded (sound : ThreadsSound session) {client : Nat} {now : Rat}
    {call : TelemetryCall} {rest : List CallbackStep}
    (stage : (session.clients client).callback = .record call :: rest) :
    ThreadsSound ((session.record now call).setClient client
      { session.clients client with callback := rest }) := by
  have known := sound.clients client
  refine sound.change rfl rfl (known.advanceCallback stage (Or.inl rfl) ?_)
  intro linked
  rcases callback_online known linked stage with ⟨impossible, _⟩ | ⟨_, nothing⟩
  · cases impossible
  · exact Or.inl nothing

end Sound

theorem threadsSound_step {session after : SessionThreads} {action : ThreadAction}
    (sound : ThreadsSound session)
    (moved : threadMachine.step session action = some after) : ThreadsSound after := by
  cases threadMove_of_step moved with
  | installed vacant changed =>
      subst changed
      exact sound.installed vacant
  | takenOut client current changed =>
      subst changed
      exact sound.takenOut current
  | attempted client now built stage changed =>
      subst changed
      have known := sound.clients client
      have unfinished : (session.clients client).starting ≠ .returned := by
        rw [stage]
        rintro ⟨⟩
      exact sound.change rfl rfl (known.advanceStart built unfinished .connecting _ _
        (fun _ => (known.early unfinished).1))
  | connected client now built stage changed =>
      subst changed
      have known := sound.clients client
      have unfinished : (session.clients client).starting ≠ .returned := by
        rw [stage]
        rintro ⟨⟩
      exact sound.change rfl rfl (known.advanceStart built unfinished .looping true _
        (fun _ => (known.early unfinished).1))
  | looped client now built stage changed =>
      subst changed
      have unfinished : (session.clients client).starting ≠ .returned := by
        rw [stage]
        rintro ⟨⟩
      exact sound.change rfl rfl ((sound.clients client).advanceStart built unfinished .returned _
        true (fun impossible => absurd rfl impossible))
  | loopStopped client now stage joined changed =>
      subst changed
      exact sound.change rfl rfl ((sound.clients client).advanceStop (by rw [stage]; rintro ⟨⟩)
        .disconnecting _ false (by rintro ⟨⟩) joined (by rintro ⟨⟩))
  | disconnected client now stage changed =>
      subst changed
      have known := sound.clients client
      have idle := known.idle (by rw [stage]; rintro ⟨⟩) (by rw [stage]; rintro ⟨⟩)
      exact sound.change rfl rfl (known.advanceStop (by rw [stage]; rintro ⟨⟩) .suspending false _
        (by rintro ⟨⟩) idle id)
  | suspended client now stage changed =>
      subst changed
      have known := sound.clients client
      have idle := known.idle (by rw [stage]; rintro ⟨⟩) (by rw [stage]; rintro ⟨⟩)
      exact sound.change rfl rfl (known.advanceStop (by rw [stage]; rintro ⟨⟩) .returned _ _
        (by rintro ⟨⟩) idle id)
  | notified client event current looping idle possible changed =>
      subst changed
      exact sound.change rfl rfl ((sound.clients client).notified current
        (sound.bound client current) looping event)
  | checked client now rest stage changed =>
      subst changed
      exact sound.checked stage
  | recorded client now call rest stage changed =>
      subst changed
      exact sound.recorded stage

/-! ## Slot and state -/

/-- The state the telemetry is in. -/
def SessionThreads.upstreamState (session : SessionThreads) : UpstreamState :=
  session.context.telemetry.upstreamState

theorem upstreamState_record (session : SessionThreads) (now : Rat) (call : TelemetryCall) :
    (session.record now call).upstreamState = call.target :=
  DeviceTelemetry.upstreamState_apply _ _ _

/-- While no suspension is on its way, an empty slot means a suspended session, a
client past its attempt means that it is not suspended, and a connected client
whose callback has ended means that it is online. -/
structure StateAgrees (session : SessionThreads) : Prop where
  empty : session.context.upstreamClient = none -> 0 < session.context.clientsBuilt ->
    session.upstreamState = .suspended
  filled : forall client, session.context.upstreamClient = some client ->
    (session.clients client).starting ≠ .attempting -> session.upstreamState ≠ .suspended
  online : forall client, session.context.upstreamClient = some client ->
    (session.clients client).linked = true -> (session.clients client).callback = [] ->
    session.upstreamState = .online

structure Agrees (session : SessionThreads) : Prop where
  sound : ThreadsSound session
  state : session.suspensionPending = false -> StateAgrees session

theorem suspensionPending_of_client {session : SessionThreads} {client : Nat}
    (sound : ThreadsSound session)
    (pending : (session.clients client).suspensionPending = true) :
    session.suspensionPending = true := by
  refine List.any_eq_true.mpr ⟨client, List.mem_range.mpr ?_, pending⟩
  by_contra beyond
  rw [(sound.clients client).unbuilt (Nat.le_of_not_lt beyond)] at pending
  cases pending

/-- A change of one client that keeps the progress of its stop call. -/
theorem quiet_before {session : SessionThreads} {context : DeviceContext} {client : Nat}
    {changed : SessionClient}
    (quiet : ({ session with context := context }.setClient client changed).suspensionPending =
      false)
    (built : context.clientsBuilt = session.context.clientsBuilt)
    (same : changed.suspensionPending = (session.clients client).suspensionPending) :
    session.suspensionPending = false := by
  have pointwise : forall other,
      (({ session with context := context }.setClient client changed).clients
        other).suspensionPending = (session.clients other).suspensionPending := by
    intro other
    rw [clients_setClient]
    split
    · next equal => rw [same, equal]
    · rfl
  simp only [SessionThreads.suspensionPending, pointwise] at quiet
  simp only [SessionThreads.setClient, built] at quiet
  exact quiet

section Agreement

variable {session after : SessionThreads}

/-- Only one client changes, neither slot nor state do, and the client is neither
less attempted nor more connected. -/
theorem StateAgrees.change (agrees : StateAgrees session) {client : Nat}
    {changed : SessionClient}
    (filled : changed.starting ≠ .attempting -> (session.clients client).starting ≠ .attempting)
    (online : session.context.upstreamClient = some client -> changed.linked = true ->
      changed.callback = [] -> session.upstreamState = .online) :
    StateAgrees (session.setClient client changed) where
  empty := agrees.empty
  filled := by
    intro other current past
    rw [clients_setClient] at past
    split at past
    · next same => exact agrees.filled other current (same ▸ filled past)
    · exact agrees.filled other current past
  online := by
    intro other current linked idle
    rw [clients_setClient] at linked idle
    split at linked
    · next same =>
        subst same
        rw [if_pos rfl] at idle
        exact online current linked idle
    · next different =>
        rw [if_neg different] at idle
        exact agrees.online other current linked idle

/-- A record of the current client or of a start, in a state with a current
client. -/
theorem stateAgrees_record {client : Nat} {changed : SessionClient} {now : Rat}
    {call : TelemetryCall} {current : Nat}
    (slot : session.context.upstreamClient = some current) (running : call ≠ .suspended)
    (online : (if current = client then changed else session.clients current).linked = true ->
      call = .online) :
    StateAgrees ((session.record now call).setClient client changed) := by
  have state : ((session.record now call).setClient client changed).upstreamState = call.target :=
    upstreamState_record session now call
  refine ⟨?_, ?_, ?_⟩
  · intro vacant
    have impossible : session.context.upstreamClient = none := vacant
    rw [slot] at impossible
    cases impossible
  · intro other _ _
    rw [state]
    cases call <;> first | exact absurd rfl running | exact nofun
  · intro other same linked _
    have equal : session.context.upstreamClient = some other := same
    rw [slot] at equal
    cases equal
    rw [clients_setClient] at linked
    rw [state, online linked]
    rfl

/-- While a suspension is still to be recorded there is nothing to show. -/
theorem stateAgrees_of_pending {client : Nat} (sound : ThreadsSound after)
    (pending : (after.clients client).suspensionPending = true) :
    after.suspensionPending = false -> StateAgrees after := by
  intro quiet
  rw [suspensionPending_of_client sound pending] at quiet
  cases quiet

/-- A new client has not recorded its attempt yet. -/
theorem stateAgrees_installed (session : SessionThreads) :
    StateAgrees ({ session with context := { session.context with
      upstreamClient := some session.context.clientsBuilt
      clientsBuilt := session.context.clientsBuilt + 1
      upstreamSubscriptionsReady := false } }.setClient session.context.clientsBuilt {}) := by
  refine ⟨(fun impossible => nomatch impossible), ?_, ?_⟩
  · intro client current past
    cases current
    rw [clients_setClient, if_pos rfl] at past
    exact absurd rfl past
  · intro client current linked
    cases current
    rw [clients_setClient, if_pos rfl] at linked
    cases linked

/-- An attempt is recorded while the slot has a client that is not connected. -/
theorem stateAgrees_attempted {client current : Nat} (now : Rat)
    (slot : session.context.upstreamClient = some current)
    (unlinked : (session.clients current).linked = false) :
    StateAgrees ((session.record now .connectAttempt).setClient client
      { session.clients client with starting := .connecting }) := by
  refine stateAgrees_record slot nofun ?_
  intro linked
  split at linked
  · next same =>
      have impossible : (session.clients client).linked = true := linked
      rw [← same, unlinked] at impossible
      cases impossible
  · rw [unlinked] at linked
    cases linked

/-- A suspension is recorded while the client in the slot has still to record its attempt. -/
theorem stateAgrees_suspended (sound : ThreadsSound session) {client : Nat} (now : Rat)
    (stage : (session.clients client).stopping = .suspending)
    (attempting : forall current, session.context.upstreamClient = some current ->
      (session.clients current).starting = .attempting) :
    StateAgrees ((session.record now .suspended).setClient client
      { session.clients client with stopping := .returned }) := by
  have elsewhere : forall current, session.context.upstreamClient = some current ->
      current ≠ client := by
    rintro current slot rfl
    rw [(sound.clients current).current slot] at stage
    cases stage
  refine ⟨fun _ _ => upstreamState_record session now .suspended, ?_, ?_⟩
  · intro current slot past
    rw [clients_setClient, if_neg (elsewhere current slot)] at past
    exact absurd (attempting current slot) past
  · intro current slot linked
    rw [clients_setClient, if_neg (elsewhere current slot)] at linked
    have early := (sound.clients current).early (by rw [attempting current slot]; exact nofun)
    rw [SessionThreads.record] at linked
    rw [early.2.1] at linked
    cases linked

/-- A check that lets a connected client go on leaves the record to be made. -/
theorem StateAgrees.checked (agrees : StateAgrees session) (sound : ThreadsSound session)
    {client : Nat} {rest : List CallbackStep}
    (stage : (session.clients client).callback = .check :: rest) :
    StateAgrees (session.setClient client { session.clients client with
      callback := if session.context.upstreamClient = some client then rest else [] }) := by
  refine agrees.change id ?_
  intro slot linked ended
  have nothing : rest = [] := by
    rw [if_pos slot] at ended
    exact ended
  rcases callback_online (sound.clients client) linked stage with ⟨_, ending⟩ | ⟨impossible, _⟩
  · rw [nothing] at ending
    cases ending
  · cases impossible

/-- A callback records for the client in the slot. -/
theorem stateAgrees_recorded (sound : ThreadsSound session)
    (before : session.suspensionPending = false) {client : Nat} (now : Rat)
    {call : TelemetryCall} {rest : List CallbackStep}
    (stage : (session.clients client).callback = .record call :: rest) :
    StateAgrees ((session.record now call).setClient client
      { session.clients client with callback := rest }) := by
  have known := sound.clients client
  have slot : session.context.upstreamClient = some client := by
    rcases known.busy (by rw [stage]; exact List.cons_ne_nil _ _) with same | joining
    · exact same
    · have pending : (session.clients client).suspensionPending = true := by
        rw [SessionClient.suspensionPending, joining]
        rfl
      rw [suspensionPending_of_client sound pending] at before
      cases before
  refine stateAgrees_record slot ?_ ?_
  · exact known.steps call (by rw [stage]; exact List.mem_cons_self)
  · intro linked
    rw [if_pos rfl] at linked
    rcases callback_online known linked stage with ⟨impossible, _⟩ | ⟨same, _⟩
    · cases impossible
    · cases same
      rfl

theorem agrees_step {action : ThreadAction} (agrees : Agrees session)
    (inOrder : session.recordsInOrder action = true)
    (moved : threadMachine.step session action = some after) : Agrees after := by
  refine ⟨threadsSound_step agrees.sound moved, ?_⟩
  cases threadMove_of_step moved with
  | installed vacant changed =>
      subst changed
      exact fun _ => stateAgrees_installed session
  | takenOut client current changed =>
      refine stateAgrees_of_pending (threadsSound_step agrees.sound moved) (?_ :
        (after.clients client).suspensionPending = true)
      rw [changed, clients_setClient, if_pos rfl]
      rfl
  | attempted client now built stage changed =>
      subst changed
      intro quiet
      have before : session.suspensionPending = false := quiet_before quiet rfl rfl
      simp only [SessionThreads.recordsInOrder, stage, if_true, before, Bool.false_or,
        Option.any_eq_true, Bool.not_eq_true'] at inOrder
      rcases inOrder with ⟨current, slot, unlinked⟩
      exact stateAgrees_attempted now slot unlinked
  | connected client now built stage changed =>
      subst changed
      intro quiet
      have before : session.suspensionPending = false := quiet_before quiet rfl rfl
      refine (agrees.state before).change (fun _ => by rw [stage]; exact nofun) ?_
      exact (agrees.state before).online client
  | looped client now built stage changed =>
      subst changed
      intro quiet
      have before : session.suspensionPending = false := quiet_before quiet rfl rfl
      refine (agrees.state before).change (fun _ => by rw [stage]; exact nofun) ?_
      exact (agrees.state before).online client
  | loopStopped client now stage joined changed =>
      refine stateAgrees_of_pending (threadsSound_step agrees.sound moved) (?_ :
        (after.clients client).suspensionPending = true)
      rw [changed, clients_setClient, if_pos rfl]
      rfl
  | disconnected client now stage changed =>
      refine stateAgrees_of_pending (threadsSound_step agrees.sound moved) (?_ :
        (after.clients client).suspensionPending = true)
      rw [changed, clients_setClient, if_pos rfl]
      rfl
  | suspended client now stage changed =>
      subst changed
      intro _
      simp only [SessionThreads.recordsInOrder, stage, if_true, Option.all_eq_true,
        decide_eq_true_eq] at inOrder
      exact stateAgrees_suspended agrees.sound now stage inOrder
  | notified client event current looping idle possible changed =>
      subst changed
      intro quiet
      have before : session.suspensionPending = false := quiet_before quiet rfl rfl
      refine (agrees.state before).change id ?_
      intro _ linked ended
      rw [decide_eq_true_eq] at linked
      rw [linked] at ended
      cases ended
  | checked client now rest stage changed =>
      subst changed
      exact fun quiet => (agrees.state (quiet_before quiet rfl rfl)).checked agrees.sound stage
  | recorded client now call rest stage changed =>
      subst changed
      exact fun quiet => stateAgrees_recorded agrees.sound (quiet_before quiet rfl rfl) now stage

end Agreement

/-! ## Runs -/

theorem agrees_initial : Agrees {} where
  sound := ⟨clientSound_initial, fun _ impossible => nomatch impossible⟩
  state := fun _ => ⟨(fun _ impossible => absurd impossible (Nat.lt_irrefl 0)),
    (fun _ impossible => nomatch impossible), (fun _ impossible => nomatch impossible)⟩

/-- When all calls have returned, no suspension is on its way and the current
client has recorded its attempt. -/
theorem settled_of_quiescent {session : SessionThreads} (quiet : session.quiescent = true) :
    session.suspensionPending = false ∧
      forall client, client < session.context.clientsBuilt ->
        (session.clients client).starting = .returned ∧
          (session.clients client).callback = [] := by
  have each : forall client, client < session.context.clientsBuilt ->
      (session.clients client).settled = true := by
    intro client built
    exact List.all_eq_true.mp quiet client (List.mem_range.mpr built)
  refine ⟨?_, ?_⟩
  · refine List.any_eq_false.mpr ?_
    intro client member pending
    have settled := each client (List.mem_range.mp member)
    simp only [SessionClient.settled, Bool.and_eq_true, Bool.or_eq_true,
      decide_eq_true_eq] at settled
    simp only [SessionClient.suspensionPending, Bool.and_eq_true, decide_eq_true_eq] at pending
    rcases settled.1.2 with same | same
    · exact pending.1 same
    · exact pending.2 same
  · intro client built
    have settled := each client built
    simp only [SessionClient.settled, Bool.and_eq_true, Bool.or_eq_true,
      decide_eq_true_eq, List.isEmpty_iff] at settled
    exact ⟨settled.1.1, settled.2⟩

/-- In every run whose records come in order: when all calls have returned and a
start has happened, the state is suspended exactly if there is no client, and a
connected client means that it is online. -/
theorem state_agrees_with_session (actions : List ThreadAction)
    (inOrder : threadMachine.Meets
      (fun session action => session.recordsInOrder action = true) {} actions)
    (quiet : (threadMachine.run {} actions).quiescent = true)
    (begun : 0 < (threadMachine.run {} actions).context.clientsBuilt) :
    ((threadMachine.run {} actions).upstreamState = .suspended ↔
      (threadMachine.run {} actions).context.upstreamClient = none) ∧
    forall client, (threadMachine.run {} actions).context.upstreamClient = some client ->
      ((threadMachine.run {} actions).clients client).linked = true ->
      (threadMachine.run {} actions).upstreamState = .online := by
  have agrees : Agrees (threadMachine.run {} actions) :=
    threadMachine.run_invariant_of_meets _ Agrees
      (fun _ _ _ agrees guard moved => agrees_step agrees guard moved) {} actions agrees_initial
      inOrder
  rcases settled_of_quiescent quiet with ⟨unsuspended, returned⟩
  have state := agrees.state unsuspended
  refine ⟨⟨?_, fun vacant => state.empty vacant begun⟩, ?_⟩
  · intro suspended
    cases slot : (threadMachine.run {} actions).context.upstreamClient with
    | none => rfl
    | some client =>
        have ended := (returned client (agrees.sound.bound client slot)).1
        exact absurd suspended (state.filled client slot (by rw [ended]; exact nofun))
  · intro client slot linked
    exact state.online client slot linked (returned client (agrees.sound.bound client slot)).2

/-- A start call from its first to its last step. -/
def wholeStart (client : Nat) (now : Rat) : List ThreadAction :=
  [.startUpstream, .advanceStart client now, .advanceStart client now, .advanceStart client now]

/-- The steps of a stop call after its locked section. -/
def restOfStop (client : Nat) (now : Rat) : List ThreadAction :=
  [.advanceStop client now, .advanceStop client now, .advanceStop client now]

/-- The cloud accepts the connection and the callback runs. -/
def acceptConnection (client : Nat) (now : Rat) : List ThreadAction :=
  [.event client .accepted, .callback client now, .callback client now]

/-- A session, its end, and a second session that is accepted. -/
def restartedSession : List ThreadAction :=
  wholeStart 0 0 ++ acceptConnection 0 1 ++ [.stopUpstream] ++ restOfStop 0 2 ++ wholeStart 1 3 ++
    acceptConnection 1 4

theorem state_agrees_after_restart :
    (threadMachine.Meets (fun session action => session.recordsInOrder action = true) {}
        restartedSession ∧
      (threadMachine.run {} restartedSession).quiescent = true ∧
      0 < (threadMachine.run {} restartedSession).context.clientsBuilt) ∧
    ((threadMachine.run {} restartedSession).upstreamState = .suspended ↔
      (threadMachine.run {} restartedSession).context.upstreamClient = none) ∧
    forall client, (threadMachine.run {} restartedSession).context.upstreamClient = some client ->
      ((threadMachine.run {} restartedSession).clients client).linked = true ->
      (threadMachine.run {} restartedSession).upstreamState = .online :=
  ⟨⟨by decide +kernel, by decide +kernel, by decide +kernel⟩,
    state_agrees_with_session restartedSession (by decide +kernel) (by decide +kernel)
      (by decide +kernel)⟩

/-- The first stop is overtaken by the second start: it records its suspension
after the second session was accepted. -/
def lateSuspension : List ThreadAction :=
  wholeStart 0 0 ++ acceptConnection 0 1 ++ [.stopUpstream] ++ wholeStart 1 2 ++
    acceptConnection 1 3 ++ restOfStop 0 4

/-- All calls have returned and the second client is connected, but the state
says that the session is suspended. -/
theorem late_suspension_hides_session :
    (threadMachine.run {} lateSuspension).quiescent = true ∧
      0 < (threadMachine.run {} lateSuspension).context.clientsBuilt ∧
      ¬ (((threadMachine.run {} lateSuspension).upstreamState = .suspended ↔
          (threadMachine.run {} lateSuspension).context.upstreamClient = none) ∧
        forall client, (threadMachine.run {} lateSuspension).context.upstreamClient =
            some client ->
          ((threadMachine.run {} lateSuspension).clients client).linked = true ->
          (threadMachine.run {} lateSuspension).upstreamState = .online) := by
  have state : (threadMachine.run {} lateSuspension).upstreamState = .suspended := by
    decide +kernel
  have slot : (threadMachine.run {} lateSuspension).context.upstreamClient = some 1 := by
    decide +kernel
  refine ⟨by decide +kernel, by decide +kernel, ?_⟩
  rintro ⟨same, _⟩
  rw [same.mp state] at slot
  cases slot

end Upstream
end PetlibroRelay
