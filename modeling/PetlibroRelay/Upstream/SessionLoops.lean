import PetlibroRelay.Upstream.DeviceManager
import PetlibroRelay.Upstream.SessionTelemetry

namespace PetlibroRelay
namespace Upstream

open Foundations

/-!
# Network loops and the device manager

Calls of the manager end in starts and stops of contexts, and they reach their
contexts by reference: a thread that has looked at the map goes on with the
contexts it found, whatever happens to the map in between.  A thread is the list
of what it has still to do.  It does not go on to its next context before the
start or stop it is in has returned.

A network loop may be left behind in two ways.  A stop may pass a start that has
installed its client and not yet asked it to connect, and a start may install a
client on a context that has already been given up.
-/

/-- A context as the manager knows it. -/
structure ManagedContext where
  deviceId : String
  session : SessionThreads

/-- What a thread has still to do. -/
inductive Task where
  | startUpstream (object : Nat)
  | awaitStart (object client : Nat)
  | stopUpstream (object : Nat)
  | awaitStop (object client : Nat)
  | syncUpstreamSessions
  | listDevices
  | reconcile (object : Nat)
  | ensureDevice (deviceId productId : String)
  | startIfPresent (object : Nat)
  | removeDevice (deviceId : String)
  | stopManager
  deriving DecidableEq, Repr

/-- The calls a thread may begin with. -/
def Task.isCall : Task -> Bool
  | .startUpstream _ => true
  | .stopUpstream _ => true
  | .syncUpstreamSessions => true
  | .ensureDevice _ _ => true
  | .removeDevice _ => true
  | .stopManager => true
  | _ => false

/-- The manager, its contexts and the threads that use them. -/
structure DeviceThreads where
  devices : DeviceManager ManagedContext := {}
  stopped : Bool := false
  threads : List (List Task) := []

/-- Steps inside a session that are not under a lock. -/
def ThreadAction.isAdvance : ThreadAction -> Bool
  | .startUpstream => false
  | .stopUpstream => false
  | _ => true

inductive ManagerAction where
  | start
  | call (task : Task)
  | perform (thread : Nat) (online : Bool)
  | advance (object : Nat) (action : ThreadAction)
  deriving DecidableEq, Repr

namespace DeviceThreads

def setSession (state : DeviceThreads) (object : Nat) (session : SessionThreads) :
    DeviceThreads :=
  { state with
    devices := state.devices.modify object (fun context => { context with session := session }) }

/-- One task, with what is to be done in its place.  The value is `none` while
the thread has to wait.  Whether a device is present is read by the task. -/
def perform (state : DeviceThreads) (online : Bool) :
    Task -> Option (DeviceThreads × List Task)
  | .startUpstream object =>
      match state.devices.objects[object]? with
      | none => some (state, [])
      | some context =>
          match sessionThreadsStep context.session .startUpstream with
          | none => some (state, [])
          | some started => some (state.setSession object started,
              [.awaitStart object context.session.context.clientsBuilt])
  | .awaitStart object client =>
      state.devices.objects[object]?.bind (fun context =>
        if (context.session.clients client).starting = .returned then some (state, []) else none)
  | .stopUpstream object =>
      match state.devices.objects[object]? with
      | none => some (state, [])
      | some context =>
          match context.session.context.upstreamClient with
          | none => some (state, [])
          | some client =>
              (sessionThreadsStep context.session .stopUpstream).map (fun stopped =>
                (state.setSession object stopped, [.awaitStop object client]))
  | .awaitStop object client =>
      state.devices.objects[object]?.bind (fun context =>
        if (context.session.clients client).stopping = .returned then some (state, []) else none)
  | .syncUpstreamSessions =>
      some (state, if state.devices.started then [.listDevices] else [])
  | .listDevices =>
      some (state, (state.devices.listDevices ManagedContext.deviceId).map .reconcile)
  | .reconcile object =>
      some (state, [if online then .startUpstream object else .stopUpstream object])
  | .ensureDevice deviceId productId =>
      let ensured := state.devices.ensureDevice deviceId
        { deviceId := deviceId, session := { context := { productId := productId } } }
      some ({ state with devices := ensured.1 },
        if ensured.2.2 && state.devices.started then [.startIfPresent ensured.2.1] else [])
  | .startIfPresent object => some (state, if online then [.startUpstream object] else [])
  | .removeDevice deviceId =>
      let removed := state.devices.removeDevice deviceId
      some ({ state with devices := removed.1 }, removed.2.toList.map .stopUpstream)
  | .stopManager =>
      let ended := state.devices.stop
      some ({ state with devices := ended.1, stopped := true }, ended.2.map .stopUpstream)

/-- A context that was removed, or whose manager was stopped. -/
def retired (state : DeviceThreads) (object : Nat) : Bool :=
  state.stopped || decide (object ∉ state.devices.contexts.map Prod.snd)

/-- Whether some thread has still to stop the context. -/
def stopPending (state : DeviceThreads) (object : Nat) : Bool :=
  state.threads.any (fun tasks => decide (.stopUpstream object ∈ tasks))

/-- The current client of a context. -/
def slot? (state : DeviceThreads) (object : Nat) : Option Nat :=
  state.devices.objects[object]?.bind (fun context => context.session.context.upstreamClient)

/-- Whether all calls have returned. -/
def quiescent (state : DeviceThreads) : Bool :=
  state.threads.all List.isEmpty &&
    state.devices.objects.all (fun context => context.session.quiescent)

end DeviceThreads

def managerStep (state : DeviceThreads) : ManagerAction -> Option DeviceThreads
  | .start =>
      if state.stopped then none
      else some { state with devices := { state.devices with started := true } }
  | .call task =>
      if task.isCall then some { state with threads := state.threads ++ [[task]] } else none
  | .perform thread online =>
      match state.threads[thread]? with
      | some (task :: rest) =>
          (state.perform online task).map (fun performed =>
            { performed.1 with threads := state.threads.set thread (performed.2 ++ rest) })
      | _ => none
  | .advance object action =>
      if action.isAdvance then
        state.devices.objects[object]?.bind (fun context =>
          (sessionThreadsStep context.session action).map (fun session =>
            state.setSession object session))
      else none

/-- The manager among the threads that call it. -/
def managerMachine : Machine DeviceThreads ManagerAction where
  step := managerStep

/-- Whether the start call has asked the client to connect. -/
def Starting.hasConnected : Starting -> Bool
  | .attempting => false
  | .connecting => false
  | .looping => true
  | .returned => true

/-- Whether the stop call has disconnected the client. -/
def Stopping.hasDisconnected : Stopping -> Bool
  | .suspending => true
  | .returned => true
  | _ => false

/-- A stop disconnects a client only after its start has asked it to connect, and
a start installs a client only on a context that has not been given up or that
some thread has still to stop. -/
def stepsInOrder (state : DeviceThreads) : ManagerAction -> Bool
  | .advance object (.advanceStop client _) =>
      match state.devices.objects[object]? with
      | some context =>
          !decide ((context.session.clients client).stopping = .disconnecting) ||
            (context.session.clients client).starting.hasConnected
      | none => true
  | .perform thread _ =>
      match state.threads[thread]? with
      | some (.startUpstream object :: _) =>
          !state.retired object || state.stopPending object
      | _ => true
  | _ => true

/-! ## The loops of one context -/

/-- A client wants a connection between `connect_async` and `disconnect`, which
come in this order, and a client that is started and not stopped has its loop. -/
structure LoopSound (client : SessionClient) : Prop where
  wants : client.wantsConnection =
    (client.starting.hasConnected && !client.stopping.hasDisconnected)
  order : client.stopping.hasDisconnected = true -> client.starting.hasConnected = true
  loops : client.starting = .returned -> client.stopping = .untouched ->
    client.loopStarted = true

theorem loopSound_fresh : LoopSound {} := ⟨rfl, nofun, nofun⟩

section Sessions

variable {session after : SessionThreads} {action : ThreadAction}

theorem loopSound_setClient {client : Nat} {changed : SessionClient}
    (clients : forall number, LoopSound (session.clients number)) (next : LoopSound changed)
    (number : Nat) : LoopSound ((session.setClient client changed).clients number) := by
  rw [clients_setClient]
  split
  · exact next
  · exact clients number

theorem loopSound_move (sound : ThreadsSound session)
    (clients : forall number, LoopSound (session.clients number))
    (inOrder : forall client now, action = .advanceStop client now ->
      (session.clients client).stopping = .disconnecting ->
      (session.clients client).starting.hasConnected = true)
    (move : ThreadMove session after action) (number : Nat) :
    LoopSound (after.clients number) := by
  cases move with
  | installed vacant changed =>
      subst changed
      refine loopSound_setClient ?_ loopSound_fresh number
      exact clients
  | takenOut client current changed =>
      subst changed
      refine loopSound_setClient ?_ ?_ number
      · exact clients
      · have untouched := (sound.clients client).current current
        refine ⟨?_, fun impossible => (nomatch impossible), fun _ impossible => (nomatch impossible)⟩
        rw [(clients client).wants, untouched]
        rfl
  | attempted client now built stage changed =>
      subst changed
      refine loopSound_setClient ?_ ?_ number
      · exact clients
      · refine ⟨?_, ?_, fun impossible => (nomatch impossible)⟩
        · rw [(clients client).wants, stage]
          rfl
        · intro disconnected
          have early := (clients client).order disconnected
          rw [stage] at early
          cases early
  | connected client now built stage changed =>
      subst changed
      refine loopSound_setClient clients ?_ number
      have active : (session.clients client).stopping.hasDisconnected = false := by
        refine Bool.eq_false_iff.mpr (fun disconnected => ?_)
        have early := (clients client).order disconnected
        rw [stage] at early
        cases early
      refine ⟨?_, fun _ => rfl, fun impossible => (nomatch impossible)⟩
      rw [active]
      rfl
  | looped client now built stage changed =>
      subst changed
      refine loopSound_setClient clients ?_ number
      refine ⟨?_, fun _ => rfl, fun _ _ => rfl⟩
      rw [(clients client).wants, stage]
      rfl
  | loopStopped client now stage joined changed =>
      subst changed
      refine loopSound_setClient clients ?_ number
      refine ⟨?_, fun impossible => (nomatch impossible), fun _ impossible => (nomatch impossible)⟩
      rw [(clients client).wants, stage]
      rfl
  | disconnected client now stage changed =>
      subst changed
      have connected := inOrder client now rfl stage
      refine loopSound_setClient clients ?_ number
      refine ⟨?_, fun _ => connected, fun _ impossible => (nomatch impossible)⟩
      rw [connected]
      rfl
  | suspended client now stage changed =>
      subst changed
      refine loopSound_setClient ?_ ?_ number
      · exact clients
      · have past : (session.clients client).stopping.hasDisconnected = true := by
          rw [stage]
          rfl
        refine ⟨?_, fun _ => (clients client).order past, fun _ impossible => (nomatch impossible)⟩
        rw [(clients client).wants, stage]
        rfl
  | notified client event current looping idle possible changed =>
      subst changed
      refine loopSound_setClient clients ?_ number
      exact ⟨(clients client).wants, (clients client).order, (clients client).loops⟩
  | checked client now rest stage changed =>
      subst changed
      refine loopSound_setClient clients ?_ number
      exact ⟨(clients client).wants, (clients client).order, (clients client).loops⟩
  | recorded client now call rest stage changed =>
      subst changed
      refine loopSound_setClient ?_ ?_ number
      · exact clients
      · exact ⟨(clients client).wants, (clients client).order, (clients client).loops⟩

/-- Only locked sections change the current client. -/
theorem slot_of_advance (advance : action.isAdvance = true)
    (move : ThreadMove session after action) :
    after.context.upstreamClient = session.context.upstreamClient := by
  cases move with
  | installed vacant changed => cases advance
  | takenOut client current changed => cases advance
  | attempted client now built stage changed => subst changed; rfl
  | connected client now built stage changed => subst changed; rfl
  | looped client now built stage changed => subst changed; rfl
  | loopStopped client now stage joined changed => subst changed; rfl
  | disconnected client now stage changed => subst changed; rfl
  | suspended client now stage changed => subst changed; rfl
  | notified client event current looping idle possible changed => subst changed; rfl
  | checked client now rest stage changed => subst changed; rfl
  | recorded client now call rest stage changed => subst changed; rfl

/-- When all calls have returned, the loops that run are that of the current
client. -/
theorem running_iff_current (sound : ThreadsSound session)
    (clients : forall number, LoopSound (session.clients number))
    (quiet : session.quiescent = true) (client : Nat) :
    (session.clients client).running = true ↔ session.context.upstreamClient = some client := by
  have known := clients client
  constructor
  · intro running
    rw [SessionClient.running, Bool.and_eq_true, known.wants, Bool.and_eq_true,
      Bool.not_eq_true'] at running
    by_contra elsewhere
    by_cases built : client < session.context.clientsBuilt
    · have settled := List.all_eq_true.mp quiet client (List.mem_range.mpr built)
      simp only [SessionClient.settled, Bool.and_eq_true, Bool.or_eq_true,
        decide_eq_true_eq] at settled
      rcases settled.1.2 with untouched | returned
      · exact (sound.clients client).gone built elsewhere untouched
      · rw [returned] at running
        cases running.2.2
    · rw [(sound.clients client).unbuilt (Nat.le_of_not_lt built)] at running
      cases running.1
  · intro current
    have untouched := (sound.clients client).current current
    have returned := ((settled_of_quiescent quiet).2 client (sound.bound client current)).1
    rw [SessionClient.running, known.loops returned untouched, known.wants, returned, untouched]
    rfl

end Sessions

/-! ## Contexts and threads -/

/-- The sessions are sound, and a context that was given up and still has a
client will be stopped by some thread. -/
structure LoopsAgree (state : DeviceThreads) : Prop where
  unique : (Dict.keys state.devices.contexts).Nodup
  sessions : forall (object : Nat) context, state.devices.objects[object]? = some context ->
    ThreadsSound context.session ∧ forall number, LoopSound (context.session.clients number)
  given : forall object client, state.retired object = true ->
    state.slot? object = some client -> state.stopPending object = true

section Manager

variable {state after : DeviceThreads}

theorem stopPending_iff {object : Nat} :
    state.stopPending object = true ↔
      exists tasks, tasks ∈ state.threads ∧ .stopUpstream object ∈ tasks := by
  simp only [DeviceThreads.stopPending, List.any_eq_true, decide_eq_true_eq]

/-- A thread that goes on keeps every stop it has still to make. -/
theorem stopPending_set {devices : DeviceManager ManagedContext} {stopped : Bool} {thread : Nat}
    {task : Task} {rest next : List Task} {object : Nat}
    (there : state.threads[thread]? = some (task :: rest)) (other : task ≠ .stopUpstream object)
    (pending : state.stopPending object = true) :
    (DeviceThreads.mk devices stopped (state.threads.set thread (next ++ rest))).stopPending
      object = true := by
  rcases stopPending_iff.mp pending with ⟨tasks, member, held⟩
  rw [stopPending_iff]
  rcases List.getElem?_of_mem member with ⟨position, found⟩
  by_cases same : thread = position
  · subst position
    rw [there] at found
    cases found
    refine ⟨next ++ rest, ?_, ?_⟩
    · exact List.mem_of_getElem? (List.getElem?_set_self
        (List.getElem?_eq_some_iff.mp there).1)
    · rcases List.mem_cons.mp held with impossible | later
      · exact absurd impossible.symm other
      · exact List.mem_append_right _ later
  · refine ⟨tasks, ?_, held⟩
    refine List.mem_of_getElem? (i := position) ?_
    rw [List.getElem?_set_ne same]
    exact found

/-- A thread that has just got a stop to make has it pending. -/
theorem stopPending_of_next {devices : DeviceManager ManagedContext} {stopped : Bool}
    {thread : Nat} {tasks rest next : List Task} {object : Nat}
    (there : state.threads[thread]? = some tasks) (member : .stopUpstream object ∈ next) :
    (DeviceThreads.mk devices stopped (state.threads.set thread (next ++ rest))).stopPending
      object = true := by
  refine stopPending_iff.mpr ⟨next ++ rest, ?_, List.mem_append_left _ member⟩
  exact List.mem_of_getElem? (List.getElem?_set_self (List.getElem?_eq_some_iff.mp there).1)

/-- A device object that is no longer listed after a removal was the removed
device's. -/
theorem removed_of_unlisted {contexts : Dict String Nat} {deviceId : String} {object : Nat}
    (unique : (Dict.keys contexts).Nodup) (listed : object ∈ contexts.map Prod.snd)
    (unlisted : object ∉ (Dict.erase contexts deviceId).map Prod.snd) :
    Dict.get? contexts deviceId = some object := by
  rcases List.mem_map.mp listed with ⟨entry, member, same⟩
  have own := Dict.get?_eq_some_of_mem unique member
  have removed : entry.1 = deviceId := by
    by_contra different
    refine unlisted (List.mem_map.mpr ⟨entry, ?_, same⟩)
    refine Dict.mem_of_get?_eq_some ?_
    rw [Dict.get?_erase_of_ne _ (fun equal => different equal.symm)]
    exact own
  rw [← removed, own, same]

theorem slot?_setSession (object other : Nat) (session : SessionThreads) :
    (state.setSession object session).slot? other =
      if object = other then
        state.devices.objects[object]?.bind (fun _ => session.context.upstreamClient)
      else state.slot? other := by
  rw [DeviceThreads.slot?, DeviceThreads.setSession, DeviceManager.objects_modify]
  by_cases same : object = other
  · subst other
    simp only [if_true]
    cases state.devices.objects[object]? <;> rfl
  · simp only [same, if_false]
    rw [DeviceThreads.slot?]
    cases state.devices.objects[other]? <;> rfl

/-- A step of one session. -/
theorem LoopsAgree.session (agrees : LoopsAgree state) {object : Nat} {session : SessionThreads}
    {threads : List (List Task)} (sound : ThreadsSound session)
    (loops : forall number, LoopSound (session.clients number))
    (given : forall client, session.context.upstreamClient = some client ->
      state.retired object = true ->
      DeviceThreads.stopPending { state with threads := threads } object = true)
    (pending : forall other, other ≠ object -> state.stopPending other = true ->
      DeviceThreads.stopPending { state with threads := threads } other = true) :
    LoopsAgree { state.setSession object session with threads := threads } where
  unique := agrees.unique
  sessions := by
    intro other context found
    simp only [DeviceThreads.setSession, DeviceManager.objects_modify,
      Option.map_eq_some_iff] at found
    rcases found with ⟨old, there, same⟩
    split at same
    · subst context
      exact ⟨sound, loops⟩
    · subst context
      exact agrees.sessions other old there
  given := by
    intro other client retired slot
    have held : (state.setSession object session).slot? other = some client := slot
    rw [slot?_setSession] at held
    split at held
    · next same =>
        subst same
        rcases Option.bind_eq_some_iff.mp held with ⟨_, _, current⟩
        exact given client current retired
    · next different =>
        exact pending other (fun same => different same.symm) (agrees.given other client retired held)

/-- The contexts, their sessions and the map are the same. -/
theorem LoopsAgree.same (agrees : LoopsAgree state)
    (contexts : after.devices.contexts = state.devices.contexts)
    (objects : after.devices.objects = state.devices.objects)
    (stopped : after.stopped = state.stopped)
    (pending : forall object client, state.slot? object = some client ->
      state.stopPending object = true -> after.stopPending object = true) : LoopsAgree after where
  unique := by
    rw [contexts]
    exact agrees.unique
  sessions := by
    rw [objects]
    exact agrees.sessions
  given := by
    intro object client retired slot
    rw [DeviceThreads.retired, stopped, contexts] at retired
    rw [DeviceThreads.slot?, objects] at slot
    exact pending object client slot (agrees.given object client retired slot)

/-- A locked section of a session, performed by a thread. -/
theorem LoopsAgree.locked (agrees : LoopsAgree state) {object : Nat} {context : ManagedContext}
    {action : ThreadAction} {session : SessionThreads} {threads : List (List Task)}
    (there : state.devices.objects[object]? = some context)
    (moved : sessionThreadsStep context.session action = some session)
    (notStop : forall client now, action ≠ .advanceStop client now)
    (given : forall client, session.context.upstreamClient = some client ->
      state.retired object = true ->
      DeviceThreads.stopPending { state with threads := threads } object = true)
    (pending : forall other, other ≠ object -> state.stopPending other = true ->
      DeviceThreads.stopPending { state with threads := threads } other = true) :
    LoopsAgree { state.setSession object session with threads := threads } := by
  rcases agrees.sessions object context there with ⟨sound, loops⟩
  refine agrees.session (threadsSound_step sound moved) ?_ given pending
  refine loopSound_move sound loops ?_ (threadMove_of_step moved)
  intro client now act
  exact absurd act (notStop client now)

/-- A new context has no client, and the others stay where they are. -/
theorem LoopsAgree.ensured (agrees : LoopsAgree state) (deviceId productId : String)
    {threads : List (List Task)}
    (pending : forall object, state.stopPending object = true ->
      DeviceThreads.stopPending { state with threads := threads } object = true) :
    LoopsAgree { state with
      devices := (state.devices.ensureDevice deviceId
        { deviceId := deviceId, session := { context := { productId := productId } } }).1
      threads := threads } := by
  cases known : Dict.get? state.devices.contexts deviceId with
  | some existing =>
      refine agrees.same ?_ ?_ rfl (fun object _ _ => pending object) <;>
        simp only [DeviceManager.ensureDevice, known]
  | none =>
      refine ⟨?_, ?_, ?_⟩
      · simp only [DeviceManager.ensureDevice, known]
        exact Dict.nodup_keys_set _ _ _ agrees.unique
      · intro object context found
        simp only [DeviceManager.ensureDevice, known, List.getElem?_append] at found
        split at found
        · exact agrees.sessions object context found
        · rw [List.mem_singleton.mp (List.mem_of_getElem? found)]
          exact ⟨⟨clientSound_initial, fun _ impossible => (by cases impossible)⟩,
            fun _ => loopSound_fresh⟩
      · intro object client retired slot
        refine pending object (agrees.given object client ?_ ?_)
        · simp only [DeviceThreads.retired, DeviceManager.ensureDevice, known, Bool.or_eq_true,
            decide_eq_true_eq] at retired ⊢
          refine retired.imp id (fun absent listed => absent ?_)
          rcases List.mem_map.mp listed with ⟨entry, member, same⟩
          refine List.mem_map.mpr ⟨entry, ?_, same⟩
          refine Dict.mem_of_get?_eq_some ?_
          have own := Dict.get?_eq_some_of_mem agrees.unique member
          rw [Dict.get?_set_of_ne _ _ ?_]
          · exact own
          · rintro rfl
            rw [known] at own
            cases own
        · simp only [DeviceThreads.slot?, DeviceManager.ensureDevice, known,
            List.getElem?_append] at slot ⊢
          split at slot
          · exact slot
          · rcases Option.bind_eq_some_iff.mp slot with ⟨context, found, held⟩
            rw [List.mem_singleton.mp (List.mem_of_getElem? found)] at held
            cases held

/-- A context that is given up now will be stopped by the thread that does it. -/
theorem LoopsAgree.giveUp (agrees : LoopsAgree state) {contexts : Dict String Nat}
    {started stopped : Bool} {threads : List (List Task)}
    (unique : (Dict.keys contexts).Nodup)
    (pending : forall object, state.stopPending object = true ->
      DeviceThreads.stopPending { state with threads := threads } object = true)
    (fresh : forall object, state.retired object = false -> stopped = true ∨
      object ∉ contexts.map Prod.snd ->
      DeviceThreads.stopPending { state with threads := threads } object = true) :
    LoopsAgree (DeviceThreads.mk
      { state.devices with contexts := contexts, started := started } stopped threads) where
  unique := unique
  sessions := agrees.sessions
  given := by
    intro object client retired slot
    cases before : state.retired object with
    | true => exact pending object (agrees.given object client before slot)
    | false =>
        simp only [DeviceThreads.retired, Bool.or_eq_true, decide_eq_true_eq] at retired
        exact fresh object before retired

section Perform

variable {thread : Nat} {task : Task} {rest next : List Task}

/-- Only the stop of a context itself can be what its stop was waiting for. -/
theorem LoopsAgree.passed (agrees : LoopsAgree state)
    (there : state.threads[thread]? = some (task :: rest))
    (others : forall object, task ≠ .stopUpstream object) :
    LoopsAgree { state with threads := state.threads.set thread (next ++ rest) } :=
  agrees.same rfl rfl rfl (fun object _ _ => stopPending_set there (others object))

/-- A start that is in order, of a session that may have been given up. -/
theorem LoopsAgree.startUpstream (agrees : LoopsAgree state) {online : Bool} {object : Nat}
    (there : state.threads[thread]? = some (.startUpstream object :: rest))
    (inOrder : state.retired object = true -> state.stopPending object = true)
    (performed : state.perform online (.startUpstream object) = some (after, next)) :
    LoopsAgree { after with threads := state.threads.set thread (next ++ rest) } := by
  simp only [DeviceThreads.perform] at performed
  split at performed
  · cases performed
    exact agrees.passed there (by rintro _ ⟨⟩)
  · next context found =>
      split at performed <;> cases performed
      · exact agrees.passed there (by rintro _ ⟨⟩)
      · next moved =>
          refine agrees.locked found moved (fun _ _ => by rintro ⟨⟩) ?_
            (fun _ _ => stopPending_set there (by rintro ⟨⟩))
          intro client _ retired
          exact stopPending_set there (by rintro ⟨⟩) (inOrder retired)

/-- A stop of one session, which takes its client out if there is one. -/
theorem LoopsAgree.stopUpstream (agrees : LoopsAgree state) {online : Bool} {object : Nat}
    (there : state.threads[thread]? = some (.stopUpstream object :: rest))
    (performed : state.perform online (.stopUpstream object) = some (after, next)) :
    LoopsAgree { after with threads := state.threads.set thread (next ++ rest) } := by
  have pending : forall other, other ≠ object -> state.stopPending other = true ->
      DeviceThreads.stopPending
        { state with threads := state.threads.set thread (next ++ rest) } other = true :=
    fun other different => stopPending_set there
      (fun same => different (Task.stopUpstream.inj same).symm)
  have vacant : state.slot? object = none ->
      LoopsAgree { state with threads := state.threads.set thread (next ++ rest) } := by
    intro nothing
    refine agrees.same rfl rfl rfl ?_
    intro other client held
    refine pending other ?_
    rintro rfl
    rw [nothing] at held
    cases held
  simp only [DeviceThreads.perform] at performed
  split at performed
  · next absent =>
      cases performed
      exact vacant (by rw [DeviceThreads.slot?, absent]; rfl)
  · next context found =>
      split at performed
      · next nothing =>
          cases performed
          exact vacant (by rw [DeviceThreads.slot?, found]; exact nothing)
      · next client current =>
          rw [Option.map_eq_some_iff] at performed
          rcases performed with ⟨session, moved, same⟩
          cases same
          refine agrees.locked found moved (fun _ _ => by rintro ⟨⟩) ?_ pending
          intro other slot
          cases threadMove_of_step moved with
          | takenOut taken _ changed =>
              subst changed
              cases slot

/-- A context that is removed from the map is stopped next. -/
theorem LoopsAgree.removeDevice (agrees : LoopsAgree state) {online : Bool} {deviceId : String}
    (there : state.threads[thread]? = some (.removeDevice deviceId :: rest))
    (performed : state.perform online (.removeDevice deviceId) = some (after, next)) :
    LoopsAgree { after with threads := state.threads.set thread (next ++ rest) } := by
  cases performed
  refine agrees.giveUp ?_ (fun _ => stopPending_set there (by rintro ⟨⟩)) ?_
  · exact (List.filter_sublist.map Prod.fst).nodup agrees.unique
  · intro object kept gone
    simp only [DeviceThreads.retired, Bool.or_eq_false_iff, decide_eq_false_iff_not,
      not_not] at kept
    rcases gone with impossible | unlisted
    · rw [kept.1] at impossible
      cases impossible
    · refine stopPending_of_next there ?_
      rw [DeviceManager.removeDevice, removed_of_unlisted agrees.unique kept.2 unlisted]
      exact List.mem_singleton.mpr rfl

/-- A manager that stops goes through all it had in the map. -/
theorem LoopsAgree.stopManager (agrees : LoopsAgree state) {online : Bool}
    (there : state.threads[thread]? = some (.stopManager :: rest))
    (performed : state.perform online .stopManager = some (after, next)) :
    LoopsAgree { after with threads := state.threads.set thread (next ++ rest) } := by
  cases performed
  refine agrees.giveUp List.nodup_nil (fun _ => stopPending_set there (by rintro ⟨⟩)) ?_
  intro object kept _
  simp only [DeviceThreads.retired, Bool.or_eq_false_iff, decide_eq_false_iff_not,
    not_not] at kept
  exact stopPending_of_next there (List.mem_map_of_mem kept.2)

theorem loopsAgree_perform (agrees : LoopsAgree state) {online : Bool}
    (there : state.threads[thread]? = some (task :: rest))
    (inOrder : forall object, task = .startUpstream object -> state.retired object = true ->
      state.stopPending object = true)
    (performed : state.perform online task = some (after, next)) :
    LoopsAgree { after with threads := state.threads.set thread (next ++ rest) } := by
  cases task with
  | startUpstream object => exact agrees.startUpstream there (inOrder object rfl) performed
  | stopUpstream object => exact agrees.stopUpstream there performed
  | removeDevice deviceId => exact agrees.removeDevice there performed
  | stopManager => exact agrees.stopManager there performed
  | ensureDevice deviceId productId =>
      cases performed
      exact agrees.ensured deviceId productId
        (fun _ => stopPending_set there (by rintro ⟨⟩))
  | awaitStart object client =>
      simp only [DeviceThreads.perform, Option.bind_eq_some_iff] at performed
      rcases performed with ⟨context, _, waited⟩
      split at waited <;> cases waited
      exact agrees.passed there (by rintro _ ⟨⟩)
  | awaitStop object client =>
      simp only [DeviceThreads.perform, Option.bind_eq_some_iff] at performed
      rcases performed with ⟨context, _, waited⟩
      split at waited <;> cases waited
      exact agrees.passed there (by rintro _ ⟨⟩)
  | syncUpstreamSessions =>
      cases performed
      exact agrees.passed there (by rintro _ ⟨⟩)
  | listDevices =>
      cases performed
      exact agrees.passed there (by rintro _ ⟨⟩)
  | reconcile object =>
      cases performed
      exact agrees.passed there (by rintro _ ⟨⟩)
  | startIfPresent object =>
      cases performed
      exact agrees.passed there (by rintro _ ⟨⟩)

end Perform

theorem loopsAgree_step {action : ManagerAction} (agrees : LoopsAgree state)
    (inOrder : stepsInOrder state action = true)
    (moved : managerMachine.step state action = some after) : LoopsAgree after := by
  cases action with
  | start =>
      simp only [managerMachine, managerStep] at moved
      split at moved <;> cases moved
      exact agrees.same rfl rfl rfl (fun _ _ _ waiting => waiting)
  | call task =>
      simp only [managerMachine, managerStep] at moved
      split at moved <;> cases moved
      refine agrees.same rfl rfl rfl ?_
      intro object _ _ waiting
      rcases stopPending_iff.mp waiting with ⟨tasks, member, held⟩
      exact stopPending_iff.mpr ⟨tasks, List.mem_append_left _ member, held⟩
  | perform thread online =>
      simp only [managerMachine, managerStep] at moved
      split at moved
      · next task rest there =>
          rw [Option.map_eq_some_iff] at moved
          rcases moved with ⟨⟨changed, next⟩, performed, same⟩
          subst after
          refine loopsAgree_perform agrees there ?_ performed
          intro object act retired
          subst act
          simp only [stepsInOrder, there, retired, Bool.not_true, Bool.false_or] at inOrder
          exact inOrder
      · cases moved
  | advance object action =>
      simp only [managerMachine, managerStep] at moved
      split at moved
      · next advance =>
          rw [Option.bind_eq_some_iff] at moved
          rcases moved with ⟨context, found, stepped⟩
          rw [Option.map_eq_some_iff] at stepped
          rcases stepped with ⟨session, moved, same⟩
          subst after
          rcases agrees.sessions object context found with ⟨sound, loops⟩
          have slot := slot_of_advance advance (threadMove_of_step moved)
          refine agrees.session (threadsSound_step sound moved) ?_ ?_ (fun _ _ waiting => waiting)
          · refine loopSound_move sound loops ?_ (threadMove_of_step moved)
            intro client now act stage
            subst act
            simp only [stepsInOrder, found, stage, decide_true, Bool.not_true,
              Bool.false_or] at inOrder
            exact inOrder
          · intro client current retired
            refine agrees.given object client retired ?_
            rw [DeviceThreads.slot?, found, Option.bind_some, ← slot]
            exact current
      · cases moved

end Manager

/-! ## Runs -/

theorem loopsAgree_initial : LoopsAgree {} where
  unique := List.nodup_nil
  sessions := fun object context found => by
    simp only [List.getElem?_nil, reduceCtorEq] at found
  given := fun object client _ slot => by
    simp only [DeviceThreads.slot?, List.getElem?_nil, Option.bind_none, reduceCtorEq] at slot

/-- In every run whose steps are in order: when all calls have returned, the
clients of a context whose network loop runs are exactly its current client, and
there is none if the context was removed or its manager was stopped. -/
theorem one_loop_per_device (actions : List ManagerAction)
    (inOrder : managerMachine.Meets (fun state action => stepsInOrder state action = true) {}
      actions)
    (quiet : (managerMachine.run {} actions).quiescent = true) :
    forall (object : Nat) context,
      (managerMachine.run {} actions).devices.objects[object]? = some context ->
      (forall client, (context.session.clients client).running = true ↔
        context.session.context.upstreamClient = some client) ∧
      ((managerMachine.run {} actions).retired object = true ->
        forall client, (context.session.clients client).running = false) := by
  have agrees : LoopsAgree (managerMachine.run {} actions) :=
    managerMachine.run_invariant_of_meets _ LoopsAgree
      (fun _ _ _ agrees guard moved => loopsAgree_step agrees guard moved) {} actions
      loopsAgree_initial inOrder
  generalize managerMachine.run {} actions = state at quiet agrees
  intro object context found
  rw [DeviceThreads.quiescent, Bool.and_eq_true] at quiet
  rcases agrees.sessions object context found with ⟨sound, loops⟩
  have settled : context.session.quiescent = true :=
    List.all_eq_true.mp quiet.2 context (List.mem_of_getElem? found)
  have exactly := running_iff_current sound loops settled
  refine ⟨exactly, ?_⟩
  intro retired client
  refine Bool.eq_false_iff.mpr (fun running => ?_)
  have slot : state.slot? object = some client := by
    rw [DeviceThreads.slot?, found, Option.bind_some]
    exact (exactly client).mp running
  -- the stop that must still come contradicts that all threads have ended
  rcases stopPending_iff.mp (agrees.given object client retired slot) with ⟨tasks, member, held⟩
  have ended := List.all_eq_true.mp quiet.1 tasks member
  rw [List.isEmpty_iff] at ended
  rw [ended] at held
  cases held

/-- The remaining steps of the start or stop of a context's client. -/
def finishStart (object client : Nat) : List ManagerAction :=
  [.advance object (.advanceStart client 0), .advance object (.advanceStart client 0),
    .advance object (.advanceStart client 0)]

def finishStop (object client : Nat) : List ManagerAction :=
  [.advance object (.advanceStop client 0), .advance object (.advanceStop client 0),
    .advance object (.advanceStop client 0)]

/-- Device `A` is bridged by the first thread, which installs a client. -/
def installClient : List ManagerAction :=
  [.start, .call (.ensureDevice "A" "PLAF203"), .perform 0 true, .perform 0 true, .perform 0 true]

/-- A complete session, and the removal of the device. -/
def removedAfterSession : List ManagerAction :=
  installClient ++ finishStart 0 0 ++ [.perform 0 true, .call (.removeDevice "A"), .perform 1 true,
    .perform 1 true] ++ finishStop 0 0 ++ [.perform 1 true]

theorem no_loop_after_removal :
    (managerMachine.Meets (fun state action => stepsInOrder state action = true) {}
        removedAfterSession ∧
      (managerMachine.run {} removedAfterSession).quiescent = true) ∧
    forall (object : Nat) context,
      (managerMachine.run {} removedAfterSession).devices.objects[object]? = some context ->
      (forall client, (context.session.clients client).running = true ↔
        context.session.context.upstreamClient = some client) ∧
      ((managerMachine.run {} removedAfterSession).retired object = true ->
        forall client, (context.session.clients client).running = false) :=
  ⟨⟨by decide +kernel, by decide +kernel⟩,
    one_loop_per_device removedAfterSession (by decide +kernel) (by decide +kernel)⟩

/-- A stop passes the start, which then goes on. -/
def stopPassesStart : List ManagerAction :=
  installClient ++ [.call (.stopUpstream 0), .perform 1 true] ++ finishStop 0 0 ++
    [.perform 1 true] ++ finishStart 0 0 ++ [.perform 0 true]

/-- A thread that has listed the device starts it after its removal. -/
def startAfterRemoval : List ManagerAction :=
  [.start, .call (.ensureDevice "A" "PLAF203"), .perform 0 false, .perform 0 false,
    .call .syncUpstreamSessions, .perform 1 true, .perform 1 true,
    .call (.removeDevice "A"), .perform 2 true, .perform 2 true,
    .perform 1 true, .perform 1 true] ++ finishStart 0 0 ++ [.perform 1 true]

/-- All calls have returned and the context has no current client, but a loop is
running.  In the second run the context even was removed before its client was
installed. -/
theorem loop_left_behind :
    ((managerMachine.run {} stopPassesStart).quiescent = true ∧
      exists context, (managerMachine.run {} stopPassesStart).devices.objects[0]? =
          some context ∧
        context.session.context.upstreamClient = none ∧
        (context.session.clients 0).running = true) ∧
    ((managerMachine.run {} startAfterRemoval).quiescent = true ∧
      (managerMachine.run {} startAfterRemoval).retired 0 = true ∧
      exists context, (managerMachine.run {} startAfterRemoval).devices.objects[0]? =
          some context ∧
        (context.session.clients 0).running = true) := by
  refine ⟨⟨by decide +kernel, _, rfl, ?_, ?_⟩, by decide +kernel, by decide +kernel, _, rfl, ?_⟩
  · decide +kernel
  · decide +kernel
  · decide +kernel

end Upstream
end PetlibroRelay
