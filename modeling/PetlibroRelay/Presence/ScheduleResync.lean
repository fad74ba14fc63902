import PetlibroRelay.Foundations.Threads
import PetlibroRelay.Presence.CaptureProxy

namespace PetlibroRelay
namespace Presence

open Foundations

/-!
# Restoring schedules after a connection

The coordinator restores a feeder's schedule once for each local connection.
It is told of connections by the passes that reconcile the cloud sessions.  A
pass reads the generation of the connection from the presence tracker and calls
the coordinator afterwards, so the generation may be an old one by then, and
passes of different threads may overtake each other.  The coordinator compares
the generation with the one it saw last for equality only.

A timer that is cancelled may already have gone past the check of its flag, in
which case its callback runs all the same.  Such a timer has been fired here.
-/

structure ResyncTimer where
  deviceId : String
  generation : Nat
  waiting : Bool := true
  deriving DecidableEq, Repr

/-- The coordinator: the generation it saw last for each device, the timer it
keeps for it, and every timer it has created. -/
structure ScheduleResyncCoordinator where
  generations : Dict String Nat := []
  timers : Dict String Nat := []
  created : List ResyncTimer := []

namespace ScheduleResyncCoordinator

def cancel (coordinator : ScheduleResyncCoordinator) (number : Nat) : ScheduleResyncCoordinator :=
  { coordinator with
    created := coordinator.created.modify number (fun timer => { timer with waiting := false }) }

/-- The section of `device_online` under the lock. -/
def deviceOnline (coordinator : ScheduleResyncCoordinator) (deviceId : String)
    (generation : Nat) : ScheduleResyncCoordinator :=
  if Dict.get? coordinator.generations deviceId = some generation then coordinator
  else
    let superseded :=
      match Dict.get? coordinator.timers deviceId with
      | none => coordinator
      | some previous => coordinator.cancel previous
    { generations := Dict.set coordinator.generations deviceId generation
      timers := Dict.set (Dict.erase coordinator.timers deviceId) deviceId
        coordinator.created.length
      created := superseded.created ++ [{ deviceId := deviceId, generation := generation }] }

/-- The section of `_resync_if_still_current` under the lock, and whether the
callback goes on. -/
def claimTimer (coordinator : ScheduleResyncCoordinator) (deviceId : String) (generation : Nat) :
    ScheduleResyncCoordinator × Bool :=
  if Dict.get? coordinator.generations deviceId = some generation then
    ({ coordinator with timers := Dict.erase coordinator.timers deviceId }, true)
  else (coordinator, false)

/-- The section of `stop` under the lock, and the timers to cancel. -/
def stop (coordinator : ScheduleResyncCoordinator) : ScheduleResyncCoordinator × List Nat :=
  ({ coordinator with timers := [] }, coordinator.timers.map Prod.snd)

end ScheduleResyncCoordinator

/-- What the threads share. -/
structure ResyncState where
  presence : DevicePresenceTracker := {}
  coordinator : ScheduleResyncCoordinator := {}

/-- The sections of a pass, of a timer's callback and of a shutdown. -/
inductive ResyncJob where
  | syncDevice (deviceId : String)
  | readPresence (deviceId : String)
  | deviceOnline (deviceId : String) (generation : Nat)
  | resyncIfStillCurrent (deviceId : String) (generation : Nat)
  | checkPresence (deviceId : String) (generation : Nat)
  | resyncPersistedSchedules (deviceId : String) (generation : Nat)
  | cancelTimer (number : Nat)
  deriving DecidableEq, Repr

namespace ResyncState

/-- One section, and the sections that follow from it. -/
def perform (state : ResyncState) (now : Rat) : ResyncJob -> ResyncState × List ResyncJob
  | .syncDevice deviceId =>
      (state, if state.presence.isOnline now deviceId then [.readPresence deviceId] else [])
  | .readPresence deviceId =>
      (state,
        match state.presence.record deviceId with
        | none => []
        | some record =>
            if record.connected then [.deviceOnline deviceId record.connectionGeneration] else [])
  | .deviceOnline deviceId generation =>
      ({ state with coordinator := state.coordinator.deviceOnline deviceId generation }, [])
  | .resyncIfStillCurrent deviceId generation =>
      let claimed := state.coordinator.claimTimer deviceId generation
      ({ state with coordinator := claimed.1 },
        if claimed.2 then [.checkPresence deviceId generation] else [])
  | .checkPresence deviceId generation =>
      (state,
        if (state.presence.record deviceId).any (fun record =>
            record.connected && decide (record.connectionGeneration = generation)) then
          [.resyncPersistedSchedules deviceId generation]
        else [])
  | .resyncPersistedSchedules _ _ => (state, [])
  | .cancelTimer number => ({ state with coordinator := state.coordinator.cancel number }, [])

end ResyncState

inductive ResyncAction where
  | sessionOpened (now : Rat) (deviceId : String) (peerAddress : Option String)
  | sessionClosed (now : Rat) (deviceId : String)
  | syncUpstreamSessions (deviceIds : List String)
  | fireTimer (number : Nat)
  | stop
  | advance (thread : Nat) (now : Rat)
  deriving DecidableEq, Repr

/-- A timer goes past the check of its flag, once. -/
def fireTimer (state : ResyncState × List (List ResyncJob)) (number : Nat) :
    Option (ResyncState × List (List ResyncJob)) :=
  match state.1.coordinator.created[number]? with
  | none => none
  | some timer =>
      if timer.waiting then
        some ({ state.1 with coordinator := state.1.coordinator.cancel number },
          state.2 ++ [[.resyncIfStillCurrent timer.deviceId timer.generation]])
      else none

/-- The coordinator and the tracker among the threads. -/
def resyncMachine : Machine (ResyncState × List (List ResyncJob)) ResyncAction where
  step state
    | .sessionOpened now deviceId peerAddress =>
        some ({ state.1 with
          presence := state.1.presence.sessionOpened now deviceId peerAddress }, state.2)
    | .sessionClosed now deviceId =>
        some ({ state.1 with presence := state.1.presence.sessionClosed now deviceId }, state.2)
    | .syncUpstreamSessions deviceIds =>
        some (state.1, state.2 ++ [deviceIds.map .syncDevice])
    | .fireTimer number => fireTimer state number
    | .stop =>
        let stopped := state.1.coordinator.stop
        some ({ state.1 with coordinator := stopped.1 },
          state.2 ++ [stopped.2.map .cancelTimer])
    | .advance thread now => Threads.advance ResyncState.perform state thread now

/-- The restorations that were invoked, with the connection they were for. -/
abbrev ResyncLog := List (String × Nat)

def observeResync (log : ResyncLog) (state : ResyncState × List (List ResyncJob)) :
    ResyncAction -> ResyncLog
  | .advance thread _ =>
      match Threads.nextJob state.2 thread with
      | some (.resyncPersistedSchedules deviceId generation) => log ++ [(deviceId, generation)]
      | _ => log
  | _ => log

def loggedResync : Machine ((ResyncState × List (List ResyncJob)) × ResyncLog) ResyncAction :=
  resyncMachine.watched observeResync

/-- No call of `device_online` carries a generation lower than the one the
coordinator saw last for the device. -/
def carriesNoOlder (state : ResyncState × List (List ResyncJob)) : ResyncAction -> Bool
  | .advance thread _ =>
      match Threads.nextJob state.2 thread with
      | some (.deviceOnline deviceId generation) =>
          (Dict.get? state.1.coordinator.generations deviceId).all
            (fun seen => decide (seen ≤ generation))
      | _ => true
  | _ => true

/-! ## What is outstanding for a connection -/

/-- The connection a section of a timer's callback is for. -/
def ResyncJob.restores : ResyncJob -> Option (String × Nat)
  | .resyncIfStillCurrent deviceId generation => some (deviceId, generation)
  | .checkPresence deviceId generation => some (deviceId, generation)
  | .resyncPersistedSchedules deviceId generation => some (deviceId, generation)
  | _ => none

/-- The timers of a connection that are still waiting. -/
def ScheduleResyncCoordinator.waitingFor (coordinator : ScheduleResyncCoordinator)
    (connection : String × Nat) : Nat :=
  coordinator.created.countP (fun timer =>
    timer.waiting && decide ((timer.deviceId, timer.generation) = connection))

/-- The callbacks of a connection's timers that are running. -/
def running (connection : String × Nat) (threads : List (List ResyncJob)) : Nat :=
  Threads.pendingCount (fun job => decide (job.restores = some connection)) threads

/-- Waiting timers, running callbacks and restorations of a connection. -/
def outstanding (coordinator : ScheduleResyncCoordinator) (threads : List (List ResyncJob))
    (log : ResyncLog) (connection : String × Nat) : Nat :=
  coordinator.waitingFor connection + running connection threads + log.count connection

/-- A timer that stops waiting, counted on both sides. -/
theorem waitingFor_cancel {coordinator : ScheduleResyncCoordinator} {number : Nat}
    {timer : ResyncTimer} (found : coordinator.created[number]? = some timer)
    (connection : String × Nat) :
    (coordinator.cancel number).waitingFor connection +
        (if timer.waiting = true ∧ (timer.deviceId, timer.generation) = connection then 1 else 0) =
      coordinator.waitingFor connection := by
  have replaced : (coordinator.cancel number).created =
      coordinator.created.set number { timer with waiting := false } := by
    apply List.ext_getElem?
    intro other
    have inside := (List.getElem?_eq_some_iff.mp found).1
    rw [ScheduleResyncCoordinator.cancel, List.getElem?_modify, List.getElem?_set, if_pos inside]
    by_cases same : number = other
    · subst same
      simp only [if_true, found, Option.map_eq_map, Option.map_some]
    · simp only [same, if_false, Option.map_eq_map, Option.map_id']
  have counted := countP_set_add (fun timer : ResyncTimer =>
    timer.waiting && decide ((timer.deviceId, timer.generation) = connection)) found
    { timer with waiting := false }
  simp only [Bool.and_eq_true, decide_eq_true_eq, Bool.false_and, Bool.false_eq_true, if_false,
    Nat.add_zero] at counted
  rw [ScheduleResyncCoordinator.waitingFor, replaced]
  exact counted

theorem waitingFor_cancel_le (coordinator : ScheduleResyncCoordinator) (number : Nat)
    (connection : String × Nat) :
    (coordinator.cancel number).waitingFor connection ≤ coordinator.waitingFor connection := by
  cases found : coordinator.created[number]? with
  | some timer =>
      have counted := waitingFor_cancel found connection
      omega
  | none =>
      have outside := List.getElem?_eq_none_iff.mp found
      rw [ScheduleResyncCoordinator.waitingFor, ScheduleResyncCoordinator.cancel,
        List.modify_eq_self outside, ScheduleResyncCoordinator.waitingFor]

/-- A generation other than the one seen last replaces it, with one new timer. -/
theorem waitingFor_deviceOnline (coordinator : ScheduleResyncCoordinator) (deviceId : String)
    (generation : Nat) (connection : String × Nat)
    (unseen : Dict.get? coordinator.generations deviceId ≠ some generation) :
    (coordinator.deviceOnline deviceId generation).waitingFor connection ≤
      coordinator.waitingFor connection + if (deviceId, generation) = connection then 1 else 0 := by
  have fewer : (match Dict.get? coordinator.timers deviceId with
      | none => coordinator
      | some previous => coordinator.cancel previous).waitingFor connection ≤
        coordinator.waitingFor connection := by
    split
    · exact Nat.le_refl _
    · exact waitingFor_cancel_le coordinator _ connection
  rw [ScheduleResyncCoordinator.waitingFor, ScheduleResyncCoordinator.deviceOnline, if_neg unseen,
    List.countP_append, List.countP_singleton]
  simp only [Bool.true_and, decide_eq_true_eq]
  exact Nat.add_le_add_right fewer _

/-! ## At most one -/

/-- For each connection at most one thing is outstanding, and the coordinator
has not seen a lower generation since. -/
def OncePerConnection (coordinator : ScheduleResyncCoordinator)
    (threads : List (List ResyncJob)) (log : ResyncLog) : Prop :=
  forall deviceId generation,
    outstanding coordinator threads log (deviceId, generation) ≤ 1 ∧
      (0 < outstanding coordinator threads log (deviceId, generation) ->
        exists seen, Dict.get? coordinator.generations deviceId = some seen ∧ generation ≤ seen)

/-- A step that creates no timer and leaves the generations alone. -/
theorem OncePerConnection.of_le {coordinator after : ScheduleResyncCoordinator}
    {threads threadsAfter : List (List ResyncJob)} {log logAfter : ResyncLog}
    (once : OncePerConnection coordinator threads log)
    (same : after.generations = coordinator.generations)
    (fewer : forall connection, outstanding after threadsAfter logAfter connection ≤
      outstanding coordinator threads log connection) :
    OncePerConnection after threadsAfter logAfter := by
  intro deviceId generation
  have less := fewer (deviceId, generation)
  obtain ⟨atMost, seen⟩ := once deviceId generation
  refine ⟨Nat.le_trans less atMost, fun some => ?_⟩
  rw [same]
  exact seen (Nat.lt_of_lt_of_le some less)

/-- A call of `device_online` with a generation that is not an older one. -/
theorem OncePerConnection.deviceOnline {coordinator : ScheduleResyncCoordinator}
    {threads threadsAfter : List (List ResyncJob)} {log : ResyncLog} {deviceId : String}
    {generation : Nat} (once : OncePerConnection coordinator threads log)
    (notOlder : forall seen, Dict.get? coordinator.generations deviceId = some seen ->
      seen ≤ generation)
    (fewer : forall connection, running connection threadsAfter ≤ running connection threads) :
    OncePerConnection (coordinator.deviceOnline deviceId generation) threadsAfter log := by
  by_cases known : Dict.get? coordinator.generations deviceId = some generation
  · have same : coordinator.deviceOnline deviceId generation = coordinator := by
      rw [ScheduleResyncCoordinator.deviceOnline, if_pos known]
    rw [same]
    apply once.of_le rfl
    intro connection
    exact Nat.add_le_add_right (Nat.add_le_add_left (fewer connection) _) _
  · intro otherDevice otherGeneration
    obtain ⟨atMost, seen⟩ := once otherDevice otherGeneration
    have timers := waitingFor_deviceOnline coordinator deviceId generation
      (otherDevice, otherGeneration) known
    have callbacks := fewer (otherDevice, otherGeneration)
    have stored : Dict.get? (coordinator.deviceOnline deviceId generation).generations
        otherDevice = if deviceId = otherDevice then some generation
          else Dict.get? coordinator.generations otherDevice := by
      rw [ScheduleResyncCoordinator.deviceOnline, if_neg known]
      exact Dict.get?_set _ _ _ _
    unfold outstanding at atMost seen ⊢
    rw [stored]
    by_cases sameDevice : deviceId = otherDevice
    · subst sameDevice
      by_cases sameGeneration : generation = otherGeneration
      · subst sameGeneration
        -- Nothing is outstanding for a generation above all that were seen.
        have nothing : ¬ 0 < coordinator.waitingFor (deviceId, generation) +
            running (deviceId, generation) threads + log.count (deviceId, generation) := by
          intro some
          obtain ⟨last, found, above⟩ := seen some
          have equal := Nat.le_antisymm (notOlder last found) above
          exact known (equal ▸ found)
        rw [if_pos rfl] at timers
        refine ⟨by omega, fun _ => ⟨generation, if_pos rfl, Nat.le_refl _⟩⟩
      · have other : ¬ (deviceId, generation) = (deviceId, otherGeneration) := by
          intro equal
          exact sameGeneration (Prod.mk.inj equal).2
        rw [if_neg other] at timers
        refine ⟨by omega, fun some => ⟨generation, if_pos rfl, ?_⟩⟩
        obtain ⟨last, found, above⟩ := seen (by omega)
        exact Nat.le_trans above (notOlder last found)
    · have other : ¬ (deviceId, generation) = (otherDevice, otherGeneration) := by
        intro equal
        exact sameDevice (Prod.mk.inj equal).1
      rw [if_neg other] at timers
      rw [if_neg sameDevice]
      exact ⟨by omega, fun some => seen (by omega)⟩

/-- A thread that goes on with at most what it was at. -/
theorem running_continued_le {threads : List (List ResyncJob)} {number : Nat} {job : ResyncJob}
    {rest next : List ResyncJob} (found : threads[number]? = some (job :: rest))
    (connection : String × Nat)
    (fewer : next.countP (fun other => decide (other.restores = some connection)) ≤
      if job.restores = some connection then 1 else 0) :
    running connection (threads.set number (next ++ rest)) ≤ running connection threads := by
  have counted := Threads.pendingCount_continued
    (fun other : ResyncJob => decide (other.restores = some connection)) found next
  simp only [decide_eq_true_eq] at counted
  unfold running
  omega

/-- The sections that follow restore nothing that their section does not. -/
theorem restores_of_perform (state : ResyncState) (now : Rat) (job : ResyncJob)
    (connection : String × Nat) :
    (state.perform now job).2.countP (fun other => decide (other.restores = some connection)) ≤
      if job.restores = some connection then 1 else 0 := by
  have optional : forall (condition : Bool) (other : ResyncJob), other.restores = job.restores ->
      (if condition then [other] else []).countP
          (fun other => decide (other.restores = some connection)) ≤
        if job.restores = some connection then 1 else 0 := by
    intro condition other same
    cases condition with
    | true =>
        rw [if_pos rfl, List.countP_singleton, same]
        simp only [decide_eq_true_eq, Nat.le_refl]
    | false => exact Nat.zero_le _
  cases job with
  | syncDevice deviceId => exact optional _ _ rfl
  | readPresence deviceId =>
      rw [ResyncState.perform]
      split
      · exact Nat.zero_le _
      · exact optional _ _ rfl
  | resyncIfStillCurrent deviceId generation => exact optional _ _ rfl
  | checkPresence deviceId generation => exact optional _ _ rfl
  | deviceOnline deviceId generation => exact Nat.zero_le _
  | resyncPersistedSchedules deviceId generation => exact Nat.zero_le _
  | cancelTimer number => exact Nat.zero_le _

/-- A section that does not tell the coordinator of a connection. -/
theorem OncePerConnection.perform {state : ResyncState} {threads : List (List ResyncJob)}
    {log : ResyncLog} {number : Nat} {job : ResyncJob} {rest : List ResyncJob} (now : Rat)
    (once : OncePerConnection state.coordinator threads log)
    (found : threads[number]? = some (job :: rest))
    (notTold : forall deviceId generation, job ≠ .deviceOnline deviceId generation)
    (notRestored : forall deviceId generation,
      job ≠ .resyncPersistedSchedules deviceId generation) :
    OncePerConnection (state.perform now job).1.coordinator
      (threads.set number ((state.perform now job).2 ++ rest)) log := by
  have callbacks := fun connection =>
    running_continued_le found connection (restores_of_perform state now job connection)
  have changed : (state.perform now job).1.coordinator.generations =
        state.coordinator.generations ∧
      forall connection, (state.perform now job).1.coordinator.waitingFor connection ≤
        state.coordinator.waitingFor connection := by
    cases job with
    | deviceOnline deviceId generation => exact absurd rfl (notTold deviceId generation)
    | resyncPersistedSchedules deviceId generation =>
        exact absurd rfl (notRestored deviceId generation)
    | resyncIfStillCurrent deviceId generation =>
        simp only [ResyncState.perform, ScheduleResyncCoordinator.claimTimer]
        split
        · exact ⟨rfl, fun _ => Nat.le_refl _⟩
        · exact ⟨rfl, fun _ => Nat.le_refl _⟩
    | cancelTimer other =>
        exact ⟨rfl, fun connection => waitingFor_cancel_le state.coordinator other connection⟩
    | syncDevice deviceId => exact ⟨rfl, fun _ => Nat.le_refl _⟩
    | readPresence deviceId => exact ⟨rfl, fun _ => Nat.le_refl _⟩
    | checkPresence deviceId generation => exact ⟨rfl, fun _ => Nat.le_refl _⟩
  apply once.of_le changed.1
  intro connection
  exact Nat.add_le_add_right (Nat.add_le_add (changed.2 connection) (callbacks connection)) _

/-- A restoration that was under way is invoked. -/
theorem OncePerConnection.restored {coordinator : ScheduleResyncCoordinator}
    {threads : List (List ResyncJob)} {log : ResyncLog} {number : Nat} {deviceId : String}
    {generation : Nat} {rest : List ResyncJob} (once : OncePerConnection coordinator threads log)
    (found : threads[number]? = some (.resyncPersistedSchedules deviceId generation :: rest)) :
    OncePerConnection coordinator (threads.set number rest) (log ++ [(deviceId, generation)]) := by
  apply once.of_le rfl
  intro connection
  have counted := Threads.pendingCount_continued
    (fun other : ResyncJob => decide (other.restores = some connection)) found []
  have own : (ResyncJob.resyncPersistedSchedules deviceId generation).restores =
      some (deviceId, generation) := rfl
  simp only [own, Option.some.injEq, decide_eq_true_eq, List.nil_append, List.countP_nil,
    Nat.add_zero] at counted
  unfold outstanding running
  rw [List.count_append, List.count_singleton]
  simp only [beq_iff_eq]
  omega

/-- A timer that fires becomes a callback. -/
theorem OncePerConnection.fired {coordinator : ScheduleResyncCoordinator}
    {threads : List (List ResyncJob)} {log : ResyncLog} {number : Nat} {timer : ResyncTimer}
    (once : OncePerConnection coordinator threads log)
    (found : coordinator.created[number]? = some timer) (waiting : timer.waiting = true) :
    OncePerConnection (coordinator.cancel number)
      (threads ++ [[.resyncIfStillCurrent timer.deviceId timer.generation]]) log := by
  refine once.of_le rfl (fun connection => ?_)
  have counted := waitingFor_cancel found connection
  have own : (ResyncJob.resyncIfStillCurrent timer.deviceId timer.generation).restores =
      some (timer.deviceId, timer.generation) := rfl
  unfold outstanding running
  rw [Threads.pendingCount_concat, List.countP_singleton, own]
  simp only [waiting, true_and, Option.some.injEq, decide_eq_true_eq] at counted ⊢
  omega

/-- A new thread none of whose sections is one of a callback. -/
theorem OncePerConnection.newThread {coordinator : ScheduleResyncCoordinator}
    {threads : List (List ResyncJob)} {log : ResyncLog} {jobs : List ResyncJob}
    (once : OncePerConnection coordinator threads log)
    (none : forall job, job ∈ jobs -> job.restores = none) :
    OncePerConnection coordinator (threads ++ [jobs]) log := by
  apply once.of_le rfl
  intro connection
  have restoresNone : jobs.countP (fun job => decide (job.restores = some connection)) = 0 := by
    rw [List.countP_eq_zero]
    intro job member
    rw [none job member]
    simp only [reduceCtorEq, decide_false, Bool.false_eq_true, not_false_eq_true]
  unfold outstanding running
  rw [Threads.pendingCount_concat, restoresNone, Nat.add_zero]

/-! ## Every run -/

/-- One step in which no older generation arrives. -/
theorem OncePerConnection.step {state after : ResyncState × List (List ResyncJob)}
    {log : ResyncLog} {action : ResyncAction}
    (once : OncePerConnection state.1.coordinator state.2 log)
    (noOlder : carriesNoOlder state action = true)
    (moved : resyncMachine.step state action = some after) :
    OncePerConnection after.1.coordinator after.2 (observeResync log state action) := by
  cases action with
  | sessionOpened now deviceId peerAddress =>
      cases moved
      exact once
  | sessionClosed now deviceId =>
      cases moved
      exact once
  | syncUpstreamSessions deviceIds =>
      cases moved
      apply once.newThread
      intro job member
      obtain ⟨deviceId, _, rfl⟩ := List.mem_map.mp member
      rfl
  | fireTimer number =>
      simp only [resyncMachine, fireTimer] at moved
      split at moved
      · cases moved
      · next timer found =>
          split at moved
          · next waiting =>
              cases moved
              exact once.fired found waiting
          · cases moved
  | stop =>
      cases moved
      have stopped : OncePerConnection state.1.coordinator.stop.1 state.2 log :=
        once.of_le rfl (fun _ => Nat.le_refl _)
      apply stopped.newThread
      intro job member
      obtain ⟨number, _, rfl⟩ := List.mem_map.mp member
      rfl
  | advance thread now =>
      obtain ⟨job, rest, found, isNext, rfl⟩ := Threads.advance_eq_some moved
      simp only [carriesNoOlder, observeResync, isNext] at noOlder ⊢
      cases job with
      | deviceOnline deviceId generation =>
          apply once.deviceOnline
          · intro seen stored
            dsimp only at noOlder
            rw [stored] at noOlder
            exact of_decide_eq_true noOlder
          · intro connection
            exact running_continued_le found connection (Nat.zero_le _)
      | resyncPersistedSchedules deviceId generation => exact once.restored found
      | syncDevice deviceId =>
          exact once.perform now found (by rintro _ _ ⟨⟩) (by rintro _ _ ⟨⟩)
      | readPresence deviceId =>
          exact once.perform now found (by rintro _ _ ⟨⟩) (by rintro _ _ ⟨⟩)
      | resyncIfStillCurrent deviceId generation =>
          exact once.perform now found (by rintro _ _ ⟨⟩) (by rintro _ _ ⟨⟩)
      | checkPresence deviceId generation =>
          exact once.perform now found (by rintro _ _ ⟨⟩) (by rintro _ _ ⟨⟩)
      | cancelTimer number =>
          exact once.perform now found (by rintro _ _ ⟨⟩) (by rintro _ _ ⟨⟩)

theorem oncePerConnection_initial : OncePerConnection {} [] [] := by
  intro deviceId generation
  exact ⟨Nat.zero_le _, fun some => absurd some (Nat.lt_irrefl _)⟩

/-- In every run in which no call of `device_online` carries a generation lower
than the one the coordinator saw last, no connection is restored twice. -/
theorem resync_at_most_once_per_connection (actions : List ResyncAction)
    (noOlder : loggedResync.Meets (fun state action => carriesNoOlder state.1 action = true)
      (({}, []), []) actions) (deviceId : String) (generation : Nat) :
    (loggedResync.run (({}, []), []) actions).2.count (deviceId, generation) ≤ 1 := by
  have once : OncePerConnection (loggedResync.run (({}, []), []) actions).1.1.coordinator
      (loggedResync.run (({}, []), []) actions).1.2
      (loggedResync.run (({}, []), []) actions).2 := by
    apply loggedResync.run_invariant_of_meets
      (fun state action => carriesNoOlder state.1 action = true)
      (fun state => OncePerConnection state.1.1.coordinator state.1.2 state.2)
    · intro state action after before keeps moved
      obtain ⟨stepped, logged⟩ := Machine.watched_step moved
      rw [logged]
      exact before.step keeps stepped
    · exact oncePerConnection_initial
    · exact noOlder
  have atMost := (once deviceId generation).1
  unfold outstanding at atMost
  omega

def connects : List ResyncAction :=
  [.sessionOpened 0 "feeder" none]

/-- A pass over one feeder, up to the reading of its connection. -/
def readingPass (thread : Nat) : List ResyncAction :=
  [.syncUpstreamSessions ["feeder"], .advance thread 0, .advance thread 0]

/-- A pass over one feeder that calls `device_online`. -/
def completePass (thread : Nat) : List ResyncAction :=
  readingPass thread ++ [.advance thread 0]

/-- A timer fires and its callback runs to the end. -/
def completeTimer (number thread : Nat) : List ResyncAction :=
  [.fireTimer number, .advance thread 0, .advance thread 0, .advance thread 0]

/-- A pass reads the first connection and is overtaken by the second one, by a
pass that sees it and by its restoration. -/
def overtakenPass : List ResyncAction :=
  connects ++ readingPass 0 ++ .sessionClosed 0 "feeder" :: connects ++ completePass 1 ++
    completeTimer 0 2 ++ .advance 0 0 :: completePass 3 ++ completeTimer 2 4

/-- The late call makes the coordinator forget that it has seen the second
connection, which is restored again. -/
theorem overtaken_pass_restores_twice :
    ¬ forall (actions : List ResyncAction) (deviceId : String) (generation : Nat),
      (loggedResync.run (({}, []), []) actions).2.count (deviceId, generation) ≤ 1 := by
  intro always
  have atMost := always overtakenPass "feeder" 2
  have restored : (loggedResync.run (({}, []), []) overtakenPass).2 =
      [("feeder", 2), ("feeder", 2)] := by
    decide +kernel
  rw [restored] at atMost
  exact absurd atMost (by decide)

/-- Two passes that both read the first connection, and a second connection after
its restoration. -/
def orderedPasses : List ResyncAction :=
  connects ++ readingPass 0 ++ completePass 1 ++ .advance 0 0 :: completeTimer 0 2 ++ connects ++
    completePass 3 ++ completeTimer 1 4

theorem ordered_passes_restore_once :
    (loggedResync.run (({}, []), []) orderedPasses).2 = [("feeder", 1), ("feeder", 2)] ∧
      (loggedResync.run (({}, []), []) orderedPasses).2.count ("feeder", 1) ≤ 1 :=
  ⟨by decide +kernel, resync_at_most_once_per_connection orderedPasses (by decide +kernel)
    "feeder" 1⟩

end Presence
end PetlibroRelay
