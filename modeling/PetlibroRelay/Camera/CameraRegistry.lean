import Mathlib.Data.Rat.Defs
import PetlibroRelay.Foundations.Machine
import PetlibroRelay.Foundations.Threads

namespace PetlibroRelay
namespace Camera

open Foundations

/-!
# The registry of the camera bridge

The record of one camera and everything that changes it: registrations, connection
requests, consumers, the events and results of connection attempts, and two timers.
Every section under the lock of the registry is one function on the state.  What a
call does after it gives the lock up is a list of jobs, so that any other call can
come in between.

A record is found by the identifier of its device, and no function touches the
record of another device, so the map of the registry is one optional record here.
A session is named by the number of the attempt that returned it, and a timer by its
place in the list of all timers ever made.  A stopped timer does not fire, but one
that has fired before has already started its callback.

Log lines, subscriptions of the media publisher and the wrap of the counters are
left out.
-/

/-! ## Data -/

/-- The lifecycle of one requested camera attempt. -/
inductive SessionState where
  | idle
  | discovering
  | knocking
  | loggingIn
  | connected
  | bootstrapping
  | streaming
  | failed
  deriving DecidableEq, Repr

/-- What the registry reads of an event of the connector. -/
structure SessionEvent where
  state : SessionState
  step : String := ""
  error : String := ""
  deriving DecidableEq, Repr

/-- The event of a receive loop that has ended. -/
def SessionEvent.isLoss (event : SessionEvent) : Bool :=
  decide (event.state = .failed) && decide (event.step = "media_receive_failed")

/-- The record of a device. -/
structure DeviceRecord where
  uid : String
  ip : Option String := none
  streamAvailable : Bool := false
  reason : String := "plaf203_h264_observation_only"
  connectionState : SessionState := .idle
  lastError : String := ""
  lastTransitionAt : Rat
  updatedAt : Rat
  mediaConsumers : Nat := 0
  cancel : Option Nat := none
  session : Option Nat := none
  idleTimer : Option Nat := none
  reconnectTimer : Option Nat := none
  reconnectAttempts : Nat := 0
  attemptId : Nat := 0
  connectActive : Bool := false
  deriving DecidableEq, Repr

inductive TimerKind where
  | idle
  | reconnect
  deriving DecidableEq, Repr

inductive TimerState where
  | armed
  | stopped
  | fired
  deriving DecidableEq, Repr

/-- A timer, with its delay in seconds. -/
structure Timer where
  kind : TimerKind
  delay : Nat
  state : TimerState := .armed
  deriving DecidableEq, Repr

inductive AttemptOutcome where
  | running
  | failed
  | returned
  deriving DecidableEq, Repr

/-- A call of the connector and the session it returns.  It carries the counter of
the record it was started for, and in which registration of the device that was. -/
structure Attempt where
  number : Nat
  registration : Nat
  uid : String
  ip : Option String
  canceled : Bool := false
  streamed : Bool := false
  outcome : AttemptOutcome := .running
  closed : Bool := false
  audioEnabled : Bool := false
  deriving DecidableEq, Repr

/-- The attempt after it has emitted an event. -/
def Attempt.emitted (event : SessionEvent) (attempt : Attempt) : Attempt :=
  { attempt with streamed := attempt.streamed || decide (event.state = .streaming) }

/-- The function a consumer gets to release itself, which works once. -/
structure ReleaseFunction where
  registration : Nat
  used : Bool := false
  deriving DecidableEq, Repr

/-- The record, if the device is registered, and everything that can still act on
it. -/
structure Bridge where
  device : Option DeviceRecord := none
  registrations : Nat := 0
  attempts : List Attempt := []
  timers : List Timer := []
  releases : List ReleaseFunction := []
  deriving DecidableEq, Repr

/-- What a call still has to do after a section. -/
inductive Job where
  | cancelIdleDisconnect
  | connectConsumer
  | countConsumer
  | handOut
  | releaseMediaConsumer (registration : Nat)
  | disconnectIfIdle
  | reconnectIfConsumed
  | reconnect
  | stopTimer (timer : Nat)
  | cancelAttempt (attempt : Nat)
  | closeSession (session : Nat)
  | startAudio (session : Nat)
  | stopAudio (session : Nat)
  | emitStreaming (session : Nat)
  deriving DecidableEq, Repr

/-! ## Timers -/

def DEFAULT_IDLE_TIMEOUT : Nat := 10
def RECONNECT_MIN_DELAY : Nat := 1
def RECONNECT_MAX_DELAY : Nat := 10

/-- The loop of `reconnectDelay`. -/
def doubleDelay : Nat -> Nat -> Nat
  | 0, delay => delay
  | retries + 1, delay =>
      if delay < RECONNECT_MAX_DELAY then doubleDelay retries (delay * 2) else delay

def reconnectDelay (attempt : Nat) : Nat :=
  min (doubleDelay (attempt - 1) RECONNECT_MIN_DELAY) RECONNECT_MAX_DELAY

def Timer.stop (timer : Timer) : Timer :=
  if timer.state = .armed then { timer with state := .stopped } else timer

/-- Stop the timer of a field, if there is one. -/
def stopTimer (timers : List Timer) : Option Nat -> List Timer
  | none => timers
  | some number => timers.modify number Timer.stop

def scheduleIdleDisconnectLocked (timers : List Timer) (record : DeviceRecord) :
    List Timer × DeviceRecord :=
  if record.idleTimer.isSome then (timers, record)
  else
    (timers ++ [{ kind := .idle, delay := DEFAULT_IDLE_TIMEOUT }],
      { record with idleTimer := some timers.length })

def scheduleReconnectLocked (timers : List Timer) (record : DeviceRecord) :
    List Timer × DeviceRecord :=
  if record.reconnectTimer.isSome ∨ record.mediaConsumers = 0 then (timers, record)
  else
    (timers ++ [{ kind := .reconnect, delay := reconnectDelay (record.reconnectAttempts + 1) }],
      { record with
        reconnectAttempts := record.reconnectAttempts + 1
        reconnectTimer := some timers.length })

/-! ## Sections under the lock -/

def PETLIBRO_UID_LENGTH : Nat := 20

def validUID (uid : String) : Bool :=
  decide (uid.utf8ByteSize = PETLIBRO_UID_LENGTH) &&
    uid.toList.all (fun character =>
      decide (0x21 ≤ character.toNat) && decide (character.toNat ≤ 0x7e))

/-- What `resources.close` does, without the subscriptions. -/
def closeResources (cancel session : Option Nat) : List Job :=
  cancel.toList.map .cancelAttempt ++ session.toList.map .closeSession

namespace Bridge

/-- Record one identifier and an optional address that has been parsed. -/
def upsert (bridge : Bridge) (uid : String) (ip : Option String) (now : Rat) : Bridge :=
  if validUID uid then
    match bridge.device with
    | none =>
        { bridge with
          device := some { uid := uid, ip := ip, lastTransitionAt := now, updatedAt := now }
          registrations := bridge.registrations + 1 }
    | some record =>
        { bridge with
          device := some { record with uid := uid, ip := ip.or record.ip, updatedAt := now } }
  else bridge

/-- Remove the registration.  The rest happens without the lock. -/
def delete (bridge : Bridge) : Bridge × List Job :=
  match bridge.device with
  | none => (bridge, [])
  | some record =>
      ({ bridge with device := none },
        record.idleTimer.toList.map .stopTimer ++ record.reconnectTimer.toList.map .stopTimer ++
          closeResources record.cancel record.session)

/-- Start one attempt, unless one is active. -/
def connect (bridge : Bridge) : Bridge :=
  match bridge.device with
  | none => bridge
  | some record =>
      if record.connectActive then bridge
      else
        { bridge with
          device := some { record with
            cancel := some bridge.attempts.length
            connectActive := true
            attemptId := record.attemptId + 1 }
          attempts := bridge.attempts ++
            [{ number := record.attemptId + 1, registration := bridge.registrations,
               uid := record.uid, ip := record.ip }] }

/-- Take everything away from the record and leave it in the given state. -/
def disconnectLocked (bridge : Bridge) (record : DeviceRecord) (state : SessionState)
    (lastError : String) (now : Rat) : Bridge × List Job :=
  ({ bridge with
      timers := stopTimer (stopTimer bridge.timers record.idleTimer) record.reconnectTimer
      device := some { record with
        idleTimer := none
        reconnectTimer := none
        attemptId := record.attemptId + 1
        connectActive := false
        cancel := none
        session := none
        connectionState := state
        streamAvailable := false
        lastError := lastError
        reason := if state = .failed then "camera_session_lost" else ""
        lastTransitionAt := now
        updatedAt := now } },
    closeResources record.cancel record.session)

def disconnect (bridge : Bridge) (now : Rat) : Bridge × List Job :=
  match bridge.device with
  | none => (bridge, [])
  | some record => bridge.disconnectLocked record .idle "" now

/-- Change one attempt. -/
def modifyAttempt (bridge : Bridge) (attempt : Nat) (change : Attempt -> Attempt) : Bridge :=
  { bridge with attempts := bridge.attempts.modify attempt change }

/-- Whether events and results under a number are those of the record. -/
def matching (bridge : Bridge) (number : Nat) : Option DeviceRecord :=
  bridge.device.filter (fun record => decide (record.attemptId = number))

theorem matching_eq_some {bridge : Bridge} {number : Nat} {record : DeviceRecord} :
    bridge.matching number = some record ↔
      bridge.device = some record ∧ record.attemptId = number := by
  rw [matching, Option.filter_eq_some_iff, decide_eq_true_eq]

theorem matching_eq_none {bridge : Bridge} {number : Nat} :
    bridge.matching number = none ↔
      forall record, bridge.device = some record -> record.attemptId ≠ number := by
  rw [matching, Option.filter_eq_none_iff]
  simp only [decide_eq_true_eq]

theorem matching_modifyAttempt (bridge : Bridge) (attempt : Nat) (change : Attempt -> Attempt)
    (number : Nat) : (bridge.modifyAttempt attempt change).matching number =
      bridge.matching number := rfl

/-- The attempt is the one the record waits for. -/
def isCurrent (bridge : Bridge) (attempt : Nat) : Bool :=
  bridge.attempts[attempt]?.any (fun own => (bridge.matching own.number).isSome)

theorem isCurrent_iff {bridge : Bridge} {place : Nat} :
    bridge.isCurrent place = true ↔
      exists attempt record, bridge.attempts[place]? = some attempt ∧
        bridge.device = some record ∧ record.attemptId = attempt.number := by
  rw [isCurrent, Option.any_eq_true]
  constructor
  · rintro ⟨attempt, found, current⟩
    obtain ⟨record, held⟩ := Option.isSome_iff_exists.mp current
    exact ⟨attempt, record, found, matching_eq_some.mp held⟩
  · rintro ⟨attempt, record, found, present, same⟩
    exact ⟨attempt, found, Option.isSome_iff_exists.mpr ⟨record, matching_eq_some.mpr ⟨present, same⟩⟩⟩

/-- A session has been returned under a number. -/
def connected (bridge : Bridge) (session number : Nat) : Bridge × List Job :=
  match bridge.matching number with
  | none => (bridge, [.closeSession session])
  | some record =>
      ({ bridge with
          device := some { record with session := some session, cancel := none, lastError := "" } },
        if 0 < record.mediaConsumers then [.startAudio session] else [])

/-- Store a record and its timers. -/
def storing (bridge : Bridge) (scheduled : List Timer × DeviceRecord) : Bridge :=
  { bridge with timers := scheduled.1, device := some scheduled.2 }

/-- A session is lost while its record is the current one. -/
def loseSession (bridge : Bridge) (record : DeviceRecord) (error : String) (now : Rat) :
    Bridge × List Job :=
  let lost := bridge.disconnectLocked record .failed error now
  match lost.1.device with
  | some remaining =>
      if 0 < remaining.mediaConsumers then
        (lost.1.storing (scheduleReconnectLocked lost.1.timers remaining), lost.2)
      else lost
  | none => lost

/-- The record after an event that is not a loss. -/
def observed (record : DeviceRecord) (state : SessionState) (now : Rat) : DeviceRecord :=
  if record.connectionState = .streaming ∧ state = .bootstrapping then record
  else
    let moved := { record with
      connectionState := state
      lastError := ""
      lastTransitionAt := now
      updatedAt := now }
    if state = .streaming then
      { moved with streamAvailable := true, reason := "", reconnectAttempts := 0 }
    else moved

def transition (bridge : Bridge) (number : Nat) (event : SessionEvent) (now : Rat) :
    Bridge × List Job :=
  match bridge.matching number with
  | none => (bridge, [])
  | some record =>
      if event.isLoss then bridge.loseSession record event.error now
      else ({ bridge with device := some (observed record event.state now) }, [])

def fail (bridge : Bridge) (number : Nat) (error : String) (now : Rat) : Bridge :=
  match bridge.matching number with
  | none => bridge
  | some record =>
      let failed := { record with
        connectActive := false
        cancel := none
        connectionState := .failed
        streamAvailable := false
        reason := "camera_session_failed"
        lastError := error
        lastTransitionAt := now
        updatedAt := now }
      if 0 < failed.mediaConsumers then
        bridge.storing (scheduleReconnectLocked bridge.timers failed)
      else { bridge with device := some failed }

def cancelIdleDisconnect (bridge : Bridge) : Bridge :=
  match bridge.device with
  | none => bridge
  | some record =>
      if record.idleTimer.isSome then
        { bridge with
          timers := stopTimer bridge.timers record.idleTimer
          device := some { record with idleTimer := none } }
      else bridge

/-- The last section of `addMediaConsumer`. -/
def countConsumer (bridge : Bridge) (attached : Bool) (now : Rat) : Bridge × List Job :=
  match bridge.device with
  | none => (bridge, [])
  | some record =>
      if attached then
        ({ bridge with
            device := some { record with
              mediaConsumers := record.mediaConsumers + 1
              updatedAt := now } },
          record.session.toList.map .startAudio ++ [.handOut])
      else (bridge, [])

def releaseMediaConsumer (bridge : Bridge) (now : Rat) : Bridge × List Job :=
  match bridge.device with
  | none => (bridge, [])
  | some record =>
      if 0 < record.mediaConsumers then
        let released := { record with
          mediaConsumers := record.mediaConsumers - 1
          updatedAt := now }
        if released.mediaConsumers = 0 then
          (bridge.storing (scheduleIdleDisconnectLocked bridge.timers released),
            released.session.toList.map .stopAudio)
        else ({ bridge with device := some released }, [])
      else (bridge, [])

def disconnectIfIdle (bridge : Bridge) (now : Rat) : Bridge × List Job :=
  match bridge.device with
  | none => (bridge, [])
  | some record =>
      if record.mediaConsumers ≠ 0 then (bridge, [])
      else bridge.disconnectLocked record .idle "" now

/-- The section of `reconnectIfConsumed`, which decides whether to connect. -/
def reconnectIfConsumed (bridge : Bridge) : Bridge × List Job :=
  match bridge.device with
  | none => (bridge, [])
  | some record =>
      ({ bridge with device := some { record with reconnectTimer := none } },
        if 0 < record.mediaConsumers then [.reconnect] else [])

/-! ## Sessions -/

/-- Whether audio is on in a session. -/
def audioEnabled (bridge : Bridge) (session : Nat) : Bool :=
  bridge.attempts[session]?.any Attempt.audioEnabled

/-- Switch audio on.  Where the message cannot be sent nothing changes. -/
def startAudio (bridge : Bridge) (session : Nat) (sent : Bool) : Bridge × List Job :=
  if bridge.audioEnabled session ∨ sent = false then (bridge, [])
  else
    (bridge.modifyAttempt session (fun attempt => { attempt with audioEnabled := true }),
      [.emitStreaming session])

def stopAudio (bridge : Bridge) (session : Nat) (sent : Bool) : Bridge × List Job :=
  if bridge.audioEnabled session = false ∨ sent = false then (bridge, [])
  else
    (bridge.modifyAttempt session (fun attempt => { attempt with audioEnabled := false }),
      [.emitStreaming session])

/-- Close a session, once. -/
def closeSession (bridge : Bridge) (session : Nat) : Bridge × List Job :=
  if bridge.attempts[session]?.all Attempt.closed then (bridge, [])
  else
    (bridge.modifyAttempt session (fun attempt => { attempt with closed := true }),
      [.stopAudio session])

/-- An event of an attempt reaches the registry under the number of the attempt. -/
def emit (bridge : Bridge) (attempt : Nat) (event : SessionEvent) (now : Rat) :
    Bridge × List Job :=
  match bridge.attempts[attempt]? with
  | none => (bridge, [])
  | some own =>
      (bridge.modifyAttempt attempt (Attempt.emitted event)).transition own.number event now

end Bridge

/-! ## Threads and runs -/

/-- What the environment supplies to a job: the clock, whether the consumer could be
attached, and whether a message could be sent. -/
structure Environment where
  now : Rat
  attached : Bool := true
  sent : Bool := true
  deriving DecidableEq, Repr

def perform (bridge : Bridge) (environment : Environment) : Job -> Bridge × List Job
  | .cancelIdleDisconnect => (bridge.cancelIdleDisconnect, [])
  | .connectConsumer =>
      (bridge.connect, if bridge.device.isSome then [.countConsumer] else [])
  | .countConsumer => bridge.countConsumer environment.attached environment.now
  | .handOut =>
      ({ bridge with releases := bridge.releases ++ [{ registration := bridge.registrations }] }, [])
  | .releaseMediaConsumer _ => bridge.releaseMediaConsumer environment.now
  | .disconnectIfIdle => bridge.disconnectIfIdle environment.now
  | .reconnectIfConsumed => bridge.reconnectIfConsumed
  | .reconnect => (bridge.connect, [])
  | .stopTimer timer => ({ bridge with timers := stopTimer bridge.timers (some timer) }, [])
  | .cancelAttempt attempt =>
      (bridge.modifyAttempt attempt (fun current => { current with canceled := true }), [])
  | .closeSession session => bridge.closeSession session
  | .startAudio session => bridge.startAudio session environment.sent
  | .stopAudio session => bridge.stopAudio session environment.sent
  | .emitStreaming session => bridge.emit session { state := .streaming } environment.now

/-- The registry and the calls that are half-way. -/
abbrev World := Bridge × List (List Job)

inductive BridgeAction where
  | upsert (uid : String) (ip : Option String) (now : Rat)
  | delete
  | connect
  | disconnect (now : Rat)
  | addMediaConsumer
  | release (number : Nat)
  | fire (timer : Nat)
  | event (attempt : Nat) (event : SessionEvent) (now : Rat)
  | succeed (attempt : Nat)
  | fail (attempt : Nat) (error : String) (now : Rat)
  | advance (thread : Nat) (environment : Environment)
  deriving DecidableEq, Repr

def TimerKind.callback : TimerKind -> Job
  | .idle => .disconnectIfIdle
  | .reconnect => .reconnectIfConsumed

/-- A release function can be called once. -/
def Bridge.callRelease (bridge : Bridge) (number : Nat) : Option (Bridge × List Job) :=
  match bridge.releases[number]? with
  | some function =>
      if function.used then none
      else
        some ({ bridge with
            releases := bridge.releases.set number { function with used := true } },
          [.releaseMediaConsumer function.registration])
  | none => none

/-- A timer that is armed starts its callback. -/
def Bridge.fireTimer (bridge : Bridge) (number : Nat) : Option (Bridge × List Job) :=
  match bridge.timers[number]? with
  | some timer =>
      if timer.state = .armed then
        some ({ bridge with timers := bridge.timers.set number { timer with state := .fired } },
          [timer.kind.callback])
      else none
  | none => none

/-- An attempt returns a session, once. -/
def Bridge.succeedAttempt (bridge : Bridge) (number : Nat) : Option (Bridge × List Job) :=
  match bridge.attempts[number]? with
  | some attempt =>
      if attempt.outcome = .running then
        some ((bridge.modifyAttempt number (fun current =>
          { current with outcome := .returned })).connected number attempt.number)
      else none
  | none => none

/-- An attempt returns an error, once. -/
def Bridge.failAttempt (bridge : Bridge) (number : Nat) (error : String) (now : Rat) :
    Option Bridge :=
  match bridge.attempts[number]? with
  | some attempt =>
      if attempt.outcome = .running then
        some ((bridge.modifyAttempt number (fun current =>
          { current with outcome := .failed })).fail attempt.number error now)
      else none
  | none => none

/-- What a call, a timer or an attempt does at once, and what it leaves to do. -/
def Bridge.call (bridge : Bridge) : BridgeAction -> Option (Bridge × List Job)
  | .upsert uid ip now => some (bridge.upsert uid ip now, [])
  | .delete => some bridge.delete
  | .connect => some (bridge.connect, [])
  | .disconnect now => some (bridge.disconnect now)
  | .addMediaConsumer => some (bridge, [.cancelIdleDisconnect, .connectConsumer])
  | .release number => bridge.callRelease number
  | .fire timer => bridge.fireTimer timer
  | .event attempt event now => some (bridge.emit attempt event now)
  | .succeed attempt => bridge.succeedAttempt attempt
  | .fail attempt error now => (bridge.failAttempt attempt error now).map (·, [])
  | .advance _ _ => none

/-- Every call goes on in a thread of its own, and any thread may be the next. -/
def bridgeMachine : Machine World BridgeAction where
  step world
    | .advance thread environment => Threads.advance perform world thread environment
    | action => (world.1.call action).map (fun started => (started.1, world.2 ++ [started.2]))

/-- No call is half-way. -/
def Quiescent (world : World) : Prop :=
  forall thread, thread ∈ world.2 -> thread = []

instance quiescentDecidable (world : World) : Decidable (Quiescent world) :=
  inferInstanceAs (Decidable (forall thread, thread ∈ world.2 -> thread = []))

def exampleUid : String := "ABCDEFGHIJKLMNOPQRST"

def atOnce : Environment := { now := 1 }

/-! ## What the calls that may be refused do -/

theorem Bridge.callRelease_eq_some {bridge : Bridge} {number : Nat} {done : Bridge × List Job}
    (called : bridge.callRelease number = some done) :
    exists function, bridge.releases[number]? = some function ∧ function.used = false ∧
      done = ({ bridge with
          releases := bridge.releases.set number { function with used := true } },
        [.releaseMediaConsumer function.registration]) := by
  unfold Bridge.callRelease at called
  split at called
  · next function found =>
      split at called
      · cases called
      · next fresh =>
          have unused : function.used = false := Bool.eq_false_iff.mpr fresh
          exact ⟨function, found, unused, (Option.some.inj called).symm⟩
  · cases called

theorem Bridge.fireTimer_eq_some {bridge : Bridge} {number : Nat} {done : Bridge × List Job}
    (fired : bridge.fireTimer number = some done) :
    exists timer, bridge.timers[number]? = some timer ∧ timer.state = .armed ∧
      done = ({ bridge with timers := bridge.timers.set number { timer with state := .fired } },
        [timer.kind.callback]) := by
  unfold Bridge.fireTimer at fired
  split at fired
  · next timer found =>
      split at fired
      · next armed => exact ⟨timer, found, armed, (Option.some.inj fired).symm⟩
      · cases fired
  · cases fired

theorem Bridge.succeedAttempt_eq_some {bridge : Bridge} {number : Nat} {done : Bridge × List Job}
    (succeeded : bridge.succeedAttempt number = some done) :
    exists attempt, bridge.attempts[number]? = some attempt ∧ attempt.outcome = .running ∧
      done = (bridge.modifyAttempt number (fun current =>
        { current with outcome := .returned })).connected number attempt.number := by
  unfold Bridge.succeedAttempt at succeeded
  split at succeeded
  · next attempt found =>
      split at succeeded
      · next running => exact ⟨attempt, found, running, (Option.some.inj succeeded).symm⟩
      · cases succeeded
  · cases succeeded

theorem Bridge.failAttempt_eq_some {bridge after : Bridge} {number : Nat} {error : String}
    {now : Rat} (failed : bridge.failAttempt number error now = some after) :
    exists attempt, bridge.attempts[number]? = some attempt ∧ attempt.outcome = .running ∧
      after = (bridge.modifyAttempt number (fun current =>
        { current with outcome := .failed })).fail attempt.number error now := by
  unfold Bridge.failAttempt at failed
  split at failed
  · next attempt found =>
      split at failed
      · next running => exact ⟨attempt, found, running, (Option.some.inj failed).symm⟩
      · cases failed
  · cases failed

/-! ## The two kinds of steps -/

/-- A step is a call, or a job of a thread. -/
inductive WorldStep (world : World) : BridgeAction -> World -> Prop
  | called {action : BridgeAction} {done : Bridge × List Job}
      (started : world.1.call action = some done) :
      WorldStep world action (done.1, world.2 ++ [done.2])
  | advanced {thread : Nat} {environment : Environment} {job : Job} {rest : List Job}
      (found : world.2[thread]? = some (job :: rest)) :
      WorldStep world (.advance thread environment)
        ((perform world.1 environment job).1,
          world.2.set thread ((perform world.1 environment job).2 ++ rest))

theorem worldStep_of_step {world after : World} {action : BridgeAction}
    (moved : bridgeMachine.step world action = some after) : WorldStep world action after := by
  cases action with
  | advance thread environment =>
      obtain ⟨job, rest, found, -, rfl⟩ := Threads.advance_eq_some moved
      exact .advanced found
  | _ =>
      simp only [bridgeMachine, Option.map_eq_some_iff] at moved
      obtain ⟨started, calls, rfl⟩ := moved
      exact .called calls

end Camera
end PetlibroRelay
