import PetlibroRelay.Foundations.Machine
import PetlibroRelay.Upstream.DeviceContext

namespace PetlibroRelay
namespace Upstream

open Foundations

/-!
# The threads around one cloud session

Starting and stopping a session are not atomic.  A start installs its client
under the lifecycle lock and only afterwards records the attempt, asks the client
to connect and starts its network loop.  A stop takes the client out under the
same lock and only afterwards stops the loop, disconnects and records the
suspension.  Between any two of these, other threads may run.

Every client is built by one start call and taken out by at most one stop call,
and its callbacks are run one after the other by its own loop.  What is going on
around a context is therefore described client by client: how far its start has
come, how far its stop has come, and what is left of its current callback.

Of the client library the model keeps two things.  A client wants a connection
from `connect_async` until `disconnect`, and its loop runs from `loop_start` until
`loop_stop`, which waits for the current callback.  A loop ends by itself when
its client does not want a connection.
-/

/-- What is left of the start call that built a client. -/
inductive Starting where
  | attempting
  | connecting
  | looping
  | returned
  deriving DecidableEq, Repr

/-- What is left of the stop call that took a client out. -/
inductive Stopping where
  | untouched
  | loopStopping
  | disconnecting
  | suspending
  | returned
  deriving DecidableEq, Repr

/-- The steps of a callback that concern the session: the look at the current
client, and telemetry methods. -/
inductive CallbackStep where
  | check
  | record (call : TelemetryCall)
  deriving DecidableEq, Repr

structure SessionClient where
  starting : Starting := .attempting
  stopping : Stopping := .untouched
  wantsConnection : Bool := false
  loopStarted : Bool := false
  linked : Bool := false
  callback : List CallbackStep := []
  deriving DecidableEq, Repr

namespace SessionClient

/-- Whether the network loop of the client is running. -/
def running (client : SessionClient) : Bool :=
  client.loopStarted && client.wantsConnection

/-- Whether no call and no callback is in progress. -/
def settled (client : SessionClient) : Bool :=
  decide (client.starting = .returned) &&
    (decide (client.stopping = .untouched) || decide (client.stopping = .returned)) &&
    client.callback.isEmpty

/-- Whether a stop call has still to record its suspension. -/
def suspensionPending (client : SessionClient) : Bool :=
  decide (client.stopping ≠ .untouched) && decide (client.stopping ≠ .returned)

end SessionClient

/-- What the network brings to a client. -/
inductive NetworkEvent where
  | accepted
  | refused (reasonCode : String)
  | failed
  | lost (reasonCode disconnectFlags : String)
  deriving DecidableEq, Repr

namespace NetworkEvent

/-- The callback that an event leads to. -/
def callback : NetworkEvent -> List CallbackStep
  | .accepted => [.check, .record .online]
  | .refused reasonCode => [.check, .record (.refused reasonCode)]
  | .failed => [.record (.connectFailed "TCP/DNS connect failure")]
  | .lost reasonCode disconnectFlags =>
      [.check, .record (.disconnected reasonCode (some disconnectFlags)), .record .connectAttempt]

/-- Whether the event can happen to a client in the given connection state. -/
def possible (linked : Bool) : NetworkEvent -> Bool
  | .lost _ _ => true
  | _ => !linked

end NetworkEvent

/-- One context with the clients built for it. -/
structure SessionThreads where
  context : DeviceContext := {}
  clients : Nat -> SessionClient := fun _ => {}

/-- Sections under the lifecycle lock, the later steps of a start and of a stop,
events of the current client and the steps of its callbacks. -/
inductive ThreadAction where
  | startUpstream
  | stopUpstream
  | advanceStart (client : Nat) (now : Rat)
  | advanceStop (client : Nat) (now : Rat)
  | event (client : Nat) (event : NetworkEvent)
  | callback (client : Nat) (now : Rat)
  deriving DecidableEq, Repr

namespace SessionThreads

def setClient (session : SessionThreads) (client : Nat) (changed : SessionClient) :
    SessionThreads :=
  { session with clients := Function.update session.clients client changed }

def record (session : SessionThreads) (now : Rat) (call : TelemetryCall) : SessionThreads :=
  { session with
    context := { session.context with telemetry := session.context.telemetry.apply now call } }

/-- The next step of the start call that built the client. -/
def advanceStart (session : SessionThreads) (client : Nat) (now : Rat) :
    Option SessionThreads :=
  let known := session.clients client
  match known.starting with
  | .attempting => some ((session.record now .connectAttempt).setClient client
      { known with starting := .connecting })
  | .connecting => some (session.setClient client
      { known with starting := .looping, wantsConnection := true })
  | .looping => some (session.setClient client
      { known with starting := .returned, loopStarted := true })
  | .returned => none

/-- The next step of the stop call that took the client out. -/
def advanceStop (session : SessionThreads) (client : Nat) (now : Rat) : Option SessionThreads :=
  let known := session.clients client
  match known.stopping with
  | .untouched => none
  | .loopStopping =>
      if known.callback = [] then
        some (session.setClient client
          { known with stopping := .disconnecting, loopStarted := false })
      else none
  | .disconnecting => some (session.setClient client
      { known with stopping := .suspending, wantsConnection := false })
  | .suspending => some ((session.record now .suspended).setClient client
      { known with stopping := .returned })
  | .returned => none

/-- The next step of the callback a client is in. -/
def advanceCallback (session : SessionThreads) (client : Nat) (now : Rat) :
    Option SessionThreads :=
  let known := session.clients client
  match known.callback with
  | [] => none
  | .check :: rest =>
      some (session.setClient client
        { known with
          callback := if session.context.upstreamClient = some client then rest else [] })
  | .record call :: rest =>
      some ((session.record now call).setClient client { known with callback := rest })

end SessionThreads

def sessionThreadsStep (session : SessionThreads) : ThreadAction -> Option SessionThreads
  | .startUpstream =>
      session.context.startUpstream.map (fun started =>
        { session with context := started }.setClient session.context.clientsBuilt {})
  | .stopUpstream =>
      session.context.upstreamClient.bind (fun client =>
        session.context.stopUpstream.map (fun stopped =>
          { session with context := stopped }.setClient client
            { session.clients client with stopping := .loopStopping }))
  | .advanceStart client now =>
      if client < session.context.clientsBuilt then session.advanceStart client now else none
  | .advanceStop client now => session.advanceStop client now
  | .event client event =>
      let known := session.clients client
      if session.context.upstreamClient = some client ∧ known.loopStarted = true ∧
          known.callback = [] ∧ event.possible known.linked = true then
        some (session.setClient client
          { known with linked := decide (event = .accepted), callback := event.callback })
      else none
  | .callback client now => session.advanceCallback client now

/-- The threads around one context. -/
def threadMachine : Machine SessionThreads ThreadAction where
  step := sessionThreadsStep

/-! ## What a step can do -/

section Inversion

variable {session after : SessionThreads}

@[simp] theorem clients_setClient (session : SessionThreads) (client other : Nat)
    (changed : SessionClient) :
    (session.setClient client changed).clients other =
      if other = client then changed else session.clients other := by
  simp only [SessionThreads.setClient, Function.update_apply]

/-- The steps, with the state they lead to. -/
inductive ThreadMove (session after : SessionThreads) : ThreadAction -> Prop where
  | installed (vacant : session.context.upstreamClient = none)
      (changed : after = { session with context := { session.context with
        upstreamClient := some session.context.clientsBuilt
        clientsBuilt := session.context.clientsBuilt + 1
        upstreamSubscriptionsReady := false } }.setClient session.context.clientsBuilt {}) :
      ThreadMove session after .startUpstream
  | takenOut (client : Nat) (current : session.context.upstreamClient = some client)
      (changed : after = { session with context := { session.context with
        upstreamClient := none, upstreamSubscriptionsReady := false } }.setClient client
          { session.clients client with stopping := .loopStopping }) :
      ThreadMove session after .stopUpstream
  | attempted (client : Nat) (now : Rat) (built : client < session.context.clientsBuilt)
      (stage : (session.clients client).starting = .attempting)
      (changed : after = (session.record now .connectAttempt).setClient client
        { session.clients client with starting := .connecting }) :
      ThreadMove session after (.advanceStart client now)
  | connected (client : Nat) (now : Rat) (built : client < session.context.clientsBuilt)
      (stage : (session.clients client).starting = .connecting)
      (changed : after = session.setClient client
        { session.clients client with starting := .looping, wantsConnection := true }) :
      ThreadMove session after (.advanceStart client now)
  | looped (client : Nat) (now : Rat) (built : client < session.context.clientsBuilt)
      (stage : (session.clients client).starting = .looping)
      (changed : after = session.setClient client
        { session.clients client with starting := .returned, loopStarted := true }) :
      ThreadMove session after (.advanceStart client now)
  | loopStopped (client : Nat) (now : Rat)
      (stage : (session.clients client).stopping = .loopStopping)
      (joined : (session.clients client).callback = [])
      (changed : after = session.setClient client
        { session.clients client with stopping := .disconnecting, loopStarted := false }) :
      ThreadMove session after (.advanceStop client now)
  | disconnected (client : Nat) (now : Rat)
      (stage : (session.clients client).stopping = .disconnecting)
      (changed : after = session.setClient client
        { session.clients client with stopping := .suspending, wantsConnection := false }) :
      ThreadMove session after (.advanceStop client now)
  | suspended (client : Nat) (now : Rat)
      (stage : (session.clients client).stopping = .suspending)
      (changed : after = (session.record now .suspended).setClient client
        { session.clients client with stopping := .returned }) :
      ThreadMove session after (.advanceStop client now)
  | notified (client : Nat) (event : NetworkEvent)
      (current : session.context.upstreamClient = some client)
      (looping : (session.clients client).loopStarted = true)
      (idle : (session.clients client).callback = [])
      (possible : event.possible (session.clients client).linked = true)
      (changed : after = session.setClient client
        { session.clients client with
          linked := decide (event = .accepted), callback := event.callback }) :
      ThreadMove session after (.event client event)
  | checked (client : Nat) (now : Rat) (rest : List CallbackStep)
      (stage : (session.clients client).callback = .check :: rest)
      (changed : after = session.setClient client
        { session.clients client with
          callback := if session.context.upstreamClient = some client then rest else [] }) :
      ThreadMove session after (.callback client now)
  | recorded (client : Nat) (now : Rat) (call : TelemetryCall) (rest : List CallbackStep)
      (stage : (session.clients client).callback = .record call :: rest)
      (changed : after = (session.record now call).setClient client
        { session.clients client with callback := rest }) :
      ThreadMove session after (.callback client now)

theorem threadMove_of_step {action : ThreadAction}
    (moved : sessionThreadsStep session action = some after) :
    ThreadMove session after action := by
  cases action with
  | startUpstream =>
      simp only [sessionThreadsStep, DeviceContext.startUpstream, Option.map_eq_some_iff] at moved
      rcases moved with ⟨started, begun, same⟩
      subst after
      split at begun
      · cases begun
      · next vacant =>
          cases begun
          exact .installed vacant rfl
  | stopUpstream =>
      simp only [sessionThreadsStep, DeviceContext.stopUpstream, Option.bind_eq_some_iff,
        Option.map_eq_some_iff] at moved
      rcases moved with ⟨client, current, stopped, ended, same⟩
      subst after
      rw [current] at ended
      cases ended
      exact .takenOut client current rfl
  | advanceStart client now =>
      simp only [sessionThreadsStep, SessionThreads.advanceStart] at moved
      split at moved
      · next built =>
          split at moved <;> cases moved
          · next stage => exact .attempted client now built stage rfl
          · next stage => exact .connected client now built stage rfl
          · next stage => exact .looped client now built stage rfl
      · cases moved
  | advanceStop client now =>
      simp only [sessionThreadsStep, SessionThreads.advanceStop] at moved
      split at moved
      · cases moved
      · next stage =>
          split at moved <;> cases moved
          next joined => exact .loopStopped client now stage joined rfl
      · next stage =>
          cases moved
          exact .disconnected client now stage rfl
      · next stage =>
          cases moved
          exact .suspended client now stage rfl
      · cases moved
  | event client event =>
      simp only [sessionThreadsStep] at moved
      split at moved <;> cases moved
      next enabled =>
      exact .notified client event enabled.1 enabled.2.1 enabled.2.2.1 enabled.2.2.2 rfl
  | callback client now =>
      simp only [sessionThreadsStep, SessionThreads.advanceCallback] at moved
      split at moved <;> cases moved
      · next rest stage => exact .checked client now rest stage rfl
      · next call rest stage => exact .recorded client now call rest stage rfl

end Inversion

end Upstream
end PetlibroRelay
