import Mathlib.Algebra.Order.Field.Rat
import PetlibroRelay.Foundations.BoundedLog

namespace PetlibroRelay
namespace Upstream

open Foundations

/-!
# Upstream telemetry of one device

The semantic state of a device's cloud session and the accounting around it.
The six transition methods are the only writers.  Each of them runs under the
telemetry lock with one clock reading and is one atomic operation here.

The events mirrored into the relay-wide timeline are left out, and so are the
counters that are only incremented by name from other components.
-/

def EVENT_HISTORY_LIMIT : Nat := 500
def SESSION_HISTORY_LIMIT : Nat := 500
def OFFLINE_SUMMARY_INTERVAL_SECONDS : Rat := 5 * 60

/-- How far along the upstream connection actually is. -/
inductive UpstreamState where
  | disconnected
  | tcpConnecting
  | mqttConnecting
  | online
  | suspended
  deriving DecidableEq, Repr

/-- Only an established session counts as online. -/
def UpstreamState.isOnline (state : UpstreamState) : Bool :=
  decide (state = .online)

inductive UpstreamTransitionKind where
  | connectAttempt
  | online
  | sessionLost
  | retryFailed
  | tcpConnectFailed
  | connackRefused
  | restored
  deriving DecidableEq, Repr

/-- One classified upstream transition. -/
structure UpstreamTransition where
  kind : UpstreamTransitionKind
  stateBefore : UpstreamState
  stateAfter : UpstreamState
  attempt : Nat
  reason : Option String := none
  reasonCode : Option String := none
  disconnectFlags : Option String := none
  sessionDurationSeconds : Option Rat := none
  downtimeSeconds : Option Rat := none
  failedAttempts : Nat := 0
  offlineSummaryDue : Bool := false
  deriving DecidableEq, Repr

/-- The counters the transition methods maintain. -/
structure UpstreamCounters where
  upstreamSuspensions : Nat := 0
  connectAttempts : Nat := 0
  connackSuccess : Nat := 0
  connackRefused : Nat := 0
  connackTimeouts : Nat := 0
  tcpConnectFailures : Nat := 0
  reconnectFailures : Nat := 0
  sessionsLost : Nat := 0
  deriving DecidableEq, Repr

structure DeviceTelemetry where
  upstreamState : UpstreamState := .disconnected
  lastConnackAt : Option Rat := none
  lastDisconnectAt : Option Rat := none
  lastOnlineStartedAt : Option Rat := none
  outageStartedAt : Option Rat := none
  outageAttempts : Nat := 0
  outageFailedAttempts : Nat := 0
  outageHadSessionLoss : Bool := false
  lastOfflineSummaryAt : Option Rat := none
  lastFailureReason : Option String := none
  sessionNumber : Nat := 0
  stateHistory : List (Rat × Bool) := []
  sessionDurations : List Rat := []
  counters : UpstreamCounters := {}
  deriving DecidableEq, Repr

namespace DeviceTelemetry

/-! ## The helpers that run under the lock -/

/-- Append to the bounded history of online and offline moments. -/
def noteState (telemetry : DeviceTelemetry) (now : Rat) (online : Bool) : DeviceTelemetry :=
  { telemetry with
    stateHistory := keepLast EVENT_HISTORY_LIMIT (telemetry.stateHistory ++ [(now, online)]) }

/-- Append the duration of the session that ends, if its start is known. -/
def noteDuration (telemetry : DeviceTelemetry) (now : Rat) : DeviceTelemetry :=
  match telemetry.lastOnlineStartedAt with
  | none => telemetry
  | some started =>
      { telemetry with
        sessionDurations :=
          keepLast SESSION_HISTORY_LIMIT (telemetry.sessionDurations ++ [now - started]) }

def clearOutageLocked (telemetry : DeviceTelemetry) : DeviceTelemetry :=
  { telemetry with
    outageStartedAt := none
    outageAttempts := 0
    outageFailedAttempts := 0
    outageHadSessionLoss := false
    lastOfflineSummaryAt := none
    lastFailureReason := none }

def beginOutageLocked (telemetry : DeviceTelemetry) (now : Rat) : DeviceTelemetry :=
  match telemetry.outageStartedAt with
  | some _ => telemetry
  | none => { telemetry.clearOutageLocked with outageStartedAt := some now }

def countAttempt (telemetry : DeviceTelemetry) : DeviceTelemetry :=
  { telemetry with
    outageAttempts := telemetry.outageAttempts + 1
    counters := { telemetry.counters with
      connectAttempts := telemetry.counters.connectAttempts + 1 } }

def ensureAttemptForFailureLocked (telemetry : DeviceTelemetry) (now : Rat) : DeviceTelemetry :=
  let opened := telemetry.beginOutageLocked now
  if opened.upstreamState = .mqttConnecting then opened else opened.countAttempt

def registerRetryFailureLocked (telemetry : DeviceTelemetry) (reason : String) :
    DeviceTelemetry :=
  { telemetry with
    outageFailedAttempts := telemetry.outageFailedAttempts + 1
    lastFailureReason := some reason
    counters := { telemetry.counters with
      reconnectFailures := telemetry.counters.reconnectFailures + 1 } }

/-- Whether a summary of the ongoing outage is due, which is then noted. -/
def offlineSummaryDueLocked (telemetry : DeviceTelemetry) (now : Rat) :
    Bool × DeviceTelemetry :=
  match telemetry.outageStartedAt with
  | none => (false, telemetry)
  | some started =>
      if now - started < OFFLINE_SUMMARY_INTERVAL_SECONDS then (false, telemetry)
      else
        match telemetry.lastOfflineSummaryAt with
        | none => (true, { telemetry with lastOfflineSummaryAt := some now })
        | some last =>
            if now - last < OFFLINE_SUMMARY_INTERVAL_SECONDS then (false, telemetry)
            else (true, { telemetry with lastOfflineSummaryAt := some now })

def downtimeLocked (telemetry : DeviceTelemetry) (now : Rat) : Option Rat :=
  telemetry.outageStartedAt.map (now - ·)

/-! ## The six transition methods -/

/-- The relay closes the cloud session on purpose. -/
def upstreamSuspended (telemetry : DeviceTelemetry) (now : Rat) : DeviceTelemetry :=
  let ended := if telemetry.upstreamState = .online then
    (telemetry.noteDuration now).noteState now false else telemetry
  clearOutageLocked { ended with
    lastOnlineStartedAt := none
    upstreamState := .suspended
    counters := { ended.counters with
      upstreamSuspensions := ended.counters.upstreamSuspensions + 1 } }

/-- An expected connection attempt, not an established session. -/
def upstreamConnectAttempt (telemetry : DeviceTelemetry) (now : Rat) :
    DeviceTelemetry × UpstreamTransition :=
  let counted := (telemetry.beginOutageLocked now).countAttempt
  let after := { counted with upstreamState := .mqttConnecting }
  (after, { kind := .connectAttempt, stateBefore := telemetry.upstreamState,
            stateAfter := after.upstreamState, attempt := after.outageAttempts })

/-- A successful CONNACK closes any outage. -/
def upstreamOnline (telemetry : DeviceTelemetry) (now : Rat) :
    DeviceTelemetry × UpstreamTransition :=
  let opened := telemetry.beginOutageLocked now
  let restored := opened.outageHadSessionLoss || decide (0 < opened.outageFailedAttempts)
  let after := noteState { opened with
    upstreamState := .online
    lastConnackAt := some now
    lastOnlineStartedAt := some now
    sessionNumber := opened.sessionNumber + 1
    counters := { opened.counters with
      connackSuccess := opened.counters.connackSuccess + 1 } } now true
  (after.clearOutageLocked,
    { kind := if restored then .restored else .online, stateBefore := telemetry.upstreamState,
      stateAfter := after.upstreamState, attempt := opened.outageAttempts,
      downtimeSeconds := opened.downtimeLocked now,
      failedAttempts := opened.outageFailedAttempts })

/-- The shared end of the three failure paths: the failed attempt is
registered, the state is offline and a summary may be due. -/
def failAttempt (telemetry : DeviceTelemetry) (now : Rat) (reason : String) :
    DeviceTelemetry × Bool :=
  let failed := { telemetry.registerRetryFailureLocked reason with upstreamState := .disconnected }
  let summary := failed.offlineSummaryDueLocked now
  (summary.2, summary.1)

/-- The broker rejects the connection. -/
def upstreamRefused (telemetry : DeviceTelemetry) (now : Rat) (reasonCode : String) :
    DeviceTelemetry × UpstreamTransition :=
  let attempted := telemetry.ensureAttemptForFailureLocked now
  let failed := failAttempt { attempted with counters := { attempted.counters with
    connackRefused := attempted.counters.connackRefused + 1 } } now reasonCode
  (failed.1,
    { kind := .connackRefused, stateBefore := telemetry.upstreamState,
      stateAfter := failed.1.upstreamState, attempt := failed.1.outageAttempts,
      reasonCode := some reasonCode, downtimeSeconds := failed.1.downtimeLocked now,
      failedAttempts := failed.1.outageFailedAttempts, offlineSummaryDue := failed.2 })

/-- The connection fails below MQTT. -/
def upstreamConnectFailed (telemetry : DeviceTelemetry) (now : Rat) (reason : String) :
    DeviceTelemetry × UpstreamTransition :=
  let attempted := telemetry.ensureAttemptForFailureLocked now
  let failed := failAttempt { attempted with counters := { attempted.counters with
    tcpConnectFailures := attempted.counters.tcpConnectFailures + 1 } } now reason
  (failed.1,
    { kind := .tcpConnectFailed, stateBefore := telemetry.upstreamState,
      stateAfter := failed.1.upstreamState, attempt := failed.1.outageAttempts,
      reason := some reason, downtimeSeconds := failed.1.downtimeLocked now,
      failedAttempts := failed.1.outageFailedAttempts, offlineSummaryDue := failed.2 })

/-- A disconnect is the loss of a session only when one was established. -/
def upstreamDisconnected (telemetry : DeviceTelemetry) (now : Rat) (reason : String)
    (disconnectFlags : Option String) : DeviceTelemetry × UpstreamTransition :=
  if telemetry.upstreamState = .online then
    let ended := telemetry.noteDuration now
    let lost := beginOutageLocked { ended with
      counters := { ended.counters with sessionsLost := ended.counters.sessionsLost + 1 }
      lastOnlineStartedAt := none
      lastDisconnectAt := some now
      upstreamState := .disconnected } now
    let after := noteState { lost with outageHadSessionLoss := true } now false
    (after,
      { kind := .sessionLost, stateBefore := telemetry.upstreamState,
        stateAfter := after.upstreamState, attempt := 0, reason := some reason,
        disconnectFlags := disconnectFlags,
        sessionDurationSeconds := telemetry.lastOnlineStartedAt.map (now - ·) })
  else
    let attempted := telemetry.ensureAttemptForFailureLocked now
    let timed := if telemetry.upstreamState = .mqttConnecting then
      { attempted with counters := { attempted.counters with
        connackTimeouts := attempted.counters.connackTimeouts + 1 } } else attempted
    let failed := failAttempt { timed with lastDisconnectAt := some now } now reason
    (failed.1,
      { kind := .retryFailed, stateBefore := telemetry.upstreamState,
        stateAfter := failed.1.upstreamState, attempt := failed.1.outageAttempts,
        reason := some reason, disconnectFlags := disconnectFlags,
        downtimeSeconds := failed.1.downtimeLocked now,
        failedAttempts := failed.1.outageFailedAttempts, offlineSummaryDue := failed.2 })

end DeviceTelemetry

/-- The six methods with their arguments. -/
inductive TelemetryCall where
  | suspended
  | connectAttempt
  | online
  | refused (reasonCode : String)
  | connectFailed (reason : String)
  | disconnected (reason : String) (disconnectFlags : Option String)
  deriving DecidableEq, Repr

/-- The telemetry after one of its methods. -/
def DeviceTelemetry.apply (telemetry : DeviceTelemetry) (now : Rat) :
    TelemetryCall -> DeviceTelemetry
  | .suspended => telemetry.upstreamSuspended now
  | .connectAttempt => (telemetry.upstreamConnectAttempt now).1
  | .online => (telemetry.upstreamOnline now).1
  | .refused reasonCode => (telemetry.upstreamRefused now reasonCode).1
  | .connectFailed reason => (telemetry.upstreamConnectFailed now reason).1
  | .disconnected reason flags => (telemetry.upstreamDisconnected now reason flags).1

/-- The state each method leaves behind, whatever the state before. -/
def TelemetryCall.target : TelemetryCall -> UpstreamState
  | .suspended => .suspended
  | .connectAttempt => .mqttConnecting
  | .online => .online
  | .refused _ => .disconnected
  | .connectFailed _ => .disconnected
  | .disconnected _ _ => .disconnected

namespace DeviceTelemetry

@[simp] theorem upstreamState_beginOutage (telemetry : DeviceTelemetry) (now : Rat) :
    (telemetry.beginOutageLocked now).upstreamState = telemetry.upstreamState := by
  rw [beginOutageLocked]
  split <;> rfl

@[simp] theorem upstreamState_failAttempt (telemetry : DeviceTelemetry) (now : Rat)
    (reason : String) : (telemetry.failAttempt now reason).1.upstreamState = .disconnected := by
  simp only [failAttempt, offlineSummaryDueLocked]
  split
  · rfl
  · split
    · rfl
    · split
      · rfl
      · split <;> rfl

/-- The next state depends on the method alone. -/
theorem upstreamState_apply (telemetry : DeviceTelemetry) (now : Rat) (call : TelemetryCall) :
    (telemetry.apply now call).upstreamState = call.target := by
  cases call with
  | suspended => rfl
  | connectAttempt => rfl
  | online => rfl
  | refused reasonCode => exact upstreamState_failAttempt _ _ _
  | connectFailed reason => exact upstreamState_failAttempt _ _ _
  | disconnected reason flags =>
      simp only [apply, upstreamDisconnected]
      split
      · exact upstreamState_beginOutage _ _
      · exact upstreamState_failAttempt _ _ _

end DeviceTelemetry
end Upstream
end PetlibroRelay
