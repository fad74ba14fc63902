import PetlibroRelay.Foundations.Machine
import PetlibroRelay.Upstream.Telemetry

namespace PetlibroRelay
namespace Upstream

open Foundations

/-!
# Outage accounting of the telemetry

The six transition methods may be called in any order: a disconnect of an
attempt that is only half open, a failure while the session is up, two
attempts in a row.  Attempts are counted explicitly by an attempt and
implicitly by a failure that no attempt preceded, so no counter is consistent
on its own.  What holds after every sequence of calls is the joint invariant
of the outage counters, the lifetime counters and the state.

The classification of a successful CONNACK is compared with what the methods
returned since the outage was opened, which the telemetry itself does not
keep.
-/

/-- The transition a method returns.  A suspension returns nothing. -/
def DeviceTelemetry.transition (telemetry : DeviceTelemetry) (now : Rat) :
    TelemetryCall -> Option UpstreamTransition
  | .suspended => none
  | .connectAttempt => some (telemetry.upstreamConnectAttempt now).2
  | .online => some (telemetry.upstreamOnline now).2
  | .refused reasonCode => some (telemetry.upstreamRefused now reasonCode).2
  | .connectFailed reason => some (telemetry.upstreamConnectFailed now reason).2
  | .disconnected reason flags => some (telemetry.upstreamDisconnected now reason flags).2

/-- A failed attempt, of any of the three kinds. -/
def UpstreamTransitionKind.isFailure : UpstreamTransitionKind -> Bool
  | .retryFailed | .tcpConnectFailed | .connackRefused => true
  | .connectAttempt | .online | .sessionLost | .restored => false

/-- The telemetry of one device, with any clock: every call brings its own
reading. -/
def telemetryMachine : Machine DeviceTelemetry (Rat × TelemetryCall) where
  step telemetry call := some (telemetry.apply call.1 call.2)

/-- What the methods have returned: in all, and since the outage was opened.
The transition of the call that opens an outage is the first of the latter. -/
structure TransitionLog where
  transitions : List UpstreamTransition := []
  sinceOpened : List UpstreamTransition := []
  deriving DecidableEq, Repr

namespace TransitionLog

/-- One more transition, returned by a call that found the telemetry so. -/
def note (log : TransitionLog) (telemetry : DeviceTelemetry) (transition : UpstreamTransition) :
    TransitionLog :=
  { transitions := log.transitions ++ [transition]
    sinceOpened :=
      if telemetry.outageStartedAt = none then [transition]
      else log.sinceOpened ++ [transition] }

def observe (log : TransitionLog) (telemetry : DeviceTelemetry) (call : Rat × TelemetryCall) :
    TransitionLog :=
  match telemetry.transition call.1 call.2 with
  | none => log
  | some transition => log.note telemetry transition

/-- How many transitions of the kind were returned. -/
def number (log : TransitionLog) (kind : UpstreamTransitionKind) : Nat :=
  log.transitions.countP (fun transition => decide (transition.kind = kind))

/-- A session loss or a failed attempt was recorded since the outage was opened. -/
def degraded (log : TransitionLog) : Bool :=
  log.sinceOpened.any
    (fun transition => decide (transition.kind = .sessionLost) || transition.kind.isFailure)

theorem number_note (log : TransitionLog) (telemetry : DeviceTelemetry)
    (transition : UpstreamTransition) (kind : UpstreamTransitionKind) :
    (log.note telemetry transition).number kind =
      log.number kind + (if transition.kind = kind then 1 else 0) := by
  simp only [number, note, List.countP_append, List.countP_singleton, decide_eq_true_eq]

theorem degraded_note (log : TransitionLog) (telemetry : DeviceTelemetry)
    (transition : UpstreamTransition) :
    (log.note telemetry transition).degraded =
      ((decide (telemetry.outageStartedAt ≠ none) && log.degraded) ||
        (decide (transition.kind = .sessionLost) || transition.kind.isFailure)) := by
  unfold degraded note
  by_cases closed : telemetry.outageStartedAt = none
  · simp only [closed, if_true, List.any_cons, List.any_nil, Bool.or_false, ne_eq,
      not_true_eq_false, decide_false, Bool.false_and, Bool.false_or]
  · simp only [closed, if_false, List.any_append, List.any_cons, List.any_nil, Bool.or_false, ne_eq,
      not_false_eq_true, decide_true, Bool.true_and]

end TransitionLog

/-- The telemetry beside its log. -/
def accountedTelemetry : Machine (DeviceTelemetry × TransitionLog) (Rat × TelemetryCall) :=
  telemetryMachine.watched TransitionLog.observe

/-! ## The joint invariant -/

/-- The counters, as far as the telemetry's own fields determine them. -/
structure OutageCounted (telemetry : DeviceTelemetry) : Prop where
  closed : telemetry.outageStartedAt = none ->
    telemetry.outageAttempts = 0 ∧ telemetry.outageFailedAttempts = 0 ∧
      telemetry.outageHadSessionLoss = false
  settled : telemetry.upstreamState = .online ∨ telemetry.upstreamState = .suspended ->
    telemetry.outageStartedAt = none
  failed_le : telemetry.outageFailedAttempts ≤ telemetry.outageAttempts
  failed_lt : telemetry.upstreamState = .mqttConnecting ->
    telemetry.outageFailedAttempts < telemetry.outageAttempts
  failures_le : telemetry.counters.reconnectFailures ≤ telemetry.counters.connectAttempts
  failures_lt : telemetry.upstreamState = .mqttConnecting ->
    telemetry.counters.reconnectFailures < telemetry.counters.connectAttempts
  lost_le : telemetry.counters.sessionsLost +
    (if telemetry.upstreamState = .online then 1 else 0) ≤ telemetry.counters.connackSuccess

/-- The log, as far as the counters mirror it. -/
structure LogMirrored (telemetry : DeviceTelemetry) (log : TransitionLog) : Prop where
  failures : telemetry.counters.reconnectFailures =
    telemetry.counters.connackRefused + telemetry.counters.tcpConnectFailures +
      log.number .retryFailed
  lost : telemetry.counters.sessionsLost = log.number .sessionLost
  lost_online : forall transition, transition ∈ log.transitions ->
    transition.kind = .sessionLost -> transition.stateBefore = .online
  degraded_iff : telemetry.outageStartedAt ≠ none ->
    (log.degraded = true ↔
      telemetry.outageHadSessionLoss = true ∨ 0 < telemetry.outageFailedAttempts)

namespace DeviceTelemetry

/-! ## What the helpers do to the counted fields -/

@[simp] theorem counters_beginOutage (telemetry : DeviceTelemetry) (now : Rat) :
    (telemetry.beginOutageLocked now).counters = telemetry.counters := by
  unfold beginOutageLocked
  split <;> rfl

theorem outageStartedAt_beginOutage (telemetry : DeviceTelemetry) (now : Rat) :
    (telemetry.beginOutageLocked now).outageStartedAt ≠ none := by
  unfold beginOutageLocked
  split
  · next started opened =>
      rw [opened]
      exact Option.some_ne_none started
  · exact Option.some_ne_none now

/-- A closed outage has nothing to reset, so opening one only sets its start. -/
theorem beginOutage_counts {telemetry : DeviceTelemetry} (counted : OutageCounted telemetry)
    (now : Rat) :
    (telemetry.beginOutageLocked now).outageAttempts = telemetry.outageAttempts ∧
      (telemetry.beginOutageLocked now).outageFailedAttempts = telemetry.outageFailedAttempts ∧
      (telemetry.beginOutageLocked now).outageHadSessionLoss =
        telemetry.outageHadSessionLoss := by
  cases opened : telemetry.outageStartedAt with
  | some started => simp only [beginOutageLocked, opened, and_self]
  | none =>
      obtain ⟨attempts, failed, loss⟩ := counted.closed opened
      simp only [beginOutageLocked, opened, clearOutageLocked, attempts, failed, loss, and_self]

/-- A failed attempt changes the counters of the failure, the state, and
possibly when the last summary was. -/
theorem failAttempt_eq (telemetry : DeviceTelemetry) (now : Rat) (reason : String) :
    exists last, (telemetry.failAttempt now reason).1 =
      { telemetry.registerRetryFailureLocked reason with
        upstreamState := .disconnected
        lastOfflineSummaryAt := last } := by
  simp only [failAttempt, offlineSummaryDueLocked]
  split
  · exact ⟨_, rfl⟩
  · split
    · exact ⟨_, rfl⟩
    · split
      · exact ⟨_, rfl⟩
      · split <;> exact ⟨_, rfl⟩

/-- The implicit attempt: one is counted unless an explicit one is pending. -/
def impliedAttempts (telemetry : DeviceTelemetry) : Nat :=
  if telemetry.upstreamState = .mqttConnecting then 0 else 1

theorem ensureAttempt_counters (telemetry : DeviceTelemetry) (now : Rat) :
    (telemetry.ensureAttemptForFailureLocked now).counters =
      { telemetry.counters with
        connectAttempts := telemetry.counters.connectAttempts + telemetry.impliedAttempts } := by
  unfold ensureAttemptForFailureLocked impliedAttempts
  simp only [upstreamState_beginOutage]
  split <;> simp only [countAttempt, counters_beginOutage, Nat.add_zero]

theorem ensureAttempt_outage {telemetry : DeviceTelemetry} (counted : OutageCounted telemetry)
    (now : Rat) :
    (telemetry.ensureAttemptForFailureLocked now).outageStartedAt ≠ none ∧
      (telemetry.ensureAttemptForFailureLocked now).outageAttempts =
        telemetry.outageAttempts + telemetry.impliedAttempts ∧
      (telemetry.ensureAttemptForFailureLocked now).outageFailedAttempts =
        telemetry.outageFailedAttempts ∧
      (telemetry.ensureAttemptForFailureLocked now).outageHadSessionLoss =
        telemetry.outageHadSessionLoss := by
  obtain ⟨attempts, failed, loss⟩ := beginOutage_counts counted now
  unfold ensureAttemptForFailureLocked impliedAttempts
  simp only [upstreamState_beginOutage]
  split
  · exact ⟨outageStartedAt_beginOutage telemetry now, attempts, failed, loss⟩
  · exact ⟨outageStartedAt_beginOutage telemetry now, congrArg (· + 1) attempts, failed, loss⟩

theorem counters_suspended (telemetry : DeviceTelemetry) (now : Rat) :
    (telemetry.upstreamSuspended now).counters =
      { telemetry.counters with
        upstreamSuspensions := telemetry.counters.upstreamSuspensions + 1 } := by
  simp only [upstreamSuspended, clearOutageLocked, noteState, noteDuration]
  split
  · split <;> rfl
  · rfl

theorem counters_connectAttempt (telemetry : DeviceTelemetry) (now : Rat) :
    (telemetry.upstreamConnectAttempt now).1.counters =
      { telemetry.counters with
        connectAttempts := telemetry.counters.connectAttempts + 1 } := by
  simp only [upstreamConnectAttempt, countAttempt, counters_beginOutage]

theorem counters_online (telemetry : DeviceTelemetry) (now : Rat) :
    (telemetry.upstreamOnline now).1.counters =
      { telemetry.counters with connackSuccess := telemetry.counters.connackSuccess + 1 } := by
  simp only [upstreamOnline, clearOutageLocked, noteState, counters_beginOutage]

end DeviceTelemetry

/-! ## The failure paths as one -/

/-- What the three failure paths have in common.  The last field says which
lifetime counter stands for the failure beside the reconnect failures. -/
structure FailedAttempt (before after : DeviceTelemetry) (counted : Nat) : Prop where
  state : after.upstreamState = .disconnected
  opened : after.outageStartedAt ≠ none
  attempts : after.outageAttempts = before.outageAttempts + before.impliedAttempts
  failed : after.outageFailedAttempts = before.outageFailedAttempts + 1
  loss : after.outageHadSessionLoss = before.outageHadSessionLoss
  connectAttempts : after.counters.connectAttempts =
    before.counters.connectAttempts + before.impliedAttempts
  reconnectFailures : after.counters.reconnectFailures = before.counters.reconnectFailures + 1
  sessionsLost : after.counters.sessionsLost = before.counters.sessionsLost
  connackSuccess : after.counters.connackSuccess = before.counters.connackSuccess
  classified : after.counters.connackRefused + after.counters.tcpConnectFailures =
    before.counters.connackRefused + before.counters.tcpConnectFailures + counted

/-- The common end of the failure paths, whatever they count in between. -/
theorem failedAttempt_of_failAttempt {before middle : DeviceTelemetry} {extra : Nat}
    (counted : OutageCounted before) (now : Rat) (reason : String)
    (sameOutage : middle.outageStartedAt =
        (before.ensureAttemptForFailureLocked now).outageStartedAt ∧
      middle.outageAttempts = (before.ensureAttemptForFailureLocked now).outageAttempts ∧
      middle.outageFailedAttempts =
        (before.ensureAttemptForFailureLocked now).outageFailedAttempts ∧
      middle.outageHadSessionLoss =
        (before.ensureAttemptForFailureLocked now).outageHadSessionLoss)
    (sameCounters :
      middle.counters.connectAttempts =
        before.counters.connectAttempts + before.impliedAttempts ∧
      middle.counters.reconnectFailures = before.counters.reconnectFailures ∧
      middle.counters.sessionsLost = before.counters.sessionsLost ∧
      middle.counters.connackSuccess = before.counters.connackSuccess)
    (classified : middle.counters.connackRefused + middle.counters.tcpConnectFailures =
      before.counters.connackRefused + before.counters.tcpConnectFailures + extra) :
    FailedAttempt before (middle.failAttempt now reason).1 extra := by
  obtain ⟨last, shape⟩ := DeviceTelemetry.failAttempt_eq middle now reason
  obtain ⟨opened, attempts, failed, loss⟩ := DeviceTelemetry.ensureAttempt_outage counted now
  obtain ⟨sameOpened, sameAttempts, sameFailed, sameLoss⟩ := sameOutage
  obtain ⟨sameConnects, sameReconnects, sameLost, sameSuccess⟩ := sameCounters
  rw [shape]
  exact {
    state := rfl
    opened := fun absent => opened (sameOpened.symm.trans absent)
    attempts := sameAttempts.trans attempts
    failed := congrArg (· + 1) (sameFailed.trans failed)
    loss := sameLoss.trans loss
    connectAttempts := sameConnects
    reconnectFailures := congrArg (· + 1) sameReconnects
    sessionsLost := sameLost
    connackSuccess := sameSuccess
    classified := classified }

theorem failedAttempt_refused {telemetry : DeviceTelemetry} (counted : OutageCounted telemetry)
    (now : Rat) (reasonCode : String) :
    FailedAttempt telemetry (telemetry.upstreamRefused now reasonCode).1 1 := by
  apply failedAttempt_of_failAttempt counted now reasonCode
  · exact ⟨rfl, rfl, rfl, rfl⟩
  · simp only [DeviceTelemetry.ensureAttempt_counters, and_self]
  · simp only [DeviceTelemetry.ensureAttempt_counters]
    omega

theorem failedAttempt_connectFailed {telemetry : DeviceTelemetry}
    (counted : OutageCounted telemetry) (now : Rat) (reason : String) :
    FailedAttempt telemetry (telemetry.upstreamConnectFailed now reason).1 1 := by
  apply failedAttempt_of_failAttempt counted now reason
  · exact ⟨rfl, rfl, rfl, rfl⟩
  · simp only [DeviceTelemetry.ensureAttempt_counters, and_self]
  · simp only [DeviceTelemetry.ensureAttempt_counters]
    omega

/-- A disconnect of anything but an established session is a failed retry. -/
theorem failedAttempt_disconnected {telemetry : DeviceTelemetry}
    (counted : OutageCounted telemetry) (now : Rat) (reason : String) (flags : Option String)
    (offline : telemetry.upstreamState ≠ .online) :
    FailedAttempt telemetry (telemetry.upstreamDisconnected now reason flags).1 0 ∧
      (telemetry.upstreamDisconnected now reason flags).2.kind = .retryFailed := by
  simp only [DeviceTelemetry.upstreamDisconnected, if_neg offline, and_true]
  apply failedAttempt_of_failAttempt counted now reason
  · split <;> exact ⟨rfl, rfl, rfl, rfl⟩
  · split <;> simp only [DeviceTelemetry.ensureAttempt_counters, and_self]
  · split <;> simp only [DeviceTelemetry.ensureAttempt_counters, Nat.add_zero]

theorem FailedAttempt.outageCounted {before after : DeviceTelemetry} {extra : Nat}
    (failure : FailedAttempt before after extra) (counted : OutageCounted before) :
    OutageCounted after := by
  have implied : before.upstreamState ≠ .mqttConnecting -> before.impliedAttempts = 1 :=
    fun idle => if_neg idle
  have failedLe := counted.failed_le
  have failedLt := counted.failed_lt
  have failuresLe := counted.failures_le
  have failuresLt := counted.failures_lt
  have lostLe := counted.lost_le
  exact {
    closed := fun absent => absurd absent failure.opened
    settled := by
      intro either
      rw [failure.state] at either
      rcases either with same | same <;> cases same
    failed_le := by
      rw [failure.failed, failure.attempts]
      by_cases connecting : before.upstreamState = .mqttConnecting
      · exact Nat.le_add_right_of_le (failedLt connecting)
      · rw [implied connecting]
        omega
    failed_lt := by
      intro connecting
      rw [failure.state] at connecting
      cases connecting
    failures_le := by
      rw [failure.reconnectFailures, failure.connectAttempts]
      by_cases connecting : before.upstreamState = .mqttConnecting
      · exact Nat.le_add_right_of_le (failuresLt connecting)
      · rw [implied connecting]
        omega
    failures_lt := by
      intro connecting
      rw [failure.state] at connecting
      cases connecting
    lost_le := by
      rw [failure.sessionsLost, failure.connackSuccess, failure.state]
      simp only [reduceCtorEq, if_false]
      omega }

/-! ## One call -/

/-- What is left once an outage is closed or a session is suspended. -/
theorem outageCounted_cleared {before after : DeviceTelemetry} (counted : OutageCounted before)
    (closed : after.outageStartedAt = none) (attempts : after.outageAttempts = 0)
    (failed : after.outageFailedAttempts = 0) (loss : after.outageHadSessionLoss = false)
    (idle : after.upstreamState ≠ .mqttConnecting)
    (connects : after.counters.connectAttempts = before.counters.connectAttempts)
    (reconnects : after.counters.reconnectFailures = before.counters.reconnectFailures)
    (lost : after.counters.sessionsLost +
      (if after.upstreamState = .online then 1 else 0) ≤ after.counters.connackSuccess) :
    OutageCounted after where
  closed := fun _ => ⟨attempts, failed, loss⟩
  settled := fun _ => closed
  failed_le := by
    rw [failed, attempts]
  failed_lt := fun connecting => absurd connecting idle
  failures_le := by
    rw [connects, reconnects]
    exact counted.failures_le
  failures_lt := fun connecting => absurd connecting idle
  lost_le := lost

theorem outageCounted_suspended {telemetry : DeviceTelemetry}
    (counted : OutageCounted telemetry) (now : Rat) :
    OutageCounted (telemetry.upstreamSuspended now) := by
  have lostLe := counted.lost_le
  have counters := DeviceTelemetry.counters_suspended telemetry now
  apply outageCounted_cleared counted rfl rfl rfl rfl
  · exact fun same => UpstreamState.noConfusion same
  · rw [counters]
  · rw [counters]
  · rw [counters]
    exact Nat.le_trans (Nat.le_add_right _ _) lostLe

theorem outageCounted_connectAttempt {telemetry : DeviceTelemetry}
    (counted : OutageCounted telemetry) (now : Rat) :
    OutageCounted (telemetry.upstreamConnectAttempt now).1 := by
  obtain ⟨attempts, failed, -⟩ := DeviceTelemetry.beginOutage_counts counted now
  have failedLe := counted.failed_le
  have failuresLe := counted.failures_le
  have lostLe := counted.lost_le
  have started := DeviceTelemetry.outageStartedAt_beginOutage telemetry now
  constructor
  · exact fun absent => absurd absent started
  · rintro (same | same) <;> cases same
  all_goals
    simp only [DeviceTelemetry.upstreamConnectAttempt, DeviceTelemetry.countAttempt,
      DeviceTelemetry.counters_beginOutage, attempts, failed, reduceCtorEq, if_false]
    omega

theorem outageCounted_online {telemetry : DeviceTelemetry} (counted : OutageCounted telemetry)
    (now : Rat) : OutageCounted (telemetry.upstreamOnline now).1 := by
  have lostLe := counted.lost_le
  have counters := DeviceTelemetry.counters_online telemetry now
  apply outageCounted_cleared counted rfl rfl rfl rfl
  · exact fun same => UpstreamState.noConfusion same
  · rw [counters]
  · rw [counters]
  · have state : (telemetry.upstreamOnline now).1.upstreamState = .online := rfl
    rw [counters, state, if_pos rfl]
    dsimp only
    omega

/-- The end of an established session opens an outage that knows of the loss. -/
structure LostSession (before after : DeviceTelemetry) : Prop where
  state : after.upstreamState = .disconnected
  opened : after.outageStartedAt ≠ none
  attempts : after.outageAttempts = 0
  failed : after.outageFailedAttempts = 0
  loss : after.outageHadSessionLoss = true
  counters : after.counters =
    { before.counters with sessionsLost := before.counters.sessionsLost + 1 }

theorem lostSession_disconnected {telemetry : DeviceTelemetry}
    (counted : OutageCounted telemetry) (now : Rat) (reason : String) (flags : Option String)
    (online : telemetry.upstreamState = .online) :
    LostSession telemetry (telemetry.upstreamDisconnected now reason flags).1 ∧
      (telemetry.upstreamDisconnected now reason flags).2.kind = .sessionLost ∧
      (telemetry.upstreamDisconnected now reason flags).2.stateBefore = .online := by
  have closed : (telemetry.noteDuration now).outageStartedAt = none := by
    rw [DeviceTelemetry.noteDuration]
    split <;> exact counted.settled (Or.inl online)
  have same : (telemetry.noteDuration now).counters = telemetry.counters := by
    rw [DeviceTelemetry.noteDuration]
    split <;> rfl
  rw [DeviceTelemetry.upstreamDisconnected, if_pos online]
  refine ⟨?_, rfl, online⟩
  simp only [DeviceTelemetry.beginOutageLocked, closed, same]
  constructor
  all_goals
    simp only [DeviceTelemetry.noteState, DeviceTelemetry.clearOutageLocked, ne_eq,
      reduceCtorEq, not_false_eq_true]

theorem LostSession.outageCounted {before after : DeviceTelemetry}
    (lost : LostSession before after) (counted : OutageCounted before)
    (online : before.upstreamState = .online) : OutageCounted after := by
  have lostLe := counted.lost_le
  rw [if_pos online] at lostLe
  exact {
    closed := fun absent => absurd absent lost.opened
    settled := by
      intro either
      rw [lost.state] at either
      rcases either with same | same <;> cases same
    failed_le := by
      rw [lost.failed]
      exact Nat.zero_le _
    failed_lt := by
      intro connecting
      rw [lost.state] at connecting
      cases connecting
    failures_le := by
      rw [lost.counters]
      exact counted.failures_le
    failures_lt := by
      intro connecting
      rw [lost.state] at connecting
      cases connecting
    lost_le := by
      rw [lost.counters, lost.state]
      exact lostLe }

/-- Every call keeps the counters consistent. -/
theorem outageCounted_apply {telemetry : DeviceTelemetry} (counted : OutageCounted telemetry)
    (now : Rat) (call : TelemetryCall) : OutageCounted (telemetry.apply now call) := by
  cases call with
  | suspended => exact outageCounted_suspended counted now
  | connectAttempt => exact outageCounted_connectAttempt counted now
  | online => exact outageCounted_online counted now
  | refused reasonCode =>
      exact (failedAttempt_refused counted now reasonCode).outageCounted counted
  | connectFailed reason =>
      exact (failedAttempt_connectFailed counted now reason).outageCounted counted
  | disconnected reason flags =>
      by_cases online : telemetry.upstreamState = .online
      · exact (lostSession_disconnected counted now reason flags online).1.outageCounted counted
          online
      · exact (failedAttempt_disconnected counted now reason flags online).1.outageCounted counted

/-! ## One call and the log -/

/-- The log of an outage, with the closed one read as an empty one. -/
theorem LogMirrored.degraded_open {telemetry : DeviceTelemetry} {log : TransitionLog}
    (mirrored : LogMirrored telemetry log) (counted : OutageCounted telemetry) :
    (decide (telemetry.outageStartedAt ≠ none) && log.degraded) = true ↔
      telemetry.outageHadSessionLoss = true ∨ 0 < telemetry.outageFailedAttempts := by
  rw [Bool.and_eq_true, decide_eq_true_eq]
  by_cases closed : telemetry.outageStartedAt = none
  · obtain ⟨-, failed, loss⟩ := counted.closed closed
    simp only [closed, failed, loss, ne_eq, not_true_eq_false, false_and, Bool.false_eq_true,
      Nat.lt_irrefl, or_self]
  · rw [← mirrored.degraded_iff closed]
    exact and_iff_right closed

theorem lost_online_note {telemetry : DeviceTelemetry} {log : TransitionLog}
    {transition : UpstreamTransition} {before : DeviceTelemetry}
    (mirrored : LogMirrored telemetry log)
    (online : transition.kind = .sessionLost -> transition.stateBefore = .online) :
    forall noted, noted ∈ (log.note before transition).transitions ->
      noted.kind = .sessionLost -> noted.stateBefore = .online := by
  intro noted member lost
  rcases List.mem_append.mp member with old | new
  · exact mirrored.lost_online noted old lost
  · rw [List.mem_singleton.mp new] at lost ⊢
    exact online lost

theorem FailedAttempt.logMirrored {before after : DeviceTelemetry} {extra : Nat}
    {log : TransitionLog} {transition : UpstreamTransition}
    (failure : FailedAttempt before after extra) (mirrored : LogMirrored before log)
    (failed : transition.kind.isFailure = true)
    (standsFor : extra + (if transition.kind = .retryFailed then 1 else 0) = 1) :
    LogMirrored after (log.note before transition) := by
  have notLost : transition.kind ≠ .sessionLost := by
    intro same
    rw [same] at failed
    cases failed
  have failures := mirrored.failures
  have classified := failure.classified
  exact {
    failures := by
      rw [failure.reconnectFailures, TransitionLog.number_note]
      omega
    lost := by
      rw [failure.sessionsLost, TransitionLog.number_note, if_neg notLost]
      exact mirrored.lost
    lost_online := lost_online_note mirrored (fun same => absurd same notLost)
    degraded_iff := by
      intro _
      rw [TransitionLog.degraded_note, failed, failure.failed]
      simp only [Bool.or_true, Nat.zero_lt_succ, or_true] }

theorem LostSession.logMirrored {before after : DeviceTelemetry} {log : TransitionLog}
    {transition : UpstreamTransition} (ended : LostSession before after)
    (mirrored : LogMirrored before log) (lost : transition.kind = .sessionLost)
    (online : transition.stateBefore = .online) :
    LogMirrored after (log.note before transition) where
  failures := by
    rw [ended.counters, TransitionLog.number_note, lost]
    exact mirrored.failures
  lost := by
    rw [ended.counters, TransitionLog.number_note, if_pos lost]
    exact congrArg (· + 1) mirrored.lost
  lost_online := lost_online_note mirrored (fun _ => online)
  degraded_iff := by
    intro _
    rw [TransitionLog.degraded_note, lost, ended.loss]
    simp only [decide_true, Bool.true_or, Bool.or_true, true_or]

/-- A call whose transition is neither a loss nor a failure. -/
theorem logMirrored_benign {before after : DeviceTelemetry} {log : TransitionLog}
    {transition : UpstreamTransition} (mirrored : LogMirrored before log)
    (notLost : transition.kind ≠ .sessionLost) (notFailed : transition.kind.isFailure = false)
    (reconnects : after.counters.reconnectFailures = before.counters.reconnectFailures)
    (refused : after.counters.connackRefused = before.counters.connackRefused)
    (failed : after.counters.tcpConnectFailures = before.counters.tcpConnectFailures)
    (lost : after.counters.sessionsLost = before.counters.sessionsLost)
    (degraded : after.outageStartedAt ≠ none ->
      ((decide (before.outageStartedAt ≠ none) && log.degraded) = true ↔
        after.outageHadSessionLoss = true ∨ 0 < after.outageFailedAttempts)) :
    LogMirrored after (log.note before transition) where
  failures := by
    have notRetry : transition.kind ≠ .retryFailed := by
      intro same
      rw [same] at notFailed
      cases notFailed
    rw [reconnects, refused, failed, TransitionLog.number_note, if_neg notRetry]
    exact mirrored.failures
  lost := by
    rw [lost, TransitionLog.number_note, if_neg notLost]
    exact mirrored.lost
  lost_online := lost_online_note mirrored (fun same => absurd same notLost)
  degraded_iff := by
    intro opened
    rw [TransitionLog.degraded_note, notFailed, decide_eq_false notLost, Bool.or_false,
      Bool.or_false]
    exact degraded opened

theorem logMirrored_connectAttempt {telemetry : DeviceTelemetry} {log : TransitionLog}
    (counted : OutageCounted telemetry) (mirrored : LogMirrored telemetry log) (now : Rat) :
    LogMirrored (telemetry.upstreamConnectAttempt now).1
      (log.note telemetry (telemetry.upstreamConnectAttempt now).2) := by
  obtain ⟨-, failed, loss⟩ := DeviceTelemetry.beginOutage_counts counted now
  have counters := DeviceTelemetry.counters_connectAttempt telemetry now
  apply logMirrored_benign mirrored
  · exact fun same => UpstreamTransitionKind.noConfusion same
  · rfl
  · rw [counters]
  · rw [counters]
  · rw [counters]
  · rw [counters]
  · intro _
    simp only [DeviceTelemetry.upstreamConnectAttempt, DeviceTelemetry.countAttempt, failed, loss]
    exact mirrored.degraded_open counted

/-- A successful CONNACK is one of the two kinds, and which one is read off
the outage it closes. -/
theorem upstreamOnline_kind {telemetry : DeviceTelemetry} (counted : OutageCounted telemetry)
    (now : Rat) :
    (telemetry.upstreamOnline now).2.kind =
      if telemetry.outageHadSessionLoss = true ∨ 0 < telemetry.outageFailedAttempts then .restored
      else .online := by
  obtain ⟨-, failed, loss⟩ := DeviceTelemetry.beginOutage_counts counted now
  simp only [DeviceTelemetry.upstreamOnline, failed, loss, Bool.or_eq_true, decide_eq_true_eq]

theorem logMirrored_online {telemetry : DeviceTelemetry} {log : TransitionLog}
    (counted : OutageCounted telemetry) (mirrored : LogMirrored telemetry log) (now : Rat) :
    LogMirrored (telemetry.upstreamOnline now).1
      (log.note telemetry (telemetry.upstreamOnline now).2) := by
  have counters := DeviceTelemetry.counters_online telemetry now
  apply logMirrored_benign mirrored
  · rw [upstreamOnline_kind counted]
    split <;> exact fun same => UpstreamTransitionKind.noConfusion same
  · rw [upstreamOnline_kind counted]
    split <;> rfl
  · rw [counters]
  · rw [counters]
  · rw [counters]
  · rw [counters]
  · exact fun opened => absurd rfl opened

/-- A suspension returns nothing and closes the outage. -/
theorem logMirrored_suspended {telemetry : DeviceTelemetry} {log : TransitionLog}
    (mirrored : LogMirrored telemetry log) (now : Rat) :
    LogMirrored (telemetry.upstreamSuspended now) log where
  failures := by
    rw [DeviceTelemetry.counters_suspended]
    exact mirrored.failures
  lost := by
    rw [DeviceTelemetry.counters_suspended]
    exact mirrored.lost
  lost_online := mirrored.lost_online
  degraded_iff := fun opened => absurd rfl opened

/-- Every call keeps the counters and the log in step. -/
theorem logMirrored_apply {telemetry : DeviceTelemetry} {log : TransitionLog}
    (counted : OutageCounted telemetry) (mirrored : LogMirrored telemetry log)
    (call : Rat × TelemetryCall) :
    LogMirrored (telemetry.apply call.1 call.2) (log.observe telemetry call) := by
  obtain ⟨now, call⟩ := call
  cases call with
  | suspended => exact logMirrored_suspended mirrored now
  | connectAttempt => exact logMirrored_connectAttempt counted mirrored now
  | online => exact logMirrored_online counted mirrored now
  | refused reasonCode =>
      exact (failedAttempt_refused counted now reasonCode).logMirrored mirrored rfl rfl
  | connectFailed reason =>
      exact (failedAttempt_connectFailed counted now reason).logMirrored mirrored rfl rfl
  | disconnected reason flags =>
      by_cases online : telemetry.upstreamState = .online
      · obtain ⟨ended, kind, before⟩ := lostSession_disconnected counted now reason flags online
        exact ended.logMirrored mirrored kind before
      · obtain ⟨failure, kind⟩ := failedAttempt_disconnected counted now reason flags online
        apply failure.logMirrored mirrored
        · rw [kind]
          rfl
        · rw [kind]
          rfl

/-! ## Every sequence of calls -/

/-- The accounting of the outages, as a reader of the counters relies on it. -/
structure OutageAccounting (telemetry : DeviceTelemetry) (log : TransitionLog) : Prop where
  failed_le : telemetry.outageFailedAttempts ≤ telemetry.outageAttempts
  failed_lt : telemetry.upstreamState = .mqttConnecting ->
    telemetry.outageFailedAttempts < telemetry.outageAttempts
  settled : telemetry.upstreamState = .online ∨ telemetry.upstreamState = .suspended ->
    telemetry.outageStartedAt = none ∧ telemetry.outageAttempts = 0 ∧
      telemetry.outageFailedAttempts = 0
  failures_le : telemetry.counters.reconnectFailures ≤ telemetry.counters.connectAttempts
  failures_lt : telemetry.upstreamState = .mqttConnecting ->
    telemetry.counters.reconnectFailures < telemetry.counters.connectAttempts
  lost_le : telemetry.counters.sessionsLost +
    (if telemetry.upstreamState = .online then 1 else 0) ≤ telemetry.counters.connackSuccess
  failures : telemetry.counters.reconnectFailures =
    telemetry.counters.connackRefused + telemetry.counters.tcpConnectFailures +
      log.number .retryFailed
  lost : telemetry.counters.sessionsLost = log.number .sessionLost
  lost_online : forall transition, transition ∈ log.transitions ->
    transition.kind = .sessionLost -> transition.stateBefore = .online
  online_kind : forall now, (telemetry.upstreamOnline now).2.kind =
    if telemetry.outageStartedAt ≠ none ∧ log.degraded = true then .restored else .online

theorem outageAccounting_of_counted {telemetry : DeviceTelemetry} {log : TransitionLog}
    (counted : OutageCounted telemetry) (mirrored : LogMirrored telemetry log) :
    OutageAccounting telemetry log where
  failed_le := counted.failed_le
  failed_lt := counted.failed_lt
  settled := by
    intro either
    have closed := counted.settled either
    obtain ⟨attempts, failed, -⟩ := counted.closed closed
    exact ⟨closed, attempts, failed⟩
  failures_le := counted.failures_le
  failures_lt := counted.failures_lt
  lost_le := counted.lost_le
  failures := mirrored.failures
  lost := mirrored.lost
  lost_online := mirrored.lost_online
  online_kind := by
    intro now
    rw [upstreamOnline_kind counted]
    have same := mirrored.degraded_open counted
    rw [Bool.and_eq_true, decide_eq_true_eq] at same
    simp only [same]

theorem outageCounted_initial : OutageCounted {} := by
  constructor <;> decide

theorem logMirrored_initial : LogMirrored {} {} where
  failures := rfl
  lost := rfl
  lost_online := fun _ member => absurd member List.not_mem_nil
  degraded_iff := fun opened => absurd rfl opened

/-- The accounting holds after every sequence of the six methods, with any
readings of the clock. -/
theorem outageAccounting_run (calls : List (Rat × TelemetryCall)) :
    OutageAccounting (accountedTelemetry.run ({}, {}) calls).1
      (accountedTelemetry.run ({}, {}) calls).2 := by
  have both : OutageCounted (accountedTelemetry.run ({}, {}) calls).1 ∧
      LogMirrored (accountedTelemetry.run ({}, {}) calls).1
        (accountedTelemetry.run ({}, {}) calls).2 := by
    apply accountedTelemetry.run_invariant
      (fun state => OutageCounted state.1 ∧ LogMirrored state.1 state.2)
    · rintro ⟨telemetry, log⟩ call ⟨after, logAfter⟩ ⟨counted, mirrored⟩ moved
      obtain ⟨stepped, observed⟩ := Machine.watched_step moved
      cases stepped
      rw [observed]
      exact ⟨outageCounted_apply counted call.1 call.2, logMirrored_apply counted mirrored call⟩
    · exact ⟨outageCounted_initial, logMirrored_initial⟩
  exact outageAccounting_of_counted both.1 both.2

end Upstream
end PetlibroRelay
