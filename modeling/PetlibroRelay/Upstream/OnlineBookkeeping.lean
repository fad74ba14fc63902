import PetlibroRelay.Upstream.OutageAccounts

namespace PetlibroRelay
namespace Upstream

open Foundations

/-!
# What the telemetry knows about being online

Three fields say that a session is up: the state, the start of the session
and the last entry of the state history.  The reported duration of the current
session and its availability read the latter two.  A disconnect and a
suspension close a session in all three.  An attempt, a refusal and a failure
to connect change the state alone, and so leave a session that is over on
record when they are called while it is up.
-/

/-- The start of the session and the last entry of the history agree with the
state. -/
def OnlineBookkeeping (telemetry : DeviceTelemetry) : Prop :=
  (telemetry.lastOnlineStartedAt ≠ none ↔ telemetry.upstreamState = .online) ∧
    ((exists moment, telemetry.stateHistory.getLast? = some (moment, true)) ↔
      telemetry.upstreamState = .online)

/-- The methods that do not look whether a session is up. -/
def TelemetryCall.overlooksSession : TelemetryCall -> Bool
  | .connectAttempt | .refused _ | .connectFailed _ => true
  | .suspended | .online | .disconnected _ _ => false

/-- No method that overlooks a session is called while one is up. -/
def closesSession (telemetry : DeviceTelemetry) (call : Rat × TelemetryCall) : Prop :=
  telemetry.upstreamState = .online -> call.2.overlooksSession = false

instance (telemetry : DeviceTelemetry) (call : Rat × TelemetryCall) :
    Decidable (closesSession telemetry call) :=
  inferInstanceAs (Decidable (_ -> _))

namespace DeviceTelemetry

/-! ## The two fields after each helper -/

theorem onlineFields_beginOutage (telemetry : DeviceTelemetry) (now : Rat) :
    (telemetry.beginOutageLocked now).lastOnlineStartedAt = telemetry.lastOnlineStartedAt ∧
      (telemetry.beginOutageLocked now).stateHistory = telemetry.stateHistory := by
  unfold beginOutageLocked
  split <;> exact ⟨rfl, rfl⟩

theorem onlineFields_ensureAttempt (telemetry : DeviceTelemetry) (now : Rat) :
    (telemetry.ensureAttemptForFailureLocked now).lastOnlineStartedAt =
        telemetry.lastOnlineStartedAt ∧
      (telemetry.ensureAttemptForFailureLocked now).stateHistory = telemetry.stateHistory := by
  unfold ensureAttemptForFailureLocked
  dsimp only
  split <;> exact onlineFields_beginOutage telemetry now

theorem onlineFields_failAttempt (telemetry : DeviceTelemetry) (now : Rat) (reason : String) :
    (telemetry.failAttempt now reason).1.lastOnlineStartedAt = telemetry.lastOnlineStartedAt ∧
      (telemetry.failAttempt now reason).1.stateHistory = telemetry.stateHistory := by
  obtain ⟨last, shape⟩ := failAttempt_eq telemetry now reason
  rw [shape]
  exact ⟨rfl, rfl⟩

/-- A method that overlooks the session leaves both fields as they are. -/
theorem onlineFields_overlooked (telemetry : DeviceTelemetry) (now : Rat) {call : TelemetryCall}
    (overlooks : call.overlooksSession = true) :
    (telemetry.apply now call).lastOnlineStartedAt = telemetry.lastOnlineStartedAt ∧
      (telemetry.apply now call).stateHistory = telemetry.stateHistory := by
  cases call with
  | connectAttempt => exact onlineFields_beginOutage telemetry now
  | refused reasonCode =>
      obtain ⟨sameStart, sameHistory⟩ := onlineFields_ensureAttempt telemetry now
      obtain ⟨failedStart, failedHistory⟩ := onlineFields_failAttempt _ now reasonCode
      exact ⟨failedStart.trans sameStart, failedHistory.trans sameHistory⟩
  | connectFailed reason =>
      obtain ⟨sameStart, sameHistory⟩ := onlineFields_ensureAttempt telemetry now
      obtain ⟨failedStart, failedHistory⟩ := onlineFields_failAttempt _ now reason
      exact ⟨failedStart.trans sameStart, failedHistory.trans sameHistory⟩
  | suspended => cases overlooks
  | online => cases overlooks
  | disconnected reason flags => cases overlooks

/-- A disconnect of anything but an established session leaves them too. -/
theorem onlineFields_disconnected (telemetry : DeviceTelemetry) (now : Rat) (reason : String)
    (flags : Option String) (offline : telemetry.upstreamState ≠ .online) :
    (telemetry.upstreamDisconnected now reason flags).1.lastOnlineStartedAt =
        telemetry.lastOnlineStartedAt ∧
      (telemetry.upstreamDisconnected now reason flags).1.stateHistory =
        telemetry.stateHistory := by
  obtain ⟨sameStart, sameHistory⟩ := onlineFields_ensureAttempt telemetry now
  simp only [upstreamDisconnected, if_neg offline]
  refine ⟨(onlineFields_failAttempt _ now reason).1.trans ?_,
    (onlineFields_failAttempt _ now reason).2.trans ?_⟩
  · split <;> exact sameStart
  · split <;> exact sameHistory

theorem getLast_noteState (telemetry : DeviceTelemetry) (now : Rat) (online : Bool) :
    (telemetry.noteState now online).stateHistory.getLast? = some (now, online) := by
  apply keepLast_concat_getLast
  unfold EVENT_HISTORY_LIMIT
  omega

/-- A suspension closes the session in both fields. -/
theorem onlineFields_suspended (telemetry : DeviceTelemetry) (now : Rat) :
    (telemetry.upstreamSuspended now).lastOnlineStartedAt = none ∧
      (telemetry.upstreamSuspended now).stateHistory.getLast? =
        if telemetry.upstreamState = .online then some (now, false)
        else telemetry.stateHistory.getLast? := by
  refine ⟨rfl, ?_⟩
  simp only [upstreamSuspended, clearOutageLocked]
  split
  · exact getLast_noteState _ now false
  · rfl

/-- So does the end of an established session. -/
theorem onlineFields_lost (telemetry : DeviceTelemetry) (now : Rat) (reason : String)
    (flags : Option String) (online : telemetry.upstreamState = .online) :
    (telemetry.upstreamDisconnected now reason flags).1.lastOnlineStartedAt = none ∧
      (telemetry.upstreamDisconnected now reason flags).1.stateHistory.getLast? =
        some (now, false) := by
  simp only [upstreamDisconnected, if_pos online]
  refine ⟨?_, getLast_noteState _ now false⟩
  exact (onlineFields_beginOutage _ now).1

theorem onlineFields_online (telemetry : DeviceTelemetry) (now : Rat) :
    (telemetry.upstreamOnline now).1.lastOnlineStartedAt = some now ∧
      (telemetry.upstreamOnline now).1.stateHistory.getLast? = some (now, true) := by
  simp only [upstreamOnline, clearOutageLocked]
  exact ⟨rfl, getLast_noteState _ now true⟩

end DeviceTelemetry

/-! ## One call -/

/-- An offline state agrees with fields that know of no session. -/
theorem onlineBookkeeping_offline {telemetry : DeviceTelemetry}
    (offline : telemetry.upstreamState ≠ .online) :
    OnlineBookkeeping telemetry ↔
      telemetry.lastOnlineStartedAt = none ∧
        forall moment, telemetry.stateHistory.getLast? ≠ some (moment, true) := by
  simp only [OnlineBookkeeping, offline, iff_false, ne_eq, not_not, not_exists]

/-- A call that leaves both fields and goes from one offline state to another. -/
theorem onlineBookkeeping_unchanged {before after : DeviceTelemetry}
    (booked : OnlineBookkeeping before) (offline : before.upstreamState ≠ .online)
    (stillOffline : after.upstreamState ≠ .online)
    (same : after.lastOnlineStartedAt = before.lastOnlineStartedAt ∧
      after.stateHistory = before.stateHistory) : OnlineBookkeeping after := by
  rw [onlineBookkeeping_offline stillOffline, same.1, same.2]
  exact (onlineBookkeeping_offline offline).mp booked

theorem target_of_overlooks {call : TelemetryCall} (overlooks : call.overlooksSession = true) :
    call.target ≠ .online := by
  cases call <;>
    simp only [TelemetryCall.overlooksSession, Bool.false_eq_true, TelemetryCall.target, ne_eq,
      reduceCtorEq, not_false_eq_true] at overlooks ⊢

/-- A call that looks at the session books it right. -/
theorem onlineBookkeeping_looked {telemetry : DeviceTelemetry}
    (booked : OnlineBookkeeping telemetry) (now : Rat) {call : TelemetryCall}
    (looks : call.overlooksSession = false) : OnlineBookkeeping (telemetry.apply now call) := by
  cases call with
  | connectAttempt => cases looks
  | refused reasonCode => cases looks
  | connectFailed reason => cases looks
  | online =>
      obtain ⟨start, last⟩ := DeviceTelemetry.onlineFields_online telemetry now
      have state := telemetry.upstreamState_apply now .online
      simp only [DeviceTelemetry.apply] at state ⊢
      simp only [OnlineBookkeeping, start, last, state, TelemetryCall.target, ne_eq, reduceCtorEq,
        not_false_eq_true, Option.some.injEq, Prod.mk.injEq, and_true, exists_eq', and_self]
  | suspended =>
      obtain ⟨start, last⟩ := DeviceTelemetry.onlineFields_suspended telemetry now
      have offline : (telemetry.apply now .suspended).upstreamState ≠ .online :=
        fun same => UpstreamState.noConfusion same
      refine (onlineBookkeeping_offline offline).mpr ⟨start, ?_⟩
      intro moment claimed
      have claimed := last.symm.trans claimed
      split at claimed
      · cases claimed
      · next idle => exact ((onlineBookkeeping_offline idle).mp booked).2 moment claimed
  | disconnected reason flags =>
      have state := telemetry.upstreamState_apply now (.disconnected reason flags)
      have offline : (telemetry.apply now (.disconnected reason flags)).upstreamState ≠ .online := by
        rw [state]
        exact fun same => UpstreamState.noConfusion same
      by_cases online : telemetry.upstreamState = .online
      · obtain ⟨start, last⟩ :=
          DeviceTelemetry.onlineFields_lost telemetry now reason flags online
        refine (onlineBookkeeping_offline offline).mpr ⟨start, ?_⟩
        intro moment claimed
        cases last.symm.trans claimed
      · exact onlineBookkeeping_unchanged booked online offline
          (DeviceTelemetry.onlineFields_disconnected telemetry now reason flags online)

/-- One call keeps the books exactly when it does not overlook a session. -/
theorem onlineBookkeeping_apply_iff {telemetry : DeviceTelemetry}
    (booked : OnlineBookkeeping telemetry) (call : Rat × TelemetryCall) :
    OnlineBookkeeping (telemetry.apply call.1 call.2) ↔ closesSession telemetry call := by
  obtain ⟨now, call⟩ := call
  cases overlooks : call.overlooksSession with
  | false =>
      refine ⟨fun _ _ => overlooks, fun _ => onlineBookkeeping_looked booked now overlooks⟩
  | true =>
      have same := DeviceTelemetry.onlineFields_overlooked telemetry now overlooks
      have offline : (telemetry.apply now call).upstreamState ≠ .online := by
        rw [telemetry.upstreamState_apply]
        exact target_of_overlooks overlooks
      constructor
      · intro after online
        -- The start of the session is still set, in a state that is not online.
        have unset := ((onlineBookkeeping_offline offline).mp after).1
        exact absurd (same.1.symm.trans unset) (booked.1.mpr online)
      · intro closes
        have idle : telemetry.upstreamState ≠ .online := by
          intro online
          rw [closes online] at overlooks
          cases overlooks
        exact onlineBookkeeping_unchanged booked idle offline same

/-! ## Every sequence of calls -/

theorem onlineBookkeeping_initial : OnlineBookkeeping {} := by
  rw [onlineBookkeeping_offline (fun same => UpstreamState.noConfusion same)]
  exact ⟨rfl, fun _ claimed => by cases claimed⟩

theorem onlineBookkeeping_run {calls : List (Rat × TelemetryCall)}
    (closes : telemetryMachine.Meets closesSession {} calls) :
    OnlineBookkeeping (telemetryMachine.run {} calls) := by
  refine telemetryMachine.run_invariant_of_meets closesSession OnlineBookkeeping ?_ {} calls
    onlineBookkeeping_initial closes
  rintro telemetry call after booked closing moved
  cases moved
  exact (onlineBookkeeping_apply_iff booked call).mpr closing

/-- The books are right in every state a sequence of calls reaches exactly when
no attempt, refusal or failure to connect is reported while a session is up. -/
theorem onlineBookkeeping_reached_iff (calls : List (Rat × TelemetryCall)) :
    (forall early, early <+: calls -> OnlineBookkeeping (telemetryMachine.run {} early)) ↔
      telemetryMachine.Meets closesSession {} calls := by
  apply telemetryMachine.reached_iff_meets closesSession OnlineBookkeeping
  · intro telemetry call booked
    exact onlineBookkeeping_apply_iff booked call
  · exact onlineBookkeeping_initial

/-- A failure to connect that is reported while the session is up: the relay is
offline, and the session that is over is still the current one. -/
theorem onlineBookkeeping_connectFailed_online :
    ¬ forall calls : List (Rat × TelemetryCall),
      OnlineBookkeeping (telemetryMachine.run {} calls) := by
  intro always
  have booked := always [(0, .connectAttempt), (1, .online), (2, .connectFailed "late callback")]
  have offline : (telemetryMachine.run {} [(0, .connectAttempt), (1, .online),
      (2, .connectFailed "late callback")]).upstreamState ≠ .online := by
    decide +kernel
  have still : (telemetryMachine.run {} [(0, .connectAttempt), (1, .online),
      (2, .connectFailed "late callback")]).lastOnlineStartedAt ≠ none := by
    decide +kernel
  exact offline (booked.1.mp still)

end Upstream
end PetlibroRelay
