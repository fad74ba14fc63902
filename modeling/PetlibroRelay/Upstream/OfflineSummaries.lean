import Mathlib.Tactic.Linarith
import Mathlib.Tactic.NormNum
import PetlibroRelay.Foundations.Spacing
import PetlibroRelay.Upstream.OutageAccounts

namespace PetlibroRelay
namespace Upstream

open Foundations

/-!
# Summaries of an outage in the log

A device that stays offline fails to reconnect every few seconds.  The log says so on a
level that is not shown by default, and once in a while a line says that the device is still
offline.

The telemetry decides which failed attempt is told so, by the start of the outage and by the
last summary.  Both are forgotten with the outage, on every path that ends it.
-/

/-! ## The lines of the log -/

/-- A line about an upstream transition, with its data. -/
inductive UpstreamLine where
  | connect (attempt : Nat) (stateBefore stateAfter : UpstreamState)
  | lost (reason : Option String) (sessionDuration : Rat) (stateBefore : UpstreamState)
      (disconnectFlags : Option String)
  | online (downtime : Rat) (stateBefore : UpstreamState)
  | restored (downtime : Rat) (failedAttempts : Nat) (stateBefore : UpstreamState)
  | refused (reasonCode : Option String) (attempt : Nat) (stateBefore : UpstreamState)
  | reconnectFailed (attempt : Nat) (reason : Option String) (stateBefore : UpstreamState)
  | stillOffline (downtime : Rat) (attempts : Nat) (lastReason : Option String)
  deriving DecidableEq, Repr

def UpstreamLine.isSummary : UpstreamLine -> Bool
  | .stillOffline _ _ _ => true
  | _ => false

/-- The lines of the two branches that do not return. -/
def logFailedAttempt (transition : UpstreamTransition) (line : UpstreamLine) :
    List UpstreamLine :=
  line ::
    if transition.offlineSummaryDue then
      [.stillOffline (transition.downtimeSeconds.getD 0) transition.attempt transition.reason]
    else []

def logUpstreamTransition (transition : UpstreamTransition) : List UpstreamLine :=
  match transition.kind with
  | .connectAttempt =>
      [.connect transition.attempt transition.stateBefore transition.stateAfter]
  | .sessionLost =>
      [.lost transition.reason (transition.sessionDurationSeconds.getD 0) transition.stateBefore
        transition.disconnectFlags]
  | .online => [.online (transition.downtimeSeconds.getD 0) transition.stateBefore]
  | .restored =>
      [.restored (transition.downtimeSeconds.getD 0) transition.failedAttempts
        transition.stateBefore]
  | .connackRefused =>
      logFailedAttempt transition
        (.refused transition.reasonCode transition.attempt transition.stateBefore)
  | .retryFailed | .tcpConnectFailed =>
      logFailedAttempt transition
        (.reconnectFailed transition.attempt transition.reason transition.stateBefore)

def UpstreamTransition.isSummarized (transition : UpstreamTransition) : Bool :=
  (logUpstreamTransition transition).any UpstreamLine.isSummary

/-- Only a failed attempt can be told that a summary is due. -/
theorem isSummarized_eq (transition : UpstreamTransition) :
    transition.isSummarized = (transition.kind.isFailure && transition.offlineSummaryDue) := by
  unfold UpstreamTransition.isSummarized logUpstreamTransition
  cases transition.kind with
  | connectAttempt => rfl
  | sessionLost => rfl
  | online => rfl
  | restored => rfl
  | connackRefused =>
      cases due : transition.offlineSummaryDue with
      | false => simp only [logFailedAttempt, due]; rfl
      | true => simp only [logFailedAttempt, due]; rfl
  | retryFailed =>
      cases due : transition.offlineSummaryDue with
      | false => simp only [logFailedAttempt, due]; rfl
      | true => simp only [logFailedAttempt, due]; rfl
  | tcpConnectFailed =>
      cases due : transition.offlineSummaryDue with
      | false => simp only [logFailedAttempt, due]; rfl
      | true => simp only [logFailedAttempt, due]; rfl

/-! ## The summaries of an outage -/

/-- When the ongoing outage was summarized, newest first.  The call that opens an outage is the
first that can be summarized in it. -/
def observeSummary (summaries : List Rat) (telemetry : DeviceTelemetry)
    (call : Rat × TelemetryCall) : List Rat :=
  let kept := if telemetry.outageStartedAt = none then [] else summaries
  match telemetry.transition call.1 call.2 with
  | none => []
  | some transition => if transition.isSummarized then call.1 :: kept else kept

/-- The telemetry beside the times of the summaries. -/
def summarizedTelemetry : Machine (DeviceTelemetry × List Rat) (Rat × TelemetryCall) :=
  telemetryMachine.watched observeSummary

/-- The last summary is remembered, and the summaries keep their distance from each other and
from the start. -/
structure Summarized (telemetry : DeviceTelemetry) (summaries : List Rat) (start : Rat) :
    Prop where
  last : telemetry.lastOfflineSummaryAt = summaries.head?
  spaced : Spaced OFFLINE_SUMMARY_INTERVAL_SECONDS (summaries ++ [start])

/-- The newest of the summaries, or else the start. -/
def lastMark (summaries : List Rat) (start : Rat) : Rat := summaries.head?.getD start

theorem interval_pos : (0 : Rat) < OFFLINE_SUMMARY_INTERVAL_SECONDS := by
  norm_num [OFFLINE_SUMMARY_INTERVAL_SECONDS]

theorem lastMark_ge {summaries : List Rat} {start : Rat}
    (spaced : Spaced OFFLINE_SUMMARY_INTERVAL_SECONDS (summaries ++ [start])) :
    forall time, time ∈ summaries ++ [start] -> time ≤ lastMark summaries start := by
  cases summaries with
  | nil =>
      intro time member
      exact le_of_eq (List.mem_singleton.mp member)
  | cons newest older =>
      intro time member
      rcases List.mem_cons.mp member with same | earlier
      · exact le_of_eq same
      · have apart := (List.pairwise_cons.mp spaced).1 time earlier
        exact le_trans (le_add_of_nonneg_right interval_pos.le) apart

/-- A summary is due when the interval has passed since the last mark. -/
theorem offlineSummaryDue_iff {telemetry : DeviceTelemetry} {summaries : List Rat} {start : Rat}
    (summarized : Summarized telemetry summaries start)
    (opened : telemetry.outageStartedAt = some start) (now : Rat) :
    (telemetry.offlineSummaryDueLocked now).1 = true ↔
      lastMark summaries start + OFFLINE_SUMMARY_INTERVAL_SECONDS ≤ now := by
  have above := lastMark_ge summarized.spaced start (List.mem_append_right _ List.mem_cons_self)
  unfold DeviceTelemetry.offlineSummaryDueLocked
  rw [opened, summarized.last]
  dsimp only
  rw [lastMark] at above ⊢
  split
  · next early =>
      refine ⟨by rintro ⟨⟩, fun reached => ?_⟩
      linarith
  · next late =>
      cases newest : summaries.head? with
      | none =>
          refine ⟨fun _ => ?_, fun _ => rfl⟩
          rw [Option.getD_none]
          linarith
      | some last =>
          rw [Option.getD_some]
          dsimp only
          split
          · next early =>
              refine ⟨by rintro ⟨⟩, fun reached => ?_⟩
              linarith
          · next waited =>
              refine ⟨fun _ => ?_, fun _ => rfl⟩
              linarith

/-- A summary that is due is noted, and nothing else is. -/
theorem lastOfflineSummaryAt_due (telemetry : DeviceTelemetry) (now : Rat) :
    (telemetry.offlineSummaryDueLocked now).2.lastOfflineSummaryAt =
      if (telemetry.offlineSummaryDueLocked now).1 then some now
      else telemetry.lastOfflineSummaryAt := by
  unfold DeviceTelemetry.offlineSummaryDueLocked
  split
  · rfl
  · split
    · rfl
    · split
      · rfl
      · split
        · rfl
        · rfl

/-- Another summary, at least the interval after the last mark. -/
theorem Summarized.spaced_cons {telemetry : DeviceTelemetry} {summaries : List Rat} {start now : Rat}
    (summarized : Summarized telemetry summaries start)
    (reached : lastMark summaries start + OFFLINE_SUMMARY_INTERVAL_SECONDS ≤ now) :
    Spaced OFFLINE_SUMMARY_INTERVAL_SECONDS (now :: summaries ++ [start]) := by
  refine List.pairwise_cons.mpr ⟨fun time member => ?_, summarized.spaced⟩
  have mark := lastMark_ge summarized.spaced time member
  linarith

/-! ## What a call does -/

/-- What a call does during an outage, which it may have opened. -/
structure Continues (after : DeviceTelemetry) (kept : List Rat) (start now : Rat)
    (transition : UpstreamTransition) : Prop where
  opened : after.outageStartedAt = some start
  due : transition.isSummarized = true ↔ transition.kind.isFailure = true ∧
    lastMark kept start + OFFLINE_SUMMARY_INTERVAL_SECONDS ≤ now
  summarized : Summarized after (if transition.isSummarized then now :: kept else kept) start

variable {telemetry : DeviceTelemetry} {summaries : List Rat}

/-- An outage that is opened has no summaries. -/
theorem summarized_beginOutage
    (summarized : forall start, telemetry.outageStartedAt = some start ->
      Summarized telemetry summaries start) (now : Rat) :
    exists start, (telemetry.beginOutageLocked now).outageStartedAt = some start ∧
      start = telemetry.outageStartedAt.getD now ∧
      Summarized (telemetry.beginOutageLocked now)
        (if telemetry.outageStartedAt = none then [] else summaries) start := by
  unfold DeviceTelemetry.beginOutageLocked
  cases opened : telemetry.outageStartedAt with
  | none =>
      refine ⟨now, rfl, rfl, ?_⟩
      rw [if_pos rfl]
      exact ⟨rfl, List.pairwise_singleton _ _⟩
  | some start =>
      refine ⟨start, opened, rfl, ?_⟩
      rw [if_neg (Option.some_ne_none start)]
      exact summarized start opened

/-- A call that keeps the outage and summarizes nothing. -/
theorem continues_quietly {middle after : DeviceTelemetry} {kept : List Rat} {start now : Rat}
    {transition : UpstreamTransition} (opened : middle.outageStartedAt = some start)
    (summarized : Summarized middle kept start)
    (sameStart : after.outageStartedAt = middle.outageStartedAt)
    (sameLast : after.lastOfflineSummaryAt = middle.lastOfflineSummaryAt)
    (noFailure : transition.kind.isFailure = false) :
    Continues after kept start now transition := by
  have quiet : transition.isSummarized = false := by
    rw [isSummarized_eq, noFailure, Bool.false_and]
  refine ⟨sameStart.trans opened, ?_, ?_⟩
  · rw [quiet, noFailure]
    exact ⟨by rintro ⟨⟩, by rintro ⟨⟨⟩, -⟩⟩
  · rw [quiet]
    exact ⟨sameLast.trans summarized.last, summarized.spaced⟩

/-- A failed attempt is told whether a summary is due, and notes one that is. -/
theorem continues_failAttempt {middle : DeviceTelemetry} {kept : List Rat} {start now : Rat}
    {reason : String} {transition : UpstreamTransition}
    (opened : middle.outageStartedAt = some start) (summarized : Summarized middle kept start)
    (failure : transition.kind.isFailure = true)
    (told : transition.offlineSummaryDue = (middle.failAttempt now reason).2) :
    Continues (middle.failAttempt now reason).1 kept start now transition := by
  have failed : Summarized { middle.registerRetryFailureLocked reason with
      upstreamState := .disconnected } kept start := ⟨summarized.last, summarized.spaced⟩
  have dueIff := offlineSummaryDue_iff failed opened now
  have summary : transition.isSummarized = (middle.failAttempt now reason).2 := by
    rw [isSummarized_eq, failure, Bool.true_and, told]
  refine ⟨?_, ?_, ?_⟩
  · obtain ⟨last, shape⟩ := DeviceTelemetry.failAttempt_eq middle now reason
    rw [shape]
    exact opened
  · rw [summary, failure, eq_self_iff_true, true_and]
    exact dueIff
  · rw [summary]
    have last : (middle.failAttempt now reason).1.lastOfflineSummaryAt =
        if (middle.failAttempt now reason).2 then some now else middle.lastOfflineSummaryAt :=
      lastOfflineSummaryAt_due _ now
    cases due : (middle.failAttempt now reason).2 with
    | true =>
        rw [due] at last
        exact ⟨last, failed.spaced_cons (dueIff.mp due)⟩
    | false =>
        rw [due] at last
        exact ⟨last.trans summarized.last, summarized.spaced⟩

theorem outage_ensureAttempt (telemetry : DeviceTelemetry) (now : Rat) :
    (telemetry.ensureAttemptForFailureLocked now).outageStartedAt =
        (telemetry.beginOutageLocked now).outageStartedAt ∧
      (telemetry.ensureAttemptForFailureLocked now).lastOfflineSummaryAt =
        (telemetry.beginOutageLocked now).lastOfflineSummaryAt := by
  unfold DeviceTelemetry.ensureAttemptForFailureLocked
  dsimp only
  split
  · exact ⟨rfl, rfl⟩
  · exact ⟨rfl, rfl⟩

theorem outage_noteDuration (telemetry : DeviceTelemetry) (now : Rat) :
    (telemetry.noteDuration now).outageStartedAt = telemetry.outageStartedAt ∧
      (telemetry.noteDuration now).lastOfflineSummaryAt = telemetry.lastOfflineSummaryAt := by
  unfold DeviceTelemetry.noteDuration
  split
  · exact ⟨rfl, rfl⟩
  · exact ⟨rfl, rfl⟩

/-- The loss of a session begins an outage, or goes on in one. -/
theorem continues_lost
    (summarized : forall start, telemetry.outageStartedAt = some start ->
      Summarized telemetry summaries start) (now : Rat) (reason : String)
    (flags : Option String) (online : telemetry.upstreamState = .online) :
    Continues (telemetry.upstreamDisconnected now reason flags).1
      (if telemetry.outageStartedAt = none then [] else summaries)
      (telemetry.outageStartedAt.getD now) now
      (telemetry.upstreamDisconnected now reason flags).2 := by
  simp only [DeviceTelemetry.upstreamDisconnected, if_pos online]
  obtain ⟨sameStart, sameLast⟩ := outage_noteDuration telemetry now
  generalize telemetry.noteDuration now = ended at sameStart sameLast
  obtain ⟨start, opened, same, begun⟩ := @summarized_beginOutage
    { ended with
      counters := { ended.counters with sessionsLost := ended.counters.sessionsLost + 1 }
      lastOnlineStartedAt := none
      lastDisconnectAt := some now
      upstreamState := .disconnected } summaries (by
    intro start opened
    obtain ⟨last, spaced⟩ := summarized start (sameStart.symm.trans opened)
    exact ⟨sameLast.trans last, spaced⟩) now
  dsimp only at same begun
  rw [← sameStart, ← same]
  exact continues_quietly opened begun rfl rfl rfl

/-- A call ends the outage, or goes on in one. -/
theorem apply_cases
    (summarized : forall start, telemetry.outageStartedAt = some start ->
      Summarized telemetry summaries start) (now : Rat) (call : TelemetryCall) :
    ((telemetry.apply now call).outageStartedAt = none ∧
        forall transition, telemetry.transition now call = some transition ->
          transition.kind.isFailure = false) ∨
      exists transition, telemetry.transition now call = some transition ∧
        Continues (telemetry.apply now call)
          (if telemetry.outageStartedAt = none then [] else summaries)
          (telemetry.outageStartedAt.getD now) now transition := by
  obtain ⟨start, opened, same, begun⟩ := summarized_beginOutage summarized now
  rw [← same]
  have ensured := outage_ensureAttempt telemetry now
  have attempted : Summarized (telemetry.ensureAttemptForFailureLocked now)
      (if telemetry.outageStartedAt = none then [] else summaries) start :=
    ⟨ensured.2.trans begun.last, begun.spaced⟩
  cases call with
  | suspended => exact .inl ⟨rfl, by rintro _ ⟨⟩⟩
  | online =>
      refine .inl ⟨rfl, ?_⟩
      rintro _ ⟨⟩
      dsimp only [DeviceTelemetry.upstreamOnline]
      split
      · rfl
      · rfl
  | connectAttempt => exact .inr ⟨_, rfl, continues_quietly opened begun rfl rfl rfl⟩
  | refused reasonCode =>
      refine .inr ⟨_, rfl, ?_⟩
      exact continues_failAttempt (ensured.1.trans opened) ⟨attempted.last, attempted.spaced⟩ rfl rfl
  | connectFailed reason =>
      refine .inr ⟨_, rfl, ?_⟩
      exact continues_failAttempt (ensured.1.trans opened) ⟨attempted.last, attempted.spaced⟩ rfl rfl
  | disconnected reason flags =>
      refine .inr ⟨_, rfl, ?_⟩
      by_cases online : telemetry.upstreamState = .online
      · rw [same]
        exact continues_lost summarized now reason flags online
      · simp only [DeviceTelemetry.apply, DeviceTelemetry.upstreamDisconnected, if_neg online]
        split
        · exact continues_failAttempt (ensured.1.trans opened)
            ⟨attempted.last, attempted.spaced⟩ rfl rfl
        · exact continues_failAttempt (ensured.1.trans opened)
            ⟨attempted.last, attempted.spaced⟩ rfl rfl

/-- Every call keeps what is known of the summaries. -/
theorem summarized_apply
    (summarized : forall start, telemetry.outageStartedAt = some start ->
      Summarized telemetry summaries start) (call : Rat × TelemetryCall) :
    forall start, (telemetry.apply call.1 call.2).outageStartedAt = some start ->
      Summarized (telemetry.apply call.1 call.2) (observeSummary summaries telemetry call)
        start := by
  intro start opened
  rcases apply_cases summarized call.1 call.2 with ⟨ended, -⟩ | ⟨transition, returned, continues⟩
  · cases ended.symm.trans opened
  · cases continues.opened.symm.trans opened
    rw [observeSummary, returned]
    exact continues.summarized

/-- Every summary of an outage stands for one interval since its start. -/
theorem intervals_le_lastMark {start : Rat}
    (spaced : Spaced OFFLINE_SUMMARY_INTERVAL_SECONDS (summaries ++ [start])) :
    start + summaries.length * OFFLINE_SUMMARY_INTERVAL_SECONDS ≤ lastMark summaries start := by
  cases summaries with
  | nil =>
      rw [List.length_nil, Nat.cast_zero, zero_mul, add_zero]
      exact le_rfl
  | cons newest older =>
      have above : forall time, time ∈ newest :: (older ++ [start]) -> start ≤ time := by
        intro time member
        rcases List.mem_append.mp (List.cons_append ▸ member : time ∈ (newest :: older) ++ [start])
          with summary | same
        · have apart := (List.pairwise_append.mp spaced).2.2 time summary start List.mem_cons_self
          exact le_trans (le_add_of_nonneg_right interval_pos.le) apart
        · exact le_of_eq (List.mem_singleton.mp same).symm
      have reached : start + (older ++ [start]).length * OFFLINE_SUMMARY_INTERVAL_SECONDS ≤ newest :=
        Spaced.newest_ge spaced above
      rw [List.length_append] at reached
      exact reached

/-! ## Every run -/

/-- Over every sequence of the six methods and any readings of the clock, the summaries of an
outage keep their distance from each other and from its start, so there is at most one for
every interval.  A failed attempt is summarized exactly when the interval has passed since the
last summary or else since the start of the outage, one that opens an outage is not, and nothing
but a failed attempt is. -/
theorem offline_summaries_are_spaced (calls : List (Rat × TelemetryCall)) :
    let telemetry := (summarizedTelemetry.run ({}, []) calls).1
    let summaries := (summarizedTelemetry.run ({}, []) calls).2
    (forall start, telemetry.outageStartedAt = some start ->
      Spaced OFFLINE_SUMMARY_INTERVAL_SECONDS (summaries ++ [start]) ∧
        start + summaries.length * OFFLINE_SUMMARY_INTERVAL_SECONDS ≤ lastMark summaries start) ∧
      forall now call transition, telemetry.transition now call = some transition ->
        (transition.isSummarized = true ↔ transition.kind.isFailure = true ∧
          exists start, telemetry.outageStartedAt = some start ∧
            lastMark summaries start + OFFLINE_SUMMARY_INTERVAL_SECONDS ≤ now) := by
  intro telemetry summaries
  have summarized : forall start, telemetry.outageStartedAt = some start ->
      Summarized telemetry summaries start := by
    refine summarizedTelemetry.run_invariant (fun state => forall start,
      state.1.outageStartedAt = some start -> Summarized state.1 state.2 start) ?_ ({}, []) calls ?_
    · rintro ⟨before, kept⟩ call ⟨after, observed⟩ holds moved
      obtain ⟨stepped, same⟩ := Machine.watched_step moved
      cases stepped
      dsimp only at same
      rw [same]
      exact summarized_apply holds call
    · rintro start ⟨⟩
  refine ⟨fun start opened => ?_, ?_⟩
  · have spaced := (summarized start opened).spaced
    exact ⟨spaced, intervals_le_lastMark spaced⟩
  · intro now call transition returned
    rcases apply_cases summarized now call with ⟨-, noFailure⟩ | ⟨own, same, continues⟩
    · have quiet := noFailure transition returned
      rw [isSummarized_eq, quiet]
      exact ⟨by rintro ⟨⟩, by rintro ⟨⟨⟩, -⟩⟩
    · cases same.symm.trans returned
      rw [continues.due]
      refine and_congr_right fun failure => ?_
      cases opened : telemetry.outageStartedAt with
      | none =>
          rw [if_pos rfl]
          constructor
          · intro reached
            have mark : lastMark [] ((none : Option Rat).getD now) = now := rfl
            rw [mark] at reached
            exact absurd reached (not_le_of_gt (lt_add_of_pos_right now interval_pos))
          · rintro ⟨start, ⟨⟩, -⟩
      | some start =>
          rw [if_neg (Option.some_ne_none start), Option.getD_some]
          constructor
          · exact fun reached => ⟨start, rfl, reached⟩
          · rintro ⟨_, ⟨⟩, reached⟩
            exact reached

/-- An outage of ten minutes with an attempt every hundred seconds is summarized twice. -/
example : (summarizedTelemetry.run ({}, [])
    [(0, .connectAttempt), (0, .connectFailed "x"), (100, .connectFailed "x"),
      (200, .connectFailed "x"), (300, .connectFailed "x"), (400, .connectFailed "x"),
      (500, .connectFailed "x"), (600, .connectFailed "x")]).2 = [600, 300] := by
  decide +kernel

end Upstream
end PetlibroRelay
