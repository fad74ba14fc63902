import PetlibroRelay.Foundations.TimeShares
import PetlibroRelay.Upstream.OnlineBookkeeping
import Mathlib.Tactic.Linarith

namespace PetlibroRelay
namespace Upstream

open Foundations

/-!
# The availability of a device

The telemetry reports which share of a window the upstream session was up.  It
keeps no state for each moment, only the entries of its history: one for every
successful connect, one for every end of an established session.  One loop finds
the state at the start of the window, another adds up the time in the window.

An entry on the start of the window is read by both loops, and successful
connects may follow each other without an end in between.  Nothing is assumed
about when observation started.
-/

namespace DeviceTelemetry

/-- The last of the entries that are not after the start of the window. -/
def stateAtStart (windowStart : Rat) : Bool -> List (Rat × Bool) -> Bool
  | state, [] => state
  | state, (timestamp, online) :: rest =>
      if timestamp ≤ windowStart then stateAtStart windowStart online rest else state

/-- The online seconds after the loop over the entries in the window. -/
def onlineSeconds (now : Rat) (state : Bool) (cursor seconds : Rat) : List (Rat × Bool) -> Rat
  | [] => if state then seconds + (now - cursor) else seconds
  | (timestamp, online) :: rest =>
      onlineSeconds now online timestamp
        (if state then seconds + (timestamp - cursor) else seconds) rest

/-- The share of the window that the session was up, if it can be told. -/
def availabilityLocked (telemetry : DeviceTelemetry) (startedAt now windowSeconds : Rat) :
    Option Rat :=
  let windowStart := max startedAt (now - windowSeconds)
  let transitions :=
    telemetry.stateHistory.filter (fun entry => decide (windowStart ≤ entry.1))
  if transitions = [] ∧ telemetry.lastOnlineStartedAt = none then none
  else
    let state := stateAtStart windowStart false telemetry.stateHistory
    let seconds := onlineSeconds now state windowStart 0 transitions
    let observedSeconds := now - windowStart
    if observedSeconds > 0 then some (seconds / observedSeconds) else none

/-- The entry a method appends to the history, if any. -/
def recorded (telemetry : DeviceTelemetry) (call : Rat × TelemetryCall) : List (Rat × Bool) :=
  match call.2 with
  | .online => [(call.1, true)]
  | .suspended | .disconnected _ _ =>
      if telemetry.upstreamState = .online then [(call.1, false)] else []
  | .connectAttempt | .refused _ | .connectFailed _ => []

/-- The entries a sequence of calls appends. -/
def recordedAll : DeviceTelemetry -> List (Rat × TelemetryCall) -> List (Rat × Bool)
  | _, [] => []
  | telemetry, call :: rest =>
      telemetry.recorded call ++ recordedAll (telemetryMachine.next telemetry call) rest

/-- Whether the state is ONLINE after each call, from the moment of the call. -/
def onlineFrom : DeviceTelemetry -> List (Rat × TelemetryCall) -> List (Rat × Bool)
  | _, [] => []
  | telemetry, call :: rest =>
      (call.1, decide ((telemetryMachine.next telemetry call).upstreamState = .online)) ::
        onlineFrom (telemetryMachine.next telemetry call) rest

/-! ## The two loops -/

theorem stateAtStart_of_before {windowStart : Rat} {state : Bool} {history : List (Rat × Bool)}
    (before : forall entry, entry ∈ history -> entry.1 ≤ windowStart) :
    stateAtStart windowStart state history = (history.getLast?.map Prod.snd).getD state := by
  induction history generalizing state with
  | nil => rfl
  | cons entry rest inductionHypothesis =>
      rw [stateAtStart, if_pos (before entry List.mem_cons_self),
        inductionHypothesis (fun other member => before other (List.mem_cons_of_mem _ member)),
        List.getLast?_cons]
      cases rest.getLast? with
      | none => rfl
      | some last => rfl

/-- Within the window the loop adds up the parts of the stretches. -/
theorem onlineSeconds_inside {windowStart now : Rat} {transitions : List (Rat × Bool)}
    (inside : forall entry, entry ∈ transitions -> windowStart ≤ entry.1 ∧ entry.1 ≤ now)
    (state : Bool) {cursor : Rat} (after : windowStart ≤ cursor) (before : cursor ≤ now)
    (seconds : Rat) :
    onlineSeconds now state cursor seconds transitions =
      seconds + timeOn windowStart now state cursor transitions := by
  induction transitions generalizing state cursor seconds with
  | nil =>
      rw [onlineSeconds, timeOn, clamp_of_inside after before]
      cases state with
      | false => exact (add_zero seconds).symm
      | true => rfl
  | cons entry rest inductionHypothesis =>
      obtain ⟨entryAfter, entryBefore⟩ := inside entry List.mem_cons_self
      rw [onlineSeconds, timeOn, clamp_of_inside after before,
        clamp_of_inside entryAfter entryBefore,
        inductionHypothesis (fun other member => inside other (List.mem_cons_of_mem _ member))
          entry.2 entryAfter entryBefore, ← add_assoc]
      cases state with
      | false => rw [if_neg Bool.false_ne_true, if_neg Bool.false_ne_true, add_zero]
      | true => rw [if_pos rfl, if_pos rfl]

/-- The two loops together: the time the history says the session was up. -/
theorem loops_timeOn {windowStart now : Rat} (window : windowStart ≤ now)
    {history : List (Rat × Bool)} (ordered : (history.map Prod.fst).Pairwise (· ≤ ·))
    (past : forall entry, entry ∈ history -> entry.1 ≤ now) (state : Bool) :
    onlineSeconds now (stateAtStart windowStart state history) windowStart 0
        (history.filter (fun entry => decide (windowStart ≤ entry.1))) =
      timeOn windowStart now state windowStart history := by
  induction history generalizing state with
  | nil => rw [List.filter_nil, onlineSeconds_inside (by simp) _ le_rfl window, zero_add]; rfl
  | cons entry rest inductionHypothesis =>
      rw [List.map_cons, List.pairwise_cons] at ordered
      have later : forall other, other ∈ rest -> entry.1 ≤ other.1 :=
        fun other member => ordered.1 _ (List.mem_map_of_mem member)
      have pastRest : forall other, other ∈ rest -> other.1 ≤ now :=
        fun other member => past other (List.mem_cons_of_mem _ member)
      rcases lt_or_ge entry.1 windowStart with early | inside
      · rw [List.filter_cons_of_neg (by simpa using early), stateAtStart, if_pos early.le,
          timeOn_switch_before le_rfl early.le]
        exact inductionHypothesis ordered.2 pastRest entry.2
      · have insideAll : forall other, other ∈ entry :: rest ->
            windowStart ≤ other.1 ∧ other.1 ≤ now := by
          intro other member
          refine ⟨?_, past other member⟩
          rcases List.mem_cons.mp member with rfl | member
          · exact inside
          · exact inside.trans (later other member)
        rw [List.filter_eq_self.mpr (fun other member => decide_eq_true (insideAll other member).1),
          onlineSeconds_inside insideAll _ le_rfl window, zero_add]
        rcases inside.eq_or_lt with edge | strictly
        · -- An entry on the edge ends a stretch of no length, whatever the state.
          rw [timeOn_switch_before le_rfl edge.ge, timeOn_switch_before le_rfl edge.ge]
        · rw [stateAtStart, if_neg strictly.not_ge]

/-! ## The history and the state -/

theorem stateHistory_noteDuration (telemetry : DeviceTelemetry) (now : Rat) :
    (telemetry.noteDuration now).stateHistory = telemetry.stateHistory := by
  unfold noteDuration
  split <;> rfl

/-- A method appends what it records, as long as nothing has to be dropped. -/
theorem stateHistory_apply (telemetry : DeviceTelemetry) (call : Rat × TelemetryCall)
    (room : (telemetry.stateHistory ++ telemetry.recorded call).length ≤ EVENT_HISTORY_LIMIT) :
    (telemetry.apply call.1 call.2).stateHistory =
      telemetry.stateHistory ++ telemetry.recorded call := by
  refine Eq.trans ?_ (keepLast_of_length_le EVENT_HISTORY_LIMIT _ room)
  have short : telemetry.stateHistory.length ≤ EVENT_HISTORY_LIMIT := by
    rw [List.length_append] at room
    exact (Nat.le_add_right _ _).trans room
  have kept := keepLast_of_length_le EVENT_HISTORY_LIMIT _ short
  obtain ⟨now, call⟩ := call
  cases call with
  | connectAttempt =>
      rw [recorded, List.append_nil, kept]
      exact (onlineFields_beginOutage telemetry now).2
  | refused reasonCode =>
      rw [recorded, List.append_nil, kept]
      exact (onlineFields_failAttempt _ now reasonCode).2.trans
        (onlineFields_ensureAttempt telemetry now).2
  | connectFailed reason =>
      rw [recorded, List.append_nil, kept]
      exact (onlineFields_failAttempt _ now reason).2.trans
        (onlineFields_ensureAttempt telemetry now).2
  | online =>
      simp only [recorded, apply, upstreamOnline, clearOutageLocked, noteState,
        (onlineFields_beginOutage telemetry now).2]
  | suspended =>
      simp only [recorded, apply, upstreamSuspended, clearOutageLocked]
      by_cases online : telemetry.upstreamState = .online
      · simp only [if_pos online, noteState, stateHistory_noteDuration]
      · rw [if_neg online, if_neg online, List.append_nil, kept]
  | disconnected reason flags =>
      simp only [recorded, apply]
      by_cases online : telemetry.upstreamState = .online
      · simp only [upstreamDisconnected, if_pos online, noteState]
        rw [(onlineFields_beginOutage _ now).2]
        exact congrArg (fun history => keepLast EVENT_HISTORY_LIMIT (history ++ [(now, false)]))
          (stateHistory_noteDuration telemetry now)
      · rw [if_neg online, List.append_nil, kept]
        exact (onlineFields_disconnected telemetry now reason flags online).2

/-- The history after a sequence of calls that fits. -/
theorem stateHistory_run (telemetry : DeviceTelemetry) (calls : List (Rat × TelemetryCall))
    (room : (telemetry.stateHistory ++ recordedAll telemetry calls).length ≤ EVENT_HISTORY_LIMIT) :
    (telemetryMachine.run telemetry calls).stateHistory =
      telemetry.stateHistory ++ recordedAll telemetry calls := by
  induction calls generalizing telemetry with
  | nil => exact (List.append_nil _).symm
  | cons call rest inductionHypothesis =>
      rw [recordedAll, ← List.append_assoc] at room ⊢
      have roomNow : (telemetry.stateHistory ++ telemetry.recorded call).length ≤
          EVENT_HISTORY_LIMIT := by
        rw [List.length_append] at room
        exact (Nat.le_add_right _ _).trans room
      have after : (telemetryMachine.next telemetry call).stateHistory =
          telemetry.stateHistory ++ telemetry.recorded call :=
        stateHistory_apply telemetry call roomNow
      rw [← after] at room ⊢
      exact inductionHypothesis _ room

/-- A method records the state it leaves, unless it leaves the state ONLINE or not ONLINE
as it was. -/
theorem recorded_cases {telemetry : DeviceTelemetry} {call : Rat × TelemetryCall}
    (closes : closesSession telemetry call) :
    telemetry.recorded call =
        [(call.1, decide ((telemetryMachine.next telemetry call).upstreamState = .online))] ∨
      telemetry.recorded call = [] ∧
        decide ((telemetryMachine.next telemetry call).upstreamState = .online) =
          decide (telemetry.upstreamState = .online) := by
  obtain ⟨now, call⟩ := call
  have state : (telemetryMachine.next telemetry (now, call)).upstreamState = call.target :=
    telemetry.upstreamState_apply now call
  rw [state]
  by_cases online : telemetry.upstreamState = .online
  · have looks := closes online
    cases call with
    | connectAttempt => cases looks
    | refused reasonCode => cases looks
    | connectFailed reason => cases looks
    | online => exact Or.inl rfl
    | suspended => exact Or.inl (if_pos online)
    | disconnected reason flags => exact Or.inl (if_pos online)
  · rw [decide_eq_false online]
    cases call with
    | connectAttempt => exact Or.inr ⟨rfl, rfl⟩
    | refused reasonCode => exact Or.inr ⟨rfl, rfl⟩
    | connectFailed reason => exact Or.inr ⟨rfl, rfl⟩
    | online => exact Or.inl rfl
    | suspended => exact Or.inr ⟨if_neg online, rfl⟩
    | disconnected reason flags => exact Or.inr ⟨if_neg online, rfl⟩

/-- The entries tell as much about the time ONLINE as the state after every call. -/
theorem timeOn_recorded {telemetry : DeviceTelemetry} {calls : List (Rat × TelemetryCall)}
    (closes : telemetryMachine.Meets closesSession telemetry calls) (windowStart now since : Rat) :
    timeOn windowStart now (decide (telemetry.upstreamState = .online)) since
        (recordedAll telemetry calls) =
      timeOn windowStart now (decide (telemetry.upstreamState = .online)) since
        (onlineFrom telemetry calls) := by
  induction calls generalizing telemetry since with
  | nil => rfl
  | cons call rest inductionHypothesis =>
      rw [recordedAll, onlineFrom]
      rcases recorded_cases closes.1 with entry | ⟨none, same⟩
      · rw [entry, List.singleton_append, timeOn, timeOn, inductionHypothesis closes.2]
      · rw [none, List.nil_append, same, timeOn_repeat]
        have later := inductionHypothesis closes.2 since
        rw [same] at later
        exact later

theorem recordedAll_sublist (telemetry : DeviceTelemetry) (calls : List (Rat × TelemetryCall))
    (closes : telemetryMachine.Meets closesSession telemetry calls) :
    ((recordedAll telemetry calls).map Prod.fst).Sublist (calls.map Prod.fst) := by
  induction calls generalizing telemetry with
  | nil => exact List.Sublist.refl _
  | cons call rest inductionHypothesis =>
      have later := inductionHypothesis _ closes.2
      rw [recordedAll, List.map_cons]
      rcases recorded_cases closes.1 with entry | ⟨none, same⟩
      · rw [entry]
        exact later.cons_cons call.1
      · rw [none]
        exact later.cons call.1

/-! ## The reported share -/

/-- How long the state was ONLINE within the window, after a sequence of calls. -/
def timeOnline (calls : List (Rat × TelemetryCall)) (windowStart now : Rat) : Rat :=
  timeOn windowStart now false windowStart (onlineFrom {} calls)

/-- An empty part of the history in the window, and no session: no time ONLINE. -/
theorem stateAtStart_of_none {telemetry : DeviceTelemetry} (booked : OnlineBookkeeping telemetry)
    (noSession : telemetry.lastOnlineStartedAt = none) {windowStart : Rat}
    (none : telemetry.stateHistory.filter (fun entry => decide (windowStart ≤ entry.1)) = []) :
    stateAtStart windowStart false telemetry.stateHistory = false := by
  have before : forall entry, entry ∈ telemetry.stateHistory -> entry.1 ≤ windowStart := by
    intro entry member
    have outside := List.filter_eq_nil_iff.mp none entry member
    rw [decide_eq_true_eq] at outside
    exact (not_le.mp outside).le
  have offline : telemetry.upstreamState ≠ .online :=
    fun online => booked.1.mpr online noSession
  rw [stateAtStart_of_before before]
  cases last : telemetry.stateHistory.getLast? with
  | none => rfl
  | some entry =>
      obtain ⟨moment, online⟩ := entry
      cases online with
      | false => rfl
      | true => exact absurd last (((onlineBookkeeping_offline offline).mp booked).2 moment)

/-- What the reported share is computed from, after a sequence of calls. -/
structure SharesHistory (calls : List (Rat × TelemetryCall)) (now : Rat) : Prop where
  ordered : ((telemetryMachine.run {} calls).stateHistory.map Prod.fst).Pairwise (· ≤ ·)
  past : forall entry, entry ∈ (telemetryMachine.run {} calls).stateHistory -> entry.1 ≤ now
  tells : forall windowStart,
    timeOn windowStart now false windowStart (telemetryMachine.run {} calls).stateHistory =
      timeOnline calls windowStart now

theorem sharesHistory_run {calls : List (Rat × TelemetryCall)} {now : Rat}
    (clock : (calls.map Prod.fst ++ [now]).Pairwise (· ≤ ·))
    (closes : telemetryMachine.Meets closesSession {} calls)
    (retained : (recordedAll {} calls).length ≤ EVENT_HISTORY_LIMIT) : SharesHistory calls now := by
  have history : (telemetryMachine.run {} calls).stateHistory = recordedAll {} calls :=
    stateHistory_run {} calls retained
  have within := recordedAll_sublist {} calls closes
  rw [List.pairwise_append] at clock
  refine ⟨?_, ?_, ?_⟩
  · rw [history]
    exact clock.1.sublist within
  · intro entry member
    rw [history] at member
    exact clock.2.2 entry.1 (within.subset (List.mem_map_of_mem member)) now
      List.mem_cons_self
  · intro windowStart
    rw [history]
    exact timeOn_recorded closes windowStart now windowStart

/-- The time ONLINE is a part of the window. -/
theorem timeOnline_bounds {calls : List (Rat × TelemetryCall)} {windowStart now : Rat}
    (shares : SharesHistory calls now) (window : windowStart ≤ now) :
    0 ≤ timeOnline calls windowStart now ∧ timeOnline calls windowStart now ≤ now - windowStart := by
  have atStart : clamp windowStart now windowStart = windowStart := clamp_of_le le_rfl
  have first : forall entry, entry ∈ (telemetryMachine.run {} calls).stateHistory ->
      clamp windowStart now windowStart ≤ clamp windowStart now entry.1 := by
    intro entry member
    rw [atStart]
    exact le_clamp entry.1
  rw [← shares.tells windowStart]
  refine ⟨timeOn_nonneg window false shares.ordered first, ?_⟩
  have most := timeOn_le window false shares.ordered first
  rw [atStart] at most
  exact most

/-- The reported share is the share of the window that the state was ONLINE.  None is
reported only of a window without length or without any time ONLINE. -/
theorem availability_exact (calls : List (Rat × TelemetryCall)) (startedAt now windowSeconds : Rat)
    (clock : (calls.map Prod.fst ++ [now]).Pairwise (· ≤ ·))
    (closes : telemetryMachine.Meets closesSession {} calls)
    (retained : (recordedAll {} calls).length ≤ EVENT_HISTORY_LIMIT) :
    (forall share,
        (telemetryMachine.run {} calls).availabilityLocked startedAt now windowSeconds =
          some share ->
        share = timeOnline calls (max startedAt (now - windowSeconds)) now /
            (now - max startedAt (now - windowSeconds)) ∧ 0 ≤ share ∧ share ≤ 1) ∧
      ((telemetryMachine.run {} calls).availabilityLocked startedAt now windowSeconds = none ->
        now ≤ max startedAt (now - windowSeconds) ∨
          timeOnline calls (max startedAt (now - windowSeconds)) now = 0) := by
  have shares := sharesHistory_run clock closes retained
  have booked := onlineBookkeeping_run closes
  dsimp only [availabilityLocked]
  generalize max startedAt (now - windowSeconds) = windowStart
  have loops := fun window : windowStart ≤ now =>
    (loops_timeOn window shares.ordered shares.past false).trans (shares.tells windowStart)
  split
  · next none =>
      refine ⟨fun share claimed => (by cases claimed), fun _ => ?_⟩
      rcases le_or_gt now windowStart with empty | window
      · exact Or.inl empty
      · right
        have total := loops window.le
        rw [stateAtStart_of_none booked none.2 none.1, none.1] at total
        exact total.symm
  · split
    · next observed =>
        have window : windowStart < now := sub_pos.mp observed
        obtain ⟨nonneg, most⟩ := timeOnline_bounds shares window.le
        refine ⟨?_, fun claimed => by cases claimed⟩
        intro share claimed
        rw [← Option.some.inj claimed, loops window.le]
        exact ⟨rfl, div_nonneg nonneg observed.le, div_le_one_of_le₀ most observed.le⟩
    · next empty =>
        refine ⟨fun share claimed => (by cases claimed), fun _ => ?_⟩
        exact Or.inl (sub_nonpos.mp (not_lt.mp empty))

/-- Ten seconds ONLINE in a window of forty, after the second of two connects. -/
theorem availability_quarter :
    (telemetryMachine.run {} [(0, .connectAttempt), (50, .online), (90, .online),
        (100, .suspended)]).availabilityLocked 0 130 40 = some (1 / 4) ∧
      (1 / 4 : Rat) = timeOnline [(0, .connectAttempt), (50, .online), (90, .online),
        (100, .suspended)] (max 0 (130 - 40)) 130 / (130 - max 0 (130 - 40)) := by
  have share : (telemetryMachine.run {} [(0, .connectAttempt), (50, .online), (90, .online),
      (100, .suspended)]).availabilityLocked 0 130 40 = some (1 / 4) := by
    decide +kernel
  have shown := availability_exact [(0, .connectAttempt), (50, .online), (90, .online),
    (100, .suspended)] 0 130 40 (by decide +kernel) (by decide +kernel) (by decide +kernel)
  exact ⟨share, (shown.1 (1 / 4) share).1⟩

end DeviceTelemetry
end Upstream
end PetlibroRelay
