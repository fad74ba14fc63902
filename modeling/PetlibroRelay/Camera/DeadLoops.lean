import PetlibroRelay.Camera.AttemptCorrelation
import PetlibroRelay.Camera.ReceiveLoop

namespace PetlibroRelay
namespace Camera

open Foundations

/-!
# Receive loops and the records that rely on them

The registry learns from one event that the receive loop of a session has ended.  It
then takes the session away and raises the counter of the record, and no later event
of that attempt counts.  A loop that ends without the event leaves its record
streaming.

The registry runs here together with the loops.  A connector starts the loop of its
attempt before it returns the session, a loop hands its events to the registry one by
one, and only a closed session has the context of its loop canceled.  An attempt is
superseded once its number lies behind the counter, and it stays so.
-/

/-! ## The registry with its receive loops -/

/-- A loop with the events it still has to hand over before its next turn. -/
structure ReceiveLoop where
  sessionId : SessionId
  session : LoopSession
  pending : List SessionEvent := []
  ended : Option LoopEnd := none
  deriving DecidableEq

/-- The loop has ended, and everything it had to say is said. -/
def ReceiveLoop.hasEnded (loop : ReceiveLoop) : Bool :=
  loop.ended.isSome && loop.pending.isEmpty

structure LiveBridge where
  world : World := ({}, [])
  loops : Nat -> Option ReceiveLoop := fun _ => none

inductive LiveAction where
  | bridge (action : BridgeAction)
  | startMediaReceiver (attempt : Nat) (sessionId : SessionId) (session : LoopSession)
  | receive (attempt : Nat) (turn : Turn)
  | report (attempt : Nat) (now : Rat)

namespace LiveBridge

/-- Only loops report a loss, a session is returned after its loop has started, and no
error is returned after that. -/
def allows (live : LiveBridge) : BridgeAction -> Bool
  | .event _ event _ => !event.isLoss
  | .succeed attempt => (live.loops attempt).isSome
  | .fail attempt _ _ => (live.loops attempt).isNone
  | _ => true

def setLoop (live : LiveBridge) (attempt : Nat) (loop : ReceiveLoop) : LiveBridge :=
  { live with loops := fun other => if other = attempt then some loop else live.loops other }

def startLoop (live : LiveBridge) (attempt : Nat) (sessionId : SessionId) (session : LoopSession) :
    Option LiveBridge :=
  match live.world.1.attempts[attempt]?, live.loops attempt with
  | some own, none =>
      if own.outcome = .running then
        some (live.setLoop attempt { sessionId := sessionId, session := session })
      else none
  | _, _ => none

/-- A loop takes its next turn.  Its context is canceled when its session is closed. -/
def takeTurn (transform : Transform) (live : LiveBridge) (attempt : Nat) (turn : Turn) :
    Option LiveBridge :=
  match live.loops attempt with
  | some loop =>
      if loop.pending = [] ∧ loop.ended = none ∧ (turn.received = .canceled ->
          live.world.1.attempts[attempt]?.any Attempt.closed = true) then
        let result := receiveTurn transform loop.sessionId loop.session turn
        some (live.setLoop attempt { loop with
          session := result.session
          pending := result.events
          ended := result.ended })
      else none
  | none => none

/-- A loop hands its next event over. -/
def handOver (live : LiveBridge) (attempt : Nat) (now : Rat) : Option LiveBridge :=
  match live.loops attempt with
  | some loop =>
      match loop.pending with
      | [] => none
      | event :: rest =>
          (bridgeMachine.step live.world (.event attempt event now)).map (fun world =>
            { live.setLoop attempt { loop with pending := rest } with world := world })
  | none => none

end LiveBridge

def liveMachine (transform : Transform) : Machine LiveBridge LiveAction where
  step live
    | .bridge action =>
        if live.allows action then
          (bridgeMachine.step live.world action).map (fun world => { live with world := world })
        else none
    | .startMediaReceiver attempt sessionId session => live.startLoop attempt sessionId session
    | .receive attempt turn => live.takeTurn transform attempt turn
    | .report attempt now => live.handOver attempt now

/-- Every packet that calls for a reply gets one, and attempts of earlier registrations
are told apart. -/
def keepsAlive (transform : Transform) (live : LiveBridge) : LiveAction -> Bool
  | .bridge action => (sender live.world action).all live.world.1.tellsApart
  | .report attempt _ => live.world.1.tellsApart attempt
  | .receive attempt turn =>
      match turn.received with
      | .packet bytes => (live.loops attempt).all (fun loop =>
          !asksReply transform loop.sessionId bytes || turn.sent)
      | _ => true
  | _ => true

/-! ## Superseded attempts -/

/-- The attempt is not the one the record waits for, and will not be. -/
def Superseded (bridge : Bridge) (place : Nat) : Prop :=
  forall record attempt, bridge.device = some record ->
    ownAttempt bridge.registrations bridge.attempts place = some attempt ->
      attempt.number < record.attemptId

/-- What a section may do to the counter and to the attempts.  It may close one session. -/
structure Advances (closing : Option Nat) (before after : Bridge) : Prop where
  labels : forall (place : Nat) (attempt : Attempt), before.attempts[place]? = some attempt ->
    exists own : Attempt, after.attempts[place]? = some own ∧ own.number = attempt.number ∧
      own.registration = attempt.registration
  counter : before.registrations < after.registrations ∨
    after.registrations = before.registrations ∧
      forall own, after.device = some own -> exists record, before.device = some record ∧
        record.attemptId ≤ own.attemptId
  closed : forall (place : Nat) (own : Attempt), after.attempts[place]? = some own ->
    own.closed = true -> closing = some place ∨
      exists attempt : Attempt, before.attempts[place]? = some attempt ∧ attempt.closed = true

section Advancing

variable {closing : Option Nat} {before after : Bridge}

theorem Superseded.advance {place : Nat} {attempt : Attempt}
    (superseded : Superseded before place) (advances : Advances closing before after)
    (found : before.attempts[place]? = some attempt)
    (begun : attempt.registration ≤ before.registrations) : Superseded after place := by
  intro own current present held
  obtain ⟨same, registration⟩ := ownAttempt_eq_some.mp held
  obtain ⟨labelled, at_, number, sameRegistration⟩ := advances.labels place attempt found
  cases at_.symm.trans same
  rcases advances.counter with newer | ⟨equal, grows⟩
  · omega
  · obtain ⟨record, device, below⟩ := grows own present
    rw [number]
    refine Nat.lt_of_lt_of_le (superseded record attempt device ?_) below
    exact ownAttempt_eq_some.mpr ⟨found, by rw [← sameRegistration, registration, equal]⟩

theorem Advances.attempts_same (attempts : after.attempts = before.attempts)
    (counter : before.registrations < after.registrations ∨
      after.registrations = before.registrations ∧
        forall own, after.device = some own -> exists record, before.device = some record ∧
          record.attemptId ≤ own.attemptId) : Advances closing before after where
  labels := by
    rw [attempts]
    exact fun _ attempt found => ⟨attempt, found, rfl, rfl⟩
  counter := counter
  closed := by
    rw [attempts]
    exact fun _ own found closed => Or.inr ⟨own, found, closed⟩

/-- The device is as before. -/
theorem Advances.of_same (registrations : after.registrations = before.registrations)
    (device : after.device = before.device) (attempts : after.attempts = before.attempts) :
    Advances closing before after := by
  refine Advances.attempts_same attempts (Or.inr ⟨registrations, ?_⟩)
  intro own present
  exact ⟨own, device.symm.trans present, Nat.le_refl _⟩

/-- The record has a counter that is at least what it was. -/
theorem Advances.of_record {record own : DeviceRecord}
    (registrations : after.registrations = before.registrations)
    (present : before.device = some record) (device : after.device = some own)
    (attempts : after.attempts = before.attempts) (grows : record.attemptId ≤ own.attemptId) :
    Advances closing before after := by
  refine Advances.attempts_same attempts (Or.inr ⟨registrations, ?_⟩)
  intro other held
  cases held.symm.trans device
  exact ⟨record, present, grows⟩

theorem Advances.modifyAttempt (bridge : Bridge) (place : Nat) {change : Attempt -> Attempt}
    (label : KeepsLabel change)
    (closed : forall attempt : Attempt, (change attempt).closed = true ->
      closing = some place ∨ attempt.closed = true) :
    Advances closing bridge (bridge.modifyAttempt place change) where
  labels := by
    intro other attempt found
    refine ⟨_, getElem?_modify_iff.mpr ⟨attempt, found, rfl⟩, ?_⟩
    split
    · exact ⟨label.number attempt, label.registration attempt⟩
    · exact ⟨rfl, rfl⟩
  counter := Or.inr ⟨rfl, fun own present => ⟨own, present, Nat.le_refl _⟩⟩
  closed := by
    intro other own found isClosed
    obtain ⟨attempt, held, rfl⟩ := getElem?_modify_iff.mp found
    split at isClosed
    · next here =>
        rcases closed attempt isClosed with closing | already
        · exact Or.inl (here ▸ closing)
        · exact Or.inr ⟨attempt, held, already⟩
    · exact Or.inr ⟨attempt, held, isClosed⟩

/-- Two sections, the first of which closes nothing. -/
theorem Advances.trans {middle : Bridge} (first : Advances none before middle)
    (second : Advances closing middle after) : Advances closing before after where
  labels := by
    intro place attempt found
    obtain ⟨own, held, number, registration⟩ := first.labels place attempt found
    obtain ⟨last, at_, lastNumber, lastRegistration⟩ := second.labels place own held
    exact ⟨last, at_, lastNumber.trans number, lastRegistration.trans registration⟩
  counter := by
    rcases first.counter with newer | ⟨equal, grows⟩
    · rcases second.counter with later | ⟨same, -⟩
      · exact Or.inl (Nat.lt_trans newer later)
      · exact Or.inl (same ▸ newer)
    · rcases second.counter with later | ⟨same, further⟩
      · exact Or.inl (equal ▸ later)
      · refine Or.inr ⟨same.trans equal, fun own present => ?_⟩
        obtain ⟨record, held, below⟩ := further own present
        obtain ⟨first, device, earlier⟩ := grows record held
        exact ⟨first, device, Nat.le_trans earlier below⟩
  closed := by
    intro place own found closed
    rcases second.closed place own found closed with closing | ⟨attempt, held, already⟩
    · exact Or.inl closing
    · rcases first.closed place attempt held already with ⟨⟨⟩⟩ | before
      exact Or.inr before

end Advancing

/-! ## What a section does to attempts -/

/-- The section advances, and every session it leaves to be closed is superseded. -/
structure Retires (closing : Option Nat) (bridge : Bridge) (done : Bridge × List Job) : Prop where
  advances : Advances closing bridge done.1
  jobs : forall place, Job.closeSession place ∈ done.2 -> Superseded done.1 place

section Sections

variable {bridge : Bridge} {record : DeviceRecord} {ordered : Prop} {closing : Nat -> Prop}

/-- Where the counter is raised every attempt is superseded. -/
theorem superseded_of_raised (correlated : bridge.Correlates ordered closing)
    (present : bridge.device = some record) {after : Bridge} {own : DeviceRecord}
    (registrations : after.registrations = bridge.registrations) (device : after.device = some own)
    (attempts : after.attempts = bridge.attempts) (raised : record.attemptId < own.attemptId)
    (place : Nat) : Superseded after place := by
  intro other attempt held found
  cases held.symm.trans device
  rw [registrations, attempts] at found
  exact Nat.lt_of_le_of_lt
    (correlated.bounded _ place attempt (sessionView_of_device present) found) raised

/-- An attempt that is not the current one is superseded. -/
theorem superseded_of_unmatched (correlated : bridge.Correlates ordered closing) {place : Nat}
    {attempt : Attempt} (found : bridge.attempts[place]? = some attempt)
    (foreign : bridge.matching attempt.number = none) : Superseded bridge place := by
  intro record own present held
  cases (ownAttempt_eq_some.mp held).1.symm.trans found
  have below := correlated.bounded _ place attempt (sessionView_of_device present) held
  have other := Bridge.matching_eq_none.mp foreign record present
  exact Nat.lt_of_le_of_ne below (Ne.symm other)

theorem retires_disconnected (correlated : bridge.Correlates ordered closing)
    (present : bridge.device = some record) {done : Bridge × List Job} {own : DeviceRecord}
    (registrations : done.1.registrations = bridge.registrations)
    (device : done.1.device = some own) (attempts : done.1.attempts = bridge.attempts)
    (raised : own.attemptId = record.attemptId + 1) :
    Retires none bridge done ∧ forall place, Superseded done.1 place := by
  have all := superseded_of_raised correlated present registrations device attempts
    (raised ▸ Nat.lt_succ_self _)
  refine ⟨⟨Advances.of_record registrations present device attempts ?_, fun place _ => all place⟩,
    all⟩
  omega

theorem attemptId_scheduleReconnect (timers : List Timer) (record : DeviceRecord) :
    (scheduleReconnectLocked timers record).2.attemptId = record.attemptId :=
  congrArg SessionView.attemptId (sessionView_scheduleReconnect timers record)

theorem attemptId_scheduleIdle (timers : List Timer) (record : DeviceRecord) :
    (scheduleIdleDisconnectLocked timers record).2.attemptId = record.attemptId :=
  congrArg SessionView.attemptId (sessionView_scheduleIdle timers record)

theorem retires_loseSession (correlated : bridge.Correlates ordered closing)
    (present : bridge.device = some record) (error : String) (now : Rat) :
    Retires none bridge (bridge.loseSession record error now) ∧
      forall place, Superseded (bridge.loseSession record error now).1 place := by
  obtain ⟨own, device, raised, registrations, attempts⟩ : exists own,
      (bridge.loseSession record error now).1.device = some own ∧
        own.attemptId = record.attemptId + 1 ∧
        (bridge.loseSession record error now).1.registrations = bridge.registrations ∧
        (bridge.loseSession record error now).1.attempts = bridge.attempts := by
    unfold Bridge.loseSession
    dsimp only [Bridge.disconnectLocked]
    split
    · exact ⟨_, rfl, attemptId_scheduleReconnect _ _, rfl, rfl⟩
    · exact ⟨_, rfl, rfl, rfl, rfl⟩
  exact retires_disconnected correlated present registrations device attempts raised

theorem attemptId_observed (record : DeviceRecord) (state : SessionState) (now : Rat) :
    (Bridge.observed record state now).attemptId = record.attemptId := by
  unfold Bridge.observed
  split
  · rfl
  · dsimp only
    split
    · rfl
    · rfl

/-- An event of an attempt.  After a loss the attempt is superseded. -/
theorem retires_transition (correlated : bridge.Correlates ordered closing) {place : Nat}
    {attempt : Attempt} (found : bridge.attempts[place]? = some attempt) (event : SessionEvent)
    (now : Rat) :
    Retires none bridge (bridge.transition attempt.number event now) ∧
      (event.isLoss = true -> Superseded (bridge.transition attempt.number event now).1 place) := by
  unfold Bridge.transition
  split
  · next foreign =>
      refine ⟨⟨Advances.of_same rfl rfl rfl, nofun⟩, fun _ => ?_⟩
      exact superseded_of_unmatched correlated found foreign
  · next record current =>
      obtain ⟨present, -⟩ := Bridge.matching_eq_some.mp current
      split
      · obtain ⟨retires, all⟩ := retires_loseSession correlated present event.error now
        exact ⟨retires, fun _ => all place⟩
      · next noLoss =>
          refine ⟨⟨Advances.of_record rfl present rfl rfl ?_, nofun⟩, fun loss => absurd loss noLoss⟩
          exact Nat.le_of_eq (attemptId_observed record event.state now).symm

theorem retires_emit (correlated : bridge.Correlates ordered closing) (place : Nat)
    (event : SessionEvent) (now : Rat) :
    Retires none bridge (bridge.emit place event now) ∧
      (event.isLoss = true -> Superseded (bridge.emit place event now).1 place) := by
  unfold Bridge.emit
  split
  · next missing =>
      refine ⟨⟨Advances.of_same rfl rfl rfl, nofun⟩, fun _ record attempt _ held => ?_⟩
      rw [ownAttempt, missing] at held
      cases held
  · next attempt found =>
      obtain ⟨retires, lost⟩ := retires_transition (correlates_emitted correlated place event)
        (attempts_emitted found event) event now
      have first : Advances none bridge (bridge.modifyAttempt place (Attempt.emitted event)) :=
        Advances.modifyAttempt bridge place (keepsLabel_emitted event)
          (fun _ closed => Or.inr closed)
      exact ⟨⟨first.trans retires.advances, retires.jobs⟩, lost⟩

theorem retires_succeed (correlated : bridge.Correlates ordered closing) {place : Nat}
    {done : Bridge × List Job} (succeeded : bridge.succeedAttempt place = some done) :
    Retires none bridge done := by
  obtain ⟨attempt, found, -, rfl⟩ := Bridge.succeedAttempt_eq_some succeeded
  have label := Correlated.keepsLabel_outcome .returned
  have first : Advances none bridge (bridge.modifyAttempt place (fun current =>
      { current with outcome := .returned })) :=
    Advances.modifyAttempt bridge place label (fun _ closed => Or.inr closed)
  unfold Bridge.connected
  split
  · next foreign =>
      refine ⟨first, fun other member => ?_⟩
      cases List.mem_singleton.mp member
      -- the attempt keeps its number, so it is superseded after as it was before
      exact (superseded_of_unmatched correlated found foreign).advance first found
        (correlated.begun place attempt found)
  · next record current =>
      obtain ⟨present, -⟩ := Bridge.matching_eq_some.mp current
      refine ⟨first.trans (Advances.of_record rfl present rfl rfl (Nat.le_refl _)), ?_⟩
      intro other member
      split at member
      · cases List.mem_singleton.mp member
      · cases member

theorem retires_fail {place : Nat} {error : String} {now : Rat} {after : Bridge}
    (failed : bridge.failAttempt place error now = some after) :
    Retires none bridge (after, []) := by
  obtain ⟨attempt, -, -, rfl⟩ := Bridge.failAttempt_eq_some failed
  have label := Correlated.keepsLabel_outcome .failed
  have first : Advances none bridge (bridge.modifyAttempt place (fun current =>
      { current with outcome := .failed })) :=
    Advances.modifyAttempt bridge place label (fun _ closed => Or.inr closed)
  refine ⟨first.trans ?_, nofun⟩
  unfold Bridge.fail
  split
  · exact Advances.of_same rfl rfl rfl
  · next record current =>
      obtain ⟨present, -⟩ := Bridge.matching_eq_some.mp current
      dsimp only
      split
      · refine Advances.of_record rfl present rfl rfl ?_
        rw [attemptId_scheduleReconnect]
      · exact Advances.of_record rfl present rfl rfl (Nat.le_refl _)

theorem retires_upsert (bridge : Bridge) (uid : String) (ip : Option String) (now : Rat) :
    Retires none bridge (bridge.upsert uid ip now, []) := by
  refine ⟨?_, nofun⟩
  unfold Bridge.upsert
  split
  · split
    · exact Advances.attempts_same rfl (Or.inl (Nat.lt_succ_self _))
    · next record present => exact Advances.of_record rfl present rfl rfl (Nat.le_refl _)
  · exact Advances.of_same rfl rfl rfl

theorem retires_delete (bridge : Bridge) : Retires none bridge bridge.delete := by
  unfold Bridge.delete
  split
  · exact ⟨Advances.of_same rfl rfl rfl, nofun⟩
  · refine ⟨Advances.attempts_same rfl (Or.inr ⟨rfl, ?_⟩), ?_⟩
    · rintro own ⟨⟩
    · rintro place - own attempt ⟨⟩

theorem advances_connect (bridge : Bridge) : Advances none bridge bridge.connect := by
  unfold Bridge.connect
  split
  · exact Advances.of_same rfl rfl rfl
  · next record present =>
      split
      · exact Advances.of_same rfl rfl rfl
      · refine ⟨?_, Or.inr ⟨rfl, ?_⟩, ?_⟩
        · intro place attempt found
          refine ⟨attempt, ?_, rfl, rfl⟩
          rw [List.getElem?_append_left (List.getElem?_eq_some_iff.mp found).1, found]
        · rintro _ ⟨⟩
          exact ⟨record, present, Nat.le_succ _⟩
        · intro place own found closed
          refine Or.inr ⟨own, ?_, closed⟩
          by_cases early : place < bridge.attempts.length
          · rw [List.getElem?_append_left early] at found
            exact found
          · obtain ⟨fresh⟩ := List.mem_singleton.mp (List.mem_of_getElem?
              ((List.getElem?_append_right (Nat.le_of_not_lt early)).symm.trans found))
            cases closed

theorem retires_disconnect (correlated : bridge.Correlates ordered closing) (now : Rat) :
    Retires none bridge (bridge.disconnect now) := by
  unfold Bridge.disconnect
  split
  · exact ⟨Advances.of_same rfl rfl rfl, nofun⟩
  · next record present => exact (retires_disconnected correlated present rfl rfl rfl rfl).1

theorem retires_disconnectIfIdle (correlated : bridge.Correlates ordered closing) (now : Rat) :
    Retires none bridge (bridge.disconnectIfIdle now) := by
  unfold Bridge.disconnectIfIdle
  split
  · exact ⟨Advances.of_same rfl rfl rfl, nofun⟩
  · next record present =>
      split
      · exact ⟨Advances.of_same rfl rfl rfl, nofun⟩
      · exact (retires_disconnected correlated present rfl rfl rfl rfl).1

theorem advances_cancelIdleDisconnect (bridge : Bridge) :
    Advances none bridge bridge.cancelIdleDisconnect := by
  unfold Bridge.cancelIdleDisconnect
  split
  · exact Advances.of_same rfl rfl rfl
  · next record present =>
      split
      · exact Advances.of_record rfl present rfl rfl (Nat.le_refl _)
      · exact Advances.of_same rfl rfl rfl

/-- Jobs about audio close nothing. -/
theorem retires_of_audio {done : Bridge × List Job} (advances : Advances none bridge done.1)
    (jobs : forall job, job ∈ done.2 -> forall place, job ≠ .closeSession place) :
    Retires none bridge done :=
  ⟨advances, fun place member => absurd rfl (jobs _ member place)⟩

theorem retires_reconnectIfConsumed (bridge : Bridge) :
    Retires none bridge bridge.reconnectIfConsumed := by
  unfold Bridge.reconnectIfConsumed
  split
  · exact ⟨Advances.of_same rfl rfl rfl, nofun⟩
  · next record present =>
      refine retires_of_audio (Advances.of_record rfl present rfl rfl (Nat.le_refl _)) ?_
      intro job member
      split at member
      · rw [List.mem_singleton.mp member]
        exact nofun
      · cases member

theorem retires_countConsumer (bridge : Bridge) (attached : Bool) (now : Rat) :
    Retires none bridge (bridge.countConsumer attached now) := by
  unfold Bridge.countConsumer
  split
  · exact ⟨Advances.of_same rfl rfl rfl, nofun⟩
  · next record present =>
      split
      · refine retires_of_audio (Advances.of_record rfl present rfl rfl (Nat.le_refl _)) ?_
        intro job member
        rcases List.mem_append.mp member with audio | last
        · obtain ⟨session, -, rfl⟩ := List.mem_map.mp audio
          exact nofun
        · rw [List.mem_singleton.mp last]
          exact nofun
      · exact ⟨Advances.of_same rfl rfl rfl, nofun⟩

theorem retires_releaseMediaConsumer (bridge : Bridge) (now : Rat) :
    Retires none bridge (bridge.releaseMediaConsumer now) := by
  unfold Bridge.releaseMediaConsumer
  split
  · exact ⟨Advances.of_same rfl rfl rfl, nofun⟩
  · next record present =>
      split
      · dsimp only
        split
        · refine retires_of_audio (Advances.of_record rfl present rfl rfl ?_) ?_
          · rw [attemptId_scheduleIdle]
          · intro job member
            obtain ⟨session, -, rfl⟩ := List.mem_map.mp member
            exact nofun
        · exact ⟨Advances.of_record rfl present rfl rfl (Nat.le_refl _), nofun⟩
      · exact ⟨Advances.of_same rfl rfl rfl, nofun⟩

theorem retires_call {action : BridgeAction} {done : Bridge × List Job}
    (correlated : bridge.Correlates ordered closing) (started : bridge.call action = some done) :
    Retires none bridge done := by
  cases action with
  | advance thread environment => cases started
  | upsert uid ip now =>
      cases started
      exact retires_upsert bridge uid ip now
  | delete =>
      cases started
      exact retires_delete bridge
  | connect =>
      cases started
      exact ⟨advances_connect bridge, nofun⟩
  | disconnect now =>
      cases started
      exact retires_disconnect correlated now
  | addMediaConsumer =>
      cases started
      refine retires_of_audio (Advances.of_same rfl rfl rfl) ?_
      simp only [List.mem_cons, List.not_mem_nil, or_false]
      rintro job (rfl | rfl)
      · exact nofun
      · exact nofun
  | release number =>
      obtain ⟨function, -, -, rfl⟩ := Bridge.callRelease_eq_some started
      exact retires_of_audio (Advances.of_same rfl rfl rfl) (List.forall_mem_singleton.mpr nofun)
  | fire number =>
      obtain ⟨timer, -, -, rfl⟩ := Bridge.fireTimer_eq_some started
      refine retires_of_audio (Advances.of_same rfl rfl rfl) (List.forall_mem_singleton.mpr ?_)
      cases timer.kind with
      | idle => exact nofun
      | reconnect => exact nofun
  | event attempt event now =>
      cases started
      exact (retires_emit correlated attempt event now).1
  | succeed attempt => exact retires_succeed correlated started
  | fail attempt error now =>
      obtain ⟨after, failed, rfl⟩ := Option.map_eq_some_iff.mp started
      exact retires_fail failed

/-- The session a job closes. -/
def Job.closes : Job -> Option Nat
  | .closeSession session => some session
  | _ => none

theorem retires_perform (correlated : bridge.Correlates ordered closing)
    (environment : Environment) (job : Job) :
    Retires job.closes bridge (perform bridge environment job) := by
  have marks : forall (place : Nat) (change : Attempt -> Attempt) (jobs : List Job),
      KeepsLabel change -> (forall attempt, (change attempt).closed = attempt.closed) ->
      (forall job, job ∈ jobs -> forall other, job ≠ .closeSession other) ->
      Retires none bridge (bridge.modifyAttempt place change, jobs) := by
    intro place change jobs label closed plain
    refine retires_of_audio (Advances.modifyAttempt bridge place label ?_) plain
    intro attempt isClosed
    exact Or.inr ((closed attempt).symm.trans isClosed)
  cases job with
  | cancelIdleDisconnect => exact ⟨advances_cancelIdleDisconnect bridge, by rintro _ ⟨⟩⟩
  | connectConsumer =>
      refine retires_of_audio (advances_connect bridge) ?_
      intro job member
      rw [perform] at member
      split at member
      · rw [List.mem_singleton.mp member]
        rintro _ ⟨⟩
      · cases member
  | countConsumer => exact retires_countConsumer bridge _ _
  | handOut => exact ⟨Advances.of_same rfl rfl rfl, by rintro _ ⟨⟩⟩
  | releaseMediaConsumer registration => exact retires_releaseMediaConsumer bridge _
  | disconnectIfIdle => exact retires_disconnectIfIdle correlated _
  | reconnectIfConsumed => exact retires_reconnectIfConsumed bridge
  | reconnect => exact ⟨advances_connect bridge, by rintro _ ⟨⟩⟩
  | stopTimer timer => exact ⟨Advances.of_same rfl rfl rfl, by rintro _ ⟨⟩⟩
  | cancelAttempt attempt =>
      exact marks attempt _ [] ⟨fun _ => rfl, fun _ => rfl⟩ (fun _ => rfl) (List.forall_mem_nil _)
  | closeSession session =>
      rw [perform, Bridge.closeSession]
      split
      · exact ⟨Advances.of_same rfl rfl rfl, by rintro _ ⟨⟩⟩
      · refine ⟨Advances.modifyAttempt bridge session ⟨fun _ => rfl, fun _ => rfl⟩
          (fun _ _ => Or.inl rfl), ?_⟩
        intro place member
        cases List.mem_singleton.mp member
  | startAudio session =>
      rw [perform, Bridge.startAudio]
      split
      · exact ⟨Advances.of_same rfl rfl rfl, by rintro _ ⟨⟩⟩
      · exact marks session _ _ ⟨fun _ => rfl, fun _ => rfl⟩ (fun _ => rfl)
          (List.forall_mem_singleton.mpr (by rintro _ ⟨⟩))
  | stopAudio session =>
      rw [perform, Bridge.stopAudio]
      split
      · exact ⟨Advances.of_same rfl rfl rfl, by rintro _ ⟨⟩⟩
      · exact marks session _ _ ⟨fun _ => rfl, fun _ => rfl⟩ (fun _ => rfl)
          (List.forall_mem_singleton.mpr (by rintro _ ⟨⟩))
  | emitStreaming session => exact (retires_emit correlated session _ _).1

end Sections

/-! ## Runs of the registry -/

/-- The session of every attempt that is closed, or is being closed, is superseded. -/
structure Retired (world : World) : Prop where
  correlated : WorldCorrelated False world
  jobs : Threads.AllPending (fun job => forall place, job = .closeSession place ->
    Superseded world.1 place) world.2
  closed : forall (place : Nat) (attempt : Attempt), world.1.attempts[place]? = some attempt ->
    attempt.closed = true -> Superseded world.1 place

theorem retired_initial : Retired ({}, []) := by
  refine ⟨worldCorrelated_initial False, nofun, ?_⟩
  intro place attempt found
  rw [List.getElem?_nil] at found
  cases found

/-- What is superseded stays so. -/
theorem Retired.advance {world : World} {closing : Option Nat} {after : Bridge} {place : Nat}
    {attempt : Attempt} (retired : Retired world) (advances : Advances closing world.1 after)
    (found : world.1.attempts[place]? = some attempt) (superseded : Superseded world.1 place) :
    Superseded after place :=
  superseded.advance advances found (retired.correlated.state.begun place attempt found)

theorem Retired.jobs_advance {world : World} {closing : Option Nat} {after : Bridge}
    (retired : Retired world) (advances : Advances closing world.1 after) :
    Threads.AllPending (fun job => forall place, job = .closeSession place ->
      Superseded after place) world.2 := by
  rintro thread member job pending place rfl
  obtain ⟨attempt, found, -⟩ := retired.correlated.jobs thread member _ pending place rfl
  exact retired.advance advances found (retired.jobs thread member _ pending place rfl)

/-- One step of the registry. -/
structure Steps (world after : World) : Prop where
  retired : Retired after
  lasting : forall (place : Nat) (attempt : Attempt), world.1.attempts[place]? = some attempt ->
    (exists own : Attempt, after.1.attempts[place]? = some own) ∧
      (Superseded world.1 place -> Superseded after.1 place)

theorem steps_of_step {world after : World} {action : BridgeAction} (retired : Retired world)
    (apart : forall place, sender world action = some place -> world.1.tellsApart place = true)
    (moved : bridgeMachine.step world action = some after) : Steps world after := by
  have correlated := worldCorrelated_step retired.correlated apart False.elim moved
  have lasting : forall {closing : Option Nat}, Advances closing world.1 after.1 ->
      forall (place : Nat) (attempt : Attempt), world.1.attempts[place]? = some attempt ->
        (exists own : Attempt, after.1.attempts[place]? = some own) ∧
          (Superseded world.1 place -> Superseded after.1 place) := by
    intro closing advances place attempt found
    obtain ⟨own, held, -⟩ := advances.labels place attempt found
    exact ⟨⟨own, held⟩, retired.advance advances found⟩
  cases worldStep_of_step moved with
  | @called _ done started =>
      have retires := retires_call retired.correlated.state started
      refine ⟨⟨correlated, (retired.jobs_advance retires.advances).concat ?_, ?_⟩,
        lasting retires.advances⟩
      · rintro job member place rfl
        exact retires.jobs place member
      · intro place attempt found closed
        rcases retires.advances.closed place attempt found closed with ⟨⟨⟩⟩ | ⟨before, held, already⟩
        exact retired.advance retires.advances held (retired.closed place before held already)
  | @advanced thread environment job rest found =>
      have retires := retires_perform retired.correlated.state environment job
      refine ⟨⟨correlated, (retired.jobs_advance retires.advances).continued found ?_, ?_⟩,
        lasting retires.advances⟩
      · rintro next member place rfl
        exact retires.jobs place member
      · intro place attempt held closed
        rcases retires.advances.closed place attempt held closed with closing | ⟨before, at_, already⟩
        · -- the job itself closes the session, and it was superseded while it was pending
          cases job with
          | closeSession session =>
              obtain rfl : session = place := Option.some.inj closing
              obtain ⟨before, at_, -⟩ := retired.correlated.jobs.head found session rfl
              exact retired.advance retires.advances at_ (retired.jobs.head found session rfl)
          | _ => cases closing
        · exact retired.advance retires.advances at_ (retired.closed place before at_ already)

/-! ## Runs with receive loops -/

/-- Every loop belongs to an attempt, and a loop that has ended is superseded or still
has its loss to report. -/
structure LoopsAlive (live : LiveBridge) : Prop where
  retired : Retired live.world
  attempts : forall place loop, live.loops place = some loop ->
    exists attempt : Attempt, live.world.1.attempts[place]? = some attempt
  ended : forall place loop, live.loops place = some loop -> loop.ended.isSome = true ->
    Superseded live.world.1 place ∨
      exists event, event ∈ loop.pending ∧ event.isLoss = true

theorem loopsAlive_initial : LoopsAlive {} := by
  refine ⟨retired_initial, ?_, ?_⟩
  · rintro place loop ⟨⟩
  · rintro place loop ⟨⟩

theorem setLoop_eq {live : LiveBridge} {attempt place : Nat} {loop found : ReceiveLoop}
    (held : (live.setLoop attempt loop).loops place = some found) :
    (place = attempt ∧ found = loop) ∨ (place ≠ attempt ∧ live.loops place = some found) := by
  by_cases here : place = attempt
  · simp only [LiveBridge.setLoop, if_pos here, Option.some_inj] at held
    exact Or.inl ⟨here, held.symm⟩
  · simp only [LiveBridge.setLoop, if_neg here] at held
    exact Or.inr ⟨here, held⟩

/-- A step of the registry that no loop takes part in. -/
theorem LoopsAlive.steps {live : LiveBridge} {world : World} (alive : LoopsAlive live)
    (steps : Steps live.world world) : LoopsAlive { live with world := world } := by
  refine ⟨steps.retired, ?_, ?_⟩
  · intro place loop held
    obtain ⟨attempt, found⟩ := alive.attempts place loop held
    exact (steps.lasting place attempt found).1
  · intro place loop held ended
    obtain ⟨attempt, found⟩ := alive.attempts place loop held
    exact (alive.ended place loop held ended).imp_left (steps.lasting place attempt found).2

/-- A loop of the registry as it is changes. -/
theorem LoopsAlive.setLoop {live : LiveBridge} (alive : LoopsAlive live) {attempt : Nat}
    {loop : ReceiveLoop}
    (started : exists own : Attempt, live.world.1.attempts[attempt]? = some own)
    (ended : loop.ended.isSome = true -> Superseded live.world.1 attempt ∨
      exists event, event ∈ loop.pending ∧ event.isLoss = true) :
    LoopsAlive (live.setLoop attempt loop) := by
  refine ⟨alive.retired, ?_, ?_⟩
  · intro place other held
    rcases setLoop_eq held with ⟨rfl, -⟩ | ⟨-, before⟩
    · exact started
    · exact alive.attempts place other before
  · intro place other held isEnded
    rcases setLoop_eq held with ⟨rfl, rfl⟩ | ⟨-, before⟩
    · exact ended isEnded
    · exact alive.ended place other before isEnded

theorem loopsAlive_startLoop {live after : LiveBridge} {attempt : Nat} {sessionId : SessionId}
    {session : LoopSession} (alive : LoopsAlive live)
    (moved : live.startLoop attempt sessionId session = some after) : LoopsAlive after := by
  unfold LiveBridge.startLoop at moved
  split at moved
  · next own found absent =>
      split at moved
      · cases moved
        exact alive.setLoop ⟨own, found⟩ nofun
      · cases moved
  · cases moved

/-- A loop takes a turn.  It goes on, or it is superseded, or it has a loss to report. -/
theorem loopsAlive_takeTurn {transform : Transform} {live after : LiveBridge} {attempt : Nat}
    {turn : Turn} (alive : LoopsAlive live)
    (answered : keepsAlive transform live (.receive attempt turn) = true)
    (moved : live.takeTurn transform attempt turn = some after) : LoopsAlive after := by
  unfold LiveBridge.takeTurn at moved
  split at moved
  · next loop held =>
      split at moved
      · next waiting =>
          cases moved
          refine alive.setLoop (alive.attempts attempt loop held) ?_
          intro ended
          cases received : turn.received with
          | canceled =>
              obtain ⟨own, found, closed⟩ := Option.any_eq_true _ _ |>.mp (waiting.2.2 received)
              exact Or.inl (alive.retired.closed attempt own found closed)
          | error text =>
              refine Or.inr ⟨lossEvent text, ?_, rfl⟩
              simp only [receiveTurn, received]
              exact List.mem_singleton.mpr rfl
          | packet bytes =>
              have goes := @goes_handleDatagram transform loop.sessionId
                (loop.session.meanwhile turn) turn bytes
              have on := goes.ended
              simp only [keepsAlive, received, held, Option.all_some] at answered
              simp only [receiveTurn, received] at ended
              have replied : (asksReply transform loop.sessionId bytes && !turn.sent) = false := by
                rw [← Bool.not_not (_ && _), Bool.not_and, Bool.not_not, answered]
                rfl
              rw [on, replied] at ended
              cases ended
      · cases moved
  · cases moved

/-- A loop hands an event over.  After a loss its attempt is superseded. -/
theorem loopsAlive_handOver {transform : Transform} {live after : LiveBridge} {attempt : Nat}
    {now : Rat} (alive : LoopsAlive live)
    (apart : keepsAlive transform live (.report attempt now) = true)
    (moved : live.handOver attempt now = some after) : LoopsAlive after := by
  unfold LiveBridge.handOver at moved
  split at moved
  · next loop held =>
      split at moved
      · cases moved
      · next event rest waiting =>
          obtain ⟨world, stepped, rfl⟩ := Option.map_eq_some_iff.mp moved
          have steps : Steps live.world world := by
            refine steps_of_step alive.retired ?_ stepped
            intro place sent
            cases sent
            exact apart
          have lost : event.isLoss = true -> Superseded world.1 attempt := by
            intro loss
            simp only [bridgeMachine, Bridge.call, Option.map_some, Option.some.injEq] at stepped
            rw [← stepped]
            exact (retires_emit alive.retired.correlated.state attempt event now).2 loss
          refine (alive.steps steps).setLoop ?_ ?_
          · obtain ⟨own, found⟩ := alive.attempts attempt loop held
            exact (steps.lasting attempt own found).1
          · intro ended
            obtain ⟨own, found⟩ := alive.attempts attempt loop held
            rcases alive.ended attempt loop held ended with superseded | ⟨other, member, loss⟩
            · exact Or.inl ((steps.lasting attempt own found).2 superseded)
            · rw [waiting] at member
              rcases List.mem_cons.mp member with rfl | later
              · exact Or.inl (lost loss)
              · exact Or.inr ⟨other, later, loss⟩
  · cases moved

theorem loopsAlive_step {transform : Transform} {live after : LiveBridge} {action : LiveAction}
    (alive : LoopsAlive live) (keeps : keepsAlive transform live action = true)
    (moved : (liveMachine transform).step live action = some after) : LoopsAlive after := by
  cases action with
  | bridge action =>
      simp only [liveMachine] at moved
      split at moved
      · obtain ⟨world, stepped, rfl⟩ := Option.map_eq_some_iff.mp moved
        refine alive.steps (steps_of_step alive.retired ?_ stepped)
        intro place sent
        rw [keepsAlive, sent, Option.all_some] at keeps
        exact keeps
      · cases moved
  | startMediaReceiver attempt sessionId session => exact loopsAlive_startLoop alive moved
  | receive attempt turn => exact loopsAlive_takeTurn alive keeps moved
  | report attempt now => exact loopsAlive_handOver alive keeps moved

/-! ## Dead loops and their records -/

/-- The session is that of the record, or will be when its attempt returns. -/
def Bridge.servesRecord (bridge : Bridge) (record : DeviceRecord) (place : Nat) : Prop :=
  record.session = some place ∨
    exists attempt, ownAttempt bridge.registrations bridge.attempts place = some attempt ∧
      attempt.number = record.attemptId

/-- No record goes on streaming after the loop of its session has ended. -/
def NoDeadStream (live : LiveBridge) : Prop :=
  forall record, live.world.1.device = some record -> record.connectionState = .streaming ->
    record.connectActive = true -> forall place loop, live.world.1.servesRecord record place ->
      live.loops place = some loop -> loop.hasEnded = false

theorem LoopsAlive.noDeadStream {live : LiveBridge} (alive : LoopsAlive live) :
    NoDeadStream live := by
  intro record present _ _ place loop serves held
  obtain ⟨attempt, own, number⟩ : exists attempt,
      ownAttempt live.world.1.registrations live.world.1.attempts place = some attempt ∧
        attempt.number = record.attemptId := by
    rcases serves with session | current
    · obtain ⟨attempt, own, number, -⟩ := alive.retired.correlated.state.owned _ place
        (sessionView_of_device present) session
      exact ⟨attempt, own, number⟩
    · exact current
  cases dead : loop.hasEnded with
  | false => rfl
  | true =>
      rw [ReceiveLoop.hasEnded, Bool.and_eq_true, List.isEmpty_iff] at dead
      rcases alive.ended place loop held dead.1 with superseded | ⟨event, member, -⟩
      · exact absurd number (Nat.ne_of_lt (superseded record attempt present own))
      · rw [dead.2] at member
        cases member

/-- A loop that ends without being canceled has reported exactly one loss if and only if
every reply it owed was sent.  In every run in which this is so, and in which attempts
of earlier registrations are told apart, no record goes on streaming after the loop of
its session has ended. -/
theorem dead_receive_loops_reported (transform : Transform) :
    (forall (sessionId : SessionId) (session : LoopSession) (turns : List Turn),
        ReportsItsEnd (mediaReceiver transform sessionId session turns) ↔
          repliesSent transform sessionId turns = true) ∧
    forall actions : List LiveAction,
      (liveMachine transform).Meets (fun live action => keepsAlive transform live action = true) {}
        actions -> NoDeadStream ((liveMachine transform).run {} actions) := by
  constructor
  · intro sessionId session turns
    exact reportsItsEnd_iff session turns
  · intro actions keeps
    refine LoopsAlive.noDeadStream ?_
    refine Machine.run_invariant_of_meets _ _ LoopsAlive ?_ {} actions loopsAlive_initial keeps
    intro live action after alive condition moved
    exact loopsAlive_step alive condition moved

/-- Packets are given as they are once the transform is undone. -/
def exampleTransform : Transform where
  transCodePartial := id
  reverseTransCodePartial := id

def exampleSessionId : SessionId := Vector.replicate 8 1

/-- A keepalive of the device. -/
def keepalivePacket : Packet :=
  [0x04, 0x02, 0x1B, 0x0A, 8, 0, 0, 0, 0x28, 0x04, 0x12, 0x00] ++ List.replicate 12 0

/-- A connected session that streams. -/
def connecting : List LiveAction :=
  [.bridge (.upsert exampleUid none 0), .bridge .connect,
    .startMediaReceiver 0 exampleSessionId {},
    .bridge (.event 0 (streamingEvent "bootstrap") 1), .bridge (.succeed 0)]

/-- A keepalive cannot be answered.  The loop ends, says nothing of it, and the record
goes on streaming without a loop. -/
theorem unsent_keepalive_leaves_dead_stream :
    let turn : Turn := { received := .packet keepalivePacket, sent := false }
    let run := mediaReceiver exampleTransform exampleSessionId {} [turn]
    let live := (liveMachine exampleTransform).run {}
      (connecting ++ [.receive 0 turn, .report 0 2])
    ¬ ReportsItsEnd run ∧ ¬ NoDeadStream live := by
  intro turn run live
  constructor
  · intro reports
    have ended : run.ended = some .replyFailed := by decide
    have silent : run.events.countP SessionEvent.isLoss = 0 := by decide
    cases silent.symm.trans (reports .replyFailed ended nofun)
  · intro none
    have dead : (live.loops 0).any ReceiveLoop.hasEnded = true := by decide
    have streams : live.world.1.device.any (fun record =>
        decide (record.connectionState = .streaming) && record.connectActive &&
          decide (record.session = some 0)) = true := by decide
    obtain ⟨loop, held, ended⟩ := Option.any_eq_true _ _ |>.mp dead
    obtain ⟨record, present, facts⟩ := Option.any_eq_true _ _ |>.mp streams
    rw [Bool.and_eq_true, Bool.and_eq_true, decide_eq_true_eq, decide_eq_true_eq] at facts
    have alive := none record present facts.1.1 facts.1.2 0 loop (Or.inl facts.2) held
    cases alive.symm.trans ended

/-- The keepalive is answered, and the receive error after it is reported. -/
theorem reported_error_leaves_no_dead_stream :
    let turns : List Turn := [{ received := .packet keepalivePacket }, { received := .error "reset" }]
    let run := mediaReceiver exampleTransform exampleSessionId {} turns
    let live := (liveMachine exampleTransform).run {}
      (connecting ++ (turns.map (LiveAction.receive 0)).flatMap (fun action =>
        [action, .report 0 2, .report 0 2]))
    run.ended = some .receiveFailed ∧ ReportsItsEnd run ∧
      (live.loops 0).any ReceiveLoop.hasEnded = true ∧ NoDeadStream live :=
  ⟨by decide, ((dead_receive_loops_reported exampleTransform).1 _ _ _).mpr (by decide), by decide,
    (dead_receive_loops_reported exampleTransform).2 _ (by decide)⟩

end Camera
end PetlibroRelay
