import PetlibroRelay.Camera.CameraRegistry

namespace PetlibroRelay
namespace Camera

open Foundations

/-!
# Audio and the consumers it is for

A call that counts a consumer, or takes one away, decides under the lock whether audio
is to be started or stopped, and does so after it has given the lock up.  Between the
two any number of other calls may be decided and carried out.

What has to hold in between is that a start is still to come where audio is missing,
and a stop where it is not wanted.  A stop that is carried out for consumers who came
after its decision breaks this, unless a start is still to come, and so does a start
for consumers who have left, unless a stop is still to come.
-/

/-! ## Calls of consumers -/

/-- The part of a record that decides about audio. -/
structure AudioView where
  consumers : Nat
  session : Option Nat
  connectActive : Bool
  deriving DecidableEq, Repr

def DeviceRecord.audioView (record : DeviceRecord) : AudioView where
  consumers := record.mediaConsumers
  session := record.session
  connectActive := record.connectActive

/-- How many starts of a session are still to be carried out. -/
def pendingStarts (session : Nat) (threads : List (List Job)) : Nat :=
  Threads.pendingCount (fun job => decide (job = .startAudio session)) threads

/-- How many stops of a session are still to be carried out. -/
def pendingStops (session : Nat) (threads : List (List Job)) : Nat :=
  Threads.pendingCount (fun job => decide (job = .stopAudio session)) threads

/-- The jobs of `addMediaConsumer` and `releaseMediaConsumer` under the lock. -/
def Job.isOfConsumer : Job -> Bool
  | .cancelIdleDisconnect => true
  | .connectConsumer => true
  | .countConsumer => true
  | .handOut => true
  | .releaseMediaConsumer _ => true
  | _ => false

/-- The jobs of the same calls, with those at the session. -/
def Job.servesConsumer (session : Nat) (job : Job) : Bool :=
  job.isOfConsumer || decide (job = .startAudio session) || decide (job = .stopAudio session) ||
    decide (job = .emitStreaming session)

/-- Only consumers come and go, and every message is sent. -/
def isConsumerStep : BridgeAction -> Bool
  | .addMediaConsumer => true
  | .release _ => true
  | .advance _ environment => environment.sent
  | _ => false

def Bridge.isConsumed (bridge : Bridge) : Bool :=
  bridge.device.any (fun record => decide (0 < record.mediaConsumers))

/-- A stop is carried out while there are consumers only if a start is still to come,
and a start while there is none only if a stop is. -/
def inTurn (session : Nat) (world : World) : BridgeAction -> Bool
  | .advance thread _ =>
      match Threads.nextJob world.2 thread with
      | some (.stopAudio _) =>
          !world.1.isConsumed || decide (0 < pendingStarts session world.2)
      | some (.startAudio _) =>
          world.1.isConsumed || decide (0 < pendingStops session world.2)
      | _ => true
  | _ => true

/-! ## The invariant -/

/-- Where audio is missing a start is to come, where it is not wanted a stop is. -/
structure InStep (consumers : Nat) (audio : Bool) (starts stops : Nat) : Prop where
  wanted : 0 < consumers -> audio = true ∨ 0 < starts
  unwanted : consumers = 0 -> audio = false ∨ 0 < stops

namespace InStep

variable {consumers starts stops : Nat} {audio : Bool}

/-- Another consumer, and a start for it. -/
theorem counted : InStep (consumers + 1) audio (starts + 1) stops where
  wanted := fun _ => Or.inr (Nat.succ_pos _)
  unwanted := nofun

/-- A consumer leaves, and a stop comes with the last one. -/
theorem released (inStep : InStep (consumers + 1) audio starts stops) {more : Nat}
    (last : consumers = 0 -> 0 < more) : InStep consumers audio starts (stops + more) where
  wanted := fun _ => inStep.wanted (Nat.succ_pos _)
  unwanted := fun nobody => Or.inr (Nat.lt_of_lt_of_le (last nobody) (Nat.le_add_left _ _))

/-- A start is carried out. -/
theorem started (turn : 0 < consumers ∨ 0 < stops) : InStep consumers true starts stops where
  wanted := fun _ => Or.inl rfl
  unwanted := by
    intro nobody
    rcases turn with somebody | later
    · omega
    · exact Or.inr later

/-- A stop is carried out. -/
theorem stopped (turn : consumers = 0 ∨ 0 < starts) : InStep consumers false starts stops where
  wanted := by
    intro somebody
    rcases turn with nobody | later
    · omega
    · exact Or.inr later
  unwanted := fun _ => Or.inl rfl

end InStep

/-- A record with a connected session, calls of consumers under way, and its audio. -/
structure Listening (session : Nat) (world : World) : Prop where
  record : exists own, world.1.device = some own ∧ own.session = some session ∧
    own.connectActive = true ∧
      InStep own.mediaConsumers (world.1.audioEnabled session) (pendingStarts session world.2)
        (pendingStops session world.2)
  attempt : exists returned, world.1.attempts[session]? = some returned
  jobs : Threads.AllPending (fun job => job.servesConsumer session = true) world.2

/-- A record before its connector returns the session. -/
structure Opening (session : Nat) (world : World) : Prop where
  current : world.1.isCurrent session = true
  active : world.1.device.any DeviceRecord.connectActive = true
  running : world.1.attempts[session]?.any (fun attempt =>
    decide (attempt.outcome = .running) && !attempt.audioEnabled) = true
  jobs : Threads.AllPending (fun job => job.isOfConsumer = true) world.2

/-! ## What a section does to audio -/

section Sections

variable {bridge : Bridge} {record : DeviceRecord} {session : Nat}

/-- A record after a section that leaves its audio alone. -/
theorem audioView_eq {before after : Option DeviceRecord}
    (same : after.map DeviceRecord.audioView = before.map DeviceRecord.audioView)
    (present : before = some record) :
    exists own, after = some own ∧ own.mediaConsumers = record.mediaConsumers ∧
      own.session = record.session ∧ own.connectActive = record.connectActive := by
  rw [present, Option.map_some, Option.map_eq_some_iff] at same
  obtain ⟨own, held, view⟩ := same
  exact ⟨own, held, congrArg AudioView.consumers view, congrArg AudioView.session view,
    congrArg AudioView.connectActive view⟩

theorem connect_of_active (present : bridge.device = some record)
    (active : record.connectActive = true) : bridge.connect = bridge := by
  rw [Bridge.connect, present]
  exact if_pos active

theorem audioView_cancelIdleDisconnect (bridge : Bridge) :
    bridge.cancelIdleDisconnect.device.map DeviceRecord.audioView =
      bridge.device.map DeviceRecord.audioView ∧
      bridge.cancelIdleDisconnect.attempts = bridge.attempts := by
  unfold Bridge.cancelIdleDisconnect
  split
  · exact ⟨rfl, rfl⟩
  · next record present =>
      split
      · rw [present]
        exact ⟨rfl, rfl⟩
      · exact ⟨rfl, rfl⟩

theorem audioView_observed (record : DeviceRecord) (state : SessionState) (now : Rat) :
    (Bridge.observed record state now).audioView = record.audioView := by
  unfold Bridge.observed
  split
  · rfl
  · dsimp only
    split
    · rfl
    · rfl

/-- An event that is not a loss leaves consumers, session and audio. -/
theorem audioView_emitStreaming (bridge : Bridge) (session : Nat) (now : Rat) :
    (bridge.emit session { state := .streaming } now).1.device.map DeviceRecord.audioView =
        bridge.device.map DeviceRecord.audioView ∧
      (bridge.emit session { state := .streaming } now).2 = [] ∧
        forall other : Nat, (bridge.emit session { state := .streaming } now).1.attempts[other]?.map
          Attempt.audioEnabled = bridge.attempts[other]?.map Attempt.audioEnabled := by
  have noLoss : SessionEvent.isLoss { state := .streaming } = false := by decide
  have marked : forall other : Nat,
      (bridge.attempts.modify session (Attempt.emitted { state := .streaming }))[other]?.map
        Attempt.audioEnabled = bridge.attempts[other]?.map Attempt.audioEnabled := by
    intro other
    rw [List.getElem?_modify]
    cases bridge.attempts[other]? with
    | none => rfl
    | some attempt =>
        by_cases here : session = other
        · simp only [here, if_true, Option.map_eq_map, Option.map_some]
          rfl
        · simp only [here, if_false, Option.map_eq_map, Option.map_some]
  unfold Bridge.emit
  split
  · exact ⟨rfl, rfl, fun _ => rfl⟩
  · next attempt found =>
      unfold Bridge.transition
      split
      · exact ⟨rfl, rfl, marked⟩
      · next own current =>
          have present : bridge.device = some own := (Bridge.matching_eq_some.mp current).1
          rw [if_neg (Bool.eq_false_iff.mp noLoss)]
          refine ⟨?_, rfl, marked⟩
          rw [present]
          exact congrArg some (audioView_observed own _ now)

/-- Whether audio is on, read from the attempts. -/
theorem audioEnabled_congr {after : Bridge}
    (same : after.attempts[session]?.map Attempt.audioEnabled =
      bridge.attempts[session]?.map Attempt.audioEnabled) :
    after.audioEnabled session = bridge.audioEnabled session := by
  have read : forall own : Bridge, own.audioEnabled session =
      (own.attempts[session]?.map Attempt.audioEnabled).getD false := by
    intro own
    rw [Bridge.audioEnabled]
    cases own.attempts[session]? with
    | none => rfl
    | some attempt => rfl
  rw [read, read, same]

/-- Audio after a switch, whether it was needed or not. -/
theorem audioEnabled_modify {attempt : Attempt} (found : bridge.attempts[session]? = some attempt)
    {change : Attempt -> Attempt} {audio : Bool}
    (switched : forall before, (change before).audioEnabled = audio) :
    (bridge.modifyAttempt session change).audioEnabled session = audio := by
  rw [Bridge.audioEnabled, Bridge.modifyAttempt, List.getElem?_modify_eq, found]
  exact switched attempt

end Sections

/-! ## One step -/

/-- A step that leaves audio alone, and neither brings nor carries out a switch. -/
theorem Listening.passes {session : Nat} {world after : World} (listening : Listening session world)
    (view : after.1.device.map DeviceRecord.audioView =
      world.1.device.map DeviceRecord.audioView)
    (attempts : after.1.attempts[session]?.map Attempt.audioEnabled =
      world.1.attempts[session]?.map Attempt.audioEnabled)
    (starts : pendingStarts session after.2 = pendingStarts session world.2)
    (stops : pendingStops session after.2 = pendingStops session world.2)
    (jobs : Threads.AllPending (fun job => job.servesConsumer session = true) after.2) :
    Listening session after := by
  obtain ⟨record, present, held, active, inStep⟩ := listening.record
  obtain ⟨own, after, consumers, sameSession, sameActive⟩ := audioView_eq view present
  refine ⟨⟨own, after, sameSession.trans held, sameActive.trans active, ?_⟩, ?_, jobs⟩
  · rw [consumers, audioEnabled_congr attempts, starts, stops]
    exact inStep
  · obtain ⟨returned, found⟩ := listening.attempt
    rw [found, Option.map_some, Option.map_eq_some_iff] at attempts
    obtain ⟨own, found, -⟩ := attempts
    exact ⟨own, found⟩

/-- Among the jobs of a consumer there is no switch. -/
theorem countP_of_plain {jobs : List Job} {other : Job}
    (plain : forall job, job ∈ jobs -> job.isOfConsumer = true)
    (foreign : other.isOfConsumer = false) :
    jobs.countP (fun job => decide (job = other)) = 0 := by
  refine List.countP_eq_zero.mpr ?_
  intro job member same
  rw [decide_eq_true_eq] at same
  rw [← same, plain job member] at foreign
  cases foreign

theorem servesConsumer_of_plain {session : Nat} {jobs : List Job}
    (plain : forall job, job ∈ jobs -> job.isOfConsumer = true) :
    forall job, job ∈ jobs -> job.servesConsumer session = true := by
  intro job member
  rw [Job.servesConsumer, plain job member]
  rfl

/-- A new call of a consumer. -/
theorem listening_called {session : Nat} {world : World} {action : BridgeAction}
    {done : Bridge × List Job} (listening : Listening session world)
    (consumer : isConsumerStep action = true) (started : world.1.call action = some done) :
    Listening session (done.1, world.2 ++ [done.2]) := by
  have passes : forall (bridge : Bridge) (jobs : List Job), bridge.device = world.1.device ->
      bridge.attempts = world.1.attempts ->
      (forall job, job ∈ jobs -> job.isOfConsumer = true) ->
      Listening session (bridge, world.2 ++ [jobs]) := by
    intro bridge jobs device attempts plain
    refine listening.passes ?_ ?_ ?_ ?_ (listening.jobs.concat ?_)
    · rw [device]
    · rw [attempts]
    · rw [pendingStarts, Threads.pendingCount_concat, countP_of_plain plain rfl]
      rfl
    · rw [pendingStops, Threads.pendingCount_concat, countP_of_plain plain rfl]
      rfl
    · exact servesConsumer_of_plain plain
  cases action with
  | addMediaConsumer =>
      cases started
      refine passes _ _ rfl rfl ?_
      simp only [List.mem_cons, List.not_mem_nil, or_false]
      rintro job (rfl | rfl)
      · rfl
      · rfl
  | release number =>
      obtain ⟨function, -, -, rfl⟩ := Bridge.callRelease_eq_some started
      exact passes _ _ rfl rfl (List.forall_mem_singleton.mpr rfl)
  | advance thread environment => cases started
  | _ => cases consumer

/-- How the switches still to come change when a job is carried out. -/
@[mk_iff]
structure Switches (session : Nat) (job : Job) (next : List Job) (before after : List (List Job)) :
    Prop where
  starts : pendingStarts session after + (if job = .startAudio session then 1 else 0) =
    pendingStarts session before + next.countP (fun job => decide (job = .startAudio session))
  stops : pendingStops session after + (if job = .stopAudio session then 1 else 0) =
    pendingStops session before + next.countP (fun job => decide (job = .stopAudio session))

theorem switches_of_found {session : Nat} {threads : List (List Job)} {thread : Nat} {job : Job}
    {rest : List Job} (found : threads[thread]? = some (job :: rest)) (next : List Job) :
    Switches session job next threads (threads.set thread (next ++ rest)) := by
  constructor
  · have counted := Threads.pendingCount_continued
      (fun job => decide (job = .startAudio session)) found next
    simp only [decide_eq_true_eq] at counted
    exact counted
  · have counted := Threads.pendingCount_continued
      (fun job => decide (job = .stopAudio session)) found next
    simp only [decide_eq_true_eq] at counted
    exact counted

/-- A job that is no switch and brings none. -/
theorem Listening.continues {session : Nat} {world : World} {thread : Nat} {job : Job}
    {rest next : List Job} {bridge : Bridge} (listening : Listening session world)
    (found : world.2[thread]? = some (job :: rest))
    (view : bridge.device.map DeviceRecord.audioView =
      world.1.device.map DeviceRecord.audioView)
    (attempts : bridge.attempts[session]?.map Attempt.audioEnabled =
      world.1.attempts[session]?.map Attempt.audioEnabled)
    (noStart : job ≠ .startAudio session) (noStop : job ≠ .stopAudio session)
    (plain : forall other, other ∈ next -> other.isOfConsumer = true) :
    Listening session (bridge, world.2.set thread (next ++ rest)) := by
  have switches := @switches_of_found session _ _ _ _ found next
  have starts := switches.starts
  have stops := switches.stops
  rw [if_neg noStart, countP_of_plain plain rfl] at starts
  rw [if_neg noStop, countP_of_plain plain rfl] at stops
  exact listening.passes view attempts starts stops
    (listening.jobs.continued found (servesConsumer_of_plain plain))

theorem listening_countConsumer {session : Nat} {world : World} {thread : Nat} {rest : List Job}
    (listening : Listening session world)
    (found : world.2[thread]? = some (.countConsumer :: rest)) (attached : Bool) (now : Rat) :
    Listening session ((world.1.countConsumer attached now).1,
      world.2.set thread ((world.1.countConsumer attached now).2 ++ rest)) := by
  obtain ⟨record, present, held, active, inStep⟩ := listening.record
  have counted : world.1.countConsumer attached now =
      if attached then
        ({ world.1 with device := some { record with
            mediaConsumers := record.mediaConsumers + 1
            updatedAt := now } }, [.startAudio session, .handOut])
      else (world.1, []) := by
    rw [Bridge.countConsumer, present]
    simp only [held]
    rfl
  rw [counted]
  cases attached with
  | false => exact listening.continues found rfl rfl nofun nofun (List.forall_mem_nil _)
  | true =>
      rw [if_pos rfl]
      have switches := @switches_of_found session _ _ _ _ found [.startAudio session, .handOut]
      simp only [switches_iff, List.countP_cons, List.countP_nil, reduceCtorEq, decide_true,
        decide_false, if_true, if_false, Nat.add_zero, Nat.zero_add] at switches
      refine ⟨⟨_, rfl, held, active, ?_⟩, listening.attempt, listening.jobs.continued found ?_⟩
      · rw [switches.1, switches.2]
        exact InStep.counted
      · simp only [List.mem_cons, List.not_mem_nil, or_false]
        rintro job (rfl | rfl)
        · simp only [Job.servesConsumer, decide_true, Bool.or_true, Bool.true_or]
        · rfl

/-- What a release does while the session is there. -/
theorem releaseMediaConsumer_cases {bridge : Bridge} {record : DeviceRecord} {session : Nat}
    (present : bridge.device = some record) (held : record.session = some session) (now : Rat) :
    (record.mediaConsumers = 0 ∧ bridge.releaseMediaConsumer now = (bridge, [])) ∨
      exists after own consumers, record.mediaConsumers = consumers + 1 ∧
        bridge.releaseMediaConsumer now =
          (after, if consumers = 0 then [.stopAudio session] else []) ∧
        after.device = some own ∧ after.attempts = bridge.attempts ∧
          own.audioView = ⟨consumers, some session, record.connectActive⟩ := by
  cases counted : record.mediaConsumers with
  | zero =>
      refine Or.inl ⟨rfl, ?_⟩
      rw [Bridge.releaseMediaConsumer, present]
      simp only [counted, lt_irrefl, if_false]
  | succ consumers =>
      refine Or.inr ?_
      rw [Bridge.releaseMediaConsumer, present]
      simp only [counted, Nat.succ_pos, if_true, Nat.add_sub_cancel, held]
      by_cases last : consumers = 0
      · subst last
        refine ⟨_, _, 0, rfl, rfl, rfl, rfl, ?_⟩
        unfold scheduleIdleDisconnectLocked
        split
        · rfl
        · rfl
      · rw [if_neg last]
        exact ⟨_, _, consumers, rfl, congrArg (Prod.mk _) (if_neg last).symm, rfl, rfl, rfl⟩

theorem listening_releaseMediaConsumer {session : Nat} {world : World} {thread : Nat}
    {rest : List Job} {registration : Nat} (listening : Listening session world)
    (found : world.2[thread]? = some (.releaseMediaConsumer registration :: rest)) (now : Rat) :
    Listening session ((world.1.releaseMediaConsumer now).1,
      world.2.set thread ((world.1.releaseMediaConsumer now).2 ++ rest)) := by
  obtain ⟨record, present, held, active, inStep⟩ := listening.record
  rcases releaseMediaConsumer_cases present held now with ⟨-, same⟩ |
    ⟨after, own, consumers, counted, same, device, attempts, view⟩
  · rw [same]
    exact listening.continues found rfl rfl nofun nofun (List.forall_mem_nil _)
  · rw [same]
    have audio : after.audioEnabled session = world.1.audioEnabled session :=
      audioEnabled_congr (by rw [attempts])
    rw [counted] at inStep
    have switches := @switches_of_found session _ _ _ _ found
      (if consumers = 0 then [.stopAudio session] else [])
    refine ⟨⟨own, device, congrArg AudioView.session view,
      (congrArg AudioView.connectActive view).trans active, ?_⟩, ?_,
      listening.jobs.continued found ?_⟩
    · have left : own.mediaConsumers = consumers := congrArg AudioView.consumers view
      have starts := switches.starts
      have stops := switches.stops
      have noStarts : (if consumers = 0 then [Job.stopAudio session] else []).countP
          (fun job => decide (job = .startAudio session)) = 0 := by
        split
        · rfl
        · rfl
      simp only [reduceCtorEq, if_false, Nat.add_zero, noStarts] at starts stops
      rw [left, audio, starts, stops]
      refine inStep.released (fun nobody => ?_)
      rw [if_pos nobody, List.countP_singleton, if_pos (decide_eq_true rfl)]
      exact Nat.one_pos
    · rw [attempts]
      exact listening.attempt
    · intro job member
      split at member
      · rw [List.mem_singleton.mp member, Job.servesConsumer]
        simp only [decide_true, Bool.or_true, Bool.true_or]
      · cases member

/-- What a switch does while the session is there. -/
theorem startAudio_cases (bridge : Bridge) (session : Nat) {attempt : Attempt}
    (found : bridge.attempts[session]? = some attempt) :
    exists next, (bridge.startAudio session true).2 = next ∧
      (next = [] ∨ next = [.emitStreaming session]) ∧
      (bridge.startAudio session true).1.audioEnabled session = true ∧
      (bridge.startAudio session true).1.device = bridge.device ∧
      exists own, (bridge.startAudio session true).1.attempts[session]? = some own := by
  rw [Bridge.startAudio]
  split
  · next already =>
      rcases already with on | ⟨⟨⟩⟩
      exact ⟨[], rfl, Or.inl rfl, on, rfl, attempt, found⟩
  · refine ⟨_, rfl, Or.inr rfl, ?_, rfl, ?_⟩
    · exact audioEnabled_modify found (fun _ => rfl)
    · rw [Bridge.modifyAttempt, List.getElem?_modify_eq, found]
      exact ⟨_, rfl⟩

theorem stopAudio_cases (bridge : Bridge) (session : Nat) {attempt : Attempt}
    (found : bridge.attempts[session]? = some attempt) :
    exists next, (bridge.stopAudio session true).2 = next ∧
      (next = [] ∨ next = [.emitStreaming session]) ∧
      (bridge.stopAudio session true).1.audioEnabled session = false ∧
      (bridge.stopAudio session true).1.device = bridge.device ∧
      exists own, (bridge.stopAudio session true).1.attempts[session]? = some own := by
  rw [Bridge.stopAudio]
  split
  · next already =>
      rcases already with off | ⟨⟨⟩⟩
      exact ⟨[], rfl, Or.inl rfl, off, rfl, attempt, found⟩
  · refine ⟨_, rfl, Or.inr rfl, ?_, rfl, ?_⟩
    · exact audioEnabled_modify found (fun _ => rfl)
    · rw [Bridge.modifyAttempt, List.getElem?_modify_eq, found]
      exact ⟨_, rfl⟩

/-- A switch has been carried out, and an event may follow. -/
theorem listening_switched {session : Nat} {world : World} {thread : Nat} {job : Job}
    {rest next : List Job} {bridge : Bridge} (listening : Listening session world)
    (found : world.2[thread]? = some (job :: rest))
    (device : bridge.device = world.1.device)
    (attempt : exists own, bridge.attempts[session]? = some own)
    (events : next = [] ∨ next = [.emitStreaming session])
    (inStep : forall record, world.1.device = some record ->
      forall threads, Switches session job [] world.2 threads ->
        InStep record.mediaConsumers (bridge.audioEnabled session)
          (pendingStarts session threads) (pendingStops session threads)) :
    Listening session (bridge, world.2.set thread (next ++ rest)) := by
  obtain ⟨record, present, held, active, -⟩ := listening.record
  have switches := @switches_of_found session _ _ _ _ found next
  refine ⟨⟨record, device.trans present, held, active, inStep record present _ ?_⟩, attempt,
    listening.jobs.continued found ?_⟩
  · rcases events with rfl | rfl
    · exact switches
    · exact ⟨switches.starts, switches.stops⟩
  · intro other member
    rcases events with rfl | rfl
    · cases member
    · rw [List.mem_singleton.mp member, Job.servesConsumer]
      simp only [decide_true, Bool.or_true]

theorem isConsumed_eq {bridge : Bridge} {record : DeviceRecord}
    (present : bridge.device = some record) :
    bridge.isConsumed = decide (0 < record.mediaConsumers) := by
  rw [Bridge.isConsumed, present, Option.any_some]

/-- A job of a consumer's call that is carried out in its turn. -/
theorem listening_advanced {session : Nat} {world : World} {thread : Nat}
    {environment : Environment} {job : Job} {rest : List Job} (listening : Listening session world)
    (sent : environment.sent = true)
    (turn : inTurn session world (.advance thread environment) = true)
    (found : world.2[thread]? = some (job :: rest)) :
    Listening session ((perform world.1 environment job).1,
      world.2.set thread ((perform world.1 environment job).2 ++ rest)) := by
  have serves := listening.jobs.head found
  have next : Threads.nextJob world.2 thread = some job := by
    rw [Threads.nextJob, found, Option.bind_some, List.head?_cons]
  simp only [inTurn, next] at turn
  obtain ⟨returned, attempt⟩ := listening.attempt
  cases job with
  | cancelIdleDisconnect =>
      obtain ⟨view, attempts⟩ := audioView_cancelIdleDisconnect world.1
      exact listening.continues found view (by rw [perform, attempts]) (by rintro ⟨⟩)
        (by rintro ⟨⟩)
        (List.forall_mem_nil _)
  | connectConsumer =>
      obtain ⟨record, present, -, active, -⟩ := listening.record
      rw [perform, connect_of_active present active, present]
      exact listening.continues found rfl rfl (by rintro ⟨⟩) (by rintro ⟨⟩)
        (List.forall_mem_singleton.mpr rfl)
  | countConsumer => exact listening_countConsumer listening found _ _
  | handOut =>
      exact listening.continues found rfl rfl (by rintro ⟨⟩) (by rintro ⟨⟩) (List.forall_mem_nil _)
  | releaseMediaConsumer registration => exact listening_releaseMediaConsumer listening found _
  | startAudio other =>
      obtain rfl : other = session := by
        simpa only [Job.servesConsumer, Job.isOfConsumer, Job.startAudio.injEq, reduceCtorEq,
          decide_false, Bool.false_or, Bool.or_false, decide_eq_true_eq] using serves
      obtain ⟨jobs, same, events, on, device, own⟩ := startAudio_cases world.1 other attempt
      rw [perform, sent, same]
      refine listening_switched listening found device own events ?_
      intro record present threads switches
      rw [Bool.or_eq_true, isConsumed_eq present, decide_eq_true_eq, decide_eq_true_eq] at turn
      have stops := switches.stops
      rw [if_neg (by rintro ⟨⟩), List.countP_nil, Nat.add_zero, Nat.add_zero] at stops
      rw [on, stops]
      exact InStep.started turn
  | stopAudio other =>
      obtain rfl : other = session := by
        simpa only [Job.servesConsumer, Job.isOfConsumer, Job.stopAudio.injEq, reduceCtorEq,
          decide_false, Bool.false_or, Bool.or_false, decide_eq_true_eq] using serves
      obtain ⟨jobs, same, events, off, device, own⟩ := stopAudio_cases world.1 other attempt
      rw [perform, sent, same]
      refine listening_switched listening found device own events ?_
      intro record present threads switches
      rw [Bool.or_eq_true, isConsumed_eq present, Bool.not_eq_true', decide_eq_false_iff_not,
        decide_eq_true_eq] at turn
      have starts := switches.starts
      rw [if_neg (by rintro ⟨⟩), List.countP_nil, Nat.add_zero, Nat.add_zero] at starts
      rw [off, starts]
      exact InStep.stopped (turn.imp_left Nat.eq_zero_of_not_pos)
  | emitStreaming other =>
      obtain ⟨view, jobs, attempts⟩ := audioView_emitStreaming world.1 other environment.now
      rw [perform, jobs]
      exact listening.continues found view (attempts session) (by rintro ⟨⟩) (by rintro ⟨⟩)
        (List.forall_mem_nil _)
  | _ => cases serves

theorem listening_step {session : Nat} {world after : World} {action : BridgeAction}
    (listening : Listening session world) (consumer : isConsumerStep action = true)
    (turn : inTurn session world action = true)
    (moved : bridgeMachine.step world action = some after) : Listening session after := by
  cases worldStep_of_step moved with
  | called started => exact listening_called listening consumer started
  | advanced found => exact listening_advanced listening consumer turn found

/-! ## Every order of calls while a session is connected -/

/-- The connector returns the session, and audio starts if there are consumers. -/
theorem listening_of_opening {session : Nat} {world : World} (opening : Opening session world) :
    Listening session (bridgeMachine.next world (.succeed session)) := by
  obtain ⟨attempt, record, found, present, number⟩ := Bridge.isCurrent_iff.mp opening.current
  have active := opening.active
  rw [present, Option.any_some] at active
  have running := opening.running
  rw [found, Option.any_some, Bool.and_eq_true, decide_eq_true_eq, Bool.not_eq_true'] at running
  have current : world.1.matching attempt.number = some record :=
    Bridge.matching_eq_some.mpr ⟨present, number⟩
  obtain ⟨after, moved, device, attempts⟩ : exists after : Bridge,
      bridgeMachine.next world (.succeed session) = (after,
        world.2 ++ [if 0 < record.mediaConsumers then [.startAudio session] else []]) ∧
      after.device = some { record with session := some session, cancel := none, lastError := "" } ∧
      after.attempts = world.1.attempts.modify session (fun current =>
        { current with outcome := .returned }) := by
    refine ⟨{ world.1.modifyAttempt session (fun current =>
      { current with outcome := .returned }) with device := _ }, ?_, rfl, rfl⟩
    simp only [Machine.next, bridgeMachine, Bridge.call, Bridge.succeedAttempt, found, running.1,
      if_true, Bridge.connected, Bridge.matching_modifyAttempt, current, Option.map_some,
      Option.getD_some]
  have audio : after.audioEnabled session = false := by
    rw [Bridge.audioEnabled, attempts, List.getElem?_modify_eq, found]
    exact running.2
  rw [moved]
  refine ⟨⟨_, device, rfl, active, ?_⟩, ?_, Threads.AllPending.concat ?_ ?_⟩
  · rw [audio]
    refine ⟨fun consumed => Or.inr ?_, fun _ => Or.inl rfl⟩
    have consumed : 0 < record.mediaConsumers := consumed
    rw [pendingStarts, Threads.pendingCount_concat, if_pos consumed, List.countP_singleton,
      if_pos (decide_eq_true rfl)]
    exact Nat.succ_pos _
  · rw [attempts, List.getElem?_modify_eq, found]
    exact ⟨_, rfl⟩
  · intro thread member job pending
    rw [Job.servesConsumer, opening.jobs thread member job pending]
    rfl
  · intro job member
    split at member
    · rw [List.mem_singleton.mp member, Job.servesConsumer]
      simp only [decide_true, Bool.or_true, Bool.true_or]
    · cases member

/-- From the moment a session is returned, in every run of calls of consumers in which
switches are carried out in their turn, whenever no call is half-way audio is on
exactly if there are consumers. -/
theorem audio_follows_consumers (session : Nat) (start : World) (opening : Opening session start)
    (actions : List BridgeAction)
    (follows : bridgeMachine.Meets (fun world action => isConsumerStep action = true ∧
      inTurn session world action = true) (bridgeMachine.next start (.succeed session)) actions) :
    let world := bridgeMachine.run (bridgeMachine.next start (.succeed session)) actions
    Quiescent world -> forall record, world.1.device = some record ->
      (world.1.audioEnabled session = true ↔ 0 < record.mediaConsumers) := by
  intro world quiescent record present
  have listening : Listening session world := by
    refine Machine.run_invariant_of_meets _ _ (Listening session) ?_ _ actions
      (listening_of_opening opening) follows
    intro before action after holds condition moved
    exact listening_step holds condition.1 condition.2 moved
  obtain ⟨own, held, -, -, inStep⟩ := listening.record
  cases held.symm.trans present
  have noStarts : pendingStarts session world.2 = 0 := Threads.pendingCount_eq_zero _ quiescent
  have noStops : pendingStops session world.2 = 0 := Threads.pendingCount_eq_zero _ quiescent
  rw [noStarts, noStops] at inStep
  constructor
  · intro on
    refine Nat.pos_of_ne_zero (fun nobody => ?_)
    rcases inStep.unwanted nobody with off | pending
    · exact nomatch off.symm.trans on
    · exact absurd pending (Nat.lt_irrefl 0)
  · intro consumed
    rcases inStep.wanted consumed with on | pending
    · exact on
    · exact absurd pending (Nat.lt_irrefl 0)

/-- A device with one attempt that is about to return a session. -/
def aboutToConnect : World :=
  bridgeMachine.run ({}, []) [.upsert exampleUid none 0, .connect]

/-- A second consumer is counted and starts audio before the stop of the first one is
carried out.  The stop comes last, and the consumer gets no audio. -/
theorem late_stop_silences_consumer :
    let actions : List BridgeAction :=
      [.addMediaConsumer, .advance 3 atOnce, .advance 3 atOnce, .advance 3 atOnce,
        .advance 3 atOnce, .advance 3 atOnce, .advance 3 atOnce, .release 0, .advance 4 atOnce,
        .addMediaConsumer, .advance 5 atOnce, .advance 5 atOnce, .advance 5 atOnce,
        .advance 5 atOnce, .advance 5 atOnce, .advance 4 atOnce, .advance 4 atOnce]
    let world := bridgeMachine.run (bridgeMachine.next aboutToConnect (.succeed 0)) actions
    actions.all isConsumerStep = true ∧ Quiescent world ∧
      world.1.device.any (fun record => decide (record.mediaConsumers = 1)) = true ∧
        world.1.audioEnabled 0 = false := by
  decide

/-- The stop of the first consumer is carried out before the second one is counted. -/
theorem audio_follows_second_consumer :
    let actions : List BridgeAction :=
      [.addMediaConsumer, .advance 3 atOnce, .advance 3 atOnce, .advance 3 atOnce,
        .advance 3 atOnce, .advance 3 atOnce, .advance 3 atOnce, .release 0, .advance 4 atOnce,
        .advance 4 atOnce, .advance 4 atOnce, .addMediaConsumer, .advance 5 atOnce,
        .advance 5 atOnce, .advance 5 atOnce, .advance 5 atOnce, .advance 5 atOnce,
        .advance 5 atOnce]
    let world := bridgeMachine.run (bridgeMachine.next aboutToConnect (.succeed 0)) actions
    (world.1.device.any (fun record => decide (record.mediaConsumers = 1)) = true) ∧
      forall record, world.1.device = some record ->
        (world.1.audioEnabled 0 = true ↔ 0 < record.mediaConsumers) :=
  ⟨by decide, audio_follows_consumers 0 aboutToConnect
    ⟨by decide, by decide, by decide, by unfold Threads.AllPending; decide⟩ _ (by decide)
    (by decide)⟩

end Camera
end PetlibroRelay
