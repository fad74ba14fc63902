import PetlibroRelay.Camera.UnwatchedCamera

namespace PetlibroRelay
namespace Camera

open Foundations

/-!
# The count of the consumers

A consumer is counted before its release function is handed out, and the function is taken
before the consumer is discounted.  As long as the device stays registered the count is the
functions that nobody has called together with what is on its way between the two.
-/

/-! ## The count -/

def Bridge.consumers (bridge : Bridge) : Nat := bridge.device.elim 0 DeviceRecord.mediaConsumers

def Job.isHandOut (job : Job) : Bool := decide (job = .handOut)

def Job.isRelease : Job -> Bool
  | .releaseMediaConsumer _ => true
  | _ => false

/-- What a call of `addMediaConsumer` still has to do before it returns. -/
def Job.isOfAdding : Job -> Bool
  | .connectConsumer => true
  | .countConsumer => true
  | .handOut => true
  | _ => false

/-- A job that has no part in the count of the consumers. -/
def Job.isNeutral (job : Job) : Bool := !job.isOfAdding && !job.isRelease

def ReleaseFunction.isUnused (function : ReleaseFunction) : Bool := !function.used

/-- The registry counts the release functions that nobody has called, those about to be handed
out, and those that have been called but not yet taken off the count. -/
def Balanced (world : World) : Prop :=
  world.1.consumers = world.1.releases.countP ReleaseFunction.isUnused +
    Threads.pendingCount Job.isHandOut world.2 + Threads.pendingCount Job.isRelease world.2

/-- A section that neither counts a consumer nor hands out a function. -/
def Bridge.SameCount (before after : Bridge) : Prop :=
  after.consumers = before.consumers ∧ after.releases = before.releases

section Sections

variable {bridge : Bridge} {record : DeviceRecord}

theorem consumers_of_device (present : bridge.device = some record) :
    bridge.consumers = record.mediaConsumers := by
  rw [Bridge.consumers, present, Option.elim_some]

/-- The record is replaced by one with as many consumers. -/
theorem sameCount_of_record {after : DeviceRecord} {attempts : List Attempt} {timers : List Timer}
    (present : bridge.device = some record) (same : after.mediaConsumers = record.mediaConsumers) :
    bridge.SameCount { bridge with device := some after, attempts := attempts, timers := timers } :=
  ⟨same.trans (consumers_of_device present).symm, rfl⟩

theorem sameCount_connect (bridge : Bridge) : bridge.SameCount bridge.connect := by
  unfold Bridge.connect
  split
  · exact ⟨rfl, rfl⟩
  · next record present =>
      split
      · exact ⟨rfl, rfl⟩
      · exact sameCount_of_record present rfl

theorem sameCount_disconnectLocked (present : bridge.device = some record) (state : SessionState)
    (error : String) (now : Rat) :
    bridge.SameCount (bridge.disconnectLocked record state error now).1 :=
  sameCount_of_record present rfl

theorem mediaConsumers_scheduleReconnectLocked (timers : List Timer) (record : DeviceRecord) :
    (scheduleReconnectLocked timers record).2.mediaConsumers = record.mediaConsumers := by
  unfold scheduleReconnectLocked
  split
  · rfl
  · rfl

theorem sameCount_loseSession (present : bridge.device = some record) (error : String)
    (now : Rat) : bridge.SameCount (bridge.loseSession record error now).1 := by
  unfold Bridge.loseSession
  dsimp only [Bridge.disconnectLocked]
  split
  · exact sameCount_of_record present (mediaConsumers_scheduleReconnectLocked _ _)
  · exact sameCount_of_record present rfl

theorem sameCount_transition (bridge : Bridge) (number : Nat) (event : SessionEvent) (now : Rat) :
    bridge.SameCount (bridge.transition number event now).1 := by
  unfold Bridge.transition
  split
  · exact ⟨rfl, rfl⟩
  · next record matched =>
      have present := (Bridge.matching_eq_some.mp matched).1
      split
      · exact sameCount_loseSession present event.error now
      · refine sameCount_of_record present ?_
        exact congrArg WatchView.consumers (watchView_observed record event.state now)

theorem sameCount_emit (bridge : Bridge) (attempt : Nat) (event : SessionEvent) (now : Rat) :
    bridge.SameCount (bridge.emit attempt event now).1 := by
  unfold Bridge.emit
  split
  · exact ⟨rfl, rfl⟩
  · exact sameCount_transition (bridge.modifyAttempt attempt (Attempt.emitted event)) _ _ _

theorem sameCount_connected (bridge : Bridge) (session number : Nat) :
    bridge.SameCount (bridge.connected session number).1 := by
  unfold Bridge.connected
  split
  · exact ⟨rfl, rfl⟩
  · next record matched => exact sameCount_of_record (Bridge.matching_eq_some.mp matched).1 rfl

theorem sameCount_fail (bridge : Bridge) (number : Nat) (error : String) (now : Rat) :
    bridge.SameCount (bridge.fail number error now) := by
  unfold Bridge.fail
  split
  · exact ⟨rfl, rfl⟩
  · next record matched =>
      have present := (Bridge.matching_eq_some.mp matched).1
      dsimp only
      split
      · exact sameCount_of_record present (mediaConsumers_scheduleReconnectLocked _ _)
      · exact sameCount_of_record present rfl

theorem sameCount_cancelIdleDisconnect (bridge : Bridge) :
    bridge.SameCount bridge.cancelIdleDisconnect := by
  unfold Bridge.cancelIdleDisconnect
  split
  · exact ⟨rfl, rfl⟩
  · next record present =>
      split
      · exact sameCount_of_record present rfl
      · exact ⟨rfl, rfl⟩

theorem sameCount_disconnectIfIdle (bridge : Bridge) (now : Rat) :
    bridge.SameCount (bridge.disconnectIfIdle now).1 := by
  unfold Bridge.disconnectIfIdle
  split
  · exact ⟨rfl, rfl⟩
  · next record present =>
      split
      · exact ⟨rfl, rfl⟩
      · exact sameCount_disconnectLocked present .idle "" now

theorem sameCount_reconnectIfConsumed (bridge : Bridge) :
    bridge.SameCount bridge.reconnectIfConsumed.1 := by
  unfold Bridge.reconnectIfConsumed
  split
  · exact ⟨rfl, rfl⟩
  · next record present => exact sameCount_of_record present rfl

theorem sameCount_of_session {done : Bridge × List Job}
    (kept : done.1.device = bridge.device ∧ done.1.timers = bridge.timers)
    (releases : done.1.releases = bridge.releases) : bridge.SameCount done.1 := by
  refine ⟨?_, releases⟩
  rw [Bridge.consumers, kept.1, Bridge.consumers]

/-- A consumer is counted, and a function is to be handed out for it. -/
theorem countConsumer_count (bridge : Bridge) (attached : Bool) (now : Rat) :
    (bridge.countConsumer attached now).1.consumers = bridge.consumers +
        (bridge.countConsumer attached now).2.countP Job.isHandOut ∧
      (bridge.countConsumer attached now).1.releases = bridge.releases := by
  unfold Bridge.countConsumer
  split
  · exact ⟨rfl, rfl⟩
  · next record present =>
      split
      · refine ⟨?_, rfl⟩
        have starts : (record.session.toList.map Job.startAudio).countP Job.isHandOut = 0 := by
          rw [List.countP_eq_zero]
          intro job member
          obtain ⟨session, -, rfl⟩ := List.mem_map.mp member
          rintro ⟨⟩
        rw [consumers_of_device present, List.countP_append, starts]
        rfl
      · exact ⟨rfl, rfl⟩

/-- A consumer is taken off the count, if there is one. -/
theorem releaseMediaConsumer_count (bridge : Bridge) (now : Rat) :
    (bridge.releaseMediaConsumer now).1.consumers = bridge.consumers - 1 ∧
      (bridge.releaseMediaConsumer now).1.releases = bridge.releases := by
  unfold Bridge.releaseMediaConsumer
  split
  · next absent =>
      rw [Bridge.consumers, absent]
      exact ⟨rfl, rfl⟩
  · next record present =>
      rw [consumers_of_device present]
      split
      · dsimp only
        split
        · unfold Bridge.storing scheduleIdleDisconnectLocked
          split
          · exact ⟨rfl, rfl⟩
          · exact ⟨rfl, rfl⟩
        · exact ⟨rfl, rfl⟩
      · next nobody =>
          refine ⟨?_, rfl⟩
          rw [consumers_of_device present]
          omega

end Sections

/-! ## The balance is kept -/

theorem neutral_of_followUp {job : Job} (followUp : job.isFollowUp = true) :
    job.isNeutral = true := by
  cases job with
  | connectConsumer => cases followUp
  | countConsumer => cases followUp
  | handOut => cases followUp
  | releaseMediaConsumer registration => cases followUp
  | _ => rfl

theorem countP_neutral {jobs : List Job}
    (neutral : forall job, job ∈ jobs -> job.isNeutral = true) :
    jobs.countP Job.isHandOut = 0 ∧ jobs.countP Job.isRelease = 0 ∧
      jobs.countP Job.isOfAdding = 0 := by
  simp only [Job.isNeutral, Bool.and_eq_true, Bool.not_eq_true'] at neutral
  simp only [List.countP_eq_zero, Bool.not_eq_true]
  refine ⟨fun job member => ?_, fun job member => (neutral job member).2,
    fun job member => (neutral job member).1⟩
  rw [Job.isHandOut, decide_eq_false_iff_not]
  rintro rfl
  cases (neutral _ member).1

/-- The calls that have a part in the count. -/
def BridgeAction.isCounting : BridgeAction -> Bool
  | .delete => true
  | .addMediaConsumer => true
  | .release _ => true
  | _ => false

theorem sameCount_called {world : World} {action : BridgeAction} {done : Bridge × List Job}
    (plain : action.isCounting = false) (started : world.1.call action = some done) :
    world.1.SameCount done.1 ∧ forall job, job ∈ done.2 -> job.isNeutral = true := by
  have neutral : forall {jobs : List Job}, (forall job, job ∈ jobs -> job.isFollowUp = true) ->
      forall job, job ∈ jobs -> job.isNeutral = true :=
    fun follow job member => neutral_of_followUp (follow job member)
  cases action with
  | delete => cases plain
  | addMediaConsumer => cases plain
  | release number => cases plain
  | advance thread environment => cases started
  | upsert uid ip now =>
      cases started
      refine ⟨?_, List.forall_mem_nil _⟩
      unfold Bridge.upsert
      split
      · split
        · next absent =>
            refine ⟨?_, rfl⟩
            rw [Bridge.consumers, Bridge.consumers, absent]
            rfl
        · next record present => exact sameCount_of_record present rfl
      · exact ⟨rfl, rfl⟩
  | connect =>
      cases started
      exact ⟨sameCount_connect world.1, List.forall_mem_nil _⟩
  | disconnect now =>
      cases started
      unfold Bridge.disconnect
      split
      · exact ⟨⟨rfl, rfl⟩, List.forall_mem_nil _⟩
      · next record present =>
          exact ⟨sameCount_disconnectLocked present .idle "" now,
            neutral (closeResources_followUp _ _)⟩
  | fire number =>
      obtain ⟨timer, -, -, rfl⟩ := Bridge.fireTimer_eq_some started
      refine ⟨⟨rfl, rfl⟩, List.forall_mem_singleton.mpr ?_⟩
      cases timer.kind with
      | idle => rfl
      | reconnect => rfl
  | event attempt event now =>
      cases started
      exact ⟨sameCount_emit world.1 attempt event now, neutral (emit_followUp _ _ _ _)⟩
  | succeed attempt =>
      obtain ⟨own, -, -, rfl⟩ := Bridge.succeedAttempt_eq_some started
      exact ⟨sameCount_connected (world.1.modifyAttempt _ _) _ _,
        neutral (connected_followUp _ _ _)⟩
  | fail attempt error now =>
      obtain ⟨after, failed, rfl⟩ := Option.map_eq_some_iff.mp started
      obtain ⟨own, -, -, rfl⟩ := Bridge.failAttempt_eq_some failed
      exact ⟨sameCount_fail (world.1.modifyAttempt _ _) _ _ _, List.forall_mem_nil _⟩

theorem balanced_concat {world : World} (balanced : Balanced world) {bridge : Bridge}
    (same : world.1.SameCount bridge) {jobs : List Job}
    (handOuts : jobs.countP Job.isHandOut = 0) (releases : jobs.countP Job.isRelease = 0) :
    Balanced (bridge, world.2 ++ [jobs]) := by
  rw [Balanced, Threads.pendingCount_concat, Threads.pendingCount_concat, handOuts, releases,
    same.1, same.2]
  exact balanced

/-- A function that is called is one less that nobody has called. -/
theorem countP_unused_set {releases : List ReleaseFunction} {number : Nat}
    {function : ReleaseFunction} (found : releases[number]? = some function)
    (unused : function.used = false) :
    (releases.set number { function with used := true }).countP ReleaseFunction.isUnused + 1 =
      releases.countP ReleaseFunction.isUnused := by
  obtain ⟨inside, same⟩ := List.getElem?_eq_some_iff.mp found
  have isUnused : function.isUnused = true := by
    rw [ReleaseFunction.isUnused, unused]
    rfl
  have some_ : 0 < releases.countP ReleaseFunction.isUnused :=
    List.countP_pos_iff.mpr ⟨function, List.mem_of_getElem? found, isUnused⟩
  rw [List.countP_set inside, same, if_pos isUnused, if_neg (by rintro ⟨⟩)]
  omega

theorem balanced_called {world : World} {action : BridgeAction} {done : Bridge × List Job}
    (balanced : Balanced world) (stays : action ≠ .delete)
    (started : world.1.call action = some done) : Balanced (done.1, world.2 ++ [done.2]) := by
  by_cases plain : action.isCounting = false
  · obtain ⟨same, neutral⟩ := sameCount_called plain started
    obtain ⟨handOuts, releases, -⟩ := countP_neutral neutral
    exact balanced_concat balanced same handOuts releases
  · cases action with
    | delete => exact absurd rfl stays
    | addMediaConsumer =>
        cases started
        exact balanced_concat balanced ⟨rfl, rfl⟩ rfl rfl
    | release number =>
        obtain ⟨function, found, unused, rfl⟩ := Bridge.callRelease_eq_some started
        have taken := countP_unused_set found unused
        have before : world.1.consumers = _ := balanced
        have oneRelease :
            [Job.releaseMediaConsumer function.registration].countP Job.isRelease = 1 := rfl
        have noHandOut :
            [Job.releaseMediaConsumer function.registration].countP Job.isHandOut = 0 := rfl
        rw [Balanced, Threads.pendingCount_concat, Threads.pendingCount_concat, oneRelease,
          noHandOut]
        refine before.trans ?_
        dsimp only
        omega
    | _ => exact absurd rfl plain

/-- Only the first two jobs of `addMediaConsumer` leave anything behind that has a part in the
count. -/
theorem perform_neutral (bridge : Bridge) (environment : Environment) {job : Job}
    (requests : job ≠ .connectConsumer) (counts : job ≠ .countConsumer) :
    forall next, next ∈ (perform bridge environment job).2 -> next.isNeutral = true := by
  intro next member
  rcases perform_followUp bridge environment requests next member with followUp | ⟨-, same⟩
  · exact neutral_of_followUp followUp
  · exact absurd same counts

/-- The count of a consumer leaves nothing behind but one function to be handed out. -/
theorem countConsumer_next (bridge : Bridge) (attached : Bool) (now : Rat) :
    (bridge.countConsumer attached now).2.countP Job.isRelease = 0 ∧
      (bridge.countConsumer attached now).2.countP Job.isOfAdding ≤ 1 := by
  unfold Bridge.countConsumer
  split
  · exact ⟨rfl, Nat.zero_le _⟩
  · next record present =>
      split
      · have starts : forall job, job ∈ record.session.toList.map Job.startAudio ->
            job.isNeutral = true := by
          intro job member
          obtain ⟨session, -, rfl⟩ := List.mem_map.mp member
          rfl
        obtain ⟨-, releases, ofAdding⟩ := countP_neutral starts
        rw [List.countP_append, List.countP_append, releases, ofAdding]
        exact ⟨rfl, le_rfl⟩
      · exact ⟨rfl, Nat.zero_le _⟩

/-- A call that adds a consumer never does two things at once. -/
theorem perform_ofAdding (bridge : Bridge) (environment : Environment) (job : Job) :
    (perform bridge environment job).2.countP Job.isOfAdding ≤
      if job.isOfAdding then 1 else 0 := by
  by_cases requests : job = .connectConsumer
  · rw [requests, perform]
    split
    · exact le_rfl
    · exact Nat.zero_le _
  · by_cases counts : job = .countConsumer
    · rw [counts]
      exact (countConsumer_next bridge environment.attached environment.now).2
    · rw [(countP_neutral (perform_neutral bridge environment requests counts)).2.2]
      exact Nat.zero_le _

theorem perform_accounts (bridge : Bridge) (environment : Environment) (job : Job) :
    (job ≠ .countConsumer -> (perform bridge environment job).2.countP Job.isHandOut = 0) ∧
      (perform bridge environment job).2.countP Job.isRelease = 0 := by
  by_cases requests : job = .connectConsumer
  · rw [requests, perform]
    split
    · exact ⟨fun _ => rfl, rfl⟩
    · exact ⟨fun _ => rfl, rfl⟩
  · by_cases counts : job = .countConsumer
    · rw [counts]
      exact ⟨fun other => absurd rfl other,
        (countConsumer_next bridge environment.attached environment.now).1⟩
    · obtain ⟨handOuts, releases, -⟩ :=
        countP_neutral (perform_neutral bridge environment requests counts)
      exact ⟨fun _ => handOuts, releases⟩

/-- A job that has no part in the count. -/
theorem sameCount_perform (bridge : Bridge) (environment : Environment) {job : Job}
    (counts : job ≠ .countConsumer) (handsOut : job ≠ .handOut)
    (releases : job.isRelease = false) : bridge.SameCount (perform bridge environment job).1 := by
  have frame := session_frame bridge
  cases job with
  | countConsumer => exact absurd rfl counts
  | handOut => exact absurd rfl handsOut
  | releaseMediaConsumer registration => cases releases
  | cancelIdleDisconnect => exact sameCount_cancelIdleDisconnect bridge
  | connectConsumer => exact sameCount_connect bridge
  | reconnect => exact sameCount_connect bridge
  | disconnectIfIdle => exact sameCount_disconnectIfIdle bridge environment.now
  | reconnectIfConsumed => exact sameCount_reconnectIfConsumed bridge
  | stopTimer timer => exact ⟨rfl, rfl⟩
  | cancelAttempt attempt => exact ⟨rfl, rfl⟩
  | emitStreaming session => exact sameCount_emit bridge session _ environment.now
  | closeSession session =>
      refine sameCount_of_session (frame session true).1 ?_
      rw [perform, Bridge.closeSession]
      split
      · rfl
      · rfl
  | startAudio session =>
      refine sameCount_of_session (frame session environment.sent).2.1 ?_
      rw [perform, Bridge.startAudio]
      split
      · rfl
      · rfl
  | stopAudio session =>
      refine sameCount_of_session (frame session environment.sent).2.2 ?_
      rw [perform, Bridge.stopAudio]
      split
      · rfl
      · rfl

theorem balanced_advanced {world : World} {thread : Nat} {environment : Environment} {job : Job}
    {rest : List Job} (balanced : Balanced world)
    (found : world.2[thread]? = some (job :: rest)) :
    Balanced ((perform world.1 environment job).1,
      world.2.set thread ((perform world.1 environment job).2 ++ rest)) := by
  have handOuts :=
    Threads.pendingCount_continued Job.isHandOut found (perform world.1 environment job).2
  have releases :=
    Threads.pendingCount_continued Job.isRelease found (perform world.1 environment job).2
  have before : world.1.consumers = _ := balanced
  rw [Balanced]
  dsimp only
  generalize Threads.pendingCount Job.isHandOut (world.2.set thread _) = handOutsLeft at handOuts ⊢
  generalize Threads.pendingCount Job.isRelease (world.2.set thread _) = releasesLeft at releases ⊢
  obtain ⟨noHandOut, noRelease⟩ := perform_accounts world.1 environment job
  rw [noRelease] at releases
  by_cases counts : job = .countConsumer
  · subst counts
    obtain ⟨consumers, functions⟩ :=
      countConsumer_count world.1 environment.attached environment.now
    have handOutsKept : handOutsLeft = Threads.pendingCount Job.isHandOut world.2 +
        (world.1.countConsumer environment.attached environment.now).2.countP Job.isHandOut :=
      handOuts
    have releasesKept : releasesLeft = Threads.pendingCount Job.isRelease world.2 := releases
    rw [perform, consumers, functions, handOutsKept, releasesKept]
    omega
  · rw [noHandOut counts] at handOuts
    by_cases handsOut : job = .handOut
    · subst handsOut
      rw [if_pos (by rfl)] at handOuts
      rw [if_neg (by rintro ⟨⟩)] at releases
      have one : [({ registration := world.1.registrations } : ReleaseFunction)].countP
          ReleaseFunction.isUnused = 1 := rfl
      rw [perform, List.countP_append, one]
      refine (before : world.1.consumers = _).trans ?_
      omega
    · have handOutsKept : handOutsLeft = Threads.pendingCount Job.isHandOut world.2 := by
        rw [if_neg (by rw [Job.isHandOut, decide_eq_true_eq]; exact handsOut)] at handOuts
        exact handOuts
      rw [handOutsKept]
      cases discounts : job.isRelease with
      | false =>
          obtain ⟨consumers, functions⟩ :=
            sameCount_perform world.1 environment counts handsOut discounts
          have releasesKept : releasesLeft = Threads.pendingCount Job.isRelease world.2 := by
            rw [discounts] at releases
            exact releases
          rw [consumers, functions, releasesKept]
          exact before
      | true =>
          rw [discounts, if_pos rfl] at releases
          cases job with
          | releaseMediaConsumer registration =>
              obtain ⟨consumers, functions⟩ := releaseMediaConsumer_count world.1 environment.now
              rw [perform, consumers, functions]
              omega
          | _ => cases discounts

theorem balanced_step {world after : World} {action : BridgeAction} (balanced : Balanced world)
    (stays : action ≠ .delete) (moved : bridgeMachine.step world action = some after) :
    Balanced after := by
  cases worldStep_of_step moved with
  | called started => exact balanced_called balanced stays started
  | advanced found => exact balanced_advanced balanced found

theorem perform_releases (bridge : Bridge) (environment : Environment) {job : Job}
    (handsOut : job ≠ .handOut) :
    (perform bridge environment job).1.releases = bridge.releases := by
  by_cases counts : job = .countConsumer
  · rw [counts]
    exact (countConsumer_count bridge environment.attached environment.now).2
  · cases discounts : job.isRelease with
    | false => exact (sameCount_perform bridge environment counts handsOut discounts).2
    | true =>
        cases job with
        | releaseMediaConsumer registration =>
            exact (releaseMediaConsumer_count bridge environment.now).2
        | _ => cases discounts

end Camera
end PetlibroRelay
