import PetlibroRelay.Camera.ConsumerProgress

namespace PetlibroRelay
namespace Camera

open Foundations

/-!
# A camera nobody watches is stopped

When the last consumer leaves, a timer is set that ends the session, and a consumer
that comes stops it again.  The timer is asked for again only when the field of the last
one is empty, and its callback leaves that field alone where it finds a consumer.  A
consumer that cannot be attached has already had a connection started for it, and sets
no timer.

As long as no callback comes upon a consumer, every consumer can be attached and no
connection is asked for without one, the camera is never left running: where nobody
watches, an idle timer will fire or a consumer is on its way.
-/

/-! ## The part of the record that decides -/

structure WatchView where
  consumers : Nat
  active : Bool
  idleTimer : Option Nat
  deriving DecidableEq, Repr

def DeviceRecord.watchView (record : DeviceRecord) : WatchView where
  consumers := record.mediaConsumers
  active := record.connectActive
  idleTimer := record.idleTimer

def Bridge.watchView (bridge : Bridge) : Option WatchView :=
  bridge.device.map DeviceRecord.watchView

/-- A consumer on its way has still to ask for its connection or to be counted. -/
def Job.isAdding : Job -> Bool
  | .connectConsumer => true
  | .countConsumer => true
  | _ => false

def Job.isIdleCallback (job : Job) : Bool := decide (job = .disconnectIfIdle)

/-- What a section can leave to its thread that has no part in the count of the consumers. -/
def Job.isFollowUp : Job -> Bool
  | .cancelAttempt _ => true
  | .closeSession _ => true
  | .startAudio _ => true
  | .stopAudio _ => true
  | .emitStreaming _ => true
  | .reconnect => true
  | _ => false

/-- The field of the idle timer tells the truth, and a connection without consumers will be
ended or used. -/
structure Minded (view : Option WatchView) (timers : List Timer) (adding callbacks : Nat) :
    Prop where
  armed : forall own number, view = some own -> own.idleTimer = some number ->
    IsArmed timers .idle number ∨ 0 < callbacks
  stops : forall own, view = some own -> own.consumers = 0 -> own.active = true ->
    own.idleTimer.isSome = true ∨ 0 < adding

namespace Minded

variable {view : Option WatchView} {own : WatchView} {timers later : List Timer}
  {adding callbacks : Nat}

/-- No connection, and no timer. -/
theorem off (inactive : own.active = false) (noTimer : own.idleTimer = none) :
    Minded (some own) timers adding callbacks where
  armed := by
    rintro other number ⟨⟩ timer
    rw [noTimer] at timer
    cases timer
  stops := by
    rintro other ⟨⟩ - active
    rw [inactive] at active
    cases active

/-- No connection, with the timers as they are. -/
theorem inactive (minded : Minded (some own) timers adding callbacks) (more : List Timer) :
    Minded (some { own with active := false }) (timers ++ more) adding callbacks where
  armed := by
    rintro other number ⟨⟩ timer
    exact (minded.armed own number rfl timer).imp_left fun armed => armed.append more
  stops := by rintro other ⟨⟩ - ⟨⟩

theorem passes (minded : Minded view timers adding callbacks) {addingLater callbacksLater : Nat}
    (adds : adding ≤ addingLater) (calls : callbacks ≤ callbacksLater) :
    Minded view timers addingLater callbacksLater where
  armed := fun own number present timer =>
    (minded.armed own number present timer).imp_right fun some_ => Nat.lt_of_lt_of_le some_ calls
  stops := fun own present nobody active =>
    (minded.stops own present nobody active).imp_right fun some_ => Nat.lt_of_lt_of_le some_ adds

/-- A connection for which there is a reason. -/
theorem connects (minded : Minded (some own) timers adding callbacks)
    (reason : 0 < own.consumers ∨ own.idleTimer.isSome = true ∨ 0 < adding) :
    Minded (some { own with active := true }) timers adding callbacks where
  armed := by
    rintro other number ⟨⟩ timer
    exact minded.armed own number rfl timer
  stops := by
    rintro other ⟨⟩ nobody -
    rcases reason with somebody | timer | coming
    · exact absurd nobody (Nat.ne_of_gt somebody)
    · exact .inl timer
    · exact .inr coming

/-- The idle timer is stopped for a consumer on its way. -/
theorem cancels (noTimer : own.idleTimer = none) (coming : 0 < adding) :
    Minded (some own) timers adding callbacks where
  armed := by
    rintro other number ⟨⟩ timer
    rw [noTimer] at timer
    cases timer
  stops := fun _ _ _ _ => .inr coming

/-- Another consumer. -/
theorem counts (minded : Minded (some own) timers adding callbacks) (left : Nat) :
    Minded (some { own with consumers := own.consumers + 1 }) timers left callbacks where
  armed := by
    rintro other number ⟨⟩ timer
    exact minded.armed own number rfl timer
  stops := by rintro other ⟨⟩ nobody; cases nobody

end Minded

/-! ## What each section keeps -/

section Sections

variable {bridge : Bridge} {record : DeviceRecord} {adding callbacks : Nat}

theorem watchView_of_device (present : bridge.device = some record) :
    bridge.watchView = some record.watchView := by
  rw [Bridge.watchView, present, Option.map_some]

theorem minded_connect (minded : Minded bridge.watchView bridge.timers adding callbacks)
    (reason : forall record, bridge.device = some record -> record.connectActive = true ∨
      0 < record.mediaConsumers ∨ record.idleTimer.isSome = true ∨ 0 < adding) :
    Minded bridge.connect.watchView bridge.connect.timers adding callbacks := by
  unfold Bridge.connect
  split
  · exact minded
  · next record present =>
      split
      · exact minded
      · next inactive =>
          rw [watchView_of_device present] at minded
          rcases reason record present with active | needed
          · exact absurd active inactive
          · exact minded.connects needed

theorem minded_disconnectLocked (state : SessionState) (error : String) (now : Rat) :
    Minded (bridge.disconnectLocked record state error now).1.watchView
      (bridge.disconnectLocked record state error now).1.timers adding callbacks :=
  Minded.off rfl rfl

/-- Scheduling a reconnect adds at most a timer, and leaves alone what decides here. -/
theorem minded_scheduleReconnectLocked {timers : List Timer}
    (minded : forall more, Minded (some record.watchView) (timers ++ more) adding callbacks) :
    Minded (some (scheduleReconnectLocked timers record).2.watchView)
      (scheduleReconnectLocked timers record).1 adding callbacks := by
  unfold scheduleReconnectLocked
  split
  · exact List.append_nil timers ▸ minded []
  · exact minded _

theorem minded_loseSession (error : String) (now : Rat) :
    Minded (bridge.loseSession record error now).1.watchView
      (bridge.loseSession record error now).1.timers adding callbacks := by
  unfold Bridge.loseSession
  dsimp only [Bridge.disconnectLocked]
  split
  · exact minded_scheduleReconnectLocked fun _ => Minded.off rfl rfl
  · exact Minded.off rfl rfl

theorem watchView_observed (record : DeviceRecord) (state : SessionState) (now : Rat) :
    (Bridge.observed record state now).watchView = record.watchView := by
  unfold Bridge.observed
  split
  · rfl
  · dsimp only
    split
    · rfl
    · rfl

theorem minded_transition (minded : Minded bridge.watchView bridge.timers adding callbacks)
    (number : Nat) (event : SessionEvent) (now : Rat) :
    Minded (bridge.transition number event now).1.watchView
      (bridge.transition number event now).1.timers adding callbacks := by
  unfold Bridge.transition
  split
  · exact minded
  · next record matched =>
      split
      · exact minded_loseSession event.error now
      · have present := (Bridge.matching_eq_some.mp matched).1
        rw [watchView_of_device present, ← watchView_observed record event.state now] at minded
        exact minded

theorem minded_emit (minded : Minded bridge.watchView bridge.timers adding callbacks)
    (attempt : Nat) (event : SessionEvent) (now : Rat) :
    Minded (bridge.emit attempt event now).1.watchView (bridge.emit attempt event now).1.timers
      adding callbacks := by
  unfold Bridge.emit
  split
  · exact minded
  · exact @minded_transition (bridge.modifyAttempt attempt (Attempt.emitted event)) _ _ minded _ _ _

theorem minded_connected (minded : Minded bridge.watchView bridge.timers adding callbacks)
    (session number : Nat) :
    Minded (bridge.connected session number).1.watchView
      (bridge.connected session number).1.timers adding callbacks := by
  unfold Bridge.connected
  split
  · exact minded
  · next record matched =>
      rw [watchView_of_device (Bridge.matching_eq_some.mp matched).1] at minded
      exact minded

theorem minded_fail (minded : Minded bridge.watchView bridge.timers adding callbacks)
    (number : Nat) (error : String) (now : Rat) :
    Minded (bridge.fail number error now).watchView (bridge.fail number error now).timers adding
      callbacks := by
  unfold Bridge.fail
  split
  · exact minded
  · next record matched =>
      rw [watchView_of_device (Bridge.matching_eq_some.mp matched).1] at minded
      dsimp only
      split
      · exact minded_scheduleReconnectLocked fun more => minded.inactive more
      · exact List.append_nil bridge.timers ▸ minded.inactive []

theorem minded_cancelIdleDisconnect
    (minded : Minded bridge.watchView bridge.timers adding callbacks) (coming : 0 < adding) :
    Minded bridge.cancelIdleDisconnect.watchView bridge.cancelIdleDisconnect.timers adding
      callbacks := by
  unfold Bridge.cancelIdleDisconnect
  split
  · exact minded
  · next record present =>
      split
      · exact Minded.cancels rfl coming
      · exact minded

theorem minded_releaseMediaConsumer
    (minded : Minded bridge.watchView bridge.timers adding callbacks) (now : Rat) :
    Minded (bridge.releaseMediaConsumer now).1.watchView
      (bridge.releaseMediaConsumer now).1.timers adding callbacks := by
  unfold Bridge.releaseMediaConsumer
  split
  · exact minded
  · next record present =>
      rw [watchView_of_device present] at minded
      split
      · dsimp only
        split
        · unfold Bridge.storing scheduleIdleDisconnectLocked
          dsimp only
          split
          · next timer =>
              refine ⟨?_, ?_⟩
              · rintro other number ⟨⟩ same
                exact minded.armed _ number rfl same
              · rintro other ⟨⟩ - -
                exact .inl timer
          · refine ⟨?_, ?_⟩
            · rintro other number ⟨⟩ same
              cases same
              exact .inl (IsArmed.new bridge.timers .idle DEFAULT_IDLE_TIMEOUT)
            · rintro other ⟨⟩ - -
              exact .inl rfl
        · next others =>
            refine ⟨?_, ?_⟩
            · rintro other number ⟨⟩ same
              exact minded.armed _ number rfl same
            · rintro other ⟨⟩ nobody
              exact absurd nobody others
      · exact watchView_of_device present ▸ minded

theorem minded_disconnectIfIdle (now : Rat)
    (nobody : forall record, bridge.device = some record -> record.mediaConsumers = 0) :
    Minded (bridge.disconnectIfIdle now).1.watchView (bridge.disconnectIfIdle now).1.timers adding
      callbacks := by
  unfold Bridge.disconnectIfIdle
  split
  · next absent =>
      rw [Bridge.watchView, absent]
      exact ⟨by rintro _ _ ⟨⟩, by rintro _ ⟨⟩⟩
  · next record present =>
      rw [if_neg (not_not.mpr (nobody record present))]
      exact minded_disconnectLocked .idle "" now

theorem minded_countConsumer (minded : Minded bridge.watchView bridge.timers adding callbacks)
    {left : Nat} (now : Rat) :
    Minded (bridge.countConsumer true now).1.watchView (bridge.countConsumer true now).1.timers left
      callbacks := by
  unfold Bridge.countConsumer
  split
  · next absent =>
      rw [Bridge.watchView, absent]
      exact ⟨by rintro _ _ ⟨⟩, by rintro _ ⟨⟩⟩
  · next record present =>
      rw [watchView_of_device present] at minded
      exact minded.counts left

theorem minded_reconnectIfConsumed
    (minded : Minded bridge.watchView bridge.timers adding callbacks) :
    Minded bridge.reconnectIfConsumed.1.watchView bridge.reconnectIfConsumed.1.timers adding
      callbacks := by
  unfold Bridge.reconnectIfConsumed
  split
  · exact minded
  · next record present =>
      rw [watchView_of_device present] at minded
      exact minded

/-- A timer fires and its callback is started. -/
theorem minded_fireTimer (minded : Minded bridge.watchView bridge.timers adding callbacks)
    {number : Nat} {done : Bridge × List Job} (fired : bridge.fireTimer number = some done) :
    Minded done.1.watchView done.1.timers adding
      (callbacks + done.2.countP Job.isIdleCallback) := by
  obtain ⟨timer, found, -, rfl⟩ := Bridge.fireTimer_eq_some fired
  refine ⟨?_, minded.stops⟩
  intro own idleTimer present same
  by_cases kind : timer.kind = .idle
  · rw [kind]
    exact .inr (Nat.succ_pos _)
  · rcases minded.armed own idleTimer present same with armed | pending
    · exact .inl (armed.set_other found (Ne.symm kind) _)
    · exact .inr (Nat.lt_of_lt_of_le pending (Nat.le_add_right _ _))

end Sections

/-! ## The jobs that are left -/

def addingCount (threads : List (List Job)) : Nat := Threads.pendingCount Job.isAdding threads

def callbackCount (threads : List (List Job)) : Nat :=
  Threads.pendingCount Job.isIdleCallback threads

theorem closeResources_followUp (cancel session : Option Nat) :
    forall job, job ∈ closeResources cancel session -> job.isFollowUp = true := by
  intro job member
  rcases List.mem_append.mp member with first | second
  · obtain ⟨attempt, -, rfl⟩ := List.mem_map.mp first
    rfl
  · obtain ⟨session, -, rfl⟩ := List.mem_map.mp second
    rfl

theorem emit_followUp (bridge : Bridge) (attempt : Nat) (event : SessionEvent) (now : Rat) :
    forall job, job ∈ (bridge.emit attempt event now).2 -> job.isFollowUp = true := by
  unfold Bridge.emit Bridge.transition
  split
  · exact List.forall_mem_nil _
  · split
    · exact List.forall_mem_nil _
    · split
      · unfold Bridge.loseSession
        dsimp only [Bridge.disconnectLocked]
        split
        · exact closeResources_followUp _ _
        · exact closeResources_followUp _ _
      · exact List.forall_mem_nil _

theorem connected_followUp (bridge : Bridge) (session number : Nat) :
    forall job, job ∈ (bridge.connected session number).2 -> job.isFollowUp = true := by
  unfold Bridge.connected
  split
  · exact List.forall_mem_singleton.mpr rfl
  · dsimp only
    split
    · exact List.forall_mem_singleton.mpr rfl
    · exact List.forall_mem_nil _

theorem map_followUp {make : Nat -> Job} (follows : forall number, (make number).isFollowUp = true)
    (number : Option Nat) : forall job, job ∈ number.toList.map make -> job.isFollowUp = true := by
  intro job member
  obtain ⟨own, -, rfl⟩ := List.mem_map.mp member
  exact follows own

/-- Only the request of a consumer leaves a count behind, and only the count a release
function to be handed out. -/
theorem perform_followUp (bridge : Bridge) (environment : Environment) {job : Job}
    (noConsumer : job ≠ .connectConsumer) :
    forall next, next ∈ (perform bridge environment job).2 ->
      next.isFollowUp = true ∨ next = .handOut ∧ job = .countConsumer := by
  by_cases counts : job = .countConsumer
  · rw [counts, perform, Bridge.countConsumer]
    split
    · exact List.forall_mem_nil _
    · split
      · refine List.forall_mem_append.mpr ⟨fun next member => ?_, ?_⟩
        · exact .inl (map_followUp (fun _ => rfl) _ next member)
        · exact List.forall_mem_singleton.mpr (.inr ⟨rfl, rfl⟩)
      · exact List.forall_mem_nil _
  · suffices only : forall next, next ∈ (perform bridge environment job).2 ->
        next.isFollowUp = true from fun next member => .inl (only next member)
    cases job with
    | connectConsumer => exact absurd rfl noConsumer
    | countConsumer => exact absurd rfl counts
    | reconnectIfConsumed =>
        rw [perform, Bridge.reconnectIfConsumed]
        split
        · exact List.forall_mem_nil _
        · dsimp only
          split
          · exact List.forall_mem_singleton.mpr rfl
          · exact List.forall_mem_nil _
    | cancelIdleDisconnect => exact List.forall_mem_nil _
    | handOut => exact List.forall_mem_nil _
    | reconnect => exact List.forall_mem_nil _
    | stopTimer timer => exact List.forall_mem_nil _
    | cancelAttempt attempt => exact List.forall_mem_nil _
    | releaseMediaConsumer registration =>
        rw [perform, Bridge.releaseMediaConsumer]
        split
        · exact List.forall_mem_nil _
        · split
          · dsimp only
            split
            · exact map_followUp (fun _ => rfl) _
            · exact List.forall_mem_nil _
          · exact List.forall_mem_nil _
    | disconnectIfIdle =>
        rw [perform, Bridge.disconnectIfIdle]
        split
        · exact List.forall_mem_nil _
        · split
          · exact List.forall_mem_nil _
          · exact closeResources_followUp _ _
    | closeSession session =>
        rw [perform, Bridge.closeSession]
        split
        · exact List.forall_mem_nil _
        · exact List.forall_mem_singleton.mpr rfl
    | startAudio session =>
        rw [perform, Bridge.startAudio]
        split
        · exact List.forall_mem_nil _
        · exact List.forall_mem_singleton.mpr rfl
    | stopAudio session =>
        rw [perform, Bridge.stopAudio]
        split
        · exact List.forall_mem_nil _
        · exact List.forall_mem_singleton.mpr rfl
    | emitStreaming session => exact emit_followUp _ _ _ _

theorem countP_followUp {jobs : List Job}
    (follow : forall job, job ∈ jobs -> job.isFollowUp = true ∨ job = .handOut) :
    jobs.countP Job.isAdding = 0 ∧ jobs.countP Job.isIdleCallback = 0 := by
  simp only [List.countP_eq_zero, Bool.not_eq_true]
  refine ⟨fun job member => ?_, fun job member => ?_⟩
  · rcases follow job member with followUp | rfl
    · cases job with
      | connectConsumer => cases followUp
      | countConsumer => cases followUp
      | _ => rfl
    · rfl
  · rcases follow job member with followUp | rfl
    · cases job with
      | disconnectIfIdle => cases followUp
      | _ => rfl
    · rfl

/-- The threads of a world that cannot touch the idle timer out of turn: none stops a timer
directly, and one that is to take the idle timer away still has to ask for a connection. -/
def InTurn (thread : List Job) : Prop :=
  thread = [.cancelIdleDisconnect, .connectConsumer] ∨
    forall job, job ∈ thread -> job ≠ .cancelIdleDisconnect ∧ job.isStopTimer = false

theorem clean_of_followUp {job : Job} (followUp : job.isFollowUp = true) :
    job ≠ .cancelIdleDisconnect ∧ job.isStopTimer = false := by
  cases job with
  | cancelIdleDisconnect => cases followUp
  | stopTimer timer => cases followUp
  | _ => exact ⟨by rintro ⟨⟩, rfl⟩

theorem InTurn.of_followUp {jobs : List Job}
    (follow : forall job, job ∈ jobs -> job.isFollowUp = true) : InTurn jobs :=
  .inr fun job member => clean_of_followUp (follow job member)

theorem perform_clean (bridge : Bridge) (environment : Environment) (job : Job) :
    forall next, next ∈ (perform bridge environment job).2 ->
      next ≠ .cancelIdleDisconnect ∧ next.isStopTimer = false := by
  by_cases consumer : job = .connectConsumer
  · rw [consumer, perform]
    split
    · exact List.forall_mem_singleton.mpr ⟨by rintro ⟨⟩, rfl⟩
    · exact List.forall_mem_nil _
  · intro next member
    rcases perform_followUp bridge environment consumer next member with followUp | ⟨rfl, -⟩
    · exact clean_of_followUp followUp
    · exact ⟨by rintro ⟨⟩, rfl⟩

/-- What is left of a thread in turn has no such job any more. -/
theorem InTurn.rest {job : Job} {rest next : List Job} (inTurn : InTurn (job :: rest))
    (new : forall job, job ∈ next -> job ≠ .cancelIdleDisconnect ∧ job.isStopTimer = false) :
    InTurn (next ++ rest) := by
  refine .inr fun other member => ?_
  rcases List.mem_append.mp member with fresh | old
  · exact new other fresh
  · rcases inTurn with same | clean
    · cases same
      rw [List.mem_singleton.mp old]
      exact ⟨by rintro ⟨⟩, rfl⟩
    · exact clean other (List.mem_cons_of_mem _ old)

/-! ## Runs in which every connection has a reason -/

/-- A connection is active already, somebody watches, the idle timer is set, or a consumer
is on its way. -/
def hasReason (world : World) : Bool :=
  world.1.device.all (fun record =>
    record.connectActive || decide (0 < record.mediaConsumers) || record.idleTimer.isSome) ||
      decide (0 < addingCount world.2)

/-- No connection is asked for without a reason, every consumer can be attached, and no idle
callback comes upon a consumer. -/
def attentive (world : World) : BridgeAction -> Bool
  | .delete => false
  | .connect => hasReason world
  | .advance thread environment =>
      match Threads.nextJob world.2 thread with
      | some .countConsumer => environment.attached
      | some .disconnectIfIdle =>
          world.1.device.all (fun record => decide (record.mediaConsumers = 0))
      | some .reconnect => hasReason world
      | _ => true
  | _ => true

/-- A connection nobody watches will be ended or used. -/
structure Attends (world : World) : Prop where
  minded : Minded world.1.watchView world.1.timers (addingCount world.2) (callbackCount world.2)
  inTurn : forall thread, thread ∈ world.2 -> InTurn thread

theorem reason_of_hasReason {world : World} (reason : hasReason world = true)
    (record : DeviceRecord) (present : world.1.device = some record) :
    record.connectActive = true ∨ 0 < record.mediaConsumers ∨ record.idleTimer.isSome = true ∨
      0 < addingCount world.2 := by
  rw [hasReason, present, Option.all_some, Bool.or_eq_true, Bool.or_eq_true, Bool.or_eq_true,
    decide_eq_true_eq, decide_eq_true_eq, or_assoc, or_assoc] at reason
  exact reason

theorem inTurn_concat {threads : List (List Job)}
    (inTurn : forall thread, thread ∈ threads -> InTurn thread) {jobs : List Job}
    (new : InTurn jobs) : forall thread, thread ∈ threads ++ [jobs] -> InTurn thread :=
  List.forall_mem_append.mpr ⟨inTurn, List.forall_mem_singleton.mpr new⟩

/-- A call that leaves only jobs behind which have no part in it. -/
theorem attends_concat {threads : List (List Job)} {bridge : Bridge} {jobs : List Job}
    (minded : Minded bridge.watchView bridge.timers (addingCount threads) (callbackCount threads))
    (inTurn : forall thread, thread ∈ threads -> InTurn thread)
    (follow : forall job, job ∈ jobs -> job.isFollowUp = true) :
    Attends (bridge, threads ++ [jobs]) := by
  obtain ⟨adds, calls⟩ := countP_followUp fun job member => .inl (follow job member)
  refine ⟨?_, inTurn_concat inTurn (InTurn.of_followUp follow)⟩
  rw [addingCount, callbackCount, Threads.pendingCount_concat, Threads.pendingCount_concat, adds,
    calls]
  exact minded

theorem attends_called {world : World} {action : BridgeAction} {done : Bridge × List Job}
    (attends : Attends world) (calm : attentive world action = true)
    (started : world.1.call action = some done) : Attends (done.1, world.2 ++ [done.2]) := by
  obtain ⟨minded, inTurn⟩ := attends
  cases action with
  | delete => cases calm
  | advance thread environment => cases started
  | upsert uid ip now =>
      cases started
      refine attends_concat ?_ inTurn (List.forall_mem_nil _)
      unfold Bridge.upsert
      split
      · split
        · exact Minded.off rfl rfl
        · next record present =>
            rw [watchView_of_device present] at minded
            exact minded
      · exact minded
  | connect =>
      cases started
      exact attends_concat (minded_connect minded (reason_of_hasReason calm)) inTurn
        (List.forall_mem_nil _)
  | disconnect now =>
      cases started
      unfold Bridge.disconnect
      split
      · exact attends_concat minded inTurn (List.forall_mem_nil _)
      · exact attends_concat (minded_disconnectLocked .idle "" now) inTurn
          (closeResources_followUp _ _)
  | addMediaConsumer =>
      cases started
      refine ⟨minded.passes ?_ ?_, inTurn_concat inTurn (.inl rfl)⟩
      · rw [addingCount, addingCount, Threads.pendingCount_concat]
        exact Nat.le_add_right _ _
      · rw [callbackCount, callbackCount, Threads.pendingCount_concat]
        exact Nat.le_add_right _ _
  | release number =>
      obtain ⟨function, -, -, rfl⟩ := Bridge.callRelease_eq_some started
      refine ⟨minded.passes ?_ ?_, inTurn_concat inTurn (.inr ?_)⟩
      · rw [addingCount, addingCount, Threads.pendingCount_concat]
        exact Nat.le_add_right _ _
      · rw [callbackCount, callbackCount, Threads.pendingCount_concat]
        exact Nat.le_add_right _ _
      · exact List.forall_mem_singleton.mpr ⟨by rintro ⟨⟩, rfl⟩
  | fire number =>
      have after := minded_fireTimer minded started
      obtain ⟨timer, -, -, rfl⟩ := Bridge.fireTimer_eq_some started
      refine ⟨?_, inTurn_concat inTurn (.inr ?_)⟩
      · rw [addingCount, callbackCount, Threads.pendingCount_concat, Threads.pendingCount_concat]
        exact after.passes (Nat.le_add_right _ _) le_rfl
      · cases timer.kind with
        | idle => exact List.forall_mem_singleton.mpr ⟨by rintro ⟨⟩, rfl⟩
        | reconnect => exact List.forall_mem_singleton.mpr ⟨by rintro ⟨⟩, rfl⟩
  | event attempt event now =>
      cases started
      exact attends_concat (minded_emit minded attempt event now) inTurn (emit_followUp _ _ _ _)
  | succeed attempt =>
      obtain ⟨own, -, -, rfl⟩ := Bridge.succeedAttempt_eq_some started
      refine attends_concat (minded_connected ?_ attempt own.number) inTurn
        (connected_followUp _ _ _)
      exact minded
  | fail attempt error now =>
      obtain ⟨after, failed, rfl⟩ := Option.map_eq_some_iff.mp started
      obtain ⟨own, -, -, rfl⟩ := Bridge.failAttempt_eq_some failed
      refine attends_concat (minded_fail ?_ own.number error now) inTurn (List.forall_mem_nil _)
      exact minded

/-- Where a consumer is still to be added somebody is on the way. -/
theorem addingCount_pos {threads : List (List Job)} {thread : Nat} {jobs : List Job}
    (found : threads[thread]? = some jobs) (coming : Job.connectConsumer ∈ jobs) :
    0 < addingCount threads := by
  have counted := Threads.pendingCount_set Job.isAdding found []
  have some_ : 0 < jobs.countP Job.isAdding := List.countP_pos_iff.mpr ⟨_, coming, rfl⟩
  rw [List.countP_nil] at counted
  rw [addingCount]
  omega

/-- Where nothing is left behind that counts, the job itself is all that goes. -/
theorem counts_performed {threads : List (List Job)} {thread : Nat} {job : Job} {rest : List Job}
    (found : threads[thread]? = some (job :: rest)) (bridge : Bridge) (environment : Environment)
    (noConsumer : job ≠ .connectConsumer) :
    let after := threads.set thread ((perform bridge environment job).2 ++ rest)
    addingCount after + (if job.isAdding then 1 else 0) = addingCount threads ∧
      callbackCount after + (if job.isIdleCallback then 1 else 0) = callbackCount threads := by
  have adds := Threads.pendingCount_continued Job.isAdding found (perform bridge environment job).2
  have calls :=
    Threads.pendingCount_continued Job.isIdleCallback found (perform bridge environment job).2
  obtain ⟨noAdds, noCalls⟩ := countP_followUp fun next member =>
    (perform_followUp bridge environment noConsumer next member).imp_right And.left
  rw [noAdds] at adds
  rw [noCalls] at calls
  exact ⟨adds, calls⟩

/-- The request of a consumer leaves its count behind, so that somebody is still on the way. -/
theorem minded_performConnectConsumer {world : World} {thread : Nat} {rest : List Job}
    (attends : Attends world) (environment : Environment)
    (found : world.2[thread]? = some (.connectConsumer :: rest)) :
    let done := perform world.1 environment .connectConsumer
    Minded done.1.watchView done.1.timers (addingCount (world.2.set thread (done.2 ++ rest)))
      (callbackCount (world.2.set thread (done.2 ++ rest))) := by
  intro done
  have adds := Threads.pendingCount_continued Job.isAdding found done.2
  have calls := Threads.pendingCount_continued Job.isIdleCallback found done.2
  rw [← addingCount, ← addingCount] at adds
  rw [← callbackCount, ← callbackCount, if_neg (by decide), Nat.add_zero] at calls
  cases present : world.1.device with
  | none =>
      change Minded world.1.connect.watchView _ _ _
      rw [Bridge.connect, present, Bridge.watchView, present]
      exact ⟨by rintro _ _ ⟨⟩, by rintro _ ⟨⟩⟩
  | some record =>
      have counts : done.2.countP Job.isAdding = 1 := by
        change (perform world.1 environment .connectConsumer).2.countP Job.isAdding = 1
        rw [perform, present]
        rfl
      rw [counts] at adds
      have coming := le_of_eq (Nat.add_right_cancel adds).symm
      have kept : callbackCount world.2 ≤ callbackCount (world.2.set thread (done.2 ++ rest)) :=
        calls.symm ▸ Nat.le_add_right _ _
      refine minded_connect (attends.minded.passes coming kept) fun _ _ => ?_
      have onWay := addingCount_pos found List.mem_cons_self
      exact .inr (.inr (.inr (lt_of_lt_of_le onWay coming)))

/-- A job that adds no consumer and is no idle callback. -/
theorem minded_performOther {world : World} {job : Job} (attends : Attends world)
    (environment : Environment) (noAdd : job.isAdding = false)
    (noCall : job.isIdleCallback = false) (noStop : job.isStopTimer = false)
    (coming : job = .cancelIdleDisconnect -> 0 < addingCount world.2)
    (reason : job = .reconnect -> hasReason world = true) :
    Minded (perform world.1 environment job).1.watchView (perform world.1 environment job).1.timers
      (addingCount world.2) (callbackCount world.2) := by
  have minded := attends.minded
  have frame := session_frame world.1
  cases job with
  | connectConsumer => cases noAdd
  | countConsumer => cases noAdd
  | disconnectIfIdle => cases noCall
  | stopTimer timer => cases noStop
  | cancelIdleDisconnect => exact minded_cancelIdleDisconnect minded (coming rfl)
  | reconnect => exact minded_connect minded (reason_of_hasReason (reason rfl))
  | reconnectIfConsumed => exact minded_reconnectIfConsumed minded
  | releaseMediaConsumer registration =>
      exact minded_releaseMediaConsumer minded environment.now
  | emitStreaming session => exact minded_emit minded session _ environment.now
  | handOut => exact minded
  | cancelAttempt attempt => exact minded
  | closeSession session =>
      obtain ⟨device, timers⟩ := (frame session true).1
      rw [perform, Bridge.watchView, device, timers]
      exact minded
  | startAudio session =>
      obtain ⟨device, timers⟩ := (frame session environment.sent).2.1
      rw [perform, Bridge.watchView, device, timers]
      exact minded
  | stopAudio session =>
      obtain ⟨device, timers⟩ := (frame session environment.sent).2.2
      rw [perform, Bridge.watchView, device, timers]
      exact minded

/-- A thread in turn comes to no job that stops a timer, and takes the idle timer away only with
the request of its consumer behind. -/
theorem InTurn.head {job : Job} {rest : List Job} (inTurn : InTurn (job :: rest)) :
    job.isStopTimer = false ∧
      (job = .cancelIdleDisconnect -> Job.connectConsumer ∈ job :: rest) := by
  rcases inTurn with exactly | clean
  · cases exactly
    exact ⟨rfl, fun _ => List.mem_cons_of_mem _ List.mem_cons_self⟩
  · obtain ⟨noCancel, noStop⟩ := clean _ List.mem_cons_self
    exact ⟨noStop, fun cancels => absurd cancels noCancel⟩

/-- What decides about a connection after a job. -/
theorem minded_performed {world : World} {thread : Nat} {environment : Environment} {job : Job}
    {rest : List Job} (attends : Attends world)
    (calm : attentive world (.advance thread environment) = true)
    (found : world.2[thread]? = some (job :: rest)) :
    let done := perform world.1 environment job
    Minded done.1.watchView done.1.timers (addingCount (world.2.set thread (done.2 ++ rest)))
      (callbackCount (world.2.set thread (done.2 ++ rest))) := by
  intro done
  have next : Threads.nextJob world.2 thread = some job := by
    rw [Threads.nextJob, found, Option.bind_some, List.head?_cons]
  rw [attentive, next] at calm
  by_cases request : job = .connectConsumer
  · subst request
    exact minded_performConnectConsumer attends environment found
  obtain ⟨adds, calls⟩ := counts_performed found world.1 environment request
  by_cases counted : job = .countConsumer
  · subst counted
    have attached : environment.attached = true := calm
    have kept : callbackCount (world.2.set thread (done.2 ++ rest)) = callbackCount world.2 := calls
    have counting : done = world.1.countConsumer true environment.now := attached ▸ rfl
    rw [kept, counting]
    exact minded_countConsumer attends.minded environment.now
  by_cases callback : job = .disconnectIfIdle
  · subst callback
    refine minded_disconnectIfIdle environment.now fun record present => ?_
    rw [present, Option.all_some, decide_eq_true_eq] at calm
    exact calm
  -- what is left changes neither count
  have noAdd : job.isAdding = false := by
    cases job with
    | connectConsumer => exact absurd rfl request
    | countConsumer => exact absurd rfl counted
    | _ => rfl
  have noCall : job.isIdleCallback = false := by
    cases job with
    | disconnectIfIdle => exact absurd rfl callback
    | _ => rfl
  rw [noAdd] at adds
  rw [noCall] at calls
  have addingKept : addingCount (world.2.set thread (done.2 ++ rest)) = addingCount world.2 := adds
  have callbacksKept :
      callbackCount (world.2.set thread (done.2 ++ rest)) = callbackCount world.2 := calls
  obtain ⟨noStop, requestBehind⟩ := (attends.inTurn _ (List.mem_of_getElem? found)).head
  rw [addingKept, callbacksKept]
  refine minded_performOther attends environment noAdd noCall noStop ?_ ?_
  · intro cancels
    exact addingCount_pos found (requestBehind cancels)
  · rintro rfl
    exact calm

theorem attends_advanced {world : World} {thread : Nat} {environment : Environment} {job : Job}
    {rest : List Job} (attends : Attends world)
    (calm : attentive world (.advance thread environment) = true)
    (found : world.2[thread]? = some (job :: rest)) :
    Attends ((perform world.1 environment job).1,
      world.2.set thread ((perform world.1 environment job).2 ++ rest)) := by
  refine ⟨minded_performed attends calm found, ?_⟩
  intro other member
  rcases List.mem_or_eq_of_mem_set member with old | replaced
  · exact attends.inTurn other old
  · rw [replaced]
    exact (attends.inTurn _ (List.mem_of_getElem? found)).rest
      (perform_clean world.1 environment job)

theorem attends_step {world after : World} {action : BridgeAction} (attends : Attends world)
    (calm : attentive world action = true)
    (moved : bridgeMachine.step world action = some after) : Attends after := by
  cases worldStep_of_step moved with
  | called started => exact attends_called attends calm started
  | advanced found => exact attends_advanced attends calm found

/-- The camera has an idle timer that will fire.  Its callback ends the connection, and what it
leaves to do is to cancel the attempt and to close the session. -/
def StopsWhenIdle (world : World) (record : DeviceRecord) : Prop :=
  exists number, record.idleTimer = some number ∧ IsArmed world.1.timers .idle number ∧
    forall environment,
      let stopped := bridgeMachine.run world [.fire number, .advance world.2.length environment]
      (exists later, stopped.1.device = some later ∧ later.connectActive = false ∧
        later.session = none ∧ later.connectionState = .idle) ∧
        stopped.2[world.2.length]? = some (closeResources record.cancel record.session)

/-- The callback of an armed idle timer ends the session of a camera without consumers, and
what it leaves to do is to cancel the attempt and to close the session. -/
theorem idle_timer_stops {world : World} {record : DeviceRecord} {number : Nat}
    (present : world.1.device = some record) (nobody : record.mediaConsumers = 0)
    (armed : IsArmed world.1.timers .idle number) (environment : Environment) :
    let stopped := bridgeMachine.run world [.fire number, .advance world.2.length environment]
    (exists later, stopped.1.device = some later ∧ later.connectActive = false ∧
      later.session = none ∧ later.connectionState = .idle) ∧
      stopped.2[world.2.length]? = some (closeResources record.cancel record.session) := by
  obtain ⟨timer, found, kind, ready⟩ := armed
  have fired : bridgeMachine.step world (.fire number) =
      some ({ world.1 with timers := world.1.timers.set number { timer with state := .fired } },
        world.2 ++ [[.disconnectIfIdle]]) := by
    change ((world.1.fireTimer number).map _) = _
    rw [Bridge.fireTimer, found]
    dsimp only
    rw [if_pos ready, kind]
    rfl
  have advanced : bridgeMachine.step
      ({ world.1 with timers := world.1.timers.set number { timer with state := .fired } },
        world.2 ++ [[.disconnectIfIdle]]) (.advance world.2.length environment) =
      some ((Bridge.disconnectLocked { world.1 with
          timers := world.1.timers.set number { timer with state := .fired } } record .idle ""
            environment.now).1,
        world.2 ++ [closeResources record.cancel record.session]) := by
    simp only [bridgeMachine, Threads.advance, List.getElem?_concat_length, perform,
      Bridge.disconnectIfIdle, present, nobody, ne_eq, not_true_eq_false, if_false,
      Bridge.disconnectLocked, List.append_nil, List.set_append_right _ _ le_rfl, Nat.sub_self,
      List.set_cons_zero]
  simp only [Machine.run_cons, Machine.run_nil, Machine.next, fired, Option.getD_some, advanced]
  exact ⟨⟨_, rfl, rfl, rfl, rfl⟩, List.getElem?_concat_length⟩

theorem Attends.initial : Attends ({}, []) :=
  ⟨⟨by rintro _ _ ⟨⟩, by rintro _ ⟨⟩⟩, List.forall_mem_nil _⟩

theorem Attends.stops {world : World} (attends : Attends world) (quiescent : Quiescent world)
    {record : DeviceRecord} (present : world.1.device = some record)
    (nobody : record.mediaConsumers = 0) (active : record.connectActive = true) :
    StopsWhenIdle world record := by
  have minded := attends.minded
  rw [watchView_of_device present] at minded
  rcases minded.stops _ rfl nobody active with timer | coming
  · obtain ⟨number, same⟩ := Option.isSome_iff_exists.mp timer
    rcases minded.armed _ number rfl same with armed | pending
    · exact ⟨number, same, armed, fun environment =>
        idle_timer_stops present nobody armed environment⟩
    · rw [callbackCount, Threads.pendingCount_eq_zero _ quiescent] at pending
      cases pending
  · rw [addingCount, Threads.pendingCount_eq_zero _ quiescent] at coming
    cases coming

/-- In every run in which every connection has a reason, every consumer can be attached and
no idle callback comes upon a consumer, whenever no call is half-way a camera with a
connection and without consumers has an idle timer that will fire and stop it. -/
theorem unwatched_camera_is_stopped (actions : List BridgeAction)
    (calm : bridgeMachine.Meets (fun world action => attentive world action = true) ({}, [])
      actions) :
    let world := bridgeMachine.run ({}, []) actions
    Quiescent world -> forall record, world.1.device = some record ->
      record.mediaConsumers = 0 -> record.connectActive = true -> StopsWhenIdle world record := by
  intro world quiescent record present nobody active
  have attends : Attends world := by
    refine Machine.run_invariant_of_meets _ _ Attends ?_ ({}, []) actions Attends.initial calm
    intro before action after holds condition moved
    exact attends_step holds condition moved
  exact attends.stops quiescent present nobody active

/-- A consumer comes and goes, and the camera is stopped. -/
theorem unwatched_camera_is_stopped_once :
    let actions := [.upsert exampleUid none 0, .addMediaConsumer, .advance 1 atOnce,
      .advance 1 atOnce, .advance 1 atOnce, .advance 1 atOnce, .succeed 0, .advance 2 atOnce,
      .advance 2 atOnce, .release 0, .advance 3 atOnce, .advance 3 atOnce, .advance 3 atOnce]
    let world := bridgeMachine.run ({}, []) actions
    exists record, world.1.device = some record ∧ record.mediaConsumers = 0 ∧
      record.connectActive = true ∧ StopsWhenIdle world record :=
  ⟨_, rfl, rfl, rfl, unwatched_camera_is_stopped _ (by decide) (by decide) _ rfl rfl rfl⟩

/-- A timer set between the request and the count of another consumer comes upon that
consumer.  Its field stays, no other timer is set, and the camera is left running. -/
theorem idle_callback_upon_consumer_strands_camera :
    let world := bridgeMachine.run ({}, [])
      [.upsert exampleUid none 0, .addMediaConsumer, .advance 1 atOnce, .advance 1 atOnce,
        .advance 1 atOnce, .advance 1 atOnce, .addMediaConsumer, .advance 2 atOnce,
        .advance 2 atOnce, .release 0, .advance 3 atOnce, .advance 2 atOnce, .advance 2 atOnce,
        .fire 0, .advance 4 atOnce, .release 1, .advance 5 atOnce]
    Quiescent world ∧ world.1.timers.all (fun timer => decide (timer.state = .fired)) = true ∧
      world.1.device.any (fun record =>
        decide (record.mediaConsumers = 0) && record.connectActive) = true := by
  decide

end Camera
end PetlibroRelay
