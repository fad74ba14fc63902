import PetlibroRelay.Camera.CameraRegistry

namespace PetlibroRelay
namespace Camera

open Foundations

/-!
# A camera with consumers makes progress

A consumer is added in three sections: the idle timer is stopped, a connection is
requested, and the consumer is counted.  A failure between the second and the third
looks at the count and finds nobody to reconnect for, and so does the callback of an
idle timer that has already fired.

As long as nothing of that kind happens while the first consumer is between its
request and its count, a consumer is never left alone: a connection is active, a
reconnect timer is armed or has just fired, or a callback is about to connect.
-/

/-! ## The part of the record that decides -/

structure ConsumerView where
  consumers : Nat
  active : Bool
  idleTimer : Option Nat
  reconnectTimer : Option Nat
  deriving DecidableEq, Repr

def DeviceRecord.consumerView (record : DeviceRecord) : ConsumerView where
  consumers := record.mediaConsumers
  active := record.connectActive
  idleTimer := record.idleTimer
  reconnectTimer := record.reconnectTimer

def Bridge.consumerView (bridge : Bridge) : Option ConsumerView :=
  bridge.device.map DeviceRecord.consumerView

def Job.isCount (job : Job) : Bool := decide (job = .countConsumer)
def Job.isReconnect (job : Job) : Bool := decide (job = .reconnect)
def Job.isReconnectCallback (job : Job) : Bool := decide (job = .reconnectIfConsumed)

def Job.isStopTimer : Job -> Bool
  | .stopTimer _ => true
  | _ => false

/-- The timer is there and of this kind. -/
def IsTimer (timers : List Timer) (kind : TimerKind) (number : Nat) : Prop :=
  exists timer, timers[number]? = some timer ∧ timer.kind = kind

/-- The timer is there, of this kind, and will fire. -/
def IsArmed (timers : List Timer) (kind : TimerKind) (number : Nat) : Prop :=
  exists timer, timers[number]? = some timer ∧ timer.kind = kind ∧ timer.state = .armed

/-- How many jobs of each kind the half-way calls still have. -/
structure Workload where
  counts : Nat
  stops : Nat
  callbacks : Nat
  reconnects : Nat
  deriving DecidableEq, Repr

def workload (threads : List (List Job)) : Workload where
  counts := Threads.pendingCount Job.isCount threads
  stops := Threads.pendingCount Job.isStopTimer threads
  callbacks := Threads.pendingCount Job.isReconnectCallback threads
  reconnects := Threads.pendingCount Job.isReconnect threads

/-- Nobody waits in vain.  The timers of the record are what they should be, and a
consumer that is counted or about to be counted has something to wait for. -/
structure Progress (view : Option ConsumerView) (timers : List Timer) (work : Workload) :
    Prop where
  unregistered : view = none -> work.counts = 0
  noStops : work.stops = 0
  idle : forall own number, view = some own -> own.idleTimer = some number ->
    IsTimer timers .idle number
  reconnect : forall own number, view = some own -> own.reconnectTimer = some number ->
    IsArmed timers .reconnect number ∨ 0 < work.callbacks
  moves : forall own, view = some own -> 0 < own.consumers ∨ 0 < work.counts ->
    own.active = true ∨ own.reconnectTimer.isSome = true ∨ 0 < work.reconnects

/-! ## Timers -/

theorem IsTimer.of_armed {timers : List Timer} {kind : TimerKind} {number : Nat}
    (armed : IsArmed timers kind number) : IsTimer timers kind number := by
  obtain ⟨timer, found, same, -⟩ := armed
  exact ⟨timer, found, same⟩

theorem IsTimer.append {timers : List Timer} {kind : TimerKind} {number : Nat}
    (known : IsTimer timers kind number) (more : List Timer) :
    IsTimer (timers ++ more) kind number := by
  obtain ⟨timer, found, same⟩ := known
  refine ⟨timer, ?_, same⟩
  rw [List.getElem?_append_left (List.getElem?_eq_some_iff.mp found).1, found]

theorem IsArmed.append {timers : List Timer} {kind : TimerKind} {number : Nat}
    (armed : IsArmed timers kind number) (more : List Timer) :
    IsArmed (timers ++ more) kind number := by
  obtain ⟨timer, found, same, ready⟩ := armed
  refine ⟨timer, ?_, same, ready⟩
  rw [List.getElem?_append_left (List.getElem?_eq_some_iff.mp found).1, found]

/-- A timer that has just been made. -/
theorem IsArmed.new (timers : List Timer) (kind : TimerKind) (delay : Nat) :
    IsArmed (timers ++ [{ kind := kind, delay := delay }]) kind timers.length :=
  ⟨_, List.getElem?_concat_length, rfl, rfl⟩

/-- Stopping a timer of another kind leaves an armed one armed. -/
theorem IsArmed.stop_other {timers : List Timer} {kind other : TimerKind} {number stopped : Nat}
    (armed : IsArmed timers kind number) (known : IsTimer timers other stopped)
    (different : kind ≠ other) : IsArmed (stopTimer timers (some stopped)) kind number := by
  obtain ⟨timer, found, same, ready⟩ := armed
  obtain ⟨halted, place, own⟩ := known
  refine ⟨timer, ?_, same, ready⟩
  have apart : stopped ≠ number := by
    rintro rfl
    cases found.symm.trans place
    exact different (same.symm.trans own)
  rw [stopTimer, List.getElem?_modify_ne _ _ apart, found]

/-- Firing a timer of another kind leaves an armed one armed. -/
theorem IsArmed.set_other {timers : List Timer} {kind : TimerKind} {number place : Nat}
    {timer : Timer} (armed : IsArmed timers kind number) (found : timers[place]? = some timer)
    (different : kind ≠ timer.kind) (state : TimerState) :
    IsArmed (timers.set place { timer with state := state }) kind number := by
  obtain ⟨own, held, same, ready⟩ := armed
  refine ⟨own, ?_, same, ready⟩
  have apart : place ≠ number := by
    rintro rfl
    cases held.symm.trans found
    exact different same.symm
  rw [List.getElem?_set_ne apart, held]

theorem IsTimer.set {timers : List Timer} {kind : TimerKind} {number place : Nat} {timer : Timer}
    (known : IsTimer timers kind number) (found : timers[place]? = some timer)
    (state : TimerState) : IsTimer (timers.set place { timer with state := state }) kind number := by
  obtain ⟨own, held, same⟩ := known
  by_cases here : place = number
  · subst here
    cases held.symm.trans found
    exact ⟨_, List.getElem?_set_self (List.getElem?_eq_some_iff.mp held).1, same⟩
  · exact ⟨own, by rw [List.getElem?_set_ne here, held], same⟩

/-! ## What each section keeps -/

namespace Progress

variable {view : Option ConsumerView} {own : ConsumerView} {timers : List Timer}
  {work later : Workload}

/-- Other jobs come and go. -/
theorem passes (progress : Progress view timers work) (counts : later.counts ≤ work.counts)
    (stops : later.stops = 0) (callbacks : work.callbacks ≤ later.callbacks)
    (reconnects : work.reconnects ≤ later.reconnects) : Progress view timers later where
  unregistered := fun absent => by
    have none_ := progress.unregistered absent
    omega
  noStops := stops
  idle := progress.idle
  reconnect := fun own number present set => by
    rcases progress.reconnect own number present set with armed | pending
    · exact Or.inl armed
    · exact Or.inr (by omega)
  moves := fun own present awaited => by
    rcases progress.moves own present (by omega) with active | scheduled | pending
    · exact Or.inl active
    · exact Or.inr (Or.inl scheduled)
    · exact Or.inr (Or.inr (by omega))

/-- What is to be shown of a record that is there. -/
theorem of_record (noStops : work.stops = 0)
    (idle : forall number, own.idleTimer = some number -> IsTimer timers .idle number)
    (reconnect : forall number, own.reconnectTimer = some number ->
      IsArmed timers .reconnect number ∨ 0 < work.callbacks)
    (moves : 0 < own.consumers ∨ 0 < work.counts ->
      own.active = true ∨ own.reconnectTimer.isSome = true ∨ 0 < work.reconnects) :
    Progress (some own) timers work where
  unregistered := by
    intro absent
    cases absent
  noStops := noStops
  idle := by
    rintro _ number ⟨⟩ set
    exact idle number set
  reconnect := by
    rintro _ number ⟨⟩ set
    exact reconnect number set
  moves := by
    rintro _ ⟨⟩ awaited
    exact moves awaited

/-- An attempt is started, or was active before. -/
theorem connects (progress : Progress (some own) timers work) (stops : later.stops = 0)
    (callbacks : work.callbacks ≤ later.callbacks) :
    Progress (some { own with active := true }) timers later := by
  refine of_record stops ?_ ?_ ?_
  · intro number set
    exact progress.idle own number rfl set
  · intro number set
    rcases progress.reconnect own number rfl set with armed | pending
    · exact Or.inl armed
    · exact Or.inr (by omega)
  · intro _
    exact Or.inl rfl

/-- Nobody is counted, and nobody is about to be. -/
theorem unwatched (consumers : own.consumers = 0) (counts : work.counts = 0)
    (noStops : work.stops = 0)
    (idle : forall number, own.idleTimer = some number -> IsTimer timers .idle number)
    (reconnect : forall number, own.reconnectTimer = some number ->
      IsArmed timers .reconnect number ∨ 0 < work.callbacks) :
    Progress (some own) timers work := by
  refine of_record noStops idle reconnect ?_
  intro awaited
  omega

/-- A reconnect timer is scheduled, unless one is. -/
theorem schedules (noStops : work.stops = 0) {record : DeviceRecord}
    (idle : forall number, record.idleTimer = some number -> IsTimer timers .idle number)
    (reconnect : forall number, record.reconnectTimer = some number ->
      IsArmed timers .reconnect number ∨ 0 < work.callbacks)
    (consumers : 0 < record.mediaConsumers) :
    Progress (some (scheduleReconnectLocked timers record).2.consumerView)
      (scheduleReconnectLocked timers record).1 work := by
  unfold scheduleReconnectLocked
  split
  · next known =>
      have scheduled : record.reconnectTimer.isSome = true := by
        rcases known with scheduled | nobody
        · exact scheduled
        · omega
      refine of_record noStops idle reconnect ?_
      intro _
      exact Or.inr (Or.inl scheduled)
  · refine of_record noStops ?_ ?_ ?_
    · intro number set
      exact (idle number set).append _
    · intro number set
      cases set
      exact Or.inl (IsArmed.new _ _ _)
    · intro _
      exact Or.inr (Or.inl rfl)

end Progress

section Sections

variable {bridge : Bridge} {record : DeviceRecord} {work later : Workload}

theorem view_of_device (present : bridge.device = some record) :
    bridge.consumerView = some record.consumerView := by
  rw [Bridge.consumerView, present, Option.map_some]

theorem progress_connect (progress : Progress bridge.consumerView bridge.timers work)
    (counts : bridge.device = none -> later.counts = 0) (stops : later.stops = 0)
    (callbacks : work.callbacks ≤ later.callbacks) :
    Progress bridge.connect.consumerView bridge.connect.timers later := by
  unfold Bridge.connect
  split
  · next absent =>
      rw [Bridge.consumerView, absent]
      exact ⟨fun _ => counts absent, stops, nofun, nofun, nofun⟩
  · next record present =>
      rw [view_of_device present] at progress
      split
      · next active =>
          have same : ({ record.consumerView with active := true } : ConsumerView) =
              record.consumerView := by
            rw [← active]
            rfl
          rw [view_of_device present, ← same]
          exact progress.connects stops callbacks
      · exact progress.connects stops callbacks

/-- Nobody is there when the session is taken away. -/
theorem progress_disconnectLocked (state : SessionState) (error : String) (now : Rat)
    (consumers : record.mediaConsumers = 0) (counts : later.counts = 0)
    (stops : later.stops = 0) :
    Progress (bridge.disconnectLocked record state error now).1.consumerView
      (bridge.disconnectLocked record state error now).1.timers later :=
  Progress.unwatched consumers counts stops nofun nofun

theorem progress_loseSession (error : String) (now : Rat) (stops : later.stops = 0)
    (counts : record.mediaConsumers = 0 -> later.counts = 0) :
    Progress (bridge.loseSession record error now).1.consumerView
      (bridge.loseSession record error now).1.timers later := by
  unfold Bridge.loseSession
  dsimp only [Bridge.disconnectLocked]
  split
  · next consumed => exact Progress.schedules stops nofun nofun consumed
  · next nobody =>
      have none_ : record.mediaConsumers = 0 := Nat.eq_zero_of_not_pos nobody
      exact progress_disconnectLocked .failed error now none_ (counts none_) stops

/-- An event of an attempt.  A loss must not meet a consumer that is not counted yet. -/
theorem progress_transition (progress : Progress bridge.consumerView bridge.timers work)
    (number : Nat) (event : SessionEvent) (now : Rat)
    (counts : later.counts ≤ work.counts) (stops : later.stops = 0)
    (callbacks : work.callbacks ≤ later.callbacks)
    (reconnects : work.reconnects ≤ later.reconnects)
    (undisturbed : forall record, bridge.matching number = some record -> event.isLoss = true ->
      record.mediaConsumers = 0 -> work.counts = 0) :
    Progress (bridge.transition number event now).1.consumerView
      (bridge.transition number event now).1.timers later := by
  unfold Bridge.transition
  split
  · exact progress.passes counts stops callbacks reconnects
  · next record current =>
      split
      · next lost =>
          refine progress_loseSession event.error now stops (fun nobody => ?_)
          have none_ := undisturbed record current lost nobody
          omega
      · have present := (Bridge.matching_eq_some.mp current).1
        have same : (Bridge.observed record event.state now).consumerView =
            record.consumerView := by
          unfold Bridge.observed
          split
          · rfl
          · dsimp only
            split
            · rfl
            · rfl
        rw [view_of_device present] at progress
        refine (?_ : Progress (some (Bridge.observed record event.state now).consumerView)
          bridge.timers later)
        rw [same]
        exact progress.passes counts stops callbacks reconnects

/-- An attempt returns an error.  It must not meet a consumer that is not counted yet,
unless a reconnect timer is already there. -/
theorem progress_fail (progress : Progress bridge.consumerView bridge.timers work)
    (number : Nat) (error : String) (now : Rat)
    (undisturbed : forall record, bridge.matching number = some record ->
      record.mediaConsumers = 0 -> work.counts = 0 ∨ record.reconnectTimer.isSome = true) :
    Progress (bridge.fail number error now).consumerView (bridge.fail number error now).timers
      work := by
  unfold Bridge.fail
  split
  · exact progress
  · next record current =>
      have present := (Bridge.matching_eq_some.mp current).1
      rw [view_of_device present] at progress
      have idle : forall timer, record.idleTimer = some timer -> IsTimer bridge.timers .idle timer :=
        fun timer set => progress.idle _ timer rfl set
      have reconnect : forall timer, record.reconnectTimer = some timer ->
          IsArmed bridge.timers .reconnect timer ∨ 0 < work.callbacks :=
        fun timer set => progress.reconnect _ timer rfl set
      dsimp only
      split
      · next consumed => exact Progress.schedules progress.noStops idle reconnect consumed
      · next nobody =>
          have none_ : record.mediaConsumers = 0 := Nat.eq_zero_of_not_pos nobody
          rcases undisturbed record current none_ with uncounted | scheduled
          · exact Progress.unwatched none_ uncounted progress.noStops idle reconnect
          · refine Progress.of_record progress.noStops idle reconnect ?_
            intro _
            exact Or.inr (Or.inl scheduled)

theorem progress_cancelIdleDisconnect
    (progress : Progress bridge.consumerView bridge.timers work) :
    Progress bridge.cancelIdleDisconnect.consumerView bridge.cancelIdleDisconnect.timers work := by
  unfold Bridge.cancelIdleDisconnect
  split
  · exact progress
  · next record present =>
      split
      · next scheduled =>
          obtain ⟨timer, set⟩ := Option.isSome_iff_exists.mp scheduled
          rw [view_of_device present] at progress
          rw [set]
          refine Progress.of_record progress.noStops ?_ ?_ ?_
          · intro number held
            cases held
          · intro number held
            rcases progress.reconnect _ number rfl held with armed | pending
            · exact Or.inl (armed.stop_other (progress.idle _ timer rfl set) (by decide))
            · exact Or.inr pending
          · intro awaited
            exact progress.moves record.consumerView rfl awaited
      · exact progress

/-- A consumer that is about to be counted is counted. -/
theorem progress_countConsumer (progress : Progress bridge.consumerView bridge.timers work)
    (attached : Bool) (now : Rat) (counting : 0 < work.counts)
    (counts : later.counts ≤ work.counts) (stops : later.stops = 0)
    (callbacks : work.callbacks ≤ later.callbacks)
    (reconnects : work.reconnects ≤ later.reconnects) :
    Progress (bridge.countConsumer attached now).1.consumerView
      (bridge.countConsumer attached now).1.timers later := by
  have passed := progress.passes counts stops callbacks reconnects
  unfold Bridge.countConsumer
  split
  · exact passed
  · next record present =>
      split
      · rw [view_of_device present] at progress passed
        refine Progress.of_record stops ?_ ?_ ?_
        · intro number set
          exact passed.idle _ number rfl set
        · intro number set
          exact passed.reconnect _ number rfl set
        · intro _
          rcases progress.moves _ rfl (Or.inr counting) with active | scheduled | pending
          · exact Or.inl active
          · exact Or.inr (Or.inl scheduled)
          · exact Or.inr (Or.inr (by omega))
      · exact passed

theorem progress_releaseMediaConsumer
    (progress : Progress bridge.consumerView bridge.timers work) (now : Rat) :
    Progress (bridge.releaseMediaConsumer now).1.consumerView
      (bridge.releaseMediaConsumer now).1.timers work := by
  unfold Bridge.releaseMediaConsumer
  split
  · exact progress
  · next record present =>
      split
      · next consumed =>
          rw [view_of_device present] at progress
          have moves : record.connectActive = true ∨ record.reconnectTimer.isSome = true ∨
              0 < work.reconnects := progress.moves _ rfl (Or.inl consumed)
          have idle : forall number, record.idleTimer = some number ->
              IsTimer bridge.timers .idle number :=
            fun number set => progress.idle _ number rfl set
          have reconnect : forall number, record.reconnectTimer = some number ->
              IsArmed bridge.timers .reconnect number ∨ 0 < work.callbacks :=
            fun number set => progress.reconnect _ number rfl set
          dsimp only
          split
          · unfold Bridge.storing scheduleIdleDisconnectLocked
            split
            · exact Progress.of_record progress.noStops idle reconnect (fun _ => moves)
            · refine Progress.of_record progress.noStops ?_ ?_ (fun _ => moves)
              · intro number set
                cases set
                exact IsTimer.of_armed (IsArmed.new _ _ _)
              · intro number set
                rcases reconnect number set with armed | pending
                · exact Or.inl (armed.append _)
                · exact Or.inr pending
          · exact Progress.of_record progress.noStops idle reconnect (fun _ => moves)
      · exact progress

/-- The callback of an idle timer must not meet a consumer that is not counted yet. -/
theorem progress_disconnectIfIdle (progress : Progress bridge.consumerView bridge.timers work)
    (now : Rat)
    (undisturbed : forall record, bridge.device = some record -> record.mediaConsumers = 0 ->
      work.counts = 0) :
    Progress (bridge.disconnectIfIdle now).1.consumerView (bridge.disconnectIfIdle now).1.timers
      work := by
  unfold Bridge.disconnectIfIdle
  split
  · exact progress
  · next record present =>
      split
      · exact progress
      · next idle =>
          have none_ : record.mediaConsumers = 0 := not_not.mp idle
          exact progress_disconnectLocked .idle "" now none_ (undisturbed record present none_)
            progress.noStops

/-- The callback of a reconnect timer clears the timer of the record.  With consumers
it goes on to connect. -/
theorem progress_reconnectIfConsumed
    (progress : Progress bridge.consumerView bridge.timers work)
    (counts : later.counts ≤ work.counts) (stops : later.stops = 0)
    (connects : forall record, bridge.device = some record -> 0 < record.mediaConsumers ->
      0 < later.reconnects)
    (undisturbed : forall record, bridge.device = some record -> record.mediaConsumers = 0 ->
      work.counts = 0 ∨ record.connectActive = true) :
    Progress bridge.reconnectIfConsumed.1.consumerView bridge.reconnectIfConsumed.1.timers
      later := by
  unfold Bridge.reconnectIfConsumed
  split
  · next absent =>
      rw [Bridge.consumerView, absent] at progress ⊢
      have none_ := progress.unregistered rfl
      exact ⟨fun _ => by omega, stops, nofun, nofun, nofun⟩
  · next record present =>
      rw [view_of_device present] at progress
      refine Progress.of_record stops ?_ ?_ ?_
      · intro number set
        exact progress.idle _ number rfl set
      · intro number set
        cases set
      · intro awaited
        by_cases consumed : 0 < record.mediaConsumers
        · exact Or.inr (Or.inr (connects record present consumed))
        · rcases undisturbed record present (Nat.eq_zero_of_not_pos consumed) with
            uncounted | active
          · rcases awaited with counted | counting
            · exact absurd counted consumed
            · omega
          · exact Or.inl active

end Sections

/-- A timer fires and its callback is started. -/
theorem progress_fireTimer {bridge : Bridge} {number : Nat} {done : Bridge × List Job}
    {work : Workload} (progress : Progress bridge.consumerView bridge.timers work)
    (fired : bridge.fireTimer number = some done) :
    Progress done.1.consumerView done.1.timers
      { work with callbacks := work.callbacks + done.2.countP Job.isReconnectCallback } := by
  obtain ⟨timer, found, -, rfl⟩ := Bridge.fireTimer_eq_some fired
  refine ⟨progress.unregistered, progress.noStops, ?_, ?_, progress.moves⟩
  · intro own idleTimer present set
    exact (progress.idle own idleTimer present set).set found _
  · intro own reconnectTimer present set
    by_cases kind : timer.kind = .reconnect
    · rw [kind]
      exact Or.inr (Nat.succ_pos _)
    · rcases progress.reconnect own reconnectTimer present set with armed | pending
      · exact Or.inl (armed.set_other found (Ne.symm kind) _)
      · exact Or.inr (Nat.lt_of_lt_of_le pending (Nat.le_add_right _ _))

/-! ## Jobs that have no part in it -/

def Job.isPlain (job : Job) : Bool :=
  !job.isCount && !job.isStopTimer && !job.isReconnectCallback && !job.isReconnect

theorem closeResources_plain (cancel session : Option Nat) :
    forall job, job ∈ closeResources cancel session -> job.isPlain = true := by
  intro job member
  rcases List.mem_append.mp member with first | second
  · obtain ⟨attempt, -, rfl⟩ := List.mem_map.mp first
    rfl
  · obtain ⟨attempt, -, rfl⟩ := List.mem_map.mp second
    rfl

theorem transition_plain (bridge : Bridge) (number : Nat) (event : SessionEvent) (now : Rat) :
    forall job, job ∈ (bridge.transition number event now).2 -> job.isPlain = true := by
  unfold Bridge.transition
  split
  · exact nofun
  · split
    · unfold Bridge.loseSession
      dsimp only [Bridge.disconnectLocked]
      split
      · exact closeResources_plain _ _
      · exact closeResources_plain _ _
    · exact nofun

theorem emit_plain (bridge : Bridge) (attempt : Nat) (event : SessionEvent) (now : Rat) :
    forall job, job ∈ (bridge.emit attempt event now).2 -> job.isPlain = true := by
  unfold Bridge.emit
  split
  · exact List.forall_mem_nil _
  · exact transition_plain _ _ _ _

theorem workload_concat (threads : List (List Job)) (jobs : List Job) :
    workload (threads ++ [jobs]) =
      { counts := (workload threads).counts + jobs.countP Job.isCount
        stops := (workload threads).stops + jobs.countP Job.isStopTimer
        callbacks := (workload threads).callbacks + jobs.countP Job.isReconnectCallback
        reconnects := (workload threads).reconnects + jobs.countP Job.isReconnect } := by
  simp only [workload, Threads.pendingCount_concat]

theorem countP_plain {jobs : List Job} (plain : forall job, job ∈ jobs -> job.isPlain = true) :
    jobs.countP Job.isCount = 0 ∧ jobs.countP Job.isStopTimer = 0 ∧
      jobs.countP Job.isReconnectCallback = 0 ∧ jobs.countP Job.isReconnect = 0 := by
  simp only [Job.isPlain, Bool.and_eq_true, Bool.not_eq_true'] at plain
  simp only [List.countP_eq_zero, Bool.not_eq_true]
  exact ⟨fun job member => (plain job member).1.1.1, fun job member => (plain job member).1.1.2,
    fun job member => (plain job member).1.2, fun job member => (plain job member).2⟩

theorem workload_concat_plain (threads : List (List Job)) {jobs : List Job}
    (plain : forall job, job ∈ jobs -> job.isPlain = true) :
    workload (threads ++ [jobs]) = workload threads := by
  obtain ⟨counts, stops, callbacks, reconnects⟩ := countP_plain plain
  rw [workload_concat, counts, stops, callbacks, reconnects]
  rfl

/-- The jobs after a thread has done one and goes on with others. -/
structure Continued (work : Workload) (job : Job) (next : List Job) (later : Workload) :
    Prop where
  counts : later.counts + (if job.isCount then 1 else 0) = work.counts + next.countP Job.isCount
  stops : later.stops + (if job.isStopTimer then 1 else 0) =
    work.stops + next.countP Job.isStopTimer
  callbacks : later.callbacks + (if job.isReconnectCallback then 1 else 0) =
    work.callbacks + next.countP Job.isReconnectCallback
  reconnects : later.reconnects + (if job.isReconnect then 1 else 0) =
    work.reconnects + next.countP Job.isReconnect

theorem continued_of_found {threads : List (List Job)} {number : Nat} {job : Job}
    {rest : List Job} (found : threads[number]? = some (job :: rest)) (next : List Job) :
    Continued (workload threads) job next (workload (threads.set number (next ++ rest))) :=
  ⟨Threads.pendingCount_continued _ found next, Threads.pendingCount_continued _ found next,
    Threads.pendingCount_continued _ found next, Threads.pendingCount_continued _ found next⟩

/-- A plain job goes on with plain jobs. -/
theorem Continued.eq_of_plain {work later : Workload} {job : Job} {next : List Job}
    (continued : Continued work job next later) (plain : job.isPlain = true)
    (plainNext : forall job, job ∈ next -> job.isPlain = true) : later = work := by
  obtain ⟨counts, stops, callbacks, reconnects⟩ := countP_plain plainNext
  simp only [Job.isPlain, Bool.and_eq_true, Bool.not_eq_true'] at plain
  have first := continued.counts
  have second := continued.stops
  have third := continued.callbacks
  have fourth := continued.reconnects
  rw [counts, plain.1.1.1] at first
  rw [stops, plain.1.1.2] at second
  rw [callbacks, plain.1.2] at third
  rw [reconnects, plain.2] at fourth
  cases later
  cases work
  cases first
  cases second
  cases third
  cases fourth
  rfl

/-! ## Runs that do not disturb -/

/-- Nobody is counted yet, and a consumer stands between its request and its count. -/
def awaitsFirst (world : World) : Bool :=
  world.1.device.any (fun record => decide (record.mediaConsumers = 0)) &&
    decide (0 < (workload world.2).counts)

/-- No step takes the connection away from a consumer that is not counted yet. -/
def undisturbed (world : World) : BridgeAction -> Bool
  | .delete => false
  | .disconnect _ => false
  | .event attempt event _ =>
      !(awaitsFirst world && event.isLoss && world.1.isCurrent attempt)
  | .fail attempt _ _ =>
      !(awaitsFirst world && world.1.isCurrent attempt) ||
        world.1.device.any (fun record => record.reconnectTimer.isSome)
  | .advance thread _ =>
      match Threads.nextJob world.2 thread with
      | some .disconnectIfIdle => !awaitsFirst world
      | some .reconnectIfConsumed =>
          !awaitsFirst world || world.1.device.any DeviceRecord.connectActive
      | _ => true
  | _ => true

/-- Nobody waits in vain in a world. -/
def Progresses (world : World) : Prop :=
  Progress world.1.consumerView world.1.timers (workload world.2)

theorem counts_of_not_awaits {world : World} {record : DeviceRecord}
    (calm : awaitsFirst world = false) (present : world.1.device = some record)
    (nobody : record.mediaConsumers = 0) : (workload world.2).counts = 0 := by
  rw [awaitsFirst, present, Option.any_some, decide_eq_true nobody, Bool.true_and,
    decide_eq_false_iff_not] at calm
  exact Nat.eq_zero_of_not_pos calm

theorem progress_emit {world : World} {later : Workload} (progress : Progresses world)
    (attempt : Nat) (event : SessionEvent) (now : Rat)
    (same : later = workload world.2)
    (calm : (awaitsFirst world && event.isLoss && world.1.isCurrent attempt) = false) :
    Progress (world.1.emit attempt event now).1.consumerView
      (world.1.emit attempt event now).1.timers later := by
  subst same
  unfold Bridge.emit
  split
  · exact progress
  · next own found =>
      have marked : Progress (world.1.modifyAttempt attempt (Attempt.emitted event)).consumerView
          world.1.timers (workload world.2) := progress
      refine progress_transition marked own.number event now le_rfl progress.noStops le_rfl
        le_rfl ?_
      intro record current lost nobody
      have isCurrent : world.1.isCurrent attempt = true := by
        rw [Bridge.isCurrent, found, Option.any_some]
        exact Option.isSome_iff_exists.mpr ⟨record, current⟩
      rw [lost, isCurrent, Bool.and_true, Bool.and_true] at calm
      exact counts_of_not_awaits calm (Bridge.matching_eq_some.mp current).1 nobody

/-- A call keeps the progress. -/
theorem progresses_called {world : World} {action : BridgeAction} {done : Bridge × List Job}
    (progress : Progresses world) (calm : undisturbed world action = true)
    (started : world.1.call action = some done) : Progresses (done.1, world.2 ++ [done.2]) := by
  cases action with
  | delete => cases calm
  | disconnect now => cases calm
  | advance thread environment => cases started
  | upsert uid ip now =>
      cases started
      rw [Progresses, workload_concat_plain _ (List.forall_mem_nil _)]
      unfold Bridge.upsert
      split
      · split
        · next absent =>
            have none_ : (workload world.2).counts = 0 := by
              refine progress.unregistered ?_
              rw [Bridge.consumerView, absent, Option.map_none]
            exact Progress.unwatched rfl none_ progress.noStops nofun nofun
        · next record present =>
            have before := progress
            rw [Progresses, view_of_device present] at before
            exact before
      · exact progress
  | connect =>
      cases started
      rw [Progresses, workload_concat_plain _ (List.forall_mem_nil _)]
      refine progress_connect progress (fun absent => progress.unregistered ?_) progress.noStops
        le_rfl
      rw [Bridge.consumerView, absent, Option.map_none]
  | addMediaConsumer =>
      cases started
      rw [Progresses, workload_concat_plain]
      · exact progress
      · simp only [List.mem_cons, List.not_mem_nil, or_false]
        rintro job (rfl | rfl)
        · rfl
        · rfl
  | release number =>
      obtain ⟨function, -, -, rfl⟩ := Bridge.callRelease_eq_some started
      rw [Progresses, workload_concat_plain]
      · exact progress
      · intro job member
        rw [List.mem_singleton.mp member]
        rfl
  | fire number =>
      have after := progress_fireTimer progress started
      have single : done.2.countP Job.isCount = 0 ∧ done.2.countP Job.isStopTimer = 0 ∧
          done.2.countP Job.isReconnect = 0 := by
        obtain ⟨timer, -, -, rfl⟩ := Bridge.fireTimer_eq_some started
        cases timer.kind with
        | idle => exact ⟨rfl, rfl, rfl⟩
        | reconnect => exact ⟨rfl, rfl, rfl⟩
      rw [Progresses, workload_concat, single.1, single.2.1, single.2.2]
      exact after
  | event attempt event now =>
      cases started
      rw [undisturbed, Bool.not_eq_true'] at calm
      exact progress_emit progress attempt event now
        (workload_concat_plain _ (emit_plain _ _ _ _)) calm
  | succeed attempt =>
      obtain ⟨own, found, -, rfl⟩ := Bridge.succeedAttempt_eq_some started
      unfold Bridge.connected
      split
      · rw [Progresses, workload_concat_plain]
        · exact progress
        · intro job member
          rw [List.mem_singleton.mp member]
          rfl
      · next record current =>
          have present : world.1.device = some record :=
            (Bridge.matching_eq_some.mp current).1
          have before := progress
          rw [Progresses, view_of_device present] at before
          rw [Progresses, workload_concat_plain]
          · exact before
          · intro job member
            split at member
            · rw [List.mem_singleton.mp member]
              rfl
            · cases member
  | fail attempt error now =>
      obtain ⟨after, failed, rfl⟩ := Option.map_eq_some_iff.mp started
      obtain ⟨own, found, -, rfl⟩ := Bridge.failAttempt_eq_some failed
      rw [Progresses, workload_concat_plain _ (List.forall_mem_nil _)]
      refine @progress_fail (world.1.modifyAttempt attempt _) (workload world.2) progress
        own.number error now ?_
      intro record current nobody
      have present : world.1.device = some record :=
        (Bridge.matching_eq_some.mp current).1
      have isCurrent : world.1.isCurrent attempt = true := by
        rw [Bridge.isCurrent, found, Option.any_some]
        exact Option.isSome_iff_exists.mpr ⟨record, current⟩
      rw [undisturbed, isCurrent, Bool.and_true, Bool.or_eq_true, Bool.not_eq_true',
        present, Option.any_some] at calm
      rcases calm with calm | scheduled
      · exact Or.inl (counts_of_not_awaits calm present nobody)
      · exact Or.inr scheduled

theorem map_plain {make : Nat -> Job} (plain : forall number, (make number).isPlain = true)
    (number : Option Nat) : forall job, job ∈ number.toList.map make -> job.isPlain = true := by
  intro job member
  obtain ⟨own, -, rfl⟩ := List.mem_map.mp member
  exact plain own

/-- Only two jobs leave something behind that has a part in it. -/
theorem perform_plain (bridge : Bridge) (environment : Environment) {job : Job}
    (noConsumer : job ≠ .connectConsumer) (noCallback : job ≠ .reconnectIfConsumed) :
    forall next, next ∈ (perform bridge environment job).2 -> next.isPlain = true := by
  cases job with
  | connectConsumer => exact absurd rfl noConsumer
  | reconnectIfConsumed => exact absurd rfl noCallback
  | cancelIdleDisconnect => exact List.forall_mem_nil _
  | handOut => exact List.forall_mem_nil _
  | reconnect => exact List.forall_mem_nil _
  | stopTimer timer => exact List.forall_mem_nil _
  | cancelAttempt attempt => exact List.forall_mem_nil _
  | countConsumer =>
      rw [perform, Bridge.countConsumer]
      split
      · exact List.forall_mem_nil _
      · split
        · refine List.forall_mem_append.mpr ⟨map_plain (fun _ => rfl) _, ?_⟩
          exact List.forall_mem_singleton.mpr rfl
        · exact List.forall_mem_nil _
  | releaseMediaConsumer registration =>
      rw [perform, Bridge.releaseMediaConsumer]
      split
      · exact List.forall_mem_nil _
      · split
        · dsimp only
          split
          · exact map_plain (fun _ => rfl) _
          · exact List.forall_mem_nil _
        · exact List.forall_mem_nil _
  | disconnectIfIdle =>
      rw [perform, Bridge.disconnectIfIdle]
      split
      · exact List.forall_mem_nil _
      · split
        · exact List.forall_mem_nil _
        · exact closeResources_plain _ _
  | closeSession session =>
      rw [perform, Bridge.closeSession]
      split
      · exact List.forall_mem_nil _
      · exact List.forall_mem_singleton.mpr rfl
  | startAudio session =>
      rw [perform, Bridge.startAudio]
      split
      · exact List.forall_mem_nil _
      · exact List.forall_mem_singleton.mpr rfl
  | stopAudio session =>
      rw [perform, Bridge.stopAudio]
      split
      · exact List.forall_mem_nil _
      · exact List.forall_mem_singleton.mpr rfl
  | emitStreaming session => exact emit_plain _ _ _ _

/-- Work on a session is no work on the record. -/
theorem progress_session {bridge : Bridge} {work : Workload} {done : Bridge × List Job}
    (progress : Progress bridge.consumerView bridge.timers work)
    (kept : done.1.device = bridge.device ∧ done.1.timers = bridge.timers) :
    Progress done.1.consumerView done.1.timers work := by
  rw [Bridge.consumerView, kept.1, kept.2]
  exact progress

theorem session_frame (bridge : Bridge) (session : Nat) (sent : Bool) :
    ((bridge.closeSession session).1.device = bridge.device ∧
        (bridge.closeSession session).1.timers = bridge.timers) ∧
      ((bridge.startAudio session sent).1.device = bridge.device ∧
        (bridge.startAudio session sent).1.timers = bridge.timers) ∧
      ((bridge.stopAudio session sent).1.device = bridge.device ∧
        (bridge.stopAudio session sent).1.timers = bridge.timers) := by
  unfold Bridge.closeSession Bridge.startAudio Bridge.stopAudio
  refine ⟨?_, ?_, ?_⟩
  · split
    · exact ⟨rfl, rfl⟩
    · exact ⟨rfl, rfl⟩
  · split
    · exact ⟨rfl, rfl⟩
    · exact ⟨rfl, rfl⟩
  · split
    · exact ⟨rfl, rfl⟩
    · exact ⟨rfl, rfl⟩

/-- A job that leaves plain jobs behind takes at most itself away. -/
theorem Continued.of_plainNext {work later : Workload} {job : Job} {next : List Job}
    (continued : Continued work job next later)
    (plainNext : forall job, job ∈ next -> job.isPlain = true) : Continued work job [] later := by
  obtain ⟨counts, stops, callbacks, reconnects⟩ := countP_plain plainNext
  refine ⟨?_, ?_, ?_, ?_⟩
  · rw [continued.counts, counts, List.countP_nil]
  · rw [continued.stops, stops, List.countP_nil]
  · rw [continued.callbacks, callbacks, List.countP_nil]
  · rw [continued.reconnects, reconnects, List.countP_nil]

section Jobs

variable {bridge : Bridge} (environment : Environment) {work later : Workload}

/-- The request of a consumer: the count it leaves behind finds the connection. -/
theorem progress_performConnectConsumer
    (progress : Progress bridge.consumerView bridge.timers work)
    (continued : Continued work .connectConsumer (perform bridge environment .connectConsumer).2
      later) :
    Progress (perform bridge environment .connectConsumer).1.consumerView
      (perform bridge environment .connectConsumer).1.timers later := by
  refine progress_connect progress (fun absent => ?_) ?_ ?_
  · have counts := continued.counts
    have none_ : work.counts = 0 := by
      refine progress.unregistered ?_
      rw [Bridge.consumerView, absent, Option.map_none]
    rw [perform, absent] at counts
    exact counts.trans none_
  · refine continued.stops.trans ?_
    rw [progress.noStops, perform]
    split
    · rfl
    · rfl
  · refine le_of_eq ((continued.callbacks.trans ?_).symm)
    rw [perform]
    split
    · rfl
    · rfl

/-- The count of a consumer is one job less that is to be done. -/
theorem progress_performCountConsumer
    (progress : Progress bridge.consumerView bridge.timers work)
    (continued : Continued work .countConsumer [] later) :
    Progress (perform bridge environment .countConsumer).1.consumerView
      (perform bridge environment .countConsumer).1.timers later := by
  have counts : later.counts + 1 = work.counts := continued.counts
  have stops : later.stops = work.stops := continued.stops
  have callbacks : later.callbacks = work.callbacks := continued.callbacks
  have reconnects : later.reconnects = work.reconnects := continued.reconnects
  exact progress_countConsumer progress _ _ (by omega) (by omega) (stops.trans progress.noStops)
    (le_of_eq callbacks.symm) (le_of_eq reconnects.symm)

/-- The callback of a reconnect timer leaves the connection behind where somebody watches. -/
theorem progress_performReconnectIfConsumed
    (progress : Progress bridge.consumerView bridge.timers work)
    (continued : Continued work .reconnectIfConsumed
      (perform bridge environment .reconnectIfConsumed).2 later)
    (undisturbed : forall record, bridge.device = some record -> record.mediaConsumers = 0 ->
      work.counts = 0 ∨ record.connectActive = true) :
    Progress (perform bridge environment .reconnectIfConsumed).1.consumerView
      (perform bridge environment .reconnectIfConsumed).1.timers later := by
  refine progress_reconnectIfConsumed progress ?_ ?_ ?_ undisturbed
  · refine le_of_eq (continued.counts.trans ?_)
    rw [perform, Bridge.reconnectIfConsumed]
    split
    · rfl
    · dsimp only
      split
      · rfl
      · rfl
  · refine continued.stops.trans ?_
    rw [progress.noStops, perform, Bridge.reconnectIfConsumed]
    split
    · rfl
    · dsimp only
      split
      · rfl
      · rfl
  · intro record present consumed
    have reconnects := continued.reconnects
    rw [perform, Bridge.reconnectIfConsumed, present] at reconnects
    simp only [if_pos consumed] at reconnects
    exact lt_of_lt_of_eq (Nat.succ_pos _) reconnects.symm

/-- The connection of a reconnect callback. -/
theorem progress_performReconnect (progress : Progress bridge.consumerView bridge.timers work)
    (continued : Continued work .reconnect [] later) :
    Progress (perform bridge environment .reconnect).1.consumerView
      (perform bridge environment .reconnect).1.timers later := by
  have counts : later.counts = work.counts := continued.counts
  have stops : later.stops = work.stops := continued.stops
  have callbacks : later.callbacks = work.callbacks := continued.callbacks
  refine progress_connect progress (fun absent => ?_) (stops.trans progress.noStops)
    (le_of_eq callbacks.symm)
  refine counts.trans (progress.unregistered ?_)
  rw [Bridge.consumerView, absent, Option.map_none]

end Jobs

/-- A plain job that leaves plain jobs behind: the work is the same before and after it. -/
theorem progress_performPlain {world : World} {job : Job} (progress : Progresses world)
    (environment : Environment) (plain : job.isPlain = true) (noConsumer : job ≠ .connectConsumer)
    (nobodyAwaits : job = .disconnectIfIdle -> awaitsFirst world = false) :
    Progress (perform world.1 environment job).1.consumerView
      (perform world.1 environment job).1.timers (workload world.2) := by
  have frame := session_frame world.1
  cases job with
  | connectConsumer => exact absurd rfl noConsumer
  | countConsumer => cases plain
  | stopTimer timer => cases plain
  | reconnectIfConsumed => cases plain
  | reconnect => cases plain
  | cancelIdleDisconnect => exact progress_cancelIdleDisconnect progress
  | handOut => exact progress
  | cancelAttempt attempt => exact progress
  | releaseMediaConsumer registration =>
      exact progress_releaseMediaConsumer progress environment.now
  | disconnectIfIdle =>
      exact progress_disconnectIfIdle progress environment.now fun record present nobody =>
        counts_of_not_awaits (nobodyAwaits rfl) present nobody
  | closeSession session => exact progress_session progress (frame session true).1
  | startAudio session => exact progress_session progress (frame session environment.sent).2.1
  | stopAudio session => exact progress_session progress (frame session environment.sent).2.2
  | emitStreaming session =>
      have noLoss : SessionEvent.isLoss { state := .streaming } = false := by decide
      refine progress_emit progress session _ _ rfl ?_
      rw [noLoss, Bool.and_false, Bool.false_and]

/-- A job keeps the progress. -/
theorem progresses_advanced {world : World} {thread : Nat} {environment : Environment} {job : Job}
    {rest : List Job} (progress : Progresses world)
    (calm : undisturbed world (.advance thread environment) = true)
    (found : world.2[thread]? = some (job :: rest)) :
    Progresses ((perform world.1 environment job).1,
      world.2.set thread ((perform world.1 environment job).2 ++ rest)) := by
  have continued := continued_of_found found (perform world.1 environment job).2
  have next : Threads.nextJob world.2 thread = some job := by
    rw [Threads.nextJob, found, Option.bind_some, List.head?_cons]
  rw [undisturbed, next] at calm
  rw [Progresses]
  by_cases ordinary : job.isPlain = true ∧ job ≠ .connectConsumer
  · obtain ⟨plain, noConsumer⟩ := ordinary
    have noCallback : job ≠ .reconnectIfConsumed := by
      rintro rfl
      cases plain
    rw [continued.eq_of_plain plain (perform_plain world.1 environment noConsumer noCallback)]
    refine progress_performPlain progress environment plain noConsumer ?_
    rintro rfl
    exact Bool.not_eq_true' _ ▸ calm
  · cases job with
    | connectConsumer => exact progress_performConnectConsumer environment progress continued
    | countConsumer =>
        exact progress_performCountConsumer environment progress
          (continued.of_plainNext (perform_plain world.1 environment (by rintro ⟨⟩) (by rintro ⟨⟩)))
    | reconnectIfConsumed =>
        refine progress_performReconnectIfConsumed environment progress continued
          fun record present nobody => ?_
        rw [Bool.or_eq_true, Bool.not_eq_true', present, Option.any_some] at calm
        rcases calm with calm | active
        · exact Or.inl (counts_of_not_awaits calm present nobody)
        · exact Or.inr active
    | reconnect =>
        exact progress_performReconnect environment progress
          (continued.of_plainNext (perform_plain world.1 environment (by rintro ⟨⟩) (by rintro ⟨⟩)))
    | stopTimer timer =>
        -- nobody stops a timer in a run of this kind
        have stops := continued.stops
        rw [progress.noStops] at stops
        cases stops
    | _ => exact absurd ⟨rfl, by rintro ⟨⟩⟩ ordinary

theorem progresses_step {world after : World} {action : BridgeAction}
    (progress : Progresses world) (calm : undisturbed world action = true)
    (moved : bridgeMachine.step world action = some after) : Progresses after := by
  cases worldStep_of_step moved with
  | called started => exact progresses_called progress calm started
  | advanced found => exact progresses_advanced progress calm found

/-- In every run whose steps take no connection away from a consumer that is not
counted yet, whenever no call is half-way a camera with consumers is connecting or
has a reconnect timer that will fire. -/
theorem consumed_camera_makes_progress (actions : List BridgeAction)
    (calm : bridgeMachine.Meets (fun world action => undisturbed world action = true) ({}, [])
      actions) :
    let world := bridgeMachine.run ({}, []) actions
    Quiescent world -> forall record, world.1.device = some record -> 0 < record.mediaConsumers ->
      record.connectActive = true ∨
        exists number, record.reconnectTimer = some number ∧
          IsArmed world.1.timers .reconnect number := by
  intro world quiescent record present consumed
  have progress : Progresses world := by
    refine Machine.run_invariant_of_meets _ _ Progresses ?_ ({}, []) actions ?_ calm
    · intro before action after holds condition moved
      exact progresses_step holds condition moved
    · exact ⟨fun _ => rfl, rfl, nofun, nofun, nofun⟩
  rw [Progresses, view_of_device present] at progress
  have idle := fun selected => Threads.pendingCount_eq_zero selected quiescent
  rcases progress.moves _ rfl (Or.inl consumed) with active | scheduled | pending
  · exact Or.inl active
  · obtain ⟨number, set⟩ := Option.isSome_iff_exists.mp scheduled
    rcases progress.reconnect _ number rfl set with armed | pending
    · exact Or.inr ⟨number, set, armed⟩
    · exact absurd pending (Nat.not_lt_of_le (Nat.le_of_eq (idle Job.isReconnectCallback)))
  · exact absurd pending (Nat.not_lt_of_le (Nat.le_of_eq (idle Job.isReconnect)))

/-! ## A consumer that is left alone -/

/-- The attempt of the first consumer fails before the consumer is counted.  Nobody is
connecting for it, and no timer was ever made. -/
theorem failure_before_count_strands_consumer :
    let world := bridgeMachine.run ({}, [])
      [.upsert exampleUid none 0, .addMediaConsumer, .advance 1 atOnce, .advance 1 atOnce,
        .fail 0 "timeout" 1, .advance 1 atOnce, .advance 1 atOnce]
    Quiescent world ∧ world.1.timers = [] ∧
      world.1.device.any (fun record =>
        decide (record.mediaConsumers = 1) && !record.connectActive) = true := by
  decide

/-- The attempt fails after the consumer is counted, and a reconnect timer is armed. -/
theorem consumed_camera_makes_progress_after_failure :
    let actions := [.upsert exampleUid none 0, .addMediaConsumer, .advance 1 atOnce,
      .advance 1 atOnce, .advance 1 atOnce, .advance 1 atOnce, .fail 0 "timeout" 1]
    let world := bridgeMachine.run ({}, []) actions
    (world.1.device.any (fun record => decide (record.mediaConsumers = 1)) = true) ∧
      forall record, world.1.device = some record -> 0 < record.mediaConsumers ->
        record.connectActive = true ∨
          exists number, record.reconnectTimer = some number ∧
            IsArmed world.1.timers .reconnect number :=
  ⟨by decide, consumed_camera_makes_progress _ (by decide) (by decide)⟩

end Camera
end PetlibroRelay
