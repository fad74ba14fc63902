import PetlibroRelay.Camera.FrameFanOut

namespace PetlibroRelay
namespace Camera

open Foundations

/-!
# The frames of each session

A session comes to one frame after the other, and what it hands out it has come to before.
The publisher is given frames only of sessions the registry has been told of, and while
the loop of a session is about to publish a frame, everything else of that session is
older.  Every thread has at most one frame on its way to the track.

These facts hold in every run.  They order the frames of one session before they reach the
track, and they say nothing about two sessions.
-/

namespace FanOut

/-! ## Frames on their way -/

/-- A frame is on its way to the track. -/
def Carries (state : FanOut) (frame : CameraFrame) : Prop :=
  exists thread job, job ∈ state.pending thread ∧ job.carried = some frame

/-- The publisher has been given a frame. -/
def Given (state : FanOut) (frame : CameraFrame) : Prop :=
  state.latestFrame = some frame ∨ state.Carries frame ∨
    exists consumer, consumer ∈ state.consumers ∧
      exists packet, packet ∈ consumer.received ∧ packet.frame = frame

/-- A place is one the session has come to, and not yet that of the frame its loop is
about to publish. -/
def Reached (state : FanOut) (number place : Nat) : Prop :=
  (exists session, state.sessions[number]? = some session ∧ place ≤ session.lastPlace) ∧
    forall frame, .publishFrame number frame ∈ state.pending (.loop number) -> place < frame.place

/-- The registry has been told of a session. -/
def IsConnected (state : FanOut) (number : Nat) : Prop :=
  exists session, state.sessions[number]? = some session ∧ session.connected = true

@[simp] theorem doing_camera (state : FanOut) (thread : FrameThread) (jobs : List FrameJob) :
    (state.doing thread jobs).camera = state.camera := rfl

@[simp] theorem doing_sessions (state : FanOut) (thread : FrameThread) (jobs : List FrameJob) :
    (state.doing thread jobs).sessions = state.sessions := rfl

@[simp] theorem doing_latestFrame (state : FanOut) (thread : FrameThread)
    (jobs : List FrameJob) : (state.doing thread jobs).latestFrame = state.latestFrame := rfl

@[simp] theorem doing_consumers (state : FanOut) (thread : FrameThread) (jobs : List FrameJob) :
    (state.doing thread jobs).consumers = state.consumers := rfl

theorem pending_doing_self (state : FanOut) (thread : FrameThread) (jobs : List FrameJob) :
    (state.doing thread jobs).pending thread = jobs := by
  rw [doing]
  exact Function.update_self thread jobs state.pending

theorem pending_doing_of_ne (state : FanOut) {thread other : FrameThread} (ne : other ≠ thread)
    (jobs : List FrameJob) : (state.doing thread jobs).pending other = state.pending other := by
  rw [doing]
  exact Function.update_of_ne ne jobs state.pending

/-- A job of a thread that goes on is one of its new jobs or was there before. -/
theorem mem_pending_doing {state : FanOut} {thread other : FrameThread} {jobs : List FrameJob}
    {job : FrameJob} (member : job ∈ (state.doing thread jobs).pending other) :
    (other = thread ∧ job ∈ jobs) ∨ (other ≠ thread ∧ job ∈ state.pending other) := by
  by_cases same : other = thread
  · subst other
    rw [pending_doing_self] at member
    exact Or.inl ⟨rfl, member⟩
  · rw [pending_doing_of_ne state same] at member
    exact Or.inr ⟨same, member⟩

end FanOut

/-! ## What the threads do -/

/-- The jobs a thread can have. -/
inductive FrameThread.Runs : FrameThread -> List FrameJob -> Prop where
  | idle (thread : FrameThread) : Runs thread []
  | opening (number : Nat) (frame : CameraFrame) :
      Runs (.opening number) [.publishFrame number frame]
  | completing (number : Nat) (frame : CameraFrame) :
      Runs (.loop number) [.publishFrame number frame]
  | publishing (number : Nat) {job : FrameJob} {frame : CameraFrame}
      (carried : job.carried = some frame) (own : frame.session = number) :
      Runs (.loop number) [job]
  | subscribing {job : FrameJob} {frame : CameraFrame} (carried : job.carried = some frame) :
      Runs .registry [job]
  | adding (consumer : Nat) : Runs .registry [.replay consumer, .attached consumer]
  | replaying (consumer : Nat) {job : FrameJob} {frame : CameraFrame}
      (carried : job.carried = some frame) : Runs .registry [job, .attached consumer]
  | leaving (consumer : Nat) : Runs .registry [.attached consumer]

namespace FrameThread.Runs

variable {thread : FrameThread} {job : FrameJob} {rest : List FrameJob} {frame : CameraFrame}

/-- Behind a frame a thread has nothing to do but to leave. -/
theorem rest_of_carried (runs : thread.Runs (job :: rest)) (carried : job.carried = some frame) :
    rest = [] ∨ thread = .registry ∧ exists consumer, rest = [.attached consumer] := by
  cases runs with
  | opening number other => exact Or.inl rfl
  | completing number other => exact Or.inl rfl
  | publishing number other own => exact Or.inl rfl
  | subscribing other => exact Or.inl rfl
  | adding consumer => cases carried
  | replaying consumer other => exact Or.inr ⟨rfl, consumer, rfl⟩
  | leaving consumer => cases carried

/-- Only the registry and the loop of its own session bring a frame to the track. -/
theorem thread_of_carried (runs : thread.Runs (job :: rest)) (carried : job.carried = some frame) :
    thread = .registry ∨ thread = .loop frame.session := by
  cases runs with
  | opening number other => cases carried
  | completing number other => cases carried
  | publishing number other own =>
      rw [carried, Option.some.injEq] at other
      rw [other, own]
      exact Or.inr rfl
  | subscribing other => exact Or.inl rfl
  | adding consumer => exact Or.inl rfl
  | replaying consumer other => exact Or.inl rfl
  | leaving consumer => exact Or.inl rfl

/-- The thread can have another job with the same frame instead, or none. -/
theorem resume (runs : thread.Runs (job :: rest)) (carried : job.carried = some frame)
    {next : List FrameJob} (further : next = [] ∨ exists other, next = [other] ∧
      other.carried = some frame) : thread.Runs (next ++ rest) := by
  rcases further with none | ⟨other, one, brings⟩
  · rw [none, List.nil_append]
    rcases runs.rest_of_carried carried with empty | ⟨same, consumer, leaves⟩
    · rw [empty]
      exact .idle thread
    · rw [same, leaves]
      exact .leaving consumer
  · rw [one, List.singleton_append]
    rcases runs.rest_of_carried carried with empty | ⟨same, consumer, leaves⟩
    · rw [empty]
      rcases runs.thread_of_carried carried with same | same
      · rw [same]
        exact .subscribing brings
      · rw [same]
        exact .publishing frame.session brings rfl
    · rw [same, leaves]
      exact .replaying consumer brings

end FrameThread.Runs

/-! ## Sessions -/

/-- What holds of the session with a number. -/
structure FrameSession.Fits (state : FanOut) (number : Nat) (session : FrameSession) : Prop where
  cached : forall frame, session.latestKeyframe = some frame ->
    frame.session = number ∧ state.Reached number frame.place
  quiet : session.connected = false -> session.frameCallbacks = []
  single : session.frameCallbacks.length ≤ 1

namespace FrameSession

variable (session : FrameSession) (frame : CameraFrame)

@[simp] theorem keepKeyframe_lastPlace : (session.keepKeyframe frame).lastPlace = session.lastPlace := by
  rw [keepKeyframe]
  split <;> rfl

@[simp] theorem keepKeyframe_connected : (session.keepKeyframe frame).connected = session.connected := by
  rw [keepKeyframe]
  split <;> rfl

@[simp] theorem keepKeyframe_frameCallbacks :
    (session.keepKeyframe frame).frameCallbacks = session.frameCallbacks := by
  rw [keepKeyframe]
  split <;> rfl

theorem latestKeyframe_keepKeyframe {late : CameraFrame}
    (kept : (session.keepKeyframe frame).latestKeyframe = some late) :
    late = frame ∨ session.latestKeyframe = some late := by
  rw [keepKeyframe] at kept
  split at kept
  · exact Or.inl (Option.some.inj kept).symm
  · exact Or.inr kept

end FrameSession

namespace FanOut

/-- What holds of the sessions and the threads in every run. -/
structure SessionsKept (state : FanOut) : Prop where
  running : forall thread : FrameThread, thread.Runs (state.pending thread)
  fits : forall (number : Nat) (session : FrameSession),
    state.sessions[number]? = some session -> session.Fits state number
  given : forall frame, state.Given frame ->
    state.IsConnected frame.session ∧ state.Reached frame.session frame.place
  opening : forall number frame, .publishFrame number frame ∈ state.pending (.opening number) ->
    frame.session = number ∧ ¬ state.IsConnected number ∧ state.Reached number frame.place
  completing : forall number frame, .publishFrame number frame ∈ state.pending (.loop number) ->
    frame.session = number ∧
      exists session, state.sessions[number]? = some session ∧ frame.place ≤ session.lastPlace

/-- The sessions have only come further. -/
structure Grown (state after : FanOut) : Prop where
  sessions : forall (number : Nat) (session : FrameSession),
    state.sessions[number]? = some session -> exists later, after.sessions[number]? = some later ∧
      session.lastPlace ≤ later.lastPlace ∧ (session.connected = true -> later.connected = true)
  completing : forall number frame, .publishFrame number frame ∈ after.pending (.loop number) ->
    .publishFrame number frame ∈ state.pending (.loop number) ∨
      exists session, state.sessions[number]? = some session ∧ session.lastPlace < frame.place

variable {state after : FanOut}

theorem Grown.reached (grown : state.Grown after) {number place : Nat}
    (reached : state.Reached number place) : after.Reached number place := by
  obtain ⟨⟨session, found, bounded⟩, before⟩ := reached
  constructor
  · obtain ⟨later, foundLater, further, -⟩ := grown.sessions number session found
    exact ⟨later, foundLater, Nat.le_trans bounded further⟩
  · intro frame pending
    rcases grown.completing number frame pending with old | ⟨same, foundSame, new⟩
    · exact before frame old
    · rw [found, Option.some.injEq] at foundSame
      subst same
      exact Nat.lt_of_le_of_lt bounded new

theorem Grown.connected (grown : state.Grown after) {number : Nat}
    (connected : state.IsConnected number) : after.IsConnected number := by
  obtain ⟨session, found, told⟩ := connected
  obtain ⟨later, foundLater, -, kept⟩ := grown.sessions number session found
  exact ⟨later, foundLater, kept told⟩

theorem Grown.fits (grown : state.Grown after) {number : Nat} {session : FrameSession}
    (fits : session.Fits state number) : session.Fits after number where
  cached frame kept := ⟨(fits.cached frame kept).1, grown.reached (fits.cached frame kept).2⟩
  quiet := fits.quiet
  single := fits.single

/-- The sessions are untouched and the loops have nothing new to publish. -/
theorem Grown.of_sessions_eq (sessions : after.sessions = state.sessions)
    (jobs : forall number frame, .publishFrame number frame ∈ after.pending (.loop number) ->
      .publishFrame number frame ∈ state.pending (.loop number)) : state.Grown after where
  sessions number session found := by
    refine ⟨session, ?_, Nat.le_refl _, id⟩
    rw [sessions]
    exact found
  completing number frame pending := Or.inl (jobs number frame pending)

/-- One session is replaced by one that has come further. -/
theorem Grown.of_set {number : Nat} {session later : FrameSession}
    (found : state.sessions[number]? = some session)
    (sessions : after.sessions = state.sessions.set number later)
    (further : session.lastPlace ≤ later.lastPlace)
    (told : session.connected = true -> later.connected = true)
    (completing : forall number frame,
      .publishFrame number frame ∈ after.pending (.loop number) ->
        .publishFrame number frame ∈ state.pending (.loop number) ∨
          exists session, state.sessions[number]? = some session ∧
            session.lastPlace < frame.place) : state.Grown after where
  sessions other old foundOld := by
    rw [sessions]
    by_cases same : number = other
    · subst other
      rw [found, Option.some.injEq] at foundOld
      subst old
      have inside := (List.getElem?_eq_some_iff.mp found).1
      exact ⟨later, List.getElem?_set_self inside, further, told⟩
    · rw [List.getElem?_set_ne same]
      exact ⟨old, foundOld, Nat.le_refl _, id⟩
  completing := completing

/-- A step that leaves the sessions alone and gives the publisher nothing. -/
theorem SessionsKept.of_sessions_eq (kept : state.SessionsKept)
    (sessions : after.sessions = state.sessions)
    (running : forall thread : FrameThread, thread.Runs (after.pending thread))
    (given : forall frame, after.Given frame -> state.Given frame)
    (jobs : forall thread number frame, .publishFrame number frame ∈ after.pending thread ->
      .publishFrame number frame ∈ state.pending thread) : after.SessionsKept := by
  have grown : state.Grown after := .of_sessions_eq sessions (fun number => jobs (.loop number) number)
  refine ⟨running, ?_, ?_, ?_, ?_⟩
  · intro number session found
    rw [sessions] at found
    exact grown.fits (kept.fits number session found)
  · intro frame gave
    have before := kept.given frame (given frame gave)
    exact ⟨grown.connected before.1, grown.reached before.2⟩
  · intro number frame pending
    obtain ⟨own, untold, reached⟩ := kept.opening number frame (jobs _ number frame pending)
    refine ⟨own, ?_, grown.reached reached⟩
    intro told
    rw [IsConnected, sessions] at told
    exact untold told
  · intro number frame pending
    rw [sessions]
    exact kept.completing number frame (jobs _ number frame pending)

/-- A step that replaces one session by one that has come further. -/
theorem SessionsKept.of_set (kept : state.SessionsKept) {number : Nat}
    {session later : FrameSession} (found : state.sessions[number]? = some session)
    (sessions : after.sessions = state.sessions.set number later) (grown : state.Grown after)
    (fits : later.Fits after number)
    (told : later.connected = true -> session.connected = true ∨ state.pending (.opening number) = [])
    (running : forall thread : FrameThread, thread.Runs (after.pending thread))
    (given : forall frame, after.Given frame -> state.Given frame ∨
      frame.session = number ∧ after.IsConnected number ∧ after.Reached number frame.place)
    (opening : forall other frame, .publishFrame other frame ∈ after.pending (.opening other) ->
      .publishFrame other frame ∈ state.pending (.opening other))
    (completing : forall other frame, .publishFrame other frame ∈ after.pending (.loop other) ->
      .publishFrame other frame ∈ state.pending (.loop other) ∨
        other = number ∧ frame.session = number ∧ frame.place ≤ later.lastPlace) :
    after.SessionsKept := by
  have inside := (List.getElem?_eq_some_iff.mp found).1
  have here : after.sessions[number]? = some later := by
    rw [sessions]
    exact List.getElem?_set_self inside
  have elsewhere : forall other, number ≠ other ->
      after.sessions[other]? = state.sessions[other]? := by
    intro other ne
    rw [sessions]
    exact List.getElem?_set_ne ne
  refine ⟨running, ?_, ?_, ?_, ?_⟩
  · intro other own foundOther
    by_cases same : number = other
    · subst other
      rw [here, Option.some.injEq] at foundOther
      subst own
      exact fits
    · rw [elsewhere other same] at foundOther
      exact grown.fits (kept.fits other own foundOther)
  · intro frame gave
    rcases given frame gave with old | ⟨own, connected, reached⟩
    · have before := kept.given frame old
      exact ⟨grown.connected before.1, grown.reached before.2⟩
    · rw [own]
      exact ⟨connected, reached⟩
  · intro other frame pending
    have before := opening other frame pending
    obtain ⟨own, untold, reached⟩ := kept.opening other frame before
    refine ⟨own, ?_, grown.reached reached⟩
    rintro ⟨same, foundSame, connected⟩
    by_cases equal : number = other
    · subst equal
      rw [here, Option.some.injEq] at foundSame
      subst same
      rcases told connected with old | empty
      · exact untold ⟨session, found, old⟩
      · rw [empty] at before
        cases before
    · rw [elsewhere other equal] at foundSame
      exact untold ⟨same, foundSame, connected⟩
  · intro other frame pending
    rcases completing other frame pending with old | ⟨same, own, bounded⟩
    · obtain ⟨own, before, foundBefore, bounded⟩ := kept.completing other frame old
      obtain ⟨further, foundFurther, grew, -⟩ := grown.sessions other before foundBefore
      exact ⟨own, further, foundFurther, Nat.le_trans bounded grew⟩
    · subst other
      exact ⟨own, later, here, bounded⟩

/-! ## Jobs and the sessions -/

theorem running_doing (running : forall thread : FrameThread, thread.Runs (state.pending thread))
    {thread : FrameThread} {jobs : List FrameJob} (runs : thread.Runs jobs) :
    forall other : FrameThread, other.Runs ((state.doing thread jobs).pending other) := by
  intro other
  by_cases same : other = thread
  · subst other
    rw [pending_doing_self]
    exact runs
  · rw [pending_doing_of_ne state same]
    exact running other

/-- A thread that has only jobs for the track, or none. -/
theorem publishFrame_of_doing {thread : FrameThread} {jobs : List FrameJob}
    (none : forall number frame, .publishFrame number frame ∉ jobs) {other : FrameThread}
    {number : Nat} {frame : CameraFrame}
    (member : .publishFrame number frame ∈ (state.doing thread jobs).pending other) :
    .publishFrame number frame ∈ state.pending other := by
  rcases mem_pending_doing member with ⟨-, new⟩ | ⟨-, old⟩
  · exact absurd new (none number frame)
  · exact old

theorem carries_doing {thread : FrameThread} {jobs : List FrameJob} {frame : CameraFrame}
    (carries : (state.doing thread jobs).Carries frame) :
    (exists job, job ∈ jobs ∧ job.carried = some frame) ∨ state.Carries frame := by
  obtain ⟨other, job, member, carried⟩ := carries
  rcases mem_pending_doing member with ⟨-, new⟩ | ⟨-, old⟩
  · exact Or.inl ⟨job, new, carried⟩
  · exact Or.inr ⟨other, job, old, carried⟩

theorem given_doing {thread : FrameThread} {jobs : List FrameJob} {frame : CameraFrame}
    (given : (state.doing thread jobs).Given frame) :
    (exists job, job ∈ jobs ∧ job.carried = some frame) ∨ state.Given frame := by
  rcases given with latest | carries | received
  · exact Or.inr (Or.inl latest)
  · rcases carries_doing carries with new | old
    · exact Or.inl new
    · exact Or.inr (Or.inr (Or.inl old))
  · exact Or.inr (Or.inr (Or.inr received))

/-- What a thread has left to do carries nothing new. -/
theorem carries_of_rest {thread : FrameThread} {job other : FrameJob} {rest : List FrameJob}
    (found : state.pending thread = job :: rest) (member : other ∈ rest) {frame : CameraFrame}
    (carried : other.carried = some frame) : state.Carries frame := by
  refine ⟨thread, other, ?_, carried⟩
  rw [found]
  exact List.mem_cons_of_mem job member

theorem carries_of_head {thread : FrameThread} {job : FrameJob} {rest : List FrameJob}
    (found : state.pending thread = job :: rest) {frame : CameraFrame}
    (carried : job.carried = some frame) : state.Carries frame := by
  refine ⟨thread, job, ?_, carried⟩
  rw [found]
  exact List.mem_cons_self

section Jobs

variable {thread : FrameThread} {job : FrameJob} {rest : List FrameJob}

/-- A frame on its way to the track comes a step further or is dropped. -/
theorem SessionsKept.forward (kept : state.SessionsKept)
    (found : state.pending thread = job :: rest) {frame : CameraFrame}
    (carried : job.carried = some frame) {moved : FanOut} {next : List FrameJob}
    (pending : moved.pending = state.pending) (sessions : moved.sessions = state.sessions)
    (further : next = [] ∨ exists other, next = [other] ∧ other.carried = some frame)
    (given : forall frame, moved.Given frame -> state.Given frame) :
    (moved.doing thread (next ++ rest)).SessionsKept := by
  have runs : thread.Runs (job :: rest) := found ▸ kept.running thread
  have running : forall thread : FrameThread, thread.Runs (moved.pending thread) := by
    rw [pending]
    exact kept.running
  have brings : forall other, other ∈ next -> other.carried = some frame := by
    intro other member
    rcases further with none | ⟨one, single, carriedOne⟩
    · rw [none] at member
      cases member
    · rw [single, List.mem_singleton] at member
      rw [member]
      exact carriedOne
  have leaves : forall other, other ∈ rest -> exists consumer, other = .attached consumer := by
    intro other member
    rcases runs.rest_of_carried carried with empty | ⟨-, consumer, last⟩
    · rw [empty] at member
      cases member
    · rw [last, List.mem_singleton] at member
      exact ⟨consumer, member⟩
  refine kept.of_sessions_eq sessions (running_doing running (runs.resume carried further)) ?_ ?_
  · intro other gave
    rcases given_doing gave with ⟨new, member, carriedNew⟩ | old
    · rcases List.mem_append.mp member with fresh | left
      · rw [brings new fresh, Option.some.injEq] at carriedNew
        rw [← carriedNew]
        exact Or.inr (Or.inl (carries_of_head found carried))
      · exact Or.inr (Or.inl (carries_of_rest found left carriedNew))
    · exact given other old
  · intro other number late member
    rw [← pending]
    refine publishFrame_of_doing ?_ member
    intro number late new
    rcases List.mem_append.mp new with fresh | left
    · cases brings _ fresh
    · obtain ⟨consumer, same⟩ := leaves _ left
      cases same

theorem SessionsKept.publish (kept : state.SessionsKept) {frame : CameraFrame}
    (found : state.pending thread = .publish frame :: rest) (encodeToAVCC : Packet -> Packet)
    (elapsed : Int64) :
    ((state.publish encodeToAVCC frame elapsed).1.doing thread
      ((state.publish encodeToAVCC frame elapsed).2 ++ rest)).SessionsKept := by
  rw [FanOut.publish]
  split
  · exact kept.forward found rfl rfl rfl (Or.inl rfl) (fun _ gave => gave)
  · refine kept.forward found rfl rfl rfl (Or.inr ⟨_, rfl, rfl⟩) ?_
    rintro other (latest | later)
    · -- The frame itself is kept, or the one that was kept before.
      simp only at latest
      split at latest
      · rw [Option.some.injEq] at latest
        rw [← latest]
        exact Or.inr (Or.inl (carries_of_head found rfl))
      · exact Or.inl latest
    · exact Or.inr later

theorem SessionsKept.writeRTP (kept : state.SessionsKept) {packet : TrackPacket}
    (found : state.pending thread = .writeRTP packet :: rest) :
    (doing { state with consumers := state.consumers.map (TrackConsumer.give packet) } thread
      rest).SessionsKept := by
  rw [← List.nil_append rest]
  refine kept.forward found rfl rfl rfl (Or.inl rfl) ?_
  rintro other (latest | carries | ⟨consumer, member, own, held, same⟩)
  · exact Or.inl latest
  · exact Or.inr (Or.inl carries)
  · obtain ⟨before, memberBefore, rfl⟩ := List.mem_map.mp member
    rw [TrackConsumer.give] at held
    split at held
    · rcases List.mem_append.mp held with old | new
      · exact Or.inr (Or.inr ⟨before, memberBefore, own, old, same⟩)
      · rw [List.mem_singleton] at new
        rw [← same, new]
        exact Or.inr (Or.inl (carries_of_head found rfl))
    · exact Or.inr (Or.inr ⟨before, memberBefore, own, held, same⟩)

/-- The replay brings the frame that is kept. -/
theorem SessionsKept.replay (kept : state.SessionsKept) {consumer : Nat}
    (found : state.pending thread = .replay consumer :: rest) :
    (state.doing thread (state.latestFrame.toList.map .publish ++ rest)).SessionsKept := by
  have runs : thread.Runs (.replay consumer :: rest) := found ▸ kept.running thread
  cases runs with
  | publishing number carried => cases carried
  | subscribing carried => cases carried
  | replaying other carried => cases carried
  | adding =>
      refine kept.of_sessions_eq rfl (running_doing kept.running ?_) ?_ ?_
      · cases state.latestFrame with
        | none => exact .leaving consumer
        | some frame => exact @FrameThread.Runs.replaying consumer (.publish frame) frame rfl
      · intro frame gave
        rcases given_doing gave with ⟨new, member, carried⟩ | old
        · rcases List.mem_append.mp member with fresh | left
          · obtain ⟨latest, kept, rfl⟩ := List.mem_map.mp fresh
            rw [FrameJob.carried, Option.some.injEq] at carried
            rw [← carried]
            exact Or.inl (Option.mem_toList.mp kept)
          · exact Or.inr (Or.inl (carries_of_rest found left carried))
        · exact old
      · intro other number late member
        refine publishFrame_of_doing ?_ member
        intro number late new
        rcases List.mem_append.mp new with fresh | left
        · obtain ⟨latest, -, same⟩ := List.mem_map.mp fresh
          cases same
        · rw [List.mem_singleton] at left
          cases left

theorem SessionsKept.attached (kept : state.SessionsKept) {consumer : Nat}
    (found : state.pending thread = .attached consumer :: rest) :
    (state.doing thread rest).SessionsKept := by
  have runs : thread.Runs (.attached consumer :: rest) := found ▸ kept.running thread
  cases runs with
  | publishing number carried => cases carried
  | subscribing carried => cases carried
  | replaying other carried => cases carried
  | leaving =>
      refine kept.of_sessions_eq rfl (running_doing kept.running (.idle _)) ?_ ?_
      · intro frame gave
        rcases given_doing gave with ⟨new, member, -⟩ | old
        · cases member
        · exact old
      · intro other number late member
        exact publishFrame_of_doing (fun _ _ new => absurd new List.not_mem_nil) member

/-- The session keeps a frame it has come to and hands it to its callbacks. -/
theorem SessionsKept.handOut (kept : state.SessionsKept) {number : Nat} {session : FrameSession}
    {frame : CameraFrame} {jobs : List FrameJob}
    (present : state.sessions[number]? = some session) (own : frame.session = number)
    (moved : after = doing
      { state with sessions := state.sessions.set number (session.keepKeyframe frame) } thread jobs)
    (reached : after.Reached number frame.place) (runs : thread.Runs jobs)
    (handed : forall job, job ∈ jobs -> job = .publish frame ∧ session.connected = true) :
    after.SessionsKept := by
  have sessions : after.sessions = state.sessions.set number (session.keepKeyframe frame) := by
    rw [moved]
    rfl
  have subset : forall other source late, .publishFrame source late ∈ after.pending other ->
      .publishFrame source late ∈ state.pending other := by
    intro other source late member
    rw [moved] at member
    refine publishFrame_of_doing ?_ member
    intro _ _ new
    cases (handed _ new).1
  have grown : state.Grown after := .of_set present sessions
    (Nat.le_of_eq (session.keepKeyframe_lastPlace frame).symm)
    (fun told => (session.keepKeyframe_connected frame).trans told)
    (fun other late member => Or.inl (subset _ other late member))
  have fitted := kept.fits number session present
  refine kept.of_set present sessions grown ⟨?_, ?_, ?_⟩ ?_ ?_ ?_
    (fun other late member => subset _ other late member)
    (fun other late member => Or.inl (subset _ other late member))
  · intro late keyframe
    rcases session.latestKeyframe_keepKeyframe frame keyframe with new | old
    · rw [new]
      exact ⟨own, reached⟩
    · exact ⟨(fitted.cached late old).1, grown.reached (fitted.cached late old).2⟩
  · intro untold
    rw [FrameSession.keepKeyframe_connected] at untold
    rw [FrameSession.keepKeyframe_frameCallbacks]
    exact fitted.quiet untold
  · rw [FrameSession.keepKeyframe_frameCallbacks]
    exact fitted.single
  · intro told
    rw [FrameSession.keepKeyframe_connected] at told
    exact Or.inl told
  · rw [moved]
    exact running_doing kept.running runs
  · intro late gave
    rw [moved] at gave
    rcases given_doing gave with ⟨new, member, carried⟩ | old
    · obtain ⟨same, told⟩ := handed new member
      rw [same, FrameJob.carried, Option.some.injEq] at carried
      rw [← carried]
      exact Or.inr ⟨own, grown.connected ⟨session, present, told⟩, reached⟩
    · exact Or.inl old

theorem SessionsKept.publishFrame (kept : state.SessionsKept) {number : Nat} {frame : CameraFrame}
    (found : state.pending thread = .publishFrame number frame :: rest) :
    ((state.publishFrame number frame).1.doing thread
      ((state.publishFrame number frame).2 ++ rest)).SessionsKept := by
  have runs : thread.Runs (.publishFrame number frame :: rest) := found ▸ kept.running thread
  have member : .publishFrame number frame ∈ state.pending thread := by
    rw [found]
    exact List.mem_cons_self
  cases runs with
  | publishing number carried => cases carried
  | subscribing carried => cases carried
  | replaying other carried => cases carried
  | opening =>
      -- Nobody has subscribed to a session that has not been returned.
      obtain ⟨own, untold, ⟨session, present, bounded⟩, before⟩ := kept.opening number frame member
      have silent : session.frameCallbacks = [] := by
        apply (kept.fits number session present).quiet
        rw [← Bool.not_eq_true]
        exact fun told => untold ⟨session, present, told⟩
      have moved : state.publishFrame number frame = ({ state with
          sessions := state.sessions.set number (session.keepKeyframe frame) }, []) := by
        rw [FanOut.publishFrame, present]
        simp only [silent, List.map_nil]
      rw [moved]
      refine kept.handOut present own rfl ⟨?_, ?_⟩ (.idle _)
        (fun _ new => absurd new List.not_mem_nil)
      · have inside := (List.getElem?_eq_some_iff.mp present).1
        refine ⟨session.keepKeyframe frame, List.getElem?_set_self inside, ?_⟩
        rw [FrameSession.keepKeyframe_lastPlace]
        exact bounded
      · intro late pending
        exact before late (publishFrame_of_doing (fun _ _ new => absurd new List.not_mem_nil) pending)
  | completing =>
      obtain ⟨own, session, present, bounded⟩ := kept.completing number frame member
      have fitted := kept.fits number session present
      have moved : state.publishFrame number frame = ({ state with
          sessions := state.sessions.set number (session.keepKeyframe frame) },
            session.frameCallbacks.map (fun _ => .publish frame)) := by
        rw [FanOut.publishFrame, present]
      rw [moved, List.append_nil]
      refine kept.handOut present own rfl ⟨?_, ?_⟩ ?_ ?_
      · have inside := (List.getElem?_eq_some_iff.mp present).1
        refine ⟨session.keepKeyframe frame, List.getElem?_set_self inside, ?_⟩
        rw [FrameSession.keepKeyframe_lastPlace]
        exact bounded
      · intro late pending
        rw [pending_doing_self] at pending
        obtain ⟨_, -, same⟩ := List.mem_map.mp pending
        cases same
      · have single := fitted.single
        cases callbacks : session.frameCallbacks with
        | nil => exact .idle _
        | cons callback others =>
            rw [callbacks, List.length_cons] at single
            have none : others = [] := List.eq_nil_of_length_eq_zero (by omega)
            rw [none]
            exact @FrameThread.Runs.publishing number (.publish frame) frame rfl own
      · intro job new
        obtain ⟨callback, subscribed, same⟩ := List.mem_map.mp new
        refine ⟨same.symm, ?_⟩
        by_contra untold
        rw [Bool.not_eq_true] at untold
        rw [fitted.quiet untold] at subscribed
        cases subscribed

end Jobs

/-- A thread with a frame on its way is one that can have something to do. -/
theorem SessionsKept.mem_threads (kept : state.SessionsKept) {thread : FrameThread}
    {job : FrameJob} {frame : CameraFrame} (pending : job ∈ state.pending thread)
    (carried : job.carried = some frame) : thread ∈ state.threads := by
  obtain ⟨⟨session, found, -⟩, -⟩ := kept.given frame (Or.inr (Or.inl ⟨thread, job, pending, carried⟩))
  have inside := (List.getElem?_eq_some_iff.mp found).1
  have runs := kept.running thread
  generalize state.pending thread = jobs at pending runs
  cases runs with
  | idle => cases pending
  | opening number other =>
      rw [List.mem_singleton.mp pending] at carried
      cases carried
  | completing number other =>
      rw [List.mem_singleton.mp pending] at carried
      cases carried
  | publishing number brings own =>
      rw [List.mem_singleton.mp pending, brings, Option.some.injEq] at carried
      rw [← own, carried]
      refine List.mem_cons_of_mem _ (List.mem_flatMap.mpr ⟨frame.session, ?_, ?_⟩)
      · exact List.mem_range.mpr inside
      · exact List.mem_cons_of_mem _ List.mem_cons_self
  | subscribing brings => exact List.mem_cons_self
  | adding consumer => exact List.mem_cons_self
  | replaying consumer brings => exact List.mem_cons_self
  | leaving consumer => exact List.mem_cons_self

/-! ## Steps and the sessions -/

/-- A new session has come to its first frame, and nobody has been told of it. -/
theorem SessionsKept.opened (kept : state.SessionsKept) {place : Nat}
    (moved : state.opened place = some after) : after.SessionsKept := by
  simp only [FanOut.opened, Option.bind_eq_bind, Option.bind_eq_some_iff, Option.some.injEq] at moved
  obtain ⟨video, -, rfl⟩ := moved
  generalize same : doing { state with sessions := state.sessions ++ [{ lastPlace := place }] }
    (.opening state.sessions.length) [.publishFrame state.sessions.length
      ⟨state.sessions.length, place, video⟩] = after
  have older : forall (other : Nat) (session : FrameSession),
      state.sessions[other]? = some session -> after.sessions[other]? = some session := by
    intro other session found
    rw [← same]
    exact (List.getElem?_append_left (List.getElem?_eq_some_iff.mp found).1).trans found
  have newest : after.sessions[state.sessions.length]? = some { lastPlace := place } := by
    rw [← same]
    exact List.getElem?_concat_length
  have subset : forall other source frame, other ≠ .opening state.sessions.length ->
      .publishFrame source frame ∈ after.pending other ->
      .publishFrame source frame ∈ state.pending other := by
    intro other source frame ne pending
    rw [← same, pending_doing_of_ne _ ne] at pending
    exact pending
  have grown : state.Grown after := by
    refine ⟨fun other session found => ⟨session, older other session found, Nat.le_refl _, id⟩, ?_⟩
    intro other frame pending
    exact Or.inl (subset _ other frame nofun pending)
  refine ⟨?_, ?_, ?_, ?_, ?_⟩
  · rw [← same]
    exact running_doing kept.running (.opening _ _)
  · intro number session found
    rcases Nat.lt_or_ge number state.sessions.length with inside | outside
    · have before := older number _ (List.getElem?_eq_getElem inside)
      rw [found, Option.some.injEq] at before
      rw [before]
      exact grown.fits (kept.fits number _ (List.getElem?_eq_getElem inside))
    · have bound := (List.getElem?_eq_some_iff.mp found).1
      rw [← same, doing_sessions, List.length_append, List.length_singleton] at bound
      have last : number = state.sessions.length := by omega
      rw [last, newest, Option.some.injEq] at found
      rw [← found]
      exact ⟨fun frame none => (nomatch none), fun _ => rfl, Nat.zero_le _⟩
  · intro frame gave
    rw [← same] at gave
    rcases given_doing gave with ⟨job, member, carried⟩ | old
    · rw [List.mem_singleton] at member
      rw [member] at carried
      cases carried
    · have before := kept.given frame old
      exact ⟨grown.connected before.1, grown.reached before.2⟩
  · intro number frame pending
    by_cases last : number = state.sessions.length
    · subst number
      rw [← same, pending_doing_self, List.mem_singleton, FrameJob.publishFrame.injEq] at pending
      rw [pending.2]
      refine ⟨rfl, ?_, ⟨_, newest, Nat.le_refl _⟩, ?_⟩
      · rintro ⟨session, found, told⟩
        rw [newest, Option.some.injEq] at found
        rw [← found] at told
        cases told
      · intro late completes
        -- The loop of a session that did not exist has completed nothing.
        obtain ⟨-, session, found, -⟩ := kept.completing _ late (subset _ _ late nofun completes)
        exact absurd (List.getElem?_eq_some_iff.mp found).1 (Nat.lt_irrefl _)
    · have different : FrameThread.opening number ≠ .opening state.sessions.length :=
        fun equal => last (FrameThread.opening.inj equal)
      obtain ⟨own, untold, reached⟩ :=
        kept.opening number frame (subset _ number frame different pending)
      refine ⟨own, ?_, grown.reached reached⟩
      rintro ⟨session, found, told⟩
      obtain ⟨⟨before, foundBefore, -⟩, -⟩ := reached
      rw [older number before foundBefore, Option.some.injEq] at found
      exact untold ⟨before, foundBefore, found ▸ told⟩
  · intro number frame pending
    obtain ⟨own, session, found, bounded⟩ :=
      kept.completing number frame (subset _ number frame nofun pending)
    exact ⟨own, session, older number session found, bounded⟩

/-- The loop has completed a frame that is newer than all the session has come to. -/
theorem SessionsKept.completed (kept : state.SessionsKept) {number place : Nat}
    (moved : state.completed number place = some after) : after.SessionsKept := by
  simp only [FanOut.completed, Option.bind_eq_bind, Option.bind_eq_some_iff] at moved
  obtain ⟨session, present, video, -, guarded⟩ := moved
  split at guarded
  swap
  · cases guarded
  next free =>
  rw [Option.some.injEq] at guarded
  have sessions : after.sessions =
      state.sessions.set number { session with lastPlace := place } := by
    rw [← guarded]
    rfl
  have completes : forall other frame, .publishFrame other frame ∈ after.pending (.loop other) ->
      .publishFrame other frame ∈ state.pending (.loop other) ∨
        other = number ∧ frame = ⟨number, place, video⟩ := by
    intro other frame pending
    rw [← guarded] at pending
    rcases mem_pending_doing pending with ⟨same, new⟩ | ⟨-, old⟩
    · rw [List.mem_singleton, FrameJob.publishFrame.injEq] at new
      exact Or.inr new
    · exact Or.inl old
  have grown : state.Grown after := by
    refine .of_set present sessions (Nat.le_of_lt free.2) id ?_
    intro other frame pending
    rcases completes other frame pending with old | ⟨same, new⟩
    · exact Or.inl old
    · rw [same, new]
      exact Or.inr ⟨session, present, free.2⟩
  have fitted := grown.fits (kept.fits number session present)
  refine kept.of_set present sessions grown ⟨fitted.cached, fitted.quiet, fitted.single⟩ Or.inl
    ?_ ?_ ?_ ?_
  · rw [← guarded]
    exact running_doing kept.running (.completing _ _)
  · intro frame gave
    rw [← guarded] at gave
    rcases given_doing gave with ⟨job, member, carried⟩ | old
    · rw [List.mem_singleton] at member
      rw [member] at carried
      cases carried
    · exact Or.inl old
  · intro other frame pending
    have different : FrameThread.opening other ≠ .loop number := nofun
    rw [← guarded, pending_doing_of_ne _ different] at pending
    exact pending
  · intro other frame pending
    rcases completes other frame pending with old | ⟨same, new⟩
    · exact Or.inl old
    · rw [new]
      exact Or.inr ⟨same, rfl, Nat.le_refl _⟩

/-- What the registry is handed when it subscribes is the keyframe of the session. -/
theorem connected_eq_some {number : Nat} (moved : state.connected number = some after) :
    exists session, state.sessions[number]? = some session ∧ session.connected = false ∧
      state.pending (.opening number) = [] ∧ state.pending .registry = [] ∧
      after = doing
        { state with
          sessions := state.sessions.set number { session.addCallback with connected := true } }
        .registry (session.latestKeyframe.toList.map .publish) := by
  simp only [FanOut.connected, Option.bind_eq_bind, Option.bind_eq_some_iff] at moved
  obtain ⟨session, present, guarded⟩ := moved
  split at guarded
  · next free => exact ⟨session, present, free.1, free.2.1, free.2.2, (Option.some.inj guarded).symm⟩
  · cases guarded

theorem SessionsKept.connected (kept : state.SessionsKept) {number : Nat}
    (moved : state.connected number = some after) : after.SessionsKept := by
  obtain ⟨session, present, untold, opened, free, guarded⟩ := connected_eq_some moved
  have sessions : after.sessions =
      state.sessions.set number { session.addCallback with connected := true } := by
    rw [guarded]
    rfl
  have inside := (List.getElem?_eq_some_iff.mp present).1
  have subset : forall other source late, .publishFrame source late ∈ after.pending other ->
      .publishFrame source late ∈ state.pending other := by
    intro other source late member
    rw [guarded] at member
    refine publishFrame_of_doing ?_ member
    intro _ _ new
    obtain ⟨frame, -, same⟩ := List.mem_map.mp new
    cases same
  have grown : state.Grown after := .of_set present sessions (Nat.le_refl _) (fun _ => rfl)
    (fun other late member => Or.inl (subset _ other late member))
  have fitted := kept.fits number session present
  have told : after.IsConnected number := by
    refine ⟨{ session.addCallback with connected := true }, ?_, rfl⟩
    rw [sessions]
    exact List.getElem?_set_self inside
  refine kept.of_set present sessions grown ⟨?_, ?_, ?_⟩ (fun _ => Or.inr opened) ?_ ?_
    (fun other late member => subset _ other late member)
    (fun other late member => Or.inl (subset _ other late member))
  · exact (grown.fits fitted).cached
  · intro none
    cases none
  · rw [FrameSession.addCallback, fitted.quiet untold]
    exact Nat.le_refl _
  · rw [guarded]
    refine running_doing kept.running ?_
    cases session.latestKeyframe with
    | none => exact .idle _
    | some frame => exact @FrameThread.Runs.subscribing (.publish frame) frame rfl
  · intro frame gave
    rw [guarded] at gave
    rcases given_doing gave with ⟨job, member, carried⟩ | old
    · obtain ⟨late, keyframe, rfl⟩ := List.mem_map.mp member
      rw [FrameJob.carried, Option.some.injEq] at carried
      rw [← carried]
      obtain ⟨own, reached⟩ := fitted.cached late (Option.mem_toList.mp keyframe)
      exact Or.inr ⟨own, told, grown.reached reached⟩
    · exact Or.inl old

theorem SessionsKept.unsubscribe (kept : state.SessionsKept) {number callbackId : Nat}
    (moved : state.unsubscribe number callbackId = some after) : after.SessionsKept := by
  simp only [FanOut.unsubscribe, Option.bind_eq_bind, Option.bind_eq_some_iff,
    Option.some.injEq] at moved
  obtain ⟨session, present, rfl⟩ := moved
  have grown : state.Grown { state with
      sessions := state.sessions.set number (session.removeCallback callbackId) } :=
    .of_set present rfl (Nat.le_refl _) id (fun _ _ pending => Or.inl pending)
  have fitted := grown.fits (kept.fits number session present)
  refine kept.of_set present rfl grown ⟨fitted.cached, ?_, ?_⟩ Or.inl kept.running
    (fun _ gave => Or.inl gave) (fun _ _ pending => pending) (fun _ _ pending => Or.inl pending)
  · intro untold
    rw [FrameSession.removeCallback, fitted.quiet untold]
    rfl
  · exact Nat.le_trans (List.length_filter_le _ _) fitted.single

theorem SessionsKept.addMediaConsumer (kept : state.SessionsKept)
    (moved : state.addMediaConsumer = some after) : after.SessionsKept := by
  rw [FanOut.addMediaConsumer] at moved
  split at moved
  swap
  · cases moved
  rw [Option.some.injEq] at moved
  subst moved
  have idle : forall job, job ∈ [FrameJob.replay state.consumers.length,
      .attached state.consumers.length] -> job.carried = none := by
    intro job member
    rcases List.mem_cons.mp member with first | last
    · rw [first]
      rfl
    · rw [List.mem_singleton.mp last]
      rfl
  refine kept.of_sessions_eq rfl (running_doing kept.running (.adding _)) ?_ ?_
  · intro frame gave
    rcases given_doing gave with ⟨job, member, carried⟩ | latest | carries | ⟨consumer, member, rest⟩
    · rw [idle job member] at carried
      cases carried
    · exact Or.inl latest
    · exact Or.inr (Or.inl carries)
    · obtain ⟨packet, held, same⟩ := rest
      rcases List.mem_append.mp member with old | new
      · exact Or.inr (Or.inr ⟨consumer, old, packet, held, same⟩)
      · rw [List.mem_singleton.mp new] at held
        cases held
  · intro other number late member
    refine publishFrame_of_doing ?_ member
    intro source frame new
    rcases List.mem_cons.mp new with first | last
    · cases first
    · cases List.mem_singleton.mp last

/-- A consumer after it has been told to leave has received what it had before. -/
theorem mem_detach {state : FanOut} {number : Nat} {consumer : TrackConsumer}
    (member : consumer ∈ (state.detach number).consumers) :
    exists before, before ∈ state.consumers ∧ consumer.received = before.received ∧
      (consumer.attached = true -> before.attached = true) := by
  obtain ⟨index, inside, same⟩ := List.mem_iff_getElem.mp member
  rw [FanOut.detach, List.length_modify] at inside
  refine ⟨state.consumers[index], List.getElem_mem inside, ?_⟩
  simp only [FanOut.detach, List.getElem_modify] at same
  rw [← same]
  split
  · exact ⟨rfl, fun off => nomatch off⟩
  · exact ⟨rfl, id⟩

theorem SessionsKept.detach (kept : state.SessionsKept) (number : Nat) :
    (state.detach number).SessionsKept := by
  refine kept.of_sessions_eq rfl kept.running ?_ (fun _ _ _ pending => pending)
  rintro frame (latest | carries | ⟨consumer, member, packet, held, same⟩)
  · exact Or.inl latest
  · exact Or.inr (Or.inl carries)
  · obtain ⟨before, old, received, -⟩ := mem_detach member
    rw [received] at held
    exact Or.inr (Or.inr ⟨before, old, packet, held, same⟩)

end FanOut

end Camera
end PetlibroRelay
