import PetlibroRelay.Camera.FrameSessions

namespace PetlibroRelay
namespace Camera

open Foundations

/-!
# The order in which consumers are given frames

A consumer should be given the frames in the order in which the camera produced them, and
none twice.  Within one session this holds of live frames, because the receive loop
publishes one frame after the other.  The replays are not ordered with the live frames,
the frames of two sessions are not ordered with each other, and the replay to a new
consumer is given to all others too.

What is proved is that nothing else goes wrong.  The condition on a step names these
cases, each in the state before the step.  A frame on its way to the track is then newer
than all that the attached consumers have been given.
-/

namespace FanOut

/-! ## The property -/

/-- Every consumer has been given frames in the order of the camera, and none twice. -/
def InCameraOrder (state : FanOut) : Prop :=
  forall consumer, consumer ∈ state.consumers ->
    consumer.received.Pairwise (fun early late => early.frame.place < late.frame.place)

/-- While a consumer is being attached, the thread that attaches it gives nothing to any
other consumer. -/
def AttachesPrivately (encodeToAVCC : Packet -> Packet) (state : FanOut)
    (action : FanOutAction) : Prop :=
  forall consumer elapsed, .attached consumer ∈ state.pending .registry ->
    action = .advance .registry elapsed -> forall other, other ≠ consumer ->
      ((fanOut encodeToAVCC).next state action).received other = state.received other

/-! ## The condition -/

/-- No other session has given an attached consumer a frame that is as new. -/
def NotOvertaken (state : FanOut) (frame : CameraFrame) : Prop :=
  forall consumer, consumer ∈ state.consumers -> consumer.attached = true ->
    forall packet, packet ∈ consumer.received -> packet.frame.session ≠ frame.session ->
      packet.frame.place < frame.place

/-- At most this consumer is attached. -/
def IsAlone (state : FanOut) (consumer : Nat) : Prop :=
  forall other, other < state.consumers.length ->
    state.consumers[other]?.any TrackConsumer.attached = true -> other = consumer

/-- No other thread has an older frame on its way to the track, nor the same one. -/
def IsOldest (state : FanOut) (thread : FrameThread) (frame : CameraFrame) : Prop :=
  forall other, other ∈ state.threads -> other ≠ thread ->
    forall job, job ∈ state.pending other ->
      forall late, late ∈ job.carried -> frame.place < late.place

/-- The condition on one job. -/
def UndisturbedJob (state : FanOut) (thread : FrameThread) : FrameJob -> Prop
  | .publishFrame number frame =>
      state.sessions[number]?.any (fun session => !session.frameCallbacks.isEmpty) = true ->
        state.NotOvertaken frame
  | .replay consumer =>
      state.latestFrame.isSome = true ->
        state.IsAlone consumer ∧ state.received consumer = []
  | .writeRTP packet =>
      state.consumers.any TrackConsumer.attached = true -> state.IsOldest thread packet.frame
  | _ => True

/-- A session hands out a live frame or its keyframe only if no other session has
overtaken it.  The publisher replays a keyframe only to a consumer that is alone and has
been given nothing.  A frame is written to consumers only if no older one, nor the same,
is on its way in another thread. -/
def Undisturbed (state : FanOut) : FanOutAction -> Prop
  | .connected number =>
      forall session, session ∈ state.sessions[number]? ->
        forall frame, frame ∈ session.latestKeyframe -> state.NotOvertaken frame
  | .advance thread _ =>
      forall job, job ∈ (state.pending thread).head? -> state.UndisturbedJob thread job
  | _ => True

instance (state : FanOut) (frame : CameraFrame) : Decidable (state.NotOvertaken frame) :=
  inferInstanceAs (Decidable (forall consumer, consumer ∈ state.consumers ->
    consumer.attached = true -> forall packet, packet ∈ consumer.received ->
      packet.frame.session ≠ frame.session -> packet.frame.place < frame.place))

instance (state : FanOut) (consumer : Nat) : Decidable (state.IsAlone consumer) :=
  inferInstanceAs (Decidable (forall other, other < state.consumers.length ->
    state.consumers[other]?.any TrackConsumer.attached = true -> other = consumer))

instance (state : FanOut) (thread : FrameThread) (frame : CameraFrame) :
    Decidable (state.IsOldest thread frame) :=
  inferInstanceAs (Decidable (forall other, other ∈ state.threads -> other ≠ thread ->
    forall job, job ∈ state.pending other ->
      forall late, late ∈ job.carried -> frame.place < late.place))

instance (state : FanOut) (thread : FrameThread) :
    (job : FrameJob) -> Decidable (state.UndisturbedJob thread job)
  | .publishFrame _ _ => inferInstanceAs (Decidable (_ -> _))
  | .publish _ => isTrue trivial
  | .writeRTP _ => inferInstanceAs (Decidable (_ -> _))
  | .replay _ => inferInstanceAs (Decidable (_ -> _))
  | .attached _ => isTrue trivial

instance (state : FanOut) : (action : FanOutAction) -> Decidable (state.Undisturbed action)
  | .connected number =>
      inferInstanceAs (Decidable (forall session, session ∈ state.sessions[number]? ->
        forall frame, frame ∈ session.latestKeyframe -> state.NotOvertaken frame))
  | .advance thread _ =>
      inferInstanceAs (Decidable (forall job, job ∈ (state.pending thread).head? ->
        state.UndisturbedJob thread job))
  | .produced _ | .opened _ | .completed _ _ | .unsubscribe _ _ | .addMediaConsumer | .detach _ =>
      isTrue trivial

/-! ## What the consumers have been given -/

/-- Every frame the attached consumers have been given is older. -/
def IsNewest (state : FanOut) (frame : CameraFrame) : Prop :=
  forall consumer, consumer ∈ state.consumers -> consumer.attached = true ->
    forall packet, packet ∈ consumer.received -> packet.frame.place < frame.place

/-- A keyframe is on its way to the track for a consumer that is being attached. -/
def Replaying (state : FanOut) (consumer : Nat) : Prop :=
  .attached consumer ∈ state.pending .registry ∧
    exists job frame, job ∈ state.pending .registry ∧ job.carried = some frame

/-- What holds of the consumers in every undisturbed run. -/
structure Delivered (state : FanOut) : Prop where
  ordered : state.InCameraOrder
  ahead : forall frame, state.Carries frame -> state.IsNewest frame
  alone : forall consumer, state.Replaying consumer -> state.IsAlone consumer

variable {state after : FanOut}

/-- A frame is newer than what another session has given the consumers, and than
everything of its own session. -/
theorem isNewest_of_notOvertaken {frame : CameraFrame} (first : state.NotOvertaken frame)
    (own : forall early, state.Given early -> early.session = frame.session ->
      early.place < frame.place) : state.IsNewest frame := by
  intro consumer member attached packet held
  by_cases same : packet.frame.session = frame.session
  · exact own packet.frame (Or.inr (Or.inr ⟨consumer, member, packet, held, rfl⟩)) same
  · exact first consumer member attached packet held same

/-- A thread has new jobs and the consumers are untouched. -/
theorem Delivered.of_doing (delivered : state.Delivered) {moved : FanOut} {thread : FrameThread}
    {jobs : List FrameJob} (pending : moved.pending = state.pending)
    (consumers : moved.consumers = state.consumers)
    (newest : forall job frame, job ∈ jobs -> job.carried = some frame -> state.IsNewest frame)
    (alone : thread = .registry -> forall consumer job frame, .attached consumer ∈ jobs ->
      job ∈ jobs -> job.carried = some frame -> state.IsAlone consumer) :
    (moved.doing thread jobs).Delivered := by
  refine ⟨?_, ?_, ?_⟩
  · intro consumer member
    rw [doing_consumers, consumers] at member
    exact delivered.ordered consumer member
  · intro frame carries
    rw [IsNewest, doing_consumers, consumers]
    rcases carries_doing carries with ⟨job, member, carried⟩ | old
    · exact newest job frame member carried
    · rw [Carries, pending] at old
      exact delivered.ahead frame old
  · rintro consumer ⟨leaves, job, frame, member, carried⟩
    rw [IsAlone, doing_consumers, consumers]
    by_cases same : thread = .registry
    · subst thread
      rw [pending_doing_self] at leaves member
      exact alone rfl consumer job frame leaves member carried
    · rw [pending_doing_of_ne _ (Ne.symm same), pending] at leaves member
      exact delivered.alone consumer ⟨leaves, job, frame, member, carried⟩

/-- A thread other than the one of the registry. -/
theorem Delivered.of_doing_elsewhere (delivered : state.Delivered) {moved : FanOut}
    {thread : FrameThread} {jobs : List FrameJob} (pending : moved.pending = state.pending)
    (consumers : moved.consumers = state.consumers) (elsewhere : thread ≠ .registry)
    (newest : forall job frame, job ∈ jobs -> job.carried = some frame -> state.IsNewest frame) :
    (moved.doing thread jobs).Delivered :=
  delivered.of_doing pending consumers newest (fun same => absurd same elsewhere)

/-! ## Jobs and the consumers -/

section Jobs

variable {thread : FrameThread} {rest : List FrameJob}

/-- A frame is handed out by the loop of its session. -/
theorem Delivered.publishFrame (delivered : state.Delivered) (kept : state.SessionsKept)
    {number : Nat} {frame : CameraFrame}
    (found : state.pending thread = .publishFrame number frame :: rest)
    (undisturbed : state.UndisturbedJob thread (.publishFrame number frame)) :
    ((state.publishFrame number frame).1.doing thread
      ((state.publishFrame number frame).2 ++ rest)).Delivered := by
  have runs : thread.Runs (.publishFrame number frame :: rest) := found ▸ kept.running thread
  have member : .publishFrame number frame ∈ state.pending thread := by
    rw [found]
    exact List.mem_cons_self
  have given : forall job late, job ∈ (state.publishFrame number frame).2 ->
      job.carried = some late -> late = frame ∧ state.NotOvertaken frame := by
    intro job late handed carried
    rw [FanOut.publishFrame] at handed
    split at handed
    · cases handed
    · next session present =>
        obtain ⟨callback, subscribed, rfl⟩ := List.mem_map.mp handed
        refine ⟨(Option.some.inj carried).symm, undisturbed ?_⟩
        rw [present, Option.any_some, Bool.not_eq_true', List.isEmpty_eq_false_iff]
        exact List.ne_nil_of_mem subscribed
  have unchanged : (state.publishFrame number frame).1.pending = state.pending ∧
      (state.publishFrame number frame).1.consumers = state.consumers := by
    rw [FanOut.publishFrame]
    split <;> exact ⟨rfl, rfl⟩
  cases runs with
  | publishing number carried own => cases carried
  | subscribing carried => cases carried
  | replaying other carried => cases carried
  | opening =>
      refine delivered.of_doing_elsewhere unchanged.1 unchanged.2 (by rintro ⟨⟩) ?_
      intro job late handed carried
      obtain ⟨own, untold, -⟩ := kept.opening number frame member
      rw [List.append_nil] at handed
      obtain ⟨rfl, first⟩ := given job late handed carried
      refine isNewest_of_notOvertaken first ?_
      intro early gave same
      rw [own] at same
      exact absurd (same ▸ (kept.given early gave).1) untold
  | completing =>
      refine delivered.of_doing_elsewhere unchanged.1 unchanged.2 (by rintro ⟨⟩) ?_
      intro job late handed carried
      obtain ⟨own, -⟩ := kept.completing number frame member
      rw [List.append_nil] at handed
      obtain ⟨rfl, first⟩ := given job late handed carried
      refine isNewest_of_notOvertaken first ?_
      intro early gave same
      have reached := (kept.given early gave).2
      rw [same, own] at reached
      exact reached.2 late member

/-- The publisher passes a frame on or drops it. -/
theorem Delivered.publish (delivered : state.Delivered) (kept : state.SessionsKept)
    {frame : CameraFrame} (found : state.pending thread = .publish frame :: rest)
    (encodeToAVCC : Packet -> Packet) (elapsed : Int64) :
    ((state.publish encodeToAVCC frame elapsed).1.doing thread
      ((state.publish encodeToAVCC frame elapsed).2 ++ rest)).Delivered := by
  have runs : thread.Runs (.publish frame :: rest) := found ▸ kept.running thread
  have behind : forall job late, job ∈ rest -> job.carried = some late -> state.IsNewest late :=
    fun job late member carried => delivered.ahead late (carries_of_rest found member carried)
  have leaving : thread = .registry -> forall consumer, .attached consumer ∈ rest ->
      state.IsAlone consumer := by
    intro same consumer member
    subst same
    refine delivered.alone consumer ⟨?_, .publish frame, frame, ?_, rfl⟩
    · rw [found]
      exact List.mem_cons_of_mem _ member
    · rw [found]
      exact List.mem_cons_self
  rw [FanOut.publish]
  split
  · exact delivered.of_doing rfl rfl behind
      (fun same consumer _ _ leaves _ _ => leaving same consumer leaves)
  · refine delivered.of_doing rfl rfl ?_ ?_
    · intro job late member carried
      rcases List.mem_cons.mp member with first | left
      · rw [first, FrameJob.carried, Option.some.injEq] at carried
        rw [← carried]
        exact delivered.ahead frame (carries_of_head found rfl)
      · exact behind job late left carried
    · intro same consumer _ _ leaves _ _
      rcases List.mem_cons.mp leaves with first | left
      · cases first
      · exact leaving same consumer left

/-- An attached consumer has its place among the consumers. -/
theorem exists_index {consumer : TrackConsumer} (member : consumer ∈ state.consumers) :
    exists index, index < state.consumers.length ∧ state.consumers[index]? = some consumer := by
  obtain ⟨index, inside, same⟩ := List.mem_iff_getElem.mp member
  refine ⟨index, inside, ?_⟩
  rw [List.getElem?_eq_getElem inside, same]

/-- The keyframe of the publisher goes to a consumer that is alone and has nothing yet. -/
theorem Delivered.replay (delivered : state.Delivered) (kept : state.SessionsKept)
    {number : Nat} (found : state.pending thread = .replay number :: rest)
    (undisturbed : state.UndisturbedJob thread (.replay number)) :
    (state.doing thread (state.latestFrame.toList.map .publish ++ rest)).Delivered := by
  have runs : thread.Runs (.replay number :: rest) := found ▸ kept.running thread
  cases runs with
  | publishing number carried own => cases carried
  | subscribing carried => cases carried
  | replaying other carried => cases carried
  | adding =>
      refine delivered.of_doing rfl rfl ?_ ?_
      · intro job frame member carried consumer present attached packet held
        rcases List.mem_append.mp member with fresh | left
        · obtain ⟨late, latest, -⟩ := List.mem_map.mp fresh
          obtain ⟨alone, empty⟩ :=
            undisturbed (Option.isSome_iff_exists.mpr ⟨late, Option.mem_toList.mp latest⟩)
          obtain ⟨index, inside, at_index⟩ := exists_index present
          have same : index = number := by
            apply alone index inside
            rw [at_index, Option.any_some]
            exact attached
          subst same
          rw [FanOut.received, at_index, Option.map_some, Option.getD_some] at empty
          rw [empty] at held
          cases held
        · rw [List.mem_singleton.mp left] at carried
          cases carried
      · intro _ consumer job frame leaves member carried
        rcases List.mem_append.mp leaves with fresh | left
        · obtain ⟨late, -, same⟩ := List.mem_map.mp fresh
          cases same
        · rw [List.mem_singleton, FrameJob.attached.injEq] at left
          rw [left]
          rcases List.mem_append.mp member with fresh | last
          · obtain ⟨late, latest, -⟩ := List.mem_map.mp fresh
            exact (undisturbed
              (Option.isSome_iff_exists.mpr ⟨late, Option.mem_toList.mp latest⟩)).1
          · rw [List.mem_singleton.mp last] at carried
            cases carried

theorem Delivered.attached (delivered : state.Delivered) (kept : state.SessionsKept)
    {consumer : Nat} (found : state.pending thread = .attached consumer :: rest) :
    (state.doing thread rest).Delivered := by
  have runs : thread.Runs (.attached consumer :: rest) := found ▸ kept.running thread
  cases runs with
  | publishing number carried own => cases carried
  | subscribing carried => cases carried
  | replaying other carried => cases carried
  | leaving =>
      refine delivered.of_doing rfl rfl ?_ ?_
      · intro job frame member
        cases member
      · intro _ _ _ _ member
        cases member

/-- Being alone does not depend on what a consumer has been given. -/
theorem isAlone_give {packet : TrackPacket} {moved : FanOut}
    (given : moved.consumers = state.consumers.map (TrackConsumer.give packet)) {consumer : Nat} :
    moved.IsAlone consumer ↔ state.IsAlone consumer := by
  have attached : forall other : Nat, moved.consumers[other]?.any TrackConsumer.attached =
      state.consumers[other]?.any TrackConsumer.attached := by
    intro other
    rw [given, List.getElem?_map, Option.any_map]
    congr 1
    funext one
    rw [TrackConsumer.give]
    split <;> rfl
  have length : moved.consumers.length = state.consumers.length := by
    rw [given, List.length_map]
  simp only [IsAlone, attached, length]

/-- The track gives the oldest frame on its way to everyone. -/
theorem Delivered.writeRTP (delivered : state.Delivered) (kept : state.SessionsKept)
    {packet : TrackPacket} (found : state.pending thread = .writeRTP packet :: rest)
    (undisturbed : state.UndisturbedJob thread (.writeRTP packet)) :
    (doing { state with consumers := state.consumers.map (TrackConsumer.give packet) } thread
      rest).Delivered := by
  have runs : thread.Runs (.writeRTP packet :: rest) := found ▸ kept.running thread
  have newest : state.IsNewest packet.frame :=
    delivered.ahead packet.frame (carries_of_head found rfl)
  have idle : forall job frame, job ∈ rest -> job.carried ≠ some frame := by
    intro job frame member carried
    rcases runs.rest_of_carried rfl with empty | ⟨-, consumer, last⟩
    · rw [empty] at member
      cases member
    · rw [last, List.mem_singleton] at member
      rw [member] at carried
      cases carried
  refine ⟨?_, ?_, ?_⟩
  · intro consumer member
    obtain ⟨before, present, rfl⟩ := List.mem_map.mp member
    rw [TrackConsumer.give]
    split
    · next attached =>
        refine List.pairwise_append.mpr ⟨delivered.ordered before present, List.pairwise_singleton _ _, ?_⟩
        intro early held late new
        rw [List.mem_singleton.mp new]
        exact newest before present attached early held
    · exact delivered.ordered before present
  · rintro frame ⟨other, job, member, carried⟩
    rcases mem_pending_doing member with ⟨-, left⟩ | ⟨ne, pending⟩
    · exact absurd carried (idle job frame left)
    · intro consumer given attached early held
      obtain ⟨before, present, rfl⟩ := List.mem_map.mp given
      have was : before.attached = true := by
        rw [TrackConsumer.give] at attached
        split at attached
        · next on => exact on
        · exact attached
      rw [TrackConsumer.give, if_pos was] at held
      rcases List.mem_append.mp held with old | new
      · exact delivered.ahead frame ⟨other, job, pending, carried⟩ before present was early old
      · rw [List.mem_singleton.mp new]
        refine undisturbed (List.any_eq_true.mpr ⟨before, present, was⟩) other ?_ ne job pending
          frame carried
        exact kept.mem_threads pending carried
  · rintro consumer ⟨leaves, job, frame, member, carried⟩
    rw [isAlone_give rfl]
    rcases mem_pending_doing member with ⟨-, left⟩ | ⟨ne, pending⟩
    · exact absurd carried (idle job frame left)
    · rw [pending_doing_of_ne _ ne] at leaves
      exact delivered.alone consumer ⟨leaves, job, frame, pending, carried⟩

end Jobs

/-! ## Steps and the consumers -/

theorem Delivered.opened (delivered : state.Delivered) {place : Nat}
    (moved : state.opened place = some after) : after.Delivered := by
  simp only [FanOut.opened, Option.bind_eq_bind, Option.bind_eq_some_iff, Option.some.injEq] at moved
  obtain ⟨video, -, rfl⟩ := moved
  refine delivered.of_doing_elsewhere rfl rfl (by rintro ⟨⟩) ?_
  intro job frame member carried
  rw [List.mem_singleton.mp member] at carried
  cases carried

theorem Delivered.completed (delivered : state.Delivered) {number place : Nat}
    (moved : state.completed number place = some after) : after.Delivered := by
  simp only [FanOut.completed, Option.bind_eq_bind, Option.bind_eq_some_iff] at moved
  obtain ⟨session, -, video, -, guarded⟩ := moved
  split at guarded
  · rw [Option.some.injEq] at guarded
    subst guarded
    refine delivered.of_doing_elsewhere rfl rfl (by rintro ⟨⟩) ?_
    intro job frame member carried
    rw [List.mem_singleton.mp member] at carried
    cases carried
  · cases guarded

/-- A session replays its keyframe before it has handed out anything else. -/
theorem Delivered.connected (delivered : state.Delivered) (kept : state.SessionsKept)
    {number : Nat} (moved : state.connected number = some after)
    (undisturbed : state.Undisturbed (.connected number)) : after.Delivered := by
  obtain ⟨session, present, untold, -, -, rfl⟩ := connected_eq_some moved
  refine delivered.of_doing rfl rfl ?_ ?_
  · intro job frame member carried
    obtain ⟨late, keyframe, rfl⟩ := List.mem_map.mp member
    rw [FrameJob.carried, Option.some.injEq] at carried
    subst late
    have cached := Option.mem_toList.mp keyframe
    have own := ((kept.fits number session present).cached frame cached).1
    refine isNewest_of_notOvertaken (undisturbed session present frame cached) ?_
    intro early gave same
    obtain ⟨other, found, told⟩ := (kept.given early gave).1
    rw [same, own, present, Option.some.injEq] at found
    rw [← found, untold] at told
    cases told
  · intro _ consumer _ _ member
    obtain ⟨late, -, same⟩ := List.mem_map.mp member
    cases same

theorem Delivered.unsubscribe (delivered : state.Delivered) {number callbackId : Nat}
    (moved : state.unsubscribe number callbackId = some after) : after.Delivered := by
  simp only [FanOut.unsubscribe, Option.bind_eq_bind, Option.bind_eq_some_iff,
    Option.some.injEq] at moved
  obtain ⟨session, -, rfl⟩ := moved
  exact ⟨delivered.ordered, delivered.ahead, delivered.alone⟩

theorem Delivered.addMediaConsumer (delivered : state.Delivered)
    (moved : state.addMediaConsumer = some after) : after.Delivered := by
  rw [FanOut.addMediaConsumer] at moved
  split at moved
  swap
  · cases moved
  rw [Option.some.injEq] at moved
  subst moved
  have idle : forall job frame, job ∈ [FrameJob.replay state.consumers.length,
      .attached state.consumers.length] -> job.carried ≠ some frame := by
    intro job frame member carried
    rcases List.mem_cons.mp member with first | last
    · rw [first] at carried
      cases carried
    · rw [List.mem_singleton.mp last] at carried
      cases carried
  refine ⟨?_, ?_, ?_⟩
  · intro consumer member
    rcases List.mem_append.mp member with old | new
    · exact delivered.ordered consumer old
    · rw [List.mem_singleton.mp new]
      exact List.Pairwise.nil
  · intro frame carries consumer member attached packet held
    rcases carries_doing carries with ⟨job, fresh, carried⟩ | before
    · exact absurd carried (idle job frame fresh)
    · rcases List.mem_append.mp member with old | new
      · exact delivered.ahead frame before consumer old attached packet held
      · rw [List.mem_singleton.mp new] at held
        cases held
  · rintro consumer ⟨-, job, frame, member, carried⟩
    rw [pending_doing_self] at member
    exact absurd carried (idle job frame member)

theorem Delivered.detach (delivered : state.Delivered) (number : Nat) :
    (state.detach number).Delivered := by
  refine ⟨?_, ?_, ?_⟩
  · intro consumer member
    obtain ⟨before, old, received, -⟩ := mem_detach member
    rw [received]
    exact delivered.ordered before old
  · intro frame carries consumer member attached packet held
    obtain ⟨before, old, received, was⟩ := mem_detach member
    rw [received] at held
    exact delivered.ahead frame carries before old (was attached) packet held
  · intro consumer replaying other inside attached
    rw [FanOut.detach, List.length_modify] at inside
    refine delivered.alone consumer replaying other inside ?_
    rw [FanOut.detach, List.getElem?_modify, Option.map_eq_map, Option.any_map] at attached
    rw [Option.any_eq_true] at attached ⊢
    obtain ⟨one, found, on⟩ := attached
    refine ⟨one, found, ?_⟩
    split at on
    · cases on
    · exact on

/-! ## Runs -/

/-- What holds of sessions, threads and consumers together. -/
structure Sound (state : FanOut) : Prop where
  sessions : state.SessionsKept
  consumers : state.Delivered

theorem sound_initial : FanOut.Sound {} := by
  have nothing : forall frame, ¬ FanOut.Given {} frame := by
    rintro frame (latest | ⟨thread, job, pending, -⟩ | ⟨consumer, member, -⟩)
    · cases latest
    · cases pending
    · cases member
  refine ⟨⟨fun thread => .idle thread, ?_, ?_, ?_, ?_⟩, ?_, ?_, ?_⟩
  · intro number session found
    cases found
  · intro frame gave
    exact absurd gave (nothing frame)
  · intro number frame pending
    cases pending
  · intro number frame pending
    cases pending
  · intro consumer member
    cases member
  · intro frame carries
    exact absurd (Or.inr (Or.inl carries)) (nothing frame)
  · rintro consumer ⟨pending, -⟩
    cases pending

/-- A thread does its next job. -/
theorem Sound.advance (sound : state.Sound) {encodeToAVCC : Packet -> Packet}
    {thread : FrameThread} {elapsed : Int64}
    (undisturbed : state.Undisturbed (.advance thread elapsed))
    (moved : state.advance encodeToAVCC thread elapsed = some after) : after.Sound := by
  obtain ⟨kept, delivered⟩ := sound
  rw [FanOut.advance] at moved
  split at moved
  · cases moved
  · next job rest found =>
      rw [Option.some.injEq] at moved
      have here : state.UndisturbedJob thread job := by
        apply undisturbed job
        rw [found]
        rfl
      subst moved
      cases job with
      | publishFrame number frame =>
          exact ⟨kept.publishFrame found, delivered.publishFrame kept found here⟩
      | publish frame =>
          exact ⟨kept.publish found encodeToAVCC elapsed,
            delivered.publish kept found encodeToAVCC elapsed⟩
      | writeRTP packet => exact ⟨kept.writeRTP found, delivered.writeRTP kept found here⟩
      | replay consumer => exact ⟨kept.replay found, delivered.replay kept found here⟩
      | attached consumer => exact ⟨kept.attached found, delivered.attached kept found⟩

theorem Sound.step (encodeToAVCC : Packet -> Packet) (state : FanOut) (action : FanOutAction)
    (after : FanOut) (sound : state.Sound) (undisturbed : state.Undisturbed action)
    (moved : (fanOut encodeToAVCC).step state action = some after) : after.Sound := by
  obtain ⟨kept, delivered⟩ := sound
  cases action with
  | produced video =>
      cases moved
      exact ⟨kept.of_sessions_eq rfl kept.running (fun _ gave => gave) (fun _ _ _ pending => pending),
        delivered.ordered, delivered.ahead, delivered.alone⟩
  | opened place => exact ⟨kept.opened moved, delivered.opened moved⟩
  | completed number place => exact ⟨kept.completed moved, delivered.completed moved⟩
  | connected number => exact ⟨kept.connected moved, delivered.connected kept moved undisturbed⟩
  | unsubscribe number callbackId => exact ⟨kept.unsubscribe moved, delivered.unsubscribe moved⟩
  | addMediaConsumer => exact ⟨kept.addMediaConsumer moved, delivered.addMediaConsumer moved⟩
  | detach consumer =>
      cases moved
      exact ⟨kept.detach consumer, delivered.detach consumer⟩
  | advance thread elapsed => exact Sound.advance ⟨kept, delivered⟩ undisturbed moved

/-- A consumer that is alone is the only one the track gives anything to. -/
theorem received_give (packet : TrackPacket) {consumer other : Nat} (alone : state.IsAlone consumer)
    (ne : other ≠ consumer) :
    FanOut.received { state with consumers := state.consumers.map (TrackConsumer.give packet) }
      other = state.received other := by
  rw [FanOut.received, FanOut.received, List.getElem?_map]
  cases found : state.consumers[other]? with
  | none => rfl
  | some one =>
      have off : one.attached ≠ true := by
        intro on
        apply ne
        apply alone other (List.getElem?_eq_some_iff.mp found).1
        rw [found, Option.any_some]
        exact on
      rw [Option.map_some, Option.map_some, TrackConsumer.give, if_neg off, Option.map_some]

/-- The registry gives other consumers nothing while it attaches one. -/
theorem attachesPrivately_of_sound (encodeToAVCC : Packet -> Packet) (state : FanOut)
    (action : FanOutAction) (sound : state.Sound) :
    state.AttachesPrivately encodeToAVCC action := by
  intro consumer elapsed leaves same other ne
  subst same
  rcases (fanOut encodeToAVCC).next_cases state (.advance .registry elapsed) with refused | moved
  · rw [refused]
  generalize (fanOut encodeToAVCC).next state (.advance .registry elapsed) = after at moved
  change state.advance encodeToAVCC .registry elapsed = some after at moved
  rw [FanOut.advance] at moved
  split at moved
  · cases moved
  next job rest found =>
  rw [Option.some.injEq] at moved
  subst moved
  cases job with
  | publishFrame number frame =>
      have runs : FrameThread.Runs .registry (.publishFrame number frame :: rest) :=
        found ▸ sound.sessions.running .registry
      cases runs with
      | subscribing carried => cases carried
      | replaying other carried => cases carried
  | publish frame =>
      simp only [FanOut.perform, FanOut.publish]
      split <;> rfl
  | writeRTP packet =>
      refine received_give packet (sound.consumers.alone consumer
        ⟨leaves, .writeRTP packet, packet.frame, ?_, rfl⟩) ne
      rw [found]
      exact List.mem_cons_self
  | replay number => rfl
  | attached number => rfl

end FanOut

/-! ## The main result -/

/-- In every undisturbed run each consumer is given frames in the order of the camera and
none twice, and a consumer is attached without anything being given to the others. -/
theorem frames_in_camera_order (encodeToAVCC : Packet -> Packet) (actions : List FanOutAction)
    (undisturbed : (fanOut encodeToAVCC).Meets FanOut.Undisturbed {} actions) :
    (forall before, before <+: actions -> ((fanOut encodeToAVCC).run {} before).InCameraOrder) ∧
      (fanOut encodeToAVCC).Meets (FanOut.AttachesPrivately encodeToAVCC) {} actions := by
  constructor
  · rintro before ⟨later, rfl⟩
    rw [Machine.meets_append] at undisturbed
    exact ((fanOut encodeToAVCC).run_invariant_of_meets _ FanOut.Sound
      (FanOut.Sound.step encodeToAVCC) {} before FanOut.sound_initial undisturbed.1).consumers.ordered
  · exact (fanOut encodeToAVCC).meets_of_invariant _ _ FanOut.Sound
      (FanOut.Sound.step encodeToAVCC)
      (fun state action sound _ => FanOut.attachesPrivately_of_sound encodeToAVCC state action sound)
      {} actions FanOut.sound_initial undisturbed

/-- A keyframe with one NAL unit of one byte, which reads the same in both formats. -/
def exampleKeyframe : VideoFrame where
  timestamp := 0
  keyframe := true
  data := [0, 0, 0, 1, 0x65]

/-- A session with a keyframe is connected, and a consumer is added after it. -/
def consumerAfterSession : List FanOutAction :=
  [.produced exampleKeyframe, .opened 0, .advance (.opening 0) 0, .connected 0,
    .advance .registry 0, .advance .registry 0, .addMediaConsumer, .advance .registry 0,
    .advance .registry 0, .advance .registry 0, .advance .registry 0]

/-- One more consumer, with the four jobs of its attachment. -/
def secondConsumer : List FanOutAction :=
  [.addMediaConsumer, .advance .registry 0, .advance .registry 0, .advance .registry 0]

/-- The replay to the second consumer gives the first one its frame again. -/
theorem keyframe_given_twice :
    let actions := consumerAfterSession ++ secondConsumer
    ¬ ((fanOut id).run {} actions).InCameraOrder ∧
      ¬ (fanOut id).Meets (FanOut.AttachesPrivately id) {} actions := by
  refine ⟨by rw [FanOut.InCameraOrder]; decide, ?_⟩
  intro meets
  -- The last step is the write of the replayed keyframe.
  have last : (fanOut id).Meets (FanOut.AttachesPrivately id) {}
      ((consumerAfterSession ++ secondConsumer.dropLast) ++ [.advance .registry 0]) := meets
  rw [Machine.meets_append] at last
  have same := last.2.1 1 0 (by decide) rfl 0 (by decide)
  have lengths := congrArg List.length same
  exact absurd lengths (by decide)

/-- One consumer after one session. -/
theorem single_consumer_in_order :
    (fanOut id).Meets FanOut.Undisturbed {} consumerAfterSession ∧
      ((fanOut id).run {} consumerAfterSession).InCameraOrder := by
  have undisturbed : (fanOut id).Meets FanOut.Undisturbed {} consumerAfterSession := by
    decide
  exact ⟨undisturbed,
    (frames_in_camera_order id consumerAfterSession undisturbed).1 _ (List.prefix_refl _)⟩

end Camera
end PetlibroRelay
