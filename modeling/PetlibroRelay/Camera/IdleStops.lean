import PetlibroRelay.Camera.StreamTimers

namespace PetlibroRelay
namespace Camera

open Foundations

/-!
# Streams without viewers

A stream that nobody views should be stopped.  The removal of the last viewer schedules the
stop, and every other operation leaves a scheduled stop alone or replaces it by a viewer.

Two sections do neither.  `ensure_stream` creates the stream for a viewer that has left in
the meantime, when the stop may have come and gone.  The end of a WebRTC exchange cancels
the stop timer without looking at the viewers, who may all have left during the exchange.
Where neither happens, every stream that is not viewed is about to be stopped.
-/

theorem streamNameForDevice_injective {first second : String}
    (same : streamNameForDevice first = streamNameForDevice second) : first = second := by
  rw [streamNameForDevice, streamNameForDevice] at same
  exact String.append_right_inj _ |>.mp same

namespace StreamWorld

/-! ## The property and the condition -/

/-- A stop of the stream is scheduled, is about to be scheduled, or is being carried out. -/
def IsStopping (world : StreamWorld) (deviceId : String) : Prop :=
  (Dict.get? world.1.webrtcStopTimers deviceId).isSome = true ∨
    Threads.Pending world.2 (.scheduleIdleStreamStop deviceId) ∨
      Threads.Pending world.2 (.stopIdleStream deviceId)

/-- While no call is half-way, a stream that was ensured and is not viewed has a stop timer
that is armed. -/
def IdleStreamsStop (world : StreamWorld) : Prop :=
  world.IsQuiet -> forall deviceId, streamNameForDevice deviceId ∈ world.1.ensuredStreams ->
    world.1.viewersOf deviceId = [] ->
      exists number timer, Dict.get? world.1.webrtcStopTimers deviceId = some number ∧
        world.1.timers[number]? = some timer ∧
          timer.callback = .stopIdleStream deviceId ∧ timer.state = .armed

/-- Every stream that was ensured and is not viewed is about to be stopped. -/
def Attended (world : StreamWorld) : Prop :=
  forall deviceId, streamNameForDevice deviceId ∈ world.1.ensuredStreams ->
    world.1.viewersOf deviceId = [] -> world.IsStopping deviceId

/-- `ensure_stream` creates a stream only for a device that is viewed or already being
stopped. -/
def EnsuresAttended (settings : Go2RtcSettings) (world : StreamWorld) (deviceId : String)
    (replies : SidecarReplies) : Prop :=
  settings.enabled = true -> streamNameForDevice deviceId ∉ world.1.ensuredStreams ->
    replies.secondGet = true -> world.1.viewersOf deviceId ≠ [] ∨ world.IsStopping deviceId

/-- A stop timer is cancelled after an exchange only if the stream is not ensured or another
stop is on its way. -/
def CancelsAttended (world : StreamWorld) (deviceId : String) : Prop :=
  (Dict.get? world.1.webrtcStopTimers deviceId).isSome = true ->
    streamNameForDevice deviceId ∉ world.1.ensuredStreams ∨
      Threads.Pending world.2 (.scheduleIdleStreamStop deviceId) ∨
        Threads.Pending world.2 (.stopIdleStream deviceId)

/-- The condition on one job. -/
def AttendedJob (settings : Go2RtcSettings) (world : StreamWorld) (replies : SidecarReplies) :
    StreamJob -> Prop
  | .ensureViewed deviceId _ => EnsuresAttended settings world deviceId replies
  | .ensureExchanged deviceId => EnsuresAttended settings world deviceId replies
  | .rememberWebrtcSession deviceId _ => world.CancelsAttended deviceId
  | _ => True

/-- No stream is created and no stop is cancelled for a device that nobody views. -/
def AttendedStep (settings : Go2RtcSettings) (world : StreamWorld) : StreamAction -> Prop
  | .advance thread replies =>
      forall job, job ∈ Threads.nextJob world.2 thread -> AttendedJob settings world replies job
  | _ => True

instance (world : StreamWorld) (job : StreamJob) : Decidable (Threads.Pending world.2 job) :=
  inferInstanceAs (Decidable (exists thread, thread ∈ world.2 ∧ job ∈ thread))

instance (world : StreamWorld) (deviceId : String) : Decidable (world.IsStopping deviceId) :=
  inferInstanceAs (Decidable (_ ∨ _))

instance (settings : Go2RtcSettings) (world : StreamWorld) (deviceId : String)
    (replies : SidecarReplies) : Decidable (EnsuresAttended settings world deviceId replies) :=
  inferInstanceAs (Decidable (_ -> _ -> _ -> _))

instance (world : StreamWorld) (deviceId : String) : Decidable (world.CancelsAttended deviceId) :=
  inferInstanceAs (Decidable (_ -> _))

instance (settings : Go2RtcSettings) (world : StreamWorld) (replies : SidecarReplies) :
    (job : StreamJob) -> Decidable (AttendedJob settings world replies job)
  | .ensureViewed deviceId _ =>
      inferInstanceAs (Decidable (EnsuresAttended settings world deviceId replies))
  | .ensureExchanged deviceId =>
      inferInstanceAs (Decidable (EnsuresAttended settings world deviceId replies))
  | .rememberWebrtcSession deviceId _ =>
      inferInstanceAs (Decidable (world.CancelsAttended deviceId))
  | .activateViewer _ _ | .heartbeatViewer _ _ | .exchangeWebrtc _ _ | .postOffer _
  | .closeWebrtc _ _ | .deleteWebrtcSession _ | .deactivateViewer _ _ _
  | .scheduleIdleStreamStop _ | .expireViewer _ _ | .stopIdleStream _ | .deleteStream _ =>
      isTrue trivial

instance (settings : Go2RtcSettings) (world : StreamWorld) :
    (action : StreamAction) -> Decidable (AttendedStep settings world action)
  | .advance thread replies =>
      inferInstanceAs (Decidable (forall job, job ∈ Threads.nextJob world.2 thread ->
        AttendedJob settings world replies job))
  | .call _ | .fire _ | .tick _ | .lose _ => isTrue trivial

instance (world : StreamWorld) : Decidable world.IsQuiet :=
  inferInstanceAs (Decidable (forall thread, thread ∈ world.2 -> thread = []))

/-! ## One device -/

/-- A device whose stream is ensured, but not viewed. -/
def IsIdle (client : Go2RtcStreamClient) (deviceId : String) : Prop :=
  streamNameForDevice deviceId ∈ client.ensuredStreams ∧ client.viewersOf deviceId = []

variable {settings : Go2RtcSettings} {world : StreamWorld}

/-- A stop stays on its way if its timer is not taken away and it is not carried out. -/
theorem IsStopping.continued {deviceId : String} (stopping : world.IsStopping deviceId)
    {thread : Nat} {job : StreamJob} {rest : List StreamJob}
    (found : world.2[thread]? = some (job :: rest)) (after : Go2RtcStreamClient)
    (next : List StreamJob)
    (timer : (Dict.get? world.1.webrtcStopTimers deviceId).isSome = true ->
      IsStopping (after, world.2.set thread (next ++ rest)) deviceId)
    (schedules : job ≠ .scheduleIdleStreamStop deviceId) (stops : job ≠ .stopIdleStream deviceId) :
    IsStopping (after, world.2.set thread (next ++ rest)) deviceId := by
  rcases stopping with entry | scheduled | running
  · exact timer entry
  · rcases scheduled.continued found next with same | still
    · exact absurd same.symm schedules
    · exact Or.inr (Or.inl still)
  · rcases running.continued found next with same | still
    · exact absurd same.symm stops
    · exact Or.inr (Or.inr still)

/-- A job that neither ensures a stream nor takes a viewer or a stop away. -/
theorem Attended.continued (attended : world.Attended) {thread : Nat} {job : StreamJob}
    {rest : List StreamJob} (found : world.2[thread]? = some (job :: rest))
    {after : Go2RtcStreamClient} (next : List StreamJob)
    (step : forall deviceId, IsIdle after deviceId ->
      IsIdle world.1 deviceId ∧ (Dict.get? world.1.webrtcStopTimers deviceId).isSome =
          (Dict.get? after.webrtcStopTimers deviceId).isSome ∧
        job ≠ .scheduleIdleStreamStop deviceId ∧ job ≠ .stopIdleStream deviceId ∨
      IsStopping (after, world.2.set thread (next ++ rest)) deviceId) :
    Attended (after, world.2.set thread (next ++ rest)) := by
  intro deviceId ensured unviewed
  rcases step deviceId ⟨ensured, unviewed⟩ with ⟨idle, entry, schedules, stops⟩ | stopping
  · refine (attended deviceId idle.1 idle.2).continued found after next ?_ schedules stops
    intro timer
    exact Or.inl (entry ▸ timer)
  · exact stopping

/-! ## Jobs -/

section Jobs

variable {thread : Nat} {rest : List StreamJob}

/-- A device other than the one a viewer was seen of is as idle as before. -/
theorem isIdle_see {client : Go2RtcStreamClient} {deviceId viewerId other : String}
    (idle : IsIdle (client.see deviceId viewerId) other) :
    deviceId ≠ other ∧ IsIdle client other := by
  obtain ⟨ensured, unviewed⟩ := idle
  rw [client.viewersOf_see] at unviewed
  by_cases same : deviceId = other
  · rw [if_pos same] at unviewed
    have seen := Dict.get?_set_self (client.viewersOf deviceId) viewerId client.now
    rw [unviewed] at seen
    cases seen
  · rw [if_neg same] at unviewed
    exact ⟨same, ensured, unviewed⟩

theorem Attended.ensureStream (attended : world.Attended) {job : StreamJob} {deviceId : String}
    {replies : SidecarReplies} (found : world.2[thread]? = some (job :: rest))
    (next : List StreamJob) (creates : EnsuresAttended settings world deviceId replies)
    (schedules : forall device, job ≠ .scheduleIdleStreamStop device)
    (stops : forall device, job ≠ .stopIdleStream device) :
    Attended ((world.1.ensureStream deviceId settings replies).1,
      world.2.set thread (next ++ rest)) := by
  have unchanged : Attended (world.1, world.2.set thread (next ++ rest)) :=
    attended.continued found next
      (fun device idle => Or.inl ⟨idle, rfl, schedules device, stops device⟩)
  rcases world.1.ensureStream_cases deviceId settings replies with
    ⟨same, -⟩ | ⟨same, -⟩ | ⟨streams, verified, same, enabled, answered, -⟩
  · rw [same]
    exact unchanged
  · rw [same]
    exact unchanged
  · rw [same]
    intro device ensured unviewed
    by_cases old : streamNameForDevice device ∈ world.1.ensuredStreams
    · exact unchanged device old unviewed
    · -- The stream is new, so it is the one that has been created.
      cases verified with
      | false => exact absurd (List.mem_filter.mp ensured).1 old
      | true =>
          rcases List.mem_insert_iff.mp ensured with same | before
          · have own := streamNameForDevice_injective same
            subst own
            rcases creates enabled old (answered rfl).1 with viewed | stopping
            · exact absurd unviewed viewed
            · exact stopping.continued found _ next (fun entry => Or.inl entry) (schedules _) (stops _)
          · exact absurd before old

/-- A job that touches neither viewers nor streams nor stop timers. -/
theorem Attended.unrelated (attended : world.Attended) {job : StreamJob}
    (found : world.2[thread]? = some (job :: rest)) (next : List StreamJob)
    (schedules : forall device, job ≠ .scheduleIdleStreamStop device)
    (stops : forall device, job ≠ .stopIdleStream device) :
    Attended (world.1, world.2.set thread (next ++ rest)) :=
  attended.continued found next
    (fun device idle => Or.inl ⟨idle, rfl, schedules device, stops device⟩)

/-- Seeing a viewer leaves all other devices as they are. -/
theorem Attended.seen (attended : world.Attended) {job : StreamJob}
    (found : world.2[thread]? = some (job :: rest)) (device viewer : String)
    (next : List StreamJob) (schedules : forall device, job ≠ .scheduleIdleStreamStop device)
    (stops : forall device, job ≠ .stopIdleStream device) :
    Attended ((world.1.see device viewer).armViewerWatchdogLocked device viewer,
      world.2.set thread (next ++ rest)) := by
  refine attended.continued found next ?_
  intro other idle
  exact Or.inl ⟨(@isIdle_see world.1 _ _ _ idle).2, rfl, schedules other, stops other⟩

/-- A session that is remembered cancels the stop timer of its device, which somebody else is
then about to start again. -/
theorem Attended.rememberWebrtcSession (attended : world.Attended) {device : String}
    {location : Option String}
    (found : world.2[thread]? = some (.rememberWebrtcSession device location :: rest))
    (step : CancelsAttended world device) (replies : SidecarReplies) :
    Attended ((Go2RtcStreamClient.perform settings world.1 replies
        (.rememberWebrtcSession device location)).1, world.2.set thread
      ((Go2RtcStreamClient.perform settings world.1 replies
        (.rememberWebrtcSession device location)).2 ++ rest)) := by
  refine attended.continued found _ ?_
  intro other idle
  by_cases same : device = other
  · subst same
    refine Or.inr ((attended device idle.1 idle.2).continued found _ _ ?_ (by rintro ⟨⟩)
      (by rintro ⟨⟩))
    intro entry
    rcases step entry with free | scheduled | running
    · exact absurd idle.1 free
    · rcases scheduled.continued found [] with done | still
      · cases done
      · exact Or.inr (Or.inl still)
    · rcases running.continued found [] with done | still
      · cases done
      · exact Or.inr (Or.inr still)
  · refine Or.inl ⟨idle, ?_, by rintro ⟨⟩, by rintro ⟨⟩⟩
    exact congrArg Option.isSome (Dict.get?_erase_of_ne _ same).symm

/-- When the last viewer has left, the call goes on to schedule the stop. -/
theorem Attended.deactivateViewer (attended : world.Attended) {device viewer : String}
    {reason : RemovalReason}
    (found : world.2[thread]? = some (.deactivateViewer device viewer reason :: rest))
    (replies : SidecarReplies) :
    Attended ((Go2RtcStreamClient.perform settings world.1 replies
        (.deactivateViewer device viewer reason)).1, world.2.set thread
      ((Go2RtcStreamClient.perform settings world.1 replies
        (.deactivateViewer device viewer reason)).2 ++ rest)) := by
  rw [Go2RtcStreamClient.perform, Go2RtcStreamClient.deactivateViewer]
  split
  · exact attended.unrelated found _ (by rintro _ ⟨⟩) (by rintro _ ⟨⟩)
  · refine attended.continued found _ ?_
    rintro other ⟨ensured, unviewed⟩
    have left : (world.1.forget device viewer).viewersOf other = [] := unviewed
    by_cases same : device = other
    · subst same
      refine Or.inr (Or.inr (Or.inl (Threads.Pending.continued_next found ?_)))
      dsimp only
      rw [left]
      exact List.mem_cons_self
    · rw [Go2RtcStreamClient.viewersOf_forget, if_neg same] at left
      exact Or.inl ⟨⟨ensured, left⟩, rfl, by rintro ⟨⟩, by rintro ⟨⟩⟩

/-- A stop that is scheduled has a timer, unless somebody views the stream again. -/
theorem Attended.scheduleIdleStreamStop (attended : world.Attended) {device : String}
    (found : world.2[thread]? = some (.scheduleIdleStreamStop device :: rest))
    (replies : SidecarReplies) :
    Attended ((Go2RtcStreamClient.perform settings world.1 replies
        (.scheduleIdleStreamStop device)).1, world.2.set thread
      ((Go2RtcStreamClient.perform settings world.1 replies
        (.scheduleIdleStreamStop device)).2 ++ rest)) := by
  have elsewhere : forall other, device ≠ other ->
      StreamJob.scheduleIdleStreamStop device ≠ .scheduleIdleStreamStop other :=
    fun other different same => different (StreamJob.scheduleIdleStreamStop.inj same)
  rw [Go2RtcStreamClient.perform, Go2RtcStreamClient.scheduleIdleStreamStop]
  split
  · next viewed =>
      refine attended.continued found _ ?_
      intro other idle
      exact Or.inl ⟨idle, rfl, elsewhere other (fun same => viewed (same ▸ idle.2)),
        by rintro ⟨⟩⟩
  · split
    · next entry =>
        refine attended.continued found _ ?_
        intro other idle
        by_cases same : device = other
        · exact Or.inr (Or.inl (same ▸ entry))
        · exact Or.inl ⟨idle, rfl, elsewhere other same, by rintro ⟨⟩⟩
    · refine attended.continued found _ ?_
      intro other idle
      by_cases same : device = other
      · subst same
        refine Or.inr (Or.inl ?_)
        exact congrArg Option.isSome (Dict.get?_set_self _ _ _)
      · refine Or.inl ⟨idle, ?_, elsewhere other same, by rintro ⟨⟩⟩
        exact congrArg Option.isSome (Dict.get?_set_of_ne _ _ same).symm

/-- A stop that runs out ends the stream, unless somebody views it again. -/
theorem Attended.stopIdleStream (attended : world.Attended) {device : String}
    (found : world.2[thread]? = some (.stopIdleStream device :: rest)) (replies : SidecarReplies) :
    Attended ((Go2RtcStreamClient.perform settings world.1 replies (.stopIdleStream device)).1,
      world.2.set thread
        ((Go2RtcStreamClient.perform settings world.1 replies (.stopIdleStream device)).2 ++
          rest)) := by
  have elsewhere : forall other, device ≠ other ->
      StreamJob.stopIdleStream device ≠ .stopIdleStream other :=
    fun other different same => different (StreamJob.stopIdleStream.inj same)
  rw [Go2RtcStreamClient.perform, Go2RtcStreamClient.stopIdleStream]
  split
  · next viewed =>
      refine attended.continued found _ ?_
      intro other idle
      have different : device ≠ other := fun same => viewed (same ▸ idle.2)
      refine Or.inl ⟨idle, ?_, by rintro ⟨⟩, elsewhere other different⟩
      exact congrArg Option.isSome (Dict.get?_erase_of_ne _ different).symm
  · refine attended.continued found _ ?_
    rintro other ⟨ensured, unviewed⟩
    -- The stream of this device is no longer ensured.
    obtain ⟨before, other_name⟩ := List.mem_filter.mp ensured
    have different : device ≠ other := by
      rintro rfl
      exact of_decide_eq_true other_name rfl
    refine Or.inl ⟨⟨before, unviewed⟩, ?_, by rintro ⟨⟩, elsewhere other different⟩
    exact congrArg Option.isSome (Dict.get?_erase_of_ne _ different).symm

/-- Every job keeps unviewed streams about to be stopped. -/
theorem Attended.perform (attended : world.Attended) {job : StreamJob} {replies : SidecarReplies}
    (found : world.2[thread]? = some (job :: rest))
    (step : AttendedJob settings world replies job) :
    Attended ((Go2RtcStreamClient.perform settings world.1 replies job).1, world.2.set thread
      ((Go2RtcStreamClient.perform settings world.1 replies job).2 ++ rest)) := by
  cases job with
  | activateViewer device viewer =>
      refine attended.continued found _ ?_
      intro other idle
      obtain ⟨different, before⟩ := @isIdle_see world.1 _ _ _ idle
      refine Or.inl ⟨before, ?_, by rintro ⟨⟩, by rintro ⟨⟩⟩
      exact congrArg Option.isSome (Dict.get?_erase_of_ne _ different).symm
  | ensureViewed device viewer =>
      exact attended.ensureStream found [] step (by rintro _ ⟨⟩) (by rintro _ ⟨⟩)
  | heartbeatViewer device viewer =>
      rw [Go2RtcStreamClient.perform, Go2RtcStreamClient.heartbeatViewer]
      split
      · exact attended.unrelated found _ (by rintro _ ⟨⟩) (by rintro _ ⟨⟩)
      · exact attended.seen found _ _ _ (by rintro _ ⟨⟩) (by rintro _ ⟨⟩)
  | exchangeWebrtc device viewer =>
      rw [Go2RtcStreamClient.perform, Go2RtcStreamClient.heartbeatViewer]
      split
      · exact attended.unrelated found _ (by rintro _ ⟨⟩) (by rintro _ ⟨⟩)
      · cases world.1.lastSeen device viewer with
        | none => exact attended.unrelated found _ (by rintro _ ⟨⟩) (by rintro _ ⟨⟩)
        | some time => exact attended.seen found _ _ _ (by rintro _ ⟨⟩) (by rintro _ ⟨⟩)
  | ensureExchanged device =>
      exact attended.ensureStream found _ step (by rintro _ ⟨⟩) (by rintro _ ⟨⟩)
  | postOffer device => exact attended.unrelated found _ (by rintro _ ⟨⟩) (by rintro _ ⟨⟩)
  | rememberWebrtcSession device location =>
      exact attended.rememberWebrtcSession found step replies
  | closeWebrtc device session =>
      exact attended.unrelated found _ (by rintro _ ⟨⟩) (by rintro _ ⟨⟩)
  | deleteWebrtcSession url =>
      exact attended.unrelated found _ (by rintro _ ⟨⟩) (by rintro _ ⟨⟩)
  | deactivateViewer device viewer reason => exact attended.deactivateViewer found replies
  | scheduleIdleStreamStop device => exact attended.scheduleIdleStreamStop found replies
  | expireViewer device viewer =>
      rw [Go2RtcStreamClient.perform, Go2RtcStreamClient.expireViewer]
      split
      · exact attended.unrelated found _ (by rintro _ ⟨⟩) (by rintro _ ⟨⟩)
      · split
        · exact attended.continued found _
            (fun other idle => Or.inl ⟨idle, rfl, by rintro ⟨⟩, by rintro ⟨⟩⟩)
        · exact attended.unrelated found _ (by rintro _ ⟨⟩) (by rintro _ ⟨⟩)
  | stopIdleStream device => exact attended.stopIdleStream found replies
  | deleteStream device =>
      rw [Go2RtcStreamClient.perform, Go2RtcStreamClient.deleteStream]
      split
      · exact attended.continued found _
          (fun other idle => Or.inl ⟨idle, rfl, by rintro ⟨⟩, by rintro ⟨⟩⟩)
      · exact attended.unrelated found _ (by rintro _ ⟨⟩) (by rintro _ ⟨⟩)

end Jobs

/-! ## Runs -/

/-- A step outside the sections of the client. -/
theorem Attended.of_eq (attended : world.Attended) {after : StreamWorld}
    (ensured : after.1.ensuredStreams = world.1.ensuredStreams)
    (viewers : after.1.viewers = world.1.viewers)
    (timers : after.1.webrtcStopTimers = world.1.webrtcStopTimers)
    (pending : forall job, Threads.Pending world.2 job -> Threads.Pending after.2 job) :
    after.Attended := by
  intro device member unviewed
  rw [ensured] at member
  rw [Go2RtcStreamClient.viewersOf, viewers] at unviewed
  rw [IsStopping, timers]
  exact (attended device member unviewed).imp_right (Or.imp (pending _) (pending _))

theorem Attended.step (settings : Go2RtcSettings) (world : StreamWorld) (action : StreamAction)
    (after : StreamWorld) (both : TimersKept world ∧ world.Attended)
    (attends : AttendedStep settings world action)
    (moved : (streamMachine settings).step world action = some after) :
    TimersKept after ∧ after.Attended := by
  refine ⟨both.1.step settings world action after moved, ?_⟩
  obtain ⟨-, attended⟩ := both
  cases action with
  | call call =>
      cases moved
      exact attended.of_eq rfl rfl rfl (fun _ pending => pending.concat _)
  | advance thread replies =>
      obtain ⟨job, rest, found, next, rfl⟩ := Threads.advance_eq_some moved
      exact attended.perform found (attends job next)
  | fire number =>
      simp only [streamMachine, Option.map_eq_some_iff] at moved
      obtain ⟨fired, started, rfl⟩ := moved
      obtain ⟨timer, -, -, rfl⟩ := Go2RtcStreamClient.fire_eq_some started
      exact attended.of_eq rfl rfl rfl (fun _ pending => pending.concat _)
  | tick later =>
      simp only [streamMachine] at moved
      split at moved
      · cases moved
        exact attended.of_eq rfl rfl rfl (fun _ pending => pending)
      · cases moved
  | lose stream =>
      cases moved
      exact attended.of_eq rfl rfl rfl (fun _ pending => pending)

theorem idleStreamsStop_of_attended (kept : TimersKept world) (attended : world.Attended) :
    world.IdleStreamsStop := by
  intro quiet device ensured unviewed
  rcases attended device ensured unviewed with entry | scheduled | running
  · obtain ⟨number, named⟩ := Option.isSome_iff_exists.mp entry
    obtain ⟨timer, found, callback, armed | ⟨job, pending, -⟩⟩ :=
      kept.slots (.stopIdleStream device) number named
    · exact ⟨number, timer, named, found, callback, armed⟩
    · exact absurd pending (Threads.Pending.not_of_finished quiet)
  · exact absurd scheduled (Threads.Pending.not_of_finished quiet)
  · exact absurd running (Threads.Pending.not_of_finished quiet)

end StreamWorld

/-- In every run that creates no stream and cancels no stop for a device that nobody views,
each stream without viewers has an armed stop timer while no call is half-way. -/
theorem idle_streams_stop (settings : Go2RtcSettings) (actions : List StreamAction)
    (attends : (streamMachine settings).Meets (StreamWorld.AttendedStep settings) .start actions) :
    forall before, before <+: actions ->
      ((streamMachine settings).run .start before).IdleStreamsStop := by
  rintro before ⟨later, rfl⟩
  rw [Machine.meets_append] at attends
  have initial : TimersKept StreamWorld.start ∧ StreamWorld.start.Attended :=
    ⟨timersKept_initial, fun device ensured => absurd ensured List.not_mem_nil⟩
  obtain ⟨kept, attended⟩ := (streamMachine settings).run_invariant_of_meets _ _
    (StreamWorld.Attended.step settings) .start before initial attends.1
  exact StreamWorld.idleStreamsStop_of_attended kept attended

/-- A viewer comes and leaves. -/
def viewerLeaves : List StreamAction :=
  [.call (.activate "feeder" "viewer"), .advance 0 {}, .advance 0 {},
    .call (.deactivate "feeder" "viewer"), .advance 1 {}, .advance 1 {}]

/-- A viewer leaves during its WebRTC exchange. -/
def viewerLeavesInExchange : List StreamAction :=
  [.call (.activate "feeder" "viewer"), .advance 0 {}, .advance 0 {},
    .call (.exchange "feeder" "viewer"), .advance 1 {}, .advance 1 {}, .advance 1 {},
    .call (.deactivate "feeder" "viewer"), .advance 2 {}, .advance 2 {}, .advance 1 {}]

/-- The stop of a stream is scheduled when its viewer leaves. -/
theorem stream_stops_after_viewer :
    (streamMachine {}).Meets (StreamWorld.AttendedStep {}) .start viewerLeaves ∧
      ((streamMachine {}).run .start viewerLeaves).IdleStreamsStop := by
  have attends : (streamMachine {}).Meets (StreamWorld.AttendedStep {}) .start viewerLeaves := by
    decide +kernel
  exact ⟨attends, idle_streams_stop {} viewerLeaves attends viewerLeaves (List.prefix_refl _)⟩

/-- The exchange of a viewer that has left cancels the stop of its stream. -/
theorem exchange_cancels_idle_stop :
    ¬ ((streamMachine {}).run .start viewerLeavesInExchange).IdleStreamsStop := by
  intro stops
  obtain ⟨number, timer, named, -⟩ := stops (by decide +kernel) "feeder" (by decide +kernel)
    (by decide +kernel)
  have missing : Dict.get? ((streamMachine {}).run .start
      viewerLeavesInExchange).1.webrtcStopTimers "feeder" = none := by
    decide +kernel
  rw [missing] at named
  cases named

end Camera
end PetlibroRelay
