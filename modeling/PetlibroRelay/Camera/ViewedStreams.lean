import PetlibroRelay.Camera.IdleStops

namespace PetlibroRelay
namespace Camera

open Foundations

/-!
# Streams that are viewed

A viewer whose activation has returned True should have a stream in go2rtc as long as it is
registered.  The idle stop looks for viewers under the lock, and deletes the stream after it
has given the lock up.  A viewer that returns in between gets a stream, which is deleted
while it is viewed.

This late request is the only one that can take a stream away from a viewer.
-/

/-- The registered viewers whose activation has returned True. -/
abbrev ActivatedViewers := List (String × String)

/-- What a job changes of them. -/
def StreamJob.noteActivated (settings : Go2RtcSettings) (client : Go2RtcStreamClient)
    (replies : SidecarReplies) (activated : ActivatedViewers) : StreamJob -> ActivatedViewers
  | .ensureViewed deviceId viewerId =>
      if (client.ensureStream deviceId settings replies).2 = true ∧
          (client.lastSeen deviceId viewerId).isSome then
        (deviceId, viewerId) :: activated
      else activated
  | .deactivateViewer deviceId viewerId _ =>
      activated.filter (fun viewer => decide (viewer ≠ (deviceId, viewerId)))
  | _ => activated

def noteActivated (settings : Go2RtcSettings) (activated : ActivatedViewers) (world : StreamWorld) :
    StreamAction -> ActivatedViewers
  | .advance thread replies =>
      match Threads.nextJob world.2 thread with
      | some job => job.noteActivated settings world.1 replies activated
      | none => activated
  | _ => activated

/-- The client beside its activated viewers. -/
def activatedMachine (settings : Go2RtcSettings) :
    Machine (StreamWorld × ActivatedViewers) StreamAction :=
  (streamMachine settings).watched (noteActivated settings)

/-! ## The property, the assumption and the condition -/

/-- While no call is half-way, each registered viewer whose activation returned True has a
stream. -/
def ViewersHaveStreams (state : StreamWorld × ActivatedViewers) : Prop :=
  state.1.IsQuiet -> forall deviceId viewerId,
    (state.1.1.lastSeen deviceId viewerId).isSome = true -> (deviceId, viewerId) ∈ state.2 ->
      streamNameForDevice deviceId ∈ state.1.1.streams

/-- go2rtc creates the streams it is asked to create, and loses none by itself. -/
def SidecarKeepsStreams (_ : StreamWorld × ActivatedViewers) : StreamAction -> Prop
  | .advance _ replies => replies.put = true
  | .lose _ => False
  | _ => True

/-- The stream of a device is deleted only while none of its registered viewers has been
activated. -/
def DeletesUnviewed (state : StreamWorld × ActivatedViewers) : StreamAction -> Prop
  | .advance thread _ =>
      forall job, job ∈ Threads.nextJob state.1.2 thread -> forall viewer, viewer ∈ state.2 ->
        job ≠ .deleteStream viewer.1
  | _ => True

instance (state : StreamWorld × ActivatedViewers) :
    (action : StreamAction) -> Decidable (SidecarKeepsStreams state action)
  | .advance _ replies => inferInstanceAs (Decidable (replies.put = true))
  | .lose _ => isFalse id
  | .call _ | .fire _ | .tick _ => isTrue trivial

instance (state : StreamWorld × ActivatedViewers) :
    (action : StreamAction) -> Decidable (DeletesUnviewed state action)
  | .advance thread _ =>
      inferInstanceAs (Decidable (forall job, job ∈ Threads.nextJob state.1.2 thread ->
        forall viewer, viewer ∈ state.2 -> job ≠ .deleteStream viewer.1))
  | .call _ | .fire _ | .tick _ | .lose _ => isTrue trivial

/-! ## Jobs -/

/-- Every activated viewer has a stream. -/
def ActivatedHaveStreams (client : Go2RtcStreamClient) (activated : ActivatedViewers) : Prop :=
  forall viewer, viewer ∈ activated -> streamNameForDevice viewer.1 ∈ client.streams

namespace ActivatedHaveStreams

variable {settings : Go2RtcSettings} {client : Go2RtcStreamClient} {activated : ActivatedViewers}
  {replies : SidecarReplies}

/-- `ensure_stream` takes no stream away, and what it says True of exists. -/
theorem ensureStream (have_streams : ActivatedHaveStreams client activated)
    (put : replies.put = true) (deviceId : String) :
    ActivatedHaveStreams (client.ensureStream deviceId settings replies).1 activated ∧
      ((client.ensureStream deviceId settings replies).2 = true ->
        streamNameForDevice deviceId ∈
          (client.ensureStream deviceId settings replies).1.streams) := by
  rcases client.ensureStream_cases deviceId settings replies with
    ⟨same, -⟩ | ⟨same, known⟩ | ⟨streams, verified, same, -, answered, created, others⟩
  · rw [same]
    exact ⟨have_streams, nofun⟩
  · rw [same]
    exact ⟨have_streams, fun _ => known⟩
  · rw [same]
    refine ⟨?_, fun ready => (answered ready).2⟩
    intro viewer member
    by_cases own : streamNameForDevice viewer.1 = streamNameForDevice deviceId
    · simp only [own]
      exact created put
    · exact (others _ own).mpr (have_streams viewer member)

theorem perform (have_streams : ActivatedHaveStreams client activated) (put : replies.put = true)
    {job : StreamJob} (unviewed : forall viewer, viewer ∈ activated -> job ≠ .deleteStream viewer.1) :
    ActivatedHaveStreams (Go2RtcStreamClient.perform settings client replies job).1
      (job.noteActivated settings client replies activated) := by
  cases job with
  | ensureViewed device viewer =>
      obtain ⟨kept, ready⟩ := @ensureStream settings _ _ _ have_streams put device
      intro other member
      rw [StreamJob.noteActivated] at member
      split at member
      · next activates =>
          rcases List.mem_cons.mp member with new | old
          · rw [new]
            exact ready activates.1
          · exact kept other old
      · exact kept other member
  | ensureExchanged device => exact (have_streams.ensureStream put device).1
  | deleteStream device =>
      rw [Go2RtcStreamClient.perform, Go2RtcStreamClient.deleteStream]
      split
      · intro viewer member
        refine List.mem_filter.mpr ⟨have_streams viewer member, decide_eq_true ?_⟩
        intro same
        exact unviewed viewer member (by rw [streamNameForDevice_injective same])
      · exact have_streams
  | deactivateViewer device viewer reason =>
      have fewer : ActivatedHaveStreams client
          ((StreamJob.deactivateViewer device viewer reason).noteActivated settings client replies
            activated) :=
        fun other member => have_streams other (List.mem_filter.mp member).1
      rw [Go2RtcStreamClient.perform, Go2RtcStreamClient.deactivateViewer]
      split <;> exact fewer
  | activateViewer device viewer => exact have_streams
  | heartbeatViewer device viewer =>
      rw [Go2RtcStreamClient.perform, Go2RtcStreamClient.heartbeatViewer]
      split <;> exact have_streams
  | exchangeWebrtc device viewer =>
      rw [Go2RtcStreamClient.perform, Go2RtcStreamClient.heartbeatViewer]
      split
      · exact have_streams
      · cases client.lastSeen device viewer <;> exact have_streams
  | postOffer device => exact have_streams
  | rememberWebrtcSession device location => exact have_streams
  | closeWebrtc device session => exact have_streams
  | deleteWebrtcSession url => exact have_streams
  | scheduleIdleStreamStop device =>
      rw [Go2RtcStreamClient.perform, Go2RtcStreamClient.scheduleIdleStreamStop]
      split
      · exact have_streams
      · split <;> exact have_streams
  | expireViewer device viewer =>
      rw [Go2RtcStreamClient.perform, Go2RtcStreamClient.expireViewer]
      split
      · exact have_streams
      · split <;> exact have_streams
  | stopIdleStream device =>
      rw [Go2RtcStreamClient.perform, Go2RtcStreamClient.stopIdleStream]
      split <;> exact have_streams

end ActivatedHaveStreams

/-! ## Runs -/

theorem activatedHaveStreams_step (settings : Go2RtcSettings)
    (state : StreamWorld × ActivatedViewers) (action : StreamAction)
    (after : StreamWorld × ActivatedViewers)
    (have_streams : ActivatedHaveStreams state.1.1 state.2)
    (conditions : SidecarKeepsStreams state action ∧ DeletesUnviewed state action)
    (moved : (activatedMachine settings).step state action = some after) :
    ActivatedHaveStreams after.1.1 after.2 := by
  obtain ⟨stepped, noted⟩ := Machine.watched_step moved
  obtain ⟨world, activated⟩ := after
  dsimp only at stepped noted
  subst noted
  cases action with
  | call call =>
      cases stepped
      exact have_streams
  | advance thread replies =>
      obtain ⟨job, rest, -, next, rfl⟩ := Threads.advance_eq_some stepped
      rw [noteActivated, next]
      exact have_streams.perform conditions.1 (conditions.2 job next)
  | fire number =>
      simp only [streamMachine, Option.map_eq_some_iff] at stepped
      obtain ⟨fired, started, rfl⟩ := stepped
      obtain ⟨timer, -, -, rfl⟩ := Go2RtcStreamClient.fire_eq_some started
      exact have_streams
  | tick later =>
      simp only [streamMachine] at stepped
      split at stepped
      · cases stepped
        exact have_streams
      · cases stepped
  | lose stream => exact absurd conditions.1 id

/-- While go2rtc does as it is asked, and no stream is deleted while it is viewed, every
registered viewer whose activation returned True has a stream. -/
theorem active_viewers_have_streams (settings : Go2RtcSettings) (actions : List StreamAction)
    (sidecar : (activatedMachine settings).Meets SidecarKeepsStreams (.start, []) actions)
    (deletes : (activatedMachine settings).Meets DeletesUnviewed (.start, []) actions) :
    forall before, before <+: actions ->
      ViewersHaveStreams ((activatedMachine settings).run (.start, []) before) := by
  rintro before ⟨later, rfl⟩ - device viewer - activated
  have conditions := Machine.meets_and sidecar deletes
  rw [Machine.meets_append] at conditions
  exact (activatedMachine settings).run_invariant_of_meets _
    (fun state => ActivatedHaveStreams state.1.1 state.2) (activatedHaveStreams_step settings)
    (.start, []) before (fun _ none => absurd none List.not_mem_nil) conditions.1 _ activated

/-- A viewer comes and leaves, the idle stop begins, and a viewer comes back. -/
def viewerReturns : List StreamAction :=
  viewerLeaves ++ [.fire 1, .advance 2 {}, .call (.activate "feeder" "viewer"), .advance 3 {},
    .advance 3 {}]

/-- The stop is over before the viewer comes back. -/
theorem viewer_returns_after_stop :
    (activatedMachine {}).Meets SidecarKeepsStreams (.start, []) viewerReturns ∧
      (activatedMachine {}).Meets DeletesUnviewed (.start, []) viewerReturns ∧
        ViewersHaveStreams ((activatedMachine {}).run (.start, []) viewerReturns) := by
  have sidecar : (activatedMachine {}).Meets SidecarKeepsStreams (.start, []) viewerReturns := by
    decide +kernel
  have deletes : (activatedMachine {}).Meets DeletesUnviewed (.start, []) viewerReturns := by
    decide +kernel
  exact ⟨sidecar, deletes,
    active_viewers_have_streams {} viewerReturns sidecar deletes _ (List.prefix_refl _)⟩

/-- The request of the stop comes after the viewer has come back. -/
theorem late_delete_takes_stream :
    (activatedMachine {}).Meets SidecarKeepsStreams (.start, [])
        (viewerReturns ++ [.advance 2 {}]) ∧
      ¬ ViewersHaveStreams
        ((activatedMachine {}).run (.start, []) (viewerReturns ++ [.advance 2 {}])) := by
  refine ⟨by decide +kernel, ?_⟩
  intro streams
  have stream := streams (by decide +kernel) "feeder" "viewer" (by decide +kernel) (by decide +kernel)
  exact absurd stream (by decide +kernel)

end Camera
end PetlibroRelay
