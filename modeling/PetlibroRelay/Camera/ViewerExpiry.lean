import Mathlib.Tactic.Linarith
import PetlibroRelay.Camera.StreamTimers

namespace PetlibroRelay
namespace Camera

open Foundations

/-!
# When a viewer expires

A watchdog compares the age of its viewer with the timeout in one section and removes the
viewer in another.  A heartbeat that comes in between is answered with success, and the
viewer is removed all the same.

Apart from this no viewer is removed by a watchdog before its timeout has passed since it
was last seen.  Every registered viewer has a watchdog that is armed or running, in every
run.
-/

/-- Who was refreshed, and when. -/
structure ViewerRefresh where
  deviceId : String
  viewerId : String
  time : Rat
  deriving DecidableEq, Repr

/-- The viewer a job refreshes.  The two kinds of heartbeat succeed for registered viewers
only. -/
def StreamJob.refreshes (settings : Go2RtcSettings) (client : Go2RtcStreamClient) :
    StreamJob -> Option (String × String)
  | .activateViewer deviceId viewerId => some (deviceId, viewerId)
  | .heartbeatViewer deviceId viewerId =>
      if (client.lastSeen deviceId viewerId).isSome then some (deviceId, viewerId) else none
  | .exchangeWebrtc deviceId viewerId =>
      if settings.enabled = true ∧ (client.lastSeen deviceId viewerId).isSome then
        some (deviceId, viewerId)
      else none
  | _ => none

/-- The viewer a step refreshes. -/
def StreamAction.refreshes (settings : Go2RtcSettings) (world : StreamWorld) :
    StreamAction -> Option (String × String)
  | .advance thread _ =>
      (Threads.nextJob world.2 thread).bind (StreamJob.refreshes settings world.1)
  | _ => none

def noteRefresh (settings : Go2RtcSettings) (record : List ViewerRefresh) (world : StreamWorld)
    (action : StreamAction) : List ViewerRefresh :=
  ((action.refreshes settings world).map (fun viewer =>
    ViewerRefresh.mk viewer.1 viewer.2 world.1.now)).toList ++ record

/-- The client beside the refreshes that have succeeded. -/
def refreshedMachine (settings : Go2RtcSettings) :
    Machine (StreamWorld × List ViewerRefresh) StreamAction :=
  (streamMachine settings).watched (noteRefresh settings)

/-! ## The property and the condition -/

/-- If the step is the removal of a registered viewer by its watchdog, the timeout has passed
since each refresh. -/
def NoEarlyExpiry (state : StreamWorld × List ViewerRefresh) (action : StreamAction) : Prop :=
  forall thread replies deviceId viewerId, action = .advance thread replies ->
    Threads.nextJob state.1.2 thread =
      some (.deactivateViewer deviceId viewerId .heartbeatExpired) ->
    (state.1.1.lastSeen deviceId viewerId).isSome = true ->
      forall time, ⟨deviceId, viewerId, time⟩ ∈ state.2 ->
        time + VIEWER_TIMEOUT_SECONDS ≤ state.1.1.now

/-- Every registered viewer has a watchdog that is armed or whose callback is running. -/
def StreamWorld.EveryViewerWatched (world : StreamWorld) : Prop :=
  forall deviceId viewerId, (world.1.lastSeen deviceId viewerId).isSome = true ->
    (exists number timer, Dict.get? world.1.viewerWatchdogs (deviceId, viewerId) = some number ∧
      world.1.timers[number]? = some timer ∧
        timer.callback = .expireViewer deviceId viewerId ∧ timer.state = .armed) ∨
      StreamJob.IsRunning world.2 (.expireViewer deviceId viewerId)

/-- A viewer is refreshed only when no watchdog has decided to remove it and is yet to do
so. -/
def NotGivenUp (settings : Go2RtcSettings) (state : StreamWorld × List ViewerRefresh)
    (action : StreamAction) : Prop :=
  forall viewer, viewer ∈ action.refreshes settings state.1 ->
    forall thread, thread ∈ state.1.2 ->
      .deactivateViewer viewer.1 viewer.2 .heartbeatExpired ∉ thread

instance (settings : Go2RtcSettings) (state : StreamWorld × List ViewerRefresh)
    (action : StreamAction) : Decidable (NotGivenUp settings state action) :=
  inferInstanceAs (Decidable (forall viewer, viewer ∈ action.refreshes settings state.1 ->
    forall thread, thread ∈ state.1.2 ->
      .deactivateViewer viewer.1 viewer.2 .heartbeatExpired ∉ thread))

/-! ## When viewers are seen -/

namespace Go2RtcStreamClient

variable {client : Go2RtcStreamClient} {deviceId viewerId : String}

theorem lastSeen_of_viewers_eq {after : Go2RtcStreamClient}
    (viewers : after.viewers = client.viewers) (device viewer : String) :
    after.lastSeen device viewer = client.lastSeen device viewer := by
  rw [lastSeen, lastSeen, viewersOf, viewersOf, viewers]

/-- A job with sections of its own that leave clock and viewers alone. -/
theorem viewers_perform (settings : Go2RtcSettings) (client : Go2RtcStreamClient)
    (replies : SidecarReplies) (job : StreamJob) :
    (perform settings client replies job).1.now = client.now ∧
      ((job.refreshes settings client = none ∧
          (perform settings client replies job).1.viewers = client.viewers) ∨
        (exists device viewer, job.refreshes settings client = some (device, viewer) ∧
          (perform settings client replies job).1.viewers = (client.see device viewer).viewers) ∨
        exists device viewer reason, job = .deactivateViewer device viewer reason ∧
          (perform settings client replies job).1.viewers =
            (client.forget device viewer).viewers) := by
  cases job with
  | activateViewer device viewer => exact ⟨rfl, Or.inr (Or.inl ⟨device, viewer, rfl, rfl⟩)⟩
  | heartbeatViewer device viewer =>
      rw [perform, heartbeatViewer, StreamJob.refreshes]
      cases client.lastSeen device viewer with
      | none => exact ⟨rfl, Or.inl ⟨rfl, rfl⟩⟩
      | some seen => exact ⟨rfl, Or.inr (Or.inl ⟨device, viewer, rfl, rfl⟩)⟩
  | exchangeWebrtc device viewer =>
      rw [perform, heartbeatViewer, StreamJob.refreshes]
      split
      · next disabled =>
          refine ⟨rfl, Or.inl ⟨if_neg ?_, rfl⟩⟩
          rw [disabled]
          rintro ⟨impossible, -⟩
          cases impossible
      · next enabled =>
          rw [Bool.not_eq_false] at enabled
          cases client.lastSeen device viewer with
          | none =>
              refine ⟨rfl, Or.inl ⟨if_neg ?_, rfl⟩⟩
              rintro ⟨-, absent⟩
              cases absent
          | some seen => exact ⟨rfl, Or.inr (Or.inl ⟨device, viewer, if_pos ⟨enabled, rfl⟩, rfl⟩)⟩
  | deactivateViewer device viewer reason =>
      rw [perform, Go2RtcStreamClient.deactivateViewer]
      split
      · exact ⟨rfl, Or.inl ⟨rfl, rfl⟩⟩
      · exact ⟨rfl, Or.inr (Or.inr ⟨device, viewer, reason, rfl, rfl⟩)⟩
  | ensureViewed device viewer =>
      rw [perform, ensureStream]
      split
      · exact ⟨rfl, Or.inl ⟨rfl, rfl⟩⟩
      · split <;> exact ⟨rfl, Or.inl ⟨rfl, rfl⟩⟩
  | ensureExchanged device =>
      rw [perform, ensureStream]
      split
      · exact ⟨rfl, Or.inl ⟨rfl, rfl⟩⟩
      · split <;> exact ⟨rfl, Or.inl ⟨rfl, rfl⟩⟩
  | expireViewer device viewer =>
      rw [perform, Go2RtcStreamClient.expireViewer]
      split
      · exact ⟨rfl, Or.inl ⟨rfl, rfl⟩⟩
      · split <;> exact ⟨rfl, Or.inl ⟨rfl, rfl⟩⟩
  | scheduleIdleStreamStop device =>
      rw [perform, Go2RtcStreamClient.scheduleIdleStreamStop]
      split
      · exact ⟨rfl, Or.inl ⟨rfl, rfl⟩⟩
      · split <;> exact ⟨rfl, Or.inl ⟨rfl, rfl⟩⟩
  | stopIdleStream device =>
      rw [perform, Go2RtcStreamClient.stopIdleStream]
      split <;> exact ⟨rfl, Or.inl ⟨rfl, rfl⟩⟩
  | deleteStream device =>
      rw [perform, Go2RtcStreamClient.deleteStream]
      split <;> exact ⟨rfl, Or.inl ⟨rfl, rfl⟩⟩
  | postOffer device => exact ⟨rfl, Or.inl ⟨rfl, rfl⟩⟩
  | rememberWebrtcSession device location => exact ⟨rfl, Or.inl ⟨rfl, rfl⟩⟩
  | closeWebrtc device session => exact ⟨rfl, Or.inl ⟨rfl, rfl⟩⟩
  | deleteWebrtcSession url => exact ⟨rfl, Or.inl ⟨rfl, rfl⟩⟩

theorem lastSeen_perform_of_refreshes {settings : Go2RtcSettings} {replies : SidecarReplies}
    {job : StreamJob} (refreshed : job.refreshes settings client = some (deviceId, viewerId)) :
    (perform settings client replies job).1.lastSeen deviceId viewerId = some client.now := by
  rcases (viewers_perform settings client replies job).2 with
    ⟨none, -⟩ | ⟨device, viewer, own, viewers⟩ | ⟨device, viewer, reason, rfl, -⟩
  · rw [none] at refreshed
    cases refreshed
  · rw [own, Option.some.injEq, Prod.mk.injEq] at refreshed
    obtain ⟨rfl, rfl⟩ := refreshed
    rw [lastSeen_of_viewers_eq viewers, lastSeen_see, if_pos ⟨rfl, rfl⟩]
  · cases refreshed

theorem lastSeen_perform_of_not_refreshes {settings : Go2RtcSettings} {replies : SidecarReplies}
    {job : StreamJob} (other : job.refreshes settings client ≠ some (deviceId, viewerId)) :
    (perform settings client replies job).1.lastSeen deviceId viewerId =
        client.lastSeen deviceId viewerId ∨
      (perform settings client replies job).1.lastSeen deviceId viewerId = none := by
  rcases (viewers_perform settings client replies job).2 with
    ⟨-, viewers⟩ | ⟨device, viewer, own, viewers⟩ | ⟨device, viewer, reason, -, viewers⟩
  · exact Or.inl (lastSeen_of_viewers_eq viewers _ _)
  · rw [lastSeen_of_viewers_eq viewers, lastSeen_see, if_neg]
    · exact Or.inl rfl
    · rintro ⟨rfl, rfl⟩
      exact other own
  · rw [lastSeen_of_viewers_eq viewers, lastSeen_forget]
    split
    · exact Or.inr rfl
    · exact Or.inl rfl

/-- Only a watchdog that has found its viewer too old goes on to remove it. -/
theorem removal_of_perform {settings : Go2RtcSettings} {replies : SidecarReplies}
    {job : StreamJob} (goes : .deactivateViewer deviceId viewerId .heartbeatExpired ∈
      (perform settings client replies job).2) :
    job.refreshes settings client = none ∧
      (perform settings client replies job).1.viewers = client.viewers ∧
      forall seen, client.lastSeen deviceId viewerId = some seen ->
        seen + VIEWER_TIMEOUT_SECONDS ≤ client.now := by
  cases job with
  | expireViewer device viewer =>
      rw [perform, Go2RtcStreamClient.expireViewer] at goes ⊢
      cases registered : client.lastSeen device viewer with
      | none =>
          rw [registered] at goes
          cases goes
      | some seen =>
          rw [registered] at goes
          by_cases fresh : client.now - seen < VIEWER_TIMEOUT_SECONDS
          · simp only [if_pos fresh] at goes
            cases goes
          · simp only [if_neg fresh, List.mem_singleton, StreamJob.deactivateViewer.injEq,
              and_true] at goes ⊢
            obtain ⟨rfl, rfl⟩ := goes
            refine ⟨rfl, trivial, ?_⟩
            intro other found
            rw [registered, Option.some.injEq] at found
            subst other
            linarith
  | exchangeWebrtc device viewer =>
      rw [perform] at goes
      split at goes
      · cases goes
      · dsimp only at goes
        split at goes
        · cases List.mem_singleton.mp goes
        · cases goes
  | ensureExchanged device =>
      rw [perform] at goes
      dsimp only at goes
      split at goes
      · cases List.mem_singleton.mp goes
      · cases goes
  | postOffer device =>
      rw [perform] at goes
      dsimp only at goes
      split at goes
      · cases List.mem_singleton.mp goes
      · cases goes
  | closeWebrtc device session =>
      rw [perform, Go2RtcStreamClient.closeWebrtc] at goes
      dsimp only at goes
      split at goes
      · split at goes
        · cases List.mem_singleton.mp goes
        · cases goes
      · cases goes
  | deactivateViewer device viewer reason =>
      rw [perform, Go2RtcStreamClient.deactivateViewer] at goes
      split at goes
      · cases goes
      · dsimp only at goes
        split at goes
        · cases List.mem_singleton.mp goes
        · cases goes
  | stopIdleStream device =>
      rw [perform, Go2RtcStreamClient.stopIdleStream] at goes
      split at goes
      · cases goes
      · cases List.mem_singleton.mp goes
  | activateViewer device viewer => cases List.mem_singleton.mp goes
  | ensureViewed device viewer => cases goes
  | heartbeatViewer device viewer => cases goes
  | rememberWebrtcSession device location => cases goes
  | deleteWebrtcSession url => cases goes
  | scheduleIdleStreamStop device => cases goes
  | deleteStream device => cases goes

end Go2RtcStreamClient

/-! ## Runs -/

/-- What holds in every run in which no viewer is refreshed after it has been given up. -/
structure Unexpired (state : StreamWorld × List ViewerRefresh) : Prop where
  past : forall refresh, refresh ∈ state.2 -> refresh.time ≤ state.1.1.now
  seen : forall refresh, refresh ∈ state.2 -> forall seen,
    state.1.1.lastSeen refresh.deviceId refresh.viewerId = some seen -> refresh.time ≤ seen
  overdue : forall deviceId viewerId,
    Threads.Pending state.1.2 (.deactivateViewer deviceId viewerId .heartbeatExpired) ->
      forall seen, state.1.1.lastSeen deviceId viewerId = some seen ->
        seen + VIEWER_TIMEOUT_SECONDS ≤ state.1.1.now

variable {settings : Go2RtcSettings} {state after : StreamWorld × List ViewerRefresh}

theorem noteRefresh_eq {record : List ViewerRefresh} {world : StreamWorld} {action : StreamAction}
    (none : action.refreshes settings world = none) :
    noteRefresh settings record world action = record := by
  rw [noteRefresh, none]
  rfl

/-- A step in which no section runs keeps everything that is known of the viewers. -/
theorem Unexpired.of_viewers_eq (unexpired : Unexpired state)
    (viewers : after.1.1.viewers = state.1.1.viewers) (now : state.1.1.now ≤ after.1.1.now)
    (record : after.2 = state.2)
    (pending : forall deviceId viewerId,
      Threads.Pending after.1.2 (.deactivateViewer deviceId viewerId .heartbeatExpired) ->
        Threads.Pending state.1.2 (.deactivateViewer deviceId viewerId .heartbeatExpired)) :
    Unexpired after := by
  have seen := fun device viewer =>
    Go2RtcStreamClient.lastSeen_of_viewers_eq viewers device viewer
  refine ⟨?_, ?_, ?_⟩
  · intro refresh member
    rw [record] at member
    exact (unexpired.past refresh member).trans now
  · intro refresh member time found
    rw [record] at member
    rw [seen] at found
    exact unexpired.seen refresh member time found
  · intro device viewer waits time found
    rw [seen] at found
    exact (unexpired.overdue device viewer (pending device viewer waits) time found).trans now

/-- One job of one thread. -/
theorem Unexpired.advance (unexpired : Unexpired state) {thread : Nat} {replies : SidecarReplies}
    (kept : NotGivenUp settings state (.advance thread replies))
    {world : StreamWorld}
    (moved : Threads.advance (Go2RtcStreamClient.perform settings) state.1 thread replies =
      some world) :
    Unexpired (world, noteRefresh settings state.2 state.1 (.advance thread replies)) := by
  obtain ⟨job, rest, found, next, rfl⟩ := Threads.advance_eq_some moved
  have refreshed : StreamAction.refreshes settings state.1 (.advance thread replies) =
      job.refreshes settings state.1.1 := by
    rw [StreamAction.refreshes, next, Option.bind_some]
  have now := (Go2RtcStreamClient.viewers_perform settings state.1.1 replies job).1
  -- The record has what it had, and the viewer that is seen now.
  have noted : forall refresh,
      refresh ∈ noteRefresh settings state.2 state.1 (.advance thread replies) ->
        refresh ∈ state.2 ∨ refresh.time = state.1.1.now ∧
          job.refreshes settings state.1.1 = some (refresh.deviceId, refresh.viewerId) := by
    intro refresh member
    rw [noteRefresh, refreshed] at member
    rcases List.mem_append.mp member with new | old
    · obtain ⟨viewer, own, rfl⟩ := Option.map_eq_some_iff.mp (Option.mem_toList.mp new)
      exact Or.inr ⟨rfl, own⟩
    · exact Or.inl old
  refine ⟨?_, ?_, ?_⟩
  · intro refresh member
    simp only [now]
    rcases noted refresh member with old | ⟨same, -⟩
    · exact unexpired.past refresh old
    · exact le_of_eq same
  · intro refresh member time seen
    by_cases own : job.refreshes settings state.1.1 = some (refresh.deviceId, refresh.viewerId)
    · rw [Go2RtcStreamClient.lastSeen_perform_of_refreshes own, Option.some.injEq] at seen
      rw [← seen]
      rcases noted refresh member with old | ⟨same, -⟩
      · exact unexpired.past refresh old
      · exact le_of_eq same
    · rcases noted refresh member with old | ⟨-, new⟩
      · rcases Go2RtcStreamClient.lastSeen_perform_of_not_refreshes own with same | gone
        · rw [same] at seen
          exact unexpired.seen refresh old time seen
        · rw [gone] at seen
          cases seen
      · exact absurd new own
  · intro device viewer waits time seen
    simp only [now]
    rcases waits.of_continued found with goes | before
    · obtain ⟨-, viewers, overdue⟩ := Go2RtcStreamClient.removal_of_perform goes
      rw [Go2RtcStreamClient.lastSeen_of_viewers_eq viewers] at seen
      exact overdue time seen
    · have own : job.refreshes settings state.1.1 ≠ some (device, viewer) := by
        intro same
        obtain ⟨other, member, pending⟩ := before
        exact kept (device, viewer) (refreshed.trans same) other member pending
      rcases Go2RtcStreamClient.lastSeen_perform_of_not_refreshes own with same | gone
      · rw [same] at seen
        exact unexpired.overdue device viewer before time seen
      · rw [gone] at seen
        cases seen

theorem Unexpired.step (settings : Go2RtcSettings) (state : StreamWorld × List ViewerRefresh)
    (action : StreamAction) (after : StreamWorld × List ViewerRefresh)
    (both : TimersKept state.1 ∧ Unexpired state) (kept : NotGivenUp settings state action)
    (moved : (refreshedMachine settings).step state action = some after) :
    TimersKept after.1 ∧ Unexpired after := by
  obtain ⟨stepped, noted⟩ := Machine.watched_step moved
  refine ⟨both.1.step settings state.1 action after.1 stepped, ?_⟩
  obtain ⟨timers, unexpired⟩ := both
  obtain ⟨world, record⟩ := after
  dsimp only at stepped noted
  subst noted
  cases action with
  | call call =>
      cases stepped
      refine unexpired.of_viewers_eq rfl le_rfl (noteRefresh_eq rfl) ?_
      intro device viewer waits
      rcases waits.of_concat_singleton with old | new
      · exact old
      · cases call <;> cases new
  | advance thread replies => exact unexpired.advance kept stepped
  | fire number =>
      simp only [streamMachine, Option.map_eq_some_iff] at stepped
      obtain ⟨fired, started, rfl⟩ := stepped
      obtain ⟨timer, found, -, rfl⟩ := Go2RtcStreamClient.fire_eq_some started
      refine unexpired.of_viewers_eq rfl le_rfl (noteRefresh_eq rfl) ?_
      intro device viewer waits
      rcases waits.of_concat_singleton with old | new
      · exact old
      · have callback := timers.callbacks timer (List.mem_of_getElem? found)
        have same : .deactivateViewer device viewer .heartbeatExpired = timer.callback := new
        rw [← same] at callback
        cases callback
  | tick later =>
      simp only [streamMachine] at stepped
      split at stepped
      · next forward =>
          cases stepped
          exact unexpired.of_viewers_eq rfl forward (noteRefresh_eq rfl) (fun _ _ waits => waits)
      · cases stepped
  | lose stream =>
      cases stepped
      exact unexpired.of_viewers_eq rfl le_rfl (noteRefresh_eq rfl) (fun _ _ waits => waits)

/-- The removal that is next has been decided, and nothing was seen of the viewer since. -/
theorem noEarlyExpiry_of_unexpired (unexpired : Unexpired state) (action : StreamAction) :
    NoEarlyExpiry state action := by
  intro thread replies device viewer _ next registered time refreshed
  obtain ⟨seen, found⟩ := Option.isSome_iff_exists.mp registered
  have waits : Threads.Pending state.1.2 (.deactivateViewer device viewer .heartbeatExpired) := by
    rw [Threads.nextJob, Option.bind_eq_some_iff] at next
    obtain ⟨jobs, own, first⟩ := next
    exact ⟨jobs, List.mem_of_getElem? own, List.mem_of_head? first⟩
  have before := unexpired.seen _ refreshed seen found
  have passed := unexpired.overdue device viewer waits seen found
  linarith

/-- In every run each registered viewer has its watchdog. -/
theorem everyViewerWatched_of_timersKept {world : StreamWorld} (kept : TimersKept world) :
    world.EveryViewerWatched := by
  intro device viewer registered
  rw [← kept.watched device viewer] at registered
  obtain ⟨number, named⟩ := Option.isSome_iff_exists.mp registered
  obtain ⟨timer, found, callback, armed | running⟩ := kept.slots _ number named
  · exact Or.inl ⟨number, timer, named, found, callback, armed⟩
  · exact Or.inr running

/-- In every run in which no viewer is refreshed between the decision of its watchdog and the
removal, no watchdog removes a viewer before its timeout has passed since it was refreshed,
and every registered viewer has its watchdog. -/
theorem refreshed_viewers_stay (settings : Go2RtcSettings) (actions : List StreamAction)
    (kept : (refreshedMachine settings).Meets (NotGivenUp settings) (.start, []) actions) :
    (refreshedMachine settings).Meets NoEarlyExpiry (.start, []) actions ∧
      forall before, before <+: actions ->
        ((refreshedMachine settings).run (.start, []) before).1.EveryViewerWatched := by
  have initial : TimersKept StreamWorld.start ∧ Unexpired (StreamWorld.start, []) := by
    refine ⟨timersKept_initial, ?_, ?_, ?_⟩
    · intro refresh member
      cases member
    · intro refresh member
      cases member
    · rintro device viewer ⟨thread, member, -⟩
      cases member
  constructor
  · exact (refreshedMachine settings).meets_of_invariant _ _ _ (Unexpired.step settings)
      (fun state action both _ => noEarlyExpiry_of_unexpired both.2 action) _ actions initial kept
  · rintro before ⟨later, rfl⟩
    rw [Machine.meets_append] at kept
    exact everyViewerWatched_of_timersKept ((refreshedMachine settings).run_invariant_of_meets _ _
      (Unexpired.step settings) _ before initial kept.1).1

/-- A viewer is activated, and twenty seconds later its watchdog has decided. -/
def viewerGivenUp : List StreamAction :=
  [.call (.activate "feeder" "viewer"), .advance 0 {}, .advance 0 {}, .tick 20, .fire 0,
    .advance 1 {}]

/-- Its watchdog removes the viewer after the timeout. -/
theorem silent_viewer_expires :
    (refreshedMachine {}).Meets (NotGivenUp {}) (.start, []) (viewerGivenUp ++ [.advance 1 {}]) ∧
      (refreshedMachine {}).Meets NoEarlyExpiry (.start, []) (viewerGivenUp ++ [.advance 1 {}]) := by
  have kept : (refreshedMachine {}).Meets (NotGivenUp {}) (.start, [])
      (viewerGivenUp ++ [.advance 1 {}]) := by
    decide +kernel
  exact ⟨kept, (refreshed_viewers_stay {} _ kept).1⟩

/-- A heartbeat that comes between the two sections of the watchdog. -/
theorem heartbeat_loses_viewer :
    ¬ (refreshedMachine {}).Meets NoEarlyExpiry (.start, [])
      (viewerGivenUp ++ [.call (.heartbeat "feeder" "viewer"), .advance 2 {}] ++ [.advance 1 {}]) := by
  intro meets
  rw [Machine.meets_append] at meets
  have removed := meets.2.1 1 {} "feeder" "viewer" rfl (by decide +kernel)
    (by decide +kernel) 20 (by decide +kernel)
  exact absurd removed (by decide +kernel)

end Camera
end PetlibroRelay
