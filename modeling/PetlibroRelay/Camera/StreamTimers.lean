import PetlibroRelay.Camera.StreamClient

namespace PetlibroRelay
namespace Camera

open Foundations

/-!
# The timers of the stream client

The client keeps a watchdog for each viewer and a stop timer for each device without
viewers.  Both tables are read as one map from callbacks to timers.  A timer in the map is
armed, or its callback has started and is not over.

An entry is replaced and removed only together with its timer.  The one exception is a
callback that finds its own entry, or the entry of a timer that was started since, and
forgets it.  What such a forgotten timer does later is not harmful, because every callback
looks at the viewers again.
-/

/-- The job is what a started callback has left to do. -/
def StreamJob.continues : StreamJob -> StreamJob -> Bool
  | .deactivateViewer deviceId viewerId .heartbeatExpired, callback =>
      decide (callback = .expireViewer deviceId viewerId)
  | job, callback => decide (callback = job)

/-- The job is the callback of a timer. -/
def StreamJob.isCallback : StreamJob -> Bool
  | .expireViewer _ _ | .stopIdleStream _ => true
  | _ => false

/-- The callback has started and is not over. -/
def StreamJob.IsRunning (threads : List (List StreamJob)) (callback : StreamJob) : Prop :=
  exists job, Threads.Pending threads job ∧ job.continues callback = true

namespace Go2RtcStreamClient

/-- The timer that is named for a callback. -/
def slot (client : Go2RtcStreamClient) : StreamJob -> Option Nat
  | .expireViewer deviceId viewerId => Dict.get? client.viewerWatchdogs (deviceId, viewerId)
  | .stopIdleStream deviceId => Dict.get? client.webrtcStopTimers deviceId
  | _ => none

/-- Every named timer has its callback, and is armed or has started it. -/
def SlotsKept (client : Go2RtcStreamClient) (running : StreamJob -> Prop) : Prop :=
  forall callback number, client.slot callback = some number ->
    exists timer, client.timers[number]? = some timer ∧ timer.callback = callback ∧
      (timer.state = .armed ∨ running callback)

/-- Only what is named for one callback has changed, and its timer, if it has one, is
armed. -/
structure Retimed (client after : Go2RtcStreamClient) (callback : StreamJob) : Prop where
  others : forall other, other ≠ callback -> after.slot other = client.slot other
  kept : forall number, number < client.timers.length -> client.slot callback ≠ some number ->
    after.timers[number]? = client.timers[number]?
  own : forall number, after.slot callback = some number ->
    exists timer, after.timers[number]? = some timer ∧ timer.callback = callback ∧
      timer.state = .armed

variable {client after : Go2RtcStreamClient} {running later : StreamJob -> Prop}

theorem SlotsKept.retimed (kept : client.SlotsKept running) {callback : StreamJob}
    (retimed : client.Retimed after callback)
    (still : forall other, other ≠ callback -> client.slot other ≠ none -> running other ->
      later other) : after.SlotsKept later := by
  intro other number named
  by_cases same : other = callback
  · subst same
    obtain ⟨timer, found, own, armed⟩ := retimed.own number named
    exact ⟨timer, found, own, Or.inl armed⟩
  · rw [retimed.others other same] at named
    obtain ⟨timer, found, own, alive⟩ := kept other number named
    refine ⟨timer, ?_, own, ?_⟩
    · rw [retimed.kept number (List.getElem?_eq_some_iff.mp found).1, found]
      -- A timer has one callback, so it cannot be named for both.
      intro shared
      obtain ⟨same_timer, found_same, own_same, -⟩ := kept callback number shared
      rw [found, Option.some.injEq] at found_same
      rw [found_same, own_same] at own
      exact same own.symm
    · rcases alive with armed | runs
      · exact Or.inl armed
      · refine Or.inr (still other same ?_ runs)
        rw [named]
        exact nofun

/-- The timers are untouched, and only the callback of an empty slot may have ended. -/
theorem SlotsKept.of_eq (kept : client.SlotsKept running)
    (slots : forall callback, after.slot callback = client.slot callback)
    (timers : after.timers = client.timers)
    (still : forall callback, client.slot callback ≠ none -> running callback -> later callback) :
    after.SlotsKept later := by
  intro callback number named
  rw [slots callback] at named
  obtain ⟨timer, found, own, alive⟩ := kept callback number named
  refine ⟨timer, by rw [timers, found], own, ?_⟩
  rcases alive with armed | runs
  · exact Or.inl armed
  · refine Or.inr (still callback ?_ runs)
    rw [named]
    exact nofun

/-! ## What an operation does to the timers -/

theorem getElem?_cancelTimer (timers : List StreamTimer) (entry : Option Nat) {number : Nat}
    (other : entry ≠ some number) : (cancelTimer timers entry)[number]? = timers[number]? := by
  cases entry with
  | none => rfl
  | some own =>
      have ne : own ≠ number := fun same => other (congrArg some same)
      simp only [cancelTimer, List.getElem?_modify, if_neg ne, Option.map_eq_map, Option.map_id']

@[simp] theorem length_cancelTimer (timers : List StreamTimer) (entry : Option Nat) :
    (cancelTimer timers entry).length = timers.length := by
  cases entry with
  | none => rfl
  | some own => exact List.length_modify _ _ _

/-- Watchdogs that differ are under keys that differ. -/
theorem viewerKey_ne {deviceId viewerId device viewer : String}
    (different : StreamJob.expireViewer device viewer ≠ .expireViewer deviceId viewerId) :
    (deviceId, viewerId) ≠ (device, viewer) := by
  intro same
  rw [Prod.mk.injEq] at same
  exact different (by rw [same.1, same.2])

variable (client : Go2RtcStreamClient) (deviceId viewerId : String)

theorem retimed_armViewerWatchdogLocked :
    client.Retimed (client.armViewerWatchdogLocked deviceId viewerId)
      (.expireViewer deviceId viewerId) where
  others := by
    intro other different
    cases other with
    | expireViewer device viewer =>
        have ne := viewerKey_ne different
        simp only [slot, armViewerWatchdogLocked, Dict.get?_set_of_ne _ _ ne,
          Dict.get?_erase_of_ne _ ne]
    | _ => rfl
  kept := by
    intro number inside unnamed
    have old : number < (cancelTimer client.timers
        (Dict.get? client.viewerWatchdogs (deviceId, viewerId))).length := by
      rw [length_cancelTimer]
      exact inside
    simp only [armViewerWatchdogLocked]
    rw [List.getElem?_append_left old]
    exact getElem?_cancelTimer _ _ unnamed
  own := by
    intro number named
    rw [slot, armViewerWatchdogLocked, Dict.get?_set_self, Option.some.injEq] at named
    subst named
    refine ⟨{ callback := .expireViewer deviceId viewerId, delay := VIEWER_TIMEOUT_SECONDS }, ?_,
      rfl, rfl⟩
    simp only [armViewerWatchdogLocked]
    rw [← length_cancelTimer client.timers (Dict.get? client.viewerWatchdogs (deviceId, viewerId))]
    exact List.getElem?_concat_length

theorem retimed_cancelViewerWatchdog :
    client.Retimed (client.cancelViewerWatchdog deviceId viewerId)
      (.expireViewer deviceId viewerId) where
  others := by
    intro other different
    cases other with
    | expireViewer device viewer =>
        have ne := viewerKey_ne different
        simp only [slot, cancelViewerWatchdog, Dict.get?_erase_of_ne _ ne]
    | _ => rfl
  kept := fun _ _ unnamed => getElem?_cancelTimer _ _ unnamed
  own := by
    intro number named
    rw [slot, cancelViewerWatchdog, Dict.get?_erase, if_pos rfl] at named
    cases named

/-- An entry of a stop timer that is removed, with its timer or without. -/
theorem retimed_popStopTimer {timers : List StreamTimer}
    (kept : forall number, number < client.timers.length ->
      client.slot (.stopIdleStream deviceId) ≠ some number ->
        timers[number]? = client.timers[number]?) :
    client.Retimed
      { client with
        timers := timers
        webrtcStopTimers := Dict.erase client.webrtcStopTimers deviceId }
      (.stopIdleStream deviceId) where
  others := by
    intro other different
    cases other with
    | stopIdleStream device =>
        have ne : deviceId ≠ device := fun same => different (by rw [same])
        simp only [slot, Dict.get?_erase_of_ne _ ne]
    | _ => rfl
  kept := kept
  own := by
    intro number named
    rw [slot, Dict.get?_erase, if_pos rfl] at named
    cases named

theorem retimed_cancelStopTimer :
    client.Retimed (client.cancelStopTimer deviceId) (.stopIdleStream deviceId) :=
  client.retimed_popStopTimer deviceId (fun _ _ unnamed => getElem?_cancelTimer _ _ unnamed)

theorem retimed_startStopTimer :
    client.Retimed (client.startStopTimer deviceId) (.stopIdleStream deviceId) where
  others := by
    intro other different
    cases other with
    | stopIdleStream device =>
        have ne : deviceId ≠ device := fun same => different (by rw [same])
        simp only [slot, startStopTimer, Dict.get?_set_of_ne _ _ ne]
    | _ => rfl
  kept := by
    intro number inside _
    simp only [startStopTimer]
    exact List.getElem?_append_left inside
  own := by
    intro number named
    rw [slot, startStopTimer, Dict.get?_set_self, Option.some.injEq] at named
    subst named
    refine ⟨{ callback := .stopIdleStream deviceId, delay := WHEP_IDLE_CLOSE_SECONDS }, ?_,
      rfl, rfl⟩
    simp only [startStopTimer]
    exact List.getElem?_concat_length

/-! ## Viewers -/

theorem viewersOf_set (viewers : Dict String Rat) (other : String) :
    { client with viewers := Dict.set client.viewers deviceId viewers }.viewersOf other =
      if deviceId = other then viewers else client.viewersOf other := by
  rw [viewersOf, Dict.get?_set]
  split <;> rfl

theorem viewersOf_see (other : String) : (client.see deviceId viewerId).viewersOf other =
    if deviceId = other then Dict.set (client.viewersOf deviceId) viewerId client.now
    else client.viewersOf other :=
  client.viewersOf_set deviceId _ other

theorem lastSeen_see (device viewer : String) :
    (client.see deviceId viewerId).lastSeen device viewer =
      if deviceId = device ∧ viewerId = viewer then some client.now
      else client.lastSeen device viewer := by
  rw [lastSeen, viewersOf_see]
  by_cases same : deviceId = device
  · subst same
    rw [if_pos rfl, Dict.get?_set]
    simp only [true_and, lastSeen]
  · rw [if_neg same, if_neg (fun both => same both.1), lastSeen]

/-- Registered viewers and no others have a watchdog named for them. -/
def Watched : Prop :=
  forall deviceId viewerId, (client.slot (.expireViewer deviceId viewerId)).isSome =
    (client.lastSeen deviceId viewerId).isSome

variable {client deviceId viewerId}

theorem Watched.slot_eq_none (watched : client.Watched)
    (unregistered : client.lastSeen deviceId viewerId = none) :
    client.slot (.expireViewer deviceId viewerId) = none := by
  have none := watched deviceId viewerId
  rw [unregistered, Option.isSome_none, Option.isSome_eq_false_iff, Option.isNone_iff_eq_none]
    at none
  exact none

theorem expireViewer_ne {device viewer : String} (different : ¬(deviceId = device ∧ viewerId = viewer)) :
    StreamJob.expireViewer device viewer ≠ .expireViewer deviceId viewerId := by
  intro equal
  rw [StreamJob.expireViewer.injEq] at equal
  exact different ⟨equal.1.symm, equal.2.symm⟩

theorem Watched.of_eq (watched : client.Watched)
    (slots : forall device viewer, after.slot (.expireViewer device viewer) =
      client.slot (.expireViewer device viewer))
    (viewers : after.viewers = client.viewers) : after.Watched := by
  intro device viewer
  rw [slots, watched device viewer, lastSeen, lastSeen, viewersOf, viewersOf, viewers]

/-- A viewer is seen and its watchdog is replaced. -/
theorem Watched.armed (watched : client.Watched) :
    ((client.see deviceId viewerId).armViewerWatchdogLocked deviceId viewerId).Watched := by
  intro device viewer
  have seen : ((client.see deviceId viewerId).armViewerWatchdogLocked deviceId viewerId).lastSeen
      device viewer = (client.see deviceId viewerId).lastSeen device viewer := rfl
  rw [seen, lastSeen_see]
  by_cases same : deviceId = device ∧ viewerId = viewer
  · obtain ⟨rfl, rfl⟩ := same
    rw [slot, armViewerWatchdogLocked, Dict.get?_set_self, if_pos ⟨rfl, rfl⟩]
    rfl
  · rw [if_neg same, ← watched device viewer,
      (retimed_armViewerWatchdogLocked _ deviceId viewerId).others _ (expireViewer_ne same)]
    rfl

theorem Watched.rearmed (watched : client.Watched) {seen : Rat}
    (registered : client.lastSeen deviceId viewerId = some seen) :
    (client.armViewerWatchdogLocked deviceId viewerId).Watched := by
  intro device viewer
  have same_seen : (client.armViewerWatchdogLocked deviceId viewerId).lastSeen device viewer =
      client.lastSeen device viewer := rfl
  rw [same_seen]
  by_cases same : deviceId = device ∧ viewerId = viewer
  · obtain ⟨rfl, rfl⟩ := same
    rw [slot, armViewerWatchdogLocked, Dict.get?_set_self, registered]
    rfl
  · rw [(retimed_armViewerWatchdogLocked _ deviceId viewerId).others _ (expireViewer_ne same)]
    exact watched device viewer

theorem viewersOf_forget (client : Go2RtcStreamClient) (deviceId viewerId other : String) :
    (client.forget deviceId viewerId).viewersOf other =
      if deviceId = other then Dict.erase (client.viewersOf deviceId) viewerId
      else client.viewersOf other :=
  client.viewersOf_set deviceId _ other

theorem lastSeen_forget (client : Go2RtcStreamClient) (deviceId viewerId device viewer : String) :
    (client.forget deviceId viewerId).lastSeen device viewer =
      if deviceId = device ∧ viewerId = viewer then none else client.lastSeen device viewer := by
  rw [lastSeen, viewersOf_forget]
  by_cases same : deviceId = device
  · subst same
    rw [if_pos rfl, Dict.get?_erase]
    simp only [true_and, lastSeen]
  · rw [if_neg same, if_neg (fun both => same both.1), lastSeen]

theorem Watched.deactivateViewer (watched : client.Watched) :
    (client.deactivateViewer deviceId viewerId).1.Watched := by
  rw [Go2RtcStreamClient.deactivateViewer]
  split
  · exact watched
  · intro device viewer
    have seen : ((client.forget deviceId viewerId).cancelViewerWatchdog deviceId viewerId).lastSeen
        device viewer = (client.forget deviceId viewerId).lastSeen device viewer := rfl
    rw [seen, lastSeen_forget]
    by_cases same : deviceId = device ∧ viewerId = viewer
    · obtain ⟨rfl, rfl⟩ := same
      rw [if_pos ⟨rfl, rfl⟩]
      simp only [slot, cancelViewerWatchdog, Dict.get?_erase, if_true, Option.isSome_none]
    · rw [if_neg same, ← watched device viewer,
        (retimed_cancelViewerWatchdog _ deviceId viewerId).others _ (expireViewer_ne same)]
      rfl

theorem Watched.expireViewer (watched : client.Watched) :
    (client.expireViewer deviceId viewerId).1.Watched := by
  rw [Go2RtcStreamClient.expireViewer]
  split
  · exact watched
  · next seen registered =>
      split
      · exact watched.rearmed registered
      · exact watched

theorem Watched.heartbeatViewer (watched : client.Watched) :
    (client.heartbeatViewer deviceId viewerId).1.Watched := by
  rw [Go2RtcStreamClient.heartbeatViewer]
  split
  · exact watched
  · exact watched.armed

/-! ## Sections and the timers -/

theorem SlotsKept.mono (kept : client.SlotsKept running)
    (still : forall callback, client.slot callback ≠ none -> running callback -> later callback) :
    client.SlotsKept later :=
  kept.of_eq (fun _ => rfl) rfl still

theorem SlotsKept.armed (kept : client.SlotsKept running) :
    ((client.see deviceId viewerId).armViewerWatchdogLocked deviceId viewerId).SlotsKept
      running := by
  have seen : (client.see deviceId viewerId).SlotsKept running :=
    kept.of_eq (fun callback => by cases callback <;> rfl) rfl (fun _ _ runs => runs)
  exact seen.retimed (retimed_armViewerWatchdogLocked _ deviceId viewerId)
    (fun _ _ _ runs => runs)

theorem SlotsKept.heartbeatViewer (kept : client.SlotsKept running) :
    (client.heartbeatViewer deviceId viewerId).1.SlotsKept running := by
  rw [Go2RtcStreamClient.heartbeatViewer]
  split
  · exact kept
  · exact kept.armed

theorem SlotsKept.activateViewer (kept : client.SlotsKept running) :
    (client.activateViewer deviceId viewerId).SlotsKept running :=
  kept.armed.retimed (retimed_cancelStopTimer _ deviceId) (fun _ _ _ runs => runs)

/-- A removal ends the callback that asked for it, and the viewer has no watchdog after. -/
theorem SlotsKept.deactivateViewer (kept : client.SlotsKept running) (watched : client.Watched)
    (still : forall other, other ≠ .expireViewer deviceId viewerId -> client.slot other ≠ none ->
      running other -> later other) :
    (client.deactivateViewer deviceId viewerId).1.SlotsKept later := by
  rw [Go2RtcStreamClient.deactivateViewer]
  split
  · next unregistered =>
      refine kept.mono ?_
      intro callback named runs
      exact still callback (fun same => named (same ▸ watched.slot_eq_none unregistered)) named runs
  · have forgotten : (client.forget deviceId viewerId).SlotsKept running :=
      kept.of_eq (fun callback => by cases callback <;> rfl) rfl (fun _ _ runs => runs)
    refine forgotten.retimed (retimed_cancelViewerWatchdog _ deviceId viewerId) ?_
    intro other different named
    refine still other different ?_
    intro none
    apply named
    rw [← none]
    cases other <;> rfl

/-- A watchdog looks at its viewer: it starts again or goes on to the removal. -/
theorem SlotsKept.expireViewer (kept : client.SlotsKept running) (watched : client.Watched)
    (still : forall other, other ≠ .expireViewer deviceId viewerId -> client.slot other ≠ none ->
      running other -> later other)
    (removes : .deactivateViewer deviceId viewerId .heartbeatExpired ∈
      (client.expireViewer deviceId viewerId).2 -> later (.expireViewer deviceId viewerId)) :
    (client.expireViewer deviceId viewerId).1.SlotsKept later := by
  rw [Go2RtcStreamClient.expireViewer] at removes ⊢
  cases registered : client.lastSeen deviceId viewerId with
  | none =>
      refine kept.mono ?_
      intro callback named runs
      exact still callback (fun same => named (same ▸ watched.slot_eq_none registered)) named runs
  | some seen =>
      rw [registered] at removes
      by_cases fresh : client.now - seen < VIEWER_TIMEOUT_SECONDS
      · simp only [if_pos fresh]
        exact kept.retimed (retimed_armViewerWatchdogLocked _ deviceId viewerId) still
      · simp only [if_neg fresh] at removes ⊢
        refine kept.mono ?_
        intro callback named runs
        by_cases same : callback = .expireViewer deviceId viewerId
        · rw [same]
          exact removes List.mem_cons_self
        · exact still callback same named runs

theorem SlotsKept.scheduleIdleStreamStop (kept : client.SlotsKept running) :
    (client.scheduleIdleStreamStop deviceId).SlotsKept running := by
  rw [Go2RtcStreamClient.scheduleIdleStreamStop]
  split
  · exact kept
  · split
    · exact kept
    · exact kept.retimed (retimed_startStopTimer _ deviceId) (fun _ _ _ runs => runs)

/-- A stop forgets the timer that is named for it, which may be a later one. -/
theorem SlotsKept.stopIdleStream (kept : client.SlotsKept running)
    (still : forall other, other ≠ .stopIdleStream deviceId -> client.slot other ≠ none ->
      running other -> later other) :
    (client.stopIdleStream deviceId).1.SlotsKept later := by
  have popped := kept.retimed
    (client.retimed_popStopTimer deviceId (fun _ _ _ => rfl)) still
  rw [Go2RtcStreamClient.stopIdleStream]
  split
  · exact popped
  · exact popped.of_eq (fun callback => by cases callback <;> rfl) rfl (fun _ _ runs => runs)

/-! ## Jobs and the timers -/

/-- What a job carries on for named timers, if anything. -/
theorem continues_cases {job callback : StreamJob} (continues : job.continues callback = true)
    (named : client.slot callback ≠ none) :
    (exists device viewer, callback = .expireViewer device viewer ∧
        (job = .expireViewer device viewer ∨
          job = .deactivateViewer device viewer .heartbeatExpired)) ∨
      exists device, callback = .stopIdleStream device ∧ job = .stopIdleStream device := by
  cases callback with
  | expireViewer device viewer =>
      refine Or.inl ⟨device, viewer, rfl, ?_⟩
      unfold StreamJob.continues at continues
      split at continues
      · have same := of_decide_eq_true continues
        rw [StreamJob.expireViewer.injEq] at same
        rw [same.1, same.2]
        exact Or.inr rfl
      · exact Or.inl (of_decide_eq_true continues).symm
  | stopIdleStream device =>
      refine Or.inr ⟨device, rfl, ?_⟩
      unfold StreamJob.continues at continues
      split at continues
      · cases of_decide_eq_true continues
      · exact (of_decide_eq_true continues).symm
  | _ => exact absurd rfl named

theorem ensureStream_timers (client : Go2RtcStreamClient) (deviceId : String)
    (settings : Go2RtcSettings) (replies : SidecarReplies) :
    (client.ensureStream deviceId settings replies).1.timers = client.timers ∧
      (client.ensureStream deviceId settings replies).1.viewers = client.viewers ∧
      (forall callback, (client.ensureStream deviceId settings replies).1.slot callback =
        client.slot callback) := by
  rcases client.ensureStream_cases deviceId settings replies with
    ⟨same, -⟩ | ⟨same, -⟩ | ⟨streams, verified, same, -⟩
  · rw [same]
    exact ⟨rfl, rfl, fun _ => rfl⟩
  · rw [same]
    exact ⟨rfl, rfl, fun _ => rfl⟩
  · rw [same]
    exact ⟨rfl, rfl, fun callback => by cases callback <;> rfl⟩

/-- A job keeps the named timers, whatever it goes on with. -/
theorem SlotsKept.perform (kept : client.SlotsKept running) (watched : client.Watched)
    (settings : Go2RtcSettings) (replies : SidecarReplies) (job : StreamJob)
    (still : forall callback, job.continues callback = false -> running callback -> later callback)
    (goes : forall next, next ∈ (perform settings client replies job).2 ->
      forall callback, next.continues callback = true -> later callback) :
    (perform settings client replies job).1.SlotsKept later := by
  -- A job that is no part of a callback ends none.
  have unrelated : (forall device viewer, job ≠ .expireViewer device viewer) ->
      (forall device viewer reason, job ≠ .deactivateViewer device viewer reason) ->
      (forall device, job ≠ .stopIdleStream device) -> client.SlotsKept later := by
    intro noExpiry noRemoval noStop
    refine kept.mono ?_
    intro callback named runs
    refine still callback ?_ runs
    rw [← Bool.not_eq_true]
    intro continues
    rcases continues_cases continues named with ⟨device, viewer, -, expiry | removal⟩ | ⟨device, -, stop⟩
    · exact noExpiry device viewer expiry
    · exact noRemoval device viewer _ removal
    · exact noStop device stop
  cases job with
  | activateViewer device viewer => exact (unrelated nofun nofun nofun).activateViewer
  | ensureViewed device viewer =>
      obtain ⟨timers, -, slots⟩ := client.ensureStream_timers device settings replies
      exact (unrelated nofun nofun nofun).of_eq slots timers (fun _ _ runs => runs)
  | heartbeatViewer device viewer => exact (unrelated nofun nofun nofun).heartbeatViewer
  | exchangeWebrtc device viewer =>
      rw [Go2RtcStreamClient.perform]
      split
      · exact unrelated nofun nofun nofun
      · exact (unrelated nofun nofun nofun).heartbeatViewer
  | ensureExchanged device =>
      obtain ⟨timers, -, slots⟩ := client.ensureStream_timers device settings replies
      exact (unrelated nofun nofun nofun).of_eq slots timers (fun _ _ runs => runs)
  | postOffer device => exact unrelated nofun nofun nofun
  | rememberWebrtcSession device location =>
      have stopped := (unrelated nofun nofun nofun).retimed (client.retimed_cancelStopTimer device)
        (fun _ _ _ runs => runs)
      exact stopped.of_eq (fun callback => by cases callback <;> rfl) rfl (fun _ _ runs => runs)
  | closeWebrtc device session =>
      exact (unrelated nofun nofun nofun).of_eq (fun callback => by cases callback <;> rfl) rfl
        (fun _ _ runs => runs)
  | deleteWebrtcSession url => exact unrelated nofun nofun nofun
  | deactivateViewer device viewer reason =>
      refine kept.deactivateViewer watched ?_
      intro other different named runs
      refine still other ?_ runs
      rw [← Bool.not_eq_true]
      intro continues
      rcases continues_cases continues named with ⟨device, viewer, same, expiry | removal⟩ | ⟨device, -, stop⟩
      · cases expiry
      · rw [StreamJob.deactivateViewer.injEq] at removal
        rw [same, removal.1, removal.2.1] at different
        exact different rfl
      · cases stop
  | scheduleIdleStreamStop device => exact (unrelated nofun nofun nofun).scheduleIdleStreamStop
  | expireViewer device viewer =>
      refine kept.expireViewer watched ?_ ?_
      · intro other different _ runs
        exact still other (decide_eq_false different) runs
      · intro removes
        exact goes _ removes _ (decide_eq_true rfl)
  | stopIdleStream device =>
      refine kept.stopIdleStream ?_
      intro other different _ runs
      exact still other (decide_eq_false different) runs
  | deleteStream device =>
      rw [Go2RtcStreamClient.perform, Go2RtcStreamClient.deleteStream]
      split
      · exact (unrelated nofun nofun nofun).of_eq (fun callback => by cases callback <;> rfl) rfl
          (fun _ _ runs => runs)
      · exact unrelated nofun nofun nofun

theorem Watched.perform (watched : client.Watched) (settings : Go2RtcSettings)
    (replies : SidecarReplies) (job : StreamJob) :
    (perform settings client replies job).1.Watched := by
  cases job with
  | activateViewer device viewer => exact watched.armed
  | ensureViewed device viewer =>
      obtain ⟨-, viewers, slots⟩ := client.ensureStream_timers device settings replies
      exact watched.of_eq (fun _ _ => slots _) viewers
  | heartbeatViewer device viewer => exact watched.heartbeatViewer
  | exchangeWebrtc device viewer =>
      rw [Go2RtcStreamClient.perform]
      split
      · exact watched
      · exact watched.heartbeatViewer
  | ensureExchanged device =>
      obtain ⟨-, viewers, slots⟩ := client.ensureStream_timers device settings replies
      exact watched.of_eq (fun _ _ => slots _) viewers
  | postOffer device => exact watched
  | rememberWebrtcSession device location => exact watched.of_eq (fun _ _ => rfl) rfl
  | closeWebrtc device session => exact watched.of_eq (fun _ _ => rfl) rfl
  | deleteWebrtcSession url => exact watched
  | deactivateViewer device viewer reason => exact watched.deactivateViewer
  | scheduleIdleStreamStop device =>
      rw [Go2RtcStreamClient.perform, Go2RtcStreamClient.scheduleIdleStreamStop]
      split
      · exact watched
      · split
        · exact watched
        · exact watched.of_eq (fun _ _ => rfl) rfl
  | expireViewer device viewer => exact watched.expireViewer
  | stopIdleStream device =>
      rw [Go2RtcStreamClient.perform, Go2RtcStreamClient.stopIdleStream]
      split
      · exact watched.of_eq (fun _ _ => rfl) rfl
      · exact watched.of_eq (fun _ _ => rfl) rfl
  | deleteStream device =>
      rw [Go2RtcStreamClient.perform, Go2RtcStreamClient.deleteStream]
      split
      · exact watched.of_eq (fun _ _ => rfl) rfl
      · exact watched

/-- The timers run callbacks and no other jobs. -/
def RunsCallbacks (client : Go2RtcStreamClient) : Prop :=
  forall timer, timer ∈ client.timers -> timer.callback.isCallback = true

theorem mem_cancelTimer {timers : List StreamTimer} {entry : Option Nat} {timer : StreamTimer}
    (member : timer ∈ cancelTimer timers entry) :
    exists before, before ∈ timers ∧ timer.callback = before.callback := by
  cases entry with
  | none => exact ⟨timer, member, rfl⟩
  | some number =>
      obtain ⟨index, inside, same⟩ := List.mem_iff_getElem.mp member
      rw [cancelTimer, List.length_modify] at inside
      refine ⟨timers[index], List.getElem_mem inside, ?_⟩
      simp only [cancelTimer, List.getElem_modify] at same
      rw [← same]
      split
      · rw [StreamTimer.cancel]
        split <;> rfl
      · rfl

theorem RunsCallbacks.cancelTimer (callbacks : client.RunsCallbacks) {entry : Option Nat}
    {timer : StreamTimer} (member : timer ∈ cancelTimer client.timers entry) :
    timer.callback.isCallback = true := by
  obtain ⟨before, old, same⟩ := mem_cancelTimer member
  rw [same]
  exact callbacks before old

theorem RunsCallbacks.armed (callbacks : client.RunsCallbacks) (deviceId viewerId : String) :
    (client.armViewerWatchdogLocked deviceId viewerId).RunsCallbacks := by
  intro timer member
  rcases List.mem_append.mp member with old | new
  · exact callbacks.cancelTimer old
  · rw [List.mem_singleton.mp new]
    rfl

theorem RunsCallbacks.heartbeatViewer (callbacks : client.RunsCallbacks)
    (deviceId viewerId : String) : (client.heartbeatViewer deviceId viewerId).1.RunsCallbacks := by
  rw [Go2RtcStreamClient.heartbeatViewer]
  split
  · exact callbacks
  · exact @RunsCallbacks.armed (client.see deviceId viewerId) callbacks deviceId viewerId

theorem RunsCallbacks.perform (callbacks : client.RunsCallbacks) (settings : Go2RtcSettings)
    (replies : SidecarReplies) (job : StreamJob) :
    (perform settings client replies job).1.RunsCallbacks := by
  have ensured : forall device, (client.ensureStream device settings replies).1.RunsCallbacks := by
    intro device timer member
    rw [(client.ensureStream_timers device settings replies).1] at member
    exact callbacks timer member
  cases job with
  | activateViewer device viewer =>
      intro timer member
      have armed : ((client.see device viewer).armViewerWatchdogLocked device viewer).RunsCallbacks :=
        @RunsCallbacks.armed (client.see device viewer) callbacks device viewer
      exact armed.cancelTimer member
  | ensureViewed device viewer => exact ensured device
  | heartbeatViewer device viewer => exact callbacks.heartbeatViewer device viewer
  | exchangeWebrtc device viewer =>
      rw [Go2RtcStreamClient.perform]
      split
      · exact callbacks
      · exact callbacks.heartbeatViewer device viewer
  | ensureExchanged device => exact ensured device
  | postOffer device => exact callbacks
  | rememberWebrtcSession device location => exact fun timer member => callbacks.cancelTimer member
  | closeWebrtc device session => exact callbacks
  | deleteWebrtcSession url => exact callbacks
  | deactivateViewer device viewer reason =>
      rw [Go2RtcStreamClient.perform, Go2RtcStreamClient.deactivateViewer]
      split
      · exact callbacks
      · exact fun timer member => callbacks.cancelTimer member
  | scheduleIdleStreamStop device =>
      rw [Go2RtcStreamClient.perform, Go2RtcStreamClient.scheduleIdleStreamStop]
      split
      · exact callbacks
      · split
        · exact callbacks
        · intro timer member
          rcases List.mem_append.mp member with old | new
          · exact callbacks timer old
          · rw [List.mem_singleton.mp new]
            rfl
  | expireViewer device viewer =>
      rw [Go2RtcStreamClient.perform, Go2RtcStreamClient.expireViewer]
      split
      · exact callbacks
      · split
        · exact callbacks.armed device viewer
        · exact callbacks
  | stopIdleStream device =>
      rw [Go2RtcStreamClient.perform, Go2RtcStreamClient.stopIdleStream]
      split <;> exact callbacks
  | deleteStream device =>
      rw [Go2RtcStreamClient.perform, Go2RtcStreamClient.deleteStream]
      split <;> exact callbacks

theorem fire_eq_some {number : Nat} {fired : Go2RtcStreamClient × StreamJob}
    (moved : client.fire number = some fired) :
    exists timer, client.timers[number]? = some timer ∧ timer.state = .armed ∧
      fired = ({ client with timers := client.timers.set number { timer with state := .fired } },
        timer.callback) := by
  rw [fire] at moved
  split at moved
  · next timer found =>
      split at moved
      · next armed => exact ⟨timer, found, armed, (Option.some.inj moved).symm⟩
      · cases moved
  · cases moved

end Go2RtcStreamClient

/-! ## Runs -/

/-- The named timers in every run. -/
structure TimersKept (world : StreamWorld) : Prop where
  slots : world.1.SlotsKept (StreamJob.IsRunning world.2)
  watched : world.1.Watched
  callbacks : world.1.RunsCallbacks

theorem StreamJob.IsRunning.concat {threads : List (List StreamJob)} {callback : StreamJob}
    (runs : StreamJob.IsRunning threads callback) (jobs : List StreamJob) :
    StreamJob.IsRunning (threads ++ [jobs]) callback := by
  obtain ⟨job, pending, continues⟩ := runs
  exact ⟨job, pending.concat jobs, continues⟩

theorem StreamJob.continues_self {callback : StreamJob} {client : Go2RtcStreamClient}
    (named : client.slot callback ≠ none) : callback.continues callback = true := by
  cases callback with
  | expireViewer device viewer => exact decide_eq_true rfl
  | stopIdleStream device => exact decide_eq_true rfl
  | _ => exact absurd rfl named

theorem TimersKept.step (settings : Go2RtcSettings) (world : StreamWorld) (action : StreamAction)
    (after : StreamWorld) (kept : TimersKept world)
    (moved : (streamMachine settings).step world action = some after) : TimersKept after := by
  obtain ⟨slots, watched, callbacks⟩ := kept
  cases action with
  | call call =>
      cases moved
      exact ⟨slots.mono (fun _ _ runs => runs.concat _), watched, callbacks⟩
  | advance thread replies =>
      obtain ⟨job, rest, found, -, rfl⟩ := Threads.advance_eq_some moved
      refine ⟨slots.perform watched settings replies job ?_ ?_, watched.perform settings replies job,
        callbacks.perform settings replies job⟩
      · rintro callback unrelated ⟨other, pending, continues⟩
        rcases pending.continued found
          (Go2RtcStreamClient.perform settings world.1 replies job).2 with same | still
        · rw [same, unrelated] at continues
          cases continues
        · exact ⟨other, still, continues⟩
      · intro next goes callback continues
        exact ⟨next, Threads.Pending.continued_next found goes, continues⟩
  | fire number =>
      simp only [streamMachine, Option.map_eq_some_iff] at moved
      obtain ⟨fired, started, rfl⟩ := moved
      obtain ⟨timer, found, armed, rfl⟩ := Go2RtcStreamClient.fire_eq_some started
      refine ⟨?_, watched.of_eq (fun _ _ => rfl) rfl, ?_⟩
      swap
      · intro other member
        rcases List.mem_or_eq_of_mem_set member with old | same
        · exact callbacks other old
        · rw [same]
          exact callbacks timer (List.mem_of_getElem? found)
      intro callback other named
      have before : world.1.slot callback = some other := by
        rw [← named]
        cases callback <;> rfl
      obtain ⟨own, foundOwn, callbackOwn, alive⟩ := slots callback other before
      have present : world.1.slot callback ≠ none := by
        rw [before]
        exact nofun
      by_cases same : number = other
      · -- The timer of the entry has started its callback.
        subst same
        rw [found, Option.some.injEq] at foundOwn
        subst own
        have inside := (List.getElem?_eq_some_iff.mp found).1
        refine ⟨{ timer with state := .fired }, List.getElem?_set_self inside, callbackOwn,
          Or.inr ⟨timer.callback, Threads.Pending.concat_self world.2 timer.callback, ?_⟩⟩
        rw [callbackOwn]
        exact StreamJob.continues_self present
      · refine ⟨own, (List.getElem?_set_ne same).trans foundOwn, callbackOwn, ?_⟩
        exact alive.imp_right (fun runs => runs.concat _)
  | tick later =>
      simp only [streamMachine] at moved
      split at moved
      · cases moved
        exact ⟨slots.of_eq (fun callback => by cases callback <;> rfl) rfl (fun _ _ runs => runs),
          watched.of_eq (fun _ _ => rfl) rfl, callbacks⟩
      · cases moved
  | lose stream =>
      cases moved
      exact ⟨slots.of_eq (fun callback => by cases callback <;> rfl) rfl (fun _ _ runs => runs),
        watched.of_eq (fun _ _ => rfl) rfl, callbacks⟩

theorem timersKept_initial : TimersKept (({} : Go2RtcStreamClient), []) := by
  refine ⟨?_, fun _ _ => rfl, fun _ member => absurd member List.not_mem_nil⟩
  intro callback number named
  cases callback <;> cases named

end Camera
end PetlibroRelay
