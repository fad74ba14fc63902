import PetlibroRelay.Control.Steps

namespace PetlibroRelay
namespace Control

open Foundations
open Protocol
open Shadow
open Responder

/-!
# Concurrent schedule edits

An edit reads the whole schedule, submits it changed and stores it whole.  The
read comes before the slot of the device is taken and the write after it is
released, so another edit can be stored in between and is then overwritten by
the older snapshot.

An edit is in force until another edit of the same plan is stored or a cloud
snapshot is merged over its positive identifier.  Edits that are in force are
reflected by the table as long as no edit stores a snapshot that was read before
another edit was stored, and no edit starts from a cached cloud set that still
lists a deleted plan.
-/

/-! ## Edits in force -/

/-- Whether the event decides what the schedule holds under an identifier. -/
def Event.concerns (deviceId : String) (id : Int) : Event -> Bool
  | .persisted _ owner (.schedule edit) =>
      decide (owner = deviceId) && decide (edit.planId = id)
  | .plansMerged owner _ => decide (owner = deviceId) && decide (0 < id)
  | _ => false

/-- The plan an edit leaves under its identifier. -/
def Event.content? : Event -> Option (Option Plan)
  | .persisted _ _ (.schedule edit) => some edit.content
  | _ => none

/-- The content under an identifier that the last stored edit of it demands, if
no cloud snapshot came later. -/
def inForce (events : List Event) (deviceId : String) (id : Int) : Option (Option Plan) :=
  (lastWhere (Event.concerns deviceId id) events).bind Event.content?

theorem inForce_concat (events : List Event) (event : Event) (deviceId : String) (id : Int) :
    inForce (events ++ [event]) deviceId id =
      if event.concerns deviceId id then event.content? else inForce events deviceId id := by
  rw [inForce, lastWhere_concat]
  split
  · rfl
  · rfl

theorem version_concat (events : List Event) (event : Event) (deviceId : String) :
    version deviceId (events ++ [event]) = version deviceId events + version deviceId [event] := by
  rw [version, List.countP_append]
  rfl

theorem version_persisted (deviceId owner : String) (number : Nat) (edit : ScheduleEdit) :
    version deviceId [.persisted number owner (.schedule edit)] =
      if owner = deviceId then 1 else 0 := by
  rw [version, List.countP_singleton]
  by_cases own : owner = deviceId
  · rw [if_pos own, if_pos (decide_eq_true own)]
  · rw [if_neg own, if_neg (by rw [decide_eq_true_eq]; exact own)]

/-- What a step does to the schedule and to the edits in force. -/
inductive ScheduleEffect (controller : Controller) : ControlAction -> Controller -> Prop where
  | same (action : ControlAction) (after : Controller)
      (forced : forall deviceId id,
        inForce after.events deviceId id = inForce controller.events deviceId id)
      (versions : forall deviceId,
        version deviceId after.events = version deviceId controller.events)
      (rows : forall deviceId id,
        after.shadow.planRow deviceId id = controller.shadow.planRow deviceId id) :
      ScheduleEffect controller action after
  | edited (number : Nat) (call : Call) (registration : Registration) (edit : ScheduleEdit)
      (after : Controller)
      (found : controller.calls[number]? = some call)
      (ready : call.phase = .confirmed registration)
      (writes : registration.submission.persistence = .schedule edit)
      (noted : after.events = controller.events ++
        [.persisted number call.deviceId (.schedule edit)])
      (rows : forall deviceId id, after.shadow.planRow deviceId id =
        if deviceId = call.deviceId then StateShadow.snapshotRow edit.plans id
        else controller.shadow.planRow deviceId id) :
      ScheduleEffect controller (.persist number) after
  | merged (owner : String) (plans : List Plan) (after : Controller)
      (noted : after.events = controller.events ++ [.plansMerged owner plans])
      (rows : forall deviceId id, after.shadow.planRow deviceId id =
        if deviceId = owner ∧ 0 < id then StateShadow.snapshotRow plans id
        else controller.shadow.planRow deviceId id) :
      ScheduleEffect controller (.mergePlans owner plans) after

/-- An event that decides nothing and is no edit. -/
theorem scheduleEffect_of_unconcerned {controller after : Controller} {action : ControlAction}
    {event : Event} (noted : after.events = controller.events ++ [event])
    (unconcerned : forall deviceId id, event.concerns deviceId id = false)
    (unversioned : forall deviceId, version deviceId [event] = 0)
    (rows : forall deviceId id,
      after.shadow.planRow deviceId id = controller.shadow.planRow deviceId id) :
    ScheduleEffect controller action after := by
  refine .same action after ?_ ?_ rows
  · intro deviceId id
    rw [noted, inForce_concat, unconcerned]
    rfl
  · intro deviceId
    rw [noted, version_concat, unversioned, Nat.add_zero]

theorem scheduleEffect_of_step {loads : Loads} {controller after : Controller}
    {action : ControlAction} (effect : ControlEffect loads controller action after) :
    ScheduleEffect controller action after := by
  cases effect with
  | called => exact .same _ _ (fun _ _ => rfl) (fun _ => rfl) (fun _ _ => rfl)
  | advanced => exact .same _ _ (fun _ _ => rfl) (fun _ => rfl) (fun _ _ => rfl)
  | refused => exact .same _ _ (fun _ _ => rfl) (fun _ => rfl) (fun _ _ => rfl)
  | registered => exact .same _ _ (fun _ _ => rfl) (fun _ => rfl) (fun _ _ => rfl)
  | unmatched =>
      exact scheduleEffect_of_unconcerned rfl (fun _ _ => rfl) (fun _ => rfl) (fun _ _ => rfl)
  | matched =>
      exact scheduleEffect_of_unconcerned rfl (fun _ _ => rfl) (fun _ => rfl) (fun _ _ => rfl)
  | cleaned => exact .same _ _ (fun _ _ => rfl) (fun _ => rfl) (fun _ _ => rfl)
  | stored number call registration shadow found ready written =>
      cases writes : registration.submission.persistence with
      | settings values =>
          rw [writes] at written
          cases written
          exact scheduleEffect_of_unconcerned rfl (fun _ _ => rfl) (fun _ => rfl) (fun _ _ => rfl)
      | nothing =>
          rw [writes] at written
          cases written
          exact scheduleEffect_of_unconcerned rfl (fun _ _ => rfl) (fun _ => rfl) (fun _ _ => rfl)
      | schedule edit =>
          rw [writes] at written
          exact .edited number call registration edit _ found ready writes rfl
            (StateShadow.planRow_replace written)
  | notStored => exact .same _ _ (fun _ _ => rfl) (fun _ => rfl) (fun _ _ => rfl)
  | cached =>
      exact scheduleEffect_of_unconcerned rfl (fun _ _ => rfl) (fun _ => rfl) (fun _ _ => rfl)
  | learned deviceId topic payload taught =>
      refine .same _ _ (fun _ _ => rfl) (fun _ => rfl) ?_
      intro owner id
      cases known : lesson loads payload with
      | plans plans => exact absurd known (taught plans)
      | refused => rfl
      | settings values => rfl
      | nothing => rfl
  | merged owner plans shadow cachedBefore written =>
      exact .merged owner plans _ rfl (StateShadow.planRow_cloud written)
  | notMerged => exact .same _ _ (fun _ _ => rfl) (fun _ => rfl) (fun _ _ => rfl)

/-! ## When edits are kept -/

/-- The edit a call carries. -/
def Phase.edit? (phase : Phase) : Option ScheduleEdit :=
  phase.submission?.bind (fun submission =>
    match submission.persistence with
    | .schedule edit => some edit
    | _ => none)

/-- The plan a call names, if it edits one. -/
def Request.target? : Request -> Option Int
  | .edit request => request.target?
  | _ => none

/-- No edit is stored over another one that was stored since it read the table,
the cached cloud set an edit starts from lists no other plan whose deletion is in
force, and no update names the identifier zero. -/
def keepsEdits (controller : Controller) : ControlAction -> Bool
  | .call _ (.edit (.update id _)) => decide (id ≠ 0)
  | .advance number (.readFallback _) =>
      (controller.calls[number]?).all (fun call =>
        ((controller.shadow.getFeedingPlans call.deviceId).getD []).all (fun plan =>
          (planId? plan).all (fun id =>
            decide (inForce controller.events call.deviceId id ≠ some none) ||
              decide (call.request.target? = some id))))
  | .persist number =>
      (controller.calls[number]?).all (fun call =>
        call.phase.edit?.isNone ||
          decide (call.readVersion = version call.deviceId controller.events))
  | _ => true

/-- What one call knows about the edits in force. -/
structure EditFacts (events : List Event) (call : Call) : Prop where
  bounded : call.readVersion ≤ version call.deviceId events
  nonzero : forall id requested, call.request = .edit (.update id requested) -> id ≠ 0
  empty : call.phase = .emptyTable -> call.readVersion = version call.deviceId events ->
    forall id content, inForce events call.deviceId id = some content -> content = none
  own : forall edit, call.phase.edit? = some edit ->
    StateShadow.snapshotRow edit.plans edit.planId = edit.content
  others : forall edit, call.phase.edit? = some edit ->
    call.readVersion = version call.deviceId events ->
    forall id content, inForce events call.deviceId id = some content -> id ≠ edit.planId ->
      StateShadow.snapshotRow edit.plans id = content

/-- The table reflects the edits in force, and so does what the calls read. -/
structure EditsReflected (controller : Controller) : Prop where
  rows : forall deviceId id content,
    inForce controller.events deviceId id = some content ->
      controller.shadow.planRow deviceId id = content
  calls : forall (number : Nat) (call : Call), controller.calls[number]? = some call ->
    EditFacts controller.events call

theorem editsReflected_initial (shadow : StateShadow) :
    EditsReflected (Controller.initial shadow) where
  rows := by
    intro deviceId id content forced
    cases forced
  calls := by
    intro number call found
    cases found

/-- The row of an accepted edit's own plan is its content, unless the identifier
is zero. -/
theorem snapshotRow_own {plans : List Plan} {syncTime : Int} {request : EditRequest}
    {edit : ScheduleEdit} (accepted : editSchedule plans syncTime request = .ok edit)
    (nonzero : forall id requested, request = .update id requested -> id ≠ 0) :
    StateShadow.snapshotRow edit.plans edit.planId = edit.content := by
  rw [snapshotRow_editSchedule accepted, if_pos rfl]
  by_cases zero : edit.planId = 0
  · rw [if_pos zero]
    rcases editSchedule_cases accepted with ⟨_, _, _, negative, _⟩ |
      ⟨requested, _, _, asks, _⟩ | ⟨_, _, _, content⟩
    · exact absurd zero (Int.ne_of_lt negative)
    · exact absurd zero (nonzero _ requested asks)
    · exact content.symm
  · rw [if_neg zero]

/-- A row of a plan list that is not empty belongs to a plan of the list. -/
theorem mem_of_snapshotRow {plans : List Plan} {id : Int} {plan : Plan}
    (stored : StateShadow.snapshotRow plans id = some plan) :
    plan ∈ plans ∧ planId? plan = some id := by
  rw [StateShadow.snapshotRow] at stored
  split at stored
  · cases stored
  · rcases mem_of_lastWhere stored with ⟨member, known⟩
    exact ⟨member, of_decide_eq_true known⟩

theorem edit_of_some {phase : Phase} {edit : ScheduleEdit} (carried : phase.edit? = some edit) :
    exists submission, phase.submission? = some submission ∧
      submission.persistence = .schedule edit := by
  rcases Option.bind_eq_some_iff.mp carried with ⟨submission, carries, writes⟩
  refine ⟨submission, carries, ?_⟩
  split at writes
  · next other same =>
      cases writes
      exact same
  · cases writes

theorem edit_of_submission {phase : Phase} {submission : Submission} {edit : ScheduleEdit}
    (carries : phase.submission? = some submission)
    (writes : submission.persistence = .schedule edit) : phase.edit? = some edit := by
  rw [Phase.edit?, carries, Option.bind_some, writes]

/-- Storing an edit that has just been built would reflect the edits in force. -/
theorem reflects_of_builds {controller : Controller} (reflected : EditsReflected controller)
    {number : Nat} {call : Call} (found : controller.calls[number]? = some call)
    {answer : Answer} {submission : Submission} {edit : ScheduleEdit}
    (keeps : keepsEdits controller (.advance number answer) = true)
    (builds : call.Builds controller.shadow answer submission)
    (writes : submission.persistence = .schedule edit) :
    StateShadow.snapshotRow edit.plans edit.planId = edit.content ∧
      ((answer.isTableRead = true ∨
          call.readVersion = version call.deviceId controller.events) ->
        forall id content, inForce controller.events call.deviceId id = some content ->
          id ≠ edit.planId -> StateShadow.snapshotRow edit.plans id = content) := by
  have facts := reflected.calls number call found
  have nonzero : forall request, call.request = .edit request ->
      forall id requested, request = .update id requested -> id ≠ 0 := by
    intro request asks id requested isUpdate
    exact facts.nonzero id requested (asks.trans (congrArg Request.edit isUpdate))
  cases builds with
  | unscheduled other submission asks kind => exact absurd writes (kind.not_schedule edit)
  | resynced clock asks => cases writes
  | edited clock request same asks accepted =>
      cases writes
      refine ⟨snapshotRow_own accepted (nonzero request asks), ?_⟩
      intro _ id content forced different
      rw [snapshotRow_editSchedule accepted, if_neg different,
        StateShadow.snapshotRow_getSchedulePlans]
      exact reflected.rows _ id content forced
  | editedFallback clock request same empty asks accepted =>
      cases writes
      refine ⟨snapshotRow_own accepted (nonzero request asks), ?_⟩
      intro fresh id content forced different
      have current : call.readVersion = version call.deviceId controller.events := by
        rcases fresh with timed | current
        · cases timed
        · exact current
      have deleted := facts.empty empty current id content forced
      rw [snapshotRow_editSchedule accepted, if_neg different, deleted]
      cases stored : StateShadow.snapshotRow
          ((controller.shadow.getFeedingPlans call.deviceId).getD []) id with
      | none => rfl
      | some plan =>
          exfalso
          rcases mem_of_snapshotRow stored with ⟨member, known⟩
          rw [keepsEdits, found, Option.all_some, List.all_eq_true] at keeps
          have listed := keeps plan member
          rw [known, Option.all_some, Bool.or_eq_true, decide_eq_true_eq,
            decide_eq_true_eq] at listed
          rcases listed with unforced | target
          · rw [deleted] at forced
            exact unforced forced
          · rw [asks] at target
            exact different (planId_of_target accepted target).symm

/-- What a step does to one call keeps what the call knows. -/
theorem editFacts_effect {loads : Loads} {controller : Controller}
    (reflected : EditsReflected controller) {number : Nat} {call new : Call}
    {action : ControlAction} (found : controller.calls[number]? = some call)
    (keeps : keepsEdits controller action = true)
    (effect : CallEffect loads controller number call action new) :
    EditFacts controller.events new := by
  have facts := reflected.calls number call found
  have device := effect.deviceId_eq
  constructor
  · rw [device]
    rcases effect.readVersion_eq with same | current
    · rw [same]
      exact facts.bounded
    · rw [current]
  · rw [effect.request_eq]
    exact facts.nonzero
  · intro empty
    rw [device]
    rcases effect.emptyTable_eq empty with ⟨before, same⟩ | ⟨nothing, _⟩
    · rw [same]
      exact facts.empty before
    · intro _ id content forced
      rw [← reflected.rows _ id content forced,
        ← StateShadow.snapshotRow_getSchedulePlans, nothing]
      exact ite_self none
  · intro edit carried
    rcases edit_of_some carried with ⟨submission, carries, writes⟩
    rcases effect.submission_eq carries with ⟨before, _⟩ | ⟨answer, isAdvance, builds, _⟩
    · exact facts.own edit (edit_of_submission before writes)
    · subst isAdvance
      exact (reflects_of_builds reflected found keeps builds writes).1
  · intro edit carried current
    rw [device]
    rw [device] at current
    rcases edit_of_some carried with ⟨submission, carries, writes⟩
    rcases effect.submission_eq carries with ⟨before, same⟩ | ⟨answer, isAdvance, builds, read⟩
    · exact facts.others edit (edit_of_submission before writes) (same.symm.trans current)
    · subst isAdvance
      refine (reflects_of_builds reflected found keeps builds writes).2 ?_
      by_cases timed : answer.isTableRead = true
      · exact Or.inl timed
      · rw [if_neg timed] at read
        exact Or.inr (read.symm.trans current)

/-- Fewer edits in force and no new version leave a call what it knows. -/
theorem EditFacts.of_fewer {events later : List Event} {call : Call}
    (facts : EditFacts events call)
    (kept : version call.deviceId later = version call.deviceId events)
    (forced : forall id content, inForce later call.deviceId id = some content ->
      inForce events call.deviceId id = some content) : EditFacts later call := by
  constructor
  · rw [kept]
    exact facts.bounded
  · exact facts.nonzero
  · rw [kept]
    intro empty current id content holds
    exact facts.empty empty current id content (forced id content holds)
  · exact facts.own
  · rw [kept]
    intro edit carried current id content holds
    exact facts.others edit carried current id content (forced id content holds)

/-- What a call knows also holds after a later event. -/
theorem EditFacts.later {controller after : Controller} {action : ControlAction} {call : Call}
    (facts : EditFacts controller.events call)
    (effect : ScheduleEffect controller action after) : EditFacts after.events call := by
  cases effect with
  | same _ _ forced versions rows =>
      refine facts.of_fewer (versions call.deviceId) (fun id content holds => ?_)
      rw [← forced]
      exact holds
  | edited number editor registration edit _ found ready writes noted rows =>
      have bounded := facts.bounded
      have counted : version call.deviceId after.events =
          version call.deviceId controller.events +
            if editor.deviceId = call.deviceId then 1 else 0 := by
        rw [noted, version_concat, version_persisted]
      by_cases own : editor.deviceId = call.deviceId
      · -- The edit is another one of the same device, so the call is outdated.
        rw [if_pos own] at counted
        constructor
        · omega
        · exact facts.nonzero
        · intro _ current
          omega
        · exact facts.own
        · intro _ _ current
          omega
      · rw [if_neg own, Nat.add_zero] at counted
        refine facts.of_fewer counted (fun id content holds => ?_)
        rw [noted, inForce_concat, Event.concerns, decide_eq_false own] at holds
        exact holds
  | merged owner plans _ noted rows =>
      refine facts.of_fewer ?_ (fun id content holds => ?_)
      · rw [noted, version_concat]
        rfl
      · rw [noted, inForce_concat] at holds
        split at holds
        · cases holds
        · exact holds

/-- The rows of edits in force survive a step. -/
theorem rows_step {controller after : Controller} {action : ControlAction}
    (reflected : EditsReflected controller) (keeps : keepsEdits controller action = true)
    (effect : ScheduleEffect controller action after) (deviceId : String) (id : Int)
    (content : Option Plan) (forced : inForce after.events deviceId id = some content) :
    after.shadow.planRow deviceId id = content := by
  cases effect with
  | same _ _ same versions rows =>
      rw [same] at forced
      rw [rows]
      exact reflected.rows deviceId id content forced
  | edited number call registration edit _ found ready writes noted rows =>
      have facts := reflected.calls number call found
      have carried : call.phase.edit? = some edit := by
        refine edit_of_submission ?_ writes
        rw [ready]
        rfl
      have current : call.readVersion = version call.deviceId controller.events := by
        rw [keepsEdits, found, Option.all_some, carried] at keeps
        exact of_decide_eq_true keeps
      rw [noted, inForce_concat, Event.concerns] at forced
      rw [rows]
      by_cases own : call.deviceId = deviceId
      · subst deviceId
        rw [if_pos rfl]
        by_cases samePlan : edit.planId = id
        · subst id
          rw [if_pos (by rw [decide_eq_true rfl, decide_eq_true rfl]; rfl)] at forced
          rw [facts.own edit carried]
          exact Option.some.inj forced
        · rw [if_neg (by simp only [samePlan, decide_false, Bool.and_false, Bool.false_eq_true,
            not_false_eq_true])] at forced
          exact facts.others edit carried current id content forced (fun same => samePlan same.symm)
      · rw [if_neg (by simp only [own, decide_false, Bool.false_and, Bool.false_eq_true,
          not_false_eq_true])] at forced
        rw [if_neg (fun same => own same.symm)]
        exact reflected.rows deviceId id content forced
  | merged owner plans _ noted rows =>
      rw [noted, inForce_concat, Event.concerns] at forced
      rw [rows]
      split at forced
      · cases forced
      · next outside =>
          rw [Bool.and_eq_true, decide_eq_true_eq, decide_eq_true_eq] at outside
          rw [if_neg (fun inside => outside ⟨inside.1.symm, inside.2⟩)]
          exact reflected.rows deviceId id content forced

theorem editsReflected_step {loads : Loads} {controller after : Controller}
    {action : ControlAction} (reflected : EditsReflected controller)
    (keeps : keepsEdits controller action = true)
    (effect : ControlEffect loads controller action after) : EditsReflected after where
  rows := rows_step reflected keeps (scheduleEffect_of_step effect)
  calls := by
    intro number call found
    have schedule := scheduleEffect_of_step effect
    rcases effect.origin found with ⟨deviceId, request, isCall, _, fresh⟩ |
      ⟨old, oldFound, changed⟩
    · subst isCall
      rw [fresh]
      have facts : EditFacts controller.events { deviceId := deviceId, request := request } := by
        constructor
        · exact Nat.zero_le _
        · intro id requested isUpdate
          replace isUpdate : request = .edit (.update id requested) := isUpdate
          rw [isUpdate, keepsEdits] at keeps
          exact of_decide_eq_true keeps
        · intro empty
          cases empty
        · intro edit carried
          cases carried
        · intro edit carried
          cases carried
      exact facts.later schedule
    · exact (editFacts_effect reflected oldFound keeps changed).later schedule

theorem editsReflected_run (loads : Loads) (shadow : StateShadow) (actions : List ControlAction)
    (keeps : (controllerMachine loads).Meets
      (fun controller action => keepsEdits controller action = true) (.initial shadow) actions) :
    EditsReflected ((controllerMachine loads).run (.initial shadow) actions) :=
  (controllerMachine loads).run_invariant_of_meets _ EditsReflected
    (fun _ _ _ reflected keeps step =>
      editsReflected_step reflected keeps (controlEffect_of_step step))
    _ actions (editsReflected_initial shadow) keeps

/-! ## Successful edits are stored -/

/-- What a call with an edit request carries and, once it has succeeded, stored. -/
structure EditOutcome (events : List Event) (number : Nat) (call : Call) : Prop where
  built : forall request submission, call.request = .edit request ->
    call.phase.submission? = some submission ->
    exists plans syncTime edit, editSchedule plans syncTime request = .ok edit ∧
      submission.persistence = .schedule edit
  success : forall request registration reply, call.request = .edit request ->
    call.phase = .returned registration (.ok reply) ->
    exists plans syncTime edit, editSchedule plans syncTime request = .ok edit ∧
      Event.persisted number call.deviceId (.schedule edit) ∈ events

theorem Call.Builds.edit_of_asks {shadow : StateShadow} {call : Call} {answer : Answer}
    {submission : Submission} (builds : call.Builds shadow answer submission)
    {request : EditRequest} (asks : call.request = .edit request) :
    exists plans syncTime edit, editSchedule plans syncTime request = .ok edit ∧
      submission.persistence = .schedule edit := by
  cases builds with
  | unscheduled answer submission other kind => exact absurd asks (other request)
  | resynced clock other =>
      rw [asks] at other
      cases other
  | edited clock own edit ownAsks accepted =>
      cases ownAsks.symm.trans asks
      exact ⟨_, _, edit, accepted, rfl⟩
  | editedFallback clock own edit empty ownAsks accepted =>
      cases ownAsks.symm.trans asks
      exact ⟨_, _, edit, accepted, rfl⟩

/-- A call with an edit request never succeeds before its registration. -/
theorem Call.EarlyStep.not_ok {shadow : StateShadow} {call : Call} {answer : Answer}
    {phase : Phase} (step : call.EarlyStep shadow answer phase) {request : EditRequest}
    (asks : call.request = .edit request) (registration : Option Registration) (reply : Reply) :
    phase ≠ .returned registration (.ok reply) := by
  have built : forall result : Except ControlError Submission,
      Phase.ofSubmission result ≠ .returned registration (.ok reply) := by
    intro result
    cases result <;> exact fun same => nomatch same
  cases step with
  | skipped clock begins other =>
      rw [asks] at other
      cases other
  | unscheduled => exact built _
  | tableRead => exact built _
  | fallbackRead => exact built _
  | desired => exact fun same => nomatch same
  | emptyTable => exact fun same => nomatch same
  | resynced => exact fun same => nomatch same
  | bridged => exact fun same => nomatch same
  | present => exact fun same => nomatch same
  | failed => exact fun same => nomatch same

theorem editOutcome_effect {loads : Loads} {controller after : Controller} {number : Nat}
    {call new : Call} {action : ControlAction}
    (step : ControlEffect loads controller action after)
    (effect : CallEffect loads controller number call action new)
    (found : controller.calls[number]? = some call)
    (outcome : EditOutcome controller.events number call) :
    EditOutcome after.events number new := by
  rcases step.events_grow with ⟨more, grown, _⟩
  have earlier : forall request registration reply, call.request = .edit request ->
      call.phase = .returned registration (.ok reply) ->
      exists plans syncTime edit, editSchedule plans syncTime request = .ok edit ∧
        Event.persisted number call.deviceId (.schedule edit) ∈ after.events := by
    intro request registration reply asks returned
    rcases outcome.success request registration reply asks returned with
      ⟨plans, syncTime, edit, accepted, noted⟩
    rw [grown]
    exact ⟨plans, syncTime, edit, accepted, List.mem_append_left more noted⟩
  constructor
  · intro request submission asks carries
    rw [effect.request_eq] at asks
    rcases effect.submission_eq carries with ⟨before, _⟩ | ⟨answer, _, builds, _⟩
    · exact outcome.built request submission asks before
    · exact builds.edit_of_asks asks
  · intro request registration reply asks returned
    rw [effect.request_eq] at asks
    rw [effect.deviceId_eq]
    cases effect with
    | unchanged => exact earlier request registration reply asks returned
    | answered => exact earlier request registration reply asks returned
    | advanced answer phase moves =>
        exfalso
        rcases advance_cases moves with early | ⟨_, _, _, _, same, _⟩
        · exact early.not_ok asks registration reply returned
        · subst phase
          cases returned
    | refused => cases returned
    | registered => cases returned
    | cleaned own result leaving => cases result <;> cases returned
    | notStored => cases returned
    | stored own shadow ready written =>
        have carries : call.phase.submission? = some own.submission := by
          rw [ready]
          rfl
        rcases outcome.built request own.submission asks carries with
          ⟨plans, syncTime, edit, accepted, writes⟩
        refine ⟨plans, syncTime, edit, accepted, ?_⟩
        cases step with
        | stored _ _ _ _ otherFound otherReady _ =>
            cases found.symm.trans otherFound
            cases ready.symm.trans otherReady
            rw [← writes]
            exact List.mem_append_right _ (List.mem_singleton.mpr rfl)
        | notStored _ _ _ otherFound otherReady raised =>
            cases found.symm.trans otherFound
            cases ready.symm.trans otherReady
            rw [written] at raised
            cases raised

theorem editOutcome_run (loads : Loads) (shadow : StateShadow) (actions : List ControlAction)
    (number : Nat) (call : Call)
    (found : ((controllerMachine loads).run (.initial shadow) actions).calls[number]? =
      some call) :
    EditOutcome ((controllerMachine loads).run (.initial shadow) actions).events number call := by
  refine (controllerMachine loads).run_invariant
    (fun controller => forall (number : Nat) (call : Call),
      controller.calls[number]? = some call -> EditOutcome controller.events number call)
    ?_ (.initial shadow) actions ?_ number call found
  · intro controller action after outcomes step number call found
    have effect := controlEffect_of_step step
    rcases effect.origin found with ⟨deviceId, request, _, _, fresh⟩ | ⟨old, oldFound, changed⟩
    · rw [fresh]
      constructor
      · intro request submission asks carries
        cases carries
      · intro request registration reply asks returned
        cases returned
    · exact editOutcome_effect effect changed oldFound (outcomes number old oldFound)
  · intro number call found
    cases found

/-! ## No edit is lost -/

/-- An edit that nothing later decides over is in force. -/
theorem inForce_of_undecided {before later : List Event} {number : Nat} {deviceId : String}
    {edit : ScheduleEdit}
    (undecided : forall event, event ∈ later -> event.concerns deviceId edit.planId = false) :
    inForce (before ++ .persisted number deviceId (.schedule edit) :: later) deviceId edit.planId =
      some edit.content := by
  induction later using List.reverseRecOn with
  | nil =>
      rw [inForce_concat, if_pos]
      · rfl
      · rw [Event.concerns, decide_eq_true rfl, decide_eq_true rfl]
        rfl
  | append_singleton earlier event inductionHypothesis =>
      rw [← List.cons_append, ← List.append_assoc, inForce_concat,
        undecided event (List.mem_append_right _ (List.mem_singleton.mpr rfl))]
      refine inductionHypothesis (fun other member => ?_)
      exact undecided other (List.mem_append_left _ member)

/-- In every run that keeps edits, every edit that has returned success has been
stored, and the schedule reflects every stored edit that no later edit of the same
plan and no later cloud snapshot decides over: what was created or updated is
there with its content, and what was deleted is not. -/
theorem schedule_edits_never_lost (loads : Loads) (shadow : StateShadow)
    (actions : List ControlAction)
    (keeps : (controllerMachine loads).Meets
      (fun controller action => keepsEdits controller action = true) (.initial shadow) actions) :
    let final := (controllerMachine loads).run (.initial shadow) actions
    (forall (number : Nat) (call : Call) request registration reply,
      final.calls[number]? = some call -> call.request = .edit request ->
      call.phase = .returned registration (.ok reply) ->
      exists plans syncTime edit, editSchedule plans syncTime request = .ok edit ∧
        Event.persisted number call.deviceId (.schedule edit) ∈ final.events) ∧
    (forall before number deviceId edit later,
      final.events = before ++ .persisted number deviceId (.schedule edit) :: later ->
      (forall event, event ∈ later -> event.concerns deviceId edit.planId = false) ->
      final.shadow.planRow deviceId edit.planId = edit.content) := by
  intro final
  refine ⟨?_, ?_⟩
  · intro number call request registration reply found asks returned
    exact (editOutcome_run loads shadow actions number call found).success request registration
      reply asks returned
  · intro before number deviceId edit later history undecided
    have reflected := editsReflected_run loads shadow actions keeps
    refine reflected.rows deviceId edit.planId edit.content ?_
    rw [show ((controllerMachine loads).run (.initial shadow) actions).events = _ from history]
    exact inForce_of_undecided undecided

/-! ## A lost deletion -/

/-- A snapshot of the cloud with plan five. -/
def planFivePush : List UInt8 :=
  utf8 ("\x7b\"cmd\":\"FEEDING_PLAN_SERVICE\",\"msgId\":\"c\",\"plans\":[\x7b\"planId\":5," ++
    "\"executionTime\":\"08:00\",\"grainNum\":1\x7d]\x7d")

/-- A snapshot of the cloud without plans. -/
def emptyPush : List UInt8 :=
  utf8 "\x7b\"cmd\":\"FEEDING_PLAN_SERVICE\",\"msgId\":\"d\",\"plans\":[]\x7d"

def planFive : Plan := [("planId", .int 5), ("executionTime", .str "08:00"), ("grainNum", .int 1)]

/-- The acceptance of a snapshot. -/
def snapshotAccepted (msgId : String) : List UInt8 :=
  utf8 ("\x7b\"cmd\":\"FEEDING_PLAN_SERVICE\",\"msgId\":\"" ++ msgId ++ "\",\"code\":0\x7d")

/-- The decoder, as far as these messages are concerned. -/
def loadsSnapshots : Loads := fun payload =>
  let answer := fun msgId : String => Json.obj
    [("cmd", .str "FEEDING_PLAN_SERVICE"), ("msgId", .str msgId), ("code", .int 0)]
  if payload = planFivePush then
    some (.obj [("cmd", .str "FEEDING_PLAN_SERVICE"), ("msgId", .str "c"),
      ("plans", .arr [.obj planFive])])
  else if payload = emptyPush then
    some (.obj [("cmd", .str "FEEDING_PLAN_SERVICE"), ("msgId", .str "d"), ("plans", .arr [])])
  else if payload = snapshotAccepted "m" then some (answer "m")
  else if payload = snapshotAccepted "n" then some (answer "n")
  else none

/-- The cloud pushes plan five to device `A`. -/
def pushPlanFive : List ControlAction :=
  [.cloudMessage "A" "dl/PLAF203/A/device/service/sub" planFivePush, .mergePlans "A" [planFive]]

/-- A plan for ten o'clock on Mondays. -/
def mondayPlan : Plan :=
  [("executionTime", .str "10:00"), ("grainNum", .int 2), ("audioTimes", .int 1),
    ("enableAudio", .bool true), ("repeatDay", .arr [.int 1])]

/-- One call deletes plan five while another creates a plan.  Both read the table
first.  The create stores what it read, and plan five is back although nothing
came after its deletion. -/
theorem concurrent_create_restores_deleted_plan :
    let final := (controllerMachine loadsSnapshots).run (.initial {}) (pushPlanFive ++
      [.call "A" (.edit (.delete 5)), .call "A" (.edit (.create mondayPlan)),
        .advance 0 (.readTable noClock), .advance 1 (.readTable noClock)] ++
      submitSteps 0 "m" ++ [answerFrom "A" (snapshotAccepted "m")] ++ confirmSteps 0 ++
      submitSteps 1 "n" ++ [answerFrom "A" (snapshotAccepted "n")] ++ confirmSteps 1)
    final.calls.length = 2 ∧ (forall call, call ∈ final.calls -> call.phase.succeeded = true) ∧
      inForce final.events "A" 5 = some none ∧
      final.shadow.planRow "A" 5 = some planFive := by
  decide +kernel

/-- The same two calls one after the other: plan five stays away. -/
theorem schedule_edits_never_lost_in_sequence :
    let actions := pushPlanFive ++
      [.call "A" (.edit (.delete 5)), .advance 0 (.readTable noClock)] ++
      submitSteps 0 "m" ++ [answerFrom "A" (snapshotAccepted "m")] ++ confirmSteps 0 ++
      [.cloudMessage "A" "dl/PLAF203/A/device/service/sub" emptyPush, .mergePlans "A" [],
        .call "A" (.edit (.create mondayPlan)), .advance 1 (.readTable noClock),
        .advance 1 (.readFallback noClock)] ++
      submitSteps 1 "n" ++ [answerFrom "A" (snapshotAccepted "n")] ++ confirmSteps 1
    let final := (controllerMachine loadsSnapshots).run (.initial {}) actions
    forall before number deviceId edit later,
      final.events = before ++ .persisted number deviceId (.schedule edit) :: later ->
      (forall event, event ∈ later -> event.concerns deviceId edit.planId = false) ->
      final.shadow.planRow deviceId edit.planId = edit.content :=
  (schedule_edits_never_lost loadsSnapshots {} _ (by decide +kernel)).2

end Control
end PetlibroRelay
