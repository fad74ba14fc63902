import PetlibroRelay.Control.ScheduleEdits

namespace PetlibroRelay
namespace Control

open Foundations
open Protocol
open Shadow
open Responder

/-!
# Deleted plans

Operations of one device are taken one after another here.  A deleted plan leaves
the schedule, but the last complete cloud set still lists it.  An edit that finds
the schedule empty starts from that set, because an empty table is taken for an
unknown one, and submits the deleted plan again.
-/

/-! ## Deletions in force -/

/-- Whether the event says something about the existence of a plan: it was
created or deleted, or the cloud lists it. -/
def Event.settles (deviceId : String) (id : Int) : Event -> Bool
  | .persisted _ owner (.schedule edit) =>
      decide (owner = deviceId) && decide (edit.planId = id) && decide (edit.kind ≠ .update)
  | .plansCached owner plans =>
      decide (owner = deviceId) && plans.any (fun plan => hasPlanId plan id)
  | _ => false

def Event.isDeletion : Event -> Bool
  | .persisted _ _ (.schedule edit) => decide (edit.kind = .delete)
  | _ => false

/-- Whether the last word about a plan is its deletion. -/
def gone (events : List Event) (deviceId : String) (id : Int) : Bool :=
  (lastWhere (Event.settles deviceId id) events).any Event.isDeletion

theorem gone_concat (events : List Event) (event : Event) (deviceId : String) (id : Int) :
    gone (events ++ [event]) deviceId id =
      if event.settles deviceId id then event.isDeletion else gone events deviceId id := by
  rw [gone, lastWhere_concat]
  split
  · rfl
  · rfl

theorem gone_persisted (events : List Event) (number : Nat) (owner : String) (edit : ScheduleEdit)
    (deviceId : String) (id : Int)
    (isGone : gone (events ++ [.persisted number owner (.schedule edit)]) deviceId id = true) :
    (gone events deviceId id = true ∧
        ¬ (owner = deviceId ∧ edit.planId = id ∧ edit.kind = .create)) ∨
      (owner = deviceId ∧ edit.planId = id ∧ edit.kind = .delete) := by
  rw [gone_concat] at isGone
  split at isGone
  · next settled =>
      simp only [Event.settles, Bool.and_eq_true, decide_eq_true_eq] at settled
      exact Or.inr ⟨settled.1.1, settled.1.2, of_decide_eq_true isGone⟩
  · next unsettled =>
      refine Or.inl ⟨isGone, fun created => unsettled ?_⟩
      simp only [Event.settles, Bool.and_eq_true, decide_eq_true_eq]
      exact ⟨⟨created.1, created.2.1⟩, by rw [created.2.2]; decide⟩

/-- A plan the cloud lists is not gone, and caching a set deletes nothing. -/
theorem gone_cached (events : List Event) (owner : String) (plans : List Plan) (deviceId : String)
    (id : Int) (isGone : gone (events ++ [.plansCached owner plans]) deviceId id = true) :
    gone events deviceId id = true ∧
      (owner = deviceId -> forall plan, plan ∈ plans -> hasPlanId plan id = false) := by
  rw [gone_concat] at isGone
  split at isGone
  · cases isGone
  · next unsettled =>
      refine ⟨isGone, fun own plan member => ?_⟩
      apply Bool.eq_false_iff.mpr
      intro named
      refine unsettled ?_
      simp only [Event.settles, Bool.and_eq_true, decide_eq_true_eq]
      exact ⟨own, List.any_eq_true.mpr ⟨plan, member, named⟩⟩

/-! ## One operation after another -/

/-- No call and no cloud snapshot of the device is under way. -/
def Controller.quiet (controller : Controller) (deviceId : String) : Bool :=
  controller.calls.all (fun call => decide (call.deviceId ≠ deviceId) || call.phase.isReturned) &&
    controller.merging.all (fun push => decide (push.1 ≠ deviceId))

/-- The operations of each device follow one another. -/
def oneByOne (loads : Loads) (controller : Controller) : ControlAction -> Bool
  | .call deviceId _ => controller.quiet deviceId
  | .cloudMessage deviceId _ payload =>
      match lesson loads payload with
      | .plans _ => controller.quiet deviceId
      | _ => true
  | _ => true

/-- The operations of a device do not overlap. -/
structure InTurn (controller : Controller) : Prop where
  alone : forall (number other : Nat) (call otherCall : Call),
    controller.calls[number]? = some call -> controller.calls[other]? = some otherCall ->
    call.deviceId = otherCall.deviceId -> call.phase.isReturned = false ->
    otherCall.phase.isReturned = false -> number = other
  quiet : forall deviceId plans (number : Nat) (call : Call),
    (deviceId, plans) ∈ controller.merging -> controller.calls[number]? = some call ->
    call.deviceId = deviceId -> call.phase.isReturned = true

/-- A call that has not returned had not returned before. -/
theorem CallEffect.active_before {loads : Loads} {controller : Controller} {number : Nat}
    {call new : Call} {action : ControlAction}
    (effect : CallEffect loads controller number call action new)
    (active : new.phase.isReturned = false) : call.phase.isReturned = false := by
  cases ended : call.phase with
  | returned registration result =>
      rw [effect.returned_stays ended] at active
      cases active
  | begun => rfl
  | emptyTable => rfl
  | desiredRead => rfl
  | built => rfl
  | bridged => rfl
  | online => rfl
  | inFlight => rfl
  | confirmed => rfl

theorem quiet_calls {controller : Controller} {deviceId : String}
    (quiet : controller.quiet deviceId = true) {number : Nat} {call : Call}
    (found : controller.calls[number]? = some call) (own : call.deviceId = deviceId) :
    call.phase.isReturned = true := by
  rw [Controller.quiet, Bool.and_eq_true, List.all_eq_true] at quiet
  have facts := quiet.1 call (List.mem_of_getElem? found)
  rw [Bool.or_eq_true, decide_eq_true_eq] at facts
  rcases facts with other | returned
  · exact absurd own other
  · exact returned

theorem quiet_merging {controller : Controller} {deviceId : String}
    (quiet : controller.quiet deviceId = true) (plans : List Plan) :
    (deviceId, plans) ∉ controller.merging := by
  rw [Controller.quiet, Bool.and_eq_true, List.all_eq_true, List.all_eq_true] at quiet
  intro pushed
  exact of_decide_eq_true (quiet.2 _ pushed) rfl

theorem alone_step {loads : Loads} {controller after : Controller} {action : ControlAction}
    (facts : InTurn controller) (ordered : oneByOne loads controller action = true)
    (effect : ControlEffect loads controller action after) (number other : Nat)
    (call otherCall : Call) (found : after.calls[number]? = some call)
    (otherFound : after.calls[other]? = some otherCall)
    (sameDevice : call.deviceId = otherCall.deviceId) (active : call.phase.isReturned = false)
    (otherActive : otherCall.phase.isReturned = false) : number = other := by
  -- A new call begins only when every other one of its device has returned.
  have first : forall (fresh old : Nat) (freshCall oldCall : Call) deviceId request,
      action = .call deviceId request -> freshCall = { deviceId := deviceId, request := request } ->
      controller.calls[old]? = some oldCall -> oldCall.deviceId = freshCall.deviceId ->
      oldCall.phase.isReturned = false -> fresh = old := by
    intro fresh old freshCall oldCall deviceId request isCall isFresh known same stillActive
    subst isCall isFresh
    rw [quiet_calls ordered known same] at stillActive
    cases stillActive
  rcases effect.origin found with ⟨deviceId, request, isCall, last, fresh⟩ |
    ⟨before, known, changed⟩
  · rcases effect.origin otherFound with ⟨_, _, _, otherLast, _⟩ |
      ⟨otherBefore, otherKnown, otherChanged⟩
    · exact last.trans otherLast.symm
    · exact first number other call otherBefore deviceId request isCall fresh otherKnown
        (otherChanged.deviceId_eq.symm.trans sameDevice.symm)
        (otherChanged.active_before otherActive)
  · rcases effect.origin otherFound with ⟨deviceId, request, isCall, _, fresh⟩ |
      ⟨otherBefore, otherKnown, otherChanged⟩
    · exact (first other number otherCall before deviceId request isCall fresh known
        (changed.deviceId_eq.symm.trans sameDevice) (changed.active_before active)).symm
    · exact facts.alone number other before otherBefore known otherKnown
        (changed.deviceId_eq.symm.trans (sameDevice.trans otherChanged.deviceId_eq))
        (changed.active_before active) (otherChanged.active_before otherActive)

theorem quiet_step {loads : Loads} {controller after : Controller} {action : ControlAction}
    (facts : InTurn controller) (ordered : oneByOne loads controller action = true)
    (effect : ControlEffect loads controller action after) (deviceId : String)
    (plans : List Plan) (number : Nat) (call : Call) (pushed : (deviceId, plans) ∈ after.merging)
    (found : after.calls[number]? = some call) (own : call.deviceId = deviceId) :
    call.phase.isReturned = true := by
  rcases effect.merging_origin pushed with old | ⟨_, _, isPush, taught, _, sameCalls⟩
  · rcases effect.origin found with ⟨caller, request, isCall, _, fresh⟩ |
      ⟨before, known, changed⟩
    · subst isCall fresh own
      exact absurd old (quiet_merging ordered plans)
    · have returned := facts.quiet deviceId plans number before old known
        (changed.deviceId_eq.symm.trans own)
      cases ended : before.phase with
      | returned registration result =>
          rw [changed.returned_stays ended]
          rfl
      | _ =>
          rw [ended] at returned
          cases returned
  · subst isPush
    rw [oneByOne, taught] at ordered
    rw [sameCalls] at found
    exact quiet_calls ordered found own

theorem inTurn_step {loads : Loads} {controller after : Controller} {action : ControlAction}
    (facts : InTurn controller) (ordered : oneByOne loads controller action = true)
    (effect : ControlEffect loads controller action after) : InTurn after where
  alone := alone_step facts ordered effect
  quiet := quiet_step facts ordered effect

/-- The identifiers of the device that edits were about. -/
def editedIds (events : List Event) (deviceId : String) : List Int :=
  events.filterMap (fun event =>
    match event with
    | .persisted _ owner (.schedule edit) => if owner = deviceId then some edit.planId else none
    | _ => none)

/-- No edit that found the schedule empty starts from a cloud set that lists a
deleted plan. -/
def readsNoDeleted (controller : Controller) : ControlAction -> Bool
  | .advance number (.readFallback _) =>
      (controller.calls[number]?).all (fun call =>
        (editedIds controller.events call.deviceId).all (fun id =>
          !gone controller.events call.deviceId id ||
            ((controller.shadow.getFeedingPlans call.deviceId).getD []).all (fun plan =>
              !hasPlanId plan id)))
  | _ => true

/-- What is gone was edited. -/
theorem mem_editedIds {events : List Event} {deviceId : String} {id : Int}
    (isGone : gone events deviceId id = true) : id ∈ editedIds events deviceId := by
  cases known : lastWhere (Event.settles deviceId id) events with
  | none =>
      rw [gone, known] at isGone
      cases isGone
  | some event =>
      rw [gone, known, Option.any_some] at isGone
      rcases mem_of_lastWhere known with ⟨member, settled⟩
      refine List.mem_filterMap.mpr ⟨event, member, ?_⟩
      cases event with
      | persisted number owner persistence =>
          cases persistence with
          | schedule edit =>
              simp only [Event.settles, Bool.and_eq_true, decide_eq_true_eq] at settled
              simp only [settled.1.1, settled.1.2, if_true]
          | settings values => cases isGone
          | nothing => cases isGone
      | arrived => cases isGone
      | plansCached => cases isGone
      | plansMerged => cases isGone

/-! ## What is gone stays away -/

/-- Whether the submission is that of a create which allocated the identifier. -/
def Submission.allocates (submission : Submission) (id : Int) : Bool :=
  match submission.persistence with
  | .schedule edit => decide (edit.kind = .create) && decide (edit.planId = id)
  | _ => false

/-- The snapshot of an edit is what its submission carries, and that of a delete
does without the deleted plan. -/
structure Submission.Sound (submission : Submission) : Prop where
  command : forall edit, submission.persistence = .schedule edit ->
    submission.command = Command.FEEDING_PLAN_SERVICE
  plans : forall edit, submission.persistence = .schedule edit -> submission.plans = edit.plans
  deletes : forall edit, submission.persistence = .schedule edit -> edit.kind = .delete ->
    forall plan, plan ∈ edit.plans -> hasPlanId plan edit.planId = false

/-- Deleted plans are not in the schedule, not in a snapshot under way and not in
a cloud set being merged, and the operations of a device do not overlap. -/
structure Departed (controller : Controller) : Prop where
  rows : forall deviceId id, gone controller.events deviceId id = true ->
    controller.shadow.planRow deviceId id = none
  carried : forall (number : Nat) (call : Call) submission,
    controller.calls[number]? = some call -> call.phase.submission? = some submission ->
    submission.Sound ∧
      (submission.command = Command.FEEDING_PLAN_SERVICE ->
        forall plan id, plan ∈ submission.plans -> hasPlanId plan id = true ->
        gone controller.events call.deviceId id = true ->
          submission.allocates id = true)
  merging : forall deviceId plans plan id, (deviceId, plans) ∈ controller.merging ->
    plan ∈ plans -> hasPlanId plan id = true -> gone controller.events deviceId id = false
  alone : forall (number other : Nat) (call otherCall : Call),
    controller.calls[number]? = some call -> controller.calls[other]? = some otherCall ->
    call.deviceId = otherCall.deviceId -> call.phase.isReturned = false ->
    otherCall.phase.isReturned = false -> number = other
  quiet : forall deviceId plans (number : Nat) (call : Call),
    (deviceId, plans) ∈ controller.merging -> controller.calls[number]? = some call ->
    call.deviceId = deviceId -> call.phase.isReturned = true

theorem Departed.inTurn {controller : Controller} (facts : Departed controller) :
    InTurn controller :=
  ⟨facts.alone, facts.quiet⟩

theorem departed_initial (shadow : StateShadow) : Departed (Controller.initial shadow) where
  rows := by
    intro deviceId id isGone
    cases isGone
  carried := by
    intro number call submission found
    cases found
  merging := by
    intro deviceId plans plan id pushed
    cases pushed
  alone := by
    intro number other call otherCall found
    cases found
  quiet := by
    intro deviceId plans number call pushed
    cases pushed

theorem returned_of_submission {phase : Phase} {submission : Submission}
    (carries : phase.submission? = some submission) : phase.isReturned = false := by
  cases phase with
  | returned => cases carries
  | begun => rfl
  | emptyTable => rfl
  | desiredRead => rfl
  | built => rfl
  | bridged => rfl
  | online => rfl
  | inFlight => rfl
  | confirmed => rfl

/-- A step that leaves a plan gone found it gone, or stored its deletion. -/
theorem gone_origin {loads : Loads} {controller after : Controller} {action : ControlAction}
    (effect : ControlEffect loads controller action after) {deviceId : String} {id : Int}
    (isGone : gone after.events deviceId id = true) :
    gone controller.events deviceId id = true ∨
      exists (number : Nat) (call : Call) (registration : Registration) (edit : ScheduleEdit),
        action = .persist number ∧ controller.calls[number]? = some call ∧
        call.phase = .confirmed registration ∧
        registration.submission.persistence = .schedule edit ∧ call.deviceId = deviceId := by
  cases effect with
  | called => exact Or.inl isGone
  | advanced => exact Or.inl isGone
  | refused => exact Or.inl isGone
  | registered => exact Or.inl isGone
  | unmatched =>
      rw [gone_concat] at isGone
      exact Or.inl isGone
  | matched =>
      rw [gone_concat] at isGone
      exact Or.inl isGone
  | cleaned => exact Or.inl isGone
  | notStored => exact Or.inl isGone
  | stored number call registration shadow found ready written =>
      cases writes : registration.submission.persistence with
      | settings values =>
          rw [writes, gone_concat] at isGone
          exact Or.inl isGone
      | nothing =>
          rw [writes, gone_concat] at isGone
          exact Or.inl isGone
      | schedule edit =>
          rw [writes] at isGone
          rcases gone_persisted _ _ _ _ _ _ isGone with ⟨before, _⟩ | ⟨own, _, _⟩
          · exact Or.inl before
          · exact Or.inr ⟨number, call, registration, edit, rfl, found, ready, writes, own⟩
  | cached => exact Or.inl (gone_cached _ _ _ _ _ isGone).1
  | learned => exact Or.inl isGone
  | merged =>
      rw [gone_concat] at isGone
      exact Or.inl isGone
  | notMerged => exact Or.inl isGone

/-- A plan list without a plan of the identifier stores no row under it. -/
theorem snapshotRow_eq_none {plans : List Plan} {id : Int}
    (unnamed : forall plan, plan ∈ plans -> hasPlanId plan id = false) :
    StateShadow.snapshotRow plans id = none := by
  cases stored : StateShadow.snapshotRow plans id with
  | none => rfl
  | some plan =>
      rcases mem_of_snapshotRow stored with ⟨member, known⟩
      have named := (hasPlanId_iff known id).mpr rfl
      rw [unnamed plan member] at named
      cases named

theorem departed_rows {loads : Loads} {controller after : Controller} {action : ControlAction}
    (facts : Departed controller) (effect : ControlEffect loads controller action after)
    (deviceId : String) (id : Int) (isGone : gone after.events deviceId id = true) :
    after.shadow.planRow deviceId id = none := by
  cases effect with
  | called => exact facts.rows deviceId id isGone
  | advanced => exact facts.rows deviceId id isGone
  | refused => exact facts.rows deviceId id isGone
  | registered => exact facts.rows deviceId id isGone
  | unmatched =>
      rw [gone_concat] at isGone
      exact facts.rows deviceId id isGone
  | matched =>
      rw [gone_concat] at isGone
      exact facts.rows deviceId id isGone
  | cleaned => exact facts.rows deviceId id isGone
  | notStored => exact facts.rows deviceId id isGone
  | stored number call registration shadow found ready written =>
      cases writes : registration.submission.persistence with
      | settings values =>
          rw [writes] at written isGone
          cases written
          rw [gone_concat] at isGone
          exact facts.rows deviceId id isGone
      | nothing =>
          rw [writes] at written isGone
          cases written
          rw [gone_concat] at isGone
          exact facts.rows deviceId id isGone
      | schedule edit =>
          rw [writes] at written isGone
          have carries : call.phase.submission? = some registration.submission := by
            rw [ready]
            rfl
          rcases facts.carried number call _ found carries with ⟨sound, kept⟩
          rw [StateShadow.planRow_replace written]
          rcases gone_persisted _ _ _ _ _ _ isGone with ⟨before, uncreated⟩ |
            ⟨own, samePlan, isDelete⟩
          · split
            · next own =>
                apply snapshotRow_eq_none
                intro plan member
                apply Bool.eq_false_iff.mpr
                intro named
                rw [← sound.plans edit writes] at member
                rw [own] at before
                have allocated := kept (sound.command edit writes) plan id member named before
                rw [Submission.allocates, writes, Bool.and_eq_true, decide_eq_true_eq,
                  decide_eq_true_eq] at allocated
                exact uncreated ⟨own.symm, allocated.2, allocated.1⟩
            · exact facts.rows deviceId id before
          · rw [if_pos own.symm, ← samePlan]
            exact snapshotRow_eq_none (sound.deletes edit writes isDelete)
  | cached => exact facts.rows deviceId id (gone_cached _ _ _ _ _ isGone).1
  | learned owner topic payload taught =>
      have same : (Controller.learned (controller.shadow.recordRaw owner topic payload
          (extractCommand loads payload)) owner (lesson loads payload)).planRow deviceId id =
            controller.shadow.planRow deviceId id := by
        cases lesson loads payload <;> rfl
      rw [same]
      exact facts.rows deviceId id isGone
  | merged owner plans shadow cachedBefore written =>
      rw [gone_concat] at isGone
      rw [StateShadow.planRow_cloud written]
      split
      · next inside =>
          apply snapshotRow_eq_none
          intro plan member
          apply Bool.eq_false_iff.mpr
          intro named
          have present := facts.merging owner plans plan id cachedBefore member named
          rw [← inside.1, show gone controller.events deviceId id = true from isGone] at present
          cases present
      · exact facts.rows deviceId id isGone
  | notMerged => exact facts.rows deviceId id isGone

/-- An edit built from plans that are not gone carries none that is. -/
theorem carried_of_edit {events : List Event} {deviceId : String} {clock : Clock}
    {plans : List Plan} {request : EditRequest} {edit : ScheduleEdit}
    (accepted : editSchedule plans clock.syncTimeMs request = .ok edit)
    (present : forall plan id, plan ∈ plans -> hasPlanId plan id = true ->
      gone events deviceId id = true -> False) :
    (snapshotSubmission clock edit.kind.controlName edit.plans (.schedule edit)).Sound ∧
      forall plan id,
        plan ∈ (snapshotSubmission clock edit.kind.controlName edit.plans (.schedule edit)).plans ->
        hasPlanId plan id = true -> gone events deviceId id = true ->
        (snapshotSubmission clock edit.kind.controlName edit.plans
          (.schedule edit)).allocates id = true := by
  refine ⟨⟨fun _ _ => rfl, ?_, ?_⟩, ?_⟩
  · intro other same
    cases same
    exact plans_snapshotSubmission _ _ _ _
  · intro other same isDelete plan member
    cases same
    exact unnamed_of_delete accepted isDelete member
  · intro plan id member named isGone
    rw [plans_snapshotSubmission] at member
    rcases read_of_mem_editSchedule accepted member named with ⟨earlier, read, readNamed⟩ |
      ⟨isCreate, allocated⟩
    · exact absurd isGone (fun held => present earlier id read readNamed held)
    · exact Bool.and_eq_true_iff.mpr ⟨decide_eq_true isCreate, decide_eq_true allocated⟩

/-- Nothing that is read from the schedule is gone. -/
theorem Departed.table_present {controller : Controller} (facts : Departed controller)
    {deviceId : String} {plan : Plan} {id : Int}
    (member : plan ∈ (controller.shadow.getSchedulePlans deviceId).map SchedulePlan.plan)
    (named : hasPlanId plan id = true) (isGone : gone controller.events deviceId id = true) :
    False := by
  rcases StateShadow.planRow_of_mem member with ⟨own, known, stored⟩
  rw [(hasPlanId_iff known id).mp named, facts.rows deviceId id isGone] at stored
  cases stored

theorem carried_of_builds {controller : Controller} (facts : Departed controller) {number : Nat}
    {call : Call} (found : controller.calls[number]? = some call) {answer : Answer}
    {submission : Submission}
    (reads : readsNoDeleted controller (.advance number answer) = true)
    (builds : call.Builds controller.shadow answer submission) :
    submission.Sound ∧
      (submission.command = Command.FEEDING_PLAN_SERVICE ->
        forall plan id, plan ∈ submission.plans -> hasPlanId plan id = true ->
        gone controller.events call.deviceId id = true ->
          submission.allocates id = true) := by
  cases builds with
  | unscheduled other submission asks kind =>
      refine ⟨⟨?_, ?_, ?_⟩, ?_⟩
      · intro edit writes
        exact absurd writes (kind.not_schedule edit)
      · intro edit writes
        exact absurd writes (kind.not_schedule edit)
      · intro edit writes
        exact absurd writes (kind.not_schedule edit)
      · intro isSnapshot
        exact absurd isSnapshot kind.command_ne
  | resynced clock asks =>
      refine ⟨⟨(fun _ same => nomatch same), (fun _ same => nomatch same),
        (fun _ same => nomatch same)⟩, ?_⟩
      intro _ plan id member named isGone
      rw [plans_snapshotSubmission] at member
      exact (facts.table_present (List.mem_filter.mp member).1 named isGone).elim
  | edited clock request edit asks accepted =>
      rcases carried_of_edit accepted (fun plan id read named isGone =>
        facts.table_present read named isGone) with ⟨sound, kept⟩
      exact ⟨sound, fun _ => kept⟩
  | editedFallback clock request edit empty asks accepted =>
      have present : forall plan id,
          plan ∈ (controller.shadow.getFeedingPlans call.deviceId).getD [] ->
          hasPlanId plan id = true -> gone controller.events call.deviceId id = true -> False := by
        intro plan id read named isGone
        rw [readsNoDeleted, found, Option.all_some, List.all_eq_true] at reads
        have kept := reads id (mem_editedIds isGone)
        rw [isGone, Bool.not_true, Bool.false_or, List.all_eq_true] at kept
        have unnamed := kept plan read
        rw [named] at unnamed
        cases unnamed
      rcases carried_of_edit accepted present with ⟨sound, kept⟩
      exact ⟨sound, fun _ => kept⟩

theorem departed_carried {loads : Loads} {controller after : Controller} {action : ControlAction}
    (facts : Departed controller) (reads : readsNoDeleted controller action = true)
    (effect : ControlEffect loads controller action after) (number : Nat) (new : Call)
    (submission : Submission) (found : after.calls[number]? = some new)
    (carries : new.phase.submission? = some submission) :
    submission.Sound ∧
      (submission.command = Command.FEEDING_PLAN_SERVICE ->
        forall plan id, plan ∈ submission.plans -> hasPlanId plan id = true ->
        gone after.events new.deviceId id = true -> submission.allocates id = true) := by
  rcases effect.origin found with ⟨deviceId, request, _, _, fresh⟩ | ⟨call, known, changed⟩
  · rw [fresh] at carries
    cases carries
  · have device := changed.deviceId_eq
    rcases changed.submission_eq carries with ⟨before, _⟩ | ⟨answer, isAdvance, builds, _⟩
    · rcases facts.carried number call submission known before with ⟨sound, kept⟩
      refine ⟨sound, fun isSnapshot plan id member named isGone => ?_⟩
      rcases gone_origin effect isGone with earlier |
        ⟨editor, editing, registration, edit, isPersist, editorFound, ready, _, sameDevice⟩
      · rw [device] at earlier
        exact kept isSnapshot plan id member named earlier
      · -- The editor is the only call of the device, and it has just returned.
        exfalso
        subst isPersist
        have editingActive : editing.phase.isReturned = false := by
          rw [ready]
          rfl
        have same := facts.alone number editor call editing known editorFound
          (device.symm.trans sameDevice.symm) (returned_of_submission before) editingActive
        subst same
        rcases effect.returned_of_persist found with ⟨_, _, returned⟩
        rw [returned] at carries
        cases carries
    · subst isAdvance
      rw [device]
      have kept := carried_of_builds facts known reads builds
      refine ⟨kept.1, fun isSnapshot plan id member named isGone => ?_⟩
      rcases gone_origin effect isGone with earlier | ⟨_, _, _, _, isPersist, _⟩
      · exact kept.2 isSnapshot plan id member named earlier
      · cases isPersist

theorem departed_merging {loads : Loads} {controller after : Controller} {action : ControlAction}
    (facts : Departed controller) (effect : ControlEffect loads controller action after)
    (deviceId : String) (plans : List Plan) (plan : Plan) (id : Int)
    (pushed : (deviceId, plans) ∈ after.merging) (member : plan ∈ plans)
    (named : hasPlanId plan id = true) : gone after.events deviceId id = false := by
  apply Bool.eq_false_iff.mpr
  intro isGone
  rcases effect.merging_origin pushed with old | ⟨_, _, _, _, noted, _⟩
  · rcases gone_origin effect isGone with earlier |
      ⟨editor, editing, registration, _, _, editorFound, ready, _, sameDevice⟩
    · rw [facts.merging deviceId plans plan id old member named] at earlier
      cases earlier
    · have returned := facts.quiet deviceId plans editor editing old editorFound sameDevice
      rw [ready] at returned
      cases returned
  · rw [noted] at isGone
    have unnamed := (gone_cached _ _ _ _ _ isGone).2 rfl plan member
    rw [named] at unnamed
    cases unnamed

theorem departed_step {loads : Loads} {controller after : Controller} {action : ControlAction}
    (facts : Departed controller) (ordered : oneByOne loads controller action = true)
    (reads : readsNoDeleted controller action = true)
    (effect : ControlEffect loads controller action after) : Departed after where
  rows := departed_rows facts effect
  carried := departed_carried facts reads effect
  merging := departed_merging facts effect
  alone := (inTurn_step facts.inTurn ordered effect).alone
  quiet := (inTurn_step facts.inTurn ordered effect).quiet

/-! ## No deleted plan is published -/

/-- A published snapshot contains no deleted plan, unless it is that of a create
which allocated the identifier anew. -/
def publishesNoDeleted (controller : Controller) : ControlAction -> Prop
  | .advance number (.publish _) =>
      forall (call : Call) registration, controller.calls[number]? = some call ->
        call.phase = .inFlight registration .registered ->
        registration.submission.command = Command.FEEDING_PLAN_SERVICE ->
        forall plan id, plan ∈ registration.submission.plans -> hasPlanId plan id = true ->
          gone controller.events call.deviceId id = true ->
          registration.submission.allocates id = true
  | _ => True

/-- In every history of operations one after another, in which no edit starts
from a cloud set that lists a deleted plan, no published snapshot contains a plan
whose deletion neither the cloud nor a create has taken back. -/
theorem deleted_plan_never_published (loads : Loads) (shadow : StateShadow)
    (actions : List ControlAction)
    (meets : (controllerMachine loads).Meets
      (fun controller action => oneByOne loads controller action = true ∧
        readsNoDeleted controller action = true) (.initial shadow) actions) :
    (controllerMachine loads).Meets publishesNoDeleted (.initial shadow) actions := by
  refine (controllerMachine loads).meets_of_invariant _ publishesNoDeleted Departed
    (fun _ _ _ facts condition step =>
      departed_step facts condition.1 condition.2 (controlEffect_of_step step))
    ?_ _ actions (departed_initial shadow) meets
  intro controller action facts _
  unfold publishesNoDeleted
  split
  · intro call registration found flies isSnapshot
    refine (facts.carried _ call registration.submission found ?_).2 isSnapshot
    rw [flies]
    rfl
  · trivial

/-! ## A deleted plan comes back -/

/-- Plan five is pushed and deleted.  The next create finds the schedule empty,
starts from the cached set and is about to publish plan five again. -/
theorem create_publishes_deleted_plan :
    let actions := pushPlanFive ++
      [.call "A" (.edit (.delete 5)), .advance 0 (.readTable noClock)] ++
      submitSteps 0 "m" ++ [answerFrom "A" (snapshotAccepted "m")] ++ confirmSteps 0 ++
      [.call "A" (.edit (.create mondayPlan)), .advance 1 (.readTable noClock),
        .advance 1 (.readFallback noClock), .advance 1 (.context (some SUPPORTED_PRODUCT_ID)),
        .advance 1 (.presence true), .register 1 "n"]
    let before := (controllerMachine loadsSnapshots).run (.initial {}) actions
    (controllerMachine loadsSnapshots).Meets
      (fun controller action => oneByOne loadsSnapshots controller action = true)
      (.initial {}) (actions ++ [.advance 1 (.publish .published)]) ∧
    gone before.events "A" 5 = true ∧
    ((controllerMachine loadsSnapshots).step before
      (.advance 1 (.publish .published))).isSome = true ∧
    (before.calls[1]?.bind Call.registration?).any (fun registration =>
      decide (registration.submission.command = Command.FEEDING_PLAN_SERVICE) &&
        registration.submission.plans.any (fun plan => hasPlanId plan 5) &&
        !registration.submission.allocates 5) = true := by
  decide +kernel

/-- With another plan left in the schedule the deleted one stays away. -/
theorem deleted_plan_never_published_beside_another :
    (controllerMachine loadsSnapshots).Meets publishesNoDeleted (.initial {}) (pushPlanFive ++
      [.call "A" (.edit (.create mondayPlan)), .advance 0 (.readTable noClock)] ++
      submitSteps 0 "m" ++ [answerFrom "A" (snapshotAccepted "m")] ++ confirmSteps 0 ++
      [.call "A" (.edit (.delete 5)), .advance 1 (.readTable noClock)] ++
      submitSteps 1 "n" ++ [answerFrom "A" (snapshotAccepted "n")] ++ confirmSteps 1 ++
      [.call "A" .resync, .advance 2 (.readTable noClock)] ++ submitSteps 2 "o") :=
  deleted_plan_never_published loadsSnapshots {} _ (by decide +kernel)

end Control
end PetlibroRelay
