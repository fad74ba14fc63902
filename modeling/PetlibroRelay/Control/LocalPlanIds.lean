import PetlibroRelay.Control.DeletedPlans

namespace PetlibroRelay
namespace Control

open Foundations
open Protocol
open Shadow
open Responder

/-!
# Identifiers of local plans

A create takes the identifier below the lowest negative one among the plans that it reads.
Operations of one device are taken one after another here, so these are the plans that the
shadow holds.  When the lowest plans have been deleted their identifiers are taken again,
although an earlier create returned them.
-/

/-! ## The next identifier -/

/-- The minimum that the fold finds. -/
theorem foldl_min_eq_iff (ids : List Int) (start low : Int) :
    ids.foldl min start = low ↔
      (low = start ∨ low ∈ ids) ∧ low ≤ start ∧ forall id, id ∈ ids -> low ≤ id := by
  rw [← Option.some.injEq, ← List.min?_cons', List.min?_eq_some_iff, List.mem_cons,
    List.forall_mem_cons]

/-- The next identifier is this one when every plan lies above it and the one directly
above it is there, or is zero. -/
theorem nextLocalPlanId_eq_iff (plans : List Plan) {id : Int} (negative : id < 0) :
    nextLocalPlanId plans = id ↔
      (forall plan, plan ∈ plans -> forall own, planId? plan = some own -> id < own) ∧
        (id = -1 ∨ exists plan, plan ∈ plans ∧ planId? plan = some (id + 1)) := by
  have shifted : nextLocalPlanId plans = id ↔
      ((plans.filterMap planId?).filter (fun own => decide (own < 0))).foldl min 0 = id + 1 := by
    rw [nextLocalPlanId]
    omega
  have listed : forall own,
      own ∈ (plans.filterMap planId?).filter (fun own => decide (own < 0)) ↔
        (exists plan, plan ∈ plans ∧ planId? plan = some own) ∧ own < 0 := by
    intro own
    rw [List.mem_filter, List.mem_filterMap, decide_eq_true_eq]
  simp only [shifted, foldl_min_eq_iff, listed]
  constructor
  · rintro ⟨highest, -, above⟩
    refine ⟨?_, ?_⟩
    · intro plan member own known
      by_cases small : own < 0
      · exact above own ⟨⟨plan, member, known⟩, small⟩
      · omega
    · rcases highest with top | ⟨next, -⟩
      · exact Or.inl (by omega)
      · exact Or.inr next
  · rintro ⟨above, highest⟩
    refine ⟨?_, by omega, ?_⟩
    · by_cases top : id = -1
      · exact Or.inl (by omega)
      · exact Or.inr ⟨highest.resolve_left top, by omega⟩
    · rintro own ⟨⟨plan, member, known⟩, -⟩
      exact above plan member own known

theorem planId_of_create {plans : List Plan} {syncTime : Int} {request : EditRequest}
    {edit : ScheduleEdit} (accepted : editSchedule plans syncTime request = .ok edit)
    (isCreate : edit.kind = .create) : edit.planId = nextLocalPlanId plans := by
  cases request with
  | create requested =>
      obtain ⟨plan, valid, accepted⟩ := bind_ok accepted
      obtain ⟨_, _, same⟩ := bind_ok accepted
      cases same
      rfl
  | update id requested =>
      rcases editSchedule_cases accepted with ⟨_, untargeted, _⟩ |
        ⟨_, _, _, _, _, _, _, isUpdate, _⟩ | ⟨asks, _⟩
      · cases untargeted
      · rw [isUpdate] at isCreate
        cases isCreate
      · cases asks
  | delete id =>
      rcases editSchedule_cases accepted with ⟨_, untargeted, _⟩ | ⟨_, _, _, asks, _⟩ |
        ⟨_, isDelete, _⟩
      · cases untargeted
      · cases asks
      · rw [isDelete] at isCreate
        cases isCreate

/-! ## Identifiers that can be taken again -/

/-- The plans that an edit starts from. -/
def schedulePlans (shadow : StateShadow) (deviceId : String) : List Plan :=
  match shadow.getSchedulePlans deviceId with
  | [] => (shadow.getFeedingPlans deviceId).getD []
  | stored => stored.map SchedulePlan.plan

/-- The identifiers that creates of the device have returned, in their order. -/
def createdIds (events : List Event) (deviceId : String) : List Int :=
  events.filterMap (fun event =>
    match event with
    | .persisted _ owner (.schedule edit) =>
        if owner = deviceId ∧ edit.kind = .create then some edit.planId else none
    | _ => none)

/-- Every create has returned a negative identifier that no earlier one returned. -/
def NeverReused (events : List Event) : Prop :=
  forall deviceId, (createdIds events deviceId).Nodup ∧
    forall id, id ∈ createdIds events deviceId -> id < 0

/-- A create has returned an identifier that comes directly below the plans: neither it nor
a lower one is there, and the next higher one is, unless that is zero. -/
def exposed (created : List Int) (plans : List Plan) : Bool :=
  created.any (fun id =>
    plans.all (fun plan => (planId? plan).all (fun own => decide (id < own))) &&
      (decide (id = -1) || plans.any (fun plan => decide (planId? plan = some (id + 1)))))

theorem exposed_iff {created : List Int} (negative : forall id, id ∈ created -> id < 0)
    (plans : List Plan) :
    exposed created plans = true ↔ nextLocalPlanId plans ∈ created := by
  simp only [exposed, List.any_eq_true, Bool.and_eq_true, Bool.or_eq_true, List.all_eq_true,
    Option.all_eq_true, decide_eq_true_eq]
  constructor
  · rintro ⟨id, member, directlyBelow⟩
    rw [(nextLocalPlanId_eq_iff plans (negative id member)).mpr directlyBelow]
    exact member
  · intro member
    exact ⟨_, member, (nextLocalPlanId_eq_iff plans (negative _ member)).mp rfl⟩

/-! ## The plans of a call under way -/

/-- While a call of a device is under way nothing else changes what an edit of the device
would start from. -/
theorem plans_kept {loads : Loads} {controller after : Controller} {action : ControlAction}
    (inTurn : InTurn controller) (ordered : oneByOne loads controller action = true)
    (effect : ControlEffect loads controller action after) {number : Nat} {call new : Call}
    (found : controller.calls[number]? = some call) (newFound : after.calls[number]? = some new)
    (changed : CallEffect loads controller number call action new)
    (active : new.phase.isReturned = false) :
    after.shadow.getSchedulePlans call.deviceId =
        controller.shadow.getSchedulePlans call.deviceId ∧
      after.shadow.getFeedingPlans call.deviceId =
        controller.shadow.getFeedingPlans call.deviceId := by
  have underWay := changed.active_before active
  have notStored : action ≠ .persist number := by
    intro isPersist
    subst isPersist
    obtain ⟨registration, result, returned⟩ := effect.returned_of_persist newFound
    rw [returned] at active
    cases active
  cases effect with
  | called => exact ⟨rfl, rfl⟩
  | advanced => exact ⟨rfl, rfl⟩
  | refused => exact ⟨rfl, rfl⟩
  | registered => exact ⟨rfl, rfl⟩
  | unmatched => exact ⟨rfl, rfl⟩
  | matched => exact ⟨rfl, rfl⟩
  | cleaned => exact ⟨rfl, rfl⟩
  | notStored => exact ⟨rfl, rfl⟩
  | notMerged => exact ⟨rfl, rfl⟩
  | learned owner topic payload taught =>
      cases known : lesson loads payload with
      | plans plans => exact absurd known (taught plans)
      | settings values => exact ⟨rfl, rfl⟩
      | refused => exact ⟨rfl, rfl⟩
      | nothing => exact ⟨rfl, rfl⟩
  | cached owner topic payload plans taught =>
      by_cases own : owner = call.deviceId
      · rw [oneByOne, taught] at ordered
        rw [quiet_calls ordered found own.symm] at underWay
        cases underWay
      · exact ⟨rfl, Dict.get?_set_of_ne _ _ own⟩
  | merged owner plans shadow cachedBefore written =>
      by_cases own : owner = call.deviceId
      · rw [inTurn.quiet owner plans number call cachedBefore found own.symm] at underWay
        cases underWay
      · exact StateShadow.plans_cloud_of_ne written (Ne.symm own)
  | stored other editing registration shadow otherFound ready written =>
      cases writes : registration.submission.persistence with
      | settings values =>
          rw [writes] at written
          cases written
          exact ⟨rfl, rfl⟩
      | nothing =>
          rw [writes] at written
          cases written
          exact ⟨rfl, rfl⟩
      | schedule edit =>
          rw [writes] at written
          by_cases own : editing.deviceId = call.deviceId
          · -- The editor would be the only call of the device, and has just returned.
            have editingActive : editing.phase.isReturned = false := by
              rw [ready]
              rfl
            have same := inTurn.alone number other call editing found otherFound own.symm underWay
              editingActive
            exact absurd (congrArg ControlAction.persist same.symm) notStored
          · exact StateShadow.plans_replace_of_ne written (Ne.symm own)

/-- A call carries an edit that it carried before, or one of what the schedule holds. -/
theorem edit_origin {loads : Loads} {controller : Controller} {action : ControlAction}
    {number : Nat} {call new : Call}
    (changed : CallEffect loads controller number call action new)
    (empty : call.phase = .emptyTable -> controller.shadow.getSchedulePlans call.deviceId = [])
    {edit : ScheduleEdit} (carried : new.phase.edit? = some edit) :
    call.phase.edit? = some edit ∨ exists syncTime request,
      editSchedule (schedulePlans controller.shadow call.deviceId) syncTime request = .ok edit := by
  obtain ⟨submission, carries, writes⟩ := edit_of_some carried
  rcases changed.submission_eq carries with ⟨before, _⟩ | ⟨answer, isAdvance, builds, _⟩
  · exact Or.inl (edit_of_submission before writes)
  · cases builds with
    | unscheduled _ _ asks kind => exact absurd writes (kind.not_schedule edit)
    | resynced clock asks => cases writes
    | editedFallback clock request own isEmpty asks accepted =>
        cases writes
        refine Or.inr ⟨clock.syncTimeMs, request, ?_⟩
        rw [schedulePlans, empty isEmpty]
        exact accepted
    | edited clock request own asks accepted =>
        cases writes
        cases stored : controller.shadow.getSchedulePlans call.deviceId with
        | cons first rest =>
            refine Or.inr ⟨clock.syncTimeMs, request, ?_⟩
            rw [stored] at accepted
            rw [schedulePlans, stored]
            exact accepted
        | nil =>
            subst isAdvance
            cases changed with
            | unchanged => exact Or.inl carried
            | advanced _ phase moves =>
                exfalso
                rcases advance_cases moves with early | ⟨_, _, _, _, _, flight⟩
                · cases early with
                  | tableRead _ _ begins _ known => exact known stored
                  | emptyTable => cases carried
                  | unscheduled _ _ untimed => cases untimed
                  | skipped => cases carried
                  | resynced _ begins isResync => cases asks.symm.trans isResync
                  | failed => cases carried
                · cases flight

/-- Operations of a device do not overlap, and a call that edits the schedule carries an
edit of what the schedule holds. -/
structure Sequential (controller : Controller) : Prop where
  inTurn : InTurn controller
  empty : forall (number : Nat) (call : Call), controller.calls[number]? = some call ->
    call.phase = .emptyTable -> controller.shadow.getSchedulePlans call.deviceId = []
  built : forall (number : Nat) (call : Call) edit, controller.calls[number]? = some call ->
    call.phase.edit? = some edit -> exists syncTime request,
      editSchedule (schedulePlans controller.shadow call.deviceId) syncTime request = .ok edit

theorem sequential_initial (shadow : StateShadow) : Sequential (Controller.initial shadow) where
  inTurn := (departed_initial shadow).inTurn
  empty := by
    intro number call found
    cases found
  built := by
    intro number call edit found
    cases found

theorem active_of_edit {phase : Phase} {edit : ScheduleEdit} (carried : phase.edit? = some edit) :
    phase.isReturned = false := by
  obtain ⟨submission, carries, -⟩ := edit_of_some carried
  exact returned_of_submission carries

theorem sequential_step {loads : Loads} {controller after : Controller} {action : ControlAction}
    (facts : Sequential controller) (ordered : oneByOne loads controller action = true)
    (effect : ControlEffect loads controller action after) : Sequential after where
  inTurn := inTurn_step facts.inTurn ordered effect
  empty := by
    intro number new newFound isEmpty
    rcases effect.origin newFound with ⟨_, _, _, _, fresh⟩ | ⟨call, found, changed⟩
    · rw [fresh] at isEmpty
      cases isEmpty
    · have active : new.phase.isReturned = false := by
        rw [isEmpty]
        rfl
      rw [changed.deviceId_eq,
        (plans_kept facts.inTurn ordered effect found newFound changed active).1]
      rcases changed.emptyTable_eq isEmpty with ⟨before, _⟩ | ⟨now, _⟩
      · exact facts.empty number call found before
      · exact now
  built := by
    intro number new edit newFound carried
    rcases effect.origin newFound with ⟨_, _, _, _, fresh⟩ | ⟨call, found, changed⟩
    · rw [fresh] at carried
      cases carried
    · obtain ⟨table, fallback⟩ := plans_kept facts.inTurn ordered effect found newFound changed
        (active_of_edit carried)
      rw [changed.deviceId_eq, schedulePlans, table, fallback, ← schedulePlans]
      rcases edit_origin changed (facts.empty number call found) carried with before | now
      · exact facts.built number call edit found before
      · exact now

/-! ## Creates that succeed -/

/-- Whether the write stores the plan of a create. -/
def Persistence.creates (shadow : StateShadow) (deviceId : String) : Persistence -> Bool
  | .schedule edit =>
      decide (edit.kind = .create) && (shadow.replaceLocalSchedulePlans deviceId edit.plans).isSome
  | _ => false

/-- The device on which an action completes a create. -/
def completesCreate (controller : Controller) : ControlAction -> Option String
  | .persist number =>
      (controller.calls[number]?).bind (fun call =>
        match call.phase with
        | .confirmed registration =>
            if registration.submission.persistence.creates controller.shadow call.deviceId
            then some call.deviceId else none
        | _ => none)
  | _ => none

theorem completesCreate_of_confirmed {controller : Controller} {number : Nat} {call : Call}
    {registration : Registration} (found : controller.calls[number]? = some call)
    (ready : call.phase = .confirmed registration) :
    completesCreate controller (.persist number) =
      if registration.submission.persistence.creates controller.shadow call.deviceId
      then some call.deviceId else none := by
  rw [completesCreate, found, Option.bind_some, ready]

/-- A create does not complete while an identifier that an earlier one returned comes
directly below the plans of the device. -/
def avoidsReuse (controller : Controller) (action : ControlAction) : Prop :=
  forall deviceId, completesCreate controller action = some deviceId ->
    exposed (createdIds controller.events deviceId)
      (schedulePlans controller.shadow deviceId) = false

theorem createdIds_concat (events : List Event) (event : Event) (deviceId : String) :
    createdIds (events ++ [event]) deviceId =
      createdIds events deviceId ++ createdIds [event] deviceId :=
  List.filterMap_append

/-- The identifiers that creates have returned, after a write. -/
theorem createdIds_of_stored {controller : Controller} (facts : Sequential controller)
    {number : Nat} {call : Call} {registration : Registration} {shadow : StateShadow}
    (found : controller.calls[number]? = some call) (ready : call.phase = .confirmed registration)
    (written : registration.submission.persistence.write controller.shadow call.deviceId =
      some shadow) (deviceId : String) :
    createdIds [.persisted number call.deviceId registration.submission.persistence] deviceId =
      if completesCreate controller (.persist number) = some deviceId
      then [nextLocalPlanId (schedulePlans controller.shadow deviceId)] else [] := by
  rw [completesCreate_of_confirmed found ready]
  cases writes : registration.submission.persistence with
  | settings values => rfl
  | nothing => rfl
  | schedule edit =>
      rw [writes] at written
      have stored : (controller.shadow.replaceLocalSchedulePlans call.deviceId edit.plans).isSome =
          true := Option.isSome_of_eq_some written
      rw [Persistence.creates, stored, Bool.and_true]
      by_cases isCreate : edit.kind = .create
      · by_cases own : call.deviceId = deviceId
        · have carried : call.phase.edit? = some edit := by
            refine @edit_of_submission _ registration.submission _ ?_ writes
            rw [ready]
            rfl
          obtain ⟨syncTime, request, accepted⟩ := facts.built number call edit found carried
          rw [own] at accepted
          rw [decide_eq_true isCreate, if_pos rfl, own, if_pos rfl,
            ← planId_of_create accepted isCreate]
          simp only [createdIds, List.filterMap_cons, List.filterMap_nil, isCreate, and_self,
            if_true]
        · rw [decide_eq_true isCreate, if_pos rfl, if_neg (fun same => own (Option.some.inj same))]
          simp only [createdIds, List.filterMap_cons, List.filterMap_nil, own, false_and, if_false]
      · rw [decide_eq_false isCreate, if_neg Bool.false_ne_true, if_neg nofun]
        simp only [createdIds, List.filterMap_cons, List.filterMap_nil, isCreate, and_false,
          if_false]

/-- What a step adds to the identifiers that creates have returned. -/
theorem createdIds_of_effect {loads : Loads} {controller after : Controller}
    {action : ControlAction} (facts : Sequential controller)
    (effect : ControlEffect loads controller action after) (deviceId : String) :
    createdIds after.events deviceId = createdIds controller.events deviceId ++
      if completesCreate controller action = some deviceId
      then [nextLocalPlanId (schedulePlans controller.shadow deviceId)] else [] := by
  cases effect with
  | called => exact (List.append_nil _).symm
  | advanced => exact (List.append_nil _).symm
  | refused => exact (List.append_nil _).symm
  | registered => exact (List.append_nil _).symm
  | unmatched => exact createdIds_concat _ _ _
  | matched => exact createdIds_concat _ _ _
  | cleaned => exact (List.append_nil _).symm
  | cached => exact createdIds_concat _ _ _
  | learned => exact (List.append_nil _).symm
  | merged => exact createdIds_concat _ _ _
  | notMerged => exact (List.append_nil _).symm
  | notStored number call registration found ready raised =>
      have uncreated : registration.submission.persistence.creates controller.shadow
          call.deviceId = false := by
        cases writes : registration.submission.persistence with
        | settings values => rfl
        | nothing => rfl
        | schedule edit =>
            rw [writes] at raised
            have missing : controller.shadow.replaceLocalSchedulePlans call.deviceId edit.plans =
                none := raised
            rw [Persistence.creates, missing, Option.isSome_none, Bool.and_false]
      rw [completesCreate_of_confirmed found ready, uncreated, if_neg Bool.false_ne_true,
        if_neg nofun]
      exact (List.append_nil _).symm
  | stored number call registration shadow found ready written =>
      refine (createdIds_concat _ _ _).trans ?_
      rw [createdIds_of_stored facts found ready written]

/-! ## No identifier twice -/

/-- The controller where operations of a device follow one another. -/
def sequentialMachine (loads : Loads) : Machine Controller ControlAction :=
  (controllerMachine loads).guarded (oneByOne loads)

theorem sequentialMachine_step {loads : Loads} {controller after : Controller}
    {action : ControlAction}
    (moved : (sequentialMachine loads).step controller action = some after) :
    oneByOne loads controller action = true ∧ ControlEffect loads controller action after := by
  obtain ⟨ordered, step⟩ := Machine.guarded_step moved
  exact ⟨ordered, controlEffect_of_step step⟩

/-- A create that completes is not refused. -/
theorem step_of_completesCreate (loads : Loads) {controller : Controller} {action : ControlAction}
    {deviceId : String} (completes : completesCreate controller action = some deviceId) :
    (sequentialMachine loads).step controller action ≠ none := by
  cases action with
  | persist number =>
      obtain ⟨call, found, completes⟩ := Option.bind_eq_some_iff.mp completes
      split at completes
      · next registration ready =>
          show Controller.persist controller number ≠ none
          rw [Controller.persist, found]
          simp only [ready]
          cases registration.submission.persistence.write controller.shadow call.deviceId with
          | none => rintro ⟨⟩
          | some shadow => rintro ⟨⟩
      · cases completes
  | _ => cases completes

/-- What a step adds, refused or not. -/
theorem createdIds_next (loads : Loads) {controller : Controller} (facts : Sequential controller)
    (action : ControlAction) (deviceId : String) :
    createdIds ((sequentialMachine loads).next controller action).events deviceId =
      createdIds controller.events deviceId ++
        if completesCreate controller action = some deviceId
        then [nextLocalPlanId (schedulePlans controller.shadow deviceId)] else [] := by
  cases moved : (sequentialMachine loads).step controller action with
  | none =>
      rw [Machine.next, moved, Option.getD_none,
        if_neg (fun completes => step_of_completesCreate loads completes moved), List.append_nil]
  | some after =>
      rw [Machine.next, moved, Option.getD_some]
      exact createdIds_of_effect facts (sequentialMachine_step moved).2 deviceId

theorem sequential_next (loads : Loads) {controller : Controller} (facts : Sequential controller)
    (action : ControlAction) : Sequential ((sequentialMachine loads).next controller action) := by
  rcases (sequentialMachine loads).next_cases controller action with refused | moved
  · rw [refused]
    exact facts
  · obtain ⟨ordered, effect⟩ := sequentialMachine_step moved
    exact sequential_step facts ordered effect

/-- The step lemma: a step takes no identifier again exactly when it avoids reuse. -/
theorem neverReused_next_iff (loads : Loads) {controller : Controller}
    (facts : Sequential controller) (fresh : NeverReused controller.events)
    (action : ControlAction) :
    NeverReused ((sequentialMachine loads).next controller action).events ↔
      avoidsReuse controller action := by
  refine forall_congr' (fun deviceId => ?_)
  obtain ⟨distinct, negative⟩ := fresh deviceId
  rw [createdIds_next loads facts]
  by_cases completes : completesCreate controller action = some deviceId
  · have below := nextLocalPlanId_neg (schedulePlans controller.shadow deviceId)
    have known := exposed_iff negative (schedulePlans controller.shadow deviceId)
    rw [if_pos completes, ← List.concat_eq_append, List.nodup_concat]
    constructor
    · rintro ⟨⟨new, -⟩, -⟩ -
      exact Bool.eq_false_iff.mpr (fun reused => new (known.mp reused))
    · intro avoids
      refine ⟨⟨fun reused => ?_, distinct⟩, ?_⟩
      · rw [known.mpr reused] at avoids
        cases avoids completes
      · intro id member
        rw [List.concat_eq_append] at member
        rcases List.mem_append.mp member with old | added
        · exact negative id old
        · rw [List.mem_singleton.mp added]
          exact below
  · rw [if_neg completes, List.append_nil]
    exact ⟨fun _ completed => absurd completed completes, fun _ => ⟨distinct, negative⟩⟩

theorem sequential_run (loads : Loads) (shadow : StateShadow) (actions : List ControlAction) :
    Sequential ((sequentialMachine loads).run (.initial shadow) actions) := by
  refine (sequentialMachine loads).run_invariant Sequential ?_ _ actions
    (sequential_initial shadow)
  intro controller action after facts moved
  obtain ⟨ordered, effect⟩ := sequentialMachine_step moved
  exact sequential_step facts ordered effect

/-- The identifiers that creates have returned stay. -/
theorem neverReused_of_run (loads : Loads) {controller : Controller}
    (facts : Sequential controller) (actions : List ControlAction)
    (fresh : NeverReused ((sequentialMachine loads).run controller actions).events) :
    NeverReused controller.events := by
  induction actions generalizing controller with
  | nil => exact fresh
  | cons action rest inductionHypothesis =>
      have next := inductionHypothesis (sequential_next loads facts action) fresh
      intro deviceId
      obtain ⟨distinct, negative⟩ := next deviceId
      rw [createdIds_next loads facts] at distinct negative
      exact ⟨(List.sublist_append_left _ _).nodup distinct,
        fun id member => negative id (List.mem_append_left _ member)⟩

/-- Where the operations of each device follow one another, no create returns an identifier
that an earlier one returned, exactly when no create completes while such an identifier comes
directly below the plans of its device. -/
theorem local_ids_never_reused_iff (loads : Loads) (shadow : StateShadow)
    (actions : List ControlAction) :
    NeverReused ((sequentialMachine loads).run (.initial shadow) actions).events ↔
      (sequentialMachine loads).Meets avoidsReuse (.initial shadow) actions := by
  have exact_iff := (sequentialMachine loads).reached_iff_meets avoidsReuse
    (fun controller => Sequential controller ∧ NeverReused controller.events)
    (fun controller action holds => ⟨fun later =>
        (neverReused_next_iff loads holds.1 holds.2 action).mp later.2,
      fun avoids => ⟨sequential_next loads holds.1 action,
        (neverReused_next_iff loads holds.1 holds.2 action).mpr avoids⟩⟩)
    (.initial shadow) actions
    ⟨sequential_initial shadow, fun deviceId => ⟨List.nodup_nil, nofun⟩⟩
  rw [← exact_iff]
  constructor
  · rintro fresh early ⟨rest, rfl⟩
    have facts := sequential_run loads shadow early
    rw [Machine.run_append] at fresh
    exact ⟨facts, neverReused_of_run loads facts rest fresh⟩
  · intro reached
    exact (reached actions (List.prefix_refl actions)).2

/-! ## A create, its deletion and a create -/

/-- The decoder, as far as acceptances of snapshots are concerned. -/
def loadsThreeAcceptances : Loads := fun payload =>
  (["m", "n", "o"].find? (fun msgId => decide (payload = snapshotAccepted msgId))).map
    (fun msgId => .obj
      [("cmd", .str "FEEDING_PLAN_SERVICE"), ("msgId", .str msgId), ("code", .int 0)])

/-- A plan is created, the call `number` of device `A`, on an empty schedule. -/
def createOnEmpty (number : Nat) (msgId : String) : List ControlAction :=
  [.call "A" (.edit (.create mondayPlan)), .advance number (.readTable noClock),
    .advance number (.readFallback noClock)] ++
    submitSteps number msgId ++ [answerFrom "A" (snapshotAccepted msgId)] ++ confirmSteps number

/-- Both creates succeed and return the same identifier. -/
theorem deleted_local_id_given_again :
    let final := (sequentialMachine loadsThreeAcceptances).run (.initial {}) (createOnEmpty 0 "m" ++
      [.call "A" (.edit (.delete (-1))), .advance 1 (.readTable noClock)] ++
      submitSteps 1 "n" ++ [answerFrom "A" (snapshotAccepted "n")] ++ confirmSteps 1 ++
      createOnEmpty 2 "o")
    final.calls.length = 3 ∧
      (forall call, call ∈ final.calls -> call.phase.succeeded = true) ∧
        ¬ NeverReused final.events := by
  intro final
  have given : createdIds final.events "A" = [-1, -1] := by decide +kernel
  refine ⟨by decide +kernel, by decide +kernel, fun fresh => ?_⟩
  have distinct := (fresh "A").1
  rw [given] at distinct
  exact absurd distinct (by decide)

end Control
end PetlibroRelay
