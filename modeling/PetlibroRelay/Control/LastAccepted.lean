import PetlibroRelay.Control.AcceptedCalls
import PetlibroRelay.Control.ScheduleEdits

namespace PetlibroRelay
namespace Control

open Foundations
open Protocol
open Shadow
open Responder

/-!
# What the feeder last accepted

The slot of a device is released before the caller stores what the feeder
acknowledged, so a later command can be acknowledged and stored first.  If the
stores of overlapping commands keep the order of the acknowledgements, what is
stored in the end is what was acknowledged last.
-/

/-! ## Well-formed submissions -/

/-- The settings commands are those with settings to store, and an edit stores the
plans it submits. -/
structure Submission.Formed (submission : Submission) : Prop where
  command : forall values, submission.persistence = .settings values ->
    submission.command = Command.ATTR_SET_SERVICE
  settings : submission.command = Command.ATTR_SET_SERVICE ->
    exists values, submission.persistence = .settings values ∧ submission.values = values.entries
  plans : forall edit, submission.persistence = .schedule edit -> submission.plans = edit.plans

theorem formed_snapshotSubmission (clock : Clock) (controlName : String) (plans : List Plan)
    {persistence : Persistence} (unset : forall values, persistence ≠ .settings values)
    (same : forall edit, persistence = .schedule edit -> edit.plans = plans) :
    (snapshotSubmission clock controlName plans persistence).Formed where
  command := fun values sets => absurd sets (unset values)
  settings := by
    intro isSettings
    have different : Command.FEEDING_PLAN_SERVICE ≠ Command.ATTR_SET_SERVICE := by decide
    exact absurd isSettings different
  plans := by
    intro edit writes
    rw [plans_snapshotSubmission, same edit writes]

theorem Submission.Unscheduled.formed {submission : Submission}
    (kind : submission.Unscheduled) : submission.Formed where
  command := by
    intro values sets
    rcases kind with ⟨_, _, command, _⟩ | ⟨nothing, _⟩
    · exact command
    · rw [nothing] at sets
      cases sets
  settings := by
    intro command
    rcases kind with ⟨values, sets, _, same⟩ | ⟨_, other⟩
    · exact ⟨values, sets, same⟩
    · rw [other] at command
      exact absurd command (by decide)
  plans := fun edit writes => absurd writes (kind.not_schedule edit)

theorem formed_of_builds {shadow : StateShadow} {call : Call} {answer : Answer}
    {submission : Submission} (builds : call.Builds shadow answer submission) :
    submission.Formed := by
  cases builds with
  | unscheduled answer submission asks kind => exact kind.formed
  | edited clock request edit asks accepted =>
      refine formed_snapshotSubmission _ _ _ (fun _ sets => nomatch sets) ?_
      rintro _ ⟨⟩
      rfl
  | editedFallback clock request edit empty asks accepted =>
      refine formed_snapshotSubmission _ _ _ (fun _ sets => nomatch sets) ?_
      rintro _ ⟨⟩
      rfl
  | resynced clock asks =>
      exact formed_snapshotSubmission _ _ _ (fun _ sets => nomatch sets)
        (fun _ writes => nomatch writes)

/-! ## What a step stores -/

/-- Whether the event is a cloud snapshot merged into the schedule of the device. -/
def Event.mergesFor (deviceId : String) : Event -> Bool
  | .plansMerged owner _ => decide (owner = deviceId)
  | _ => false

/-- A step stores a confirmed command, or stores nothing and leaves the settings
and, cloud snapshots apart, the schedule alone. -/
theorem writtenBy_cases {loads : Loads} {controller after : Controller} {action : ControlAction}
    (effect : ControlEffect loads controller action after) :
    (writtenBy controller action = none ∧
      after.shadow.localConfirmed = controller.shadow.localConfirmed ∧
      forall deviceId, after.events.any (Event.mergesFor deviceId) = false ->
        forall id, after.shadow.planRow deviceId id = controller.shadow.planRow deviceId id) ∨
    exists number call registration, action = .persist number ∧
      controller.calls[number]? = some call ∧ call.phase = .confirmed registration ∧
      writtenBy controller action = some ⟨number, call.deviceId, registration.submission⟩ ∧
      registration.submission.persistence.write controller.shadow call.deviceId =
        some after.shadow := by
  cases effect with
  | stored number call registration shadow found ready written =>
      exact Or.inr ⟨number, call, registration, rfl, found, ready,
        writtenBy_of_stored found ready written, written⟩
  | notStored number call registration found ready raised =>
      refine Or.inl ⟨?_, rfl, fun _ _ _ => rfl⟩
      rw [writtenBy, found, Option.bind_some, ready]
      simp only [raised, Option.map_none]
  | merged owner plans shadow cachedBefore written =>
      refine Or.inl ⟨rfl, StateShadow.localConfirmed_cloud written, ?_⟩
      intro deviceId unmerged id
      refine (StateShadow.planRow_cloud written deviceId id).trans (if_neg ?_)
      rintro ⟨same, _⟩
      rw [List.any_append, Bool.or_eq_false_iff, List.any_cons, Bool.or_eq_false_iff,
        Event.mergesFor, decide_eq_false_iff_not] at unmerged
      exact unmerged.2.1 same.symm
  | learned deviceId topic payload taught =>
      cases known : lesson loads payload with
      | plans plans => exact absurd known (taught plans)
      | refused => exact Or.inl ⟨rfl, rfl, fun _ _ _ => rfl⟩
      | settings values => exact Or.inl ⟨rfl, rfl, fun _ _ _ => rfl⟩
      | nothing => exact Or.inl ⟨rfl, rfl, fun _ _ _ => rfl⟩
  | called => exact Or.inl ⟨rfl, rfl, fun _ _ _ => rfl⟩
  | advanced => exact Or.inl ⟨rfl, rfl, fun _ _ _ => rfl⟩
  | refused => exact Or.inl ⟨rfl, rfl, fun _ _ _ => rfl⟩
  | registered => exact Or.inl ⟨rfl, rfl, fun _ _ _ => rfl⟩
  | unmatched => exact Or.inl ⟨rfl, rfl, fun _ _ _ => rfl⟩
  | matched => exact Or.inl ⟨rfl, rfl, fun _ _ _ => rfl⟩
  | cleaned => exact Or.inl ⟨rfl, rfl, fun _ _ _ => rfl⟩
  | cached => exact Or.inl ⟨rfl, rfl, fun _ _ _ => rfl⟩
  | notMerged => exact Or.inl ⟨rfl, rfl, fun _ _ _ => rfl⟩

/-- The value of a setting after the write of a command. -/
theorem localConfirmed_write {shadow after : StateShadow} {issued : Issued}
    (formed : issued.submission.Formed)
    (written : issued.submission.persistence.write shadow issued.deviceId = some after)
    (deviceId key : String) :
    Dict.get? after.localConfirmed (deviceId, key) =
      if issued.carries deviceId key then Dict.get? issued.submission.values key
      else Dict.get? shadow.localConfirmed (deviceId, key) := by
  have unset : (forall values, issued.submission.persistence ≠ .settings values) ->
      issued.carries deviceId key = false := by
    intro others
    apply Bool.eq_false_iff.mpr
    intro carried
    rw [Issued.carries, Bool.and_eq_true, Bool.and_eq_true, decide_eq_true_eq,
      decide_eq_true_eq] at carried
    rcases formed.settings carried.1.2 with ⟨values, sets, _⟩
    exact others values sets
  cases kind : issued.submission.persistence with
  | settings values =>
      rw [kind] at written
      cases written
      have command := formed.command values kind
      rcases formed.settings command with ⟨same, sets, entries⟩
      cases kind.symm.trans sets
      refine (StateShadow.get?_updateKv _ _ _ values.unique deviceId key).trans ?_
      rw [Issued.carries, command, entries]
      by_cases own : deviceId = issued.deviceId
      · rw [if_pos own, decide_eq_true own.symm, decide_eq_true rfl, Bool.true_and, Bool.true_and]
        cases Dict.get? values.entries key with
        | none => rfl
        | some value => rfl
      · rw [if_neg own, decide_eq_false (fun same => own same.symm)]
        rfl
  | schedule edit =>
      rw [kind] at written
      rw [unset (fun values sets => by rw [kind] at sets; cases sets),
        StateShadow.localConfirmed_replace written]
      rfl
  | nothing =>
      rw [kind] at written
      cases written
      rw [unset (fun values sets => by rw [kind] at sets; cases sets)]
      rfl

/-- The schedule after the write of a command. -/
theorem planRow_write {shadow after : StateShadow} {issued : Issued}
    (formed : issued.submission.Formed)
    (written : issued.submission.persistence.write shadow issued.deviceId = some after)
    (deviceId : String) (id : Int) :
    after.planRow deviceId id =
      if issued.isEdit deviceId then StateShadow.snapshotRow issued.submission.plans id
      else shadow.planRow deviceId id := by
  cases kind : issued.submission.persistence with
  | schedule edit =>
      rw [kind] at written
      rw [StateShadow.planRow_replace written, Issued.isEdit, kind, formed.plans edit kind]
      by_cases own : deviceId = issued.deviceId
      · rw [if_pos own, decide_eq_true own.symm]
        rfl
      · rw [if_neg own, decide_eq_false (fun same => own same.symm)]
        rfl
  | settings values =>
      rw [kind] at written
      cases written
      rw [Issued.isEdit, kind, Bool.and_false]
      rfl
  | nothing =>
      rw [kind] at written
      cases written
      rw [Issued.isEdit, kind, Bool.and_false]
      rfl

/-! ## The log as a whole -/

/-- The command is the one its call was registered with. -/
def Issued.Of (controller : Controller) (issued : Issued) : Prop :=
  exists call registration, controller.calls[issued.call]? = some call ∧
    call.registration? = some registration ∧ call.deviceId = issued.deviceId ∧
    registration.submission = issued.submission

theorem Issued.Of.unique {controller : Controller} {first second : Issued}
    (firstOf : first.Of controller) (secondOf : second.Of controller)
    (same : first.call = second.call) : first = second := by
  rcases firstOf with ⟨call, registration, found, own, device, submission⟩
  rcases secondOf with ⟨otherCall, otherRegistration, otherFound, otherOwn, otherDevice,
    otherSubmission⟩
  rw [same] at found
  cases found.symm.trans otherFound
  cases own.symm.trans otherOwn
  cases first
  cases second
  cases same
  cases device
  cases otherDevice
  cases submission
  cases otherSubmission
  rfl

theorem Issued.Of.step {loads : Loads} {controller after : Controller} {action : ControlAction}
    {issued : Issued} (issuedOf : issued.Of controller)
    (effect : ControlEffect loads controller action after) : issued.Of after := by
  rcases issuedOf with ⟨call, registration, found, own, device, submission⟩
  rcases effect.keeps found with ⟨new, newFound, changed⟩
  exact ⟨new, registration, newFound, changed.registration_of_some own,
    changed.deviceId_eq.trans device, submission⟩

theorem mem_accepted_note {loads : Loads} {controller : Controller} {action : ControlAction}
    {log : AckLog} {issued : Issued}
    (member : issued ∈ (log.note loads controller action).accepted) :
    issued ∈ log.accepted ∨ acceptedBy loads controller action = some issued := by
  rcases List.mem_append.mp member with old | new
  · exact Or.inl old
  · exact Or.inr (Option.filter_eq_some_iff.mp (Option.mem_toList.mp new)).1

theorem mem_written_note {loads : Loads} {controller : Controller} {action : ControlAction}
    {log : AckLog} {issued : Issued}
    (member : issued ∈ (log.note loads controller action).written) :
    issued ∈ log.written ∨ writtenBy controller action = some issued := by
  rcases List.mem_append.mp member with old | new
  · exact Or.inl old
  · exact Or.inr (Option.mem_toList.mp new)

/-- The place of a command does not change. -/
theorem position_note (loads : Loads) (controller : Controller) (action : ControlAction)
    {log : AckLog} {issued : Issued} (member : issued ∈ log.accepted) :
    (log.note loads controller action).position issued = log.position issued := by
  rw [AckLog.position, AckLog.acceptedCalls, AckLog.note, List.map_append]
  exact List.idxOf_append_of_mem (List.mem_map_of_mem member)

theorem nodup_note (loads : Loads) (controller : Controller) (action : ControlAction)
    {log : AckLog} (once : log.acceptedCalls.Nodup) :
    (log.note loads controller action).acceptedCalls.Nodup := by
  rw [AckLog.acceptedCalls, AckLog.note, List.map_append]
  refine once.append ?_ ?_
  · cases (acceptedBy loads controller action).filter _ with
    | none => exact List.nodup_nil
    | some issued => exact List.nodup_singleton _
  · intro number old new
    rcases List.mem_map.mp new with ⟨issued, chosen, same⟩
    have fresh := (Option.filter_eq_some_iff.mp (Option.mem_toList.mp chosen)).2
    rw [decide_eq_true_eq, same] at fresh
    exact fresh old

/-- What the log, the calls and the tables have to do with each other. -/
structure Logged (state : Controller × AckLog) : Prop where
  coherent : Coherent state.1
  minted : Minted state.1
  formed : forall (number : Nat) (call : Call) submission, state.1.calls[number]? = some call ->
    call.phase.submission? = some submission -> submission.Formed
  calls : forall (number : Nat) (call : Call), state.1.calls[number]? = some call ->
    CallAccepted state.2 number call
  accepted : forall issued, issued ∈ state.2.accepted -> issued.Of state.1
  once : state.2.acceptedCalls.Nodup
  written : forall issued, issued ∈ state.2.written -> issued ∈ state.2.accepted
  ordered : state.2.written.Pairwise (fun first second =>
    first.overlaps second = true -> state.2.position first < state.2.position second)
  settings : forall deviceId key issued,
    lastWhere (Issued.carries deviceId key) state.2.written = some issued ->
    Dict.get? state.1.shadow.localConfirmed (deviceId, key) =
      Dict.get? issued.submission.values key
  rows : forall deviceId issued,
    lastWhere (Issued.isEdit deviceId) state.2.written = some issued ->
    state.1.events.any (Event.mergesFor deviceId) = false ->
    forall id, state.1.shadow.planRow deviceId id =
      StateShadow.snapshotRow issued.submission.plans id

theorem logged_initial (shadow : StateShadow) : Logged (Controller.initial shadow, {}) where
  coherent := coherent_initial shadow
  minted := minted_initial shadow
  formed := by
    intro number call submission found
    cases found
  calls := by
    intro number call found
    cases found
  accepted := by
    intro issued member
    cases member
  once := List.nodup_nil
  written := by
    intro issued member
    cases member
  ordered := List.Pairwise.nil
  settings := by
    intro deviceId key issued last
    cases last
  rows := by
    intro deviceId issued last
    cases last

section LoggedStep

variable {loads : Loads} {controller after : Controller} {log : AckLog} {action : ControlAction}

/-- A call that does not exist is in no log. -/
theorem Logged.unused (facts : Logged (controller, log)) {number : Nat}
    (missing : controller.calls[number]? = none) : number ∉ log.acceptedCalls := by
  intro member
  rcases List.mem_map.mp member with ⟨issued, inside, same⟩
  rcases facts.accepted issued inside with ⟨call, _, found, _⟩
  rw [same, missing] at found
  cases found

/-- The command of a call past the check of its code is in the log. -/
theorem Logged.mem_accepted (facts : Logged (controller, log)) {number : Nat} {call : Call}
    {registration : Registration} (found : controller.calls[number]? = some call)
    (own : call.phase.accepted? = some registration) :
    (⟨number, call.deviceId, registration.submission⟩ : Issued) ∈ log.accepted := by
  have known := (facts.calls number call found).sound registration own
  rcases List.mem_map.mp known with ⟨issued, inside, same⟩
  have mine : Issued.Of controller ⟨number, call.deviceId, registration.submission⟩ :=
    ⟨call, registration, found, Phase.registration_of_accepted own, rfl, rfl⟩
  rw [← (facts.accepted issued inside).unique mine same]
  exact inside

theorem logged_calls (facts : Logged (controller, log))
    (keeps : keepsOrder loads (controller, log) action = true)
    (effect : ControlEffect loads controller action after) {number : Nat} {new : Call}
    (found : after.calls[number]? = some new) :
    CallAccepted (log.note loads controller action) number new := by
  have more : number ∈ log.writtenCalls ->
      number ∈ (log.note loads controller action).writtenCalls :=
    fun old => mem_writtenCalls_note.mpr (Or.inl old)
  by_cases heard : exists deviceId topic payload, action = .observe deviceId topic payload
  · rcases heard with ⟨deviceId, topic, payload, same⟩
    subst action
    cases effect with
    | unmatched _ _ _ foreign =>
        refine (facts.calls number new found).later ?_ more
        rw [mem_acceptedCalls_note]
        constructor
        · rintro (old | ⟨issued, accepted, own⟩)
          · exact old
          · rw [← own]
            exact accepted_of_unmatched facts.coherent facts.minted keeps foreign accepted
        · exact Or.inl
    | matched _ _ _ ack other call registration read entry known own sameCommand =>
        have place := (getElem?_set_of_found known _ number).symm.trans found
        by_cases mine : other = number
        · subst other
          rw [if_pos rfl] at place
          cases place
          exact callAccepted_answer facts.coherent facts.minted (facts.calls number call known)
            known read entry own sameCommand keeps
        · rw [if_neg mine] at place
          refine (facts.calls number new place).later ?_ more
          rw [mem_acceptedCalls_note,
            acceptedBy_of_entry facts.coherent facts.minted read entry known own sameCommand]
          constructor
          · rintro (old | ⟨issued, accepted, same⟩)
            · exact old
            · split at accepted
              · cases accepted
                exact absurd same mine
              · cases accepted
          · exact Or.inl
  · have unheard : forall deviceId topic payload, action ≠ .observe deviceId topic payload :=
      fun deviceId topic payload same => heard ⟨deviceId, topic, payload, same⟩
    rcases effect.origin found with ⟨deviceId, request, isCall, last, fresh⟩ | ⟨call, known, changed⟩
    · rw [fresh]
      refine callAccepted_new ?_ deviceId request
      rw [mem_acceptedCalls_note, isCall]
      rintro (old | ⟨issued, accepted, _⟩)
      · refine facts.unused ?_ old
        rw [last]
        exact List.getElem?_eq_none (le_refl _)
      · cases accepted
    · exact callAccepted_effect changed known (facts.calls number call known) keeps unheard

/-- A stored command has been acknowledged, and no overlapping command stored
before it was acknowledged later. -/
theorem logged_written (facts : Logged (controller, log))
    (keeps : keepsOrder loads (controller, log) action = true) {issued : Issued}
    (effect : ControlEffect loads controller action after)
    (stores : writtenBy controller action = some issued) :
    issued ∈ log.accepted ∧ issued.submission.Formed ∧
      issued.submission.persistence.write controller.shadow issued.deviceId = some after.shadow ∧
      forall earlier, earlier ∈ log.written -> earlier.overlaps issued = true ->
        log.position earlier < log.position issued := by
  rcases writtenBy_cases effect with ⟨nothing, _⟩ |
    ⟨number, call, registration, isPersist, found, ready, same, written⟩
  · rw [nothing] at stores
    cases stores
  · rw [same] at stores
    cases stores
    subst isPersist
    have carried : call.phase.submission? = some registration.submission := by
      rw [ready]
      rfl
    refine ⟨facts.mem_accepted found ?_, facts.formed number call _ found carried, written,
      (fits_of_keepsOrder keeps found carried).2⟩
    rw [ready]
    rfl

theorem logged_step (facts : Logged (controller, log))
    (keeps : keepsOrder loads (controller, log) action = true)
    (effect : ControlEffect loads controller action after) :
    Logged (after, log.note loads controller action) := by
  constructor
  · exact coherent_step facts.coherent effect
  · exact minted_step facts.minted effect
  · intro number new submission found carried
    rcases effect.origin found with ⟨deviceId, request, _, _, fresh⟩ | ⟨call, known, changed⟩
    · rw [fresh] at carried
      cases carried
    · rcases changed.submission_eq carried with ⟨before, _⟩ | ⟨answer, _, builds, _⟩
      · exact facts.formed number call submission known before
      · exact formed_of_builds builds
  · exact fun number new found => logged_calls facts keeps effect found
  · intro issued member
    rcases mem_accepted_note member with old | new
    · exact (facts.accepted issued old).step effect
    · rcases acceptedBy_cases new with
        ⟨_, _, _, _, call, registration, _, _, _, found, own, _, _, device, submission⟩
      have before : issued.Of controller :=
        ⟨call, registration, found, own, device.symm, submission.symm⟩
      exact before.step effect
  · exact nodup_note loads controller action facts.once
  · intro issued member
    rcases mem_written_note member with old | new
    · exact List.mem_append_left _ (facts.written issued old)
    · exact List.mem_append_left _ (logged_written facts keeps effect new).1
  · -- Positions are those of the log before the step, for the old and the new command.
    refine List.pairwise_append.mpr ⟨?_, ?_, ?_⟩
    · refine facts.ordered.imp_of_mem ?_
      intro first second firstMember secondMember less overlap
      rw [position_note loads controller action (facts.written first firstMember),
        position_note loads controller action (facts.written second secondMember)]
      exact less overlap
    · cases writtenBy controller action with
      | none => exact List.Pairwise.nil
      | some issued => exact List.pairwise_singleton _ _
    · intro earlier earlierMember issued new overlap
      rcases logged_written facts keeps effect (Option.mem_toList.mp new) with
        ⟨known, _, _, ordered⟩
      rw [position_note loads controller action (facts.written earlier earlierMember),
        position_note loads controller action known]
      exact ordered earlier earlierMember overlap
  · intro deviceId key issued last
    cases stores : writtenBy controller action with
    | none =>
        rcases writtenBy_cases effect with ⟨_, same, _⟩ | ⟨_, _, _, _, _, _, some, _⟩
        · rw [AckLog.note, stores, Option.toList_none, List.append_nil] at last
          rw [same]
          exact facts.settings deviceId key issued last
        · rw [stores] at some
          cases some
    | some new =>
        rcases logged_written facts keeps effect stores with ⟨_, formed, written, _⟩
        rw [AckLog.note, stores, Option.toList_some, lastWhere_concat] at last
        rw [localConfirmed_write formed written]
        split at last
        · next carried =>
            cases last
            rw [if_pos carried]
        · next other =>
            rw [if_neg other]
            exact facts.settings deviceId key issued last
  · intro deviceId issued last unmerged id
    have before : controller.events.any (Event.mergesFor deviceId) = false := by
      rcases effect.events_grow with ⟨more, grown, _⟩
      rw [grown, List.any_append, Bool.or_eq_false_iff] at unmerged
      exact unmerged.1
    cases stores : writtenBy controller action with
    | none =>
        rcases writtenBy_cases effect with ⟨_, _, same⟩ | ⟨_, _, _, _, _, _, some, _⟩
        · rw [AckLog.note, stores, Option.toList_none, List.append_nil] at last
          rw [same deviceId unmerged id]
          exact facts.rows deviceId issued last before id
        · rw [stores] at some
          cases some
    | some new =>
        rcases logged_written facts keeps effect stores with ⟨_, formed, written, _⟩
        rw [AckLog.note, stores, Option.toList_some, lastWhere_concat] at last
        rw [planRow_write formed written]
        split at last
        · next edits =>
            cases last
            rw [if_pos edits]
        · next other =>
            rw [if_neg other]
            exact facts.rows deviceId issued last before id

end LoggedStep

theorem logged_run (loads : Loads) (shadow : StateShadow) (actions : List ControlAction)
    (ordered : (loggedMachine loads).Meets
      (fun state action => keepsOrder loads state action = true) (.initial shadow, {}) actions) :
    Logged ((loggedMachine loads).run (.initial shadow, {}) actions) := by
  refine (loggedMachine loads).run_invariant_of_meets _ Logged ?_ _ actions
    (logged_initial shadow) ordered
  intro state action next facts keeps step
  rcases Option.map_eq_some_iff.mp step with ⟨after, enabled, same⟩
  rw [← same]
  exact logged_step facts keeps (controlEffect_of_step enabled)

/-- Whether all calls of the device have returned. -/
def Controller.allReturned (controller : Controller) (deviceId : String) : Bool :=
  controller.calls.all (fun call => decide (call.deviceId ≠ deviceId) || call.phase.isReturned)

/-- Once all calls have returned, what was acknowledged is stored. -/
theorem Logged.mem_written {controller : Controller} {log : AckLog}
    (facts : Logged (controller, log)) {issued : Issued} (member : issued ∈ log.accepted)
    (ended : controller.allReturned issued.deviceId = true) : issued ∈ log.written := by
  rcases facts.accepted issued member with ⟨call, registration, found, own, device, submission⟩
  have known := facts.calls issued.call call found
  have returned : call.phase.isReturned = true := by
    rw [Controller.allReturned, List.all_eq_true] at ended
    have inside := ended call (List.mem_of_getElem? found)
    rw [Bool.or_eq_true, decide_eq_true_eq] at inside
    exact inside.resolve_left (fun different => different device)
  have track := known.kept (List.mem_map_of_mem member)
  have stored : issued.call ∈ log.writtenCalls := by
    cases phase : call.phase with
    | returned mine result =>
        rw [phase] at track
        cases mine with
        | none => cases track
        | some mine =>
            cases result with
            | error problem => cases track
            | ok reply => exact known.stored mine reply phase
    | _ =>
        rw [phase] at returned
        cases returned
  rcases List.mem_map.mp stored with ⟨other, inside, same⟩
  rw [← (facts.accepted other (facts.written other inside)).unique
    (facts.accepted issued member) same]
  exact inside

/-- The log of acknowledgements is in the order of its positions. -/
theorem Logged.accepted_ordered {state : Controller × AckLog} (facts : Logged state) :
    state.2.accepted.Pairwise (fun earlier later =>
      state.2.position earlier < state.2.position later) := by
  have once := facts.once
  rw [List.pairwise_iff_getElem]
  intro first second firstInside secondInside less
  have placed : forall (index : Nat) (inside : index < state.2.accepted.length),
      state.2.position state.2.accepted[index] = index := by
    intro index inside
    have inCalls : index < state.2.acceptedCalls.length := by
      rw [AckLog.acceptedCalls, List.length_map]
      exact inside
    have same : state.2.accepted[index].call = state.2.acceptedCalls[index] := by
      simp only [AckLog.acceptedCalls, List.getElem_map]
    rw [AckLog.position, same, once.idxOf_getElem]
  rw [placed first firstInside, placed second secondInside]
  exact less

namespace Issued

variable {deviceId key : String} {first second : Issued}

theorem deviceId_of_carries (carried : first.carries deviceId key = true) :
    first.deviceId = deviceId := by
  rw [carries, Bool.and_eq_true, Bool.and_eq_true, decide_eq_true_eq] at carried
  exact carried.1.1

theorem deviceId_of_isEdit (edits : first.isEdit deviceId = true) :
    first.deviceId = deviceId := by
  rw [isEdit, Bool.and_eq_true, decide_eq_true_eq] at edits
  exact edits.1

theorem overlaps_of_carries (firstCarries : first.carries deviceId key = true)
    (secondCarries : second.carries deviceId key = true) : first.overlaps second = true := by
  have valued := (Bool.and_eq_true _ _ ▸ firstCarries).2
  rcases Option.isSome_iff_exists.mp valued with ⟨value, found⟩
  rw [overlaps, Bool.or_eq_true, deviceId_of_carries secondCarries, List.any_eq_true]
  refine Or.inr ⟨key, List.mem_map_of_mem (Dict.mem_of_get?_eq_some found), ?_⟩
  rw [firstCarries, secondCarries]
  rfl

theorem overlaps_of_isEdit (firstEdits : first.isEdit deviceId = true)
    (secondEdits : second.isEdit deviceId = true) : first.overlaps second = true := by
  rw [overlaps, Bool.or_eq_true, deviceId_of_isEdit secondEdits, firstEdits, secondEdits]
  exact Or.inl rfl

end Issued

/-- The last stored command of a kind is the last acknowledged one. -/
theorem Logged.last_eq {controller : Controller} {log : AckLog}
    (facts : Logged (controller, log)) {deviceId : String} {selected : Issued -> Bool}
    (ended : controller.allReturned deviceId = true)
    (owned : forall issued, selected issued = true -> issued.deviceId = deviceId)
    (overlap : forall first second, selected first = true -> selected second = true ->
      first.overlaps second = true) :
    lastWhere selected log.written = lastWhere selected log.accepted := by
  apply lastWhere_eq_of_ordered log.position
  · exact fun issued member _ => facts.written issued member
  · intro issued found
    obtain ⟨member, holds⟩ := mem_of_lastWhere found
    refine facts.mem_written member ?_
    rw [owned issued holds]
    exact ended
  · exact facts.ordered.imp (fun ordered firstHolds secondHolds =>
      Nat.le_of_lt (ordered (overlap _ _ firstHolds secondHolds)))
  · exact facts.accepted_ordered

/-- In every run that keeps the order, once all calls of a device have returned:
the stored value of a setting is that of the last acknowledged command carrying
it, and, unless a cloud snapshot was merged, the schedule is the last
acknowledged snapshot of an edit. -/
theorem stored_is_last_accepted (loads : Loads) (shadow : StateShadow)
    (actions : List ControlAction)
    (ordered : (loggedMachine loads).Meets
      (fun state action => keepsOrder loads state action = true) (.initial shadow, {}) actions)
    (deviceId : String)
    (ended : ((loggedMachine loads).run (.initial shadow, {}) actions).1.allReturned deviceId =
      true) :
    let final := (loggedMachine loads).run (.initial shadow, {}) actions
    (forall key issued, lastWhere (Issued.carries deviceId key) final.2.accepted = some issued ->
      Dict.get? final.1.shadow.localConfirmed (deviceId, key) =
        Dict.get? issued.submission.values key) ∧
    (final.1.events.any (Event.mergesFor deviceId) = false ->
      forall issued, lastWhere (Issued.isEdit deviceId) final.2.accepted = some issued ->
      forall id, final.1.shadow.planRow deviceId id =
        StateShadow.snapshotRow issued.submission.plans id) := by
  intro final
  have facts : Logged (final.1, final.2) := logged_run loads shadow actions ordered
  constructor
  · intro key issued last
    refine facts.settings deviceId key issued ?_
    rw [← last]
    exact facts.last_eq ended (fun _ => Issued.deviceId_of_carries)
      (fun _ _ => Issued.overlaps_of_carries)
  · intro unmerged issued last
    refine facts.rows deviceId issued ?_ unmerged
    rw [← last]
    exact facts.last_eq ended (fun _ => Issued.deviceId_of_isEdit)
      (fun _ _ => Issued.overlaps_of_isEdit)

/-! ## A stale write -/

/-- A call that sets the bowl mode of device `A`, up to its confirmation. -/
def bowlModeAccepted (number : Nat) (msgId mode : String) (answer : List UInt8) :
    List ControlAction :=
  [.call "A" (.setGroup "bowl" [("bowlMode", .str mode)] true), .advance number (.build noClock)] ++
    submitSteps number msgId ++
    [answerFrom "A" answer, .advance number .wake, .advance number .readType,
      .advance number .readCode, .cleanUp number]

def firstAcceptance : List UInt8 :=
  utf8 "\x7b\"cmd\":\"ATTR_SET_SERVICE\",\"msgId\":\"m\",\"code\":0\x7d"

def secondAcceptance : List UInt8 :=
  utf8 "\x7b\"cmd\":\"ATTR_SET_SERVICE\",\"msgId\":\"n\",\"code\":0\x7d"

/-- The decoder, as far as these answers are concerned. -/
def loadsAcceptances : Loads := fun payload =>
  let answer := fun msgId : String =>
    some (Json.obj [("cmd", .str "ATTR_SET_SERVICE"), ("msgId", .str msgId), ("code", .int 0)])
  if payload = firstAcceptance then answer "m"
  else if payload = secondAcceptance then answer "n"
  else none

/-- The mode the feeder was last told and accepted. -/
def AckLog.bowlMode (log : AckLog) : Option Json :=
  (lastWhere (Issued.carries "A" "bowlMode") log.accepted).bind
    (fun issued => Dict.get? issued.submission.values "bowlMode")

/-- The first call is confirmed and loses the processor before its write.  The
second call is confirmed and stored.  Then the first call stores its older value. -/
theorem older_value_stored_last :
    let final := (loggedMachine loadsAcceptances).run (.initial {}, {})
      (bowlModeAccepted 0 "m" "single" firstAcceptance ++
        bowlModeAccepted 1 "n" "dual" secondAcceptance ++ [.persist 1, .persist 0])
    final.1.allReturned "A" = true ∧ final.2.bowlMode = some (.str "dual") ∧
      Dict.get? final.1.shadow.localConfirmed ("A", "bowlMode") = some (.str "single") := by
  decide +kernel

/-- The same calls, stored in the order of their acknowledgements. -/
theorem stored_is_last_accepted_in_order :
    let final := (loggedMachine loadsAcceptances).run (.initial {}, {})
      (bowlModeAccepted 0 "m" "single" firstAcceptance ++
        bowlModeAccepted 1 "n" "dual" secondAcceptance ++ [.persist 0, .persist 1])
    forall key issued, lastWhere (Issued.carries "A" key) final.2.accepted = some issued ->
      Dict.get? final.1.shadow.localConfirmed ("A", key) =
        Dict.get? issued.submission.values key :=
  (stored_is_last_accepted loadsAcceptances {} _ (by decide +kernel) "A" (by decide +kernel)).1

end Control
end PetlibroRelay
