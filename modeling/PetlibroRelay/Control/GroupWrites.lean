import PetlibroRelay.Control.DerivedSettings
import PetlibroRelay.Control.Transactions

namespace PetlibroRelay
namespace Control

open Foundations
open Protocol
open Shadow

/-!
# Settings calls stay in their group

A settings call reads the desired settings and the confirmed ones at two moments, with
other calls and cloud messages in between.  Whatever the two tables hold then, what is
published is made of the allowed fields of the group and the protocol's own, and what is
stored after the acknowledgement is what was published.

A local time that cannot be read ends the call before it is registered.  That includes
times from the tables, but only those in the group and never in a minimal call.
-/

/-- The controller after a sequence of steps. -/
def controllerAfter (loads : Loads) (shadow : StateShadow) (actions : List ControlAction) :
    Controller :=
  (controllerMachine loads).run (.initial shadow) actions

theorem controllerAfter_concat (loads : Loads) (shadow : StateShadow)
    (actions : List ControlAction) (action : ControlAction) :
    controllerAfter loads shadow (actions ++ [action]) =
      (controllerMachine loads).next (controllerAfter loads shadow actions) action := by
  rw [controllerAfter, Machine.run_append, Machine.run_cons, Machine.run_nil]
  rfl

/-- The desired settings are those of a moment at which the call took the step to read them. -/
def DesiredRead (loads : Loads) (shadow : StateShadow) (before : List ControlAction)
    (number : Nat) (deviceId : String) (desired : Dict String Json) : Prop :=
  exists early later, before = early ++ .advance number .readDesired :: later ∧
    desired = (controllerAfter loads shadow early).shadow.getDesired deviceId

/-- The two tables as the call has read them.  It takes the step to read the confirmed
settings while it holds the desired ones. -/
def TablesRead (loads : Loads) (shadow : StateShadow) (actions : List ControlAction)
    (number : Nat) (deviceId : String) (allowed : List String)
    (desired confirmed : Dict String Json) : Prop :=
  exists before clock rest, actions = before ++ .advance number (.readConfirmed clock) :: rest ∧
    DesiredRead loads shadow before number deviceId desired ∧
    ((controllerAfter loads shadow before).calls[number]?).map Call.phase =
      some (.desiredRead allowed desired) ∧
    confirmed = (controllerAfter loads shadow before).shadow.getLocalConfirmed deviceId

/-- A submission of a settings call, from the tables it has read unless it is minimal. -/
def SubmitsGroup (loads : Loads) (shadow : StateShadow) (actions : List ControlAction)
    (number : Nat) (deviceId groupName : String) (updates : Dict String Json) (minimal : Bool)
    (submission : Submission) : Prop :=
  exists clock allowed desired confirmed,
    allowedFields groupName updates = .ok allowed ∧
    (minimal = false ->
      TablesRead loads shadow actions number deviceId allowed desired confirmed) ∧
    settingsSubmission clock (knownSettings minimal allowed desired confirmed updates) updates =
      .ok submission

/-- The settings of a registered call were stored in one step, after the acknowledgement,
and nothing else was. -/
def StoredOnce (loads : Loads) (shadow : StateShadow) (actions : List ControlAction)
    (number : Nat) (deviceId : String) (registration : Registration) : Prop :=
  exists before rest, actions = before ++ .persist number :: rest ∧
    (controllerAfter loads shadow (before ++ [.persist number])).shadow =
      (controllerAfter loads shadow before).shadow.updateLocalConfirmed deviceId
        registration.publishedSettings ∧
    Confirms (controllerAfter loads shadow before).shadow
      (controllerAfter loads shadow (before ++ [.persist number])).shadow deviceId
      registration.published

/-! ## Later in the run -/

section Later

variable {loads : Loads} {shadow : StateShadow} {actions : List ControlAction} {number : Nat}
  {deviceId groupName : String} {updates : Dict String Json} {minimal : Bool}

theorem DesiredRead.later {desired : Dict String Json}
    (read : DesiredRead loads shadow actions number deviceId desired) (action : ControlAction) :
    DesiredRead loads shadow (actions ++ [action]) number deviceId desired := by
  obtain ⟨early, later, rfl, same⟩ := read
  exact ⟨early, later ++ [action], List.append_assoc _ _ _, same⟩

theorem SubmitsGroup.later {submission : Submission}
    (submits : SubmitsGroup loads shadow actions number deviceId groupName updates minimal
      submission) (action : ControlAction) :
    SubmitsGroup loads shadow (actions ++ [action]) number deviceId groupName updates minimal
      submission := by
  obtain ⟨clock, allowed, desired, confirmed, permitted, read, built⟩ := submits
  refine ⟨clock, allowed, desired, confirmed, permitted, fun merges => ?_, built⟩
  obtain ⟨before, readClock, rest, rfl, facts⟩ := read merges
  exact ⟨before, readClock, rest ++ [action], List.append_assoc _ _ _, facts⟩

theorem StoredOnce.later {registration : Registration}
    (stored : StoredOnce loads shadow actions number deviceId registration)
    (action : ControlAction) :
    StoredOnce loads shadow (actions ++ [action]) number deviceId registration := by
  obtain ⟨before, rest, rfl, written⟩ := stored
  exact ⟨before, rest ++ [action], List.append_assoc _ _ _, written⟩

theorem SubmitsGroup.staysInGroup {registration : Registration}
    (submits : SubmitsGroup loads shadow actions number deviceId groupName updates minimal
      registration.submission) :
    exists allowed desired confirmed,
      Dict.get? GROUP_FIELDS groupName = some allowed ∧
      (minimal = false ->
        TablesRead loads shadow actions number deviceId allowed desired confirmed) ∧
      StaysInGroup allowed updates (startingSettings minimal allowed desired confirmed updates)
        registration := by
  obtain ⟨clock, allowed, desired, confirmed, permitted, read, built⟩ := submits
  exact ⟨allowed, desired, confirmed, (allowedFields_ok permitted).1, read,
    Control.staysInGroup permitted built⟩

end Later

/-! ## One step -/

/-- How a settings call comes to its submission. -/
inductive Call.BuildsGroup (shadow : StateShadow) (call : Call) (groupName : String)
    (updates : Dict String Json) : Bool -> Answer -> Submission -> Prop where
  | minimal (clock : Clock) (allowed : List String) (submission : Submission)
      (permitted : allowedFields groupName updates = .ok allowed)
      (built : settingsSubmission clock (Settings.empty.update updates) updates =
        .ok submission) :
      BuildsGroup shadow call groupName updates true (.build clock) submission
  | merged (minimal : Bool) (clock : Clock) (allowed : List String) (desired : Dict String Json)
      (submission : Submission) (read : call.phase = .desiredRead allowed desired)
      (built : settingsSubmission clock (knownSettings false allowed desired
        (shadow.getLocalConfirmed call.deviceId) updates) updates = .ok submission) :
      BuildsGroup shadow call groupName updates minimal (.readConfirmed clock) submission

section Steps

variable {shadow : StateShadow} {call : Call} {groupName : String} {updates : Dict String Json}
  {minimal : Bool} {answer : Answer} {phase : Phase}

theorem advance_group_submission (asks : call.request = .setGroup groupName updates minimal)
    (moves : call.advance shadow answer = some phase) {submission : Submission}
    (carries : phase.submission? = some submission) :
    call.phase.submission? = some submission ∨
      call.BuildsGroup shadow groupName updates minimal answer submission := by
  rcases advance_cases moves with early | ⟨registration, before, after, flies, same, _⟩
  · cases early with
    | unscheduled answer built untimed notRead others kind =>
        right
        rcases notRead with begins | ⟨allowed, desired, begins⟩
        · cases answer <;> cases minimal <;>
            simp only [Call.advance, begins, asks, reduceCtorEq, Option.some.injEq] at moves
          case build.true clock =>
            rw [← moves] at carries
            obtain ⟨allowed, permitted, made⟩ := bind_ok (submission_ofSubmission carries)
            exact .minimal clock allowed submission permitted made
          case readDesired.false =>
            -- The read of the first table submits nothing.
            rw [submission_ofSubmission carries] at moves
            split at moves <;> cases moves
        · cases answer <;>
            simp only [Call.advance, begins, asks, reduceCtorEq, Option.some.injEq] at moves
          case readConfirmed clock =>
            rw [← moves] at carries
            exact .merged minimal clock allowed desired submission begins
              (submission_ofSubmission carries)
    | tableRead clock request begins isEdit known =>
        rw [asks] at isEdit
        cases isEdit
    | fallbackRead clock request empty isEdit =>
        rw [asks] at isEdit
        cases isEdit
    | resynced clock begins resyncs =>
        rw [asks] at resyncs
        cases resyncs
    | bridged other productId built =>
        cases carries
        rw [built]
        exact Or.inl rfl
    | present other online bridged =>
        cases carries
        rw [bridged]
        exact Or.inl rfl
    | desired => cases carries
    | emptyTable => cases carries
    | skipped => cases carries
    | failed => cases carries
  · left
    rw [flies]
    rw [same] at carries
    exact carries

theorem desiredRead_ne_ofSubmission (allowed : List String) (desired : Dict String Json)
    (built : Except ControlError Submission) :
    Phase.desiredRead allowed desired ≠ Phase.ofSubmission built := by
  cases built with
  | ok submission => exact fun same => nomatch same
  | error problem => exact fun same => nomatch same

/-- A call holds desired settings once it has read them in a step that merges. -/
theorem advance_group_desired (asks : call.request = .setGroup groupName updates minimal)
    (moves : call.advance shadow answer = some phase) {allowed : List String}
    {desired : Dict String Json} (holds : phase = .desiredRead allowed desired) :
    minimal = false ∧ answer = .readDesired ∧ allowedFields groupName updates = .ok allowed ∧
      desired = shadow.getDesired call.deviceId := by
  subst phase
  rcases advance_cases moves with early | ⟨registration, before, after, flies, same, _⟩
  · generalize shape : Phase.desiredRead allowed desired = target at early
    cases early with
    | desired other begins =>
        cases shape
        cases minimal with
        | true =>
            simp only [Call.advance, begins, asks, reduceCtorEq] at moves
        | false =>
            simp only [Call.advance, begins, asks] at moves
            split at moves
            · next permitted =>
                cases moves
                exact ⟨rfl, rfl, permitted, rfl⟩
            · cases moves
    | unscheduled answer built => exact absurd shape (desiredRead_ne_ofSubmission _ _ _)
    | tableRead clock request => exact absurd shape (desiredRead_ne_ofSubmission _ _ _)
    | fallbackRead clock request => exact absurd shape (desiredRead_ne_ofSubmission _ _ _)
    | resynced => cases shape
    | bridged => cases shape
    | present => cases shape
    | emptyTable => cases shape
    | skipped => cases shape
    | failed => cases shape
  · cases same

end Steps

/-! ## Every run -/

/-- What is known of a settings call after a sequence of steps. -/
structure GroupCall (loads : Loads) (shadow : StateShadow) (actions : List ControlAction)
    (number : Nat) (groupName : String) (updates : Dict String Json) (minimal : Bool)
    (call : Call) : Prop where
  read : forall allowed desired, call.phase = .desiredRead allowed desired ->
    minimal = false ∧ allowedFields groupName updates = .ok allowed ∧
      DesiredRead loads shadow actions number call.deviceId desired
  carried : forall submission, call.phase.submission? = some submission ->
    SubmitsGroup loads shadow actions number call.deviceId groupName updates minimal submission
  registered : forall registration, call.registration? = some registration ->
    SubmitsGroup loads shadow actions number call.deviceId groupName updates minimal
      registration.submission
  stored : forall registration reply, call.phase = .returned (some registration) (.ok reply) ->
    StoredOnce loads shadow actions number call.deviceId registration

section Runs

variable {loads : Loads} {shadow : StateShadow} {actions : List ControlAction} {number : Nat}
  {groupName : String} {updates : Dict String Json} {minimal : Bool} {call new : Call}
  {action : ControlAction}

theorem groupCall_begun (deviceId : String) (request : Request) :
    GroupCall loads shadow actions number groupName updates minimal
      { deviceId := deviceId, request := request } where
  read := fun _ _ holds => nomatch holds
  carried := fun _ carries => nomatch carries
  registered := fun _ own => nomatch own
  stored := fun _ _ returned => nomatch returned

/-- A call that looks the same is known as much later on. -/
theorem GroupCall.later
    (facts : GroupCall loads shadow actions number groupName updates minimal call)
    (action : ControlAction) (device : new.deviceId = call.deviceId)
    (same : new.phase = call.phase) :
    GroupCall loads shadow (actions ++ [action]) number groupName updates minimal new := by
  constructor
  · intro allowed desired holds
    obtain ⟨merges, permitted, read⟩ := facts.read allowed desired (same ▸ holds)
    rw [device]
    exact ⟨merges, permitted, read.later action⟩
  · intro submission carries
    rw [device]
    exact (facts.carried submission (same ▸ carries)).later action
  · intro registration own
    rw [Call.registration?, same] at own
    rw [device]
    exact (facts.registered registration own).later action
  · intro registration reply returned
    rw [device]
    exact (facts.stored registration reply (same ▸ returned)).later action

/-- The submission a settings call has built. -/
theorem submitsGroup_of_builds {answer : Answer} {submission : Submission}
    (facts : GroupCall loads shadow actions number groupName updates minimal call)
    (found : (controllerAfter loads shadow actions).calls[number]? = some call)
    (builds : call.BuildsGroup (controllerAfter loads shadow actions).shadow groupName updates
      minimal answer submission) :
    SubmitsGroup loads shadow (actions ++ [.advance number answer]) number call.deviceId groupName
      updates minimal submission := by
  cases builds with
  | minimal clock allowed submission permitted built =>
      exact ⟨clock, allowed, [], [], permitted, fun merges => (nomatch merges), built⟩
  | merged _ clock allowed desired submission holds built =>
      obtain ⟨merges, permitted, read⟩ := facts.read allowed desired holds
      subst minimal
      refine ⟨clock, allowed, desired, _, permitted, fun _ => ?_, built⟩
      refine ⟨actions, clock, [], rfl, read, ?_, rfl⟩
      rw [found, Option.map_some, holds]

theorem shadow_persist {controller : Controller} {registration : Registration}
    {after : StateShadow} (found : controller.calls[number]? = some call)
    (ready : call.phase = .confirmed registration)
    (written : registration.submission.persistence.write controller.shadow call.deviceId =
      some after) :
    ((controllerMachine loads).next controller (.persist number)).shadow = after := by
  have step : (controllerMachine loads).step controller (.persist number) =
      controller.persist number := rfl
  rw [Machine.next, step, Controller.persist, found]
  simp only [ready, written, Option.getD_some]

/-- The write of a settings call. -/
theorem storedOnce_persist {registration : Registration} {after : StateShadow}
    (facts : GroupCall loads shadow actions number groupName updates minimal call)
    (found : (controllerAfter loads shadow actions).calls[number]? = some call)
    (ready : call.phase = .confirmed registration)
    (written : registration.submission.persistence.write
      (controllerAfter loads shadow actions).shadow call.deviceId = some after) :
    StoredOnce loads shadow (actions ++ [.persist number]) number call.deviceId registration := by
  have own : call.registration? = some registration := by
    rw [Call.registration?, ready]
    rfl
  obtain ⟨_, _, _, _, _, stays⟩ := (facts.registered registration own).staysInGroup
  have same := Option.some.inj (written.symm.trans (stays.stores _ _))
  refine ⟨actions, [], rfl, ?_, ?_⟩
  · rw [controllerAfter_concat, shadow_persist found ready written]
    exact same
  · rw [controllerAfter_concat, shadow_persist found ready written, same]
    exact stays.confirms _ _

/-- A call in or after its transaction is known through its registration. -/
theorem groupCall_of_registration {registration : Registration}
    (own : new.registration? = some registration)
    (submits : SubmitsGroup loads shadow actions number new.deviceId groupName updates minimal
      registration.submission)
    (stored : forall reply, new.phase = .returned (some registration) (.ok reply) ->
      StoredOnce loads shadow actions number new.deviceId registration) :
    GroupCall loads shadow actions number groupName updates minimal new := by
  rw [Call.registration?] at own
  constructor
  · intro allowed desired holds
    rw [holds] at own
    cases own
  · intro submission carries
    cases phase : new.phase with
    | inFlight mine progress =>
        rw [phase] at own carries
        cases own
        cases carries
        exact submits
    | confirmed mine =>
        rw [phase] at own carries
        cases own
        cases carries
        exact submits
    | returned mine result =>
        rw [phase] at carries
        cases carries
    | _ =>
        rw [phase] at own
        cases own
  · intro other same
    rw [Call.registration?, own] at same
    cases same
    exact submits
  · intro other reply returned
    rw [returned] at own
    cases own
    exact stored reply returned

theorem groupCall_effect (asks : call.request = .setGroup groupName updates minimal)
    (facts : GroupCall loads shadow actions number groupName updates minimal call)
    (found : (controllerAfter loads shadow actions).calls[number]? = some call)
    (effect : CallEffect loads (controllerAfter loads shadow actions) number call action new) :
    GroupCall loads shadow (actions ++ [action]) number groupName updates minimal new := by
  cases effect with
  | unchanged action => exact facts.later action rfl rfl
  | answered deviceId topic payload => exact facts.later _ rfl rfl
  | advanced answer phase moves =>
      constructor
      · intro allowed desired holds
        obtain ⟨merges, rfl, permitted, same⟩ := advance_group_desired asks moves holds
        exact ⟨merges, permitted, actions, [], rfl, same⟩
      · intro submission carries
        rcases advance_group_submission asks moves carries with before | builds
        · exact (facts.carried submission before).later _
        · have submits := submitsGroup_of_builds facts found builds
          exact submits
      · intro registration own
        exact (facts.registered registration ((registration_advance moves).symm.trans own)).later _
      · intro registration reply returned
        replace returned : phase = .returned (some registration) (.ok reply) := returned
        rcases advance_cases moves with early | ⟨_, _, _, _, same, _⟩
        · have unregistered := early.unregistered
          rw [returned] at unregistered
          cases unregistered
        · rw [returned] at same
          cases same
  | refused msgId submission ready =>
      exact ⟨fun _ _ holds => (by cases holds), fun _ carries => (by cases carries),
        fun _ own => (by cases own), fun _ _ returned => (by cases returned)⟩
  | registered msgId submission registration ready made =>
      have carried : call.phase.submission? = some registration.submission := by
        rw [ready, made]
        rfl
      exact groupCall_of_registration rfl ((facts.carried _ carried).later _)
        (fun _ returned => by cases returned)
  | cleaned registration result leaving =>
      have own : call.registration? = some registration := by
        rw [Call.registration?, leaving]
        rfl
      refine groupCall_of_registration (registration.registration_afterCleanUp result)
        ((facts.registered _ own).later _) ?_
      intro reply returned
      cases result <;> cases returned
  | stored registration after ready written =>
      have own : call.registration? = some registration := by
        rw [Call.registration?, ready]
        rfl
      have once := storedOnce_persist facts found ready written
      exact groupCall_of_registration rfl ((facts.registered _ own).later _) (fun _ _ => once)
  | notStored registration ready raised =>
      have own : call.registration? = some registration := by
        rw [Call.registration?, ready]
        rfl
      exact groupCall_of_registration rfl ((facts.registered _ own).later _)
        (fun _ returned => by cases returned)

theorem groupCall_run (found : (controllerAfter loads shadow actions).calls[number]? = some call)
    (asks : call.request = .setGroup groupName updates minimal) :
    GroupCall loads shadow actions number groupName updates minimal call := by
  induction actions using List.reverseRecOn generalizing call with
  | nil => cases found
  | append_singleton earlier action inductionHypothesis =>
      rw [controllerAfter_concat] at found
      rcases (controllerMachine loads).next_cases (controllerAfter loads shadow earlier) action with
        refused | enabled
      · rw [refused] at found
        exact (inductionHypothesis found asks).later action rfl rfl
      · rcases (controlEffect_of_step enabled).origin found with
          ⟨deviceId, request, _, _, rfl⟩ | ⟨before, known, effect⟩
        · exact groupCall_begun deviceId request
        · rw [effect.request_eq] at asks
          exact groupCall_effect asks (inductionHypothesis known asks) known effect

/-! ## What is left alone -/

/-- A call keeps its device and its request, and what it has returned. -/
theorem kept_run {controller : Controller} (found : controller.calls[number]? = some call)
    (actions : List ControlAction) :
    exists later, ((controllerMachine loads).run controller actions).calls[number]? = some later ∧
      later.deviceId = call.deviceId ∧ later.request = call.request ∧
      forall registration result, call.phase = .returned registration result ->
        later.phase = .returned registration result := by
  refine (controllerMachine loads).run_invariant
    (fun state => exists later, state.calls[number]? = some later ∧
      later.deviceId = call.deviceId ∧ later.request = call.request ∧
      forall registration result, call.phase = .returned registration result ->
        later.phase = .returned registration result)
    ?_ controller actions ⟨call, found, rfl, rfl, fun _ _ returned => returned⟩
  rintro state action after ⟨old, known, device, request, stays⟩ step
  obtain ⟨later, laterFound, effect⟩ := (controlEffect_of_step step).keeps known
  refine ⟨later, laterFound, effect.deviceId_eq.trans device, effect.request_eq.trans request, ?_⟩
  intro registration result returned
  exact effect.returned_stays (stays registration result returned)

theorem controllerAfter_split (before rest : List ControlAction) :
    controllerAfter loads shadow (before ++ action :: rest) =
      (controllerMachine loads).run (controllerAfter loads shadow (before ++ [action])) rest := by
  rw [controllerAfter, controllerAfter, ← Machine.run_append, List.append_assoc,
    List.singleton_append]

/-- The only step of a settings call that writes stores what was published, and makes the call
succeed. -/
theorem shadow_of_group_step {before rest : List ControlAction}
    (found : (controllerAfter loads shadow (before ++ action :: rest)).calls[number]? = some call)
    (asks : call.request = .setGroup groupName updates minimal)
    (own : action.owner? = some number) :
    (controllerAfter loads shadow (before ++ [action])).shadow =
        (controllerAfter loads shadow before).shadow ∨
      exists registration reply, call.phase = .returned (some registration) (.ok reply) ∧
        (controllerAfter loads shadow (before ++ [action])).shadow =
          (controllerAfter loads shadow before).shadow.updateLocalConfirmed call.deviceId
            registration.publishedSettings := by
  rw [controllerAfter_split] at found
  rw [controllerAfter_concat] at found ⊢
  rcases (controllerMachine loads).next_cases (controllerAfter loads shadow before) action with
    refused | enabled
  · rw [refused]
    exact Or.inl rfl
  · rcases write_of_step (controlEffect_of_step enabled) own with
      same | ⟨old, registration, known, ready, written, finished⟩
    · exact Or.inl same
    · right
      obtain ⟨later, laterFound, device, request, stays⟩ :=
        @kept_run loads number _ _ finished rest
      cases found.symm.trans laterFound
      have mine : old.registration? = some registration := by
        rw [Call.registration?, ready]
        rfl
      have submits := (groupCall_run known (request.symm.trans asks)).registered registration mine
      obtain ⟨_, _, _, _, _, inside⟩ := submits.staysInGroup
      refine ⟨registration, _, stays _ _ rfl, ?_⟩
      rw [device]
      exact Option.some.inj (written.symm.trans (inside.stores _ _))

/-- A request for a field outside the group, or a call that starts from a local time that
cannot be read. -/
def Unacceptable (loads : Loads) (shadow : StateShadow) (actions : List ControlAction)
    (number : Nat) (deviceId groupName : String) (updates : Dict String Json) (minimal : Bool) :
    Prop :=
  (exists allowed key, Dict.get? GROUP_FIELDS groupName = some allowed ∧
    key ∈ Dict.keys updates ∧ key ∉ allowed) ∨
  exists allowed desired confirmed pair text,
    Dict.get? GROUP_FIELDS groupName = some allowed ∧
    (minimal = false ->
      TablesRead loads shadow actions number deviceId allowed desired confirmed) ∧
    pair ∈ TIME_PAIRS ∧
    (startingSettings minimal allowed desired confirmed updates).get? pair.1 = some (.str text) ∧
    forall time, parseTime text ≠ .ok time

/-- The step that reads the second table ends a call that starts from a malformed time. -/
theorem advance_malformed {allowed : List String} {desired : Dict String Json} {clock : Clock}
    (asks : call.request = .setGroup groupName updates minimal)
    (holds : call.phase = .desiredRead allowed desired) {pair : String × String} {text : String}
    (member : pair ∈ TIME_PAIRS)
    (starts : (startingSettings false allowed desired
      (shadow.getLocalConfirmed call.deviceId) updates).get? pair.1 = some (.str text))
    (malformed : forall time, parseTime text ≠ .ok time) :
    exists problem, call.advance shadow (.readConfirmed clock) =
      some (.returned none (.error problem)) := by
  have step : call.advance shadow (.readConfirmed clock) =
      some (Phase.ofSubmission (settingsSubmission clock (knownSettings false allowed desired
        (shadow.getLocalConfirmed call.deviceId) updates) updates)) := by
    simp only [Call.advance, holds, asks]
    rfl
  rw [step]
  cases built : settingsSubmission clock (knownSettings false allowed desired
      (shadow.getLocalConfirmed call.deviceId) updates) updates with
  | error problem => exact ⟨problem, rfl⟩
  | ok submission =>
      obtain ⟨values, done, _⟩ := bind_ok built
      obtain ⟨time, parsed⟩ := (groupValues_spec done).1 pair text member starts
      exact absurd parsed (malformed time)

/-- After that step the call has returned for good. -/
theorem returned_of_malformed {controller : Controller} {old : Call} {allowed : List String}
    {desired : Dict String Json} {clock : Clock} {rest : List ControlAction}
    (oldFound : controller.calls[number]? = some old)
    (holds : old.phase = .desiredRead allowed desired)
    (found : ((controllerMachine loads).run ((controllerMachine loads).next controller
      (.advance number (.readConfirmed clock))) rest).calls[number]? = some call)
    (asks : call.request = .setGroup groupName updates minimal) {pair : String × String}
    {text : String} (member : pair ∈ TIME_PAIRS)
    (starts : (startingSettings false allowed desired
      (controller.shadow.getLocalConfirmed call.deviceId) updates).get? pair.1 =
        some (.str text))
    (malformed : forall time, parseTime text ≠ .ok time) :
    exists problem, call.phase = .returned none (.error problem) := by
  obtain ⟨later, laterFound, device, request, _⟩ := @kept_run loads number old controller oldFound
    (.advance number (.readConfirmed clock) :: rest)
  rw [Machine.run_cons] at laterFound
  cases found.symm.trans laterFound
  rw [device] at starts
  obtain ⟨problem, moves⟩ := @advance_malformed controller.shadow groupName updates minimal old
    allowed desired clock (request.symm.trans asks) holds pair text member starts malformed
  have next : (controllerMachine loads).next controller (.advance number (.readConfirmed clock)) =
      controller.setCall number (old.moved (.readConfirmed clock) (.returned none (.error problem))
        controller.events) := by
    have step : (controllerMachine loads).step controller
        (.advance number (.readConfirmed clock)) = controllerStep loads controller
          (.advance number (.readConfirmed clock)) := rfl
    rw [Machine.next, step, controllerStep, oldFound]
    simp only [moves, Option.map_some, Option.getD_some]
  rw [next] at found
  have moved : (controller.setCall number (old.moved (.readConfirmed clock)
      (.returned none (.error problem)) controller.events)).calls[number]? =
        some (old.moved (.readConfirmed clock) (.returned none (.error problem))
          controller.events) :=
    (getElem?_set_of_found oldFound _ number).trans (if_pos rfl)
  obtain ⟨last, lastFound, _, _, stays⟩ := @kept_run loads number _ _ moved rest
  cases found.symm.trans lastFound
  exact ⟨problem, stays _ _ rfl⟩

theorem unregistered_of_unacceptable
    (found : (controllerAfter loads shadow actions).calls[number]? = some call)
    (asks : call.request = .setGroup groupName updates minimal)
    (bad : Unacceptable loads shadow actions number call.deviceId groupName updates minimal) :
    call.registration? = none := by
  cases own : call.registration? with
  | none => rfl
  | some registration =>
      obtain ⟨allowed, desired, confirmed, known, _, inside⟩ :=
        ((groupCall_run found asks).registered registration own).staysInGroup
      rcases bad with ⟨other, key, same, member, outside⟩ |
        ⟨other, desiredToo, confirmedToo, pair, text, same, read, member, starts, malformed⟩
      · cases known.symm.trans same
        exact absurd (inside.requested.2 key member) outside
      · cases known.symm.trans same
        cases minimal with
        | true =>
            obtain ⟨time, parsed⟩ := inside.times pair text member starts
            exact absurd parsed (malformed time)
        | false =>
            obtain ⟨before, clock, rest, rfl, _, holds, rfl⟩ := read rfl
            obtain ⟨old, oldFound, holds⟩ := Option.map_eq_some_iff.mp holds
            rw [controllerAfter_split, controllerAfter_concat] at found
            obtain ⟨problem, ended⟩ :=
              returned_of_malformed oldFound holds found asks member starts malformed
            rw [Call.registration?, ended] at own
            cases own

end Runs

/-- In every run, for every settings call and whatever the two tables hold: what is
registered for publication consists of the protocol's own fields and allowed ones, with every
requested value that is not derived; a call that has succeeded has stored exactly the
published settings; no other step of it writes; and a call that asks for more than its group,
or starts from a malformed time, is never registered. -/
theorem settings_stay_in_group (loads : Loads) (shadow : StateShadow)
    (actions : List ControlAction) {number : Nat} {call : Call} {groupName : String}
    {updates : Dict String Json} {minimal : Bool}
    (found : (controllerAfter loads shadow actions).calls[number]? = some call)
    (asks : call.request = .setGroup groupName updates minimal) :
    (forall registration, call.registration? = some registration ->
      exists allowed desired confirmed,
        Dict.get? GROUP_FIELDS groupName = some allowed ∧
        (minimal = false ->
          TablesRead loads shadow actions number call.deviceId allowed desired confirmed) ∧
        StaysInGroup allowed updates (startingSettings minimal allowed desired confirmed updates)
          registration) ∧
    (forall registration reply, call.phase = .returned (some registration) (.ok reply) ->
      StoredOnce loads shadow actions number call.deviceId registration) ∧
    (forall before action rest, actions = before ++ action :: rest ->
      action.owner? = some number ->
      (controllerAfter loads shadow (before ++ [action])).shadow =
          (controllerAfter loads shadow before).shadow ∨
        exists registration reply, call.phase = .returned (some registration) (.ok reply) ∧
          (controllerAfter loads shadow (before ++ [action])).shadow =
            (controllerAfter loads shadow before).shadow.updateLocalConfirmed call.deviceId
              registration.publishedSettings) ∧
    (Unacceptable loads shadow actions number call.deviceId groupName updates minimal ->
      call.registration? = none) := by
  have facts := groupCall_run found asks
  refine ⟨?_, facts.stored, ?_, unregistered_of_unacceptable found asks⟩
  · intro registration own
    exact (facts.registered registration own).staysInGroup
  · rintro before action rest rfl own
    exact shadow_of_group_step found asks own

/-- Quiet hours the cloud has pushed, beside a setting called like a field of the envelope. -/
def quietHours : StateShadow where
  cloudDesired := [(("A", "soundStartTime"), .str "22:00"), (("A", "soundEndTime"), .str "7:30"),
    (("A", "cmd"), .str "REBOOT")]

/-- Sound is switched on, and the feeder accepts. -/
def soundSteps : List ControlAction :=
  [.advance 0 .readDesired, .advance 0 (.readConfirmed noClock)] ++ submitSteps 0 "m" ++
    [answerFrom "A" acceptance] ++ confirmSteps 0

theorem sound_call_stays_in_group :
    let actions := .call "A" (.setGroup "sound" [("soundSwitch", .bool true)] false) :: soundSteps
    exists call registration,
      (controllerAfter loadsAnswers quietHours actions).calls[0]? = some call ∧
      call.registration? = some registration ∧
      (exists allowed desired confirmed, Dict.get? GROUP_FIELDS "sound" = some allowed ∧
        StaysInGroup allowed [("soundSwitch", .bool true)]
          (startingSettings false allowed desired confirmed [("soundSwitch", .bool true)])
          registration) ∧
      StoredOnce loadsAnswers quietHours actions 0 call.deviceId registration := by
  intro actions
  have begun : (controllerAfter loadsAnswers quietHours
      [.call "A" (.setGroup "sound" [("soundSwitch", .bool true)] false)]).calls[0]? =
        some { deviceId := "A"
               request := .setGroup "sound" [("soundSwitch", .bool true)] false } := rfl
  obtain ⟨call, found, _, asks, _⟩ := @kept_run loadsAnswers 0 _ _ begun soundSteps
  have succeeded : ((controllerAfter loadsAnswers quietHours actions).calls[0]?).any
      (fun call => call.phase.succeeded) = true := by
    decide +kernel
  have shown := settings_stay_in_group loadsAnswers quietHours actions found asks
  have known : (controllerAfter loadsAnswers quietHours actions).calls[0]? = some call := found
  rw [known, Option.any_some] at succeeded
  cases phase : call.phase with
  | returned own result =>
      cases own with
      | none =>
          rw [phase] at succeeded
          cases succeeded
      | some registration =>
          cases result with
          | error problem =>
              rw [phase] at succeeded
              cases succeeded
          | ok reply =>
              have own : call.registration? = some registration := by
                rw [Call.registration?, phase]
                rfl
              obtain ⟨allowed, desired, confirmed, group, _, inside⟩ := shown.1 registration own
              exact ⟨call, registration, found, own, ⟨allowed, desired, confirmed, group, inside⟩,
                shown.2.1 registration reply phase⟩
  | _ =>
      rw [phase] at succeeded
      cases succeeded

end Control
end PetlibroRelay
