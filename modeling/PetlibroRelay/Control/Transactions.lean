import PetlibroRelay.Control.Steps

namespace PetlibroRelay
namespace Control

open Foundations
open Protocol
open Shadow
open Responder

/-!
# Control transactions

One device has at most one command in flight, every way out of a call takes its
own entry and mark away and nobody else's, and only a call that succeeds writes.

That a successful call was acknowledged with code zero is another matter.  The
waiter reads the code twice without the lock.  An answer that arrives between
the two reads can supply an integer to the first read and a value that merely
equals zero to the second.
-/

/-! ## Entries and marks -/

/-- The key of the pending entry a call in flight has. -/
def Call.flightKey? (call : Call) : Option (String × String) :=
  match call.phase with
  | .inFlight registration _ => some (call.deviceId, registration.msgId)
  | _ => none

theorem Call.flightKey_of_isEarly {call : Call} (early : call.phase.isEarly = true) :
    call.flightKey? = none := by
  unfold Call.flightKey?
  split
  · next flies =>
      rw [flies] at early
      cases early
  · rfl

theorem Call.flightKey_of_inFlight {call : Call} {registration : Registration}
    {progress : Progress} (flies : call.phase = .inFlight registration progress) :
    call.flightKey? = some (call.deviceId, registration.msgId) := by
  rw [Call.flightKey?, flies]

theorem flightKey_advance {shadow : StateShadow} {call : Call} {answer : Answer} {phase : Phase}
    (moves : call.advance shadow answer = some phase) (events : List Event) :
    (call.moved answer phase events).flightKey? = call.flightKey? := by
  rcases advance_cases moves with early | ⟨registration, before, after, own, same, _⟩
  · rw [Call.flightKey_of_isEarly early.isEarly]
    have grounded := early.unregistered
    unfold Call.flightKey? Call.moved
    cases phase with
    | inFlight => cases grounded
    | _ => rfl
  · rw [Call.flightKey?, Call.flightKey?, own, Call.moved, same]

/-- Pending entries are the flights, active devices are those with an entry, and
no device has two. -/
structure Coherent (controller : Controller) : Prop where
  entries : Indexed Call.flightKey? controller.pending controller.calls
  active : forall deviceId, deviceId ∈ controller.active ↔
    exists msgId number, Dict.get? controller.pending (deviceId, msgId) = some number
  single : forall deviceId first second number other,
    Dict.get? controller.pending (deviceId, first) = some number ->
    Dict.get? controller.pending (deviceId, second) = some other -> first = second
  unique : (Dict.keys controller.pending).Nodup

theorem coherent_initial (shadow : StateShadow) : Coherent (Controller.initial shadow) where
  entries := by
    intro key number
    constructor
    · intro found
      cases found
    · intro flies
      cases flies
  active := by
    intro deviceId
    constructor
    · intro member
      cases member
    · rintro ⟨_, _, found⟩
      cases found
  single := by
    intro deviceId first second number other found
    cases found
  unique := List.nodup_nil

/-- Coherence reads the entries, the marks and the flights. -/
theorem Coherent.of_same {controller after : Controller} (coherent : Coherent controller)
    (pending : after.pending = controller.pending) (active : after.active = controller.active)
    (flights : viewOf Call.flightKey? after.calls = viewOf Call.flightKey? controller.calls) :
    Coherent after where
  entries := by
    rw [pending]
    exact coherent.entries.of_same flights
  active := by
    rw [pending, active]
    exact coherent.active
  single := by
    rw [pending]
    exact coherent.single
  unique := by
    rw [pending]
    exact coherent.unique

/-- A call takes the free slot of its device. -/
theorem Coherent.registers {controller : Controller} (coherent : Coherent controller)
    {number : Nat} {call new : Call} {submission : Submission} {msgId : String}
    {minted : Dict (String × String) Nat} (found : controller.calls[number]? = some call)
    (ready : call.phase = .online submission) (free : call.deviceId ∉ controller.active)
    (flies : new.flightKey? = some (call.deviceId, msgId)) :
    Coherent { controller with
      pending := Dict.set controller.pending (call.deviceId, msgId) number
      active := call.deviceId :: controller.active
      minted := minted
      calls := controller.calls.set number new } := by
  have unused : forall other taken,
      Dict.get? controller.pending (call.deviceId, other) ≠ some taken := by
    intro other taken entry
    exact free ((coherent.active _).mpr ⟨other, taken, entry⟩)
  constructor
  · refine coherent.entries.set found ?_ (unused msgId) flies
    rw [Call.flightKey?, ready]
  · intro deviceId
    simp only [List.mem_cons, Dict.get?_set, coherent.active]
    constructor
    · rintro (same | ⟨other, taken, entry⟩)
      · exact ⟨msgId, number, if_pos (by rw [same])⟩
      · refine ⟨other, taken, ?_⟩
        rw [if_neg]
        · exact entry
        · intro same
          cases same
          exact unused _ _ entry
    · rintro ⟨other, taken, entry⟩
      by_cases same : (call.deviceId, msgId) = (deviceId, other)
      · exact Or.inl (congrArg Prod.fst same).symm
      · rw [if_neg same] at entry
        exact Or.inr ⟨other, taken, entry⟩
  · intro deviceId first second one two firstEntry secondEntry
    rw [Dict.get?_set] at firstEntry secondEntry
    by_cases firstNew : (call.deviceId, msgId) = (deviceId, first)
    · by_cases secondNew : (call.deviceId, msgId) = (deviceId, second)
      · exact (congrArg Prod.snd firstNew).symm.trans (congrArg Prod.snd secondNew)
      · rw [if_neg secondNew] at secondEntry
        cases firstNew
        exact absurd secondEntry (unused _ _)
    · rw [if_neg firstNew] at firstEntry
      by_cases secondNew : (call.deviceId, msgId) = (deviceId, second)
      · cases secondNew
        exact absurd firstEntry (unused _ _)
      · rw [if_neg secondNew] at secondEntry
        exact coherent.single _ _ _ _ _ firstEntry secondEntry
  · exact Dict.nodup_keys_set _ _ _ coherent.unique

/-- A call takes its entry and the mark of its device away. -/
theorem Coherent.cleansUp {controller : Controller} (coherent : Coherent controller)
    {number : Nat} {call new : Call} {msgId : String}
    (found : controller.calls[number]? = some call)
    (flies : call.flightKey? = some (call.deviceId, msgId)) (landed : new.flightKey? = none) :
    Coherent { controller with
      pending := Dict.erase controller.pending (call.deviceId, msgId)
      active := controller.active.filter (fun deviceId => decide (deviceId ≠ call.deviceId))
      calls := controller.calls.set number new } := by
  have mine : Dict.get? controller.pending (call.deviceId, msgId) = some number := by
    rw [coherent.entries, viewOf, found, Option.bind_some, flies]
  constructor
  · exact coherent.entries.erase found flies landed
  · intro deviceId
    simp only [List.mem_filter, decide_eq_true_eq, coherent.active, Dict.get?_erase]
    constructor
    · rintro ⟨⟨other, taken, entry⟩, different⟩
      refine ⟨other, taken, ?_⟩
      rw [if_neg]
      · exact entry
      · intro same
        exact different (congrArg Prod.fst same).symm
    · rintro ⟨other, taken, entry⟩
      split at entry
      · cases entry
      · next different =>
          refine ⟨⟨other, taken, entry⟩, fun same => different ?_⟩
          subst deviceId
          rw [coherent.single _ _ _ _ _ mine entry]
  · intro deviceId first second one two firstEntry secondEntry
    rw [Dict.get?_erase] at firstEntry secondEntry
    split at firstEntry
    · cases firstEntry
    · split at secondEntry
      · cases secondEntry
      · exact coherent.single _ _ _ _ _ firstEntry secondEntry
  · exact (List.filter_sublist.map Prod.fst).nodup coherent.unique

theorem coherent_step {loads : Loads} {controller after : Controller} {action : ControlAction}
    (coherent : Coherent controller) (effect : ControlEffect loads controller action after) :
    Coherent after := by
  cases effect with
  | called deviceId request => exact coherent.of_same rfl rfl (viewOf_concat _ rfl)
  | advanced number answer call phase found moves =>
      exact coherent.of_same rfl rfl
        (viewOf_set_same found (flightKey_advance moves controller.events))
  | refused number msgId call submission found ready taken =>
      refine coherent.of_same rfl rfl (viewOf_set_same found ?_)
      rw [Call.flightKey?, Call.flightKey?, ready]
      rfl
  | registered number msgId call submission registration found ready free fresh made =>
      exact coherent.registers found ready free (by rw [Call.flightKey_of_inFlight rfl, made])
  | unmatched deviceId topic payload foreign => exact coherent.of_same rfl rfl rfl
  | matched deviceId topic payload ack number call registration read entry found own sameCommand =>
      exact coherent.of_same rfl rfl (viewOf_set_same found rfl)
  | cleaned number call registration result found leaving =>
      refine coherent.cleansUp found (Call.flightKey_of_inFlight leaving) ?_
      cases result <;> rfl
  | stored number call registration shadow found ready written =>
      refine coherent.of_same rfl rfl (viewOf_set_same found ?_)
      rw [Call.flightKey?, Call.flightKey?, ready]
      rfl
  | notStored number call registration found ready raised =>
      refine coherent.of_same rfl rfl (viewOf_set_same found ?_)
      rw [Call.flightKey?, Call.flightKey?, ready]
      rfl
  | cached deviceId topic payload plans taught => exact coherent.of_same rfl rfl rfl
  | learned deviceId topic payload taught => exact coherent.of_same rfl rfl rfl
  | merged deviceId plans shadow cachedBefore written => exact coherent.of_same rfl rfl rfl
  | notMerged deviceId plans cachedBefore raised => exact coherent.of_same rfl rfl rfl

theorem coherent_run (loads : Loads) (shadow : StateShadow) (actions : List ControlAction) :
    Coherent ((controllerMachine loads).run (.initial shadow) actions) :=
  (controllerMachine loads).run_invariant Coherent
    (fun _ _ _ coherent step => coherent_step coherent (controlEffect_of_step step))
    _ actions (coherent_initial shadow)

/-! ## Minted identifiers -/

/-- The key a call was registered under, in flight or not. -/
def Call.mintKey? (call : Call) : Option (String × String) :=
  call.registration?.map (fun registration => (call.deviceId, registration.msgId))

theorem Call.mintKey_of_registration {call : Call} {registration : Registration}
    (own : call.registration? = some registration) :
    call.mintKey? = some (call.deviceId, registration.msgId) := by
  rw [Call.mintKey?, own, Option.map_some]

/-- Every minted identifier belongs to the call that was registered with it. -/
def Minted (controller : Controller) : Prop :=
  Indexed Call.mintKey? controller.minted controller.calls

theorem minted_initial (shadow : StateShadow) : Minted (Controller.initial shadow) := by
  intro key number
  constructor
  · intro found
    cases found
  · intro seen
    cases seen

theorem minted_step {loads : Loads} {controller after : Controller} {action : ControlAction}
    (minted : Minted controller) (effect : ControlEffect loads controller action after) :
    Minted after := by
  cases effect with
  | called => exact minted.of_same (viewOf_concat _ rfl)
  | advanced number answer call phase found moves =>
      refine minted.of_same (viewOf_set_same found ?_)
      rw [Call.mintKey?, Call.mintKey?, ← registration_advance moves]
      rfl
  | refused number msgId call submission found ready taken =>
      refine minted.of_same (viewOf_set_same found ?_)
      rw [Call.mintKey?, Call.mintKey?, Call.registration?, Call.registration?, ready]
      rfl
  | registered number msgId call submission registration found ready free fresh made =>
      refine minted.set found ?_ ?_ ?_
      · rw [Call.mintKey?, Call.registration?, ready]
        rfl
      · intro other taken
        exact fresh _ (List.mem_map_of_mem (Dict.mem_of_get?_eq_some taken)) rfl
      · rw [made]
        rfl
  | unmatched => exact minted
  | matched deviceId topic payload ack number call registration read entry found own same =>
      exact minted.of_same (viewOf_set_same found rfl)
  | cleaned number call registration result found leaving =>
      refine minted.of_same (viewOf_set_same found ?_)
      rw [Call.mintKey?, Call.mintKey?, Call.registration?, Call.registration?,
        registration.registration_afterCleanUp, leaving]
      rfl
  | stored number call registration shadow found ready written =>
      refine minted.of_same (viewOf_set_same found ?_)
      rw [Call.mintKey?, Call.mintKey?, Call.registration?, Call.registration?, ready]
      rfl
  | notStored number call registration found ready raised =>
      refine minted.of_same (viewOf_set_same found ?_)
      rw [Call.mintKey?, Call.mintKey?, Call.registration?, Call.registration?, ready]
      rfl
  | cached => exact minted
  | learned => exact minted
  | merged => exact minted
  | notMerged => exact minted

theorem minted_run (loads : Loads) (shadow : StateShadow) (actions : List ControlAction) :
    Minted ((controllerMachine loads).run (.initial shadow) actions) :=
  (controllerMachine loads).run_invariant Minted
    (fun _ _ _ minted step => minted_step minted (controlEffect_of_step step))
    _ actions (minted_initial shadow)

/-- The entry of a call in flight is under the key it was registered with. -/
theorem Coherent.minted_of_entry {controller : Controller} (coherent : Coherent controller)
    (minted : Minted controller) {key : String × String} {number : Nat}
    (entry : Dict.get? controller.pending key = some number) :
    Dict.get? controller.minted key = some number := by
  rcases Option.bind_eq_some_iff.mp ((coherent.entries key number).mp entry) with
    ⟨call, found, flies⟩
  rw [minted, viewOf, found, Option.bind_some]
  unfold Call.flightKey? at flies
  split at flies
  · next registration progress phase =>
      have own : call.registration? = some registration := by
        rw [Call.registration?, phase]
        rfl
      rw [Call.mintKey_of_registration own]
      exact flies
  · cases flies

/-! ## One entry for each active device -/

/-- The pending entries of one device. -/
def Controller.entriesOf (controller : Controller) (deviceId : String) :
    Dict (String × String) Nat :=
  controller.pending.filter (fun entry => decide (entry.1.1 = deviceId))

/-- No device has two entries. -/
theorem Coherent.entriesOf_le {controller : Controller} (coherent : Coherent controller)
    (deviceId : String) : (controller.entriesOf deviceId).length ≤ 1 := by
  have keysUnique : (Dict.keys (controller.entriesOf deviceId)).Nodup :=
    (List.filter_sublist.map Prod.fst).nodup coherent.unique
  have inside : forall entry, entry ∈ controller.entriesOf deviceId ->
      Dict.get? controller.pending (deviceId, entry.1.2) = some entry.2 := by
    intro entry member
    rcases List.mem_filter.mp member with ⟨old, own⟩
    rw [← of_decide_eq_true own]
    exact Dict.get?_eq_some_of_mem coherent.unique old
  match shape : controller.entriesOf deviceId with
  | [] => exact Nat.zero_le 1
  | [_] => exact le_refl 1
  | first :: second :: rest =>
      exfalso
      rw [shape] at keysUnique inside
      have sameMsgId := coherent.single deviceId _ _ _ _ (inside first List.mem_cons_self)
        (inside second (List.mem_cons_of_mem _ List.mem_cons_self))
      have ownDevice : forall entry, entry ∈ first :: second :: rest -> entry.1.1 = deviceId := by
        intro entry member
        rw [← shape] at member
        exact of_decide_eq_true (List.mem_filter.mp member).2
      have sameKey : first.1 = second.1 := Prod.ext
        ((ownDevice first List.mem_cons_self).trans
          (ownDevice second (List.mem_cons_of_mem _ List.mem_cons_self)).symm) sameMsgId
      refine (List.nodup_cons.mp keysUnique).1 ?_
      rw [sameKey]
      exact List.mem_cons_self

/-- A device is active exactly when it has one entry. -/
theorem Coherent.active_iff {controller : Controller} (coherent : Coherent controller)
    (deviceId : String) :
    deviceId ∈ controller.active ↔ (controller.entriesOf deviceId).length = 1 := by
  have bound := coherent.entriesOf_le deviceId
  rw [coherent.active]
  constructor
  · rintro ⟨msgId, number, found⟩
    have member : ((deviceId, msgId), number) ∈ controller.entriesOf deviceId :=
      List.mem_filter.mpr ⟨Dict.mem_of_get?_eq_some found, decide_eq_true rfl⟩
    have positive := List.length_pos_of_mem member
    omega
  · intro one
    rcases List.length_eq_one_iff.mp one with ⟨entry, shape⟩
    have member : entry ∈ controller.entriesOf deviceId := by
      rw [shape]
      exact List.mem_cons_self
    rcases List.mem_filter.mp member with ⟨old, own⟩
    refine ⟨entry.1.2, entry.2, ?_⟩
    rw [← of_decide_eq_true own]
    exact Dict.get?_eq_some_of_mem coherent.unique old

/-! ## Whose step it is -/

/-- The call that takes the step, if it is a step of a call. -/
def ControlAction.owner? : ControlAction -> Option Nat
  | .advance number _ => some number
  | .register number _ => some number
  | .cleanUp number => some number
  | .persist number => some number
  | _ => none

/-- An entry is only removed by its own call. -/
theorem entry_stays {loads : Loads} {controller after : Controller} {action : ControlAction}
    (coherent : Coherent controller) (effect : ControlEffect loads controller action after)
    {key : String × String} {number : Nat}
    (entry : Dict.get? controller.pending key = some number)
    (foreign : action.owner? ≠ some number) :
    Dict.get? after.pending key = some number := by
  cases effect with
  | registered other msgId call submission registration found ready free fresh made =>
      refine (Dict.get?_set_of_ne _ _ (fun same => free ?_)).trans entry
      refine (coherent.active _).mpr ⟨msgId, number, ?_⟩
      rw [same]
      exact entry
  | cleaned other call registration result found leaving =>
      refine (Dict.get?_erase_of_ne _ (fun same => foreign ?_)).trans entry
      have own : Dict.get? controller.pending key = some other := by
        rw [coherent.entries, viewOf, found, Option.bind_some, Call.flightKey_of_inFlight leaving,
          same]
      replace own := own.symm.trans entry
      rw [ControlAction.owner?, Option.some.inj own]
  | called => exact entry
  | advanced => exact entry
  | refused => exact entry
  | unmatched => exact entry
  | matched => exact entry
  | stored => exact entry
  | notStored => exact entry
  | cached => exact entry
  | learned => exact entry
  | merged => exact entry
  | notMerged => exact entry

/-- A step of a call leaves the shadow alone or is the write of what was confirmed, after
which the call has succeeded. -/
theorem write_of_step {loads : Loads} {controller after : Controller} {action : ControlAction}
    (effect : ControlEffect loads controller action after) {number : Nat}
    (own : action.owner? = some number) :
    after.shadow = controller.shadow ∨
      exists call registration, controller.calls[number]? = some call ∧
        call.phase = .confirmed registration ∧
        registration.submission.persistence.write controller.shadow call.deviceId =
          some after.shadow ∧
        after.calls[number]? = some
          (call.finished registration (.ok (registration.submission.reply call.request))) := by
  cases effect with
  | stored other call registration shadow found ready written =>
      cases own
      refine Or.inr ⟨call, registration, found, ready, written, ?_⟩
      exact (getElem?_set_of_found found _ _).trans (if_pos rfl)
  | called => cases own
  | advanced => exact Or.inl rfl
  | refused => exact Or.inl rfl
  | registered => exact Or.inl rfl
  | unmatched => cases own
  | matched => cases own
  | cleaned => exact Or.inl rfl
  | notStored => exact Or.inl rfl
  | cached => cases own
  | learned => cases own
  | merged => cases own
  | notMerged => cases own

/-- A step of a call writes to the shadow only in making the call succeed. -/
theorem shadow_of_step {loads : Loads} {controller after : Controller} {action : ControlAction}
    (effect : ControlEffect loads controller action after) {number : Nat}
    (own : action.owner? = some number) :
    after.shadow = controller.shadow ∨
      exists call registration reply, after.calls[number]? = some call ∧
        call.phase = .returned (some registration) (.ok reply) := by
  rcases write_of_step effect own with same | ⟨call, registration, _, _, _, returned⟩
  · exact Or.inl same
  · exact Or.inr ⟨_, registration, _, returned, rfl⟩

/-- A call that has returned stays as it is for the rest of the run. -/
theorem returned_run (loads : Loads) {controller : Controller} {number : Nat} {call : Call}
    {registration : Option Registration} {result : Result}
    (found : controller.calls[number]? = some call)
    (returned : call.phase = .returned registration result) (actions : List ControlAction) :
    exists new, ((controllerMachine loads).run controller actions).calls[number]? = some new ∧
      new.phase = .returned registration result := by
  refine (controllerMachine loads).run_invariant
    (fun state => exists new, state.calls[number]? = some new ∧
      new.phase = .returned registration result) ?_ controller actions ⟨call, found, returned⟩
  rintro state action after ⟨old, oldFound, oldReturned⟩ step
  rcases (controlEffect_of_step step).keeps oldFound with ⟨new, newFound, effect⟩
  exact ⟨new, newFound, effect.returned_stays oldReturned⟩

/-- No step of a call that ends in an error changes the shadow. -/
theorem shadow_of_failed (loads : Loads) (controller : Controller)
    (before : List ControlAction) (action : ControlAction) (rest : List ControlAction)
    {number : Nat} {call : Call} {registration : Option Registration} {problem : ControlError}
    (own : action.owner? = some number)
    (found : ((controllerMachine loads).run controller
      (before ++ action :: rest)).calls[number]? = some call)
    (failed : call.phase = .returned registration (.error problem)) :
    ((controllerMachine loads).run controller (before ++ [action])).shadow =
      ((controllerMachine loads).run controller before).shadow := by
  rw [Machine.run_append, Machine.run_cons] at found
  rw [Machine.run_append, Machine.run_cons, Machine.run_nil]
  rcases (controllerMachine loads).next_cases ((controllerMachine loads).run controller before)
    action with refused | step
  · rw [refused]
  · rcases shadow_of_step (controlEffect_of_step step) own with same |
      ⟨done, doneRegistration, reply, doneFound, returned⟩
    · exact same
    · rcases returned_run loads doneFound returned rest with ⟨last, lastFound, lastReturned⟩
      cases found.symm.trans lastFound
      rw [failed] at lastReturned
      cases lastReturned

/-! ## Acknowledged calls -/

/-- Whether the event is a message of the device that answers the transaction
with the code. -/
def Event.acknowledges (loads : Loads) (deviceId : String) (registration : Registration)
    (code : Json) : Event -> Bool
  | .arrived owner topic payload =>
      decide (owner = deviceId) &&
        decide (acknowledgement? loads owner topic payload =
          some ⟨registration.msgId, registration.submission.command, code⟩)
  | _ => false

/-- Whether such a message arrived after the registration. -/
def acknowledged (loads : Loads) (events : List Event) (deviceId : String)
    (registration : Registration) (code : Json) : Bool :=
  (events.drop registration.eventsBefore).any
    (Event.acknowledges loads deviceId registration code)

theorem acknowledged_append {loads : Loads} {events : List Event} {deviceId : String}
    {registration : Registration} {code : Json}
    (before : acknowledged loads events deviceId registration code = true) (more : List Event) :
    acknowledged loads (events ++ more) deviceId registration code = true := by
  rw [acknowledged, List.drop_append, List.any_append, Bool.or_eq_true]
  exact Or.inl before

/-- The transaction of a call that is past the check of its code. -/
def Phase.accepted? : Phase -> Option Registration
  | .inFlight registration (.leaving (.ok _)) => some registration
  | .confirmed registration => some registration
  | .returned (some registration) (.ok _) => some registration
  | _ => none

/-- Whether the waiter has read the type of the code and not yet its value. -/
def Phase.isBetweenReads : Phase -> Bool
  | .inFlight _ .integer => true
  | _ => false

/-- No answer to a transaction arrives between the two reads of its code. -/
def readsSteadily (loads : Loads) (controller : Controller) : ControlAction -> Bool
  | .observe deviceId topic payload =>
      ((acknowledgement? loads deviceId topic payload).bind (controller.matched? deviceId)).all
        (fun found => !found.2.phase.isBetweenReads)
  | _ => true

/-- What the messages so far say about one call. -/
structure CallAnswered (loads : Loads) (events : List Event) (call : Call) : Prop where
  silent : call.registration? = none -> call.completed = false
  begins : forall registration, call.registration? = some registration ->
    registration.eventsBefore ≤ events.length
  answered : forall registration, call.registration? = some registration ->
    call.completed = true ->
      acknowledged loads events call.deviceId registration call.code = true
  woken : forall registration, call.phase = .inFlight registration .woken ->
    call.completed = true
  integer : forall registration, call.phase = .inFlight registration .integer ->
    call.completed = true ∧ exists value, call.code = .int value
  accepted : forall registration, call.phase.accepted? = some registration ->
    acknowledged loads events call.deviceId registration (.int 0) = true
  skipped : forall reply, call.phase = .returned none (.ok reply) -> reply = .skipped

theorem callAnswered_new (loads : Loads) (events : List Event) (deviceId : String)
    (request : Request) :
    CallAnswered loads events { deviceId := deviceId, request := request } where
  silent := fun _ => rfl
  begins := fun _ own => nomatch own
  answered := fun _ own => nomatch own
  woken := fun _ flies => nomatch flies
  integer := fun _ flies => nomatch flies
  accepted := fun _ own => nomatch own
  skipped := fun _ returned => nomatch returned

theorem CallAnswered.later {loads : Loads} {events : List Event} {call : Call}
    (facts : CallAnswered loads events call) (more : List Event) :
    CallAnswered loads (events ++ more) call where
  silent := facts.silent
  begins := by
    intro registration own
    have bound := facts.begins registration own
    rw [List.length_append]
    omega
  answered := fun registration own done =>
    acknowledged_append (facts.answered registration own done) more
  woken := facts.woken
  integer := facts.integer
  accepted := fun registration own => acknowledged_append (facts.accepted registration own) more
  skipped := facts.skipped

/-- A call that leaves its flight keeps what is known about its transaction. -/
theorem CallAnswered.landed {loads : Loads} {events : List Event} {call : Call}
    (facts : CallAnswered loads events call) {phase : Phase}
    (kept : phase.registration? = call.registration?)
    (grounded : forall registration progress, phase ≠ .inFlight registration progress)
    (accepted : forall registration, phase.accepted? = some registration ->
      call.phase.accepted? = some registration)
    (unskipped : forall reply, phase ≠ .returned none (.ok reply)) :
    CallAnswered loads events { call with phase := phase } where
  silent := fun none => facts.silent (kept.symm.trans none)
  begins := fun registration own => facts.begins registration (kept.symm.trans own)
  answered := fun registration own => facts.answered registration (kept.symm.trans own)
  woken := fun registration flies => absurd flies (grounded registration .woken)
  integer := fun registration flies => absurd flies (grounded registration .integer)
  accepted := fun registration own => facts.accepted registration (accepted registration own)
  skipped := fun reply returned => absurd returned (unskipped reply)

theorem Phase.registration_of_accepted {phase : Phase} {registration : Registration}
    (own : phase.accepted? = some registration) : phase.registration? = some registration := by
  unfold Phase.accepted? at own
  split at own
  · exact own
  · exact own
  · exact own
  · cases own

/-- A transaction in flight is accepted once the check of its code has passed. -/
theorem accepted_inFlight {registration other : Registration} {progress : Progress}
    (own : (Phase.inFlight registration progress).accepted? = some other) :
    progress = .leaving (.ok ()) ∧ other = registration := by
  unfold Phase.accepted? at own
  split at own
  · next same =>
      cases same
      cases own
      exact ⟨rfl, rfl⟩
  · next same => cases same
  · next same => cases same
  · cases own

/-- A call without a transaction only has to be silent. -/
theorem callAnswered_unregistered {loads : Loads} {events : List Event} {call : Call}
    (unregistered : call.registration? = none) (silent : call.completed = false)
    (skipped : forall reply, call.phase = .returned none (.ok reply) -> reply = .skipped) :
    CallAnswered loads events call where
  silent := fun _ => silent
  begins := by
    intro registration own
    rw [unregistered] at own
    cases own
  answered := by
    intro registration own
    rw [unregistered] at own
    cases own
  woken := by
    intro registration flies
    rw [Call.registration?, flies] at unregistered
    cases unregistered
  integer := by
    intro registration flies
    rw [Call.registration?, flies] at unregistered
    cases unregistered
  accepted := by
    intro registration own
    have registered := Phase.registration_of_accepted own
    rw [← Call.registration?, unregistered] at registered
    cases registered
  skipped := skipped

/-- A call that fails or is skipped before its registration says so. -/
theorem Call.EarlyStep.skipped_of_ok {shadow : StateShadow} {call : Call} {answer : Answer}
    {phase : Phase} (step : call.EarlyStep shadow answer phase) {reply : Reply}
    (returned : phase = .returned none (.ok reply)) : reply = .skipped := by
  have built : forall result : Except ControlError Submission,
      Phase.ofSubmission result ≠ .returned none (.ok reply) := by
    intro result
    cases result <;> exact fun same => nomatch same
  cases step with
  | skipped => cases returned; rfl
  | unscheduled => exact absurd returned (built _)
  | tableRead => exact absurd returned (built _)
  | fallbackRead => exact absurd returned (built _)
  | desired => cases returned
  | emptyTable => cases returned
  | resynced => cases returned
  | bridged => cases returned
  | present => cases returned
  | failed => cases returned

/-- A step of the thread itself. -/
theorem callAnswered_advance {loads : Loads} {events : List Event} {shadow : StateShadow}
    {call : Call} {answer : Answer} {phase : Phase} (facts : CallAnswered loads events call)
    (moves : call.advance shadow answer = some phase) :
    CallAnswered loads events (call.moved answer phase events) := by
  rcases advance_cases moves with early | ⟨registration, before, progress, own, same, step⟩
  · exact callAnswered_unregistered early.unregistered
      (facts.silent (Phase.registration_of_isEarly early.isEarly))
      (fun reply returned => early.skipped_of_ok returned)
  · subst phase
    have registered : call.registration? = some registration := by
      rw [Call.registration?, own]
      rfl
    constructor
    · intro none
      cases none
    · intro other otherOwn
      exact facts.begins other (registered.trans otherOwn)
    · intro other otherOwn done
      exact facts.answered other (registered.trans otherOwn) done
    · intro other flies
      cases flies
      cases step with
      | alreadyCompleted done => exact done
      | wakes done => exact done
    · intro other flies
      cases flies
      cases step with
      | isInteger value same => exact ⟨facts.woken registration own, value, same⟩
    · intro other otherAccepted
      rcases accepted_inFlight otherAccepted with ⟨leaves, same⟩
      subst progress other
      cases step with
      | isZero zero =>
          rcases facts.integer registration own with ⟨done, value, code⟩
          rw [code] at zero
          rw [Json.eq_of_eqInt zero] at code
          rw [← code]
          exact facts.answered registration registered done
    · intro reply returned
      cases returned

/-- The entry an answer matches is that of the call in flight. -/
theorem Coherent.flight_of_entry {controller : Controller} (coherent : Coherent controller)
    {deviceId msgId : String} {number : Nat} {call : Call} {registration : Registration}
    (entry : Dict.get? controller.pending (deviceId, msgId) = some number)
    (found : controller.calls[number]? = some call)
    (own : call.registration? = some registration) :
    call.deviceId = deviceId ∧ registration.msgId = msgId ∧
      exists progress, call.phase = .inFlight registration progress := by
  have flies := (coherent.entries _ _).mp entry
  rw [viewOf, found, Option.bind_some] at flies
  unfold Call.flightKey? at flies
  split at flies
  · next other progress phase =>
      rw [Call.registration?, phase] at own
      cases own
      cases flies
      exact ⟨rfl, rfl, progress, phase⟩
  · cases flies

theorem matched_of_entry {controller : Controller} {deviceId : String} {ack : Acknowledgement}
    {number : Nat} {call : Call} {registration : Registration}
    (entry : Dict.get? controller.pending (deviceId, ack.msgId) = some number)
    (found : controller.calls[number]? = some call)
    (own : call.registration? = some registration)
    (sameCommand : registration.submission.command = ack.command) :
    controller.matched? deviceId ack = some (number, call) := by
  simp only [Controller.matched?, entry, found, own, sameCommand, if_true]

/-- The message that resolves a transaction answers it. -/
theorem callAnswered_answer {loads : Loads} {controller : Controller}
    (coherent : Coherent controller) {number : Nat} {call : Call} {deviceId topic : String}
    {payload : List UInt8} {ack : Acknowledgement} {registration : Registration}
    (facts : CallAnswered loads controller.events call)
    (found : controller.calls[number]? = some call)
    (read : acknowledgement? loads deviceId topic payload = some ack)
    (entry : Dict.get? controller.pending (deviceId, ack.msgId) = some number)
    (own : call.registration? = some registration)
    (sameCommand : registration.submission.command = ack.command)
    (steady : readsSteadily loads controller (.observe deviceId topic payload) = true) :
    CallAnswered loads (controller.events ++ [.arrived deviceId topic payload])
      { call with code := ack.code, completed := true } := by
  rcases coherent.flight_of_entry entry found own with ⟨sameDevice, sameMsgId, _⟩
  have earlier := facts.later [.arrived deviceId topic payload]
  constructor
  · intro none
    exact absurd (own.symm.trans none) (Option.some_ne_none _)
  · exact earlier.begins
  · intro other otherOwn _
    cases own.symm.trans otherOwn
    have bound := facts.begins registration own
    rw [acknowledged, List.drop_append_of_le_length bound, List.any_append, Bool.or_eq_true]
    refine Or.inr ?_
    rw [List.any_cons, List.any_nil, Bool.or_false, Event.acknowledges, read, sameMsgId,
      sameCommand, Bool.and_eq_true]
    exact ⟨decide_eq_true sameDevice.symm, decide_eq_true rfl⟩
  · exact fun _ _ => rfl
  · intro other flies
    exfalso
    rw [readsSteadily, read, Option.bind_some, matched_of_entry entry found own sameCommand,
      Option.all_some] at steady
    rw [flies] at steady
    cases steady
  · exact earlier.accepted
  · exact earlier.skipped

/-- What a step does to one call keeps what the messages say about it. -/
theorem callAnswered_effect {loads : Loads} {controller : Controller}
    (coherent : Coherent controller) {number : Nat} {call new : Call} {action : ControlAction}
    {more : List Event} (effect : CallEffect loads controller number call action new)
    (found : controller.calls[number]? = some call)
    (facts : CallAnswered loads controller.events call)
    (steady : readsSteadily loads controller action = true)
    (noted : forall deviceId topic payload, action = .observe deviceId topic payload ->
      more = [.arrived deviceId topic payload]) :
    CallAnswered loads (controller.events ++ more) new := by
  cases effect with
  | unchanged => exact facts.later more
  | advanced answer phase moves => exact (callAnswered_advance facts moves).later more
  | refused msgId submission ready =>
      refine (callAnswered_unregistered rfl (facts.silent ?_) (fun reply returned => ?_))
      · rw [Call.registration?, ready]
        rfl
      · cases returned
  | registered msgId submission registration ready made =>
      have silent : call.completed = false := by
        refine facts.silent ?_
        rw [Call.registration?, ready]
        rfl
      constructor
      · intro none
        cases none
      · intro other own
        cases own
        rw [made, List.length_append]
        exact Nat.le_add_right _ _
      · intro other own done
        exact absurd (silent.symm.trans done) Bool.false_ne_true
      · intro other flies
        cases flies
      · intro other flies
        cases flies
      · intro other own
        cases own
      · intro reply returned
        cases returned
  | answered deviceId topic payload ack registration read entry own sameCommand =>
      rw [noted deviceId topic payload rfl]
      exact callAnswered_answer coherent facts found read entry own sameCommand steady
  | cleaned registration result leaving =>
      refine (facts.later more).landed ?_ ?_ ?_ ?_
      · rw [registration.registration_afterCleanUp, Call.registration?, leaving]
        rfl
      · intro other progress
        cases result <;> exact fun flies => (by cases flies)
      · intro other own
        rw [leaving]
        cases result with
        | ok done => exact own
        | error problem => cases own
      · intro reply
        cases result <;> exact fun returned => (by cases returned)
  | stored registration shadow ready written =>
      refine (facts.later more).landed ?_ (fun _ _ flies => by cases flies) ?_
        (fun _ returned => by cases returned)
      · rw [Call.registration?, ready]
        rfl
      · intro other own
        rw [ready]
        exact own
  | notStored registration ready raised =>
      refine (facts.later more).landed ?_ (fun _ _ flies => by cases flies)
        (fun _ own => by cases own) (fun _ returned => by cases returned)
      rw [Call.registration?, ready]
      rfl

/-- Coherence together with what the messages say about every call. -/
structure Answered (loads : Loads) (controller : Controller) : Prop where
  coherent : Coherent controller
  calls : forall (number : Nat) (call : Call), controller.calls[number]? = some call ->
    CallAnswered loads controller.events call

theorem answered_step {loads : Loads} {controller after : Controller} {action : ControlAction}
    (facts : Answered loads controller) (steady : readsSteadily loads controller action = true)
    (effect : ControlEffect loads controller action after) : Answered loads after where
  coherent := coherent_step facts.coherent effect
  calls := by
    intro number call found
    rcases effect.events_grow with ⟨more, grown, noted⟩
    rcases effect.origin found with ⟨deviceId, request, _, _, fresh⟩ | ⟨old, oldFound, changed⟩
    · rw [fresh]
      exact callAnswered_new loads after.events deviceId request
    · rw [grown]
      exact callAnswered_effect facts.coherent changed oldFound (facts.calls number old oldFound)
        steady noted

theorem answered_run (loads : Loads) (shadow : StateShadow) (actions : List ControlAction)
    (steady : (controllerMachine loads).Meets
      (fun controller action => readsSteadily loads controller action = true)
      (.initial shadow) actions) :
    Answered loads ((controllerMachine loads).run (.initial shadow) actions) := by
  refine (controllerMachine loads).run_invariant_of_meets _ (Answered loads)
    (fun _ _ _ facts steady step => answered_step facts steady (controlEffect_of_step step))
    _ actions ⟨coherent_initial shadow, ?_⟩ steady
  intro number call found
  cases found

/-- A call that is not in flight has no entry. -/
theorem Coherent.no_entry {controller : Controller} (coherent : Coherent controller)
    {number : Nat} {call : Call} (found : controller.calls[number]? = some call)
    (grounded : call.flightKey? = none) (key : String × String) :
    Dict.get? controller.pending key ≠ some number := by
  rw [Ne, coherent.entries, viewOf, found, Option.bind_some, grounded]
  exact fun impossible => (by cases impossible)

/-- Every active mark is that of a call in flight. -/
theorem Coherent.flight_of_active {controller : Controller} (coherent : Coherent controller)
    {deviceId : String} (marked : deviceId ∈ controller.active) :
    exists (number : Nat) (call : Call) (registration : Registration) (progress : Progress),
      controller.calls[number]? = some call ∧ call.deviceId = deviceId ∧
      call.phase = .inFlight registration progress := by
  rcases (coherent.active deviceId).mp marked with ⟨msgId, number, entry⟩
  have flies := (coherent.entries _ _).mp entry
  rcases Option.bind_eq_some_iff.mp flies with ⟨call, found, key⟩
  unfold Call.flightKey? at key
  split at key
  · next registration progress phase =>
      exact ⟨number, call, registration, progress, found,
        congrArg Prod.fst (Option.some.inj key), phase⟩
  · cases key

/-- In every run in which no answer falls between the two reads of a code: marks
and entries agree and are single, success was acknowledged with the integer
zero, a finished call has left nothing behind, no call clears the entry of
another, and a call that fails has changed nothing in the shadow. -/
theorem control_transaction_protocol (loads : Loads) (shadow : StateShadow)
    (actions : List ControlAction)
    (steady : (controllerMachine loads).Meets
      (fun controller action => readsSteadily loads controller action = true)
      (.initial shadow) actions) :
    let final := (controllerMachine loads).run (.initial shadow) actions
    (forall deviceId, (deviceId ∈ final.active ↔ (final.entriesOf deviceId).length = 1) ∧
      (final.entriesOf deviceId).length ≤ 1) ∧
    (forall (number : Nat) (call : Call) registration reply, final.calls[number]? = some call ->
      call.phase = .returned registration (.ok reply) -> reply ≠ .skipped ->
      exists own, registration = some own ∧
        acknowledged loads final.events call.deviceId own (.int 0) = true) ∧
    (forall (number : Nat) (call : Call) registration result, final.calls[number]? = some call ->
      call.phase = .returned registration result ->
      forall key, Dict.get? final.pending key ≠ some number) ∧
    (forall deviceId, deviceId ∈ final.active ->
      exists (number : Nat) (call : Call) (registration : Registration) (progress : Progress),
        final.calls[number]? = some call ∧ call.deviceId = deviceId ∧
        call.phase = .inFlight registration progress) ∧
    (forall (action : ControlAction) number key, action.owner? ≠ some number ->
      Dict.get? final.pending key = some number ->
      Dict.get? ((controllerMachine loads).next final action).pending key = some number) ∧
    (forall before action rest (number : Nat) (call : Call) registration problem,
      actions = before ++ action :: rest -> action.owner? = some number ->
      final.calls[number]? = some call -> call.phase = .returned registration (.error problem) ->
      ((controllerMachine loads).run (.initial shadow) (before ++ [action])).shadow =
        ((controllerMachine loads).run (.initial shadow) before).shadow) := by
  intro final
  have facts := answered_run loads shadow actions steady
  refine ⟨?_, ?_, ?_, ?_, ?_, ?_⟩
  · intro deviceId
    exact ⟨facts.coherent.active_iff deviceId, facts.coherent.entriesOf_le deviceId⟩
  · intro number call registration reply found returned success
    have known := facts.calls number call found
    cases registration with
    | none => exact absurd (known.skipped reply returned) success
    | some own =>
        refine ⟨own, rfl, known.accepted own ?_⟩
        rw [returned]
        rfl
  · intro number call registration result found returned
    refine facts.coherent.no_entry found ?_
    rw [Call.flightKey?, returned]
  · intro deviceId marked
    exact facts.coherent.flight_of_active marked
  · intro action number key foreign entry
    rcases (controllerMachine loads).next_cases final action with refused | step
    · rw [refused]
      exact entry
    · exact entry_stays facts.coherent (controlEffect_of_step step) entry foreign
  · intro before action rest number call registration problem split own found failed
    subst split
    exact shadow_of_failed loads _ before action rest own found failed

/-! ## An answer between the two reads -/

/-- The bowl mode is set on device `A`. -/
def setBowlMode : List ControlAction :=
  [.call "A" (.setGroup "bowl" [("bowlMode", .str "single")] true), .advance 0 (.build noClock)] ++
    submitSteps 0 "m"

def rejection : List UInt8 :=
  utf8 "\x7b\"cmd\":\"ATTR_SET_SERVICE\",\"msgId\":\"m\",\"code\":7\x7d"

def falseCode : List UInt8 :=
  utf8 "\x7b\"cmd\":\"ATTR_SET_SERVICE\",\"msgId\":\"m\",\"code\":false\x7d"

def acceptance : List UInt8 :=
  utf8 "\x7b\"cmd\":\"ATTR_SET_SERVICE\",\"msgId\":\"m\",\"code\":0\x7d"

/-- The decoder, as far as these answers are concerned. -/
def loadsAnswers : Loads := fun payload =>
  let answer := fun code : Json =>
    some (Json.obj [("cmd", .str "ATTR_SET_SERVICE"), ("msgId", .str "m"), ("code", code)])
  if payload = rejection then answer (.int 7)
  else if payload = falseCode then answer (.bool false)
  else if payload = acceptance then answer (.int 0)
  else none

/-- The call succeeded and was never acknowledged with code zero. -/
def Controller.unacknowledgedSuccess (loads : Loads) (controller : Controller) (number : Nat) :
    Bool :=
  match controller.calls[number]? with
  | some call =>
      match call.phase with
      | .returned (some own) (.ok _) =>
          !acknowledged loads controller.events call.deviceId own (.int 0)
      | _ => false
  | none => false

/-- The feeder rejects the command with code seven.  The waiter finds an integer.
Then an answer with the boolean false arrives, and the waiter finds a value equal
to zero.  The call succeeds and stores what the feeder rejected. -/
theorem rejected_command_succeeds :
    let final := (controllerMachine loadsAnswers).run (.initial {}) (setBowlMode ++
      [answerFrom "A" rejection, .advance 0 .wake, .advance 0 .readType,
        answerFrom "A" falseCode, .advance 0 .readCode, .cleanUp 0, .persist 0])
    final.unacknowledgedSuccess loadsAnswers 0 = true ∧
      Dict.get? final.shadow.localConfirmed ("A", "bowlMode") = some (.str "single") := by
  decide +kernel

/-- The same command, accepted by the feeder. -/
theorem control_transaction_protocol_of_accepted :
    let actions := setBowlMode ++ [answerFrom "A" acceptance] ++ confirmSteps 0
    let final := (controllerMachine loadsAnswers).run (.initial {}) actions
    forall (number : Nat) (call : Call) registration reply, final.calls[number]? = some call ->
      call.phase = .returned registration (.ok reply) -> reply ≠ .skipped ->
      exists own, registration = some own ∧
        acknowledged loadsAnswers final.events call.deviceId own (.int 0) = true :=
  (control_transaction_protocol loadsAnswers {} _ (by decide +kernel)).2.1

end Control
end PetlibroRelay
