import PetlibroRelay.Control.Transactions

namespace PetlibroRelay
namespace Control

open Foundations
open Protocol
open Shadow
open Responder

/-!
# Acknowledged calls in order

A log beside the controller notes the commands in the order in which the feeder
first acknowledged them with code zero, and in the order in which they were
stored.  Commands can be acknowledged when nobody waits any more, or answered
twice with different codes, and calls can fail after their acknowledgement.  As
long as none of this happens, the acknowledged calls are those that succeed.
-/

/-! ## The log -/

/-- A command with the call and the device it belongs to. -/
structure Issued where
  call : Nat
  deviceId : String
  submission : Submission

namespace Issued

/-- Whether the command sets the setting of the device. -/
def carries (deviceId key : String) (issued : Issued) : Bool :=
  decide (issued.deviceId = deviceId) &&
    decide (issued.submission.command = Command.ATTR_SET_SERVICE) &&
    (Dict.get? issued.submission.values key).isSome

/-- Whether the command is the snapshot of an edit on the device. -/
def isEdit (deviceId : String) (issued : Issued) : Bool :=
  decide (issued.deviceId = deviceId) &&
    match issued.submission.persistence with
    | .schedule _ => true
    | _ => false

/-- Whether two commands decide over the same setting or both over the schedule. -/
def overlaps (first second : Issued) : Bool :=
  (first.isEdit second.deviceId && second.isEdit second.deviceId) ||
    (Dict.keys first.submission.values).any (fun key =>
      first.carries second.deviceId key && second.carries second.deviceId key)

end Issued

/-- The commands in the order of their acknowledgement and of their storage. -/
structure AckLog where
  accepted : List Issued := []
  written : List Issued := []

namespace AckLog

def acceptedCalls (log : AckLog) : List Nat := log.accepted.map Issued.call

def writtenCalls (log : AckLog) : List Nat := log.written.map Issued.call

/-- The place of a command in the order of acknowledgement. -/
def position (log : AckLog) (issued : Issued) : Nat :=
  log.acceptedCalls.idxOf issued.call

end AckLog

/-- The command of this relay that a message acknowledges with code zero. -/
def acceptedBy (loads : Loads) (controller : Controller) : ControlAction -> Option Issued
  | .observe deviceId topic payload =>
      (acknowledgement? loads deviceId topic payload).bind (fun ack =>
        (Dict.get? controller.minted (deviceId, ack.msgId)).bind (fun number =>
          (controller.calls[number]?).bind (fun call =>
            call.registration?.bind (fun registration =>
              if ack.code = .int 0 ∧ registration.submission.command = ack.command then
                some ⟨number, call.deviceId, registration.submission⟩
              else none))))
  | _ => none

/-- The command a step stores. -/
def writtenBy (controller : Controller) : ControlAction -> Option Issued
  | .persist number =>
      (controller.calls[number]?).bind (fun call =>
        match call.phase with
        | .confirmed registration =>
            (registration.submission.persistence.write controller.shadow call.deviceId).map
              (fun _ => ⟨number, call.deviceId, registration.submission⟩)
        | _ => none)
  | _ => none

/-- Only the first acknowledgement of a command is noted. -/
def AckLog.note (loads : Loads) (controller : Controller) (action : ControlAction)
    (log : AckLog) : AckLog where
  accepted := log.accepted ++ ((acceptedBy loads controller action).filter
    (fun issued => decide (issued.call ∉ log.acceptedCalls))).toList
  written := log.written ++ (writtenBy controller action).toList

/-- The controller with its log. -/
def loggedMachine (loads : Loads) : Machine (Controller × AckLog) ControlAction where
  step := fun state action => (controllerStep loads state.1 action).map
    (fun after => (after, state.2.note loads state.1 action))

/-! ## When the order is kept -/

/-- Whether the transaction is in flight and not about to fail. -/
def Phase.awaits : Phase -> Bool
  | .inFlight _ (.leaving (.error _)) => false
  | .inFlight _ _ => true
  | _ => false

/-- Whether the result of the transaction in flight is still open. -/
def Phase.isOpen : Phase -> Bool
  | .inFlight _ (.leaving _) => false
  | .inFlight _ _ => true
  | _ => false

/-- Whether a message with another code than zero comes to a call that has been
acknowledged and whose result is open, or gives the waiter between its two reads
something else than an integer. -/
def contradicts (log : AckLog) (number : Nat) (call : Call) (code : Json) : Bool :=
  decide (code ≠ .int 0) &&
    ((decide (number ∈ log.acceptedCalls) && call.phase.isOpen) ||
      (call.phase.isBetweenReads && !code.isInt))

/-- First acknowledgements reach a call that does not fail and are not
contradicted, calls fail only without one, and no command is stored after an
overlapping one that was acknowledged later. -/
def keepsOrder (loads : Loads) (state : Controller × AckLog) : ControlAction -> Bool
  | .observe deviceId topic payload =>
      (acceptedBy loads state.1 (.observe deviceId topic payload)).all (fun issued =>
        decide (issued.call ∈ state.2.acceptedCalls) ||
          (state.1.calls[issued.call]?).any (fun call => call.phase.awaits)) &&
      (acknowledgement? loads deviceId topic payload).all (fun ack =>
        (state.1.matched? deviceId ack).all (fun found =>
          !contradicts state.2 found.1 found.2 ack.code))
  | .advance number .timeOut => decide (number ∉ state.2.acceptedCalls)
  | .advance number (.publish outcome) =>
      decide (outcome = .published) || decide (number ∉ state.2.acceptedCalls)
  | .persist number =>
      (state.1.calls[number]?).all (fun call =>
        call.phase.submission?.all (fun submission =>
          (match submission.persistence with
            | .schedule edit =>
                (StateShadow.acceptedIds edit.plans StateShadow.isPersistedId).all fitsInteger
            | _ => true) &&
          state.2.written.all (fun issued =>
            !issued.overlaps ⟨number, call.deviceId, submission⟩ ||
              decide (state.2.position issued <
                state.2.position ⟨number, call.deviceId, submission⟩))))
  | _ => true

/-! ## Accepted calls -/

theorem mem_acceptedCalls_note {loads : Loads} {controller : Controller} {action : ControlAction}
    {log : AckLog} {number : Nat} :
    number ∈ (log.note loads controller action).acceptedCalls ↔
      number ∈ log.acceptedCalls ∨
        exists issued, acceptedBy loads controller action = some issued ∧ issued.call = number := by
  rw [AckLog.acceptedCalls, AckLog.note, List.map_append, List.mem_append, ← AckLog.acceptedCalls]
  cases acceptedBy loads controller action with
  | none => simp only [Option.filter_none, Option.toList_none, List.map_nil, List.not_mem_nil,
      reduceCtorEq, false_and, exists_false]
  | some issued =>
      by_cases known : issued.call ∈ log.acceptedCalls
      · simp only [Option.filter_some, known, not_true_eq_false, decide_false, Bool.false_eq_true,
          if_false, Option.toList_none, List.map_nil, List.not_mem_nil, or_false,
          Option.some.injEq, exists_eq_left']
        constructor
        · exact Or.inl
        · rintro (old | same)
          · exact old
          · exact same ▸ known
      · simp only [Option.filter_some, known, not_false_eq_true, decide_true, if_true,
          Option.toList_some, List.map_cons, List.map_nil, List.mem_singleton,
          Option.some.injEq, exists_eq_left', eq_comm]

theorem mem_writtenCalls_note {loads : Loads} {controller : Controller} {action : ControlAction}
    {log : AckLog} {number : Nat} :
    number ∈ (log.note loads controller action).writtenCalls ↔
      number ∈ log.writtenCalls ∨
        exists issued, writtenBy controller action = some issued ∧ issued.call = number := by
  rw [AckLog.writtenCalls, AckLog.note, List.map_append, List.mem_append, ← AckLog.writtenCalls]
  cases writtenBy controller action with
  | none => simp only [Option.toList_none, List.map_nil, List.not_mem_nil, reduceCtorEq, false_and,
      exists_false]
  | some issued =>
      simp only [Option.toList_some, List.map_cons, List.map_nil, List.mem_singleton,
        Option.some.injEq, exists_eq_left', eq_comm]

/-- Whether a call is on the way to success or there. -/
def Phase.onTrack : Phase -> Bool
  | .confirmed _ => true
  | .returned (some _) (.ok _) => true
  | phase => phase.awaits

/-- What the log says about one call. -/
structure CallAccepted (log : AckLog) (number : Nat) (call : Call) : Prop where
  silent : call.registration? = none -> call.code = .null ∧ number ∉ log.acceptedCalls
  zero : call.code = .int 0 -> number ∈ log.acceptedCalls
  integer : forall registration, call.phase = .inFlight registration .integer ->
    call.code.isInt = true
  sound : forall registration, call.phase.accepted? = some registration ->
    number ∈ log.acceptedCalls
  kept : number ∈ log.acceptedCalls -> call.phase.onTrack = true
  code : number ∈ log.acceptedCalls -> call.phase.isOpen = true -> call.code = .int 0
  stored : forall registration reply, call.phase = .returned (some registration) (.ok reply) ->
    number ∈ log.writtenCalls

/-- The log may grow by commands of other calls. -/
theorem CallAccepted.later {log after : AckLog} {number : Nat} {call : Call}
    (facts : CallAccepted log number call)
    (accepted : number ∈ after.acceptedCalls ↔ number ∈ log.acceptedCalls)
    (written : number ∈ log.writtenCalls -> number ∈ after.writtenCalls) :
    CallAccepted after number call where
  silent := fun none => ⟨(facts.silent none).1, fun new =>
    (facts.silent none).2 (accepted.mp new)⟩
  zero := fun same => accepted.mpr (facts.zero same)
  integer := facts.integer
  sound := fun registration own => accepted.mpr (facts.sound registration own)
  kept := fun new => facts.kept (accepted.mp new)
  code := fun new => facts.code (accepted.mp new)
  stored := fun registration reply returned => written (facts.stored registration reply returned)

/-- A call without a transaction is not in the log. -/
theorem callAccepted_unregistered {log : AckLog} {number : Nat} {call : Call}
    (unregistered : call.registration? = none) (silent : call.code = .null)
    (unused : number ∉ log.acceptedCalls) : CallAccepted log number call where
  silent := fun _ => ⟨silent, unused⟩
  zero := by
    intro zero
    rw [silent] at zero
    cases zero
  integer := by
    intro registration flies
    rw [Call.registration?, flies] at unregistered
    cases unregistered
  sound := by
    intro registration own
    have registered := Phase.registration_of_accepted own
    rw [← Call.registration?, unregistered] at registered
    cases registered
  kept := fun accepted => absurd accepted unused
  code := fun accepted => absurd accepted unused
  stored := by
    intro registration reply returned
    rw [Call.registration?, returned] at unregistered
    cases unregistered

theorem callAccepted_new {log : AckLog} {number : Nat} (unused : number ∉ log.acceptedCalls)
    (deviceId : String) (request : Request) :
    CallAccepted log number { deviceId := deviceId, request := request } :=
  callAccepted_unregistered rfl rfl unused

/-- A call with a transaction that is not in the log and is neither past the
checks of its code nor returned. -/
theorem callAccepted_unaccepted {log : AckLog} {number : Nat} {call : Call}
    {registration : Registration} (registered : call.registration? = some registration)
    (unaccepted : number ∉ log.acceptedCalls) (nonzero : call.code ≠ .int 0)
    (unchecked : forall other, call.phase ≠ .inFlight other .integer)
    (outside : call.phase.accepted? = none)
    (unreturned : forall other reply, call.phase ≠ .returned (some other) (.ok reply)) :
    CallAccepted log number call where
  silent := by
    intro none
    rw [registered] at none
    cases none
  zero := fun zero => absurd zero nonzero
  integer := fun other flies => absurd flies (unchecked other)
  sound := by
    intro other own
    rw [outside] at own
    cases own
  kept := fun accepted => absurd accepted unaccepted
  code := fun accepted => absurd accepted unaccepted
  stored := fun other reply returned => absurd returned (unreturned other reply)

/-- A step of the thread itself.  The condition keeps an accepted call from
failing. -/
theorem callAccepted_advance {loads : Loads} {controller : Controller} {log : AckLog}
    {number : Nat} {call : Call} {answer : Answer} {phase : Phase}
    (facts : CallAccepted log number call)
    (keeps : keepsOrder loads (controller, log) (.advance number answer) = true)
    (moves : call.advance controller.shadow answer = some phase) :
    CallAccepted log number (call.moved answer phase controller.events) := by
  rcases advance_cases moves with early | ⟨registration, before, progress, own, same, step⟩
  · have silent := facts.silent (Phase.registration_of_isEarly early.isEarly)
    exact callAccepted_unregistered early.unregistered silent.1 silent.2
  · subst phase
    constructor
    · intro none
      cases none
    · exact facts.zero
    · intro other flies
      cases flies
      cases step with
      | isInteger value code =>
          rw [Call.moved, code]
          rfl
    · intro other otherOwn
      rcases accepted_inFlight otherOwn with ⟨leaves, _⟩
      subst progress
      cases step with
      | isZero zero =>
          have integer := facts.integer registration own
          refine facts.zero ?_
          cases code : call.code with
          | int value =>
              rw [code] at zero
              rw [Json.eq_of_eqInt zero]
          | _ =>
              rw [code] at integer
              cases integer
    · intro accepted
      have code : call.code = .int 0 := by
        refine facts.code accepted ?_
        rw [own]
        cases step <;> rfl
      cases step with
      | published => rfl
      | publishFailed outcome problem failure =>
          rw [keepsOrder, Bool.or_eq_true, decide_eq_true_eq, decide_eq_true_eq] at keeps
          rcases keeps with success | unaccepted
          · exact absurd success failure
          · exact absurd accepted unaccepted
      | alreadyCompleted done => rfl
      | waits => rfl
      | wakes done => rfl
      | timesOut problem =>
          rw [keepsOrder, decide_eq_true_eq] at keeps
          exact absurd accepted keeps
      | isInteger value same => rfl
      | notInteger problem different => exact absurd code (different 0)
      | isZero same => rfl
      | notZero problem different =>
          rw [code] at different
          cases different
    · intro accepted _
      refine facts.code accepted ?_
      rw [own]
      cases step <;> rfl
    · intro other reply returned
      cases returned

/-- The write of a snapshot whose identifiers fit their column succeeds. -/
theorem write_of_fits {shadow : StateShadow} {deviceId : String} {submission : Submission}
    (fits : (match submission.persistence with
      | .schedule edit =>
          (StateShadow.acceptedIds edit.plans StateShadow.isPersistedId).all fitsInteger
      | _ => true) = true) :
    submission.persistence.write shadow deviceId ≠ none := by
  cases kind : submission.persistence with
  | settings values => exact fun raised => (by cases raised)
  | nothing => exact fun raised => (by cases raised)
  | schedule edit =>
      rw [kind] at fits
      rw [Persistence.write, StateShadow.replaceLocalSchedulePlans, if_pos fits]
      exact fun raised => (by cases raised)

theorem fits_of_keepsOrder {loads : Loads} {controller : Controller} {log : AckLog} {number : Nat}
    {call : Call} {submission : Submission}
    (keeps : keepsOrder loads (controller, log) (.persist number) = true)
    (found : controller.calls[number]? = some call)
    (carries : call.phase.submission? = some submission) :
    submission.persistence.write controller.shadow call.deviceId ≠ none ∧
      forall issued, issued ∈ log.written ->
        issued.overlaps ⟨number, call.deviceId, submission⟩ = true ->
        log.position issued < log.position ⟨number, call.deviceId, submission⟩ := by
  rw [keepsOrder, found, Option.all_some, carries, Option.all_some, Bool.and_eq_true,
    List.all_eq_true] at keeps
  refine ⟨write_of_fits keeps.1, fun issued member overlap => ?_⟩
  have ordered := keeps.2 issued member
  rw [overlap, Bool.not_true, Bool.false_or, decide_eq_true_eq] at ordered
  exact ordered

theorem writtenBy_of_stored {controller : Controller} {number : Nat} {call : Call}
    {registration : Registration} {shadow : StateShadow}
    (found : controller.calls[number]? = some call)
    (ready : call.phase = .confirmed registration)
    (written : registration.submission.persistence.write controller.shadow call.deviceId =
      some shadow) :
    writtenBy controller (.persist number) =
      some ⟨number, call.deviceId, registration.submission⟩ := by
  rw [writtenBy, found, Option.bind_some, ready]
  simp only [written, Option.map_some]

/-- What a step other than a message does to one call. -/
theorem callAccepted_effect {loads : Loads} {controller : Controller} {log : AckLog}
    {number : Nat} {call new : Call} {action : ControlAction}
    (effect : CallEffect loads controller number call action new)
    (found : controller.calls[number]? = some call)
    (facts : CallAccepted log number call)
    (keeps : keepsOrder loads (controller, log) action = true)
    (unheard : forall deviceId topic payload, action ≠ .observe deviceId topic payload) :
    CallAccepted (log.note loads controller action) number new := by
  have same : number ∈ (log.note loads controller action).acceptedCalls ↔
      number ∈ log.acceptedCalls := by
    rw [mem_acceptedCalls_note]
    constructor
    · rintro (old | ⟨issued, accepted, _⟩)
      · exact old
      · cases action with
        | observe deviceId topic payload => exact absurd rfl (unheard deviceId topic payload)
        | _ => cases accepted
    · exact Or.inl
  have more : number ∈ log.writtenCalls ->
      number ∈ (log.note loads controller action).writtenCalls :=
    fun old => mem_writtenCalls_note.mpr (Or.inl old)
  cases effect with
  | unchanged => exact facts.later same more
  | advanced answer phase moves => exact (callAccepted_advance facts keeps moves).later same more
  | refused msgId submission ready =>
      have silent := facts.silent (by rw [Call.registration?, ready]; rfl)
      refine (?_ : CallAccepted log number call.refused).later same more
      exact callAccepted_unregistered rfl silent.1 silent.2
  | registered msgId submission registration ready made =>
      have silent := facts.silent (by rw [Call.registration?, ready]; rfl)
      refine (?_ : CallAccepted log number _).later same more
      refine callAccepted_unaccepted rfl silent.2 ?_ (fun _ => by rintro ⟨⟩) rfl
        (fun _ _ => by rintro ⟨⟩)
      exact fun zero => silent.2 (facts.zero zero)
  | answered deviceId topic payload => exact absurd rfl (unheard deviceId topic payload)
  | cleaned registration result leaving =>
      refine (?_ : CallAccepted log number _).later same more
      have registered := registration.registration_afterCleanUp result
      cases result with
      | ok done =>
          constructor
          · intro none
            cases none
          · exact facts.zero
          · intro other flies
            cases flies
          · intro other own
            cases own
            refine facts.sound registration ?_
            rw [leaving]
            rfl
          · exact fun _ => rfl
          · intro _ impossible
            cases impossible
          · intro other reply returned
            cases returned
      | error problem =>
          have unaccepted : number ∉ log.acceptedCalls := by
            intro accepted
            have track := facts.kept accepted
            rw [leaving] at track
            cases track
          refine callAccepted_unaccepted registered unaccepted ?_ (fun _ => by rintro ⟨⟩) rfl
            (fun _ _ => by rintro ⟨⟩)
          exact fun zero => unaccepted (facts.zero zero)
  | stored registration shadow ready written =>
      have accepted : number ∈ log.acceptedCalls := by
        refine facts.sound registration ?_
        rw [ready]
        rfl
      constructor
      · intro none
        cases none
      · exact fun _ => same.mpr accepted
      · intro other flies
        cases flies
      · exact fun _ _ => same.mpr accepted
      · exact fun _ => rfl
      · intro _ impossible
        cases impossible
      · intro other reply returned
        exact mem_writtenCalls_note.mpr (Or.inr ⟨_, writtenBy_of_stored found ready written, rfl⟩)
  | notStored registration ready raised =>
      exfalso
      refine (fits_of_keepsOrder keeps found ?_).1 raised
      rw [ready]
      rfl

/-! ## Messages -/

/-- What a message that resolves a transaction acknowledges. -/
theorem acceptedBy_of_entry {loads : Loads} {controller : Controller}
    (coherent : Coherent controller) (minted : Minted controller) {deviceId topic : String}
    {payload : List UInt8} {ack : Acknowledgement} {number : Nat} {call : Call}
    {registration : Registration}
    (read : acknowledgement? loads deviceId topic payload = some ack)
    (entry : Dict.get? controller.pending (deviceId, ack.msgId) = some number)
    (found : controller.calls[number]? = some call)
    (own : call.registration? = some registration)
    (sameCommand : registration.submission.command = ack.command) :
    acceptedBy loads controller (.observe deviceId topic payload) =
      if ack.code = .int 0 then some ⟨number, call.deviceId, registration.submission⟩
      else none := by
  simp only [acceptedBy, read, coherent.minted_of_entry minted entry, found, own, sameCommand,
    Option.bind_some, and_true]

/-- An acknowledged command belongs to the call that was registered with it. -/
theorem acceptedBy_cases {loads : Loads} {controller : Controller} {action : ControlAction}
    {issued : Issued} (accepted : acceptedBy loads controller action = some issued) :
    exists deviceId topic payload ack call registration,
      action = .observe deviceId topic payload ∧
      acknowledgement? loads deviceId topic payload = some ack ∧
      Dict.get? controller.minted (deviceId, ack.msgId) = some issued.call ∧
      controller.calls[issued.call]? = some call ∧ call.registration? = some registration ∧
      ack.code = .int 0 ∧ registration.submission.command = ack.command ∧
      issued.deviceId = call.deviceId ∧ issued.submission = registration.submission := by
  cases action with
  | observe deviceId topic payload =>
      rcases Option.bind_eq_some_iff.mp accepted with ⟨ack, read, rest⟩
      rcases Option.bind_eq_some_iff.mp rest with ⟨number, mine, rest⟩
      rcases Option.bind_eq_some_iff.mp rest with ⟨call, found, rest⟩
      rcases Option.bind_eq_some_iff.mp rest with ⟨registration, own, chosen⟩
      split at chosen
      · next zero =>
          cases chosen
          exact ⟨deviceId, topic, payload, ack, call, registration, rfl, read, mine, found, own,
            zero.1, zero.2, rfl, rfl⟩
      · cases chosen
  | _ => cases accepted

theorem Phase.inFlight_of_awaits {phase : Phase} (awaits : phase.awaits = true) :
    exists registration progress, phase = .inFlight registration progress := by
  cases phase with
  | inFlight registration progress => exact ⟨registration, progress, rfl⟩
  | _ => cases awaits

theorem Phase.onTrack_of_awaits {phase : Phase} (awaits : phase.awaits = true) :
    phase.onTrack = true := by
  rcases Phase.inFlight_of_awaits awaits with ⟨registration, progress, same⟩
  rw [same] at awaits ⊢
  exact awaits

/-- A message that resolves nothing acknowledges nothing new. -/
theorem accepted_of_unmatched {loads : Loads} {controller : Controller} {log : AckLog}
    (coherent : Coherent controller) (minted : Minted controller) {deviceId topic : String}
    {payload : List UInt8}
    (keeps : keepsOrder loads (controller, log) (.observe deviceId topic payload) = true)
    (foreign : forall ack, acknowledgement? loads deviceId topic payload = some ack ->
      controller.matched? deviceId ack = none) {issued : Issued}
    (accepted : acceptedBy loads controller (.observe deviceId topic payload) = some issued) :
    issued.call ∈ log.acceptedCalls := by
  rcases acceptedBy_cases accepted with
    ⟨_, _, _, ack, call, registration, ⟨⟩, read, mine, found, own, _, sameCommand, _, _⟩
  rw [keepsOrder, accepted, Option.all_some, Bool.and_eq_true, Bool.or_eq_true, found,
    Option.any_some, decide_eq_true_eq] at keeps
  rcases keeps.1 with known | awaits
  · exact known
  · exfalso
    rcases Phase.inFlight_of_awaits awaits with ⟨other, progress, flies⟩
    have key := (minted _ _).mp mine
    have sameOwn : other = registration := by
      rw [Call.registration?, flies] at own
      exact Option.some.inj own
    subst other
    rw [viewOf, found, Option.bind_some, Call.mintKey_of_registration own] at key
    have entry : Dict.get? controller.pending (deviceId, ack.msgId) = some issued.call := by
      rw [coherent.entries, viewOf, found, Option.bind_some, Call.flightKey_of_inFlight flies]
      exact key
    have matched := matched_of_entry entry found own sameCommand
    rw [foreign ack read] at matched
    cases matched

/-- The message that resolves a transaction. -/
theorem callAccepted_answer {loads : Loads} {controller : Controller} {log : AckLog}
    (coherent : Coherent controller) (minted : Minted controller) {number : Nat} {call : Call}
    {deviceId topic : String} {payload : List UInt8} {ack : Acknowledgement}
    {registration : Registration} (facts : CallAccepted log number call)
    (found : controller.calls[number]? = some call)
    (read : acknowledgement? loads deviceId topic payload = some ack)
    (entry : Dict.get? controller.pending (deviceId, ack.msgId) = some number)
    (own : call.registration? = some registration)
    (sameCommand : registration.submission.command = ack.command)
    (keeps : keepsOrder loads (controller, log) (.observe deviceId topic payload) = true) :
    CallAccepted (log.note loads controller (.observe deviceId topic payload)) number
      { call with code := ack.code, completed := true } := by
  have noted := acceptedBy_of_entry coherent minted read entry found own sameCommand
  rw [keepsOrder, Bool.and_eq_true, read, Option.all_some,
    matched_of_entry entry found own sameCommand, Option.all_some, noted] at keeps
  have more : number ∈ log.writtenCalls ->
      number ∈ (log.note loads controller (.observe deviceId topic payload)).writtenCalls :=
    fun old => mem_writtenCalls_note.mpr (Or.inl old)
  by_cases zero : ack.code = .int 0
  · rw [if_pos zero] at noted keeps
    have accepted :
        number ∈ (log.note loads controller (.observe deviceId topic payload)).acceptedCalls :=
      mem_acceptedCalls_note.mpr (Or.inr ⟨_, noted, rfl⟩)
    have track : call.phase.onTrack = true := by
      rw [Option.all_some, found, Option.any_some, Bool.or_eq_true, decide_eq_true_eq] at keeps
      rcases keeps.1 with known | awaits
      · exact facts.kept known
      · exact Phase.onTrack_of_awaits awaits
    constructor
    · intro none
      exact absurd (own.symm.trans none) (Option.some_ne_none _)
    · exact fun _ => accepted
    · intro other flies
      rw [zero]
      rfl
    · exact fun _ _ => accepted
    · exact fun _ => track
    · exact fun _ _ => zero
    · exact fun other reply returned => more (facts.stored other reply returned)
  · rw [if_neg zero] at noted
    have same : number ∈ (log.note loads controller (.observe deviceId topic payload)).acceptedCalls ↔
        number ∈ log.acceptedCalls := by
      rw [mem_acceptedCalls_note, noted]
      simp only [reduceCtorEq, false_and, exists_false, or_false]
    have steady := keeps.2
    rw [Bool.not_eq_true', contradicts, decide_eq_true zero, Bool.true_and,
      Bool.or_eq_false_iff] at steady
    constructor
    · intro none
      exact absurd (own.symm.trans none) (Option.some_ne_none _)
    · exact fun isZero => absurd isZero zero
    · intro other flies
      replace flies : call.phase = .inFlight other .integer := flies
      have integer := steady.2
      rw [flies, Phase.isBetweenReads, Bool.true_and, Bool.not_eq_false'] at integer
      exact integer
    · exact fun other accepted => same.mpr (facts.sound other accepted)
    · exact fun accepted => facts.kept (same.mp accepted)
    · intro accepted isOpen
      replace isOpen : call.phase.isOpen = true := isOpen
      rw [decide_eq_true (same.mp accepted), isOpen] at steady
      cases steady.1
    · exact fun other reply returned => more (facts.stored other reply returned)

end Control
end PetlibroRelay
