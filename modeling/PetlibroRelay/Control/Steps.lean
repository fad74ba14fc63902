import PetlibroRelay.Control.Controller

namespace PetlibroRelay
namespace Control

open Foundations
open Protocol
open Shadow
open Responder

/-!
# What a step of the controller does

One relation lists everything a step can do, with the guards under which it does
it.  The results about runs of the controller are case distinctions on it.
-/

/-- The calls after one of them was replaced. -/
theorem getElem?_set_of_found {calls : List Call} {number : Nat} {old : Call}
    (found : calls[number]? = some old) (new : Call) (other : Nat) :
    (calls.set number new)[other]? = if number = other then some new else calls[other]? := by
  rw [List.getElem?_set]
  by_cases same : number = other
  · have inside : number < calls.length := (List.getElem?_eq_some_iff.mp found).1
    rw [if_pos same, if_pos same, if_pos inside]
  · rw [if_neg same, if_neg same]

/-! ## Views of calls -/

/-- What a view shows of the call with a number. -/
def viewOf {β : Type} (view : Call -> Option β) (calls : List Call) (number : Nat) : Option β :=
  (calls[number]?).bind view

theorem viewOf_set {β : Type} (view : Call -> Option β) {calls : List Call} {number : Nat}
    {old : Call} (found : calls[number]? = some old) (new : Call) (other : Nat) :
    viewOf view (calls.set number new) other =
      if number = other then view new else viewOf view calls other := by
  rw [viewOf, getElem?_set_of_found found]
  split
  · rfl
  · rfl

/-- Replacing a call by one that looks the same changes no view. -/
theorem viewOf_set_same {β : Type} {view : Call -> Option β} {calls : List Call} {number : Nat}
    {old new : Call} (found : calls[number]? = some old) (same : view new = view old) :
    viewOf view (calls.set number new) = viewOf view calls := by
  funext other
  rw [viewOf_set view found]
  by_cases own : number = other
  · rw [if_pos own, ← own, viewOf, found, same]
    rfl
  · rw [if_neg own]

/-- A call of which nothing is seen can be added. -/
theorem viewOf_concat {β : Type} {view : Call -> Option β} (calls : List Call) {new : Call}
    (unseen : view new = none) : viewOf view (calls ++ [new]) = viewOf view calls := by
  funext other
  rw [viewOf, viewOf]
  by_cases inside : other < calls.length
  · rw [List.getElem?_append_left inside]
  · rw [List.getElem?_append_right (Nat.le_of_not_lt inside),
      List.getElem?_eq_none (Nat.le_of_not_lt inside)]
    cases other - calls.length with
    | zero => exact unseen
    | succ more => rfl

/-- A dictionary finds each call under the key that a view shows of it. -/
def Indexed {κ : Type} [DecidableEq κ] (view : Call -> Option κ) (dict : Dict κ Nat)
    (calls : List Call) : Prop :=
  forall key number, Dict.get? dict key = some number ↔ viewOf view calls number = some key

namespace Indexed

variable {κ : Type} [DecidableEq κ] {view : Call -> Option κ} {dict : Dict κ Nat}
  {calls : List Call} {number : Nat} {old new : Call} {key : κ}

theorem of_same (indexed : Indexed view dict calls) {later : List Call}
    (same : viewOf view later = viewOf view calls) : Indexed view dict later := by
  intro key number
  rw [same]
  exact indexed key number

/-- A call gets a key that was not used. -/
theorem set (indexed : Indexed view dict calls) (found : calls[number]? = some old)
    (unseen : view old = none) (unused : forall other, Dict.get? dict key ≠ some other)
    (seen : view new = some key) :
    Indexed view (Dict.set dict key number) (calls.set number new) := by
  have before : viewOf view calls number = none := by
    rw [viewOf, found, Option.bind_some, unseen]
  intro other holder
  rw [Dict.get?_set, viewOf_set view found]
  by_cases own : number = holder
  · rw [if_pos own, seen]
    by_cases same : key = other
    · rw [if_pos same, same, own]
      exact ⟨fun _ => rfl, fun _ => rfl⟩
    · rw [if_neg same, indexed, ← own, before]
      exact ⟨fun impossible => (nomatch impossible),
        fun equal => absurd (Option.some.inj equal) same⟩
  · rw [if_neg own, ← indexed]
    by_cases same : key = other
    · rw [if_pos same]
      exact ⟨fun equal => absurd (Option.some.inj equal) own,
        fun entry => absurd (same ▸ entry) (unused holder)⟩
    · rw [if_neg same]

/-- A call gives up its key. -/
theorem erase (indexed : Indexed view dict calls) (found : calls[number]? = some old)
    (seen : view old = some key) (unseen : view new = none) :
    Indexed view (Dict.erase dict key) (calls.set number new) := by
  have before : Dict.get? dict key = some number := by
    rw [indexed, viewOf, found, Option.bind_some, seen]
  intro other holder
  rw [Dict.get?_erase, viewOf_set view found]
  by_cases own : number = holder
  · rw [if_pos own, unseen]
    by_cases same : key = other
    · rw [if_pos same]
      simp only [reduceCtorEq]
    · rw [if_neg same, indexed, viewOf, ← own, found, Option.bind_some, seen]
      exact ⟨fun equal => absurd (Option.some.inj equal) same,
        fun impossible => (nomatch impossible)⟩
  · rw [if_neg own, ← indexed]
    by_cases same : key = other
    · rw [if_pos same, ← same, before]
      exact ⟨fun impossible => (nomatch impossible),
        fun equal => absurd (Option.some.inj equal) own⟩
    · rw [if_neg same]

end Indexed

/-! ## Steps of one thread -/

/-- What a settings call or a manual feeding submits. -/
def Submission.Unscheduled (submission : Submission) : Prop :=
  (exists values, submission.persistence = .settings values ∧
    submission.command = Command.ATTR_SET_SERVICE ∧ submission.values = values.entries) ∨
  (submission.persistence = .nothing ∧ submission.command = Command.MANUAL_FEEDING_SERVICE)

theorem Submission.Unscheduled.not_schedule {submission : Submission}
    (kind : submission.Unscheduled) (edit : ScheduleEdit) :
    submission.persistence ≠ .schedule edit := by
  intro writes
  rcases kind with ⟨values, isSettings, _⟩ | ⟨isNothing, _⟩
  · rw [isSettings] at writes
    cases writes
  · rw [isNothing] at writes
    cases writes

theorem Submission.Unscheduled.command_ne {submission : Submission}
    (kind : submission.Unscheduled) : submission.command ≠ Command.FEEDING_PLAN_SERVICE := by
  rcases kind with ⟨_, _, command, _⟩ | ⟨_, command⟩
  · rw [command]
    decide
  · rw [command]
    decide

/-- The phases before the registration. -/
def Phase.isEarly : Phase -> Bool
  | .inFlight _ _ => false
  | .confirmed _ => false
  | .returned _ _ => false
  | _ => true

theorem Phase.registration_of_isEarly {phase : Phase} (early : phase.isEarly = true) :
    phase.registration? = none := by
  cases phase with
  | inFlight => cases early
  | confirmed => cases early
  | returned => cases early
  | begun => rfl
  | emptyTable => rfl
  | desiredRead => rfl
  | built => rfl
  | bridged => rfl
  | online => rfl

/-- The steps of a thread before it registers. -/
inductive Call.EarlyStep (shadow : StateShadow) (call : Call) : Answer -> Phase -> Prop where
  | unscheduled (answer : Answer) (built : Except ControlError Submission)
      (untimed : answer.isTableRead = false)
      (notRead : call.phase = .begun ∨ exists allowed desired,
        call.phase = .desiredRead allowed desired)
      (asks : forall request, call.request ≠ .edit request)
      (kind : forall submission, built = .ok submission -> submission.Unscheduled) :
      EarlyStep shadow call answer (Phase.ofSubmission built)
  | desired (allowed : List String) (begins : call.phase = .begun) :
      EarlyStep shadow call .readDesired
        (.desiredRead allowed (shadow.getDesired call.deviceId))
  | emptyTable (clock : Clock) (request : EditRequest) (begins : call.phase = .begun)
      (asks : call.request = .edit request)
      (empty : shadow.getSchedulePlans call.deviceId = []) :
      EarlyStep shadow call (.readTable clock) .emptyTable
  | tableRead (clock : Clock) (request : EditRequest) (begins : call.phase = .begun)
      (asks : call.request = .edit request)
      (known : shadow.getSchedulePlans call.deviceId ≠ []) :
      EarlyStep shadow call (.readTable clock) (Phase.ofSubmission (editSubmission clock
        ((shadow.getSchedulePlans call.deviceId).map SchedulePlan.plan) request))
  | fallbackRead (clock : Clock) (request : EditRequest) (empty : call.phase = .emptyTable)
      (asks : call.request = .edit request) :
      EarlyStep shadow call (.readFallback clock) (Phase.ofSubmission (editSubmission clock
        ((shadow.getFeedingPlans call.deviceId).getD []) request))
  | skipped (clock : Clock) (begins : call.phase = .begun) (asks : call.request = .resync) :
      EarlyStep shadow call (.readTable clock) (.returned none (.ok .skipped))
  | resynced (clock : Clock) (begins : call.phase = .begun) (asks : call.request = .resync) :
      EarlyStep shadow call (.readTable clock) (.built (snapshotSubmission clock "schedule:resync"
        (persistedSchedulePlans (shadow.getSchedulePlans call.deviceId)) .nothing))
  | bridged (submission : Submission) (productId : Option String)
      (built : call.phase = .built submission) :
      EarlyStep shadow call (.context productId) (.bridged submission)
  | present (submission : Submission) (online : Bool)
      (bridged : call.phase = .bridged submission) :
      EarlyStep shadow call (.presence online) (.online submission)
  | failed (answer : Answer) (problem : ControlError) (untimed : answer.isTableRead = false)
      (early : call.phase.isEarly = true) :
      EarlyStep shadow call answer (.returned none (.error problem))

/-- The steps of a thread whose transaction is in flight. -/
inductive Call.FlightStep (call : Call) : Answer -> Progress -> Progress -> Prop where
  | published : FlightStep call (.publish .published) .registered .published
  | publishFailed (outcome : PublishOutcome) (problem : ControlError)
      (failure : outcome ≠ .published) :
      FlightStep call (.publish outcome) .registered (.leaving (.error problem))
  | alreadyCompleted (done : call.completed = true) :
      FlightStep call .startWait .published .woken
  | waits : FlightStep call .startWait .published .waiting
  | wakes (done : call.completed = true) : FlightStep call .wake .waiting .woken
  | timesOut (problem : ControlError) :
      FlightStep call .timeOut .waiting (.leaving (.error problem))
  | isInteger (value : Int) (same : call.code = .int value) :
      FlightStep call .readType .woken .integer
  | notInteger (problem : ControlError) (different : forall value, call.code ≠ .int value) :
      FlightStep call .readType .woken (.leaving (.error problem))
  | isZero (same : call.code.eqInt 0 = true) :
      FlightStep call .readCode .integer (.leaving (.ok ()))
  | notZero (problem : ControlError) (different : call.code.eqInt 0 = false) :
      FlightStep call .readCode .integer (.leaving (.error problem))

theorem settingsSubmission_unscheduled {clock : Clock} {known : Settings}
    {updates : Dict String Json} {submission : Submission}
    (built : settingsSubmission clock known updates = .ok submission) :
    submission.Unscheduled := by
  rcases bind_ok built with ⟨values, _, same⟩
  cases same
  exact Or.inl ⟨values, rfl, rfl, rfl⟩

theorem dispenseSubmission_unscheduled {clock : Clock} {grainNum : Int} {submission : Submission}
    (built : dispenseSubmission clock grainNum = .ok submission) : submission.Unscheduled := by
  rw [dispenseSubmission] at built
  split at built
  · cases built
    exact Or.inr ⟨rfl, rfl⟩
  · cases built

/-- A step of a thread's own comes before the registration or stays in flight. -/
theorem advance_cases {shadow : StateShadow} {call : Call} {answer : Answer} {phase : Phase}
    (moves : call.advance shadow answer = some phase) :
    call.EarlyStep shadow answer phase ∨
      exists registration before after, call.phase = .inFlight registration before ∧
        phase = .inFlight registration after ∧ call.FlightStep answer before after := by
  unfold Call.advance at moves
  split at moves
  · next begins =>
      split at moves
      · next asks =>
          cases moves
          refine Or.inl (.unscheduled _ _ rfl (Or.inl begins) ?_ (fun submission built => ?_))
          · intro request isEdit
            rw [asks] at isEdit
            cases isEdit
          · rcases bind_ok built with ⟨_, _, done⟩
            exact settingsSubmission_unscheduled done
      · next asks =>
          cases moves
          refine Or.inl (.unscheduled _ _ rfl (Or.inl begins) ?_
            (fun submission built => dispenseSubmission_unscheduled built))
          intro request isEdit
          rw [asks] at isEdit
          cases isEdit
      · cases moves
  · next begins =>
      split at moves
      · split at moves
        · cases moves
          exact Or.inl (.desired _ begins)
        · cases moves
          exact Or.inl (.failed _ _ rfl (by rw [begins]; rfl))
      · cases moves
  · next allowed desired clock begins =>
      split at moves
      · next asks =>
          cases moves
          refine Or.inl (.unscheduled _ _ rfl (Or.inr ⟨_, _, begins⟩) ?_
            (fun submission built => settingsSubmission_unscheduled built))
          intro request isEdit
          rw [asks] at isEdit
          cases isEdit
      · cases moves
  · next clock begins =>
      split at moves
      · next request asks =>
          dsimp only at moves
          split at moves
          · next empty =>
              cases moves
              exact Or.inl (.emptyTable clock request begins asks empty)
          · next known =>
              cases moves
              refine Or.inl (.tableRead clock request begins asks ?_)
              rw [known]
              exact List.cons_ne_nil _ _
      · next asks =>
          dsimp only at moves
          split at moves
          · cases moves
            exact Or.inl (.skipped clock begins asks)
          · next listed =>
              cases moves
              rw [← listed]
              exact Or.inl (.resynced clock begins asks)
      · cases moves
  · next clock empty =>
      split at moves
      · next request asks =>
          cases moves
          exact Or.inl (.fallbackRead clock request empty asks)
      · cases moves
  · next submission productId built =>
      split at moves
      · cases moves
        exact Or.inl (.bridged submission productId built)
      · cases moves
        exact Or.inl (.failed _ _ rfl (by rw [built]; rfl))
  · next submission online bridged =>
      split at moves
      · cases moves
        exact Or.inl (.present submission online bridged)
      · cases moves
        exact Or.inl (.failed _ _ rfl (by rw [bridged]; rfl))
  · next registration outcome registered =>
      split at moves
      · cases moves
        exact Or.inr ⟨_, _, _, registered, rfl, .published⟩
      · cases moves
        exact Or.inr ⟨_, _, _, registered, rfl, .publishFailed _ _ (by decide)⟩
      · cases moves
        exact Or.inr ⟨_, _, _, registered, rfl, .publishFailed _ _ (by decide)⟩
  · next registration published =>
      split at moves
      · next done =>
          cases moves
          exact Or.inr ⟨_, _, _, published, rfl, .alreadyCompleted done⟩
      · cases moves
        exact Or.inr ⟨_, _, _, published, rfl, .waits⟩
  · next registration waiting =>
      split at moves
      · next done =>
          cases moves
          exact Or.inr ⟨_, _, _, waiting, rfl, .wakes done⟩
      · cases moves
  · next registration waiting =>
      cases moves
      exact Or.inr ⟨_, _, _, waiting, rfl, .timesOut _⟩
  · next registration woken =>
      split at moves
      · next value same =>
          cases moves
          exact Or.inr ⟨_, _, _, woken, rfl, .isInteger value same⟩
      · next different =>
          cases moves
          exact Or.inr ⟨_, _, _, woken, rfl, .notInteger _ different⟩
  · next registration integer =>
      split at moves
      · next same =>
          cases moves
          exact Or.inr ⟨_, _, _, integer, rfl, .isZero same⟩
      · next different =>
          cases moves
          exact Or.inr ⟨_, _, _, integer, rfl, .notZero _ (Bool.eq_false_iff.mpr different)⟩
  · cases moves

theorem submission_ofSubmission {built : Except ControlError Submission}
    {submission : Submission} (carries : (Phase.ofSubmission built).submission? = some submission) :
    built = .ok submission := by
  cases built with
  | ok other =>
      cases carries
      rfl
  | error problem => cases carries

/-- How a thread comes to the submission it carries. -/
inductive Call.Builds (shadow : StateShadow) (call : Call) : Answer -> Submission -> Prop where
  | unscheduled (answer : Answer) (submission : Submission)
      (asks : forall request, call.request ≠ .edit request) (kind : submission.Unscheduled) :
      Builds shadow call answer submission
  | edited (clock : Clock) (request : EditRequest) (edit : ScheduleEdit)
      (asks : call.request = .edit request)
      (accepted : editSchedule ((shadow.getSchedulePlans call.deviceId).map SchedulePlan.plan)
        clock.syncTimeMs request = .ok edit) :
      Builds shadow call (.readTable clock)
        (snapshotSubmission clock edit.kind.controlName edit.plans (.schedule edit))
  | editedFallback (clock : Clock) (request : EditRequest) (edit : ScheduleEdit)
      (empty : call.phase = .emptyTable) (asks : call.request = .edit request)
      (accepted : editSchedule ((shadow.getFeedingPlans call.deviceId).getD [])
        clock.syncTimeMs request = .ok edit) :
      Builds shadow call (.readFallback clock)
        (snapshotSubmission clock edit.kind.controlName edit.plans (.schedule edit))
  | resynced (clock : Clock) (asks : call.request = .resync) :
      Builds shadow call (.readTable clock) (snapshotSubmission clock "schedule:resync"
        (persistedSchedulePlans (shadow.getSchedulePlans call.deviceId)) .nothing)

theorem editSubmission_ok {clock : Clock} {plans : List Plan} {request : EditRequest}
    {submission : Submission} (built : editSubmission clock plans request = .ok submission) :
    exists edit, editSchedule plans clock.syncTimeMs request = .ok edit ∧
      submission =
        snapshotSubmission clock edit.kind.controlName edit.plans (.schedule edit) := by
  rcases bind_ok built with ⟨edit, accepted, same⟩
  cases same
  exact ⟨edit, accepted, rfl⟩

theorem plans_snapshotSubmission (clock : Clock) (controlName : String) (plans : List Plan)
    (persistence : Persistence) :
    (snapshotSubmission clock controlName plans persistence).plans = plans := by
  have kept : (plans.map Json.obj).filterMap Json.fields? = plans := by
    rw [List.filterMap_map]
    exact List.filterMap_some
  exact kept

/-- After an early step a call carries what it carried before or what it built. -/
theorem Call.EarlyStep.submission_eq {shadow : StateShadow} {call : Call} {answer : Answer}
    {phase : Phase} (step : call.EarlyStep shadow answer phase) {submission : Submission}
    (carries : phase.submission? = some submission) :
    (call.phase.submission? = some submission ∧ answer.isTableRead = false) ∨
      call.Builds shadow answer submission := by
  cases step with
  | unscheduled answer built untimed notRead asks kind =>
      exact Or.inr (.unscheduled answer submission asks (kind _ (submission_ofSubmission carries)))
  | tableRead clock request begins asks known =>
      rcases editSubmission_ok (submission_ofSubmission carries) with ⟨edit, accepted, same⟩
      rw [same]
      exact Or.inr (.edited clock request edit asks accepted)
  | fallbackRead clock request empty asks =>
      rcases editSubmission_ok (submission_ofSubmission carries) with ⟨edit, accepted, same⟩
      rw [same]
      exact Or.inr (.editedFallback clock request edit empty asks accepted)
  | resynced clock begins asks =>
      cases carries
      exact Or.inr (.resynced clock asks)
  | bridged other productId built =>
      cases carries
      exact Or.inl ⟨by rw [built]; rfl, rfl⟩
  | present other online bridged =>
      cases carries
      exact Or.inl ⟨by rw [bridged]; rfl, rfl⟩
  | desired => cases carries
  | emptyTable => cases carries
  | skipped => cases carries
  | failed => cases carries

theorem registration_ofSubmission (built : Except ControlError Submission) :
    (Phase.ofSubmission built).registration? = none := by
  cases built <;> rfl

theorem Call.EarlyStep.isEarly {shadow : StateShadow} {call : Call} {answer : Answer}
    {phase : Phase} (step : call.EarlyStep shadow answer phase) : call.phase.isEarly = true := by
  cases step with
  | unscheduled answer built untimed notRead asks kind =>
      rcases notRead with begins | ⟨allowed, desired, begins⟩
      · rw [begins]
        rfl
      · rw [begins]
        rfl
  | desired allowed begins => rw [begins]; rfl
  | emptyTable clock request begins asks empty => rw [begins]; rfl
  | tableRead clock request begins asks known => rw [begins]; rfl
  | fallbackRead clock request empty asks => rw [empty]; rfl
  | skipped clock begins asks => rw [begins]; rfl
  | resynced clock begins asks => rw [begins]; rfl
  | bridged submission productId built => rw [built]; rfl
  | present submission online bridged => rw [bridged]; rfl
  | failed answer problem untimed early => exact early

/-- An early step does not register. -/
theorem Call.EarlyStep.unregistered {shadow : StateShadow} {call : Call} {answer : Answer}
    {phase : Phase} (step : call.EarlyStep shadow answer phase) :
    phase.registration? = none := by
  cases step with
  | unscheduled answer built => exact registration_ofSubmission built
  | tableRead clock request begins asks known => exact registration_ofSubmission _
  | fallbackRead clock request empty asks => exact registration_ofSubmission _
  | desired => rfl
  | emptyTable => rfl
  | skipped => rfl
  | resynced => rfl
  | bridged => rfl
  | present => rfl
  | failed => rfl

/-- A step of a thread's own does not touch its transaction. -/
theorem registration_advance {shadow : StateShadow} {call : Call} {answer : Answer} {phase : Phase}
    (moves : call.advance shadow answer = some phase) :
    phase.registration? = call.registration? := by
  rcases advance_cases moves with early | ⟨registration, before, after, own, same, _⟩
  · exact early.unregistered.trans (Phase.registration_of_isEarly early.isEarly).symm
  · rw [Call.registration?, own, same]
    rfl

theorem Registration.registration_afterCleanUp (registration : Registration)
    (result : Except ControlError Unit) :
    (registration.afterCleanUp result).registration? = some registration := by
  cases result <;> rfl

/-! ## Steps of the controller -/

/-- Everything a step can do. -/
inductive ControlEffect (loads : Loads) (controller : Controller) :
    ControlAction -> Controller -> Prop where
  | called (deviceId : String) (request : Request) :
      ControlEffect loads controller (.call deviceId request) { controller with
        calls := controller.calls ++ [{ deviceId := deviceId, request := request }] }
  | advanced (number : Nat) (answer : Answer) (call : Call) (phase : Phase)
      (found : controller.calls[number]? = some call)
      (moves : call.advance controller.shadow answer = some phase) :
      ControlEffect loads controller (.advance number answer)
        (controller.setCall number (call.moved answer phase controller.events))
  | refused (number : Nat) (msgId : String) (call : Call) (submission : Submission)
      (found : controller.calls[number]? = some call)
      (ready : call.phase = .online submission)
      (taken : call.deviceId ∈ controller.active) :
      ControlEffect loads controller (.register number msgId)
        (controller.setCall number call.refused)
  | registered (number : Nat) (msgId : String) (call : Call) (submission : Submission)
      (registration : Registration)
      (found : controller.calls[number]? = some call)
      (ready : call.phase = .online submission)
      (free : call.deviceId ∉ controller.active)
      (fresh : forall key, key ∈ Dict.keys controller.minted -> key.2 ≠ msgId)
      (made : registration = ⟨msgId, submission, controller.events.length⟩) :
      ControlEffect loads controller (.register number msgId) { controller with
        pending := Dict.set controller.pending (call.deviceId, msgId) number
        active := call.deviceId :: controller.active
        minted := Dict.set controller.minted (call.deviceId, msgId) number
        calls := controller.calls.set number
          { call with phase := .inFlight registration .registered } }
  | unmatched (deviceId topic : String) (payload : List UInt8)
      (foreign : forall ack, acknowledgement? loads deviceId topic payload = some ack ->
        controller.matched? deviceId ack = none) :
      ControlEffect loads controller (.observe deviceId topic payload) { controller with
        events := controller.events ++ [.arrived deviceId topic payload] }
  | matched (deviceId topic : String) (payload : List UInt8) (ack : Acknowledgement)
      (number : Nat) (call : Call) (registration : Registration)
      (read : acknowledgement? loads deviceId topic payload = some ack)
      (entry : Dict.get? controller.pending (deviceId, ack.msgId) = some number)
      (found : controller.calls[number]? = some call)
      (own : call.registration? = some registration)
      (sameCommand : registration.submission.command = ack.command) :
      ControlEffect loads controller (.observe deviceId topic payload) { controller with
        calls := controller.calls.set number { call with code := ack.code, completed := true }
        events := controller.events ++ [.arrived deviceId topic payload] }
  | cleaned (number : Nat) (call : Call) (registration : Registration)
      (result : Except ControlError Unit)
      (found : controller.calls[number]? = some call)
      (leaving : call.phase = .inFlight registration (.leaving result)) :
      ControlEffect loads controller (.cleanUp number) { controller with
        pending := Dict.erase controller.pending (call.deviceId, registration.msgId)
        active := controller.active.filter (fun deviceId => decide (deviceId ≠ call.deviceId))
        calls := controller.calls.set number
          { call with phase := registration.afterCleanUp result } }
  | stored (number : Nat) (call : Call) (registration : Registration) (shadow : StateShadow)
      (found : controller.calls[number]? = some call)
      (ready : call.phase = .confirmed registration)
      (written : registration.submission.persistence.write controller.shadow call.deviceId =
        some shadow) :
      ControlEffect loads controller (.persist number) { controller with
        shadow := shadow
        events := controller.events ++
          [.persisted number call.deviceId registration.submission.persistence]
        calls := controller.calls.set number
          (call.finished registration (.ok (registration.submission.reply call.request))) }
  | notStored (number : Nat) (call : Call) (registration : Registration)
      (found : controller.calls[number]? = some call)
      (ready : call.phase = .confirmed registration)
      (raised : registration.submission.persistence.write controller.shadow call.deviceId = none) :
      ControlEffect loads controller (.persist number) (controller.setCall number
        (call.finished registration (.error .raised)))
  | cached (deviceId topic : String) (payload : List UInt8) (plans : List Plan)
      (taught : lesson loads payload = .plans plans) :
      ControlEffect loads controller (.cloudMessage deviceId topic payload) { controller with
        shadow := (controller.shadow.recordRaw deviceId topic payload
          (extractCommand loads payload)).updateFeedingPlans deviceId plans
        merging := (deviceId, plans) :: controller.merging
        events := controller.events ++ [.plansCached deviceId plans] }
  | learned (deviceId topic : String) (payload : List UInt8)
      (taught : forall plans, lesson loads payload ≠ .plans plans) :
      ControlEffect loads controller (.cloudMessage deviceId topic payload) { controller with
        shadow := Controller.learned (controller.shadow.recordRaw deviceId topic payload
          (extractCommand loads payload)) deviceId (lesson loads payload) }
  | merged (deviceId : String) (plans : List Plan) (shadow : StateShadow)
      (cachedBefore : (deviceId, plans) ∈ controller.merging)
      (written : controller.shadow.updateCloudSchedulePlans deviceId plans = some shadow) :
      ControlEffect loads controller (.mergePlans deviceId plans) { controller with
        merging := controller.merging.erase (deviceId, plans)
        shadow := shadow
        events := controller.events ++ [.plansMerged deviceId plans] }
  | notMerged (deviceId : String) (plans : List Plan)
      (cachedBefore : (deviceId, plans) ∈ controller.merging)
      (raised : controller.shadow.updateCloudSchedulePlans deviceId plans = none) :
      ControlEffect loads controller (.mergePlans deviceId plans) { controller with
        merging := controller.merging.erase (deviceId, plans) }

theorem controlEffect_of_step {loads : Loads} {controller after : Controller}
    {action : ControlAction} (step : controllerStep loads controller action = some after) :
    ControlEffect loads controller action after := by
  cases action with
  | call deviceId request =>
      cases step
      exact .called deviceId request
  | advance number answer =>
      rw [controllerStep] at step
      split at step
      · cases step
      · next call found =>
          rcases Option.map_eq_some_iff.mp step with ⟨phase, moves, same⟩
          cases same
          exact .advanced number answer call phase found moves
  | register number msgId =>
      rw [controllerStep, Controller.register] at step
      split at step
      · cases step
      · next call found =>
          split at step
          · next submission ready =>
              split at step
              · next taken =>
                  cases step
                  exact .refused number msgId call submission found ready taken
              · next free =>
                  split at step
                  · cases step
                  · next unused =>
                      cases step
                      refine .registered number msgId call submission _ found ready free ?_ rfl
                      intro key member same
                      exact unused (List.any_eq_true.mpr ⟨key, member, decide_eq_true same⟩)
          · cases step
  | observe deviceId topic payload =>
      rw [controllerStep, Controller.observeDeviceMessage] at step
      split at step
      · next unread =>
          cases step
          refine .unmatched deviceId topic payload (fun ack read => ?_)
          rw [unread] at read
          cases read
      · next ack read =>
          split at step
          · next foreign =>
              cases step
              refine .unmatched deviceId topic payload (fun other readOther => ?_)
              rw [read] at readOther
              cases readOther
              exact foreign
          · next number call found =>
              cases step
              unfold Controller.matched? at found
              split at found
              · cases found
              · next entryNumber entry =>
                  split at found
                  · cases found
                  · next entryCall entryFound =>
                      split at found
                      · cases found
                      · next registration own =>
                          split at found
                          · next sameCommand =>
                              cases found
                              exact .matched deviceId topic payload ack _ _ registration read entry
                                entryFound own sameCommand
                          · cases found
  | cleanUp number =>
      rw [controllerStep, Controller.cleanUp] at step
      split at step
      · cases step
      · next call found =>
          split at step
          · next registration result leaving =>
              cases step
              exact .cleaned number call registration result found leaving
          · cases step
  | persist number =>
      rw [controllerStep, Controller.persist] at step
      split at step
      · cases step
      · next call found =>
          split at step
          · next registration ready =>
              split at step
              · next shadow written =>
                  cases step
                  exact .stored number call registration shadow found ready written
              · next raised =>
                  cases step
                  exact .notStored number call registration found ready raised
          · cases step
  | cloudMessage deviceId topic payload =>
      rw [controllerStep, Controller.cloudMessage] at step
      split at step
      · next plans taught =>
          cases step
          exact .cached deviceId topic payload plans taught
      · next other =>
          cases step
          exact .learned deviceId topic payload (fun plans taught => other plans taught)
  | mergePlans deviceId plans =>
      rw [controllerStep, Controller.mergePlans] at step
      split at step
      · next cachedBefore =>
          split at step
          · next shadow written =>
              cases step
              exact .merged deviceId plans shadow cachedBefore written
          · next raised =>
              cases step
              exact .notMerged deviceId plans cachedBefore raised
      · cases step

/-! ## What a step does to one call -/

/-- Everything a step can do to a call that exists. -/
inductive CallEffect (loads : Loads) (controller : Controller) (number : Nat) (call : Call) :
    ControlAction -> Call -> Prop where
  | unchanged (action : ControlAction) : CallEffect loads controller number call action call
  | advanced (answer : Answer) (phase : Phase)
      (moves : call.advance controller.shadow answer = some phase) :
      CallEffect loads controller number call (.advance number answer)
        (call.moved answer phase controller.events)
  | refused (msgId : String) (submission : Submission)
      (ready : call.phase = .online submission) :
      CallEffect loads controller number call (.register number msgId) call.refused
  | registered (msgId : String) (submission : Submission) (registration : Registration)
      (ready : call.phase = .online submission)
      (made : registration = ⟨msgId, submission, controller.events.length⟩) :
      CallEffect loads controller number call (.register number msgId)
        { call with phase := .inFlight registration .registered }
  | answered (deviceId topic : String) (payload : List UInt8) (ack : Acknowledgement)
      (registration : Registration)
      (read : acknowledgement? loads deviceId topic payload = some ack)
      (entry : Dict.get? controller.pending (deviceId, ack.msgId) = some number)
      (own : call.registration? = some registration)
      (sameCommand : registration.submission.command = ack.command) :
      CallEffect loads controller number call (.observe deviceId topic payload)
        { call with code := ack.code, completed := true }
  | cleaned (registration : Registration) (result : Except ControlError Unit)
      (leaving : call.phase = .inFlight registration (.leaving result)) :
      CallEffect loads controller number call (.cleanUp number)
        { call with phase := registration.afterCleanUp result }
  | stored (registration : Registration) (shadow : StateShadow)
      (ready : call.phase = .confirmed registration)
      (written : registration.submission.persistence.write controller.shadow call.deviceId =
        some shadow) :
      CallEffect loads controller number call (.persist number)
        (call.finished registration (.ok (registration.submission.reply call.request)))
  | notStored (registration : Registration) (ready : call.phase = .confirmed registration)
      (raised : registration.submission.persistence.write controller.shadow call.deviceId = none) :
      CallEffect loads controller number call (.persist number)
        (call.finished registration (.error .raised))

namespace CallEffect

variable {loads : Loads} {controller : Controller} {number : Nat} {call new : Call}
  {action : ControlAction}

theorem deviceId_eq (effect : CallEffect loads controller number call action new) :
    new.deviceId = call.deviceId := by
  cases effect <;> rfl

theorem request_eq (effect : CallEffect loads controller number call action new) :
    new.request = call.request := by
  cases effect <;> rfl

/-- A transaction belongs to its call for good, and begins with a registration. -/
theorem registration_eq (effect : CallEffect loads controller number call action new) :
    new.registration? = call.registration? ∨
      exists msgId submission, action = .register number msgId ∧
        call.phase = .online submission ∧
        new.registration? = some ⟨msgId, submission, controller.events.length⟩ := by
  cases effect with
  | unchanged => exact Or.inl rfl
  | advanced answer phase moves => exact Or.inl (registration_advance moves)
  | refused msgId submission ready =>
      refine Or.inl ?_
      rw [Call.registration?, Call.registration?, ready]
      rfl
  | registered msgId submission registration ready made =>
      exact Or.inr ⟨msgId, submission, rfl, ready, congrArg some made⟩
  | answered => exact Or.inl rfl
  | cleaned registration result leaving =>
      refine Or.inl ((registration.registration_afterCleanUp result).trans ?_)
      rw [Call.registration?, leaving]
      rfl
  | stored registration shadow ready written =>
      refine Or.inl ?_
      rw [Call.registration?, Call.registration?, ready]
      rfl
  | notStored registration ready raised =>
      refine Or.inl ?_
      rw [Call.registration?, Call.registration?, ready]
      rfl

theorem registration_of_some (effect : CallEffect loads controller number call action new)
    {registration : Registration} (own : call.registration? = some registration) :
    new.registration? = some registration := by
  rcases effect.registration_eq with same | ⟨msgId, submission, _, ready, _⟩
  · exact same.trans own
  · rw [Call.registration?, ready] at own
    cases own

/-- Only a read of the table changes the version a call has read. -/
theorem readVersion_eq (effect : CallEffect loads controller number call action new) :
    new.readVersion = call.readVersion ∨
      new.readVersion = version call.deviceId controller.events := by
  cases effect with
  | advanced answer phase moves =>
      rw [Call.moved]
      split
      · exact Or.inr rfl
      · exact Or.inl rfl
  | unchanged => exact Or.inl rfl
  | refused => exact Or.inl rfl
  | registered => exact Or.inl rfl
  | answered => exact Or.inl rfl
  | cleaned => exact Or.inl rfl
  | stored => exact Or.inl rfl
  | notStored => exact Or.inl rfl

/-- A call carries the submission it carried before, or one it has just built. -/
theorem submission_eq (effect : CallEffect loads controller number call action new)
    {submission : Submission} (carries : new.phase.submission? = some submission) :
    (call.phase.submission? = some submission ∧ new.readVersion = call.readVersion) ∨
      exists answer, action = .advance number answer ∧
        call.Builds controller.shadow answer submission ∧
        new.readVersion = if answer.isTableRead then version call.deviceId controller.events
          else call.readVersion := by
  cases effect with
  | unchanged => exact Or.inl ⟨carries, rfl⟩
  | advanced answer phase moves =>
      rcases advance_cases moves with early | ⟨registration, before, after, flies, same, step⟩
      · rcases early.submission_eq carries with ⟨same, untimed⟩ | builds
        · refine Or.inl ⟨same, ?_⟩
          rw [Call.moved, untimed]
          rfl
        · exact Or.inr ⟨answer, rfl, builds, rfl⟩
      · subst phase
        refine Or.inl ⟨?_, ?_⟩
        · rw [flies]
          exact carries
        · cases step <;> rfl
  | refused msgId other ready => cases carries
  | registered msgId other registration ready made =>
      cases carries
      refine Or.inl ⟨?_, rfl⟩
      rw [ready, made]
      rfl
  | answered => exact Or.inl ⟨carries, rfl⟩
  | cleaned registration result leaving =>
      refine Or.inl ⟨?_, rfl⟩
      rw [leaving]
      cases result with
      | ok done => exact carries
      | error problem => cases carries
  | stored registration shadow ready written => cases carries
  | notStored registration ready raised => cases carries

/-- A call that found the table empty found it so before, or just now. -/
theorem emptyTable_eq (effect : CallEffect loads controller number call action new)
    (empty : new.phase = .emptyTable) :
    (call.phase = .emptyTable ∧ new.readVersion = call.readVersion) ∨
      (controller.shadow.getSchedulePlans call.deviceId = [] ∧
        new.readVersion = version call.deviceId controller.events) := by
  cases effect with
  | unchanged => exact Or.inl ⟨empty, rfl⟩
  | advanced answer phase moves =>
      rcases advance_cases moves with early | ⟨registration, before, after, flies, same, step⟩
      · replace empty : phase = .emptyTable := empty
        subst phase
        generalize shape : Phase.emptyTable = target at early
        cases early with
        | emptyTable clock request begins asks nothing => exact Or.inr ⟨nothing, rfl⟩
        | unscheduled answer built => cases built <;> cases shape
        | tableRead clock request =>
            cases made : editSubmission clock _ request <;> rw [made] at shape <;> cases shape
        | fallbackRead clock request =>
            cases made : editSubmission clock _ request <;> rw [made] at shape <;> cases shape
        | desired => cases shape
        | skipped => cases shape
        | resynced => cases shape
        | bridged => cases shape
        | present => cases shape
        | failed => cases shape
      · subst phase
        cases empty
  | refused msgId submission ready => cases empty
  | registered msgId submission registration ready made => cases empty
  | answered => exact Or.inl ⟨empty, rfl⟩
  | cleaned registration result leaving => cases result <;> cases empty
  | stored registration shadow ready written => cases empty
  | notStored registration ready raised => cases empty

/-- A call that has returned is over. -/
theorem returned_stays (effect : CallEffect loads controller number call action new)
    {registration : Option Registration} {result : Result}
    (ended : call.phase = .returned registration result) :
    new.phase = .returned registration result := by
  cases effect with
  | unchanged => exact ended
  | advanced answer phase moves =>
      rcases advance_cases moves with early | ⟨own, before, after, flies, _⟩
      · have begins := early.isEarly
        rw [ended] at begins
        cases begins
      · rw [flies] at ended
        cases ended
  | refused msgId submission ready => rw [ready] at ended; cases ended
  | registered msgId submission registration ready made => rw [ready] at ended; cases ended
  | answered => exact ended
  | cleaned registration result leaving => rw [leaving] at ended; cases ended
  | stored registration shadow ready written => rw [ready] at ended; cases ended
  | notStored registration ready raised => rw [ready] at ended; cases ended

end CallEffect

namespace ControlEffect

variable {loads : Loads} {controller after : Controller} {action : ControlAction}

/-- A call that exists is still there after a step. -/
theorem keeps (effect : ControlEffect loads controller action after) {number : Nat} {call : Call}
    (known : controller.calls[number]? = some call) :
    exists new, after.calls[number]? = some new ∧
      CallEffect loads controller number call action new := by
  have replaced : forall (other : Nat) (old new : Call), controller.calls[other]? = some old ->
      (forall same : other = number, CallEffect loads controller number call action new) ->
      exists result, (controller.calls.set other new)[number]? = some result ∧
        CallEffect loads controller number call action result := by
    intro other old new found changed
    rw [getElem?_set_of_found found]
    by_cases same : other = number
    · exact ⟨new, if_pos same, changed same⟩
    · exact ⟨call, (if_neg same).trans known, .unchanged action⟩
  cases effect with
  | called deviceId request =>
      refine ⟨call, ?_, .unchanged _⟩
      exact (List.getElem?_append_left (List.getElem?_eq_some_iff.mp known).1).trans known
  | advanced other answer old phase found moves =>
      refine replaced other old _ found (fun same => ?_)
      subst other
      cases known.symm.trans found
      exact .advanced answer phase moves
  | refused other msgId old submission found ready taken =>
      refine replaced other old _ found (fun same => ?_)
      subst other
      cases known.symm.trans found
      exact .refused msgId submission ready
  | registered other msgId old submission registration found ready free fresh made =>
      refine replaced other old _ found (fun same => ?_)
      subst other
      cases known.symm.trans found
      exact .registered msgId submission registration ready made
  | matched deviceId topic payload ack other old registration read entry found own sameCommand =>
      refine replaced other old _ found (fun same => ?_)
      subst other
      cases known.symm.trans found
      exact .answered deviceId topic payload ack registration read entry own sameCommand
  | cleaned other old registration result found leaving =>
      refine replaced other old _ found (fun same => ?_)
      subst other
      cases known.symm.trans found
      exact .cleaned registration result leaving
  | stored other old registration shadow found ready written =>
      refine replaced other old _ found (fun same => ?_)
      subst other
      cases known.symm.trans found
      exact .stored registration shadow ready written
  | notStored other old registration found ready raised =>
      refine replaced other old _ found (fun same => ?_)
      subst other
      cases known.symm.trans found
      exact .notStored registration ready raised
  | unmatched => exact ⟨call, known, .unchanged _⟩
  | cached => exact ⟨call, known, .unchanged _⟩
  | learned => exact ⟨call, known, .unchanged _⟩
  | merged => exact ⟨call, known, .unchanged _⟩
  | notMerged => exact ⟨call, known, .unchanged _⟩

/-- A step adds at most the call it begins. -/
theorem length_calls (effect : ControlEffect loads controller action after) :
    after.calls.length = controller.calls.length ∨
      exists deviceId request, action = .call deviceId request ∧
        after.calls = controller.calls ++ [{ deviceId := deviceId, request := request }] := by
  cases effect with
  | called deviceId request => exact Or.inr ⟨deviceId, request, rfl, rfl⟩
  | advanced => exact Or.inl List.length_set
  | refused => exact Or.inl List.length_set
  | registered => exact Or.inl List.length_set
  | matched => exact Or.inl List.length_set
  | cleaned => exact Or.inl List.length_set
  | stored => exact Or.inl List.length_set
  | notStored => exact Or.inl List.length_set
  | unmatched => exact Or.inl rfl
  | cached => exact Or.inl rfl
  | learned => exact Or.inl rfl
  | merged => exact Or.inl rfl
  | notMerged => exact Or.inl rfl

/-- A call after a step is new, or what the step made of an old one. -/
theorem origin (effect : ControlEffect loads controller action after) {number : Nat} {new : Call}
    (found : after.calls[number]? = some new) :
    (exists deviceId request, action = .call deviceId request ∧
      number = controller.calls.length ∧
      new = { deviceId := deviceId, request := request }) ∨
    exists call, controller.calls[number]? = some call ∧
      CallEffect loads controller number call action new := by
  have inside := (List.getElem?_eq_some_iff.mp found).1
  by_cases known : number < controller.calls.length
  · have old := List.getElem?_eq_getElem known
    rcases effect.keeps old with ⟨result, same, changed⟩
    cases found.symm.trans same
    exact Or.inr ⟨_, old, changed⟩
  · rcases effect.length_calls with equal | ⟨deviceId, request, isCall, grown⟩
    · exact absurd (equal ▸ inside) known
    · have last : number = controller.calls.length := by
        rw [grown, List.length_append, List.length_singleton] at inside
        omega
      rw [grown, last, List.getElem?_concat_length] at found
      cases found
      exact Or.inl ⟨deviceId, request, isCall, last, rfl⟩

/-- A call returns with the write of what was confirmed. -/
theorem returned_of_persist {number : Nat}
    (effect : ControlEffect loads controller (.persist number) after) {new : Call}
    (found : after.calls[number]? = some new) :
    exists registration result, new.phase = .returned (some registration) result := by
  cases effect with
  | stored _ call registration shadow known ready written =>
      have same := (getElem?_set_of_found known _ number).symm.trans found
      rw [if_pos rfl] at same
      cases same
      exact ⟨registration, _, rfl⟩
  | notStored _ call registration known ready raised =>
      have same := (getElem?_set_of_found known _ number).symm.trans found
      rw [if_pos rfl] at same
      cases same
      exact ⟨registration, _, rfl⟩

/-- A snapshot being merged was already, or has just been cached. -/
theorem merging_origin (effect : ControlEffect loads controller action after) {deviceId : String}
    {plans : List Plan} (pushed : (deviceId, plans) ∈ after.merging) :
    (deviceId, plans) ∈ controller.merging ∨
      exists topic payload, action = .cloudMessage deviceId topic payload ∧
        lesson loads payload = .plans plans ∧
        after.events = controller.events ++ [.plansCached deviceId plans] ∧
        after.calls = controller.calls := by
  cases effect with
  | cached owner topic payload learned taught =>
      rcases List.mem_cons.mp pushed with same | old
      · cases same
        exact Or.inr ⟨topic, payload, rfl, taught, rfl, rfl⟩
      · exact Or.inl old
  | merged => exact Or.inl (List.mem_of_mem_erase pushed)
  | notMerged => exact Or.inl (List.mem_of_mem_erase pushed)
  | called => exact Or.inl pushed
  | advanced => exact Or.inl pushed
  | refused => exact Or.inl pushed
  | registered => exact Or.inl pushed
  | unmatched => exact Or.inl pushed
  | matched => exact Or.inl pushed
  | cleaned => exact Or.inl pushed
  | stored => exact Or.inl pushed
  | notStored => exact Or.inl pushed
  | learned => exact Or.inl pushed

/-- The history only grows, and an observed message is noted whatever it
resolves. -/
theorem events_grow (effect : ControlEffect loads controller action after) :
    exists more, after.events = controller.events ++ more ∧
      forall deviceId topic payload, action = .observe deviceId topic payload ->
        more = [.arrived deviceId topic payload] := by
  cases effect with
  | unmatched deviceId topic payload foreign =>
      refine ⟨_, rfl, ?_⟩
      rintro _ _ _ ⟨⟩
      rfl
  | matched deviceId topic payload ack number call registration read entry found own same =>
      refine ⟨_, rfl, ?_⟩
      rintro _ _ _ ⟨⟩
      rfl
  | called => exact ⟨[], (List.append_nil _).symm, fun _ _ _ same => nomatch same⟩
  | advanced => exact ⟨[], (List.append_nil _).symm, fun _ _ _ same => nomatch same⟩
  | refused => exact ⟨[], (List.append_nil _).symm, fun _ _ _ same => nomatch same⟩
  | registered => exact ⟨[], (List.append_nil _).symm, fun _ _ _ same => nomatch same⟩
  | cleaned => exact ⟨[], (List.append_nil _).symm, fun _ _ _ same => nomatch same⟩
  | stored => exact ⟨_, rfl, fun _ _ _ same => nomatch same⟩
  | notStored => exact ⟨[], (List.append_nil _).symm, fun _ _ _ same => nomatch same⟩
  | cached => exact ⟨_, rfl, fun _ _ _ same => nomatch same⟩
  | learned => exact ⟨[], (List.append_nil _).symm, fun _ _ _ same => nomatch same⟩
  | merged => exact ⟨_, rfl, fun _ _ _ same => nomatch same⟩
  | notMerged => exact ⟨[], (List.append_nil _).symm, fun _ _ _ same => nomatch same⟩

end ControlEffect

end Control
end PetlibroRelay
