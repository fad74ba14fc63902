import PetlibroRelay.Shadow.StateShadow

namespace PetlibroRelay
namespace Control

open Foundations
open Shadow

/-!
# Schedule edits

An edit reads the whole plan list, changes one plan and submits the whole list
again.  The functions here are the parts between the read and the submission.
A raised exception is the error side of an `Except` value.

A plan is compared with a requested identifier by value, so a plan whose
identifier is the number `5.0` is plan five.  Only integers are ever persisted.
-/

/-- The exceptions of a control call, with the texts they carry.  `raised` is
any exception that is not one of the controller's own. -/
inductive ControlError where
  | stateUnavailable (message : String)
  | offline (message : String)
  | busy (message : String)
  | publishFailed (message : String)
  | ackTimeout (message : String)
  | ackRejected (controlName : String) (code : Json)
  | raised
  deriving DecidableEq

def MIN_GRAIN_NUM : Int := 1
def MAX_GRAIN_NUM : Int := 48
def MIN_AUDIO_TIMES : Int := 1
def MAX_AUDIO_TIMES : Int := 5

/-! ## Times of day -/

/-- The zeros of the Unicode decimal digits, each followed by its nine others. -/
def DECIMAL_ZEROS : List Nat :=
  [0x30, 0x660, 0x6f0, 0x7c0, 0x966, 0x9e6, 0xa66, 0xae6, 0xb66, 0xbe6, 0xc66, 0xce6, 0xd66,
    0xde6, 0xe50, 0xed0, 0xf20, 0x1040, 0x1090, 0x17e0, 0x1810, 0x1946, 0x19d0, 0x1a80, 0x1a90,
    0x1b50, 0x1bb0, 0x1c40, 0x1c50, 0xa620, 0xa8d0, 0xa900, 0xa9d0, 0xa9f0, 0xaa50, 0xabf0,
    0xff10, 0x104a0, 0x10d30, 0x11066, 0x110f0, 0x11136, 0x111d0, 0x112f0, 0x11450, 0x114d0,
    0x11650, 0x116c0, 0x11730, 0x118e0, 0x11950, 0x11c50, 0x11d50, 0x11da0, 0x11f50, 0x16a60,
    0x16ac0, 0x16b50, 0x1d7ce, 0x1d7d8, 0x1d7e2, 0x1d7ec, 0x1d7f6, 0x1e140, 0x1e2f0, 0x1e4f0,
    0x1e950, 0x1fbf0]

/-- The value of a decimal digit of any script. -/
def digitValue (character : Char) : Option Nat :=
  (DECIMAL_ZEROS.find? (fun first => decide (first ≤ character.toNat) &&
    decide (character.toNat ≤ first + 9))).map (fun first => character.toNat - first)

structure LocalTime where
  hour : Nat
  minute : Nat
  deriving DecidableEq, Repr

/-- The hour before the colon.  Two characters are an hour only when the first
is an ASCII digit that can begin one. -/
def parseHour : List Char -> Option (Nat × List Char)
  | first :: ':' :: rest => (digitValue first).map (fun hour => (hour, rest))
  | first :: second :: ':' :: rest =>
      if first = '2' then
        if second ∈ ['0', '1', '2', '3'] then
          (digitValue second).map (fun unit => (20 + unit, rest))
        else none
      else if first = '0' ∨ first = '1' then
        (digitValue first).bind (fun ten =>
          (digitValue second).map (fun unit => (10 * ten + unit, rest)))
      else none
  | _ => none

/-- The minute after the colon, with nothing left over. -/
def parseMinute : List Char -> Option Nat
  | [only] => digitValue only
  | [first, second] =>
      if first ∈ ['0', '1', '2', '3', '4', '5'] then
        (digitValue first).bind (fun ten => (digitValue second).map (fun unit => 10 * ten + unit))
      else none
  | _ => none

/-- Read a time in the format `%H:%M`. -/
def parseTime (value : String) : Except ControlError LocalTime :=
  match (parseHour value.toList).bind (fun parsed =>
      (parseMinute parsed.2).map (fun minute => LocalTime.mk parsed.1 minute)) with
  | some time => .ok time
  | none => .error (.stateUnavailable "Time must use HH:MM")

/-- The minute of the day. -/
def minutes (value : String) : Except ControlError Int :=
  (parseTime value).map (fun time => (time.hour * 60 + time.minute : Nat))

example : parseTime "7:05" = .ok ⟨7, 5⟩ := by decide
example : parseTime "24:00" = .error (.stateUnavailable "Time must use HH:MM") := by decide

/-! ## Plans -/

/-- Whether the plan has the identifier, compared by value. -/
def hasPlanId (plan : Plan) (id : Int) : Bool :=
  (Dict.get? plan "planId").any (fun value => value.eqInt id)

/-- A new negative identifier below all negative ones in the list. -/
def nextLocalPlanId (plans : List Plan) : Int :=
  ((plans.filterMap planId?).filter (fun id => decide (id < 0))).foldl min 0 - 1

theorem nextLocalPlanId_neg (plans : List Plan) : nextLocalPlanId plans < 0 := by
  have bounded : forall (ids : List Int) (start : Int), start ≤ 0 -> ids.foldl min start ≤ 0 := by
    intro ids
    induction ids with
    | nil => exact fun start small => small
    | cons id rest inductionHypothesis =>
        exact fun start small => inductionHypothesis _ (le_trans (min_le_left start id) small)
  have small := bounded ((plans.filterMap planId?).filter (fun id => decide (id < 0))) 0 (le_refl 0)
  rw [nextLocalPlanId]
  omega

/-- A field that is exactly an integer within bounds. -/
def intField (plan : Plan) (field : String) (low high : Int) : Bool :=
  match Dict.get? plan field with
  | some (.int value) => decide (low ≤ value) && decide (value ≤ high)
  | _ => false

/-- A field that is exactly a boolean. -/
def isBoolean (plan : Plan) (field : String) : Bool :=
  match Dict.get? plan field with
  | some (.bool _) => true
  | _ => false

/-- The days of a plan, if they are all integers from zero to seven. -/
def repeatDays? (plan : Plan) : Option (List Int) :=
  match Dict.get? plan "repeatDay" with
  | some (.arr days) => days.mapM (fun day =>
      match day with
      | .int value => if 0 ≤ value ∧ value < 8 then some value else none
      | _ => none)
  | _ => none

/-- The value, or the refusal of what was requested. -/
def require {α : Type} (value : Option α) (message : String) : Except ControlError α :=
  match value with
  | some found => .ok found
  | none => .error (.stateUnavailable message)

/-- The checks on a plan, in their order.  The result is its days. -/
def checkPlan (plan : Plan) : Except ControlError (List Int) := do
  let _ ← require (planId? plan) "planId must be an integer"
  let time ← require ((Dict.get? plan "executionTime").bind Json.str?)
    "executionTime must use HH:MM"
  let _ ← parseTime time
  let _ ← require (guard (intField plan "grainNum" MIN_GRAIN_NUM MAX_GRAIN_NUM = true))
    "grainNum must be between 1 and 48"
  let _ ← require (guard (intField plan "audioTimes" MIN_AUDIO_TIMES MAX_AUDIO_TIMES = true))
    "audioTimes must be between 1 and 5"
  let _ ← require (guard (isBoolean plan "enableAudio" = true)) "enableAudio must be a boolean"
  require (repeatDays? plan) "repeatDay must contain only 0..7"

/-- The days without zero and repetitions, in order. -/
def normalizeDays (days : List Int) : Json :=
  .arr ((((days.filter (fun day => decide (day ≠ 0))).dedup).insertionSort (· ≤ ·)).map Json.int)

/-- Validate the shape of a plan.  The days are normalized in the plan itself. -/
def validatePlan (plan : Plan) : Except ControlError Plan := do
  let days ← checkPlan plan
  return Dict.set plan "repeatDay" (normalizeDays days)

/-- Whether a plan is active, which is when its days are a true value. -/
def isActive (plan : Plan) : Bool :=
  (Dict.get? plan "repeatDay").any Json.truthy

/-- Reject a second active plan at the same time.  Without an identifier to
ignore, plans whose identifier is missing or null are passed over. -/
def rejectTimeCollision (plans : List Plan) (candidate : Plan) (ignored : Option Int) :
    Except ControlError Unit :=
  let passedOver := fun plan : Plan =>
    (match ignored with
      | some id => hasPlanId plan id
      | none => decide ((Dict.get? plan "planId").getD .null = .null)) || !isActive plan
  if plans.any (fun plan => !passedOver plan &&
      decide (Dict.get? plan "executionTime" = Dict.get? candidate "executionTime") &&
      isActive candidate) then
    .error (.stateUnavailable "Another active plan already uses this time")
  else .ok ()

/-! ## The three edits -/

inductive EditRequest where
  | create (requested : Plan)
  | update (planId : Int) (requested : Plan)
  | delete (planId : Int)

/-- The plan a request names. -/
def EditRequest.target? : EditRequest -> Option Int
  | .create _ => none
  | .update id _ => some id
  | .delete id => some id

inductive EditKind where
  | create
  | update
  | delete
  deriving DecidableEq, Repr

/-- The name under which an edit is submitted. -/
def EditKind.controlName : EditKind -> String
  | .create => "schedule:create"
  | .update => "schedule:update"
  | .delete => "schedule:delete"

/-- The snapshot an edit submits, the plan it is about and the definition that
plan has in it, if any. -/
structure ScheduleEdit where
  kind : EditKind
  plans : List Plan
  planId : Int
  content : Option Plan

/-- The part of an edit between the read of the plans and the submission. -/
def editSchedule (plans : List Plan) (syncTime : Int) :
    EditRequest -> Except ControlError ScheduleEdit
  | .create requested => do
      let id := nextLocalPlanId plans
      let plan ← validatePlan
        (Dict.set (Dict.set requested "planId" (.int id)) "syncTime" (.int syncTime))
      rejectTimeCollision plans plan none
      return { kind := .create, plans := plans ++ [plan], planId := id, content := some plan }
  | .update id requested => do
      match plans.find? (fun plan => hasPlanId plan id) with
      | none => throw (.stateUnavailable "Schedule plan is not known")
      | some existing =>
          let updated ← validatePlan
            (Dict.set (Dict.set (Dict.update existing requested) "planId" (.int id))
              "syncTime" (.int syncTime))
          rejectTimeCollision plans updated (some id)
          return { kind := .update
                   plans := plans.map (fun plan => if hasPlanId plan id then updated else plan)
                   planId := id, content := some updated }
  | .delete id =>
      let remaining := plans.filter (fun plan => !hasPlanId plan id)
      if remaining.length = plans.length then
        .error (.stateUnavailable "Schedule plan is not known")
      else .ok { kind := .delete, plans := remaining, planId := id, content := none }

/-! ## What an edit changes -/

theorem hasPlanId_iff {plan : Plan} {own : Int} (known : planId? plan = some own) (id : Int) :
    hasPlanId plan id = true ↔ own = id := by
  rw [planId?, Option.bind_eq_some_iff] at known
  rcases known with ⟨value, found, isInt⟩
  rw [hasPlanId, found, Option.any_some]
  cases value with
  | bool flag =>
      cases isInt
      exact decide_eq_true_iff
  | int number =>
      cases isInt
      exact decide_eq_true_iff
  | null => cases isInt
  | float number => cases isInt
  | str text => cases isInt
  | arr items => cases isInt
  | obj fields => cases isInt

/-- Two things that bind one after the other both succeeded. -/
theorem bind_ok {ε α β : Type} {first : Except ε α} {second : α -> Except ε β} {result : β}
    (done : (first >>= second) = .ok result) :
    exists middle, first = .ok middle ∧ second middle = .ok result := by
  cases first with
  | error problem => cases done
  | ok middle => exact ⟨middle, rfl, done⟩

/-- Validation keeps the identifier. -/
theorem planId_validatePlan {plan valid : Plan} (accepted : validatePlan plan = .ok valid) :
    planId? valid = planId? plan := by
  rcases bind_ok accepted with ⟨days, _, same⟩
  cases same
  rw [planId?, planId?, Dict.get?_set_of_ne _ _ (by decide)]

/-- The identifier an edit assigns to the plan it submits. -/
theorem planId_of_assigned {requested valid : Plan} {id syncTime : Int}
    (accepted : validatePlan
      (Dict.set (Dict.set requested "planId" (.int id)) "syncTime" (.int syncTime)) = .ok valid) :
    planId? valid = some id := by
  rw [planId_validatePlan accepted, planId?, Dict.get?_set_of_ne _ _ (by decide),
    Dict.get?_set_self]
  rfl

/-- What each accepted edit submits, in terms of the plans that were read. -/
theorem editSchedule_cases {plans : List Plan} {syncTime : Int} {request : EditRequest}
    {edit : ScheduleEdit} (accepted : editSchedule plans syncTime request = .ok edit) :
    (exists plan, request.target? = none ∧ planId? plan = some edit.planId ∧ edit.planId < 0 ∧
      edit.kind = .create ∧ edit.plans = plans ++ [plan] ∧ edit.content = some plan) ∨
    (exists requested updated existing, request = .update edit.planId requested ∧
      planId? updated = some edit.planId ∧ existing ∈ plans ∧ hasPlanId existing edit.planId = true ∧ edit.kind = .update ∧
      edit.plans = plans.map (fun plan => if hasPlanId plan edit.planId then updated else plan) ∧
      edit.content = some updated) ∨
    (request = .delete edit.planId ∧ edit.kind = .delete ∧
      edit.plans = plans.filter (fun plan => !hasPlanId plan edit.planId) ∧
      edit.content = none) := by
  cases request with
  | create requested =>
      rcases bind_ok accepted with ⟨plan, valid, accepted⟩
      rcases bind_ok accepted with ⟨_, _, same⟩
      cases same
      refine Or.inl ⟨plan, rfl, planId_of_assigned valid, ?_, rfl, rfl, rfl⟩
      exact nextLocalPlanId_neg plans
  | update id requested =>
      rw [editSchedule] at accepted
      split at accepted
      · cases accepted
      · next existing found =>
          rcases bind_ok accepted with ⟨updated, valid, accepted⟩
          rcases bind_ok accepted with ⟨_, _, same⟩
          cases same
          have named : hasPlanId existing id = true := by
            simpa only using List.find?_some found
          exact Or.inr (Or.inl ⟨requested, updated, existing, rfl, planId_of_assigned valid,
            List.mem_of_find?_eq_some found, named, rfl, rfl, rfl⟩)
  | delete id =>
      rw [editSchedule] at accepted
      split at accepted
      · cases accepted
      · cases accepted
        exact Or.inr (Or.inr ⟨rfl, rfl, rfl, rfl⟩)

/-- The plan an edit is about is the one its request names. -/
theorem planId_of_target {plans : List Plan} {syncTime : Int} {request : EditRequest}
    {edit : ScheduleEdit} (accepted : editSchedule plans syncTime request = .ok edit) {id : Int}
    (target : request.target? = some id) : edit.planId = id := by
  rcases editSchedule_cases accepted with ⟨_, untargeted, _⟩ |
    ⟨requested, _, _, isUpdate, _⟩ | ⟨isDelete, _⟩
  · rw [untargeted] at target
    cases target
  · rw [isUpdate] at target
    exact Option.some.inj target
  · rw [isDelete] at target
    exact Option.some.inj target

/-- The rows of the snapshot an edit submits: its own plan as requested, and
every other one as it was read. -/
theorem snapshotRow_editSchedule {plans : List Plan} {syncTime : Int} {request : EditRequest}
    {edit : ScheduleEdit} (accepted : editSchedule plans syncTime request = .ok edit) (id : Int) :
    StateShadow.snapshotRow edit.plans id =
      if id = edit.planId then (if id = 0 then none else edit.content)
      else StateShadow.snapshotRow plans id := by
  rcases editSchedule_cases accepted with
    ⟨plan, _, known, _, _, submitted, content⟩ |
      ⟨_, updated, existing, _, known, member, named, _, submitted, content⟩ |
        ⟨_, _, submitted, content⟩
  · rw [StateShadow.snapshotRow, submitted, lastWhere_concat, known, content]
    by_cases own : id = edit.planId
    · simp [own]
    · have other : ¬ (edit.planId = id) := fun equal => own equal.symm
      simp [own, other, StateShadow.snapshotRow]
  · rw [StateShadow.snapshotRow, submitted, lastWhere_map, content]
    by_cases own : id = edit.planId
    · rw [if_pos own]
      by_cases missing : id = 0
      · rw [if_pos missing, if_pos missing]
      · rw [if_neg missing, if_neg missing]
        cases found : lastWhere (fun plan => decide (planId?
            (if hasPlanId plan edit.planId then updated else plan) = some id)) plans with
        | none =>
            refine absurd ?_ ((lastWhere_eq_none_iff _ _).mp found existing member)
            rw [if_pos named, known, own, decide_eq_true_eq]
        | some plan =>
            have selected := of_decide_eq_true (mem_of_lastWhere found).2
            rw [Option.map_some]
            by_cases replaced : hasPlanId plan edit.planId = true
            · rw [if_pos replaced]
            · rw [if_neg replaced] at selected
              exact absurd ((hasPlanId_iff selected _).mpr own) replaced
    · have same : lastWhere (fun plan => decide (planId?
          (if hasPlanId plan edit.planId then updated else plan) = some id)) plans =
            lastWhere (fun plan => decide (planId? plan = some id)) plans := by
        apply lastWhere_congr
        intro plan _
        by_cases replaced : hasPlanId plan edit.planId = true
        · rw [if_pos replaced, known]
          have other : ¬ (edit.planId = id) := fun equal => own equal.symm
          have unnamed : ¬ (planId? plan = some id) := fun isNamed =>
            own ((hasPlanId_iff isNamed _).mp replaced)
          simp only [Option.some.injEq, other, unnamed]
        · rw [if_neg replaced]
      rw [if_neg own, same, StateShadow.snapshotRow]
      split
      · rfl
      · cases found : lastWhere (fun plan => decide (planId? plan = some id)) plans with
        | none => rfl
        | some plan =>
            have selected := of_decide_eq_true (mem_of_lastWhere found).2
            rw [Option.map_some, if_neg]
            exact fun replaced => own ((hasPlanId_iff selected _).mp replaced)
  · rw [StateShadow.snapshotRow, submitted, lastWhere_filter, content]
    by_cases own : id = edit.planId
    · rw [if_pos own, ite_self, (lastWhere_eq_none_iff _ _).mpr, ite_self]
      intro plan _ selected
      rw [Bool.and_eq_true, decide_eq_true_eq, Bool.not_eq_true'] at selected
      rw [(hasPlanId_iff selected.1 _).mpr own] at selected
      cases selected.2
    · rw [if_neg own, StateShadow.snapshotRow]
      congr 1
      apply lastWhere_congr
      intro plan _
      by_cases selected : planId? plan = some id
      · have kept : hasPlanId plan edit.planId = false := by
          apply Bool.eq_false_iff.mpr
          exact fun named => own ((hasPlanId_iff selected _).mp named)
        rw [kept, Bool.not_false, Bool.and_true]
      · rw [decide_eq_false selected, Bool.false_and]

/-- A plan of a submitted snapshot was read, unless a create just made it. -/
theorem read_of_mem_editSchedule {plans : List Plan} {syncTime : Int} {request : EditRequest}
    {edit : ScheduleEdit} (accepted : editSchedule plans syncTime request = .ok edit)
    {plan : Plan} {id : Int} (member : plan ∈ edit.plans) (named : hasPlanId plan id = true) :
    (exists earlier, earlier ∈ plans ∧ hasPlanId earlier id = true) ∨
      (edit.kind = .create ∧ edit.planId = id) := by
  rcases editSchedule_cases accepted with
    ⟨new, _, known, _, isCreate, submitted, _⟩ |
      ⟨_, updated, existing, _, known, read, readNamed, _, submitted, _⟩ | ⟨_, _, submitted, _⟩
  · rw [submitted] at member
    rcases List.mem_append.mp member with old | added
    · exact Or.inl ⟨plan, old, named⟩
    · rw [List.mem_singleton.mp added] at named
      exact Or.inr ⟨isCreate, (hasPlanId_iff known _).mp named⟩
  · rw [submitted] at member
    rcases List.mem_map.mp member with ⟨earlier, old, same⟩
    split at same
    · rw [← same] at named
      rw [← (hasPlanId_iff known _).mp named]
      exact Or.inl ⟨existing, read, readNamed⟩
    · rw [← same] at named
      exact Or.inl ⟨earlier, old, named⟩
  · rw [submitted] at member
    exact Or.inl ⟨plan, (List.mem_filter.mp member).1, named⟩

/-- A delete submits no plan with its identifier. -/
theorem unnamed_of_delete {plans : List Plan} {syncTime : Int} {request : EditRequest}
    {edit : ScheduleEdit} (accepted : editSchedule plans syncTime request = .ok edit)
    (isDelete : edit.kind = .delete) {plan : Plan} (member : plan ∈ edit.plans) :
    hasPlanId plan edit.planId = false := by
  rcases editSchedule_cases accepted with
    ⟨_, _, _, _, isCreate, _⟩ | ⟨_, _, _, _, _, _, _, isUpdate, _⟩ | ⟨_, _, submitted, _⟩
  · rw [isCreate] at isDelete
    cases isDelete
  · rw [isUpdate] at isDelete
    cases isDelete
  · rw [submitted] at member
    have kept := (List.mem_filter.mp member).2
    rwa [Bool.not_eq_true'] at kept

end Control
end PetlibroRelay
