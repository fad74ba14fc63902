import Mathlib.Data.List.Basic

namespace PetlibroRelay
namespace Foundations

/-!
# Interleaved machines and their finite runs

A concurrent component is presented by one state type and one type of atomic
actions.  An action that is not enabled in a state is refused, and a refused
action leaves the state alone.  Every finite list of actions is therefore a
run, and the states reached by runs are exactly the reachable ones: no
enabledness hypothesis has to be carried beside a run.

Conditions on a run are conditions on its steps.  A step is judged in the
state before it, so a condition never speaks about what the step computes.
-/

universe u v

/-- A machine is a partial transition function.  The value `none` says that
the action is not enabled in the given state. -/
structure Machine (State : Type u) (Action : Type v) where
  step : State -> Action -> Option State

namespace Machine

variable {State : Type u} {Action : Type v}

/-- The state after one action, enabled or refused. -/
def next (machine : Machine State Action) (state : State) (action : Action) : State :=
  (machine.step state action).getD state

/-- The state after a finite list of actions. -/
def run (machine : Machine State Action) : State -> List Action -> State
  | state, [] => state
  | state, action :: rest => machine.run (machine.next state action) rest

/-- Every step of the run, judged in the state before it, meets the
condition.  Refused actions are judged too. -/
def Meets (machine : Machine State Action) (condition : State -> Action -> Prop) :
    State -> List Action -> Prop
  | _, [] => True
  | state, action :: rest =>
      condition state action ∧ machine.Meets condition (machine.next state action) rest

instance meetsDecidable (machine : Machine State Action) (condition : State -> Action -> Prop)
    [inst : forall state action, Decidable (condition state action)] :
    (state : State) -> (actions : List Action) -> Decidable (machine.Meets condition state actions)
  | _, [] => isTrue trivial
  | state, action :: rest =>
      @instDecidableAnd _ _ (inst state action)
        (meetsDecidable machine condition (machine.next state action) rest)

@[simp] theorem run_nil (machine : Machine State Action) (state : State) :
    machine.run state [] = state := rfl

@[simp] theorem run_cons (machine : Machine State Action) (state : State) (action : Action)
    (rest : List Action) :
    machine.run state (action :: rest) = machine.run (machine.next state action) rest := rfl

theorem run_append (machine : Machine State Action) (state : State) (first second : List Action) :
    machine.run state (first ++ second) = machine.run (machine.run state first) second := by
  induction first generalizing state with
  | nil => rfl
  | cons action rest inductionHypothesis => exact inductionHypothesis (machine.next state action)

/-- A refused action does not move, an enabled one moves as the step says. -/
theorem next_cases (machine : Machine State Action) (state : State) (action : Action) :
    machine.next state action = state ∨
      machine.step state action = some (machine.next state action) := by
  cases enabled : machine.step state action with
  | none => exact Or.inl (by simp only [next, enabled, Option.getD_none])
  | some after => exact Or.inr (by simp only [next, enabled, Option.getD_some])

theorem meets_append (machine : Machine State Action) (condition : State -> Action -> Prop)
    (state : State) (first second : List Action) :
    machine.Meets condition state (first ++ second) ↔
      machine.Meets condition state first ∧
        machine.Meets condition (machine.run state first) second := by
  induction first generalizing state with
  | nil => simp only [List.nil_append, Meets, true_and, run_nil]
  | cons action rest inductionHypothesis =>
      simp only [List.cons_append, Meets, run_cons, inductionHypothesis, and_assoc]

theorem meets_and {machine : Machine State Action} {condition further : State -> Action -> Prop}
    {state : State} {actions : List Action} (meets : machine.Meets condition state actions)
    (meetsFurther : machine.Meets further state actions) :
    machine.Meets (fun state action => condition state action ∧ further state action) state
      actions := by
  induction actions generalizing state with
  | nil => trivial
  | cons action rest inductionHypothesis =>
      exact ⟨⟨meets.1, meetsFurther.1⟩, inductionHypothesis meets.2 meetsFurther.2⟩

theorem meets_congr (machine : Machine State Action) {condition other : State -> Action -> Prop}
    (same : forall state action, condition state action ↔ other state action) (state : State)
    (actions : List Action) :
    machine.Meets condition state actions ↔ machine.Meets other state actions := by
  induction actions generalizing state with
  | nil => exact Iff.rfl
  | cons action rest inductionHypothesis =>
      exact and_congr (same state action) (inductionHypothesis (machine.next state action))

/-- The step rule: what every enabled step that meets the condition preserves
holds after every run whose steps meet it. -/
theorem run_invariant_of_meets (machine : Machine State Action)
    (condition : State -> Action -> Prop) (invariant : State -> Prop)
    (preserved : forall state action after, invariant state -> condition state action ->
      machine.step state action = some after -> invariant after)
    (state : State) (actions : List Action) (base : invariant state)
    (meets : machine.Meets condition state actions) :
    invariant (machine.run state actions) := by
  induction actions generalizing state with
  | nil => exact base
  | cons action rest inductionHypothesis =>
      refine inductionHypothesis (machine.next state action) ?_ meets.2
      rcases machine.next_cases state action with refused | enabled
      · rw [refused]
        exact base
      · exact preserved state action _ base meets.1 enabled

/-- The unconditional step rule. -/
theorem run_invariant (machine : Machine State Action) (invariant : State -> Prop)
    (preserved : forall state action after, invariant state ->
      machine.step state action = some after -> invariant after)
    (state : State) (actions : List Action) (base : invariant state) :
    invariant (machine.run state actions) := by
  refine machine.run_invariant_of_meets (fun _ _ => True) invariant
    (fun state action after holds _ => preserved state action after holds) state actions base ?_
  clear base
  induction actions generalizing state with
  | nil => trivial
  | cons action rest inductionHypothesis =>
      exact ⟨trivial, inductionHypothesis (machine.next state action)⟩

/-- A step property that an invariant implies holds at every step of a run
that maintains the invariant. -/
theorem meets_of_invariant (machine : Machine State Action)
    (condition property : State -> Action -> Prop) (invariant : State -> Prop)
    (preserved : forall state action after, invariant state -> condition state action ->
      machine.step state action = some after -> invariant after)
    (implies : forall state action, invariant state -> condition state action ->
      property state action)
    (state : State) (actions : List Action) (base : invariant state)
    (meets : machine.Meets condition state actions) :
    machine.Meets property state actions := by
  induction actions generalizing state with
  | nil => trivial
  | cons action rest inductionHypothesis =>
      refine ⟨implies state action base meets.1, inductionHypothesis _ ?_ meets.2⟩
      exact machine.run_invariant_of_meets condition invariant preserved state [action] base
        ⟨meets.1, trivial⟩

/-- The exact rule: where a step keeps the invariant exactly when it meets the
condition, the invariant holds in every state a run reaches exactly when every
step of the run meets it. -/
theorem reached_iff_meets (machine : Machine State Action)
    (condition : State -> Action -> Prop) (invariant : State -> Prop)
    (kept_iff : forall state action, invariant state ->
      (invariant (machine.next state action) ↔ condition state action))
    (state : State) (actions : List Action) (base : invariant state) :
    (forall early, early <+: actions -> invariant (machine.run state early)) ↔
      machine.Meets condition state actions := by
  induction actions generalizing state with
  | nil =>
      refine ⟨fun _ => trivial, fun _ early within => ?_⟩
      rw [List.prefix_nil.mp within]
      exact base
  | cons action rest inductionHypothesis =>
      constructor
      · intro reached
        have first : invariant (machine.next state action) :=
          reached [action] (List.prefix_append [action] rest)
        refine ⟨(kept_iff state action base).mp first, ?_⟩
        apply (inductionHypothesis _ first).mp
        intro early within
        exact reached (action :: early) ((List.prefix_cons_inj action).mpr within)
      · rintro ⟨met, later⟩ early within
        have first := (kept_iff state action base).mpr met
        rcases List.prefix_cons_iff.mp within with none | ⟨tail, some, tailWithin⟩
        · rw [none]
          exact base
        · rw [some]
          exact (inductionHypothesis _ first).mpr later tail tailWithin

/-! ## Runs between two given states -/

/-- The run meets the condition and ends in the given state. -/
def Leads (machine : Machine State Action) (condition : State -> Action -> Prop)
    (state : State) (actions : List Action) (after : State) : Prop :=
  machine.Meets condition state actions ∧ machine.run state actions = after

theorem Leads.append {machine : Machine State Action} {condition : State -> Action -> Prop}
    {state middle after : State} {first second : List Action}
    (early : machine.Leads condition state first middle)
    (late : machine.Leads condition middle second after) :
    machine.Leads condition state (first ++ second) after := by
  refine ⟨(machine.meets_append condition state first second).mpr ⟨early.1, ?_⟩, ?_⟩
  · rw [early.2]
    exact late.1
  · rw [run_append, early.2, late.2]

theorem Leads.single {machine : Machine State Action} {condition : State -> Action -> Prop}
    {state after : State} {action : Action} (meets : condition state action)
    (moved : machine.step state action = some after) :
    machine.Leads condition state [action] after := by
  refine ⟨⟨meets, trivial⟩, ?_⟩
  rw [run_cons, run_nil, next, moved, Option.getD_some]

/-! ## Watched machines -/

universe w

/-- A machine beside a record of what happened.  The record is computed from
the state before each enabled step and never influences a step. -/
def watched {Record : Type w} (machine : Machine State Action)
    (observe : Record -> State -> Action -> Record) : Machine (State × Record) Action where
  step state action :=
    (machine.step state.1 action).map (fun after => (after, observe state.2 state.1 action))

theorem watched_step {Record : Type w} {machine : Machine State Action}
    {observe : Record -> State -> Action -> Record} {state after : State × Record}
    {action : Action} (moved : (machine.watched observe).step state action = some after) :
    machine.step state.1 action = some after.1 ∧ after.2 = observe state.2 state.1 action := by
  simp only [watched, Option.map_eq_some_iff] at moved
  rcases moved with ⟨next, stepped, same⟩
  subst after
  exact ⟨stepped, rfl⟩

/-! ## Guarded machines -/

/-- A machine that also refuses the actions a guard does not allow. -/
def guarded (machine : Machine State Action) (allows : State -> Action -> Bool) :
    Machine State Action where
  step state action := if allows state action then machine.step state action else none

theorem guarded_step {machine : Machine State Action} {allows : State -> Action -> Bool}
    {state after : State} {action : Action}
    (moved : (machine.guarded allows).step state action = some after) :
    allows state action = true ∧ machine.step state action = some after := by
  simp only [guarded] at moved
  split at moved
  · next allowed => exact ⟨allowed, moved⟩
  · cases moved

end Machine
end Foundations
end PetlibroRelay
