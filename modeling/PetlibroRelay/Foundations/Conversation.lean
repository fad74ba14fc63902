import Mathlib.Data.List.Forall2

namespace PetlibroRelay
namespace Foundations

/-!
# Programs that keep a log

A conversation is a program that keeps a state, writes a log and may fail.  What it has
written before it fails stays written.

Two kinds of statements are made about conversations.  One holds whether the program fails
or not: the states before and after and the log between them are related, and the relation
can be chained.  The other one is for programs that succeed: the result is of some kind, and
the log contains certain events in a certain order, with anything in between.
-/

universe u

variable {σ ω ε α β : Type u}

/-- What a program comes to: its result, the state it leaves and what it has written. -/
structure Outcome (σ ω ε α : Type u) where
  result : Except ε α
  state : σ
  log : List ω

def Conversation (σ ω ε α : Type u) : Type u := σ -> Outcome σ ω ε α

namespace Conversation

def bind (program : Conversation σ ω ε α) (next : α -> Conversation σ ω ε β) :
    Conversation σ ω ε β :=
  fun state =>
    let outcome := program state
    match outcome.result with
    | .error error => ⟨.error error, outcome.state, outcome.log⟩
    | .ok value =>
        let later := next value outcome.state
        ⟨later.result, later.state, outcome.log ++ later.log⟩

instance conversationMonad : Monad (Conversation σ ω ε) where
  pure value := fun state => ⟨.ok value, state, []⟩
  bind := bind

def fail (error : ε) : Conversation σ ω ε α :=
  fun state => ⟨.error error, state, []⟩

/-- Write an event. -/
def tell (event : ω) : Conversation σ ω ε PUnit :=
  fun state => ⟨.ok ⟨⟩, state, [event]⟩

/-- Read and change the state. -/
def modifyGet (change : σ -> α × σ) : Conversation σ ω ε α :=
  fun state => ⟨.ok (change state).1, (change state).2, []⟩

def get : Conversation σ ω ε σ := modifyGet (fun state => (state, state))

def modify (change : σ -> σ) : Conversation σ ω ε PUnit :=
  modifyGet (fun state => (⟨⟩, change state))

/-- Run a program and go on whether it fails or not. -/
def attempt (program : Conversation σ ω ε α) : Conversation σ ω ε (Except ε α) :=
  fun state =>
    let outcome := program state
    ⟨.ok outcome.result, outcome.state, outcome.log⟩

/-- A program that succeeds does so in all its parts. -/
theorem bind_eq_ok {program : Conversation σ ω ε α} {next : α -> Conversation σ ω ε β}
    {state : σ} {value : β} (succeeds : ((program >>= next) state).result = .ok value) :
    exists middle, (program state).result = .ok middle ∧
      (next middle (program state).state).result = .ok value ∧
      ((program >>= next) state).state = (next middle (program state).state).state ∧
      ((program >>= next) state).log =
        (program state).log ++ (next middle (program state).state).log := by
  simp only [Bind.bind, bind] at succeeds ⊢
  cases first : (program state).result with
  | error error =>
      rw [first] at succeeds
      cases succeeds
  | ok middle =>
      rw [first] at succeeds
      exact ⟨middle, rfl, succeeds, rfl, rfl⟩

/-- Writing one event after the other. -/
theorem forM_tell (event : β -> ω) (values : List β) (state : σ) :
    (values.forM (fun value => tell (event value)) : Conversation σ ω ε PUnit) state =
      ⟨.ok ⟨⟩, state, values.map event⟩ := by
  induction values with
  | nil => rfl
  | cons value rest inductionHypothesis =>
      change (tell (event value) >>= fun _ => rest.forM (fun value => tell (event value))) state = _
      simp only [Bind.bind, bind, tell, List.map_cons]
      rw [inductionHypothesis]
      rfl

/-! ## Relations that are kept -/

/-- A relation between two states and what was written in between that can be chained. -/
structure Chained (relation : σ -> σ -> List ω -> Prop) : Prop where
  refl : forall state, relation state state []
  trans : forall {before between after first second}, relation before between first ->
    relation between after second -> relation before after (first ++ second)

/-- The program keeps the relation, also if it fails. -/
def Respects (relation : σ -> σ -> List ω -> Prop) (program : Conversation σ ω ε α) : Prop :=
  forall state, relation state (program state).state (program state).log

section Respects

variable {relation : σ -> σ -> List ω -> Prop}

theorem respects_pure (chained : Chained relation) (value : α) :
    Respects relation (pure value : Conversation σ ω ε α) :=
  fun state => chained.refl state

theorem respects_fail (chained : Chained relation) (error : ε) :
    Respects relation (fail error : Conversation σ ω ε α) :=
  fun state => chained.refl state

theorem respects_tell {event : ω} (kept : forall state, relation state state [event]) :
    Respects relation (tell event : Conversation σ ω ε PUnit) :=
  kept

theorem respects_attempt {program : Conversation σ ω ε α} (kept : Respects relation program) :
    Respects relation (attempt program) :=
  kept

/-- A relation that reaches back before the program is kept on by what follows. -/
theorem Chained.bind (chained : Chained relation) {program : Conversation σ ω ε α}
    {next : α -> Conversation σ ω ε β} {before state : σ}
    (first : relation before (program state).state (program state).log)
    (later : forall value, Respects relation (next value)) :
    relation before ((program >>= next) state).state ((program >>= next) state).log := by
  simp only [Bind.bind, Conversation.bind]
  cases result : (program state).result with
  | error error => exact first
  | ok value => exact chained.trans first (later value (program state).state)

theorem respects_bind (chained : Chained relation) {program : Conversation σ ω ε α}
    {next : α -> Conversation σ ω ε β} (first : Respects relation program)
    (later : forall value, Respects relation (next value)) : Respects relation (program >>= next) :=
  fun state => chained.bind (first state) later

theorem respects_forM (chained : Chained relation) {program : β -> Conversation σ ω ε PUnit}
    (kept : forall value, Respects relation (program value)) (values : List β) :
    Respects relation (values.forM program) := by
  induction values with
  | nil => exact respects_pure chained _
  | cons value rest inductionHypothesis =>
      exact respects_bind chained (kept value) (fun _ => inductionHypothesis)

end Respects

/-! ## Logs that are read event by event -/

section Reads

universe v w

variable {τ : Type v} {δ : Type w}

/-- Reading entries one after the other leads from one point to another. -/
inductive Reads (reads : τ -> δ -> τ -> Prop) : τ -> List δ -> τ -> Prop
  | nil (point : τ) : Reads reads point [] point
  | cons {point middle last : τ} {entry : δ} {rest : List δ} (first : reads point entry middle)
      (later : Reads reads middle rest last) : Reads reads point (entry :: rest) last

variable {reads : τ -> δ -> τ -> Prop}

theorem Reads.append {first middle last : τ} {early late : List δ}
    (before : Reads reads first early middle) (after : Reads reads middle late last) :
    Reads reads first (early ++ late) last := by
  induction before with
  | nil point => exact after
  | cons read later inductionHypothesis => exact .cons read (inductionHypothesis after)

theorem Reads.single {point next : τ} {entry : δ} (read : reads point entry next) :
    Reads reads point [entry] next :=
  .cons read (.nil next)

/-- Reading the entries of the log that matter, from what the state shows before to what it
shows after, can be chained. -/
theorem chained_reads (view : σ -> τ) (select : ω -> Option δ) :
    Chained (fun before after (log : List ω) =>
      Reads reads (view before) (log.filterMap select) (view after)) where
  refl state := .nil (view state)
  trans first second := by
    rw [List.filterMap_append]
    exact first.append second

end Reads

/-! ## Results -/

/-- When the program succeeds, its result is of this kind. -/
def Returns (kind : α -> Prop) (program : Conversation σ ω ε α) : Prop :=
  forall state value, (program state).result = .ok value -> kind value

section Returns

variable {kind : α -> Prop}

theorem returns_pure {value : α} (holds : kind value) :
    Returns kind (pure value : Conversation σ ω ε α) := by
  rintro _ _ ⟨⟩
  exact holds

theorem returns_fail (kind : α -> Prop) (error : ε) :
    Returns kind (fail error : Conversation σ ω ε α) :=
  fun _ _ succeeds => nomatch succeeds

theorem returns_bind {program : Conversation σ ω ε β} {next : β -> Conversation σ ω ε α}
    (later : forall value, Returns kind (next value)) : Returns kind (program >>= next) := by
  intro state value succeeds
  obtain ⟨middle, -, laterSucceeds, -, -⟩ := bind_eq_ok succeeds
  exact later middle _ value laterSucceeds

end Returns

/-! ## Events in their order -/

/-- The log contains events with these properties, in this order. -/
def Milestones (properties : List (ω -> Prop)) (log : List ω) : Prop :=
  exists picked : List ω, picked.Sublist log ∧
    List.Forall₂ (fun property event => property event) properties picked

section Milestones

variable {properties further : List (ω -> Prop)} {log later : List ω}

theorem milestones_nil (log : List ω) : Milestones [] log :=
  ⟨[], List.nil_sublist log, .nil⟩

theorem milestones_singleton {property : ω -> Prop} {event : ω} (holds : property event) :
    Milestones [property] [event] :=
  ⟨[event], List.Sublist.refl _, .cons holds .nil⟩

theorem Milestones.append (first : Milestones properties log)
    (second : Milestones further later) : Milestones (properties ++ further) (log ++ later) := by
  obtain ⟨picked, within, hold⟩ := first
  obtain ⟨pickedLater, withinLater, holdLater⟩ := second
  exact ⟨picked ++ pickedLater, within.append withinLater, List.rel_append hold holdLater⟩

/-- More may be written. -/
theorem Milestones.of_sublist (first : Milestones properties log) (within : log.Sublist later) :
    Milestones properties later := by
  obtain ⟨picked, among, hold⟩ := first
  exact ⟨picked, among.trans within, hold⟩

/-- Milestones may be left out. -/
theorem Milestones.thin (first : Milestones properties log)
    (within : further.Sublist properties) : Milestones further log := by
  obtain ⟨picked, among, hold⟩ := first
  induction within generalizing picked log with
  | slnil =>
      cases hold
      exact milestones_nil log
  | cons property within inductionHypothesis =>
      cases hold with
      | @cons _ event _ rest holds others =>
          exact inductionHypothesis rest ((List.sublist_cons_self event rest).trans among) others
  | @cons_cons fewer all property within inductionHypothesis =>
      cases hold with
      | @cons _ event _ rest holds others =>
          obtain ⟨kept, keptAmong, keptHold⟩ :=
            inductionHypothesis rest (List.Sublist.refl rest) others
          exact ⟨event :: kept, (keptAmong.cons_cons event).trans among, .cons holds keptHold⟩

end Milestones

/-- When the program succeeds, the events are in what it has written. -/
def Passes (properties : List (ω -> Prop)) (program : Conversation σ ω ε α) : Prop :=
  forall state value, (program state).result = .ok value ->
    Milestones properties (program state).log

section Passes

variable {properties further : List (ω -> Prop)}

theorem passes_nothing (program : Conversation σ ω ε α) : Passes [] program :=
  fun state _ _ => milestones_nil (program state).log

theorem passes_fail (properties : List (ω -> Prop)) (error : ε) :
    Passes properties (fail error : Conversation σ ω ε α) :=
  fun _ _ succeeds => nomatch succeeds

theorem passes_tell {property : ω -> Prop} {event : ω} (holds : property event) :
    Passes [property] (tell event : Conversation σ ω ε PUnit) :=
  fun _ _ _ => milestones_singleton holds

/-- An event may be described in a weaker way. -/
theorem Passes.imply {property weaker : ω -> Prop} {program : Conversation σ ω ε α}
    (passes : Passes [property] program) (implies : forall event, property event -> weaker event) :
    Passes [weaker] program := by
  intro state value succeeds
  obtain ⟨picked, within, hold⟩ := passes state value succeeds
  cases hold with
  | cons holds none_ => exact ⟨_, within, .cons (implies _ holds) (by cases none_; exact .nil)⟩

theorem passes_bind {program : Conversation σ ω ε α} {next : α -> Conversation σ ω ε β}
    (first : Passes properties program) (later : forall value, Passes further (next value)) :
    Passes (properties ++ further) (program >>= next) := by
  intro state value succeeds
  obtain ⟨middle, firstSucceeds, laterSucceeds, -, log⟩ := bind_eq_ok succeeds
  rw [log]
  exact (first state middle firstSucceeds).append (later middle _ value laterSucceeds)

/-- The first part adds nothing that matters. -/
theorem passes_after {program : Conversation σ ω ε α} {next : α -> Conversation σ ω ε β}
    (later : forall value, Passes properties (next value)) : Passes properties (program >>= next) :=
  passes_bind (passes_nothing program) later

/-- The second part adds nothing that matters. -/
theorem passes_before {program : Conversation σ ω ε α} {next : α -> Conversation σ ω ε β}
    (first : Passes properties program) : Passes properties (program >>= next) := by
  have passes := passes_bind first (fun value => passes_nothing (next value))
  rw [List.append_nil] at passes
  exact passes

end Passes

end Conversation
end Foundations
end PetlibroRelay
