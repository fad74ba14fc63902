import Mathlib.Data.List.Basic
import PetlibroRelay.Foundations.Machine

namespace PetlibroRelay
namespace Foundations

/-!
# Snapshots of a state

A process keeps a state in memory and after every operation writes all of it to a file.
It writes to a temporary file first, which may stop anywhere, and then puts that file in
the place of the old one in one step.  The process may be ended at any moment, and one
that is started later begins with what it reads.

What can be read is then always the result of some of the operations, in their order,
and every operation that has returned is among them.  Later on operations are only added
behind these.
-/

universe u v

namespace Snapshots

/-- How a state is written to a file and read again. -/
structure Format (State : Type u) where
  dumps : State -> List UInt8
  loads : List UInt8 -> Option State

/-- What a process is doing: nothing, an operation whose result is in memory only, or one
whose result is in the temporary file as far as it is written. -/
inductive Activity (Operation : Type v) where
  | idle
  | applied (operation : Operation)
  | writing (operation : Operation) (written : List UInt8)

def Activity.operation? {Operation : Type v} : Activity Operation -> Option Operation
  | .idle => none
  | .applied operation => some operation
  | .writing operation _ => some operation

structure Process (State : Type u) (Operation : Type v) where
  state : State
  activity : Activity Operation

/-- The files and the process, if one is running.  Beside that, the operations that were
begun and those that have returned. -/
structure Store (State : Type u) (Operation : Type v) where
  file : Option (List UInt8) := none
  temporary : List (List UInt8) := []
  process : Option (Process State Operation) := none
  received : List Operation := []
  returned : List Operation := []

/-- Before a process has run. -/
def Store.before {State : Type u} {Operation : Type v} (file : Option (List UInt8)) :
    Store State Operation :=
  { file := file }

inductive Action (Operation : Type v) where
  | start
  | apply (operation : Operation)
  | create
  | write (count : Nat)
  | replace
  | fail
  | crash

section Stores

variable {State : Type u} {Operation : Type v} (format : Format State)
  (apply : State -> Operation -> State) (fresh : State)

/-- What a process starts with: what it can read, or else a fresh state. -/
def reload (store : Store State Operation) : State :=
  (store.file.bind format.loads).getD fresh

/-- What is left of the temporary file of a process that stops. -/
def leftover : Activity Operation -> List (List UInt8)
  | .writing _ written => [written]
  | _ => []

/-- One operation at a time.  It fails or is cut off at any point before the replacement. -/
def machine : Machine (Store State Operation) (Action Operation) where
  step store action :=
    match action, store.process with
    | .start, none => some { store with process := some ⟨reload format fresh store, .idle⟩ }
    | .apply operation, some ⟨state, .idle⟩ =>
        some { store with
          process := some ⟨apply state operation, .applied operation⟩
          received := store.received ++ [operation] }
    | .create, some ⟨state, .applied operation⟩ =>
        some { store with process := some ⟨state, .writing operation []⟩ }
    | .write count, some ⟨state, .writing operation written⟩ =>
        some { store with
          process := some
            ⟨state, .writing operation ((format.dumps state).take (written.length + count))⟩ }
    | .replace, some ⟨state, .writing operation written⟩ =>
        if written = format.dumps state then
          some { store with
            file := some written
            process := some ⟨state, .idle⟩
            returned := store.returned ++ [operation] }
        else none
    | .fail, some ⟨state, activity⟩ =>
        some { store with
          process := some ⟨state, .idle⟩
          temporary := store.temporary ++ leftover activity }
    | .crash, some ⟨_, activity⟩ =>
        some { store with process := none, temporary := store.temporary ++ leftover activity }
    | _, _ => none

/-- How the memory of a process stands to the operations that can be read back. -/
structure Running (initial : State) (store : Store State Operation) (kept : List Operation)
    (process : Process State Operation) (live : List Operation) : Prop where
  state_eq : process.state = live.foldl apply initial
  grown : kept <+: live
  received : live.Sublist store.received
  current : forall operation, process.activity.operation? = some operation ->
    (store.returned ++ [operation]).Sublist live

/-- The operations whose result can be read back. -/
structure Kept (initial : State) (store : Store State Operation) (kept : List Operation) :
    Prop where
  reload_eq : reload format fresh store = kept.foldl apply initial
  returned : store.returned.Sublist kept
  received : kept.Sublist store.received
  running : forall process, process ∈ store.process ->
    exists live, Running apply initial store kept process live

/-- Every result of the operations that were begun can be read as it was written. -/
def Readable (initial : State) (store : Store State Operation) : Prop :=
  forall operations : List Operation, operations.Sublist store.received ->
    format.loads (format.dumps (operations.foldl apply initial)) =
      some (operations.foldl apply initial)

variable {format apply fresh}
variable {initial : State} {store : Store State Operation} {kept : List Operation}

/-- A process that does not change the files, and goes on with what it has in memory. -/
theorem Kept.goOn (holds : Kept format apply fresh initial store kept) {state : State}
    {before after : Activity Operation} (same : store.process = some ⟨state, before⟩)
    (keeps : forall operation, after.operation? = some operation ->
      before.operation? = some operation) (temporary : List (List UInt8)) :
    Kept format apply fresh initial
      { store with process := some ⟨state, after⟩, temporary := temporary } kept where
  reload_eq := holds.reload_eq
  returned := holds.returned
  received := holds.received
  running := by
    rintro process ⟨⟩
    obtain ⟨live, running⟩ := holds.running _ same
    exact ⟨live, running.state_eq, running.grown, running.received,
      fun operation current => running.current operation (keeps operation current)⟩

theorem Kept.start (holds : Kept format apply fresh initial store kept) :
    Kept format apply fresh initial
      { store with process := some ⟨reload format fresh store, .idle⟩ } kept where
  reload_eq := holds.reload_eq
  returned := holds.returned
  received := holds.received
  running := by
    rintro process ⟨⟩
    exact ⟨kept, holds.reload_eq, List.prefix_refl kept, holds.received, by rintro operation ⟨⟩⟩

theorem Kept.applied (holds : Kept format apply fresh initial store kept) {state : State}
    (idle : store.process = some ⟨state, .idle⟩) (operation : Operation) :
    Kept format apply fresh initial
      { store with
        process := some ⟨apply state operation, .applied operation⟩
        received := store.received ++ [operation] } kept where
  reload_eq := holds.reload_eq
  returned := holds.returned
  received := holds.received.trans (List.sublist_append_left _ _)
  running := by
    rintro process ⟨⟩
    obtain ⟨live, running⟩ := holds.running _ idle
    refine ⟨live ++ [operation], ?_, running.grown.trans (List.prefix_append _ _),
      running.received.append (List.Sublist.refl _), ?_⟩
    · rw [List.foldl_append, ← running.state_eq]
      rfl
    · rintro current ⟨⟩
      exact (holds.returned.trans running.grown.sublist).append (List.Sublist.refl _)

/-- With the replacement all that is in memory can be read back. -/
theorem Kept.replace (holds : Kept format apply fresh initial store kept) {state : State}
    {operation : Operation} {written : List UInt8}
    (writing : store.process = some ⟨state, .writing operation written⟩)
    (complete : written = format.dumps state)
    (readable : Readable format apply initial store) :
    exists live, kept <+: live ∧
      Kept format apply fresh initial
        { store with
          file := some written
          process := some ⟨state, .idle⟩
          returned := store.returned ++ [operation] } live := by
  obtain ⟨live, running⟩ := holds.running _ writing
  have state_eq : state = live.foldl apply initial := running.state_eq
  refine ⟨live, running.grown, ?_, running.current operation rfl, running.received, ?_⟩
  · rw [reload, complete, state_eq, Option.bind_some, readable live running.received,
      Option.getD_some]
  · rintro process ⟨⟩
    exact ⟨live, state_eq, List.prefix_refl live, running.received, by rintro current ⟨⟩⟩

theorem Kept.crash (holds : Kept format apply fresh initial store kept)
    (temporary : List (List UInt8)) :
    Kept format apply fresh initial
      { store with process := none, temporary := temporary } kept where
  reload_eq := holds.reload_eq
  returned := holds.returned
  received := holds.received
  running := by rintro process ⟨⟩

theorem Kept.step (holds : Kept format apply fresh initial store kept)
    {action : Action Operation} {after : Store State Operation}
    (moved : (machine format apply fresh).step store action = some after)
    (readable : Readable format apply initial after) :
    exists later, kept <+: later ∧ Kept format apply fresh initial after later := by
  have stay : forall {other}, Kept format apply fresh initial other kept ->
      exists later, kept <+: later ∧ Kept format apply fresh initial other later :=
    fun still => ⟨kept, List.prefix_refl kept, still⟩
  simp only [machine] at moved
  split at moved
  · cases moved
    exact stay holds.start
  · rename_i operation state idle
    cases moved
    exact stay (holds.applied idle operation)
  · rename_i state operation applied
    cases moved
    exact stay (holds.goOn applied (by intro _ same; exact same) store.temporary)
  · rename_i count state operation written writing
    cases moved
    exact stay (holds.goOn writing (by intro _ same; exact same) store.temporary)
  · rename_i state operation written writing
    split at moved
    · rename_i complete
      cases moved
      exact holds.replace writing complete readable
    · cases moved
  · rename_i state activity running
    cases moved
    exact stay (holds.goOn running (by rintro operation ⟨⟩) _)
  · rename_i state activity running
    cases moved
    exact stay (holds.crash _)
  · cases moved

theorem received_step {action : Action Operation} {after : Store State Operation}
    (moved : (machine format apply fresh).step store action = some after) :
    store.received <+: after.received := by
  simp only [machine] at moved
  split at moved
  · cases moved; exact List.prefix_refl _
  · cases moved; exact List.prefix_append _ _
  · cases moved; exact List.prefix_refl _
  · cases moved; exact List.prefix_refl _
  · split at moved
    · cases moved; exact List.prefix_refl _
    · cases moved
  · cases moved; exact List.prefix_refl _
  · cases moved; exact List.prefix_refl _
  · cases moved

theorem received_run (actions : List (Action Operation)) :
    store.received <+: ((machine format apply fresh).run store actions).received :=
  (machine format apply fresh).run_invariant (fun later => store.received <+: later.received)
    (fun _ _ _ grown moved => grown.trans (received_step moved)) store actions
    (List.prefix_refl _)

theorem Readable.earlier {later : Store State Operation}
    (readable : Readable format apply initial later) (grown : store.received <+: later.received) :
    Readable format apply initial store :=
  fun operations inside => readable operations (inside.trans grown.sublist)

theorem Kept.run (holds : Kept format apply fresh initial store kept)
    (actions : List (Action Operation))
    (readable : Readable format apply initial ((machine format apply fresh).run store actions)) :
    exists later, kept <+: later ∧
      Kept format apply fresh initial ((machine format apply fresh).run store actions) later := by
  induction actions generalizing store kept with
  | nil => exact ⟨kept, List.prefix_refl kept, holds⟩
  | cons action rest inductionHypothesis =>
      rw [Machine.run_cons] at readable ⊢
      rcases (machine format apply fresh).next_cases store action with refused | moved
      · rw [refused] at readable ⊢
        exact inductionHypothesis holds readable
      · obtain ⟨middle, grown, still⟩ := holds.step moved (readable.earlier (received_run rest))
        obtain ⟨later, more, end_⟩ := inductionHypothesis still readable
        exact ⟨later, grown.trans more, end_⟩

/-- Before anything is done, what is in the file is the initial state. -/
theorem kept_initial (file : Option (List UInt8)) :
    Kept format apply fresh (reload format fresh (Store.before file : Store State Operation))
      (.before file) [] where
  reload_eq := rfl
  returned := List.Sublist.refl _
  received := List.Sublist.refl _
  running := by rintro process ⟨⟩

end Stores

end Snapshots
end Foundations
end PetlibroRelay
