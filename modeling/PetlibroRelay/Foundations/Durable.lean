import Mathlib.Data.List.Basic

namespace PetlibroRelay
namespace Foundations

/-!
# Statements, transactions and crashes

A database connection on which a process executes statements.  A statement that
defines the schema takes effect on the disk at once unless a transaction is
open.  The first statement that changes rows opens a transaction, everything
after it works on the transaction's own view, and a commit moves that view to
the disk.  A process that dies leaves what is on the disk, whatever its open
transaction held.

An upgrade has a fixed shape: definitions, then changes of rows, then further
definitions, then the commit.  The lemmas say what is on the disk after any
number of its statements.
-/

universe u

namespace Durable

variable {Database : Type u}

inductive Statement (Database : Type u) where
  | define (apply : Database -> Database)
  | change (apply : Database -> Database)
  | commit

/-- The disk, and the view of the open transaction. -/
structure Connection (Database : Type u) where
  disk : Database
  working : Option Database := none

def execute (connection : Connection Database) : Statement Database -> Connection Database
  | .define apply =>
      match connection.working with
      | none => { disk := apply connection.disk }
      | some view => { connection with working := some (apply view) }
  | .change apply =>
      { connection with working := some (apply (connection.working.getD connection.disk)) }
  | .commit => { disk := connection.working.getD connection.disk }

/-- What is on the disk when the process dies right after these statements. -/
def diskAfter (statements : List (Statement Database)) (database : Database) : Database :=
  (statements.foldl execute { disk := database }).disk

/-- The effect of applying functions one after the other. -/
def applied (effects : List (Database -> Database)) (database : Database) : Database :=
  effects.foldl (fun current effect => effect current) database

theorem applied_append (first second : List (Database -> Database)) (database : Database) :
    applied (first ++ second) database = applied second (applied first database) :=
  List.foldl_append

theorem applied_invariant (invariant : Database -> Prop) (effects : List (Database -> Database))
    (preserved : forall effect, effect ∈ effects -> forall current, invariant current ->
      invariant (effect current))
    (database : Database) (base : invariant database) : invariant (applied effects database) := by
  induction effects generalizing database with
  | nil => exact base
  | cons effect rest inductionHypothesis =>
      apply inductionHypothesis
      · intro other member
        exact preserved other (List.mem_cons_of_mem _ member)
      · exact preserved effect List.mem_cons_self database base

/-- An upgrade of a database in one run of statements. -/
structure Upgrade (Database : Type u) where
  definitions : List (Database -> Database)
  changes : List (Database -> Database)
  closing : List (Database -> Database)

namespace Upgrade

variable (upgrade : Upgrade Database)

def body : List (Statement Database) :=
  upgrade.definitions.map .define ++ (upgrade.changes.map .change ++ upgrade.closing.map .define)

def statements : List (Statement Database) :=
  upgrade.body ++ [.commit]

end Upgrade

/-! ## Definitions outside and inside of a transaction -/

theorem execute_definitions (definitions : List (Database -> Database)) (database : Database) :
    (definitions.map Statement.define).foldl execute { disk := database } =
      { disk := applied definitions database } := by
  induction definitions generalizing database with
  | nil => rfl
  | cons first rest inductionHypothesis => exact inductionHypothesis (first database)

theorem execute_definitions_open (definitions : List (Database -> Database))
    (database view : Database) :
    (definitions.map Statement.define).foldl execute
        { disk := database, working := some view } =
      { disk := database, working := some (applied definitions view) } := by
  induction definitions generalizing view with
  | nil => rfl
  | cons first rest inductionHypothesis => exact inductionHypothesis (first view)

theorem execute_changes_open (changes : List (Database -> Database)) (database view : Database) :
    (changes.map Statement.change).foldl execute { disk := database, working := some view } =
      { disk := database, working := some (applied changes view) } := by
  induction changes generalizing view with
  | nil => rfl
  | cons first rest inductionHypothesis => exact inductionHypothesis (first view)

/-- The first change opens the transaction. -/
theorem execute_changes (first : Database -> Database) (rest : List (Database -> Database))
    (database : Database) :
    ((first :: rest).map Statement.change).foldl execute { disk := database } =
      { disk := database, working := some (applied (first :: rest) database) } :=
  execute_changes_open rest database (first database)

/-- Nothing but a commit reaches the disk while a transaction is open. -/
theorem disk_held (statements : List (Statement Database)) (database view : Database)
    (open_ : forall statement, statement ∈ statements -> statement ≠ .commit) :
    (statements.foldl execute { disk := database, working := some view }).disk = database := by
  induction statements generalizing view with
  | nil => rfl
  | cons statement rest inductionHypothesis =>
      have later : forall other, other ∈ rest -> other ≠ .commit :=
        fun other member => open_ other (List.mem_cons_of_mem _ member)
      cases statement with
      | define apply => exact inductionHypothesis (apply view) later
      | change apply => exact inductionHypothesis (apply view) later
      | commit => exact absurd rfl (open_ .commit List.mem_cons_self)

/-! ## Upgrades -/

namespace Upgrade

variable (upgrade : Upgrade Database) (database : Database)

/-- An upgrade without changes of rows never opens a transaction. -/
theorem body_of_no_changes (none_ : upgrade.changes = []) :
    upgrade.body = (upgrade.definitions ++ upgrade.closing).map .define := by
  rw [body, none_, List.map_nil, List.nil_append, List.map_append]

/-- The view after the whole upgrade is the effect of all its statements. -/
theorem diskAfter_statements :
    diskAfter upgrade.statements database =
      applied (upgrade.definitions ++ (upgrade.changes ++ upgrade.closing)) database := by
  rw [diskAfter, statements, List.foldl_append]
  cases given : upgrade.changes with
  | nil =>
      rw [body_of_no_changes upgrade given, execute_definitions, List.nil_append]
      rfl
  | cons first rest =>
      rw [body, given, List.foldl_append, execute_definitions, List.foldl_append,
        execute_changes, execute_definitions_open, applied_append, applied_append]
      rfl

/-- Dying among the definitions leaves the first of them. -/
theorem diskAfter_early {count : Nat} (early : count ≤ upgrade.definitions.length) :
    diskAfter (upgrade.statements.take count) database =
      applied (upgrade.definitions.take count) database := by
  have first : upgrade.statements.take count =
      (upgrade.definitions.take count).map Statement.define := by
    rw [statements, body, List.append_assoc, List.take_append_of_le_length, List.map_take]
    rw [List.length_map]
    exact early
  rw [first, diskAfter, execute_definitions]

/-- Dying after the definitions and before the commit loses every change. -/
theorem diskAfter_held {count : Nat} (changes : upgrade.changes ≠ [])
    (late : upgrade.definitions.length ≤ count) (uncommitted : count ≤ upgrade.body.length) :
    diskAfter (upgrade.statements.take count) database =
      applied upgrade.definitions database := by
  have split : upgrade.statements.take count =
      upgrade.definitions.map Statement.define ++
        (upgrade.changes.map Statement.change ++ upgrade.closing.map Statement.define).take
          (count - upgrade.definitions.length) := by
    rw [statements, List.take_append_of_le_length uncommitted, body, List.take_append,
      List.length_map, List.take_of_length_le]
    rw [List.length_map]
    exact late
  rw [split, diskAfter, List.foldl_append, execute_definitions]
  cases given : upgrade.changes with
  | nil => exact absurd given changes
  | cons first rest =>
      rw [List.map_cons, List.cons_append]
      cases count - upgrade.definitions.length with
      | zero => rfl
      | succ further =>
          rw [List.take_succ_cons, List.foldl_cons]
          apply disk_held
          intro statement member
          rcases List.mem_append.mp (List.mem_of_mem_take member) with changed | defined
          · obtain ⟨effect, -, rfl⟩ := List.mem_map.mp changed
            exact nofun
          · obtain ⟨effect, -, rfl⟩ := List.mem_map.mp defined
            exact nofun

/-- Dying before the commit of an upgrade without changes leaves its first
definitions. -/
theorem diskAfter_defined {count : Nat} (none_ : upgrade.changes = [])
    (uncommitted : count ≤ upgrade.body.length) :
    diskAfter (upgrade.statements.take count) database =
      applied ((upgrade.definitions ++ upgrade.closing).take count) database := by
  rw [statements, List.take_append_of_le_length uncommitted,
    body_of_no_changes upgrade none_, ← List.map_take, diskAfter, execute_definitions]

/-- Dying after the commit leaves the whole upgrade. -/
theorem diskAfter_committed {count : Nat} (committed : upgrade.body.length < count) :
    diskAfter (upgrade.statements.take count) database =
      diskAfter upgrade.statements database := by
  rw [List.take_of_length_le]
  rw [statements, List.length_append, List.length_singleton]
  exact committed

end Upgrade
end Durable
end Foundations
end PetlibroRelay
