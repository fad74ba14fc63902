import Mathlib.Algebra.GroupWithZero.Nat
import Mathlib.Data.List.Basic

namespace PetlibroRelay
namespace Foundations

/-!
# Threads over a shared state

A thread is the list of the atomic jobs it still has to do.  Doing the first
one changes the shared state and may put further jobs in front of the rest,
which is how a call, a loop over a snapshot or a branch is written.  Any thread
may be the next to move.
-/

universe u v w

variable {Shared : Type u} {Job : Type v} {Input : Type w}

namespace Threads

/-- One thread does its next job.  The input is what the environment supplies,
such as a reading of the clock. -/
def advance (perform : Shared -> Input -> Job -> Shared × List Job)
    (state : Shared × List (List Job)) (number : Nat) (input : Input) :
    Option (Shared × List (List Job)) :=
  match state.2[number]? with
  | some (job :: rest) =>
      let done := perform state.1 input job
      some (done.1, state.2.set number (done.2 ++ rest))
  | _ => none

/-- One thread is given up with what it still had to do. -/
def abandon (state : Shared × List (List Job)) (number : Nat) : Shared × List (List Job) :=
  (state.1, state.2.set number [])

/-- The job a thread does next. -/
def nextJob (threads : List (List Job)) (number : Nat) : Option Job :=
  threads[number]?.bind List.head?

/-- Every pending job of every thread has the property. -/
def AllPending (property : Job -> Prop) (threads : List (List Job)) : Prop :=
  forall thread, thread ∈ threads -> forall job, job ∈ thread -> property job

instance allPendingDecidable (property : Job -> Prop) [DecidablePred property]
    (threads : List (List Job)) : Decidable (AllPending property threads) :=
  inferInstanceAs (Decidable (forall thread, thread ∈ threads -> forall job, job ∈ thread ->
    property job))

theorem advance_eq_some {perform : Shared -> Input -> Job -> Shared × List Job}
    {state after : Shared × List (List Job)} {number : Nat} {input : Input}
    (moved : advance perform state number input = some after) :
    exists job rest, state.2[number]? = some (job :: rest) ∧
      nextJob state.2 number = some job ∧
      after = ((perform state.1 input job).1,
        state.2.set number ((perform state.1 input job).2 ++ rest)) := by
  unfold advance at moved
  split at moved
  · next job rest found =>
      cases moved
      refine ⟨job, rest, found, ?_, rfl⟩
      rw [nextJob, found, Option.bind_some, List.head?_cons]
  · cases moved

namespace AllPending

variable {property : Job -> Prop} {threads : List (List Job)}

theorem imp (all : AllPending property threads) {further : Job -> Prop}
    (implies : forall job, property job -> further job) : AllPending further threads :=
  fun thread member job pending => implies job (all thread member job pending)

/-- A new thread. -/
theorem concat (all : AllPending property threads) {jobs : List Job}
    (new : forall job, job ∈ jobs -> property job) : AllPending property (threads ++ [jobs]) := by
  intro thread member job pending
  rcases List.mem_append.mp member with old | added
  · exact all thread old job pending
  · rw [List.mem_singleton.mp added] at pending
    exact new job pending

/-- A new thread with one job. -/
theorem concat_singleton (all : AllPending property threads) {job : Job} (new : property job) :
    AllPending property (threads ++ [[job]]) := by
  apply all.concat
  intro other member
  rw [List.mem_singleton.mp member]
  exact new

theorem set (all : AllPending property threads) {number : Nat} {jobs : List Job}
    (new : forall job, job ∈ jobs -> property job) : AllPending property (threads.set number jobs) := by
  intro thread member job pending
  rcases List.mem_or_eq_of_mem_set member with old | replaced
  · exact all thread old job pending
  · rw [replaced] at pending
    exact new job pending

/-- A thread that is given up. -/
theorem abandoned (all : AllPending property threads) (number : Nat) :
    AllPending property (threads.set number []) :=
  all.set (fun _ member => absurd member List.not_mem_nil)

/-- A thread that goes on with new jobs and the rest it had. -/
theorem continued (all : AllPending property threads) {number : Nat} {job : Job}
    {rest next : List Job} (found : threads[number]? = some (job :: rest))
    (new : forall job, job ∈ next -> property job) :
    AllPending property (threads.set number (next ++ rest)) := by
  apply all.set
  intro other pending
  rcases List.mem_append.mp pending with fresh | old
  · exact new other fresh
  · exact all _ (List.mem_of_getElem? found) other (List.mem_cons_of_mem _ old)

theorem head (all : AllPending property threads) {number : Nat} {job : Job} {rest : List Job}
    (found : threads[number]? = some (job :: rest)) : property job :=
  all _ (List.mem_of_getElem? found) job List.mem_cons_self

end AllPending

/-! ## One pending job -/

/-- Some thread still has the job to do. -/
def Pending (threads : List (List Job)) (job : Job) : Prop :=
  exists thread, thread ∈ threads ∧ job ∈ thread

namespace Pending

variable {threads : List (List Job)} {job other : Job}

theorem not_of_finished (finished : forall thread, thread ∈ threads -> thread = []) :
    ¬ Pending threads job := by
  rintro ⟨thread, member, pending⟩
  rw [finished thread member] at pending
  cases pending

/-- A new thread takes nothing away. -/
theorem concat (pending : Pending threads job) (jobs : List Job) :
    Pending (threads ++ [jobs]) job := by
  obtain ⟨thread, member, holds⟩ := pending
  exact ⟨thread, List.mem_append_left _ member, holds⟩

theorem concat_self (threads : List (List Job)) (job : Job) : Pending (threads ++ [[job]]) job :=
  ⟨[job], List.mem_append_right _ List.mem_cons_self, List.mem_cons_self⟩

theorem of_concat_singleton (pending : Pending (threads ++ [[other]]) job) :
    Pending threads job ∨ job = other := by
  obtain ⟨thread, member, holds⟩ := pending
  rcases List.mem_append.mp member with old | new
  · exact Or.inl ⟨thread, old, holds⟩
  · rw [List.mem_singleton.mp new] at holds
    exact Or.inr (List.mem_singleton.mp holds)

variable {number : Nat} {rest : List Job}

/-- A thread that does a job and goes on has only done that job. -/
theorem continued (pending : Pending threads other)
    (found : threads[number]? = some (job :: rest)) (next : List Job) :
    other = job ∨ Pending (threads.set number (next ++ rest)) other := by
  obtain ⟨thread, member, holds⟩ := pending
  obtain ⟨index, inside, same⟩ := List.mem_iff_getElem.mp member
  by_cases equal : number = index
  · subst equal
    rw [List.getElem?_eq_getElem inside, same, Option.some.injEq] at found
    rw [found] at holds
    rcases List.mem_cons.mp holds with first | left
    · exact Or.inl first
    · exact Or.inr ⟨next ++ rest, List.mem_set inside _, List.mem_append_right _ left⟩
  · refine Or.inr ⟨thread, ?_, holds⟩
    refine List.mem_iff_getElem.mpr ⟨index, ?_, ?_⟩
    · rw [List.length_set]
      exact inside
    · rw [List.getElem_set_ne equal]
      exact same

/-- The jobs a thread has got. -/
theorem continued_next (found : threads[number]? = some (job :: rest)) {next : List Job}
    (member : other ∈ next) : Pending (threads.set number (next ++ rest)) other :=
  ⟨next ++ rest, List.mem_set (List.getElem?_eq_some_iff.mp found).1 _,
    List.mem_append_left _ member⟩

theorem of_continued (found : threads[number]? = some (job :: rest)) {next : List Job}
    (pending : Pending (threads.set number (next ++ rest)) other) :
    other ∈ next ∨ Pending threads other := by
  obtain ⟨thread, member, holds⟩ := pending
  rcases List.mem_or_eq_of_mem_set member with old | replaced
  · exact Or.inr ⟨thread, old, holds⟩
  · rw [replaced] at holds
    rcases List.mem_append.mp holds with fresh | left
    · exact Or.inl fresh
    · exact Or.inr ⟨job :: rest, List.mem_of_getElem? found, List.mem_cons_of_mem _ left⟩

end Pending

/-! ## Counting pending jobs -/

/-- How many pending jobs are selected. -/
def pendingCount (selected : Job -> Bool) (threads : List (List Job)) : Nat :=
  (threads.map (List.countP selected)).sum

/-- Threads that have finished have nothing pending. -/
theorem pendingCount_eq_zero (selected : Job -> Bool) {threads : List (List Job)}
    (finished : forall thread, thread ∈ threads -> thread = []) :
    pendingCount selected threads = 0 := by
  induction threads with
  | nil => rfl
  | cons thread rest inductionHypothesis =>
      have others := inductionHypothesis
        (fun other member => finished other (List.mem_cons_of_mem _ member))
      rw [pendingCount] at others
      rw [pendingCount, List.map_cons, List.sum_cons, finished thread List.mem_cons_self,
        List.countP_nil, others]

theorem pendingCount_concat (selected : Job -> Bool) (threads : List (List Job))
    (jobs : List Job) :
    pendingCount selected (threads ++ [jobs]) =
      pendingCount selected threads + jobs.countP selected := by
  rw [pendingCount, List.map_append, List.sum_append, List.map_singleton, List.sum_singleton,
    pendingCount]

/-- Replacing a thread, counted on both sides. -/
theorem pendingCount_set (selected : Job -> Bool) {threads : List (List Job)} {number : Nat}
    {old : List Job} (found : threads[number]? = some old) (new : List Job) :
    pendingCount selected (threads.set number new) + old.countP selected =
      pendingCount selected threads + new.countP selected := by
  induction threads generalizing number with
  | nil => cases found
  | cons thread rest inductionHypothesis =>
      cases number with
      | zero =>
          rw [List.getElem?_cons_zero, Option.some.injEq] at found
          simp only [pendingCount, List.set_cons_zero, List.map_cons, List.sum_cons, found]
          omega
      | succ number =>
          rw [List.getElem?_cons_succ] at found
          have later := inductionHypothesis found
          simp only [pendingCount, List.set_cons_succ, List.map_cons, List.sum_cons] at later ⊢
          omega

/-- A thread that does a job and goes on. -/
theorem pendingCount_continued (selected : Job -> Bool) {threads : List (List Job)}
    {number : Nat} {job : Job} {rest : List Job}
    (found : threads[number]? = some (job :: rest)) (next : List Job) :
    pendingCount selected (threads.set number (next ++ rest)) +
        (if selected job then 1 else 0) =
      pendingCount selected threads + next.countP selected := by
  have counted := pendingCount_set selected found (next ++ rest)
  rw [List.countP_cons, List.countP_append] at counted
  omega

end Threads
end Foundations
end PetlibroRelay
