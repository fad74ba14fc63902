import PetlibroRelay.Camera.CameraRegistry

namespace PetlibroRelay
namespace Camera

open Foundations

/-!
# Attempts and the record they belong to

Every attempt carries the counter of the record at its start, and the counter is
raised by every new attempt and by everything that takes a session away.  Within one
registration an attempt is therefore the current one at most once, and no other one
has its number.  A registration after a deletion counts from the start again, so the
invariant is about the attempts of the present registration, as long as the earlier
ones can be told apart.

The invariant ties the counter, the flag of an active attempt, the session of the
record and the attempts together.  What it says about streaming needs that a connector
keeps the order of its protocol: an attempt that has streamed, or has returned, goes
on with streaming and diagnostics until its receive loop ends, and an attempt that has
returned an error is silent.
-/

/-! ## The part of the record that attempts decide -/

structure SessionView where
  attemptId : Nat
  connectActive : Bool
  session : Option Nat
  connectionState : SessionState
  streamAvailable : Bool
  deriving DecidableEq, Repr

def DeviceRecord.sessionView (record : DeviceRecord) : SessionView where
  attemptId := record.attemptId
  connectActive := record.connectActive
  session := record.session
  connectionState := record.connectionState
  streamAvailable := record.streamAvailable

def Bridge.sessionView (bridge : Bridge) : Option SessionView :=
  bridge.device.map DeviceRecord.sessionView

/-- The attempt has got so far that it can return nothing but a session. -/
def Attempt.inMedia (attempt : Attempt) : Bool :=
  attempt.streamed || decide (attempt.outcome = .returned)

/-- The events a connector may still emit. -/
def Attempt.mayEmit (attempt : Attempt) (event : SessionEvent) : Bool :=
  decide (attempt.outcome ≠ .failed) &&
    (event.isLoss ||
      if attempt.inMedia then decide (event.state = .streaming ∨ event.state = .bootstrapping)
      else decide (event.state ≠ .failed))

/-- The attempt at a place, if it belongs to the given registration. -/
def ownAttempt (registration : Nat) (attempts : List Attempt) (place : Nat) : Option Attempt :=
  attempts[place]?.filter (fun attempt => decide (attempt.registration = registration))

/-- No two attempts of a registration have one number, and none is ahead of the
counter. -/
structure Numbered (registration : Nat) (view : Option SessionView) (attempts : List Attempt) :
    Prop where
  begun : forall (place : Nat) (attempt : Attempt), attempts[place]? = some attempt ->
    attempt.registration ≤ registration
  unique : forall (first second : Nat) (one other : Attempt),
    ownAttempt registration attempts first = some one ->
      ownAttempt registration attempts second = some other -> one.number = other.number ->
        first = second
  bounded : forall own (place : Nat) (attempt : Attempt), view = some own ->
    ownAttempt registration attempts place = some attempt -> attempt.number ≤ own.attemptId

/-- How the counter, the flag, the session and the attempts of a registration hang
together.  A session that was returned is the one of the record, is closed, or is
being closed.  The last four fields need a device that is never deleted and
connectors that keep their order. -/
structure Correlated (ordered : Prop) (registration : Nat) (view : Option SessionView)
    (attempts : List Attempt) (closing : Nat -> Prop) : Prop
    extends Numbered registration view attempts where
  active : forall own, view = some own ->
    (own.connectActive = true ↔
      exists (place : Nat) (attempt : Attempt),
        ownAttempt registration attempts place = some attempt ∧
          attempt.number = own.attemptId ∧ attempt.outcome ≠ .failed)
  owned : forall own (place : Nat), view = some own -> own.session = some place ->
    exists attempt : Attempt, ownAttempt registration attempts place = some attempt ∧
      attempt.number = own.attemptId ∧ attempt.outcome = .returned
  settled : forall (place : Nat) (attempt : Attempt), attempts[place]? = some attempt ->
    attempt.outcome = .returned ->
      (exists own, view = some own ∧ own.session = some place) ∨ attempt.closed = true ∨
        closing place
  unregistered : ordered -> view = none -> attempts = []
  single : ordered -> forall (place : Nat) (attempt : Attempt), attempts[place]? = some attempt ->
    attempt.registration = registration
  stream : ordered -> forall own, view = some own ->
    (own.streamAvailable = true ↔ own.connectionState = .streaming)
  source : ordered -> forall own, view = some own -> own.connectionState = .streaming ->
    exists (place : Nat) (attempt : Attempt),
      ownAttempt registration attempts place = some attempt ∧
        attempt.number = own.attemptId ∧ attempt.outcome ≠ .failed ∧ attempt.inMedia = true

theorem ownAttempt_eq_some {registration : Nat} {attempts : List Attempt} {place : Nat}
    {attempt : Attempt} :
    ownAttempt registration attempts place = some attempt ↔
      attempts[place]? = some attempt ∧ attempt.registration = registration := by
  rw [ownAttempt, Option.filter_eq_some_iff, decide_eq_true_eq]

/-- The attempts after one of them has changed. -/
theorem getElem?_modify_iff {attempts : List Attempt} {place other : Nat}
    {change : Attempt -> Attempt} {attempt : Attempt} :
    (attempts.modify place change)[other]? = some attempt ↔
      exists before, attempts[other]? = some before ∧
        attempt = if place = other then change before else before := by
  rw [List.getElem?_modify]
  cases attempts[other]? with
  | none =>
      refine ⟨nofun, ?_⟩
      rintro ⟨before, ⟨⟩, -⟩
  | some before =>
      constructor
      · intro same
        exact ⟨before, rfl, (Option.some.inj same).symm⟩
      · rintro ⟨_, ⟨⟩, rfl⟩
        rfl

/-- A change that leaves the number and the registration of an attempt. -/
structure KeepsLabel (change : Attempt -> Attempt) : Prop where
  number : forall attempt, (change attempt).number = attempt.number
  registration : forall attempt, (change attempt).registration = attempt.registration

theorem ownAttempt_modify_iff {registration : Nat} {attempts : List Attempt} {place other : Nat}
    {change : Attempt -> Attempt} (label : KeepsLabel change) {attempt : Attempt} :
    ownAttempt registration (attempts.modify place change) other = some attempt ↔
      exists before, ownAttempt registration attempts other = some before ∧
        attempt = if place = other then change before else before := by
  have same : forall before : Attempt,
      (if place = other then change before else before).registration = before.registration := by
    intro before
    split
    · exact label.registration before
    · rfl
  rw [ownAttempt_eq_some, getElem?_modify_iff]
  constructor
  · rintro ⟨⟨before, held, rfl⟩, own⟩
    exact ⟨before, ownAttempt_eq_some.mpr ⟨held, (same before).symm.trans own⟩, rfl⟩
  · rintro ⟨before, held, rfl⟩
    obtain ⟨found, own⟩ := ownAttempt_eq_some.mp held
    exact ⟨⟨before, found, rfl⟩, (same before).trans own⟩

/-- Numbers never change. -/
theorem Numbered.modify {registration : Nat} {view : Option SessionView} {attempts : List Attempt}
    (numbered : Numbered registration view attempts) (place : Nat) {change : Attempt -> Attempt}
    (label : KeepsLabel change) : Numbered registration view (attempts.modify place change) := by
  have same : forall (other : Nat) (before : Attempt),
      (if place = other then change before else before).number = before.number ∧
        (if place = other then change before else before).registration =
          before.registration := by
    intro other before
    split
    · exact ⟨label.number before, label.registration before⟩
    · exact ⟨rfl, rfl⟩
  refine ⟨?_, ?_, ?_⟩
  · intro other attempt found
    obtain ⟨before, held, rfl⟩ := getElem?_modify_iff.mp found
    rw [(same other before).2]
    exact numbered.begun other before held
  · intro first second one other foundOne foundOther equal
    obtain ⟨before, held, rfl⟩ := (ownAttempt_modify_iff label).mp foundOne
    obtain ⟨otherBefore, otherHeld, rfl⟩ := (ownAttempt_modify_iff label).mp foundOther
    rw [(same first before).1, (same second otherBefore).1] at equal
    exact numbered.unique first second before otherBefore held otherHeld equal
  · intro own other attempt present found
    obtain ⟨before, held, rfl⟩ := (ownAttempt_modify_iff label).mp found
    rw [(same other before).1]
    exact numbered.bounded own other before present held

/-- The counter stays. -/
theorem Numbered.recount {registration : Nat} {own after : SessionView} {attempts : List Attempt}
    (numbered : Numbered registration (some own) attempts)
    (same : after.attemptId = own.attemptId) : Numbered registration (some after) attempts where
  begun := numbered.begun
  unique := numbered.unique
  bounded := by
    rintro _ place attempt ⟨⟩ found
    rw [same]
    exact numbered.bounded own place attempt rfl found

namespace Correlated

variable {ordered : Prop} {registration : Nat} {view : Option SessionView} {own : SessionView}
  {attempts : List Attempt} {closing later : Nat -> Prop}

/-- Sessions that are being closed stay so, unless they are closed. -/
theorem closes (correlated : Correlated ordered registration view attempts closing)
    (onward : forall (place : Nat) (attempt : Attempt), attempts[place]? = some attempt ->
      attempt.outcome = .returned -> closing place -> attempt.closed = true ∨ later place) :
    Correlated ordered registration view attempts later where
  toNumbered := correlated.toNumbered
  active := correlated.active
  owned := correlated.owned
  settled := by
    intro place attempt found returned
    rcases correlated.settled place attempt found returned with held | closed | pending
    · exact Or.inl held
    · exact Or.inr (Or.inl closed)
    · exact Or.inr (onward place attempt found returned pending)
  unregistered := correlated.unregistered
  single := correlated.single
  stream := correlated.stream
  source := correlated.source

theorem mono (correlated : Correlated ordered registration view attempts closing)
    (grows : forall place, closing place -> later place) :
    Correlated ordered registration view attempts later :=
  correlated.closes (fun place _ _ _ pending => Or.inr (grows place pending))

/-- Where there is no active attempt the record has no session and does not stream. -/
theorem inactive (correlated : Correlated ordered registration (some own) attempts closing)
    (inactive : own.connectActive = false) :
    own.session = none ∧ (ordered -> own.connectionState ≠ .streaming) := by
  have noAttempt : ¬ exists (place : Nat) (attempt : Attempt),
      ownAttempt registration attempts place = some attempt ∧
        attempt.number = own.attemptId ∧ attempt.outcome ≠ .failed := by
    rw [← correlated.active own rfl, inactive]
    exact Bool.false_ne_true
  constructor
  · cases held : own.session with
    | none => rfl
    | some place =>
        obtain ⟨attempt, found, current, returned⟩ := correlated.owned own place rfl held
        refine absurd ⟨place, attempt, found, current, ?_⟩ noAttempt
        rw [returned]
        exact nofun
  · intro keeping streams
    obtain ⟨place, attempt, found, current, alive, -⟩ :=
      correlated.source keeping own rfl streams
    exact noAttempt ⟨place, attempt, found, current, alive⟩

/-- A registration.  No attempt belongs to it yet. -/
theorem registered (correlated : Correlated ordered registration none attempts closing)
    (fresh : own = ⟨0, false, none, .idle, false⟩) :
    Correlated ordered (registration + 1) (some own) attempts closing := by
  subst fresh
  have nothing : forall (place : Nat) (attempt : Attempt),
      ownAttempt (registration + 1) attempts place ≠ some attempt := by
    intro place attempt held
    obtain ⟨found, new⟩ := ownAttempt_eq_some.mp held
    have old := correlated.begun place attempt found
    omega
  refine ⟨⟨?_, ?_, ?_⟩, ?_, ?_, ?_, nofun, ?_, ?_, ?_⟩
  · intro place attempt found
    exact Nat.le_succ_of_le (correlated.begun place attempt found)
  · intro first second one other found
    exact absurd found (nothing first one)
  · intro view place attempt _ found
    exact absurd found (nothing place attempt)
  · rintro _ ⟨⟩
    refine ⟨nofun, ?_⟩
    rintro ⟨place, attempt, found, -⟩
    exact absurd found (nothing place attempt)
  · rintro _ place ⟨⟩ held
    cases held
  · intro place attempt found returned
    rcases correlated.settled place attempt found returned with ⟨_, ⟨⟩, -⟩ | rest
    exact Or.inr rest
  · intro keeping place attempt found
    rw [correlated.unregistered keeping rfl, List.getElem?_nil] at found
    cases found
  · rintro _ _ ⟨⟩
    exact ⟨nofun, nofun⟩
  · rintro _ _ ⟨⟩ streams
    cases streams

/-- The record is deleted, and its session goes to be closed. -/
theorem deleted (correlated : Correlated ordered registration (some own) attempts closing)
    (unordered : ¬ ordered) (grows : forall place, closing place -> later place)
    (closed : forall place, own.session = some place -> later place) :
    Correlated ordered registration none attempts later := by
  refine ⟨⟨correlated.begun, correlated.unique, ?_⟩, nofun, nofun, ?_,
    fun keeping => absurd keeping unordered, correlated.single, fun _ => nofun, fun _ => nofun⟩
  · rintro _ _ _ ⟨⟩
  intro place attempt found returned
  rcases correlated.settled place attempt found returned with ⟨_, ⟨⟩, held⟩ | done | pending
  · exact Or.inr (Or.inr (closed place held))
  · exact Or.inr (Or.inl done)
  · exact Or.inr (Or.inr (grows place pending))

/-- A new attempt, when none is active. -/
theorem connects (correlated : Correlated ordered registration (some own) attempts closing)
    (idle : own.connectActive = false) {attempt : Attempt}
    (number : attempt.number = own.attemptId + 1) (running : attempt.outcome = .running)
    (new : attempt.registration = registration) :
    Correlated ordered registration
      (some { own with connectActive := true, attemptId := own.attemptId + 1 })
      (attempts ++ [attempt]) closing := by
  obtain ⟨noSession, noStream⟩ := correlated.inactive idle
  have split : forall (place : Nat) (other : Attempt), (attempts ++ [attempt])[place]? = some other ->
      attempts[place]? = some other ∨ (place = attempts.length ∧ other = attempt) := by
    intro place other found
    by_cases before : place < attempts.length
    · rw [List.getElem?_append_left before] at found
      exact Or.inl found
    · obtain ⟨within, -⟩ := List.getElem?_eq_some_iff.mp found
      rw [List.length_append, List.length_singleton] at within
      have last : place = attempts.length := by omega
      rw [last, List.getElem?_concat_length, Option.some_inj] at found
      exact Or.inr ⟨last, found.symm⟩
  have ownSplit : forall (place : Nat) (other : Attempt),
      ownAttempt registration (attempts ++ [attempt]) place = some other ->
        ownAttempt registration attempts place = some other ∨
          (place = attempts.length ∧ other = attempt) := by
    intro place other held
    obtain ⟨found, same⟩ := ownAttempt_eq_some.mp held
    exact (split place other found).imp_left (fun old => ownAttempt_eq_some.mpr ⟨old, same⟩)
  have above : forall (place : Nat) (other : Attempt),
      ownAttempt registration attempts place = some other -> other.number < attempt.number := by
    intro place other found
    rw [number]
    exact Nat.lt_succ_of_le (correlated.bounded own place other rfl found)
  refine ⟨⟨?_, ?_, ?_⟩, ?_, ?_, ?_, fun _ => nofun, ?_, ?_, ?_⟩
  · intro place other found
    rcases split place other found with old | ⟨-, rfl⟩
    · exact correlated.begun place other old
    · exact Nat.le_of_eq new
  · intro first second one other foundOne foundOther same
    rcases ownSplit first one foundOne with old | ⟨place, rfl⟩
    · rcases ownSplit second other foundOther with otherOld | ⟨-, rfl⟩
      · exact correlated.unique first second one other old otherOld same
      · exact absurd same (Nat.ne_of_lt (above first one old))
    · rcases ownSplit second other foundOther with otherOld | ⟨otherPlace, -⟩
      · exact absurd same.symm (Nat.ne_of_lt (above second other otherOld))
      · rw [place, otherPlace]
  · rintro _ place other ⟨⟩ found
    rcases ownSplit place other found with old | ⟨-, rfl⟩
    · exact Nat.le_succ_of_le (correlated.bounded own place other rfl old)
    · exact Nat.le_of_eq number
  · rintro _ ⟨⟩
    refine ⟨fun _ => ⟨attempts.length, attempt, ?_, number, ?_⟩, fun _ => rfl⟩
    · exact ownAttempt_eq_some.mpr ⟨List.getElem?_concat_length, new⟩
    · rw [running]
      exact nofun
  · rintro _ place ⟨⟩ held
    exact nomatch noSession.symm.trans held
  · intro place other found returned
    rcases split place other found with old | ⟨-, rfl⟩
    · rcases correlated.settled place other old returned with ⟨_, ⟨⟩, held⟩ | rest
      · exact nomatch noSession.symm.trans held
      · exact Or.inr rest
    · rw [running] at returned
      cases returned
  · intro keeping place other found
    rcases split place other found with old | ⟨-, rfl⟩
    · exact correlated.single keeping place other old
    · exact new
  · rintro keeping _ ⟨⟩
    exact correlated.stream keeping own rfl
  · rintro keeping _ ⟨⟩ streams
    exact absurd streams (noStream keeping)

/-- Everything is taken away, and the session goes to be closed. -/
theorem disconnects (correlated : Correlated ordered registration (some own) attempts closing)
    (grows : forall place, closing place -> later place)
    (closed : forall place, own.session = some place -> later place) {state : SessionState}
    (still : state ≠ .streaming) :
    Correlated ordered registration (some ⟨own.attemptId + 1, false, none, state, false⟩) attempts
      later := by
  have above : forall (place : Nat) (other : Attempt),
      ownAttempt registration attempts place = some other -> other.number ≠ own.attemptId + 1 := by
    intro place other found
    have below := correlated.bounded own place other rfl found
    omega
  refine ⟨⟨correlated.begun, correlated.unique, ?_⟩, ?_, ?_, ?_, fun _ => nofun,
    correlated.single, ?_, ?_⟩
  · rintro _ place other ⟨⟩ found
    exact Nat.le_succ_of_le (correlated.bounded own place other rfl found)
  · rintro _ ⟨⟩
    refine ⟨nofun, ?_⟩
    rintro ⟨place, other, found, same, -⟩
    exact absurd same (above place other found)
  · rintro _ place ⟨⟩ held
    cases held
  · intro place other found returned
    rcases correlated.settled place other found returned with ⟨_, ⟨⟩, held⟩ | done | pending
    · exact Or.inr (Or.inr (closed place held))
    · exact Or.inr (Or.inl done)
    · exact Or.inr (Or.inr (grows place pending))
  · rintro _ _ ⟨⟩
    exact ⟨nofun, fun streams => absurd streams still⟩
  · rintro _ _ ⟨⟩ streams
    exact absurd streams still

/-- Changes of attempts stay within the registration. -/
theorem single_modify (correlated : Correlated ordered registration view attempts closing)
    (keeping : ordered) (place : Nat) {change : Attempt -> Attempt} (label : KeepsLabel change) :
    forall (other : Nat) (attempt : Attempt),
      (attempts.modify place change)[other]? = some attempt ->
        attempt.registration = registration := by
  intro other attempt found
  obtain ⟨before, held, rfl⟩ := getElem?_modify_iff.mp found
  refine Eq.trans ?_ (correlated.single keeping other before held)
  split
  · exact label.registration before
  · rfl

/-- One attempt changes in what has no part in the correlation, or gets further. -/
theorem marked (correlated : Correlated ordered registration view attempts closing) (place : Nat)
    {change : Attempt -> Attempt} (label : KeepsLabel change)
    (outcome : forall attempt, (change attempt).outcome = attempt.outcome)
    (closed : forall attempt, attempt.closed = true -> (change attempt).closed = true)
    (streamed : forall attempt, attempt.streamed = true -> (change attempt).streamed = true) :
    Correlated ordered registration view (attempts.modify place change) closing := by
  have same : forall (other : Nat) (before : Attempt),
      (if place = other then change before else before).number = before.number ∧
        (if place = other then change before else before).outcome = before.outcome := by
    intro other before
    split
    · exact ⟨label.number before, outcome before⟩
    · exact ⟨rfl, rfl⟩
  have media : forall (other : Nat) (before : Attempt), before.inMedia = true ->
      (if place = other then change before else before).inMedia = true := by
    intro other before further
    split
    · rw [Attempt.inMedia, Bool.or_eq_true] at further ⊢
      rw [outcome before]
      exact further.imp (streamed before) id
    · exact further
  refine ⟨correlated.toNumbered.modify place label, ?_, ?_, ?_, ?_, ?_, correlated.stream, ?_⟩
  · intro own present
    rw [correlated.active own present]
    constructor
    · rintro ⟨other, before, held, current, alive⟩
      refine ⟨other, _, (ownAttempt_modify_iff label).mpr ⟨before, held, rfl⟩, ?_, ?_⟩
      · rw [(same other before).1, current]
      · rw [(same other before).2]
        exact alive
    · rintro ⟨other, attempt, found, current, alive⟩
      obtain ⟨before, held, rfl⟩ := (ownAttempt_modify_iff label).mp found
      rw [(same other before).1] at current
      rw [(same other before).2] at alive
      exact ⟨other, before, held, current, alive⟩
  · intro own other present session
    obtain ⟨before, held, current, returned⟩ := correlated.owned own other present session
    refine ⟨_, (ownAttempt_modify_iff label).mpr ⟨before, held, rfl⟩, ?_, ?_⟩
    · rw [(same other before).1, current]
    · rw [(same other before).2, returned]
  · intro other attempt found returned
    obtain ⟨before, held, rfl⟩ := getElem?_modify_iff.mp found
    rw [(same other before).2] at returned
    rcases correlated.settled other before held returned with session | done | pending
    · exact Or.inl session
    · refine Or.inr (Or.inl ?_)
      split
      · exact closed before done
      · exact done
    · exact Or.inr (Or.inr pending)
  · intro keeping absent
    rw [correlated.unregistered keeping absent, List.modify_nil]
  · intro keeping
    exact correlated.single_modify keeping place label
  · intro keeping own present streams
    obtain ⟨other, before, held, current, alive, further⟩ :=
      correlated.source keeping own present streams
    refine ⟨other, _, (ownAttempt_modify_iff label).mpr ⟨before, held, rfl⟩, ?_, ?_,
      media other before further⟩
    · rw [(same other before).1, current]
    · rw [(same other before).2]
      exact alive

/-- An event of the current attempt.  Where the record streams the event says so too. -/
theorem observes (correlated : Correlated ordered registration (some own) attempts closing)
    {place : Nat} {attempt : Attempt} (found : ownAttempt registration attempts place = some attempt)
    (current : attempt.number = own.attemptId) {state : SessionState}
    (alive : ordered -> attempt.outcome ≠ .failed)
    (media : state = .streaming -> attempt.inMedia = true)
    (still : ordered -> own.connectionState = .streaming -> state = .streaming) :
    Correlated ordered registration (some { own with
      connectionState := state
      streamAvailable := if state = .streaming then true else own.streamAvailable })
      attempts closing := by
  refine ⟨⟨correlated.begun, correlated.unique, ?_⟩, ?_, ?_, ?_, fun _ => nofun,
    correlated.single, ?_, ?_⟩
  · rintro _ other held ⟨⟩ at_
    exact correlated.bounded own other held rfl at_
  · rintro _ ⟨⟩
    exact correlated.active own rfl
  · rintro _ other ⟨⟩ session
    exact correlated.owned own other rfl session
  · intro other held at_ returned
    rcases correlated.settled other held at_ returned with ⟨_, ⟨⟩, session⟩ | rest
    · exact Or.inl ⟨_, rfl, session⟩
    · exact Or.inr rest
  · rintro keeping _ ⟨⟩
    by_cases streams : state = .streaming
    · simp only [streams, if_true]
    · simp only [streams, if_false, iff_false]
      rw [correlated.stream keeping own rfl]
      exact fun before => streams (still keeping before)
  · rintro keeping _ ⟨⟩ streams
    exact ⟨place, attempt, found, current, alive keeping, media streams⟩

/-- While the current attempt runs the record has no session. -/
theorem session_of_running (correlated : Correlated ordered registration (some own) attempts closing)
    {place : Nat} {attempt : Attempt} (found : ownAttempt registration attempts place = some attempt)
    (current : attempt.number = own.attemptId) (running : attempt.outcome = .running) :
    own.session = none := by
  cases held : own.session with
  | none => rfl
  | some other =>
      obtain ⟨returned, at_, same, outcome⟩ := correlated.owned own other rfl held
      have equal := correlated.unique other place returned attempt at_ found
        (same.trans current.symm)
      subst equal
      cases at_.symm.trans found
      exact nomatch running.symm.trans outcome

/-- The attempts after one of them has ended, under the number it had. -/
theorem keepsLabel_outcome (outcome : AttemptOutcome) :
    KeepsLabel (fun before => { before with outcome := outcome }) :=
  ⟨fun _ => rfl, fun _ => rfl⟩

/-- The current attempt returns a session. -/
theorem adopts (correlated : Correlated ordered registration (some own) attempts closing)
    {place : Nat} {attempt : Attempt} (found : ownAttempt registration attempts place = some attempt)
    (current : attempt.number = own.attemptId) (running : attempt.outcome = .running) :
    Correlated ordered registration (some { own with session := some place })
      (attempts.modify place (fun before => { before with outcome := .returned })) closing := by
  have label := keepsLabel_outcome .returned
  have noSession := correlated.session_of_running found current running
  have adopted : ownAttempt registration (attempts.modify place (fun before =>
      { before with outcome := .returned })) place =
        some { attempt with outcome := .returned } :=
    (ownAttempt_modify_iff label).mpr ⟨attempt, found, (if_pos rfl).symm⟩
  refine ⟨(correlated.toNumbered.modify place label).recount rfl, ?_, ?_, ?_, fun _ => nofun, ?_,
    ?_, ?_⟩
  · rintro _ ⟨⟩
    refine iff_of_true ?_ ⟨place, _, adopted, current, nofun⟩
    refine (correlated.active own rfl).mpr ⟨place, attempt, found, current, ?_⟩
    rw [running]
    exact nofun
  · rintro _ other ⟨⟩ session
    cases session
    exact ⟨_, adopted, current, rfl⟩
  · intro other after at_ returned
    by_cases here : place = other
    · exact Or.inl ⟨_, rfl, congrArg some here⟩
    · obtain ⟨before, held, rfl⟩ := getElem?_modify_iff.mp at_
      rw [if_neg here] at returned ⊢
      rcases correlated.settled other before held returned with ⟨_, ⟨⟩, session⟩ | rest
      · exact nomatch noSession.symm.trans session
      · exact Or.inr rest
  · intro keeping
    exact correlated.single_modify keeping place label
  · rintro keeping _ ⟨⟩
    exact correlated.stream keeping own rfl
  · rintro keeping _ ⟨⟩ streams
    refine ⟨place, _, adopted, current, nofun, ?_⟩
    rw [Attempt.inMedia, Bool.or_eq_true]
    exact Or.inr rfl

/-- The current attempt returns an error. -/
theorem fails (correlated : Correlated ordered registration (some own) attempts closing)
    {place : Nat} {attempt : Attempt} (found : ownAttempt registration attempts place = some attempt)
    (current : attempt.number = own.attemptId) (running : attempt.outcome = .running) :
    Correlated ordered registration (some { own with
      connectActive := false
      connectionState := .failed
      streamAvailable := false })
      (attempts.modify place (fun before => { before with outcome := .failed })) closing := by
  have label := keepsLabel_outcome .failed
  have noSession := correlated.session_of_running found current running
  refine ⟨(correlated.toNumbered.modify place label).recount rfl, ?_, ?_, ?_, fun _ => nofun, ?_,
    ?_, ?_⟩
  · rintro _ ⟨⟩
    refine iff_of_false Bool.false_ne_true ?_
    rintro ⟨other, after, at_, same, alive⟩
    obtain ⟨before, held, rfl⟩ := (ownAttempt_modify_iff label).mp at_
    by_cases here : place = other
    · rw [if_pos here] at alive
      exact alive rfl
    · rw [if_neg here] at same
      exact here (correlated.unique place other attempt before found held
        (current.trans same.symm))
  · rintro _ other ⟨⟩ session
    exact nomatch noSession.symm.trans session
  · intro other after at_ returned
    obtain ⟨before, held, rfl⟩ := getElem?_modify_iff.mp at_
    by_cases here : place = other
    · rw [if_pos here] at returned
      cases returned
    · rw [if_neg here] at returned ⊢
      rcases correlated.settled other before held returned with ⟨_, ⟨⟩, session⟩ | rest
      · exact nomatch noSession.symm.trans session
      · exact Or.inr rest
  · intro keeping
    exact correlated.single_modify keeping place label
  · rintro _ _ ⟨⟩
    exact ⟨nofun, nofun⟩
  · rintro _ _ ⟨⟩ streams
    cases streams

/-- An attempt that is not the current one ends.  A session it returns is to be
closed. -/
theorem endsElsewhere (correlated : Correlated ordered registration view attempts closing)
    {place : Nat} {attempt : Attempt} (found : attempts[place]? = some attempt)
    (elsewhere : forall own, view = some own -> attempt.number ≠ own.attemptId)
    (outcome : AttemptOutcome) (grows : forall other, closing other -> later other)
    (closed : outcome = .returned -> later place) :
    Correlated ordered registration view
      (attempts.modify place (fun before => { before with outcome := outcome })) later := by
  have label := keepsLabel_outcome outcome
  -- whatever is said of a current attempt is said of another one
  have away : forall own other before, view = some own ->
      ownAttempt registration attempts other = some before -> before.number = own.attemptId ->
        place ≠ other := by
    rintro own other before present held current rfl
    cases (ownAttempt_eq_some.mp held).1.symm.trans found
    exact elsewhere own present current
  have kept : forall other before, ownAttempt registration attempts other = some before ->
      place ≠ other ->
        ownAttempt registration (attempts.modify place (fun before =>
          { before with outcome := outcome })) other = some before :=
    fun other before held apart =>
      (ownAttempt_modify_iff label).mpr ⟨before, held, (if_neg apart).symm⟩
  refine ⟨correlated.toNumbered.modify place label, ?_, ?_, ?_, ?_, ?_, correlated.stream, ?_⟩
  · intro own present
    rw [correlated.active own present]
    constructor
    · rintro ⟨other, before, held, current, alive⟩
      exact ⟨other, before, kept other before held (away own other before present held current),
        current, alive⟩
    · rintro ⟨other, after, at_, current, alive⟩
      obtain ⟨before, held, rfl⟩ := (ownAttempt_modify_iff label).mp at_
      by_cases here : place = other
      · subst here
        cases (ownAttempt_eq_some.mp held).1.symm.trans found
        rw [if_pos rfl] at current
        exact absurd current (elsewhere own present)
      · rw [if_neg here] at current alive
        exact ⟨other, before, held, current, alive⟩
  · intro own other present session
    obtain ⟨before, held, current, returned⟩ := correlated.owned own other present session
    exact ⟨before, kept other before held (away own other before present held current), current,
      returned⟩
  · intro other after at_ returned
    obtain ⟨before, held, rfl⟩ := getElem?_modify_iff.mp at_
    by_cases here : place = other
    · subst here
      rw [if_pos rfl] at returned
      exact Or.inr (Or.inr (closed returned))
    · rw [if_neg here] at returned ⊢
      rcases correlated.settled other before held returned with session | done | pending
      · exact Or.inl session
      · exact Or.inr (Or.inl done)
      · exact Or.inr (Or.inr (grows other pending))
  · intro keeping absent
    rw [correlated.unregistered keeping absent, List.modify_nil]
  · intro keeping
    exact correlated.single_modify keeping place label
  · intro keeping own present streams
    obtain ⟨other, before, held, current, rest⟩ := correlated.source keeping own present streams
    exact ⟨other, before, kept other before held (away own other before present held current),
      current, rest⟩

end Correlated

/-! ## What a section keeps -/

/-- The session a job is about. -/
def Job.session? : Job -> Option Nat
  | .closeSession session => some session
  | .startAudio session => some session
  | .stopAudio session => some session
  | .emitStreaming session => some session
  | _ => none

/-- The attempt has returned a session. -/
def Returned (attempts : List Attempt) (place : Nat) : Prop :=
  exists attempt : Attempt, attempts[place]? = some attempt ∧ attempt.outcome = .returned

/-- The record and the attempts of a bridge are correlated. -/
abbrev Bridge.Correlates (bridge : Bridge) (ordered : Prop) (closing : Nat -> Prop) : Prop :=
  Correlated ordered bridge.registrations bridge.sessionView bridge.attempts closing

/-- What a section leaves is correlated, together with the sessions it leaves to be
closed, and its jobs are about sessions that were returned. -/
structure Keeps (ordered : Prop) (closing : Nat -> Prop) (bridge : Bridge)
    (done : Bridge × List Job) : Prop where
  state : done.1.Correlates ordered (fun place => closing place ∨ Job.closeSession place ∈ done.2)
  returned : forall place, Returned bridge.attempts place -> Returned done.1.attempts place
  jobs : forall job, job ∈ done.2 -> forall place, job.session? = some place ->
    Returned done.1.attempts place

theorem Returned.modify {attempts : List Attempt} {other : Nat} (returned : Returned attempts other)
    (place : Nat) {change : Attempt -> Attempt}
    (stays : forall attempt, attempt.outcome = .returned -> (change attempt).outcome = .returned) :
    Returned (attempts.modify place change) other := by
  obtain ⟨attempt, found, outcome⟩ := returned
  refine ⟨_, getElem?_modify_iff.mpr ⟨attempt, found, rfl⟩, ?_⟩
  split
  · exact stays attempt outcome
  · exact outcome

section Sections

variable {ordered : Prop} {bridge : Bridge} {record : DeviceRecord} {closing : Nat -> Prop}

theorem sessionView_of_device (present : bridge.device = some record) :
    bridge.sessionView = some record.sessionView := by
  rw [Bridge.sessionView, present, Option.map_some]

theorem sessionView_scheduleReconnect (timers : List Timer) (record : DeviceRecord) :
    (scheduleReconnectLocked timers record).2.sessionView = record.sessionView := by
  unfold scheduleReconnectLocked
  split
  · rfl
  · rfl

theorem sessionView_scheduleIdle (timers : List Timer) (record : DeviceRecord) :
    (scheduleIdleDisconnectLocked timers record).2.sessionView = record.sessionView := by
  unfold scheduleIdleDisconnectLocked
  split
  · rfl
  · rfl

/-- A section that has no part in it. -/
theorem keeps_of_frame (correlated : bridge.Correlates ordered closing)
    {done : Bridge × List Job} (registrations : done.1.registrations = bridge.registrations)
    (view : done.1.sessionView = bridge.sessionView)
    (attempts : done.1.attempts = bridge.attempts)
    (jobs : forall job, job ∈ done.2 -> job.session? = none) :
    Keeps ordered closing bridge done where
  state := by
    rw [Bridge.Correlates, registrations, view, attempts]
    exact correlated.mono (fun _ pending => Or.inl pending)
  returned := by
    rw [attempts]
    exact fun _ returned => returned
  jobs := by
    intro job member place about
    rw [jobs job member] at about
    cases about

theorem keeps_connect (correlated : bridge.Correlates ordered closing)
    {jobs : List Job} (sessionless : forall job, job ∈ jobs -> job.session? = none) :
    Keeps ordered closing bridge (bridge.connect, jobs) := by
  unfold Bridge.connect
  split
  · exact keeps_of_frame correlated rfl rfl rfl sessionless
  · next record present =>
      split
      · exact keeps_of_frame correlated rfl rfl rfl sessionless
      · next idle =>
          rw [Bridge.Correlates, sessionView_of_device present] at correlated
          refine ⟨?_, ?_, ?_⟩
          · refine Correlated.mono ?_ (fun _ pending => Or.inl pending)
            exact correlated.connects (Bool.eq_false_iff.mpr idle) rfl rfl rfl
          · rintro place ⟨attempt, found, outcome⟩
            refine ⟨attempt, ?_, outcome⟩
            rw [List.getElem?_append_left (List.getElem?_eq_some_iff.mp found).1, found]
          · intro job member place about
            rw [sessionless job member] at about
            cases about

theorem mem_closeResources {cancel session : Option Nat} {job : Job}
    (member : job ∈ closeResources cancel session) :
    job.session? = none ∨ exists place, session = some place ∧ job = .closeSession place := by
  rcases List.mem_append.mp member with first | second
  · obtain ⟨attempt, -, rfl⟩ := List.mem_map.mp first
    exact Or.inl rfl
  · obtain ⟨place, held, rfl⟩ := List.mem_map.mp second
    exact Or.inr ⟨place, Option.mem_toList.mp held, rfl⟩

theorem close_mem_closeResources (cancel : Option Nat) {session : Option Nat} {place : Nat}
    (held : session = some place) : Job.closeSession place ∈ closeResources cancel session := by
  refine List.mem_append_right _ (List.mem_map.mpr ⟨place, ?_, rfl⟩)
  exact Option.mem_toList.mpr held

/-- Taking everything away, whatever becomes of timers and consumers. -/
theorem keeps_disconnected (correlated : bridge.Correlates ordered closing)
    (present : bridge.device = some record) {state : SessionState} (still : state ≠ .streaming)
    {after : Bridge} (registrations : after.registrations = bridge.registrations)
    (view : after.sessionView = some ⟨record.attemptId + 1, false, none, state, false⟩)
    (attempts : after.attempts = bridge.attempts) :
    Keeps ordered closing bridge (after, closeResources record.cancel record.session) := by
  rw [Bridge.Correlates, sessionView_of_device present] at correlated
  refine ⟨?_, ?_, ?_⟩
  · rw [Bridge.Correlates, registrations, view, attempts]
    refine correlated.disconnects (fun _ pending => Or.inl pending) ?_ still
    intro place held
    exact Or.inr (close_mem_closeResources _ held)
  · rw [attempts]
    exact fun _ returned => returned
  · intro job member place about
    rw [attempts]
    rcases mem_closeResources member with sessionless | ⟨session, held, rfl⟩
    · rw [sessionless] at about
      cases about
    · obtain rfl : session = place := Option.some.inj about
      obtain ⟨attempt, found, -, outcome⟩ := correlated.owned _ session rfl held
      exact ⟨attempt, (ownAttempt_eq_some.mp found).1, outcome⟩

theorem keeps_loseSession (correlated : bridge.Correlates ordered closing)
    (present : bridge.device = some record) (error : String) (now : Rat) :
    Keeps ordered closing bridge (bridge.loseSession record error now) := by
  unfold Bridge.loseSession
  dsimp only [Bridge.disconnectLocked]
  split
  · exact keeps_disconnected correlated present (nofun : SessionState.failed ≠ .streaming) rfl
      (congrArg some (sessionView_scheduleReconnect _ _)) rfl
  · exact keeps_disconnected correlated present (nofun : SessionState.failed ≠ .streaming) rfl rfl
      rfl

/-- The number of an attempt tells whether it is the one the record waits for: an
attempt of an earlier registration does not have that number. -/
def Bridge.tellsApart (bridge : Bridge) (place : Nat) : Bool :=
  !bridge.isCurrent place || bridge.attempts[place]?.all (fun attempt =>
    decide (attempt.registration = bridge.registrations))

theorem own_of_tellsApart {place : Nat} {attempt : Attempt}
    (apart : bridge.tellsApart place = true) (found : bridge.attempts[place]? = some attempt)
    (present : bridge.device = some record) (same : record.attemptId = attempt.number) :
    ownAttempt bridge.registrations bridge.attempts place = some attempt := by
  have current : bridge.isCurrent place = true :=
    Bridge.isCurrent_iff.mpr ⟨attempt, record, found, present, same⟩
  rw [Bridge.tellsApart, current, Bool.not_true, Bool.false_or, found, Option.all_some,
    decide_eq_true_eq] at apart
  exact ownAttempt_eq_some.mpr ⟨found, apart⟩

/-- An event of an attempt of this registration. -/
theorem keeps_transition (correlated : bridge.Correlates ordered closing)
    {place : Nat} {attempt : Attempt} (found : bridge.attempts[place]? = some attempt)
    (apart : bridge.tellsApart place = true) {event : SessionEvent} (now : Rat)
    (alive : ordered -> attempt.outcome ≠ .failed)
    (media : event.state = .streaming -> attempt.inMedia = true)
    (onward : ordered -> event.isLoss = false -> attempt.inMedia = true ->
      event.state = .streaming ∨ event.state = .bootstrapping) :
    Keeps ordered closing bridge (bridge.transition attempt.number event now) := by
  unfold Bridge.transition
  split
  · exact keeps_of_frame correlated rfl rfl rfl (List.forall_mem_nil _)
  · next record current =>
      obtain ⟨present, counter⟩ := Bridge.matching_eq_some.mp current
      have same : attempt.number = record.attemptId := counter.symm
      have own := own_of_tellsApart apart found present counter
      split
      · exact keeps_loseSession correlated present event.error now
      · next noLoss =>
          rw [Bridge.observed]
          split
          · exact keeps_of_frame correlated rfl (sessionView_of_device present).symm rfl
              (List.forall_mem_nil _)
          · next moves =>
              rw [Bridge.Correlates, sessionView_of_device present] at correlated
              have still : ordered -> record.sessionView.connectionState = .streaming ->
                  event.state = .streaming := by
                intro keeping streams
                obtain ⟨other, source, held, number, -, further⟩ :=
                  correlated.source keeping _ rfl streams
                have equal := correlated.unique other place source attempt held own
                  (number.trans same.symm)
                subst equal
                cases held.symm.trans own
                rcases onward keeping (Bool.eq_false_iff.mpr noLoss) further with
                  streaming | diagnostics
                · exact streaming
                · exact absurd ⟨streams, diagnostics⟩ moves
              have observed := correlated.observes own same alive media still
              refine ⟨?_, fun _ returned => returned, ?_⟩
              · refine Correlated.mono ?_ (fun _ pending => Or.inl pending)
                by_cases streams : event.state = .streaming
                · simp only [streams, if_true] at observed ⊢
                  exact observed
                · simp only [streams, if_false] at observed ⊢
                  exact observed
              · exact fun _ member => nomatch member

theorem keepsLabel_emitted (event : SessionEvent) : KeepsLabel (Attempt.emitted event) :=
  ⟨fun _ => rfl, fun _ => rfl⟩

/-- The mark that an event leaves in its attempt has no part in the correlation. -/
theorem correlates_emitted (correlated : bridge.Correlates ordered closing) (place : Nat)
    (event : SessionEvent) :
    (bridge.modifyAttempt place (Attempt.emitted event)).Correlates ordered closing := by
  refine Correlated.marked correlated place (keepsLabel_emitted event) (fun _ => rfl)
    (fun _ => id) ?_
  intro attempt streamed
  rw [Attempt.emitted, streamed, Bool.true_or]

theorem attempts_emitted {place : Nat} {attempt : Attempt}
    (found : bridge.attempts[place]? = some attempt) (event : SessionEvent) :
    (bridge.modifyAttempt place (Attempt.emitted event)).attempts[place]? =
      some (attempt.emitted event) :=
  getElem?_modify_iff.mpr ⟨attempt, found, (if_pos rfl).symm⟩

/-- Whether an attempt can be told apart does not depend on what is marked in it. -/
theorem tellsApart_modifyAttempt {place : Nat} (apart : bridge.tellsApart place = true)
    {change : Attempt -> Attempt} (label : KeepsLabel change) :
    (bridge.modifyAttempt place change).tellsApart place = true := by
  have found : (bridge.modifyAttempt place change).attempts[place]? =
      bridge.attempts[place]?.map change := by
    rw [Bridge.modifyAttempt, List.getElem?_modify_eq]
    rfl
  rw [Bridge.tellsApart, Bridge.isCurrent] at apart ⊢
  rw [found]
  cases held : bridge.attempts[place]? with
  | none => rfl
  | some attempt =>
      rw [held, Option.any_some, Option.all_some] at apart
      rw [Option.map_some, Option.any_some, Option.all_some, label.registration, label.number,
        Bridge.matching_modifyAttempt]
      exact apart

theorem keeps_emit (correlated : bridge.Correlates ordered closing)
    {place : Nat} (apart : bridge.tellsApart place = true) {event : SessionEvent} (now : Rat)
    (may : ordered -> forall attempt : Attempt, bridge.attempts[place]? = some attempt ->
      attempt.mayEmit event = true) :
    Keeps ordered closing bridge (bridge.emit place event now) := by
  unfold Bridge.emit
  split
  · exact keeps_of_frame correlated rfl rfl rfl (List.forall_mem_nil _)
  · next attempt found =>
      have allowed : ordered -> attempt.outcome ≠ .failed ∧ (event.isLoss = true ∨
          (if attempt.inMedia then decide (event.state = .streaming ∨ event.state = .bootstrapping)
            else decide (event.state ≠ .failed)) = true) := by
        intro keeping
        have given := may keeping attempt found
        rw [Attempt.mayEmit, Bool.and_eq_true, decide_eq_true_eq, Bool.or_eq_true] at given
        exact given
      have label := keepsLabel_emitted event
      have marked := correlates_emitted correlated place event
      have emitted := attempts_emitted found event
      have kept : Keeps ordered closing (bridge.modifyAttempt place (Attempt.emitted event))
          ((bridge.modifyAttempt place (Attempt.emitted event)).transition
            (attempt.emitted event).number event now) := by
        refine keeps_transition marked emitted (tellsApart_modifyAttempt apart label) now
          (fun keeping => (allowed keeping).1) ?_ ?_
        · intro streaming
          simp only [Attempt.inMedia, Attempt.emitted, streaming, decide_true, Bool.or_true,
            Bool.true_or]
        · intro keeping noLoss media
          by_cases streaming : event.state = .streaming
          · exact Or.inl streaming
          · have before : attempt.inMedia = true := by
              rw [Attempt.inMedia, Attempt.emitted, decide_eq_false streaming,
                Bool.or_false] at media
              exact media
            rcases (allowed keeping).2 with loss | state
            · exact nomatch noLoss.symm.trans loss
            · rw [if_pos before, decide_eq_true_eq] at state
              exact state
      exact ⟨kept.state, fun other returned => kept.returned other
        (returned.modify place (fun _ outcome => outcome)), kept.jobs⟩

theorem keeps_succeed (correlated : bridge.Correlates ordered closing)
    {place : Nat} (apart : bridge.tellsApart place = true) {done : Bridge × List Job}
    (succeeded : bridge.succeedAttempt place = some done) :
    Keeps ordered closing bridge done := by
  obtain ⟨attempt, found, running, rfl⟩ := Bridge.succeedAttempt_eq_some succeeded
  have returned : Returned (bridge.attempts.modify place (fun current =>
      { current with outcome := .returned })) place :=
    ⟨_, getElem?_modify_iff.mpr ⟨attempt, found, rfl⟩, by rw [if_pos rfl]⟩
  have stays : forall other, Returned bridge.attempts other ->
      Returned (bridge.attempts.modify place (fun current =>
        { current with outcome := .returned })) other :=
    fun other before => before.modify place (fun _ _ => rfl)
  unfold Bridge.connected
  split
  · next foreign =>
      refine ⟨?_, stays, ?_⟩
      · refine correlated.endsElsewhere found ?_ .returned (fun _ pending => Or.inl pending)
          (fun _ => Or.inr List.mem_cons_self)
        intro own view same
        obtain ⟨record, present, rfl⟩ := Option.map_eq_some_iff.mp view
        exact Bridge.matching_eq_none.mp foreign record present same.symm
      · intro job member other about
        rw [List.mem_singleton.mp member] at about
        cases about
        exact returned
  · next record current =>
      obtain ⟨present, counter⟩ := Bridge.matching_eq_some.mp current
      have own := own_of_tellsApart apart found present counter
      have view : bridge.sessionView = some record.sessionView :=
        sessionView_of_device present
      rw [Bridge.Correlates, view] at correlated
      refine ⟨?_, stays, ?_⟩
      · refine Correlated.mono ?_ (fun _ pending => Or.inl pending)
        exact correlated.adopts own counter.symm running
      · intro job member other about
        split at member
        · rw [List.mem_singleton.mp member] at about
          cases about
          exact returned
        · cases member

theorem keeps_fail (correlated : bridge.Correlates ordered closing)
    {place : Nat} (apart : bridge.tellsApart place = true) {error : String} {now : Rat}
    {after : Bridge} (failed : bridge.failAttempt place error now = some after) :
    Keeps ordered closing bridge (after, []) := by
  obtain ⟨attempt, found, running, rfl⟩ := Bridge.failAttempt_eq_some failed
  have stays : forall other, Returned bridge.attempts other ->
      Returned (bridge.attempts.modify place (fun current =>
        { current with outcome := .failed })) other := by
    rintro other ⟨before, held, outcome⟩
    refine ⟨before, getElem?_modify_iff.mpr ⟨before, held, ?_⟩, outcome⟩
    rw [if_neg]
    rintro rfl
    cases held.symm.trans found
    exact nomatch running.symm.trans outcome
  unfold Bridge.fail
  split
  · next foreign =>
      refine ⟨?_, stays, fun _ member => nomatch member⟩
      refine correlated.endsElsewhere found ?_ .failed (fun _ pending => Or.inl pending)
        nofun
      intro own view same
      obtain ⟨record, present, rfl⟩ := Option.map_eq_some_iff.mp view
      exact Bridge.matching_eq_none.mp foreign record present same.symm
  · next record current =>
      obtain ⟨present, counter⟩ := Bridge.matching_eq_some.mp current
      have own := own_of_tellsApart apart found present counter
      have view : bridge.sessionView = some record.sessionView :=
        sessionView_of_device present
      rw [Bridge.Correlates, view] at correlated
      have kept : forall after : Bridge, after.registrations = bridge.registrations ->
          after.sessionView = some { record.sessionView with
            connectActive := false
            connectionState := .failed
            streamAvailable := false } ->
          after.attempts = bridge.attempts.modify place (fun current =>
            { current with outcome := .failed }) ->
          Keeps ordered closing bridge (after, []) := by
        intro after registrations viewAfter attemptsAfter
        refine ⟨?_, ?_, fun _ member => nomatch member⟩
        · rw [Bridge.Correlates, registrations, viewAfter, attemptsAfter]
          exact (correlated.fails own counter.symm running).mono
            (fun _ pending => Or.inl pending)
        · rw [attemptsAfter]
          exact stays
      dsimp only
      split
      · exact kept _ rfl (congrArg some (sessionView_scheduleReconnect _ _)) rfl
      · exact kept _ rfl rfl rfl

theorem keeps_upsert (correlated : bridge.Correlates ordered closing)
    (uid : String) (ip : Option String) (now : Rat) :
    Keeps ordered closing bridge (bridge.upsert uid ip now, []) := by
  unfold Bridge.upsert
  split
  · split
    · next absent =>
        rw [Bridge.Correlates, Bridge.sessionView, absent, Option.map_none] at correlated
        refine ⟨?_, fun _ returned => returned, fun _ member => nomatch member⟩
        exact (correlated.registered rfl).mono (fun _ pending => Or.inl pending)
    · next record present =>
        exact keeps_of_frame correlated rfl (sessionView_of_device present).symm rfl
          (List.forall_mem_nil _)
  · exact keeps_of_frame correlated rfl rfl rfl (List.forall_mem_nil _)

theorem keeps_delete (correlated : bridge.Correlates ordered closing) (unordered : ¬ ordered) :
    Keeps ordered closing bridge bridge.delete := by
  unfold Bridge.delete
  split
  · exact keeps_of_frame correlated rfl rfl rfl (List.forall_mem_nil _)
  · next record present =>
      rw [Bridge.Correlates, sessionView_of_device present] at correlated
      refine ⟨?_, fun _ returned => returned, ?_⟩
      · refine correlated.deleted unordered (fun _ pending => Or.inl pending) ?_
        intro place held
        exact Or.inr (List.mem_append_right _ (close_mem_closeResources _ held))
      · intro job member place about
        rcases List.mem_append.mp member with timers | resources
        · rcases List.mem_append.mp timers with idle | reconnect
          · obtain ⟨timer, -, rfl⟩ := List.mem_map.mp idle
            cases about
          · obtain ⟨timer, -, rfl⟩ := List.mem_map.mp reconnect
            cases about
        · rcases mem_closeResources resources with sessionless | ⟨session, held, rfl⟩
          · rw [sessionless] at about
            cases about
          · obtain rfl : session = place := Option.some.inj about
            obtain ⟨attempt, found, -, outcome⟩ := correlated.owned _ session rfl held
            exact ⟨attempt, (ownAttempt_eq_some.mp found).1, outcome⟩

theorem keeps_disconnect (correlated : bridge.Correlates ordered closing)
    (now : Rat) : Keeps ordered closing bridge (bridge.disconnect now) := by
  unfold Bridge.disconnect
  split
  · exact keeps_of_frame correlated rfl rfl rfl (List.forall_mem_nil _)
  · next record present =>
      exact keeps_disconnected correlated present (nofun : SessionState.idle ≠ .streaming) rfl rfl
        rfl

theorem keeps_disconnectIfIdle
    (correlated : bridge.Correlates ordered closing) (now : Rat) :
    Keeps ordered closing bridge (bridge.disconnectIfIdle now) := by
  unfold Bridge.disconnectIfIdle
  split
  · exact keeps_of_frame correlated rfl rfl rfl (List.forall_mem_nil _)
  · next record present =>
      split
      · exact keeps_of_frame correlated rfl rfl rfl (List.forall_mem_nil _)
      · exact keeps_disconnected correlated present (nofun : SessionState.idle ≠ .streaming) rfl
          rfl rfl

theorem keeps_cancelIdleDisconnect
    (correlated : bridge.Correlates ordered closing) :
    Keeps ordered closing bridge (bridge.cancelIdleDisconnect, []) := by
  unfold Bridge.cancelIdleDisconnect
  split
  · exact keeps_of_frame correlated rfl rfl rfl (List.forall_mem_nil _)
  · next record present =>
      split
      · exact keeps_of_frame correlated rfl (sessionView_of_device present).symm rfl
          (List.forall_mem_nil _)
      · exact keeps_of_frame correlated rfl rfl rfl (List.forall_mem_nil _)

theorem keeps_reconnectIfConsumed
    (correlated : bridge.Correlates ordered closing) :
    Keeps ordered closing bridge bridge.reconnectIfConsumed := by
  unfold Bridge.reconnectIfConsumed
  split
  · exact keeps_of_frame correlated rfl rfl rfl (List.forall_mem_nil _)
  · next record present =>
      refine keeps_of_frame correlated rfl (sessionView_of_device present).symm rfl ?_
      intro job member
      split at member
      · rw [List.mem_singleton.mp member]
        rfl
      · cases member

/-- A section that only starts or stops the audio of the session of the record. -/
theorem keeps_audio (correlated : bridge.Correlates ordered closing)
    (present : bridge.device = some record) {done : Bridge × List Job}
    (registrations : done.1.registrations = bridge.registrations)
    (view : done.1.sessionView = some record.sessionView)
    (attempts : done.1.attempts = bridge.attempts)
    (jobs : forall job, job ∈ done.2 -> job.session? = none ∨ job.session? = record.session) :
    Keeps ordered closing bridge done := by
  rw [Bridge.Correlates, sessionView_of_device present] at correlated
  refine ⟨?_, ?_, ?_⟩
  · rw [Bridge.Correlates, registrations, view, attempts]
    exact correlated.mono (fun _ pending => Or.inl pending)
  · rw [attempts]
    exact fun _ returned => returned
  · intro job member place about
    rw [attempts]
    rcases jobs job member with sessionless | own
    · rw [sessionless] at about
      cases about
    · obtain ⟨attempt, found, -, outcome⟩ :=
        correlated.owned _ place rfl (own.symm.trans about)
      exact ⟨attempt, (ownAttempt_eq_some.mp found).1, outcome⟩

theorem keeps_countConsumer
    (correlated : bridge.Correlates ordered closing) (attached : Bool)
    (now : Rat) : Keeps ordered closing bridge (bridge.countConsumer attached now) := by
  unfold Bridge.countConsumer
  split
  · exact keeps_of_frame correlated rfl rfl rfl (List.forall_mem_nil _)
  · next record present =>
      split
      · refine keeps_audio correlated present rfl rfl rfl ?_
        intro job member
        rcases List.mem_append.mp member with audio | last
        · obtain ⟨session, held, rfl⟩ := List.mem_map.mp audio
          exact Or.inr (Option.mem_toList.mp held).symm
        · rw [List.mem_singleton.mp last]
          exact Or.inl rfl
      · exact keeps_of_frame correlated rfl rfl rfl (List.forall_mem_nil _)

theorem keeps_releaseMediaConsumer
    (correlated : bridge.Correlates ordered closing) (now : Rat) :
    Keeps ordered closing bridge (bridge.releaseMediaConsumer now) := by
  unfold Bridge.releaseMediaConsumer
  split
  · exact keeps_of_frame correlated rfl rfl rfl (List.forall_mem_nil _)
  · next record present =>
      split
      · dsimp only
        split
        · refine keeps_audio correlated present rfl
            (congrArg some (sessionView_scheduleIdle _ _)) rfl ?_
          intro job member
          obtain ⟨session, held, rfl⟩ := List.mem_map.mp member
          exact Or.inr (Option.mem_toList.mp held).symm
        · exact keeps_of_frame correlated rfl (sessionView_of_device present).symm rfl
            (List.forall_mem_nil _)
      · exact keeps_of_frame correlated rfl rfl rfl (List.forall_mem_nil _)

/-- A section that only marks one attempt, and goes on with jobs about its session. -/
theorem keeps_marked (correlated : bridge.Correlates ordered closing)
    (place : Nat) {change : Attempt -> Attempt} (label : KeepsLabel change)
    (outcome : forall attempt, (change attempt).outcome = attempt.outcome)
    (closed : forall attempt, attempt.closed = true -> (change attempt).closed = true)
    (streamed : forall attempt, attempt.streamed = true -> (change attempt).streamed = true)
    {jobs : List Job}
    (about : forall job, job ∈ jobs -> forall other, job.session? = some other ->
      Returned bridge.attempts other) :
    Keeps ordered closing bridge (bridge.modifyAttempt place change, jobs) := by
  have stays : forall other, Returned bridge.attempts other ->
      Returned (bridge.attempts.modify place change) other :=
    fun other returned => returned.modify place (fun attempt before =>
      (outcome attempt).trans before)
  refine ⟨?_, stays, ?_⟩
  · exact (correlated.marked place label outcome closed streamed).mono
      (fun _ pending => Or.inl pending)
  · intro job member other own
    exact stays other (about job member other own)

/-- A session that switched its audio says that it streams. -/
theorem keeps_switchedAudio (correlated : bridge.Correlates ordered closing) (session : Nat)
    (enabled : Bool) (returned : Returned bridge.attempts session) :
    Keeps ordered closing bridge
      (bridge.modifyAttempt session (fun attempt => { attempt with audioEnabled := enabled }),
        [.emitStreaming session]) := by
  refine keeps_marked correlated session ?_ ?_ ?_ ?_ ?_
  · exact ⟨fun _ => rfl, fun _ => rfl⟩
  · exact fun _ => rfl
  · exact fun _ closed => closed
  · exact fun _ streamed => streamed
  · intro job member other named
    rw [List.mem_singleton.mp member] at named
    cases named
    exact returned

end Sections

/-! ## Runs -/

/-- The attempt that a step is an event or a result of.  A session that switches its
audio emits an event as well. -/
def sender (world : World) : BridgeAction -> Option Nat
  | .event attempt _ _ => some attempt
  | .succeed attempt => some attempt
  | .fail attempt _ _ => some attempt
  | .advance thread _ =>
      match Threads.nextJob world.2 thread with
      | some (.emitStreaming session) => some session
      | _ => none
  | _ => none

/-- No device is deleted, and no attempt emits what it may not emit. -/
def inOrder (world : World) : BridgeAction -> Bool
  | .delete => false
  | .event attempt event _ => world.1.attempts[attempt]?.all (fun own => own.mayEmit event)
  | _ => true

theorem keeps_call {ordered : Prop} {bridge : Bridge} {threads : List (List Job)}
    {closing : Nat -> Prop} {action : BridgeAction} {done : Bridge × List Job}
    (correlated : bridge.Correlates ordered closing)
    (apart : forall place, sender (bridge, threads) action = some place ->
      bridge.tellsApart place = true)
    (keeping : ordered -> inOrder (bridge, threads) action = true)
    (started : bridge.call action = some done) : Keeps ordered closing bridge done := by
  cases action with
  | delete =>
      cases started
      exact keeps_delete correlated (fun holds => nomatch keeping holds)
  | advance thread environment => cases started
  | upsert uid ip now =>
      cases started
      exact keeps_upsert correlated uid ip now
  | connect =>
      cases started
      exact keeps_connect correlated (List.forall_mem_nil _)
  | disconnect now =>
      cases started
      exact keeps_disconnect correlated now
  | addMediaConsumer =>
      cases started
      refine keeps_of_frame correlated rfl rfl rfl ?_
      simp only [List.mem_cons, List.not_mem_nil, or_false]
      rintro job (rfl | rfl)
      · rfl
      · rfl
  | release number =>
      obtain ⟨function, -, -, rfl⟩ := Bridge.callRelease_eq_some started
      exact keeps_of_frame correlated rfl rfl rfl (List.forall_mem_singleton.mpr rfl)
  | fire number =>
      obtain ⟨timer, -, -, rfl⟩ := Bridge.fireTimer_eq_some started
      refine keeps_of_frame correlated rfl rfl rfl (List.forall_mem_singleton.mpr ?_)
      cases timer.kind with
      | idle => rfl
      | reconnect => rfl
  | event attempt event now =>
      cases started
      refine keeps_emit correlated (apart attempt rfl) now ?_
      intro holds own found
      have allowed := keeping holds
      rw [inOrder, found] at allowed
      exact allowed
  | succeed attempt => exact keeps_succeed correlated (apart attempt rfl) started
  | fail attempt error now =>
      obtain ⟨after, failed, rfl⟩ := Option.map_eq_some_iff.mp started
      exact keeps_fail correlated (apart attempt rfl) failed

theorem keeps_perform {ordered : Prop} {bridge : Bridge} {closing : Nat -> Prop}
    (environment : Environment) {job : Job} (correlated : bridge.Correlates ordered closing)
    (apart : forall place, job = .emitStreaming place -> bridge.tellsApart place = true)
    (about : forall place, job.session? = some place -> Returned bridge.attempts place) :
    Keeps ordered closing bridge (perform bridge environment job) := by
  have own : forall {session : Nat} {jobs : List Job}, job.session? = some session ->
      (forall next, next ∈ jobs -> next.session? = some session) ->
      forall next, next ∈ jobs -> forall other, next.session? = some other ->
        Returned bridge.attempts other := by
    intro session jobs given all next member other named
    cases (all next member).symm.trans named
    exact about session given
  cases job with
  | cancelIdleDisconnect => exact keeps_cancelIdleDisconnect correlated
  | connectConsumer =>
      refine keeps_connect correlated ?_
      intro job member
      split at member
      · rw [List.mem_singleton.mp member]
        rfl
      · cases member
  | countConsumer => exact keeps_countConsumer correlated _ _
  | handOut => exact keeps_of_frame correlated rfl rfl rfl (List.forall_mem_nil _)
  | releaseMediaConsumer registration => exact keeps_releaseMediaConsumer correlated _
  | disconnectIfIdle => exact keeps_disconnectIfIdle correlated _
  | reconnectIfConsumed => exact keeps_reconnectIfConsumed correlated
  | reconnect => exact keeps_connect correlated (List.forall_mem_nil _)
  | stopTimer timer => exact keeps_of_frame correlated rfl rfl rfl (List.forall_mem_nil _)
  | cancelAttempt attempt =>
      refine keeps_marked correlated attempt ?_ ?_ ?_ ?_ ?_
      · exact ⟨fun _ => rfl, fun _ => rfl⟩
      · exact fun _ => rfl
      · exact fun _ closed => closed
      · exact fun _ streamed => streamed
      · exact fun _ member => nomatch member
  | closeSession session =>
      rw [perform, Bridge.closeSession]
      split
      · exact keeps_of_frame correlated rfl rfl rfl (List.forall_mem_nil _)
      · refine keeps_marked correlated session ?_ ?_ ?_ ?_ ?_
        · exact ⟨fun _ => rfl, fun _ => rfl⟩
        · exact fun _ => rfl
        · exact fun _ _ => rfl
        · exact fun _ streamed => streamed
        · exact own rfl (List.forall_mem_singleton.mpr rfl)
  | startAudio session =>
      rw [perform, Bridge.startAudio]
      split
      · exact keeps_of_frame correlated rfl rfl rfl (List.forall_mem_nil _)
      · exact keeps_switchedAudio correlated session _ (about session rfl)
  | stopAudio session =>
      rw [perform, Bridge.stopAudio]
      split
      · exact keeps_of_frame correlated rfl rfl rfl (List.forall_mem_nil _)
      · exact keeps_switchedAudio correlated session _ (about session rfl)
  | emitStreaming session =>
      refine keeps_emit correlated (apart session rfl) environment.now ?_
      intro _ attempt found
      obtain ⟨returned, held, outcome⟩ := about session rfl
      cases held.symm.trans found
      rw [Attempt.mayEmit, outcome]
      simp only [ne_eq, reduceCtorEq, not_false_eq_true, decide_true, Bool.true_and, true_or,
        Attempt.inMedia, outcome, Bool.or_true, if_true]

/-- The session is being closed by a call that is half-way. -/
def isClosing (threads : List (List Job)) (place : Nat) : Prop :=
  0 < Threads.pendingCount (fun job => decide (job = .closeSession place)) threads

structure WorldCorrelated (ordered : Prop) (world : World) : Prop where
  state : world.1.Correlates ordered (isClosing world.2)
  jobs : Threads.AllPending (fun job => forall place, job.session? = some place ->
    Returned world.1.attempts place) world.2

theorem worldCorrelated_called {ordered : Prop} {world : World} {action : BridgeAction}
    {done : Bridge × List Job} (correlated : WorldCorrelated ordered world)
    (apart : forall place, sender world action = some place -> world.1.tellsApart place = true)
    (keeping : ordered -> inOrder world action = true)
    (started : world.1.call action = some done) :
    WorldCorrelated ordered (done.1, world.2 ++ [done.2]) := by
  have kept := keeps_call correlated.state apart keeping started
  constructor
  · refine kept.state.mono ?_
    intro place pending
    rw [isClosing, Threads.pendingCount_concat]
    rcases pending with before | added
    · exact Nat.lt_of_lt_of_le before (Nat.le_add_right _ _)
    · refine Nat.lt_of_lt_of_le (List.countP_pos_iff.mpr ?_) (Nat.le_add_left _ _)
      exact ⟨_, added, decide_eq_true rfl⟩
  · have old : Threads.AllPending (fun job => forall place, job.session? = some place ->
        Returned done.1.attempts place) world.2 :=
      fun thread member job pending place about =>
        kept.returned place (correlated.jobs thread member job pending place about)
    exact old.concat kept.jobs

theorem worldCorrelated_advanced {ordered : Prop} {world : World} {thread : Nat}
    {environment : Environment} {job : Job} {rest : List Job}
    (correlated : WorldCorrelated ordered world)
    (apart : forall place, job = .emitStreaming place -> world.1.tellsApart place = true)
    (found : world.2[thread]? = some (job :: rest)) :
    WorldCorrelated ordered ((perform world.1 environment job).1,
      world.2.set thread ((perform world.1 environment job).2 ++ rest)) := by
  have kept := keeps_perform environment correlated.state apart (correlated.jobs.head found)
  constructor
  · refine kept.state.closes ?_
    intro place attempt held returned pending
    have counted := Threads.pendingCount_continued
      (fun job => decide (job = Job.closeSession place)) found (perform world.1 environment job).2
    by_cases closes : job = .closeSession place
    · subst closes
      rw [perform, Bridge.closeSession] at held
      split at held
      · next closed =>
          rw [held] at closed
          exact Or.inl closed
      · obtain ⟨before, -, rfl⟩ := getElem?_modify_iff.mp held
        rw [if_pos rfl]
        exact Or.inl rfl
    · rw [decide_eq_false closes, if_neg Bool.false_ne_true, Nat.add_zero] at counted
      refine Or.inr ?_
      rw [isClosing, counted]
      rcases pending with before | added
      · exact Nat.lt_of_lt_of_le before (Nat.le_add_right _ _)
      · refine Nat.lt_of_lt_of_le (List.countP_pos_iff.mpr ?_) (Nat.le_add_left _ _)
        exact ⟨_, added, decide_eq_true rfl⟩
  · have old : Threads.AllPending (fun other => forall place, other.session? = some place ->
        Returned (perform world.1 environment job).1.attempts place) world.2 :=
      fun thread member other pending place about =>
        kept.returned place (correlated.jobs thread member other pending place about)
    exact old.continued found kept.jobs

theorem worldCorrelated_step {ordered : Prop} {world after : World} {action : BridgeAction}
    (correlated : WorldCorrelated ordered world)
    (apart : forall place, sender world action = some place -> world.1.tellsApart place = true)
    (keeping : ordered -> inOrder world action = true)
    (moved : bridgeMachine.step world action = some after) : WorldCorrelated ordered after := by
  cases worldStep_of_step moved with
  | called started => exact worldCorrelated_called correlated apart keeping started
  | advanced found =>
      refine worldCorrelated_advanced correlated ?_ found
      rintro place rfl
      refine apart place ?_
      rw [sender, Threads.nextJob, found, Option.bind_some, List.head?_cons]

/-- Nothing has happened yet. -/
theorem worldCorrelated_initial (ordered : Prop) : WorldCorrelated ordered ({}, []) := by
  have nothing : forall (place : Nat) (attempt : Attempt),
      ([] : List Attempt)[place]? ≠ some attempt := by
    intro place attempt
    rw [List.getElem?_nil]
    exact nofun
  refine ⟨⟨⟨?_, ?_, ?_⟩, nofun, nofun, ?_, fun _ _ => rfl, ?_, fun _ => nofun, fun _ => nofun⟩,
    nofun⟩
  · exact fun place attempt found => absurd found (nothing place attempt)
  · exact fun first _ one _ found => absurd (ownAttempt_eq_some.mp found).1 (nothing first one)
  · rintro _ _ _ ⟨⟩
  · exact fun place attempt found => absurd found (nothing place attempt)
  · exact fun _ place attempt found => absurd found (nothing place attempt)

/-! ## Events and results of other attempts -/

/-- The record with the timers it names. -/
def Bridge.recordState (bridge : Bridge) : Option DeviceRecord × List Timer :=
  (bridge.device, bridge.timers)

/-- No record waits for an attempt that is not the current one. -/
theorem matching_of_not_current {bridge : Bridge} {place : Nat} {attempt : Attempt}
    (found : bridge.attempts[place]? = some attempt) (other : bridge.isCurrent place = false) :
    bridge.matching attempt.number = none := by
  rw [Bridge.isCurrent, found, Option.any_some] at other
  exact Option.isSome_eq_false_iff.mp other |> Option.isNone_iff_eq_none.mp

theorem recordState_emit_of_not_current {bridge : Bridge} {place : Nat}
    (other : bridge.isCurrent place = false) (event : SessionEvent) (now : Rat) :
    (bridge.emit place event now).1.recordState = bridge.recordState := by
  unfold Bridge.emit
  split
  · rfl
  · next attempt found =>
      rw [Bridge.transition, Bridge.matching_modifyAttempt, matching_of_not_current found other]
      rfl

theorem recordState_succeed_of_not_current {bridge : Bridge} {place : Nat} {done : Bridge × List Job}
    (other : bridge.isCurrent place = false) (succeeded : bridge.succeedAttempt place = some done) :
    done.1.recordState = bridge.recordState := by
  obtain ⟨attempt, found, -, rfl⟩ := Bridge.succeedAttempt_eq_some succeeded
  rw [Bridge.connected, Bridge.matching_modifyAttempt, matching_of_not_current found other]
  rfl

theorem recordState_fail_of_not_current {bridge : Bridge} {place : Nat} {error : String} {now : Rat}
    {after : Bridge} (other : bridge.isCurrent place = false)
    (failed : bridge.failAttempt place error now = some after) :
    after.recordState = bridge.recordState := by
  obtain ⟨attempt, found, -, rfl⟩ := Bridge.failAttempt_eq_some failed
  rw [Bridge.fail, Bridge.matching_modifyAttempt, matching_of_not_current found other]
  rfl

/-- A step of an attempt that is not the current one leaves the record alone. -/
theorem recordState_of_not_current {world : World} {action : BridgeAction} {place : Nat}
    (sent : sender world action = some place) (other : world.1.isCurrent place = false) :
    (bridgeMachine.next world action).1.recordState = world.1.recordState := by
  rcases bridgeMachine.next_cases world action with refused | moved
  · rw [refused]
  · revert moved
    generalize bridgeMachine.next world action = after
    intro moved
    cases worldStep_of_step moved with
    | @called _ done started =>
        cases action with
        | event attempt event now =>
            cases sent
            cases started
            exact recordState_emit_of_not_current other event now
        | succeed attempt =>
            cases sent
            exact recordState_succeed_of_not_current other started
        | fail attempt error now =>
            cases sent
            obtain ⟨after, failed, rfl⟩ := Option.map_eq_some_iff.mp started
            exact recordState_fail_of_not_current other failed
        | _ => first | cases sent | cases started
    | @advanced thread environment job rest found =>
        have next : Threads.nextJob world.2 thread = some job := by
          rw [Threads.nextJob, found, Option.bind_some, List.head?_cons]
        simp only [sender, next] at sent
        split at sent
        · next session emits =>
            cases emits
            cases sent
            exact recordState_emit_of_not_current other _ _
        · cases sent

/-! ## Every order of calls, callbacks, events and results -/

/-- The attempt is the current one and has not returned an error. -/
def Bridge.isActive (bridge : Bridge) (place : Nat) : Prop :=
  bridge.isCurrent place = true ∧
    exists attempt : Attempt, bridge.attempts[place]? = some attempt ∧ attempt.outcome ≠ .failed

/-- What an attempt can do to the record, and what becomes of its session. -/
structure AttemptsCorrelated (world : World) : Prop where
  current_unique : forall first second, world.1.isCurrent first = true ->
    world.1.isCurrent second = true -> first = second
  others_silent : forall action place, sender world action = some place ->
    world.1.isCurrent place = false ->
      (bridgeMachine.next world action).1.recordState = world.1.recordState
  connect_starts : forall record, world.1.device = some record ->
    ((exists attempt, world.1.connect.attempts = world.1.attempts ++ [attempt]) ↔
      ¬ exists place, world.1.isActive place)
  session_held : forall (place : Nat) (attempt : Attempt), world.1.attempts[place]? = some attempt ->
    attempt.outcome = .returned ->
      (exists record, world.1.device = some record ∧ record.session = some place) ∨
        attempt.closed = true ∨ isClosing world.2 place
  stream_available : forall record, world.1.device = some record ->
    (record.streamAvailable = true ↔ record.connectionState = .streaming)

theorem connect_starts_iff {ordered : Prop} {bridge : Bridge} {closing : Nat -> Prop}
    {record : DeviceRecord} (correlated : bridge.Correlates ordered closing) (keeping : ordered)
    (present : bridge.device = some record) :
    (exists attempt, bridge.connect.attempts = bridge.attempts ++ [attempt]) ↔
      ¬ exists place, bridge.isActive place := by
  have active : record.connectActive = true ↔ exists place, bridge.isActive place := by
    refine (correlated.active _ (sessionView_of_device present)).trans ?_
    constructor
    · rintro ⟨place, attempt, own, current, alive⟩
      have found := (ownAttempt_eq_some.mp own).1
      refine ⟨place, Bridge.isCurrent_iff.mpr ?_, attempt, found, alive⟩
      exact ⟨attempt, record, found, present, current.symm⟩
    · rintro ⟨place, current, attempt, found, alive⟩
      obtain ⟨other, own, held, same, number⟩ := Bridge.isCurrent_iff.mp current
      cases held.symm.trans found
      cases same.symm.trans present
      refine ⟨place, attempt, ownAttempt_eq_some.mpr ⟨found, ?_⟩, number.symm, alive⟩
      exact correlated.single keeping place attempt found
  rw [← active, Bridge.connect, present]
  dsimp only
  split
  · next busy =>
      refine iff_of_false ?_ (not_not_intro busy)
      rintro ⟨attempt, same⟩
      have grown := congrArg List.length same
      rw [List.length_append, List.length_singleton] at grown
      omega
  · next idle => exact iff_of_true ⟨_, rfl⟩ idle

/-- In every run of a device that is never deleted, with connectors that keep their
order, attempts stay apart: one of them is current, the others change nothing, no
second one is started beside an active one, and no session is lost. -/
theorem attempts_stay_correlated (actions : List BridgeAction)
    (ordered : bridgeMachine.Meets (fun world action => inOrder world action = true) ({}, [])
      actions) :
    AttemptsCorrelated (bridgeMachine.run ({}, []) actions) := by
  have correlated : WorldCorrelated True (bridgeMachine.run ({}, []) actions) := by
    refine Machine.run_invariant_of_meets _ _ (WorldCorrelated True) ?_ ({}, []) actions
      (worldCorrelated_initial True) ordered
    intro before action after holds condition moved
    refine worldCorrelated_step holds ?_ (fun _ => condition) moved
    -- every attempt belongs to the one registration there is
    intro place _
    rw [Bridge.tellsApart, Bool.or_eq_true]
    refine Or.inr ?_
    cases found : before.1.attempts[place]? with
    | none => rfl
    | some attempt => exact decide_eq_true (holds.state.single trivial place attempt found)
  revert correlated
  generalize bridgeMachine.run ({}, []) actions = world
  intro correlated
  refine ⟨?_, fun _ _ => recordState_of_not_current, ?_, ?_, ?_⟩
  · intro first second currentFirst currentSecond
    obtain ⟨one, record, foundOne, present, sameOne⟩ := Bridge.isCurrent_iff.mp currentFirst
    obtain ⟨other, own, foundOther, held, sameOther⟩ := Bridge.isCurrent_iff.mp currentSecond
    cases held.symm.trans present
    have belongs := fun place attempt found => ownAttempt_eq_some.mpr
      ⟨found, correlated.state.single trivial place attempt found⟩
    exact correlated.state.unique first second one other (belongs first one foundOne)
      (belongs second other foundOther) (sameOne.symm.trans sameOther)
  · exact fun record present => connect_starts_iff correlated.state trivial present
  · intro place attempt found returned
    rcases correlated.state.settled place attempt found returned with ⟨own, view, held⟩ | rest
    · obtain ⟨record, present, rfl⟩ := Option.map_eq_some_iff.mp view
      exact Or.inl ⟨record, present, held⟩
    · exact Or.inr rest
  · intro record present
    exact correlated.state.stream trivial _ (sessionView_of_device present)

/-- A session is lost and comes back late: the second attempt is current, the first
session has been closed. -/
theorem attempts_stay_correlated_after_loss :
    let actions : List BridgeAction := [.upsert exampleUid none 0, .connect,
      .event 0 { state := .streaming, step := "bootstrap" } 1,
      .event 0 { state := .failed, step := "media_receive_failed", error := "timeout" } 2,
      .connect, .succeed 0, .advance 5 atOnce]
    let world := bridgeMachine.run ({}, []) actions
    world.1.attempts.map Attempt.closed = [true, false] ∧ world.1.isCurrent 1 = true ∧
      AttemptsCorrelated world :=
  ⟨by decide, by decide, attempts_stay_correlated _ (by decide)⟩

end Camera
end PetlibroRelay
