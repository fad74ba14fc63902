import PetlibroRelay.Camera.AttemptCorrelation

namespace PetlibroRelay
namespace Camera

open Foundations

/-!
# Registering a deleted device again

A deletion cancels the attempt and closes the session of the record it removes, but
attempts go on until they notice, and consumers keep the functions they were given.
Both find a record by the device alone.  An attempt is told from those of the new
record by its number, which counts from the start again, and a release function is
not told from the new ones at all.

As long as the numbers differ and nobody is counted where an old function is called,
the two registrations stay apart: the new record does not change, and a session that
an old attempt returns is closed.
-/

/-! ## What belongs to an earlier registration -/

/-- The registration whose release function a step carries out. -/
def releasesFor (world : World) : BridgeAction -> Option Nat
  | .advance thread _ =>
      match Threads.nextJob world.2 thread with
      | some (.releaseMediaConsumer registration) => some registration
      | _ => none
  | _ => none

/-- The registration a step works for: that of the attempt it comes from, or that of
the release function it carries out. -/
def worksFor (world : World) (action : BridgeAction) : Option Nat :=
  match sender world action with
  | some place => world.1.attempts[place]?.map Attempt.registration
  | none => releasesFor world action

/-- The step works for an earlier registration than the present one. -/
def isOutdated (world : World) (action : BridgeAction) : Bool :=
  (worksFor world action).any (fun registration => decide (registration ≠ world.1.registrations))

/-- What the registry takes for its own: an attempt under the number of the record,
and any release while a consumer is counted. -/
def isTakenFor (world : World) (action : BridgeAction) : Bool :=
  match sender world action with
  | some place => world.1.isCurrent place
  | none => world.1.device.any (fun record => decide (0 < record.mediaConsumers))

/-- An outdated step is not taken for one of the present registration. -/
def staysApart (world : World) (action : BridgeAction) : Bool :=
  !(isOutdated world action && isTakenFor world action)

/-- An outdated step changes nothing in the record. -/
def LeavesRecord (world : World) (action : BridgeAction) : Prop :=
  isOutdated world action = true ->
    (bridgeMachine.next world action).1.recordState = world.1.recordState

instance leavesRecordDecidable (world : World) (action : BridgeAction) :
    Decidable (LeavesRecord world action) :=
  inferInstanceAs (Decidable (isOutdated world action = true ->
    (bridgeMachine.next world action).1.recordState = world.1.recordState))

/-- Every session of an earlier registration is closed, or is being closed. -/
def OldSessionsClosed (world : World) : Prop :=
  forall (place : Nat) (attempt : Attempt), world.1.attempts[place]? = some attempt ->
    attempt.registration ≠ world.1.registrations -> attempt.outcome = .returned ->
      attempt.closed = true ∨ isClosing world.2 place

/-! ## One step -/

/-- Where outdated steps stay apart, an attempt under the number of the record is one
of its own registration. -/
theorem tellsApart_of_staysApart {world : World} {action : BridgeAction} {place : Nat}
    (apart : staysApart world action = true) (sent : sender world action = some place) :
    world.1.tellsApart place = true := by
  rw [Bridge.tellsApart]
  cases current : world.1.isCurrent place with
  | false => rfl
  | true =>
      simp only [staysApart, isTakenFor, sent, current, Bool.and_true, Bool.not_eq_true',
        isOutdated, worksFor] at apart
      rw [Bool.not_true, Bool.false_or]
      cases found : world.1.attempts[place]? with
      | none => rfl
      | some attempt =>
          rw [found, Option.map_some, Option.any_some, decide_eq_false_iff_not, not_not] at apart
          exact decide_eq_true apart

/-- A release where nobody is counted. -/
theorem releaseMediaConsumer_of_unwatched {bridge : Bridge} (now : Rat)
    (nobody : bridge.device.any (fun record => decide (0 < record.mediaConsumers)) = false) :
    bridge.releaseMediaConsumer now = (bridge, []) := by
  unfold Bridge.releaseMediaConsumer
  split
  · rfl
  · next record present =>
      rw [present, Option.any_some, decide_eq_false_iff_not] at nobody
      rw [if_neg nobody]

/-- A step that carries out a release function where nobody is counted. -/
theorem recordState_of_unwatched {world : World} {action : BridgeAction} {registration : Nat}
    (releases : releasesFor world action = some registration)
    (nobody : world.1.device.any (fun record => decide (0 < record.mediaConsumers)) = false) :
    (bridgeMachine.next world action).1.recordState = world.1.recordState := by
  cases action with
  | advance thread environment =>
      rw [releasesFor] at releases
      split at releases
      · next own next =>
          rcases bridgeMachine.next_cases world (.advance thread environment) with refused | moved
          · rw [refused]
          · obtain ⟨job, rest, -, doing, after⟩ := Threads.advance_eq_some moved
            cases doing.symm.trans next
            rw [after, perform, releaseMediaConsumer_of_unwatched environment.now nobody]
      · cases releases
  | _ => cases releases

theorem leavesRecord_of_staysApart {world : World} {action : BridgeAction}
    (apart : staysApart world action = true) : LeavesRecord world action := by
  intro outdated
  rw [staysApart, outdated, Bool.true_and, Bool.not_eq_true', isTakenFor] at apart
  rw [isOutdated, worksFor] at outdated
  cases sent : sender world action with
  | some place =>
      simp only [sent] at apart
      exact recordState_of_not_current sent apart
  | none =>
      simp only [sent] at apart outdated
      obtain ⟨registration, releases, -⟩ := Option.any_eq_true _ _ |>.mp outdated
      exact recordState_of_unwatched releases apart

/-! ## Every order of calls, events and results -/

/-- In every run in which outdated steps stay apart, none of them changes the record,
and every session that an attempt of an earlier registration has returned is closed or
is being closed. -/
theorem reregistration_isolates_old_attempts (actions : List BridgeAction)
    (apart : bridgeMachine.Meets (fun world action => staysApart world action = true) ({}, [])
      actions) :
    bridgeMachine.Meets LeavesRecord ({}, []) actions ∧
      OldSessionsClosed (bridgeMachine.run ({}, []) actions) := by
  have preserved : forall (world : World) (action : BridgeAction) (after : World),
      WorldCorrelated False world -> staysApart world action = true ->
        bridgeMachine.step world action = some after -> WorldCorrelated False after :=
    fun world action after correlated condition moved =>
      worldCorrelated_step correlated (fun place sent => tellsApart_of_staysApart condition sent)
        False.elim moved
  constructor
  · exact bridgeMachine.meets_of_invariant _ LeavesRecord (WorldCorrelated False) preserved
      (fun _ _ _ condition => leavesRecord_of_staysApart condition) ({}, []) actions
      (worldCorrelated_initial False) apart
  · have correlated := bridgeMachine.run_invariant_of_meets _ (WorldCorrelated False) preserved
      ({}, []) actions (worldCorrelated_initial False) apart
    intro place attempt found old returned
    rcases correlated.state.settled place attempt found returned with ⟨own, view, held⟩ | rest
    · obtain ⟨other, foundOwn, -, -⟩ := correlated.state.owned own place view held
      obtain ⟨same, registration⟩ := ownAttempt_eq_some.mp foundOwn
      cases same.symm.trans found
      exact absurd registration old
    · exact rest

/-- The attempt of the deleted record fails late.  The new record waits for an attempt
under the same number and is marked as failed. -/
theorem old_failure_marks_new_record :
    let before := bridgeMachine.run ({}, [])
      [.upsert exampleUid none 0, .connect, .delete, .upsert exampleUid none 1, .connect]
    let late := BridgeAction.fail 0 "canceled" 2
    isOutdated before late = true ∧ ¬ LeavesRecord before late ∧
      (bridgeMachine.next before late).1.device.map DeviceRecord.connectionState =
        some .failed := by
  decide

/-- The attempt of the deleted record succeeds after the new record has connected
twice.  Its session is closed. -/
theorem reregistration_isolates_late_success :
    let actions : List BridgeAction := [.upsert exampleUid none 0, .connect, .delete,
      .upsert exampleUid none 1, .connect, .disconnect 2, .connect, .succeed 0, .advance 7 atOnce]
    let world := bridgeMachine.run ({}, []) actions
    world.1.attempts.map Attempt.closed = [true, false, false] ∧
      bridgeMachine.Meets LeavesRecord ({}, []) actions ∧ OldSessionsClosed world :=
  ⟨by decide, reregistration_isolates_old_attempts _ (by decide)⟩

end Camera
end PetlibroRelay
