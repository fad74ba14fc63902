import PetlibroRelay.Camera.BridgeRegistrar

namespace PetlibroRelay
namespace Camera

open Foundations
open Responder

/-!
# The last mapping of a device

The calls of `register` come one after the other, and the worker runs beside them.  What
the bridge will have once the queue is drained is what it has now with all the queued
mappings put on top, and the only step that changes it is the one that lets a new mapping
in.  So the last mapping that was let in for a device is the one the bridge ends up with.

The last call need not be the one that was let in last.
-/

/-! ## Calls and the worker -/

/-- The registrar with its caller.  The last mapping each device was called with, and the
last one that was let in for it, are kept for the record. -/
structure RegistrarRun where
  registrations : Registrations := {}
  caller : Option CameraBridgeMapping := none
  called : Dict String CameraBridgeMapping := []
  admitted : Dict String CameraBridgeMapping := []
  deriving DecidableEq, Repr

inductive RegistrarAction where
  | register (mapping : CameraBridgeMapping) (force : Bool)
  | put
  | get
  | request (delivered heard : Bool)
  | note
  deriving DecidableEq, Repr

namespace RegistrarRun

variable (run : RegistrarRun)

/-- A call up to its put.  The next call waits for it. -/
def register (mapping : CameraBridgeMapping) (force : Bool) : Option RegistrarRun :=
  match run.caller with
  | some _ => none
  | none =>
      let called := Dict.set run.called mapping.deviceId mapping
      if run.registrations.registrar.skips mapping force then some { run with called := called }
      else some { run with
        registrations := { run.registrations with
          registrar := run.registrations.registrar.enter mapping }
        caller := some mapping
        called := called
        admitted := Dict.set run.admitted mapping.deviceId mapping }

def put : Option RegistrarRun :=
  run.caller.map (fun mapping => { run with
    registrations := { run.registrations with
      registrar :=
        if run.registrations.registrar.isFull then run.registrations.registrar.discard mapping
        else run.registrations.registrar.putNowait mapping }
    caller := none })

/-- A step of the worker. -/
def work (moved : Option Registrations) : Option RegistrarRun :=
  moved.map (fun registrations => { run with registrations := registrations })

end RegistrarRun

def registrarStep (run : RegistrarRun) : RegistrarAction -> Option RegistrarRun
  | .register mapping force => run.register mapping force
  | .put => run.put
  | .get => run.work run.registrations.get
  | .request delivered heard => run.work (run.registrations.request delivered heard)
  | .note => run.work run.registrations.note

def registrarMachine : Machine RegistrarRun RegistrarAction where
  step := registrarStep

/-- The calls have valid identifiers and addresses, the queue is never full and every
request is accepted. -/
def Unhindered (run : RegistrarRun) : RegistrarAction -> Prop
  | .register mapping _ => isCameraUid (.str mapping.uid) = true ∧ mapping.isAccepted = true ∧
      mapping.feederIp.isSome = true
  | .put => run.registrations.registrar.isFull = false
  | .request delivered heard => delivered = true ∧ heard = true
  | _ => True

instance unhinderedDecidable (run : RegistrarRun) :
    (action : RegistrarAction) -> Decidable (Unhindered run action)
  | .register mapping _ => inferInstanceAs (Decidable (isCameraUid (.str mapping.uid) = true ∧
      mapping.isAccepted = true ∧ mapping.feederIp.isSome = true))
  | .put => inferInstanceAs (Decidable (run.registrations.registrar.isFull = false))
  | .request delivered heard => inferInstanceAs (Decidable (delivered = true ∧ heard = true))
  | .get => isTrue trivial
  | .note => isTrue trivial

/-- A call is passed over only if its mapping is the last one that was let in for its
device. -/
def KeepsLatest (run : RegistrarRun) : RegistrarAction -> Prop
  | .register mapping force => run.caller = none ->
      run.registrations.registrar.skips mapping force = true ->
      Dict.get? run.admitted mapping.deviceId = some mapping
  | _ => True

instance keepsLatestDecidable (run : RegistrarRun) :
    (action : RegistrarAction) -> Decidable (KeepsLatest run action)
  | .register mapping force => inferInstanceAs (Decidable (run.caller = none ->
      run.registrations.registrar.skips mapping force = true ->
      Dict.get? run.admitted mapping.deviceId = some mapping))
  | .put => isTrue trivial
  | .request _ _ => isTrue trivial
  | .get => isTrue trivial
  | .note => isTrue trivial

/-- Nothing is left to do. -/
def RegistrarRun.isDrained (run : RegistrarRun) : Bool :=
  decide (run.caller = none) && decide (run.registrations.worker = .idle) &&
    decide (run.registrations.registrar.pending = [])

/-- The bridge has the mapping the device was last called with. -/
def RegistrarRun.LastCallsKept (run : RegistrarRun) : Prop :=
  forall deviceId mapping, Dict.get? run.called deviceId = some mapping ->
    Dict.get? run.registrations.bridge deviceId = some ⟨mapping.uid, mapping.feederIp⟩

/-! ## What the bridge will have -/

/-- What the bridge will have once the queue is drained. -/
def RegistrarRun.settled (run : RegistrarRun) : BridgeRegistry :=
  (run.registrations.ahead ++ run.caller.toList).foldl upsertRegistry run.registrations.bridge

/-- The last mapping let in for a device is the one the bridge will have, and nothing on
its way will be turned down. -/
structure RegistrarRun.Consistent (run : RegistrarRun) : Prop where
  latest : forall deviceId mapping, Dict.get? run.admitted deviceId = some mapping ->
    Dict.get? run.settled deviceId = some ⟨mapping.uid, mapping.feederIp⟩
  accepted : forall mapping, mapping ∈ run.registrations.ahead ++ run.caller.toList ->
    mapping.isAccepted = true
  known : forall deviceId mapping, Dict.get? run.called deviceId = some mapping ->
    Dict.get? run.admitted deviceId = some mapping

/-- What a step of the worker or a put leaves to be done comes out the same. -/
theorem RegistrarRun.Consistent.of_settled {run after : RegistrarRun} (consistent : run.Consistent)
    (settled : after.settled = run.settled)
    (subset : forall mapping, mapping ∈ after.registrations.ahead ++ after.caller.toList ->
      mapping ∈ run.registrations.ahead ++ run.caller.toList)
    (called : after.called = run.called) (admitted : after.admitted = run.admitted) :
    after.Consistent where
  latest := by
    rw [settled, admitted]
    exact consistent.latest
  accepted := by
    intro mapping member
    exact consistent.accepted mapping (subset mapping member)
  known := by
    rw [called, admitted]
    exact consistent.known

section Steps

variable {run after : RegistrarRun}

/-- A mapping that is let in is put on top of everything else. -/
theorem consistent_register (consistent : run.Consistent) {mapping : CameraBridgeMapping}
    {force : Bool} (unhindered : Unhindered run (.register mapping force))
    (latest : KeepsLatest run (.register mapping force))
    (moved : run.register mapping force = some after) : after.Consistent := by
  obtain ⟨-, accepted, address⟩ := unhindered
  unfold RegistrarRun.register at moved
  split at moved
  · cases moved
  · next free =>
      split at moved
      · next skipped =>
          cases moved
          refine ⟨consistent.latest, consistent.accepted, ?_⟩
          intro deviceId other found
          rw [Dict.get?_set] at found
          split at found
          · next same =>
              cases found
              rw [← same]
              exact latest free skipped
          · exact consistent.known deviceId other found
      · cases moved
        refine ⟨?_, ?_, ?_⟩
        · intro deviceId other found
          have settled : RegistrarRun.settled { run with
              registrations := { run.registrations with
                registrar := run.registrations.registrar.enter mapping }
              caller := some mapping
              called := Dict.set run.called mapping.deviceId mapping
              admitted := Dict.set run.admitted mapping.deviceId mapping } =
                upsertRegistry run.settled mapping := by
            simp only [RegistrarRun.settled, free, Option.toList_some, Option.toList_none,
              List.append_nil, List.foldl_append, List.foldl_cons, List.foldl_nil]
            rfl
          rw [settled, upsertRegistry, Dict.get?_set]
          rw [Dict.get?_set] at found
          split at found
          · next same =>
              cases found
              obtain ⟨ip, given⟩ := Option.isSome_iff_exists.mp address
              rw [if_pos same, upsertEntry, given, Option.some_or]
          · next different =>
              rw [if_neg different]
              exact consistent.latest deviceId other found
        · intro other member
          rcases List.mem_append.mp member with before | here
          · exact consistent.accepted other (List.mem_append_left _ before)
          · rw [Option.toList_some, List.mem_singleton] at here
            rw [here]
            exact accepted
        · intro deviceId other found
          rw [Dict.get?_set] at found ⊢
          split at found
          · next same =>
              cases found
              rw [if_pos same]
          · next different =>
              rw [if_neg different]
              exact consistent.known deviceId other found

theorem consistent_put (consistent : run.Consistent) (unhindered : Unhindered run .put)
    (moved : run.put = some after) : after.Consistent := by
  have room : run.registrations.registrar.isFull = false := unhindered
  obtain ⟨mapping, calling, rfl⟩ := Option.map_eq_some_iff.mp moved
  have same : ({ run.registrations with
      registrar := run.registrations.registrar.putNowait mapping } : Registrations).ahead ++
        (none : Option CameraBridgeMapping).toList =
      run.registrations.ahead ++ run.caller.toList := by
    rw [calling]
    simp only [Registrations.ahead, CameraBridgeRegistrar.putNowait, Option.toList_none,
      Option.toList_some, List.append_nil, List.append_assoc]
  rw [room, if_neg Bool.false_ne_true]
  refine consistent.of_settled ?_ ?_ rfl rfl
  · exact congrArg (List.foldl upsertRegistry run.registrations.bridge) same
  · intro other member
    rw [← same]
    exact member

/-- A step of the worker that leaves what is ahead and the bridge alone. -/
theorem consistent_work (consistent : run.Consistent) {moved : Option Registrations}
    (kept : forall registrations, moved = some registrations ->
      registrations.ahead = run.registrations.ahead ∧
        registrations.bridge = run.registrations.bridge)
    (worked : run.work moved = some after) : after.Consistent := by
  obtain ⟨registrations, taken, rfl⟩ := Option.map_eq_some_iff.mp worked
  obtain ⟨ahead, bridge⟩ := kept registrations taken
  refine consistent.of_settled ?_ ?_ rfl rfl
  · simp only [RegistrarRun.settled, ahead, bridge]
  · intro mapping member
    rw [← ahead]
    exact member

/-- A request that reaches the bridge does there what it was expected to do. -/
theorem consistent_request (consistent : run.Consistent) {delivered heard : Bool}
    (unhindered : Unhindered run (.request delivered heard))
    (moved : run.work (run.registrations.request delivered heard) = some after) :
    after.Consistent := by
  obtain ⟨delivers, hears⟩ : delivered = true ∧ heard = true := unhindered
  obtain ⟨registrations, sent, rfl⟩ := Option.map_eq_some_iff.mp moved
  obtain ⟨mapping, sending, rfl⟩ := Registrations.request_eq_some sent
  have front := Registrations.ahead_of_sending sending
  have accepted := consistent.accepted mapping (by
    rw [front]
    exact List.mem_cons_self)
  rw [delivers, hears, accepted]
  refine consistent.of_settled ?_ ?_ rfl rfl
  · simp only [RegistrarRun.settled, front]
    rfl
  · intro other member
    rw [front]
    exact List.mem_cons_of_mem mapping member

end Steps

theorem consistent_initial : RegistrarRun.Consistent {} :=
  ⟨nofun, nofun, nofun⟩

theorem consistent_step (run : RegistrarRun) (action : RegistrarAction) (after : RegistrarRun)
    (consistent : run.Consistent)
    (condition : Unhindered run action ∧ KeepsLatest run action)
    (moved : registrarMachine.step run action = some after) : after.Consistent := by
  cases action with
  | register mapping force => exact consistent_register consistent condition.1 condition.2 moved
  | put => exact consistent_put consistent condition.1 moved
  | get => exact consistent_work consistent (fun _ => Registrations.ahead_of_get) moved
  | request delivered heard => exact consistent_request consistent condition.1 moved
  | note => exact consistent_work consistent (fun _ => Registrations.ahead_of_note) moved

/-! ## The last call wins -/

/-- In every run in which calls are passed over only for the mapping that was let in last,
the bridge has the mapping of the last call for each device once the queue is drained. -/
theorem last_registration_wins (actions : List RegistrarAction)
    (unhindered : registrarMachine.Meets Unhindered {} actions)
    (latest : registrarMachine.Meets KeepsLatest {} actions) :
    forall before, before <+: actions ->
      (registrarMachine.run {} before).isDrained = true ->
      (registrarMachine.run {} before).LastCallsKept := by
  rintro before ⟨later, rfl⟩ drained
  have conditions := Machine.meets_and unhindered latest
  rw [Machine.meets_append] at conditions
  have consistent := registrarMachine.run_invariant_of_meets _ RegistrarRun.Consistent
    consistent_step {} before consistent_initial conditions.1
  generalize registrarMachine.run {} before = run at drained consistent
  simp only [RegistrarRun.isDrained, Bool.and_eq_true, decide_eq_true_eq] at drained
  obtain ⟨⟨free, idle⟩, empty⟩ := drained
  intro deviceId mapping found
  have kept := consistent.latest deviceId mapping (consistent.known deviceId mapping found)
  simp only [RegistrarRun.settled, Registrations.ahead, free, idle, empty, RegistrarWorker.unsent,
    Option.toList_none, List.append_nil, List.foldl_nil] at kept
  exact kept

def exampleMapping (ip : String) : CameraBridgeMapping := ⟨"feeder", exampleUid, some ip⟩

/-- A call, and the worker until it is idle again. -/
def registerAlone (mapping : CameraBridgeMapping) : List RegistrarAction :=
  [.register mapping false, .put, .get, .request true true, .note]

/-- The feeder gets its first address back. -/
theorem returning_address_passed_over :
    let first := exampleMapping "10.3.100.90"
    let second := exampleMapping "10.3.100.91"
    let actions := registerAlone first ++ registerAlone second ++ [.register first false]
    let run := registrarMachine.run {} actions
    registrarMachine.Meets Unhindered {} actions ∧ run.isDrained = true ∧
      Dict.get? run.called "feeder" = some first ∧
      Dict.get? run.registrations.bridge "feeder" = some ⟨exampleUid, some "10.3.100.91"⟩ ∧
      ¬ run.LastCallsKept := by
  intro first second actions run
  refine ⟨by decide, by decide, by decide, by decide, ?_⟩
  intro kept
  exact absurd (kept "feeder" first (by decide)) (by decide)

/-- The same address is given twice, and a new one after it. -/
theorem new_address_registered :
    let first := exampleMapping "10.3.100.90"
    let second := exampleMapping "10.3.100.91"
    let actions := registerAlone first ++ [.register first false] ++ registerAlone second
    (registrarMachine.run {} actions).isDrained = true ∧
      (registrarMachine.run {} actions).LastCallsKept := by
  intro first second actions
  refine ⟨by decide, ?_⟩
  exact last_registration_wins actions (by decide) (by decide) actions (List.prefix_refl _)
    (by decide)

end Camera
end PetlibroRelay
