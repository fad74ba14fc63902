import Mathlib.Data.List.Sort
import PetlibroRelay.Camera.BridgeRegistrar

namespace PetlibroRelay
namespace Camera

open Foundations
open Responder
open Shadow

/-!
# Reconciliation with the camera bridge

The relay persists the identifier and the address of each camera and registers them with
the bridge.  Registrations can fail and the bridge forgets everything when it restarts, so
a pass compares from time to time what is persisted with what the bridge lists and
registers what is missing there.

The bridge lists devices and addresses, not identifiers.  A camera whose identifier has
changed is therefore left alone if the bridge has its old identifier at the right address,
and nobody else repairs this once the registration of the new identifier is lost.

Events of the feeders, passes and the worker of the registrar run in threads of their own.
What a pass has read may have changed before it ends.
-/

/-! ## The relay -/

structure CameraRelay where
  shadow : StateShadow := {}
  registrations : Registrations := {}
  available : Option Bool := none

/-- What is persisted, in the order in which it is read. -/
def persistedMappings (shadow : StateShadow) : List CameraBridgeMapping :=
  (shadow.cameraUids.insertionSort (fun first second => first.1 ≤ second.1)).map
    (fun entry => ⟨entry.1, entry.2.1, entry.2.2⟩)

/-- What a pass has read. -/
structure PassView where
  listed : Dict String (Option String)
  persisted : List CameraBridgeMapping
  recovered : Bool
  deriving DecidableEq, Repr

/-- The bridge does not list the device with the persisted address. -/
def PassView.isMissing (view : PassView) (mapping : CameraBridgeMapping) : Bool :=
  decide (Dict.get? view.listed mapping.deviceId ≠ some mapping.feederIp)

def PassView.targets (view : PassView) : List CameraBridgeMapping :=
  if view.recovered then view.persisted else view.persisted.filter view.isMissing

/-- Who calls `register`, and what is left to do after the call. -/
inductive RegisterCaller where
  | event
  | pass (view : PassView) (rest : List CameraBridgeMapping) (scheduled : Nat)
  deriving DecidableEq, Repr

inductive CameraJob where
  | learn (deviceId uid : String) (peer : Option String)
  | notePeer (deviceId : String) (peer : Option String)
  | record (mapping : CameraBridgeMapping)
  | register (caller : RegisterCaller) (mapping : CameraBridgeMapping) (force : Bool)
  | put (caller : RegisterCaller) (mapping : CameraBridgeMapping)
  | giveUp (caller : RegisterCaller) (mapping : CameraBridgeMapping)
  | health
  | list
  | compare (listed : Dict String (Option String)) (recovered : Bool)
  | goOn (view : PassView) (rest : List CameraBridgeMapping) (scheduled : Nat)
  deriving DecidableEq, Repr

/-- What follows a call that has returned. -/
def RegisterCaller.resume (result : Bool) : RegisterCaller -> List CameraJob
  | .event => []
  | .pass view rest scheduled => [.goOn view rest (scheduled + result.toNat)]

namespace CameraRelay

def setRegistrar (relay : CameraRelay) (registrar : CameraBridgeRegistrar) : CameraRelay :=
  { relay with registrations := { relay.registrations with registrar := registrar } }

/-- The next section of a thread.  The input says whether the bridge can be reached. -/
def perform (relay : CameraRelay) (reachable : Bool) : CameraJob -> CameraRelay × List CameraJob
  | .learn deviceId uid peer =>
      if isCameraUid (.str uid) then
        ({ relay with shadow := relay.shadow.recordCameraUid deviceId uid },
          [.record ⟨deviceId, uid, peer.filter isIPv4⟩])
      else (relay, [])
  | .notePeer deviceId peer =>
      match Dict.get? relay.shadow.cameraUids deviceId, peer.filter isIPv4 with
      | some known, some ip => (relay, [.record ⟨deviceId, known.1, some ip⟩])
      | _, _ => (relay, [])
  | .record mapping =>
      ({ relay with
          shadow := relay.shadow.recordCameraUid mapping.deviceId mapping.uid mapping.feederIp },
        [.register .event mapping false])
  | .register caller mapping force =>
      if relay.registrations.registrar.skips mapping force then (relay, caller.resume false)
      else (relay.setRegistrar (relay.registrations.registrar.enter mapping), [.put caller mapping])
  | .put caller mapping =>
      if relay.registrations.registrar.isFull then (relay, [.giveUp caller mapping])
      else
        (relay.setRegistrar (relay.registrations.registrar.putNowait mapping), caller.resume true)
  | .giveUp caller mapping =>
      (relay.setRegistrar (relay.registrations.registrar.discard mapping), caller.resume false)
  | .health =>
      if reachable then (relay, [.list]) else ({ relay with available := some false }, [])
  | .list =>
      if reachable then
        ({ relay with available := some true },
          [.compare (listRegistry relay.registrations.bridge)
            (decide (relay.available = some false))])
      else ({ relay with available := some false }, [])
  | .compare listed recovered =>
      let view : PassView := ⟨listed, persistedMappings relay.shadow, recovered⟩
      (relay, [.goOn view view.targets 0])
  | .goOn view (mapping :: rest) scheduled =>
      (relay, [.register (.pass view rest scheduled) mapping true])
  | .goOn _ [] _ => (relay, [])

end CameraRelay

inductive CameraAction where
  | start (job : CameraJob)
  | advance (number : Nat) (reachable : Bool)
  | get
  | request (delivered heard : Bool)
  | note
  | restart
  deriving DecidableEq, Repr

/-- What a thread can start with: an event of a feeder or a pass. -/
def CameraJob.startsThread : CameraJob -> Bool
  | .learn _ _ _ => true
  | .notePeer _ _ => true
  | .health => true
  | _ => false

abbrev CameraRun := CameraRelay × List (List CameraJob)

/-- A step of the worker or of the bridge. -/
def workerStep (run : CameraRun) (moved : Option Registrations) : Option CameraRun :=
  moved.map (fun registrations => ({ run.1 with registrations := registrations }, run.2))

def cameraStep (run : CameraRun) : CameraAction -> Option CameraRun
  | .start job => if job.startsThread then some (run.1, run.2 ++ [[job]]) else none
  | .advance number reachable => Threads.advance CameraRelay.perform run number reachable
  | .get => workerStep run run.1.registrations.get
  | .request delivered heard => workerStep run (run.1.registrations.request delivered heard)
  | .note => workerStep run run.1.registrations.note
  | .restart => workerStep run (some { run.1.registrations with bridge := [] })

def cameraMachine : Machine CameraRun CameraAction where
  step := cameraStep

/-- The bridge holds every persisted identifier, and every address that is known. -/
def BridgeAgrees (relay : CameraRelay) : Prop :=
  forall deviceId uid ip, Dict.get? relay.shadow.cameraUids deviceId = some (uid, ip) ->
    validDeviceID deviceId = true -> exists entry,
      Dict.get? relay.registrations.bridge deviceId = some entry ∧ entry.uid = uid ∧
        forall known, ip = some known -> entry.ip = some known

/-! ## Registrations that are lost -/

/-- The thread has this identifier of the device still to register. -/
def CameraJob.promises (deviceId uid : String) : CameraJob -> Bool
  | .record mapping => decide (mapping.deviceId = deviceId) && decide (mapping.uid = uid)
  | .register _ mapping _ => decide (mapping.deviceId = deviceId) && decide (mapping.uid = uid)
  | .put _ mapping => decide (mapping.deviceId = deviceId) && decide (mapping.uid = uid)
  | _ => false

def isAwaited (threads : List (List CameraJob)) (deviceId uid : String) : Bool :=
  threads.any (fun thread => thread.any (CameraJob.promises deviceId uid))

/-- The last mapping of the device among those that have not reached the bridge. -/
def lastFor (deviceId : String) (mappings : List CameraBridgeMapping) :
    Option CameraBridgeMapping :=
  mappings.reverse.find? (fun mapping => decide (mapping.deviceId = deviceId))

/-- The last mapping on its way to the bridge has the identifier.  If none is on its way,
the bridge does not have another identifier at the address. -/
def isOnItsWay (registrations : Registrations) (deviceId uid : String) (ip : Option String) :
    Bool :=
  match lastFor deviceId registrations.ahead with
  | some mapping => decide (mapping.uid = uid)
  | none => (Dict.get? registrations.bridge deviceId).all
      (fun entry => decide (entry.uid = uid) || decide (entry.ip ≠ ip))

/-- The persisted identifier of a device is still to be registered or on its way, or the
bridge does not have another one at the persisted address. -/
def isCovered (relay : CameraRelay) (threads : List (List CameraJob)) (deviceId : String) : Bool :=
  (Dict.get? relay.shadow.cameraUids deviceId).all (fun persisted =>
    isAwaited threads deviceId persisted.1 ||
      isOnItsWay relay.registrations deviceId persisted.1 persisted.2)

/-- What the pass has read is still so, it has found nothing to register, and no thread has
a persisted identifier still to register. -/
def isUndisturbed (run : CameraRun) (view : PassView) : Bool :=
  view.targets.isEmpty && decide (view.persisted = persistedMappings run.1.shadow) &&
    view.persisted.all (fun mapping =>
      decide (Dict.get? view.listed mapping.deviceId =
        (Dict.get? run.1.registrations.bridge mapping.deviceId).map BridgeEntry.ip) &&
      !isAwaited run.2 mapping.deviceId mapping.uid)

/-- What a thread is about to do loses no identifier and overtakes none, and a pass that
ends is undisturbed. -/
def losesNothing (run : CameraRun) (number : Nat) : Bool :=
  match run.2[number]? with
  | some (.register _ mapping force :: rest) =>
      !run.1.registrations.registrar.skips mapping force ||
        isCovered run.1 (run.2.set number rest) mapping.deviceId
  | some (.put _ mapping :: rest) =>
      if run.1.registrations.registrar.isFull then
        isCovered run.1 (run.2.set number rest) mapping.deviceId
      else
        (Dict.get? run.1.shadow.cameraUids mapping.deviceId).all (fun persisted =>
          decide (mapping.uid = persisted.1) ||
            isAwaited (run.2.set number rest) mapping.deviceId persisted.1)
  | some (.goOn view [] 0 :: _) =>
      !run.1.registrations.registrar.inFlight.isEmpty || isUndisturbed run view
  | _ => true

/-- The request of the worker reaches the bridge, or its loss leaves the device covered. -/
def requestArrives (run : CameraRun) (delivered : Bool) : Bool :=
  match run.1.registrations.worker with
  | .sending mapping => (delivered && mapping.isAccepted) ||
      isCovered { run.1 with registrations := { run.1.registrations with
        worker := .answered mapping false } } run.2 mapping.deviceId
  | _ => true

def Lossless (run : CameraRun) : CameraAction -> Prop
  | .advance number _ => losesNothing run number = true
  | .request delivered _ => requestArrives run delivered = true
  | _ => True

instance losslessDecidable (run : CameraRun) :
    (action : CameraAction) -> Decidable (Lossless run action)
  | .advance number _ => inferInstanceAs (Decidable (losesNothing run number = true))
  | .request delivered _ => inferInstanceAs (Decidable (requestArrives run delivered = true))
  | .start _ => isTrue trivial
  | .get => isTrue trivial
  | .note => isTrue trivial
  | .restart => isTrue trivial

/-- A pass has scheduled nothing and is over. -/
def EndsIdle (run : CameraRun) (number : Nat) : Prop :=
  exists view rest, run.2[number]? = some (.goOn view [] 0 :: rest)

/-! ## What is still to be registered -/

theorem isAwaited_iff {threads : List (List CameraJob)} {deviceId uid : String} :
    isAwaited threads deviceId uid = true ↔
      exists thread, thread ∈ threads ∧ exists job, job ∈ thread ∧
        job.promises deviceId uid = true := by
  simp only [isAwaited, List.any_eq_true]

theorem isAwaited_concat {threads : List (List CameraJob)} {deviceId uid : String}
    (awaited : isAwaited threads deviceId uid = true) (thread : List CameraJob) :
    isAwaited (threads ++ [thread]) deviceId uid = true := by
  rw [isAwaited, List.any_append, Bool.or_eq_true]
  exact Or.inl awaited

section Threads

variable {threads : List (List CameraJob)} {number : Nat} {job : CameraJob}
  {rest next : List CameraJob} {deviceId uid : String}

theorem isAwaited_of_next (found : threads[number]? = some (job :: rest)) {new : CameraJob}
    (member : new ∈ next) (promised : new.promises deviceId uid = true) :
    isAwaited (threads.set number (next ++ rest)) deviceId uid = true := by
  have within := (List.getElem?_eq_some_iff.mp found).1
  refine isAwaited_iff.mpr ⟨next ++ rest, List.mem_set within _, new, ?_, promised⟩
  exact List.mem_append_left rest member

/-- What another thread or the rest of this one has to register stays to be done. -/
theorem isAwaited_continued (found : threads[number]? = some (job :: rest))
    (awaited : isAwaited threads deviceId uid = true)
    (kept : job.promises deviceId uid = true ->
      exists new, new ∈ next ∧ new.promises deviceId uid = true) :
    isAwaited (threads.set number (next ++ rest)) deviceId uid = true := by
  obtain ⟨thread, member, other, pending, promised⟩ := isAwaited_iff.mp awaited
  obtain ⟨place, there⟩ := List.mem_iff_getElem?.mp member
  by_cases here : number = place
  · rw [← here, found] at there
    cases there
    rcases List.mem_cons.mp pending with rfl | later
    · obtain ⟨new, fresh, again⟩ := kept promised
      exact isAwaited_of_next found fresh again
    · have within := (List.getElem?_eq_some_iff.mp found).1
      refine isAwaited_iff.mpr ⟨next ++ rest, List.mem_set within _, other, ?_, promised⟩
      exact List.mem_append_right next later
  · refine isAwaited_iff.mpr ⟨thread, ?_, other, pending, promised⟩
    refine List.mem_iff_getElem?.mpr ⟨place, ?_⟩
    rw [List.getElem?_set_ne here]
    exact there

theorem isAwaited_resumed (awaited : isAwaited (threads.set number rest) deviceId uid = true) :
    isAwaited (threads.set number (next ++ rest)) deviceId uid = true := by
  by_cases within : number < threads.length
  · have there : (threads.set number rest)[number]? = some rest := by
      rw [List.getElem?_set_self within]
    obtain ⟨thread, member, other, pending, promised⟩ := isAwaited_iff.mp awaited
    obtain ⟨place, found⟩ := List.mem_iff_getElem?.mp member
    by_cases here : number = place
    · rw [← here, there] at found
      cases found
      refine isAwaited_iff.mpr ⟨next ++ rest, List.mem_set within _, other, ?_, promised⟩
      exact List.mem_append_right next pending
    · refine isAwaited_iff.mpr ⟨thread, ?_, other, pending, promised⟩
      refine List.mem_iff_getElem?.mpr ⟨place, ?_⟩
      rw [List.getElem?_set_ne here] at found ⊢
      exact found
  · rw [List.set_eq_of_length_le (Nat.le_of_not_lt within)] at awaited ⊢
    exact awaited

end Threads

/-! ## What is on its way -/

theorem lastFor_concat (deviceId : String) (mappings : List CameraBridgeMapping)
    (mapping : CameraBridgeMapping) :
    lastFor deviceId (mappings ++ [mapping]) =
      if mapping.deviceId = deviceId then some mapping else lastFor deviceId mappings := by
  rw [lastFor, List.reverse_append, List.reverse_singleton, List.singleton_append, List.find?_cons]
  by_cases same : mapping.deviceId = deviceId
  · rw [decide_eq_true same, if_pos same]
  · rw [decide_eq_false same, if_neg same]
    rfl

theorem lastFor_cons (deviceId : String) (mapping : CameraBridgeMapping)
    (mappings : List CameraBridgeMapping) :
    lastFor deviceId (mapping :: mappings) =
      (lastFor deviceId mappings).or
        (if mapping.deviceId = deviceId then some mapping else none) := by
  rw [lastFor, List.reverse_cons, List.find?_append, List.find?_cons, List.find?_nil]
  by_cases same : mapping.deviceId = deviceId
  · rw [decide_eq_true same, if_pos same]
    rfl
  · rw [decide_eq_false same, if_neg same]
    rfl

theorem isOnItsWay_congr {registrations after : Registrations} {deviceId uid : String}
    {ip : Option String} (ahead : after.ahead = registrations.ahead)
    (bridge : after.bridge = registrations.bridge) :
    isOnItsWay after deviceId uid ip = isOnItsWay registrations deviceId uid ip := by
  rw [isOnItsWay, isOnItsWay, ahead, bridge]

theorem isCovered_iff {relay : CameraRelay} {threads : List (List CameraJob)} {deviceId : String} :
    isCovered relay threads deviceId = true ↔
      forall uid ip, Dict.get? relay.shadow.cameraUids deviceId = some (uid, ip) ->
        isAwaited threads deviceId uid = true ∨
          isOnItsWay relay.registrations deviceId uid ip = true := by
  rw [isCovered]
  cases Dict.get? relay.shadow.cameraUids deviceId with
  | none => exact iff_of_true rfl nofun
  | some persisted =>
      rw [Option.all_some, Bool.or_eq_true]
      constructor
      · rintro covered uid ip ⟨⟩
        exact covered
      · intro covered
        exact covered persisted.1 persisted.2 rfl

/-- Every device is covered. -/
def Covered (run : CameraRun) : Prop :=
  forall deviceId, isCovered run.1 run.2 deviceId = true

/-! ## Steps of the threads -/

section Advance

variable {run : CameraRun} {number : Nat} {job : CameraJob} {rest next : List CameraJob}
  {relay : CameraRelay}

/-- A section that changes neither what is persisted nor what is on its way, and after
which the same is still to be registered. -/
theorem covered_of_kept (covered : Covered run) (found : run.2[number]? = some (job :: rest))
    (persisted : relay.shadow.cameraUids = run.1.shadow.cameraUids)
    (ahead : relay.registrations.ahead = run.1.registrations.ahead)
    (bridge : relay.registrations.bridge = run.1.registrations.bridge)
    (kept : forall deviceId uid, job.promises deviceId uid = true ->
      exists new, new ∈ next ∧ new.promises deviceId uid = true) :
    Covered (relay, run.2.set number (next ++ rest)) := by
  intro deviceId
  refine isCovered_iff.mpr ?_
  intro uid ip stored
  rw [persisted] at stored
  rcases isCovered_iff.mp (covered deviceId) uid ip stored with awaited | onItsWay
  · exact Or.inl (isAwaited_continued found awaited (kept deviceId uid))
  · refine Or.inr ?_
    rw [isOnItsWay_congr ahead bridge]
    exact onItsWay

/-- A section that persists an identifier, which is then to be registered. -/
theorem covered_record (covered : Covered run) (found : run.2[number]? = some (job :: rest))
    {deviceId uid : String} {ip : Option String} {new : CameraJob}
    (own : forall other identifier, job.promises other identifier = true -> other = deviceId)
    (member : new ∈ next) (promised : new.promises deviceId uid = true) :
    Covered ({ run.1 with shadow := run.1.shadow.recordCameraUid deviceId uid ip },
      run.2.set number (next ++ rest)) := by
  intro other
  refine isCovered_iff.mpr ?_
  intro identifier address stored
  by_cases same : deviceId = other
  · rw [← same, StateShadow.recordCameraUid, Dict.get?_set_self] at stored
    cases stored
    rw [← same]
    exact Or.inl (isAwaited_of_next found member promised)
  · rw [StateShadow.recordCameraUid, Dict.get?_set_of_ne _ _ same] at stored
    rcases isCovered_iff.mp (covered other) identifier address stored with awaited | onItsWay
    · refine Or.inl (isAwaited_continued found awaited ?_)
      intro promises
      exact absurd (own other identifier promises).symm same
    · exact Or.inr onItsWay

/-- A section that gives the registration of a mapping up. -/
theorem covered_given_up (covered : Covered run) (found : run.2[number]? = some (job :: rest))
    {mapping : CameraBridgeMapping}
    (own : forall other identifier, job.promises other identifier = true ->
      other = mapping.deviceId)
    (without : isCovered run.1 (run.2.set number rest) mapping.deviceId = true) :
    Covered (run.1, run.2.set number (next ++ rest)) := by
  intro other
  refine isCovered_iff.mpr ?_
  intro uid ip stored
  by_cases same : other = mapping.deviceId
  · rw [same] at stored ⊢
    rcases isCovered_iff.mp without uid ip stored with awaited | onItsWay
    · exact Or.inl (isAwaited_resumed awaited)
    · exact Or.inr onItsWay
  · rcases isCovered_iff.mp (covered other) uid ip stored with awaited | onItsWay
    · refine Or.inl (isAwaited_continued found awaited ?_)
      intro promises
      exact absurd (own other uid promises) same
    · exact Or.inr onItsWay

/-- A mapping that is put into the queue is the last one of its device from here on. -/
theorem covered_put (covered : Covered run) {caller : RegisterCaller}
    {mapping : CameraBridgeMapping} (found : run.2[number]? = some (.put caller mapping :: rest))
    (latest : (Dict.get? run.1.shadow.cameraUids mapping.deviceId).all (fun persisted =>
      decide (mapping.uid = persisted.1) ||
        isAwaited (run.2.set number rest) mapping.deviceId persisted.1) = true) :
    Covered (run.1.setRegistrar (run.1.registrations.registrar.putNowait mapping),
      run.2.set number (next ++ rest)) := by
  have ahead : (run.1.setRegistrar
      (run.1.registrations.registrar.putNowait mapping)).registrations.ahead =
        run.1.registrations.ahead ++ [mapping] := by
    simp only [Registrations.ahead, CameraRelay.setRegistrar, CameraBridgeRegistrar.putNowait,
      List.append_assoc]
  intro other
  refine isCovered_iff.mpr ?_
  intro uid ip stored
  by_cases same : mapping.deviceId = other
  · have stored : Dict.get? run.1.shadow.cameraUids other = some (uid, ip) := stored
    rw [same, stored, Option.all_some, Bool.or_eq_true, decide_eq_true_eq] at latest
    rcases latest with last | awaited
    · refine Or.inr ?_
      rw [isOnItsWay, ahead, lastFor_concat, if_pos same]
      exact decide_eq_true last
    · exact Or.inl (isAwaited_resumed awaited)
  · rcases isCovered_iff.mp (covered other) uid ip stored with awaited | onItsWay
    · refine Or.inl (isAwaited_continued found awaited ?_)
      intro promises
      rw [CameraJob.promises, Bool.and_eq_true, decide_eq_true_eq] at promises
      exact absurd promises.1 same
    · refine Or.inr ?_
      rw [isOnItsWay, ahead, lastFor_concat, if_neg same]
      exact onItsWay

/-- What a call has to register is for the device of its mapping. -/
theorem own_of_promises {mapping : CameraBridgeMapping} {other uid : String}
    (promises : (decide (mapping.deviceId = other) && decide (mapping.uid = uid)) = true) :
    other = mapping.deviceId := by
  rw [Bool.and_eq_true, decide_eq_true_eq] at promises
  exact promises.1.symm

theorem covered_advance (covered : Covered run) {reachable : Bool} {after : CameraRun}
    (lossless : losesNothing run number = true)
    (moved : Threads.advance CameraRelay.perform run number reachable = some after) :
    Covered after := by
  obtain ⟨job, rest, found, -, rfl⟩ := Threads.advance_eq_some moved
  rw [losesNothing, found] at lossless
  cases job with
  | learn deviceId uid peer =>
      simp only [CameraRelay.perform]
      split
      · refine covered_record covered found (by rintro _ _ ⟨⟩) List.mem_cons_self ?_
        rw [CameraJob.promises, decide_eq_true rfl, decide_eq_true rfl, Bool.and_true]
      · exact covered_of_kept covered found rfl rfl rfl (by rintro _ _ ⟨⟩)
  | notePeer deviceId peer =>
      simp only [CameraRelay.perform]
      split
      · exact covered_of_kept covered found rfl rfl rfl (by rintro _ _ ⟨⟩)
      · exact covered_of_kept covered found rfl rfl rfl (by rintro _ _ ⟨⟩)
  | record mapping =>
      simp only [CameraRelay.perform]
      refine covered_record covered found ?_ List.mem_cons_self ?_
      · intro other uid promises
        exact own_of_promises promises
      · rw [CameraJob.promises, decide_eq_true rfl, decide_eq_true rfl, Bool.and_true]
  | register caller mapping force =>
      simp only [CameraRelay.perform]
      split
      · next skipped =>
          simp only [skipped, Bool.not_true, Bool.false_or] at lossless
          exact covered_given_up covered found (fun _ _ promises => own_of_promises promises)
            lossless
      · refine covered_of_kept covered found rfl rfl rfl ?_
        intro other uid promises
        exact ⟨.put caller mapping, List.mem_cons_self, promises⟩
  | put caller mapping =>
      simp only [CameraRelay.perform]
      split
      · next full =>
          simp only [full, if_true] at lossless
          exact covered_given_up covered found (fun _ _ promises => own_of_promises promises)
            lossless
      · next room =>
          simp only [room] at lossless
          exact covered_put covered found lossless
  | giveUp caller mapping => exact covered_of_kept covered found rfl rfl rfl (by rintro _ _ ⟨⟩)
  | health =>
      simp only [CameraRelay.perform]
      split
      · exact covered_of_kept covered found rfl rfl rfl (by rintro _ _ ⟨⟩)
      · exact covered_of_kept covered found rfl rfl rfl (by rintro _ _ ⟨⟩)
  | list =>
      simp only [CameraRelay.perform]
      split
      · exact covered_of_kept covered found rfl rfl rfl (by rintro _ _ ⟨⟩)
      · exact covered_of_kept covered found rfl rfl rfl (by rintro _ _ ⟨⟩)
  | compare listed recovered =>
      exact covered_of_kept covered found rfl rfl rfl (by rintro _ _ ⟨⟩)
  | goOn view targets scheduled =>
      cases targets with
      | nil => exact covered_of_kept covered found rfl rfl rfl (by rintro _ _ ⟨⟩)
      | cons mapping targets =>
          exact covered_of_kept covered found rfl rfl rfl (by rintro _ _ ⟨⟩)

end Advance

/-! ## Steps of the worker and the bridge -/

section Worker

variable {run : CameraRun}

/-- What is persisted and awaited stays, and so does what is on its way. -/
theorem covered_of_onItsWay (covered : Covered run) {registrations : Registrations}
    (kept : forall deviceId uid ip,
      Dict.get? run.1.shadow.cameraUids deviceId = some (uid, ip) ->
      isOnItsWay run.1.registrations deviceId uid ip = true ->
      isOnItsWay registrations deviceId uid ip = true ∨ isAwaited run.2 deviceId uid = true) :
    Covered ({ run.1 with registrations := registrations }, run.2) := by
  intro deviceId
  refine isCovered_iff.mpr ?_
  intro uid ip stored
  rcases isCovered_iff.mp (covered deviceId) uid ip stored with awaited | onItsWay
  · exact Or.inl awaited
  · exact (kept deviceId uid ip stored onItsWay).symm

/-- A step of the worker that leaves what is ahead and the bridge alone. -/
theorem covered_work (covered : Covered run) {after : Registrations}
    (kept : after.ahead = run.1.registrations.ahead ∧
      after.bridge = run.1.registrations.bridge) :
    Covered ({ run.1 with registrations := after }, run.2) := by
  refine covered_of_onItsWay covered ?_
  intro deviceId uid ip _ onItsWay
  exact Or.inl ((isOnItsWay_congr kept.1 kept.2).trans onItsWay)

theorem covered_restart (covered : Covered run) :
    Covered ({ run.1 with registrations := { run.1.registrations with bridge := [] } }, run.2) := by
  refine covered_of_onItsWay covered ?_
  intro deviceId uid ip _ onItsWay
  refine Or.inl ?_
  rw [isOnItsWay] at onItsWay ⊢
  have ahead : ({ run.1.registrations with bridge := [] } : Registrations).ahead =
      run.1.registrations.ahead := rfl
  rw [ahead]
  cases last : lastFor deviceId run.1.registrations.ahead with
  | none => rfl
  | some mapping =>
      rw [last] at onItsWay
      exact onItsWay

/-- A request that reaches the bridge leaves its identifier there, one that does not may
leave another one. -/
theorem covered_request (covered : Covered run) {delivered heard : Bool} {after : Registrations}
    (lossless : requestArrives run delivered = true)
    (moved : run.1.registrations.request delivered heard = some after) :
    Covered ({ run.1 with registrations := after }, run.2) := by
  obtain ⟨mapping, sending, rfl⟩ := Registrations.request_eq_some moved
  have front := Registrations.ahead_of_sending sending
  rw [requestArrives, sending, Bool.or_eq_true] at lossless
  refine covered_of_onItsWay covered ?_
  intro deviceId uid ip stored onItsWay
  rw [isOnItsWay, front, lastFor_cons] at onItsWay
  have left : forall (bridge : BridgeRegistry) (accepted : Bool),
      ({ run.1.registrations with
        bridge := bridge
        worker := .answered mapping accepted } : Registrations).ahead =
          run.1.registrations.registrar.pending := fun _ _ => rfl
  simp only [isOnItsWay, left]
  cases later : lastFor deviceId run.1.registrations.registrar.pending with
  | some last =>
      rw [later, Option.some_or] at onItsWay
      exact Or.inl onItsWay
  | none =>
      rw [later, Option.none_or] at onItsWay
      by_cases own : mapping.deviceId = deviceId
      · rw [if_pos own] at onItsWay
        have identifier := of_decide_eq_true onItsWay
        by_cases taken : (delivered && mapping.isAccepted) = true
        · refine Or.inl ?_
          rw [if_pos taken, upsertRegistry, own, Dict.get?_set_self, Option.all_some, upsertEntry,
            identifier, decide_eq_true rfl, Bool.true_or]
        · have lost := lossless.resolve_left taken
          rw [own] at lost
          rcases isCovered_iff.mp lost uid ip stored with awaited | remains
          · exact Or.inr awaited
          · refine Or.inl ?_
            simp only [isOnItsWay, left, later] at remains
            rw [if_neg taken]
            exact remains
      · rw [if_neg own] at onItsWay
        refine Or.inl ?_
        by_cases taken : (delivered && mapping.isAccepted) = true
        · rw [if_pos taken, upsertRegistry, Dict.get?_set_of_ne _ _ own]
          exact onItsWay
        · rw [if_neg taken]
          exact onItsWay

end Worker

theorem covered_step (run : CameraRun) (action : CameraAction) (after : CameraRun)
    (covered : Covered run) (lossless : Lossless run action)
    (moved : cameraMachine.step run action = some after) : Covered after := by
  cases action with
  | start job =>
      have starts : (if job.startsThread then some (run.1, run.2 ++ [[job]]) else none) =
        some after := moved
      split at starts
      · cases starts
        intro deviceId
        refine isCovered_iff.mpr ?_
        intro uid ip stored
        rcases isCovered_iff.mp (covered deviceId) uid ip stored with awaited | onItsWay
        · exact Or.inl (isAwaited_concat awaited [job])
        · exact Or.inr onItsWay
      · cases starts
  | advance number reachable => exact covered_advance covered lossless moved
  | get =>
      obtain ⟨registrations, taken, rfl⟩ := Option.map_eq_some_iff.mp moved
      exact covered_work covered (Registrations.ahead_of_get taken)
  | request delivered heard =>
      obtain ⟨registrations, sent, rfl⟩ := Option.map_eq_some_iff.mp moved
      exact covered_request covered lossless sent
  | note =>
      obtain ⟨registrations, noted, rfl⟩ := Option.map_eq_some_iff.mp moved
      exact covered_work covered (Registrations.ahead_of_note noted)
  | restart =>
      cases moved
      exact covered_restart covered

/-! ## What is in flight -/

/-- The job has let the mapping in and not put it into the queue. -/
def CameraJob.holds (mapping : CameraBridgeMapping) : CameraJob -> Bool
  | .put _ other => decide (other = mapping)
  | .giveUp _ other => decide (other = mapping)
  | _ => false

/-- The mapping the worker has taken. -/
def RegistrarWorker.taken : RegistrarWorker -> List CameraBridgeMapping
  | .idle => []
  | .sending mapping => [mapping]
  | .answered mapping _ => [mapping]

/-- In how many places a mapping is, from the section that let it in on. -/
def held (run : CameraRun) (mapping : CameraBridgeMapping) : Nat :=
  Threads.pendingCount (CameraJob.holds mapping) run.2 +
    run.1.registrations.registrar.pending.count mapping +
    run.1.registrations.worker.taken.count mapping

/-- A mapping is in one place at most, and in flight while it is there. -/
def FlightKept (run : CameraRun) : Prop :=
  forall mapping, held run mapping ≤
    if mapping ∈ run.1.registrations.registrar.inFlight then 1 else 0

section Flight

variable {run : CameraRun} {number : Nat} {job : CameraJob} {rest next : List CameraJob}
  {relay : CameraRelay}

/-- A section of a thread, counted on both sides. -/
theorem held_advance (found : run.2[number]? = some (job :: rest))
    (mapping : CameraBridgeMapping) :
    held (relay, run.2.set number (next ++ rest)) mapping + (if job.holds mapping then 1 else 0) +
        run.1.registrations.registrar.pending.count mapping +
        run.1.registrations.worker.taken.count mapping =
      held run mapping + next.countP (CameraJob.holds mapping) +
        relay.registrations.registrar.pending.count mapping +
        relay.registrations.worker.taken.count mapping := by
  have counted := Threads.pendingCount_continued (CameraJob.holds mapping) found next
  simp only [held]
  omega

theorem countP_resume (caller : RegisterCaller) (result : Bool) (mapping : CameraBridgeMapping) :
    (caller.resume result).countP (CameraJob.holds mapping) = 0 := by
  cases caller with
  | event => rfl
  | pass view targets scheduled => rfl

/-- A section that moves a mapping from one place to the next at most. -/
theorem flight_of_moved (kept : FlightKept run) (found : run.2[number]? = some (job :: rest))
    (inFlight : relay.registrations.registrar.inFlight =
      run.1.registrations.registrar.inFlight)
    (moved : forall mapping, next.countP (CameraJob.holds mapping) +
        relay.registrations.registrar.pending.count mapping +
        relay.registrations.worker.taken.count mapping ≤
      (if job.holds mapping then 1 else 0) + run.1.registrations.registrar.pending.count mapping +
        run.1.registrations.worker.taken.count mapping) :
    FlightKept (relay, run.2.set number (next ++ rest)) := by
  intro mapping
  have counted := @held_advance run number job rest next relay found mapping
  have before := kept mapping
  have moved := moved mapping
  simp only [inFlight]
  omega

/-- A section that neither takes up nor gives up a mapping. -/
theorem flight_of_kept (kept : FlightKept run) (found : run.2[number]? = some (job :: rest))
    (same : relay.registrations = run.1.registrations)
    (next_ : forall mapping, next.countP (CameraJob.holds mapping) = 0) :
    FlightKept (relay, run.2.set number (next ++ rest)) := by
  refine flight_of_moved kept found (by rw [same]) ?_
  intro mapping
  rw [next_ mapping, same]
  omega

/-- A mapping that is let in was nowhere before. -/
theorem flight_enter (kept : FlightKept run) {caller : RegisterCaller}
    {mapping : CameraBridgeMapping} {force : Bool}
    (found : run.2[number]? = some (.register caller mapping force :: rest))
    (admitted : ¬ run.1.registrations.registrar.skips mapping force = true) :
    FlightKept (run.1.setRegistrar (run.1.registrations.registrar.enter mapping),
      run.2.set number ([.put caller mapping] ++ rest)) := by
  have absent : mapping ∉ run.1.registrations.registrar.inFlight := by
    intro present
    refine admitted ?_
    rw [CameraBridgeRegistrar.skips, decide_eq_true present, Bool.or_true, Bool.true_or]
  intro other
  have counted := @held_advance run number _ rest [.put caller mapping]
    (run.1.setRegistrar (run.1.registrations.registrar.enter mapping)) found other
  have before := kept other
  simp only [CameraRelay.setRegistrar, CameraBridgeRegistrar.enter, CameraJob.holds,
    List.countP_cons, List.countP_nil, List.mem_cons, decide_eq_true_eq, Bool.false_eq_true,
    if_false] at counted ⊢
  by_cases same : mapping = other
  · rw [if_pos same] at counted
    rw [if_pos (Or.inl same.symm)]
    rw [← same, if_neg absent] at before
    rw [← same] at counted ⊢
    omega
  · rw [if_neg same] at counted
    have different : ¬ other = mapping := Ne.symm same
    simp only [different, false_or]
    omega

/-- A mapping that is no longer in flight has left its place. -/
theorem flight_discard {before after : Nat} {mapping other : CameraBridgeMapping}
    {flying : List CameraBridgeMapping}
    (kept : before ≤ if other ∈ flying then 1 else 0)
    (counted : after + (if mapping = other then 1 else 0) = before) :
    after ≤ if other ∈ flying.filter (fun another => decide (another ≠ mapping)) then 1 else 0 := by
  by_cases same : mapping = other
  · rw [if_pos same] at counted
    split at kept <;> omega
  · rw [if_neg same] at counted
    have still : other ∈ flying.filter (fun another => decide (another ≠ mapping)) ↔
        other ∈ flying := by
      rw [List.mem_filter, decide_eq_true_eq]
      exact and_iff_left (Ne.symm same)
    simp only [still]
    omega

theorem flight_put (kept : FlightKept run) {caller : RegisterCaller}
    {mapping : CameraBridgeMapping} (found : run.2[number]? = some (.put caller mapping :: rest)) :
    FlightKept (run.1.setRegistrar (run.1.registrations.registrar.putNowait mapping),
      run.2.set number (caller.resume true ++ rest)) := by
  refine flight_of_moved kept found rfl ?_
  intro other
  rw [countP_resume]
  simp only [CameraRelay.setRegistrar, CameraBridgeRegistrar.putNowait, CameraJob.holds,
    List.count_append, List.count_singleton, decide_eq_true_eq, beq_iff_eq]
  omega

theorem flight_giveUp (kept : FlightKept run) {caller : RegisterCaller}
    {mapping : CameraBridgeMapping}
    (found : run.2[number]? = some (.giveUp caller mapping :: rest)) :
    FlightKept (run.1.setRegistrar (run.1.registrations.registrar.discard mapping),
      run.2.set number (caller.resume false ++ rest)) := by
  intro other
  have counted := @held_advance run number _ rest (caller.resume false)
    (run.1.setRegistrar (run.1.registrations.registrar.discard mapping)) found other
  simp only [CameraRelay.setRegistrar, CameraBridgeRegistrar.discard, CameraJob.holds,
    countP_resume, decide_eq_true_eq] at counted ⊢
  exact flight_discard (kept other) (by omega)

theorem flight_advance (kept : FlightKept run) {reachable : Bool} {after : CameraRun}
    (moved : Threads.advance CameraRelay.perform run number reachable = some after) :
    FlightKept after := by
  obtain ⟨job, rest, found, -, rfl⟩ := Threads.advance_eq_some moved
  cases job with
  | learn deviceId uid peer =>
      simp only [CameraRelay.perform]
      split
      · exact flight_of_kept kept found rfl (fun _ => rfl)
      · exact flight_of_kept kept found rfl (fun _ => rfl)
  | notePeer deviceId peer =>
      simp only [CameraRelay.perform]
      split
      · exact flight_of_kept kept found rfl (fun _ => rfl)
      · exact flight_of_kept kept found rfl (fun _ => rfl)
  | record mapping => exact flight_of_kept kept found rfl (fun _ => rfl)
  | register caller mapping force =>
      simp only [CameraRelay.perform]
      split
      · exact flight_of_kept kept found rfl (countP_resume caller false)
      · next admitted => exact flight_enter kept found admitted
  | put caller mapping =>
      simp only [CameraRelay.perform]
      split
      · refine flight_of_moved kept found rfl ?_
        intro other
        rw [List.countP_singleton]
        exact Nat.le_refl _
      · exact flight_put kept found
  | giveUp caller mapping => exact flight_giveUp kept found
  | health =>
      simp only [CameraRelay.perform]
      split
      · exact flight_of_kept kept found rfl (fun _ => rfl)
      · exact flight_of_kept kept found rfl (fun _ => rfl)
  | list =>
      simp only [CameraRelay.perform]
      split
      · exact flight_of_kept kept found rfl (fun _ => rfl)
      · exact flight_of_kept kept found rfl (fun _ => rfl)
  | compare listed recovered =>
      exact flight_of_kept kept found rfl (fun _ => rfl)
  | goOn view targets scheduled =>
      cases targets with
      | nil => exact flight_of_kept kept found rfl (fun _ => rfl)
      | cons mapping targets => exact flight_of_kept kept found rfl (fun _ => rfl)

end Flight

theorem flight_step (run : CameraRun) (action : CameraAction) (after : CameraRun)
    (kept : FlightKept run) (moved : cameraMachine.step run action = some after) :
    FlightKept after := by
  cases action with
  | start job =>
      have starts : (if job.startsThread then some (run.1, run.2 ++ [[job]]) else none) =
        some after := moved
      split at starts
      · next fresh =>
          cases starts
          intro mapping
          have none_ : [job].countP (CameraJob.holds mapping) = 0 := by
            cases job with
            | learn deviceId uid peer => rfl
            | notePeer deviceId peer => rfl
            | health => rfl
            | _ => cases fresh
          have before := kept mapping
          simp only [held, Threads.pendingCount_concat, none_] at before ⊢
          exact before
      · cases starts
  | advance number reachable => exact flight_advance kept moved
  | get =>
      obtain ⟨registrations, taken, rfl⟩ := Option.map_eq_some_iff.mp moved
      obtain ⟨mapping, rest, idle, queued, rfl⟩ := Registrations.get_eq_some taken
      intro other
      have before := kept other
      simp only [held, idle, queued, RegistrarWorker.taken, List.count_nil, List.count_cons]
        at before ⊢
      omega
  | request delivered heard =>
      obtain ⟨registrations, sent, rfl⟩ := Option.map_eq_some_iff.mp moved
      obtain ⟨mapping, sending, rfl⟩ := Registrations.request_eq_some sent
      intro other
      have before := kept other
      simp only [held, sending, RegistrarWorker.taken] at before ⊢
      exact before
  | note =>
      obtain ⟨registrations, noted, rfl⟩ := Option.map_eq_some_iff.mp moved
      obtain ⟨mapping, accepted, answered, rfl⟩ := Registrations.note_eq_some noted
      intro other
      have before := kept other
      refine flight_discard before ?_
      simp only [held, answered, RegistrarWorker.taken, List.count_nil, List.count_singleton,
        beq_iff_eq, CameraBridgeRegistrar.note, CameraBridgeRegistrar.discard]
      omega
  | restart =>
      cases moved
      exact kept

/-- With nothing in flight nothing is on its way. -/
theorem ahead_eq_nil {run : CameraRun} (kept : FlightKept run)
    (empty : run.1.registrations.registrar.inFlight = []) : run.1.registrations.ahead = [] := by
  refine List.eq_nil_iff_forall_not_mem.mpr ?_
  intro mapping member
  have nowhere := kept mapping
  rw [empty, if_neg List.not_mem_nil, held] at nowhere
  rw [Registrations.ahead, List.mem_append] at member
  rcases member with unsent | queued
  · have taken : mapping ∈ run.1.registrations.worker.taken := by
      cases worker : run.1.registrations.worker with
      | idle =>
          rw [worker] at unsent
          cases unsent
      | sending other =>
          rw [worker] at unsent
          exact unsent
      | answered other accepted =>
          rw [worker] at unsent
          cases unsent
    have counted := List.count_pos_iff.mpr taken
    omega
  · have counted := List.count_pos_iff.mpr queued
    omega

/-! ## Passes -/

theorem mem_persistedMappings {shadow : StateShadow} {deviceId uid : String} {ip : Option String}
    (stored : Dict.get? shadow.cameraUids deviceId = some (uid, ip)) :
    ⟨deviceId, uid, ip⟩ ∈ persistedMappings shadow := by
  refine List.mem_map.mpr ⟨(deviceId, uid, ip), ?_, rfl⟩
  exact (List.perm_insertionSort _ _).mem_iff.mpr (Dict.mem_of_get?_eq_some stored)

/-- A pass without targets has found every persisted mapping at its address. -/
theorem PassView.listed_of_targets {view : PassView} (nothing : view.targets = [])
    {mapping : CameraBridgeMapping} (member : mapping ∈ view.persisted) :
    Dict.get? view.listed mapping.deviceId = some mapping.feederIp := by
  rw [PassView.targets] at nothing
  split at nothing
  · rw [nothing] at member
    cases member
  · have present := List.filter_eq_nil_iff.mp nothing mapping member
    rw [PassView.isMissing, decide_eq_true_eq, not_not] at present
    exact present

/-- An undisturbed pass that ends with nothing in flight. -/
theorem agrees_of_undisturbed {run : CameraRun} {view : PassView} (covered : Covered run)
    (kept : FlightKept run) (empty : run.1.registrations.registrar.inFlight = [])
    (undisturbed : isUndisturbed run view = true) : BridgeAgrees run.1 := by
  simp only [isUndisturbed, Bool.and_eq_true, List.isEmpty_iff, decide_eq_true_eq,
    List.all_eq_true, Bool.not_eq_true'] at undisturbed
  obtain ⟨⟨nothing, same⟩, still⟩ := undisturbed
  intro deviceId uid ip stored _
  have member := mem_persistedMappings stored
  rw [← same] at member
  obtain ⟨listed, notAwaited⟩ := still _ member
  rw [PassView.listed_of_targets nothing member] at listed
  obtain ⟨entry, held, address⟩ := Option.map_eq_some_iff.mp listed.symm
  refine ⟨entry, held, ?_, ?_⟩
  · rcases isCovered_iff.mp (covered deviceId) uid ip stored with awaited | onItsWay
    · rw [notAwaited] at awaited
      cases awaited
    · rw [isOnItsWay, ahead_eq_nil kept empty] at onItsWay
      simp only [lastFor, List.reverse_nil, List.find?_nil, held, Option.all_some, Bool.or_eq_true,
        decide_eq_true_eq] at onItsWay
      exact onItsWay.resolve_right (not_not_intro address)
  · rintro known rfl
    exact address

/-- In every run in which no identifier is lost and passes end undisturbed, a pass that has
scheduled nothing and ends with nothing in flight leaves a bridge that agrees with what is
persisted. -/
theorem idle_passes_find_agreement (actions : List CameraAction)
    (lossless : cameraMachine.Meets Lossless ({}, []) actions) :
    forall before number reachable, before ++ [.advance number reachable] <+: actions ->
      EndsIdle (cameraMachine.run ({}, []) before) number ->
      (cameraMachine.run ({}, []) before).1.registrations.registrar.inFlight = [] ->
      BridgeAgrees (cameraMachine.run ({}, []) before).1 := by
  rintro before number reachable ⟨later, rfl⟩ ⟨view, rest, found⟩ empty
  rw [List.append_assoc, Machine.meets_append] at lossless
  have covered : Covered (cameraMachine.run ({}, []) before) :=
    cameraMachine.run_invariant_of_meets Lossless Covered covered_step ({}, []) before
      (fun _ => rfl) lossless.1
  have kept : FlightKept (cameraMachine.run ({}, []) before) :=
    cameraMachine.run_invariant FlightKept flight_step ({}, []) before (fun _ => Nat.le_refl 0)
  have ending : losesNothing (cameraMachine.run ({}, []) before) number = true := lossless.2.1
  generalize cameraMachine.run ({}, []) before = run at *
  rw [losesNothing, found] at ending
  simp only [empty, List.isEmpty_nil, Bool.not_true, Bool.false_or] at ending
  exact agrees_of_undisturbed covered kept empty ending

/-- A feeder reports its camera, and the registration is worked off.  The request reaches
the bridge or not. -/
def reportCamera (number : Nat) (uid : String) (delivered : Bool) : List CameraAction :=
  [.start (.learn "feeder" uid (some "10.3.100.90")), .advance number true, .advance number true,
    .advance number true, .advance number true, .get, .request delivered delivered, .note]

/-- A pass up to its end. -/
def passUpToEnd (number : Nat) : List CameraAction :=
  [.start .health, .advance number true, .advance number true, .advance number true]

def otherUid : String := "TSRQPONMLKJIHGFEDCBA"

/-- The registration of a new identifier fails, and the next pass finds nothing to do. -/
theorem lost_identifier_not_repaired :
    let before := reportCamera 0 exampleUid true ++ reportCamera 1 otherUid false ++ passUpToEnd 2
    let run := cameraMachine.run ({}, []) before
    EndsIdle run 2 ∧ run.1.registrations.registrar.inFlight = [] ∧
      Dict.get? run.1.shadow.cameraUids "feeder" = some (otherUid, some "10.3.100.90") ∧
      Dict.get? run.1.registrations.bridge "feeder" =
        some ⟨exampleUid, some "10.3.100.90"⟩ ∧
      ¬ BridgeAgrees run.1 := by
  intro before run
  have ends : run.2[2]? = some [.goOn ⟨[("feeder", some "10.3.100.90")],
      [⟨"feeder", otherUid, some "10.3.100.90"⟩], false⟩ [] 0] := by decide
  refine ⟨⟨_, _, ends⟩, by decide, by decide, by decide, ?_⟩
  intro agrees
  obtain ⟨entry, held, identifier, -⟩ := agrees "feeder" otherUid (some "10.3.100.90") (by decide)
    (by decide)
  have known : Dict.get? run.1.registrations.bridge "feeder" =
      some ⟨exampleUid, some "10.3.100.90"⟩ := by decide
  rw [known] at held
  cases held
  exact absurd identifier (by decide)

/-- The registration of the new identifier succeeds. -/
theorem new_identifier_found_by_pass :
    let before := reportCamera 0 exampleUid true ++ reportCamera 1 otherUid true ++ passUpToEnd 2
    EndsIdle (cameraMachine.run ({}, []) before) 2 ∧
      BridgeAgrees (cameraMachine.run ({}, []) before).1 := by
  intro before
  have ends : (cameraMachine.run ({}, []) before).2[2]? =
      some [.goOn ⟨[("feeder", some "10.3.100.90")],
        [⟨"feeder", otherUid, some "10.3.100.90"⟩], false⟩ [] 0] := by decide
  refine ⟨⟨_, _, ends⟩, ?_⟩
  exact idle_passes_find_agreement (before ++ [.advance 2 true]) (by decide) before 2 true
    (List.prefix_refl _) ⟨_, _, ends⟩ (by decide)

end Camera
end PetlibroRelay
