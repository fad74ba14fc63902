import PetlibroRelay.Foundations.Threads
import PetlibroRelay.Presence.CaptureProxy
import PetlibroRelay.Registry.DeviceRegistry
import PetlibroRelay.Upstream.DeviceManager

namespace PetlibroRelay
namespace Registry

open Foundations
open Presence (DevicePresenceTracker)
open Upstream (DeviceManager)

/-!
# Enrolment

How an identity becomes a bridged device.  Three places ask the manager for a
device's context: the restoration at boot, which asks for every bridgeable
identity of the registry, the listener of an opened session, which first looks
whether the identity is bridgeable, and the reconciliation of the cloud
sessions, which only looks at contexts that exist.

Each of these is a sequence of sections under different locks.  The sections
are the jobs of a thread here, so that captures, session ends, supervisor
passes, shutdowns and restarts may come between any two of them.  A thread may
also end early with an exception.
-/

/-- The credentials an upstream client is built with. -/
structure UpstreamClient where
  clientId : String
  username : String
  password : String
  deriving DecidableEq, Repr

/-- A device's context: the identity it was created with, and its client while
a cloud session is maintained. -/
structure ManagedContext where
  identity : DeviceIdentity
  upstreamClient : Option UpstreamClient := none
  deriving DecidableEq, Repr

namespace ManagedContext

def deviceId (context : ManagedContext) : String := context.identity.clientId

def buildUpstreamClient (context : ManagedContext) : UpstreamClient where
  clientId := context.identity.clientId
  username := context.identity.username
  password := context.identity.password

/-- Open the cloud session, if it is not already open. -/
def startUpstream (context : ManagedContext) : ManagedContext :=
  match context.upstreamClient with
  | some _ => context
  | none => { context with upstreamClient := some context.buildUpstreamClient }

def stopUpstream (context : ManagedContext) : ManagedContext :=
  { context with upstreamClient := none }

end ManagedContext

/-- What the threads of the relay share. -/
structure Relay where
  registry : DeviceRegistry
  manager : DeviceManager ManagedContext := {}
  presence : DevicePresenceTracker := {}

/-- The sections a thread goes through. -/
inductive RelayJob where
  | purgeExpired
  | seedManualIdentity (identity : DeviceIdentity)
  | startManager
  | restoreDevices
  | recordIdentity (identity : DeviceIdentity) (peerAddress : String)
  | sessionOpened (identity : DeviceIdentity) (peerAddress : String)
  | checkBridgeable (identity : DeviceIdentity)
  | ensureDevice (identity : DeviceIdentity)
  | startNewDevice (object : Nat) (deviceId : String)
  | syncUpstreamSessions
  | listDevices
  | syncDevice (object : Nat)
  | startUpstream (object : Nat)
  | stopUpstream (object : Nat)
  | sessionClosed (clientId : String)
  deriving DecidableEq, Repr

namespace Relay

/-- Whether the registry lists a client as bridgeable. -/
def isBridgeable (relay : Relay) (now : Rat) (clientId : String) : Bool :=
  (relay.registry.getBridgeable now).any (fun entry => decide (entry.clientId = clientId))

/-- The device of a context. -/
def deviceOf (relay : Relay) (object : Nat) : String :=
  (relay.manager.objects[object]?.map ManagedContext.deviceId).getD ""

/-- One section, and the sections that follow from it. -/
def perform (relay : Relay) (now : Rat) : RelayJob -> Relay × List RelayJob
  | .purgeExpired => ({ relay with registry := (relay.registry.purgeExpired now).1 }, [])
  | .seedManualIdentity identity =>
      ({ relay with registry := (relay.registry.record now identity).1 }, [])
  | .startManager =>
      ({ relay with manager := { relay.manager with started := true } }, [.restoreDevices])
  | .restoreDevices =>
      (relay, (relay.registry.getBridgeable now).map .ensureDevice ++ [.syncUpstreamSessions])
  | .recordIdentity identity peerAddress =>
      ({ relay with registry := (relay.registry.record now identity).1 },
        [.sessionOpened identity peerAddress])
  | .sessionOpened identity peerAddress =>
      ({ relay with
          presence := relay.presence.sessionOpened now identity.clientId (some peerAddress) },
        [.checkBridgeable identity])
  | .checkBridgeable identity =>
      (relay,
        if relay.isBridgeable now identity.clientId then
          [.ensureDevice identity, .syncUpstreamSessions]
        else [])
  | .ensureDevice identity =>
      let ensured := relay.manager.ensureDevice identity.clientId { identity := identity }
      ({ relay with manager := ensured.1 },
        if ensured.2.2 && relay.manager.started then
          [.startNewDevice ensured.2.1 identity.clientId]
        else [])
  | .startNewDevice object deviceId =>
      (relay, if relay.presence.isOnline now deviceId then [.startUpstream object] else [])
  | .syncUpstreamSessions => (relay, if relay.manager.started then [.listDevices] else [])
  | .listDevices =>
      (relay, (relay.manager.listDevices ManagedContext.deviceId).map .syncDevice)
  | .syncDevice object =>
      (relay,
        if relay.presence.isOnline now (relay.deviceOf object) then [.startUpstream object]
        else [.stopUpstream object])
  | .startUpstream object =>
      ({ relay with manager := relay.manager.modify object ManagedContext.startUpstream }, [])
  | .stopUpstream object =>
      ({ relay with manager := relay.manager.modify object ManagedContext.stopUpstream }, [])
  | .sessionClosed clientId =>
      ({ relay with presence := relay.presence.sessionClosed now clientId }, [])

end Relay

/-- What the environment does, and which thread moves next. -/
inductive RelayAction where
  | connect (identity : DeviceIdentity) (peerAddress : String)
  | disconnect (clientId : String)
  | supervise
  | shutdown
  | restart (retentionSeconds : Rat) (autoEnroll : Bool) (manual : Option DeviceIdentity)
  | advance (thread : Nat) (now : Rat)
  | fail (thread : Nat)
  deriving DecidableEq, Repr

/-- The main thread up to the supervisor. -/
def bootJobs (manual : Option DeviceIdentity) : List RelayJob :=
  .purgeExpired :: (manual.toList.map .seedManualIdentity ++ [.startManager])

/-- A relay that has just opened its registry. -/
def boot (registry : DeviceRegistry) (manual : Option DeviceIdentity) :
    Relay × List (List RelayJob) :=
  ({ registry := registry }, [bootJobs manual])

/-- The relay among its threads.  A shutdown forgets the contexts and then stops
their sessions; a restart leaves nothing but the database. -/
def relayMachine : Machine (Relay × List (List RelayJob)) RelayAction where
  step state
    | .connect identity peerAddress =>
        some (state.1, state.2 ++ [[.recordIdentity identity peerAddress]])
    | .disconnect clientId => some (state.1, state.2 ++ [[.sessionClosed clientId]])
    | .supervise => some (state.1, state.2 ++ [[.syncUpstreamSessions]])
    | .shutdown =>
        let stopped := state.1.manager.stop
        some ({ state.1 with manager := stopped.1 },
          state.2 ++ [stopped.2.map .stopUpstream])
    | .restart retentionSeconds autoEnroll manual =>
        some (boot (.openOn state.1.registry.database retentionSeconds autoEnroll) manual)
    | .advance thread now => Threads.advance Relay.perform state thread now
    | .fail thread => some (Threads.abandon state thread)

/-! ## The contexts after each section -/

/-- A context that exists after a section existed before it, up to its client,
or is the new one of an ensured device. -/
theorem context_of_perform {relay : Relay} {now : Rat} {job : RelayJob}
    {context : ManagedContext} (exists_ : context ∈ (relay.perform now job).1.manager.objects) :
    (exists known, known ∈ relay.manager.objects ∧ known.identity = context.identity) ∨
      (job = .ensureDevice context.identity ∧ context.upstreamClient = none) := by
  have modified : forall (object : Nat) (change : ManagedContext -> ManagedContext),
      (forall known, (change known).identity = known.identity) ->
      context ∈ (relay.manager.modify object change).objects ->
      exists known, known ∈ relay.manager.objects ∧ known.identity = context.identity := by
    intro object change same member
    obtain ⟨number, found⟩ := List.mem_iff_getElem?.mp member
    rw [DeviceManager.objects_modify, Option.map_eq_some_iff] at found
    obtain ⟨known, there, rfl⟩ := found
    refine ⟨known, List.mem_of_getElem? there, ?_⟩
    split
    · exact (same known).symm
    · rfl
  cases job with
  | ensureDevice identity =>
      simp only [Relay.perform, DeviceManager.ensureDevice] at exists_
      split at exists_
      · exact Or.inl ⟨context, exists_, rfl⟩
      · rcases List.mem_append.mp exists_ with old | new
        · exact Or.inl ⟨context, old, rfl⟩
        · rw [List.mem_singleton.mp new]
          exact Or.inr ⟨rfl, rfl⟩
  | startUpstream object =>
      refine Or.inl (modified object _ (fun known => ?_) exists_)
      rw [ManagedContext.startUpstream]
      split <;> rfl
  | stopUpstream object =>
      exact Or.inl (modified object ManagedContext.stopUpstream (fun _ => rfl) exists_)
  | _ => exact Or.inl ⟨context, exists_, rfl⟩

/-- A device is only ensured after its identity was found bridgeable. -/
theorem ensureDevice_of_perform {relay : Relay} {now : Rat} {job : RelayJob}
    {identity : DeviceIdentity} (follows : .ensureDevice identity ∈ (relay.perform now job).2) :
    relay.isBridgeable now identity.clientId = true := by
  cases job with
  | restoreDevices =>
      simp only [Relay.perform, List.mem_append, List.mem_map, RelayJob.ensureDevice.injEq,
        exists_eq_right, List.mem_singleton, reduceCtorEq, or_false] at follows
      exact List.any_eq_true.mpr ⟨identity, follows, decide_eq_true rfl⟩
  | checkBridgeable own =>
      simp only [Relay.perform] at follows
      split at follows
      · next bridgeable =>
          simp only [List.mem_cons, RelayJob.ensureDevice.injEq, reduceCtorEq, List.not_mem_nil,
            or_false] at follows
          rw [follows]
          exact bridgeable
      · cases follows
  | listDevices =>
      simp only [Relay.perform, List.mem_map, reduceCtorEq, and_false, exists_false] at follows
  | _ =>
      simp only [Relay.perform] at follows
      first
        | simp only [List.mem_cons, reduceCtorEq, List.not_mem_nil, or_self] at follows
        | split at follows <;>
            simp only [List.mem_cons, reduceCtorEq, List.not_mem_nil, or_self] at follows

/-! ## Auto-enrolment off -/

section NothingNew

variable (allowed : String -> Prop)

/-- A device that is not allowed is not about to get a context. -/
def jobAllowed : RelayJob -> Prop
  | .ensureDevice identity => allowed identity.clientId
  | _ => True

/-- No enrolled row and no context of a device that is not allowed. -/
structure NothingNew (relay : Relay) : Prop where
  off : relay.registry.autoEnroll = false
  rows : forall clientId row, relay.registry.row clientId = some row -> row.enrolled = true ->
    allowed clientId
  contexts : forall context, context ∈ relay.manager.objects -> allowed context.identity.clientId

variable {allowed} {relay : Relay}

theorem NothingNew.bridgeable (nothing : NothingNew allowed relay) {now : Rat}
    {clientId : String} (bridgeable : relay.isBridgeable now clientId = true) :
    allowed clientId := by
  obtain ⟨identity, listed, same⟩ := List.any_eq_true.mp bridgeable
  obtain ⟨own, row, found, enrolled, -, rfl⟩ :=
    (DeviceRegistry.mem_getBridgeable _ _ _).mp listed
  have sameClient : own = clientId := of_decide_eq_true same
  rw [← sameClient]
  exact nothing.rows own row found enrolled

/-- With auto-enrolment off, recording an identity enrols nothing. -/
theorem NothingNew.record (nothing : NothingNew allowed relay) (now : Rat)
    (identity : DeviceIdentity) :
    NothingNew allowed { relay with registry := (relay.registry.record now identity).1 } where
  off := nothing.off
  rows := by
    intro clientId row found enrolled
    rw [DeviceRegistry.row_record] at found
    split at found
    · next same =>
        cases found
        rw [← same]
        cases stored : relay.registry.row identity.clientId with
        | some known =>
            -- The upsert does not touch the status of a row that exists.
            rw [stored] at enrolled
            exact nothing.rows identity.clientId known stored enrolled
        | none =>
            rw [stored] at enrolled
            have fresh : (relay.registry.resolve identity.clientId).1 = .candidate := by
              rw [DeviceRegistry.resolve, DeviceRegistry.statusOf, stored, Option.bind_none,
                nothing.off]
              rfl
            rw [fresh] at enrolled
            cases enrolled
    · exact nothing.rows clientId row found enrolled
  contexts := nothing.contexts

theorem NothingNew.purgeExpired (nothing : NothingNew allowed relay) (now : Rat) :
    NothingNew allowed { relay with registry := (relay.registry.purgeExpired now).1 } where
  off := nothing.off
  rows := by
    intro clientId row found enrolled
    rw [DeviceRegistry.row_purgeExpired, Option.filter_eq_some_iff] at found
    exact nothing.rows clientId row found.1 enrolled
  contexts := nothing.contexts

/-- One section of a thread. -/
theorem NothingNew.perform (nothing : NothingNew allowed relay) (now : Rat) {job : RelayJob}
    (fits : jobAllowed allowed job) : NothingNew allowed (relay.perform now job).1 := by
  have contexts : forall context, context ∈ (relay.perform now job).1.manager.objects ->
      allowed context.identity.clientId := by
    intro context member
    rcases context_of_perform member with ⟨known, there, same⟩ | ⟨ensured, -⟩
    · rw [← same]
      exact nothing.contexts known there
    · rw [ensured] at fits
      exact fits
  cases job with
  | purgeExpired => exact nothing.purgeExpired now
  | seedManualIdentity identity => exact nothing.record now identity
  | recordIdentity identity peerAddress => exact nothing.record now identity
  | _ => exact ⟨nothing.off, nothing.rows, contexts⟩

theorem NothingNew.next (nothing : NothingNew allowed relay) {now : Rat} {job next : RelayJob}
    (follows : next ∈ (relay.perform now job).2) : jobAllowed allowed next := by
  cases next with
  | ensureDevice identity => exact nothing.bridgeable (ensureDevice_of_perform follows)
  | _ => trivial

theorem jobAllowed_boot (manual : Option DeviceIdentity) :
    Threads.AllPending (jobAllowed allowed) [bootJobs manual] := by
  intro thread member job pending
  rw [List.mem_singleton.mp member, bootJobs] at pending
  simp only [List.mem_cons, List.mem_append, List.mem_map, List.not_mem_nil, or_false] at pending
  rcases pending with rfl | ⟨identity, -, rfl⟩ | rfl <;> trivial

end NothingNew

/-- Every opening of the registry has auto-enrolment off. -/
def opensWithoutEnrolment : RelayAction -> Bool
  | .restart _ autoEnroll _ => !autoEnroll
  | _ => true

/-- What the relay and its threads have, with nothing new. -/
def Closed (allowed : String -> Prop) (state : Relay × List (List RelayJob)) : Prop :=
  NothingNew allowed state.1 ∧ Threads.AllPending (jobAllowed allowed) state.2

theorem closed_step {allowed : String -> Prop} {state after : Relay × List (List RelayJob)}
    {action : RelayAction} (closed : Closed allowed state)
    (off : opensWithoutEnrolment action = true)
    (moved : relayMachine.step state action = some after) : Closed allowed after := by
  obtain ⟨nothing, pending⟩ := closed
  cases action with
  | connect identity peerAddress =>
      cases moved
      exact ⟨nothing, pending.concat_singleton trivial⟩
  | disconnect clientId =>
      cases moved
      exact ⟨nothing, pending.concat_singleton trivial⟩
  | supervise =>
      cases moved
      exact ⟨nothing, pending.concat_singleton trivial⟩
  | shutdown =>
      cases moved
      refine ⟨⟨nothing.off, nothing.rows, nothing.contexts⟩, pending.concat (fun job member => ?_)⟩
      obtain ⟨object, -, rfl⟩ := List.mem_map.mp member
      trivial
  | restart retentionSeconds autoEnroll manual =>
      cases moved
      refine ⟨⟨?_, ?_, ?_⟩, jobAllowed_boot manual⟩
      · exact (Bool.not_eq_true' autoEnroll).mp off
      · intro clientId row found enrolled
        rw [boot, DeviceRegistry.row_openOn] at found
        exact nothing.rows clientId row found enrolled
      · exact fun _ member => absurd member List.not_mem_nil
  | advance thread now =>
      obtain ⟨job, rest, found, -, rfl⟩ := Threads.advance_eq_some moved
      refine ⟨nothing.perform now (pending.head found), pending.continued found ?_⟩
      exact fun next follows => nothing.next follows
  | fail thread =>
      cases moved
      exact ⟨nothing, pending.abandoned thread⟩

/-- With auto-enrolment off at every opening, every device that has a context,
and so every device with a cloud session, was known and enabled in the registry
the relay was first started with. -/
theorem bridged_devices_were_enrolled (registry : DeviceRegistry)
    (off : registry.autoEnroll = false) (manual : Option DeviceIdentity)
    (actions : List RelayAction)
    (openings : relayMachine.Meets (fun _ action => opensWithoutEnrolment action = true)
      (boot registry manual) actions) (context : ManagedContext)
    (bridged : context ∈ (relayMachine.run (boot registry manual) actions).1.manager.objects) :
    exists row, registry.row context.deviceId = some row ∧ row.status = some .known ∧
      row.enabled = some 1 := by
  have closed : Closed
      (fun clientId => exists row, registry.row clientId = some row ∧ row.enrolled = true)
      (relayMachine.run (boot registry manual) actions) := by
    apply relayMachine.run_invariant_of_meets
      (fun _ action => opensWithoutEnrolment action = true) (Closed _)
    · intro state action after before keeps moved
      exact closed_step before keeps moved
    · refine ⟨⟨off, fun clientId row found enrolled => ⟨row, found, enrolled⟩, ?_⟩,
        jobAllowed_boot manual⟩
      exact fun _ member => absurd member List.not_mem_nil
    · exact openings
  obtain ⟨row, found, enrolled⟩ := closed.1.contexts context bridged
  rw [IdentityRow.enrolled, Bool.and_eq_true, decide_eq_true_eq, decide_eq_true_eq] at enrolled
  exact ⟨row, found, enrolled⟩

/-- A registry that enrolled one feeder, opened again with auto-enrolment off. -/
def enrolledOnce : DeviceRegistry :=
  .openOn ((DeviceRegistry.openOn emptyDatabase 259200 true).record 0 waitingFeeder).1.database
    259200 false

/-- The relay restores the enrolled feeder while a stranger connects. -/
def restoredWhileStrangerConnects : List RelayAction :=
  [.connect ⟨"stranger", "user", "guess", "PLAF203"⟩ "10.3.100.9", .advance 0 1, .advance 0 1,
    .advance 1 1, .advance 1 1, .advance 1 1, .advance 0 2, .advance 0 2]

theorem restored_feeder_was_enrolled :
    { identity := waitingFeeder } ∈
        (relayMachine.run (boot enrolledOnce none) restoredWhileStrangerConnects).1.manager.objects ∧
      exists row, enrolledOnce.row "feeder" = some row ∧ row.status = some .known ∧
        row.enabled = some 1 :=
  ⟨by decide +kernel, bridged_devices_were_enrolled enrolledOnce rfl none
    restoredWhileStrangerConnects (by decide +kernel) { identity := waitingFeeder }
    (by decide +kernel)⟩

end Registry
end PetlibroRelay
