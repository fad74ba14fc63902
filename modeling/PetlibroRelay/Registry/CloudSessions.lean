import Mathlib.Data.List.Sort
import PetlibroRelay.Registry.Enrolment

namespace PetlibroRelay
namespace Registry

open Foundations
open Presence (DevicePresenceTracker)
open Upstream (DeviceManager)

/-!
# Cloud sessions and local presence

A cloud session is held in the name of a feeder that is present locally or was so a
moment ago.  Every pass over the bridged devices reads the presence of each and then
opens or closes its session, and the passes of the supervisor and of new connections go
on side by side.  A pass may therefore act on what it has read before a feeder came or
went.

While what is read of a feeder stays the same, and nothing is pending that was decided
otherwise, a session that agrees with it stays as it is and one complete pass brings any
other in line.  A session is never opened for a feeder that the relay was not told of.
-/

/-- Whether the cloud session of a context is open. -/
def Relay.isOpen (relay : Relay) (object : Nat) : Bool :=
  relay.manager.objects[object]?.any (fun context => context.upstreamClient.isSome)

/-- Whether the session of a bridged device is open. -/
def Relay.sessionOpen (relay : Relay) (device : String) : Option Bool :=
  (relay.manager.getByDeviceId device).map relay.isOpen

/-- What is done about a context after its device was found present or not. -/
def decision (present : Bool) (object : Nat) : RelayJob :=
  if present then .startUpstream object else .stopUpstream object

/-- The relay goes on, nothing but the given value is read of the device, and the thread
does not end early. -/
def Steady (device : String) (present : Bool) (number : Nat)
    (state : Relay × List (List RelayJob)) : RelayAction -> Prop
  | .advance _ now => state.1.presence.isOnline now device = present
  | .shutdown => False
  | .restart _ _ _ => False
  | .fail thread => thread ≠ number
  | _ => True

instance steadyDecidable (device : String) (present : Bool) (number : Nat)
    (state : Relay × List (List RelayJob)) :
    (action : RelayAction) -> Decidable (Steady device present number state action)
  | .advance _ now => inferInstanceAs (Decidable (state.1.presence.isOnline now device = present))
  | .shutdown => isFalse id
  | .restart _ _ _ => isFalse id
  | .fail thread => inferInstanceAs (Decidable (thread ≠ number))
  | .connect _ _ => isTrue trivial
  | .disconnect _ => isTrue trivial
  | .supervise => isTrue trivial

/-! ## Contexts and their devices -/

/-- The context is one of the device. -/
def Relay.Owns (relay : Relay) (device : String) (object : Nat) : Prop :=
  exists context, relay.manager.objects[object]? = some context ∧ context.deviceId = device

theorem Relay.Owns.deviceOf {relay : Relay} {device : String} {object : Nat}
    (owns : relay.Owns device object) : relay.deviceOf object = device := by
  obtain ⟨context, there, rfl⟩ := owns
  rw [Relay.deviceOf, there]
  rfl

/-- A device that is told beside a context is that of the context, and a pass comes to
contexts that exist. -/
def NamesItsDevice (relay : Relay) : RelayJob -> Prop
  | .startNewDevice object device => relay.Owns device object
  | .syncDevice object => exists device, relay.Owns device object
  | _ => True

section Sections

variable {relay : Relay} {now : Rat} {job : RelayJob}

theorem objects_perform_startUpstream (object other : Nat) :
    (relay.perform now (.startUpstream object)).1.manager.objects[other]? =
      relay.manager.objects[other]?.map (fun context =>
        if object = other then context.startUpstream else context) :=
  DeviceManager.objects_modify _ _ _ _

theorem objects_perform_stopUpstream (object other : Nat) :
    (relay.perform now (.stopUpstream object)).1.manager.objects[other]? =
      relay.manager.objects[other]?.map (fun context =>
        if object = other then context.stopUpstream else context) :=
  DeviceManager.objects_modify _ _ _ _

theorem deviceId_startUpstream (context : ManagedContext) :
    context.startUpstream.deviceId = context.deviceId := by
  rw [ManagedContext.startUpstream]
  split
  · rfl
  · rfl

/-- Contexts stay those of their devices. -/
theorem Relay.Owns.perform {device : String} {object : Nat} (owns : relay.Owns device object)
    (now : Rat) (job : RelayJob) : (relay.perform now job).1.Owns device object := by
  obtain ⟨context, there, own⟩ := owns
  cases job with
  | ensureDevice identity => exact ⟨context, DeviceManager.objects_ensureDevice there, own⟩
  | startUpstream other =>
      refine ⟨_, by rw [objects_perform_startUpstream, there, Option.map_some], ?_⟩
      split
      · exact (deviceId_startUpstream context).trans own
      · exact own
  | stopUpstream other =>
      refine ⟨_, by rw [objects_perform_stopUpstream, there, Option.map_some], ?_⟩
      split
      · exact own
      · exact own
  | _ => exact ⟨context, there, own⟩

theorem mem_contexts_perform {entry : String × Nat}
    (entries : forall entry, entry ∈ relay.manager.contexts -> relay.Owns entry.1 entry.2)
    (member : entry ∈ (relay.perform now job).1.manager.contexts) :
    (relay.perform now job).1.Owns entry.1 entry.2 := by
  have old : entry ∈ relay.manager.contexts -> (relay.perform now job).1.Owns entry.1 entry.2 :=
    fun known => (entries entry known).perform now job
  cases job with
  | ensureDevice identity =>
      cases known : Dict.get? relay.manager.contexts identity.clientId with
      | some object =>
          simp only [Relay.perform, DeviceManager.ensureDevice, known] at member
          exact old member
      | none =>
          simp only [Relay.perform, DeviceManager.ensureDevice, known] at member
          rcases Dict.mem_set member with before | new
          · exact old before
          · rw [new]
            refine ⟨{ identity := identity }, ?_, rfl⟩
            simp only [Relay.perform, DeviceManager.ensureDevice, known]
            exact List.getElem?_concat_length
  | _ => exact old member

/-- The sections that can follow from a section, and on what grounds. -/
inductive Follows (relay : Relay) (now : Rat) : RelayJob -> RelayJob -> Prop
  | restores : Follows relay now .startManager .restoreDevices
  | recorded (identity : DeviceIdentity) (peerAddress : String) :
      Follows relay now (.recordIdentity identity peerAddress) (.sessionOpened identity peerAddress)
  | opened (identity : DeviceIdentity) (peerAddress : String) :
      Follows relay now (.sessionOpened identity peerAddress) (.checkBridgeable identity)
  | ensures (job : RelayJob) (identity : DeviceIdentity) :
      Follows relay now job (.ensureDevice identity)
  | passes (job : RelayJob) : Follows relay now job .syncUpstreamSessions
  | bridged (identity : DeviceIdentity) :
      Follows relay now (.ensureDevice identity)
        (.startNewDevice (relay.manager.ensureDevice identity.clientId { identity := identity }).2.1
          identity.clientId)
  | lists : Follows relay now .syncUpstreamSessions .listDevices
  | comesTo (object : Nat) (listed : object ∈ relay.manager.listDevices ManagedContext.deviceId) :
      Follows relay now .listDevices (.syncDevice object)
  | decidesNew (object : Nat) (device : String)
      (online : relay.presence.isOnline now device = true) :
      Follows relay now (.startNewDevice object device) (decision true object)
  | decides (object : Nat) :
      Follows relay now (.syncDevice object)
        (decision (relay.presence.isOnline now (relay.deviceOf object)) object)

theorem follows_of_perform {next : RelayJob} (member : next ∈ (relay.perform now job).2) :
    Follows relay now job next := by
  cases job with
  | purgeExpired => cases member
  | seedManualIdentity identity => cases member
  | startManager => rw [List.mem_singleton.mp member]; exact .restores
  | restoreDevices =>
      rcases List.mem_append.mp member with ensured | passed
      · obtain ⟨identity, -, rfl⟩ := List.mem_map.mp ensured
        exact .ensures _ identity
      · rw [List.mem_singleton.mp passed]
        exact .passes _
  | recordIdentity identity peerAddress =>
      rw [List.mem_singleton.mp member]
      exact .recorded identity peerAddress
  | sessionOpened identity peerAddress =>
      rw [List.mem_singleton.mp member]
      exact .opened identity peerAddress
  | checkBridgeable identity =>
      rw [Relay.perform] at member
      split at member
      · simp only [List.mem_cons, List.not_mem_nil, or_false] at member
        rcases member with rfl | rfl
        · exact .ensures _ identity
        · exact .passes _
      · cases member
  | ensureDevice identity =>
      simp only [Relay.perform] at member
      split at member
      · rw [List.mem_singleton.mp member]
        exact .bridged identity
      · cases member
  | startNewDevice object device =>
      rw [Relay.perform] at member
      split at member
      · next online =>
          rw [List.mem_singleton.mp member]
          exact .decidesNew object device online
      · cases member
  | syncUpstreamSessions =>
      rw [Relay.perform] at member
      split at member
      · rw [List.mem_singleton.mp member]
        exact .lists
      · cases member
  | listDevices =>
      obtain ⟨object, listed, rfl⟩ := List.mem_map.mp member
      exact .comesTo object listed
  | syncDevice object =>
      have decided : next = decision (relay.presence.isOnline now (relay.deviceOf object)) object := by
        rw [Relay.perform] at member
        rw [decision]
        split at member
        · next online => rw [List.mem_singleton.mp member, if_pos online]
        · next offline => rw [List.mem_singleton.mp member, if_neg offline]
      rw [decided]
      exact .decides object
  | startUpstream object => cases member
  | stopUpstream object => cases member
  | sessionClosed clientId => cases member

theorem decision_inj {first second : Bool} {object other : Nat}
    (same : decision first object = decision second other) : first = second ∧ object = other := by
  cases first <;> cases second
  · exact ⟨rfl, RelayJob.stopUpstream.inj same⟩
  · cases same
  · cases same
  · exact ⟨rfl, RelayJob.startUpstream.inj same⟩

/-- The jobs that are about a context are about one that exists. -/
theorem namesItsDevice_of_perform (entries : forall entry, entry ∈ relay.manager.contexts ->
      relay.Owns entry.1 entry.2)
    {next : RelayJob} (member : next ∈ (relay.perform now job).2) :
    NamesItsDevice (relay.perform now job).1 next := by
  have follows := follows_of_perform member
  clear member
  cases follows with
  | bridged identity =>
      have keyed : relay.manager.Keyed ManagedContext.deviceId :=
        fun device object found => entries (device, object) (Dict.mem_of_get?_eq_some found)
      have later : (relay.manager.ensureDevice identity.clientId
          { identity := identity }).1.Keyed ManagedContext.deviceId :=
        keyed.ensureDevice rfl
      exact later identity.clientId _
        (DeviceManager.contexts_ensureDevice_self relay.manager identity.clientId _)
  | comesTo object listed =>
      rw [DeviceManager.listDevices, List.mem_insertionSort] at listed
      obtain ⟨entry, there, rfl⟩ := List.mem_map.mp listed
      exact ⟨entry.1, entries entry there⟩
  | decidesNew object device online => trivial
  | decides object =>
      rw [decision]
      split
      · trivial
      · trivial
  | _ => trivial

/-- What decides a session has read the presence of its device. -/
theorem decision_of_perform (names : NamesItsDevice relay job) {device : String} {object : Nat}
    (owns : relay.Owns device object) {present : Bool}
    (member : decision present object ∈ (relay.perform now job).2) :
    relay.presence.isOnline now device = present := by
  have follows := follows_of_perform member
  generalize decided : decision present object = next at follows
  have isDecision : next = .startUpstream object ∨ next = .stopUpstream object := by
    rw [← decided, decision]
    split
    · exact .inl rfl
    · exact .inr rfl
  cases follows with
  | decidesNew other own online =>
      obtain ⟨rfl, rfl⟩ := decision_inj decided
      rw [← owns.deviceOf, Relay.Owns.deviceOf names]
      exact online
  | decides other =>
      obtain ⟨rfl, rfl⟩ := decision_inj decided
      rw [owns.deviceOf]
  | _ => simp only [reduceCtorEq, or_self] at isDecision

/-- A section changes a session only by what was decided about it. -/
theorem isOpen_perform {device : String} {object : Nat} (owns : relay.Owns device object)
    {present : Bool} (agrees : job ≠ decision (!present) object)
    (reached : relay.isOpen object = present ∨ job = decision present object) :
    (relay.perform now job).1.isOpen object = present := by
  obtain ⟨context, there, -⟩ := owns
  have unchanged : (relay.perform now job).1.manager.objects[object]? = some context ->
      job ≠ decision present object -> (relay.perform now job).1.isOpen object = present := by
    intro same other
    rcases reached with before | decided
    · rw [Relay.isOpen, there] at before
      rw [Relay.isOpen, same]
      exact before
    · exact absurd decided other
  cases job with
  | ensureDevice identity =>
      refine unchanged (DeviceManager.objects_ensureDevice there) ?_
      cases present with
      | true => rintro ⟨⟩
      | false => rintro ⟨⟩
  | startUpstream other =>
      by_cases own : other = object
      · subst own
        cases present with
        | true =>
            rw [Relay.isOpen, objects_perform_startUpstream, there, Option.map_some, if_pos rfl,
              Option.any_some, ManagedContext.startUpstream]
            split
            · next client known => rw [known]; rfl
            · rfl
        | false => exact absurd rfl agrees
      · refine unchanged ?_ ?_
        · rw [objects_perform_startUpstream, there, Option.map_some, if_neg own]
        · cases present with
          | true => exact fun same => own (RelayJob.startUpstream.inj same)
          | false => rintro ⟨⟩
  | stopUpstream other =>
      by_cases own : other = object
      · subst own
        cases present with
        | true => exact absurd rfl agrees
        | false =>
            rw [Relay.isOpen, objects_perform_stopUpstream, there, Option.map_some, if_pos rfl]
            rfl
      · refine unchanged ?_ ?_
        · rw [objects_perform_stopUpstream, there, Option.map_some, if_neg own]
        · cases present with
          | true => rintro ⟨⟩
          | false => exact fun same => own (RelayJob.stopUpstream.inj same)
  | _ =>
      refine unchanged there ?_
      cases present with
      | true => rintro ⟨⟩
      | false => rintro ⟨⟩

end Sections

/-! ## Whole runs -/

/-- The contexts of the map are those of their devices, also where a thread tells the
device beside the context. -/
structure Placed (state : Relay × List (List RelayJob)) : Prop where
  entries : forall entry, entry ∈ state.1.manager.contexts -> state.1.Owns entry.1 entry.2
  named : Threads.AllPending (NamesItsDevice state.1) state.2

theorem namesItsDevice_perform {relay : Relay} {job other : RelayJob} {now : Rat}
    (names : NamesItsDevice relay other) : NamesItsDevice (relay.perform now job).1 other := by
  cases other with
  | startNewDevice object device => exact Relay.Owns.perform names now job
  | syncDevice object =>
      obtain ⟨device, owns⟩ := names
      exact ⟨device, owns.perform now job⟩
  | _ => trivial

theorem placed_boot (registry : DeviceRegistry) (manual : Option DeviceIdentity) :
    Placed (boot registry manual) where
  entries := by rintro entry ⟨⟩
  named := by
    intro thread member job pending
    rw [List.mem_singleton.mp member, bootJobs] at pending
    simp only [List.mem_cons, List.mem_append, List.mem_map, List.not_mem_nil, or_false] at pending
    rcases pending with rfl | ⟨identity, -, rfl⟩ | rfl
    · trivial
    · trivial
    · trivial

theorem Placed.step {state after : Relay × List (List RelayJob)} {action : RelayAction}
    (placed : Placed state) (moved : relayMachine.step state action = some after) :
    Placed after := by
  obtain ⟨entries, named⟩ := placed
  cases action with
  | connect identity peerAddress => cases moved; exact ⟨entries, named.concat_singleton trivial⟩
  | disconnect clientId => cases moved; exact ⟨entries, named.concat_singleton trivial⟩
  | supervise => cases moved; exact ⟨entries, named.concat_singleton trivial⟩
  | shutdown =>
      cases moved
      refine ⟨by rintro entry ⟨⟩, named.concat (fun job member => ?_)⟩
      obtain ⟨object, -, rfl⟩ := List.mem_map.mp member
      trivial
  | restart retentionSeconds autoEnroll manual => cases moved; exact placed_boot _ manual
  | advance thread now =>
      obtain ⟨job, rest, found, -, rfl⟩ := Threads.advance_eq_some moved
      refine ⟨fun entry member => mem_contexts_perform entries member, ?_⟩
      exact (named.imp fun _ names => namesItsDevice_perform names).continued found
        fun next member => namesItsDevice_of_perform entries member
  | fail thread => cases moved; exact ⟨entries, named.abandoned thread⟩

theorem placed_run (registry : DeviceRegistry) (manual : Option DeviceIdentity)
    (actions : List RelayAction) : Placed (relayMachine.run (boot registry manual) actions) :=
  relayMachine.run_invariant Placed (fun _ _ _ placed moved => placed.step moved) _ actions
    (placed_boot registry manual)

/-! ## While nothing changes for a device -/

section Steadily

variable {device : String} {object : Nat} {present : Bool}
  {state after : Relay × List (List RelayJob)}

/-- The device is bridged, and nothing is pending that was decided otherwise. -/
structure Undisputed (device : String) (object : Nat) (present : Bool)
    (state : Relay × List (List RelayJob)) : Prop where
  placed : Placed state
  bridged : Dict.get? state.1.manager.contexts device = some object
  started : state.1.manager.started = true
  undecided : Threads.AllPending (fun job => job ≠ decision (!present) object) state.2

theorem Undisputed.owns (undisputed : Undisputed device object present state) :
    state.1.Owns device object :=
  undisputed.placed.entries _ (Dict.mem_of_get?_eq_some undisputed.bridged)

theorem contexts_perform {relay : Relay} {now : Rat} {job : RelayJob}
    (known : Dict.get? relay.manager.contexts device = some object) :
    Dict.get? (relay.perform now job).1.manager.contexts device = some object := by
  cases job with
  | ensureDevice identity => exact DeviceManager.contexts_ensureDevice known
  | _ => exact known

theorem started_perform {relay : Relay} {now : Rat} {job : RelayJob}
    (started : relay.manager.started = true) :
    (relay.perform now job).1.manager.started = true := by
  cases job with
  | startManager => rfl
  | ensureDevice identity =>
      simp only [Relay.perform, DeviceManager.ensureDevice]
      split
      · exact started
      · exact started
  | _ => exact started

theorem Undisputed.step {number : Nat} {action : RelayAction}
    (undisputed : Undisputed device object present state)
    (steady : Steady device present number state action)
    (moved : relayMachine.step state action = some after) :
    Undisputed device object present after := by
  have placed := undisputed.placed.step moved
  have bridged := undisputed.bridged
  have started := undisputed.started
  have undecided := undisputed.undecided
  have plain : forall job, job ∈ [RelayJob.syncUpstreamSessions] ->
      job ≠ decision (!present) object := by
    intro job member
    rw [List.mem_singleton.mp member, decision]
    split
    · rintro ⟨⟩
    · rintro ⟨⟩
  cases action with
  | connect identity peerAddress =>
      cases moved
      refine ⟨placed, bridged, started, undecided.concat_singleton ?_⟩
      rw [decision]
      split
      · rintro ⟨⟩
      · rintro ⟨⟩
  | disconnect clientId =>
      cases moved
      refine ⟨placed, bridged, started, undecided.concat_singleton ?_⟩
      rw [decision]
      split
      · rintro ⟨⟩
      · rintro ⟨⟩
  | supervise => cases moved; exact ⟨placed, bridged, started, undecided.concat plain⟩
  | shutdown => exact steady.elim
  | restart retentionSeconds autoEnroll manual => exact steady.elim
  | advance thread now =>
      obtain ⟨job, rest, found, -, rfl⟩ := Threads.advance_eq_some moved
      refine ⟨placed, contexts_perform bridged, started_perform started,
        undecided.continued found fun next follows => ?_⟩
      rintro rfl
      have read := decision_of_perform (undisputed.placed.named.head found) undisputed.owns follows
      rw [show state.1.presence.isOnline now device = present from steady] at read
      exact absurd read (by cases present <;> decide)
  | fail thread => cases moved; exact ⟨placed, bridged, started, undecided.abandoned thread⟩

/-- A session that agrees stays as it is. -/
theorem Undisputed.isOpen_step {number : Nat} {action : RelayAction}
    (undisputed : Undisputed device object present state)
    (steady : Steady device present number state action)
    (agrees : state.1.isOpen object = present)
    (moved : relayMachine.step state action = some after) : after.1.isOpen object = present := by
  cases action with
  | advance thread now =>
      obtain ⟨job, rest, found, -, rfl⟩ := Threads.advance_eq_some moved
      exact isOpen_perform undisputed.owns (undisputed.undecided.head found) (.inl agrees)
  | shutdown => exact steady.elim
  | restart retentionSeconds autoEnroll manual => exact steady.elim
  | connect identity peerAddress => cases moved; exact agrees
  | disconnect clientId => cases moved; exact agrees
  | supervise => cases moved; exact agrees
  | fail thread => cases moved; exact agrees

/-! ## A pass -/

/-- The jobs by which a pass comes to the session of a context. -/
def leadsTo (object : Nat) (present : Bool) : List RelayJob :=
  [.syncUpstreamSessions, .listDevices, .syncDevice object, decision present object]

/-- The thread has still to come to the session, or the session agrees. -/
def OnTheWay (object : Nat) (present : Bool) (number : Nat)
    (state : Relay × List (List RelayJob)) : Prop :=
  state.1.isOpen object = present ∨
    exists jobs job, state.2[number]? = some jobs ∧ job ∈ jobs ∧ job ∈ leadsTo object present

/-- Each of these jobs leads to the next, and the last one to the session. -/
theorem leadsTo_perform (undisputed : Undisputed device object present state) {job : RelayJob}
    {now : Rat} (read : state.1.presence.isOnline now device = present)
    (agrees : job ≠ decision (!present) object) (leads : job ∈ leadsTo object present) :
    (state.1.perform now job).1.isOpen object = present ∨
      exists next, next ∈ (state.1.perform now job).2 ∧ next ∈ leadsTo object present := by
  simp only [leadsTo, List.mem_cons, List.not_mem_nil, or_false] at leads
  rcases leads with rfl | rfl | rfl | rfl
  · refine .inr ⟨.listDevices, ?_, by simp [leadsTo]⟩
    rw [Relay.perform, if_pos undisputed.started]
    exact List.mem_cons_self
  · refine .inr ⟨.syncDevice object, ?_, by simp [leadsTo]⟩
    exact List.mem_map.mpr
      ⟨object, DeviceManager.mem_listDevices ManagedContext.deviceId undisputed.bridged, rfl⟩
  · refine .inr ⟨decision present object, ?_, by simp [leadsTo]⟩
    rw [Relay.perform, undisputed.owns.deviceOf, read, decision]
    split
    · exact List.mem_cons_self
    · exact List.mem_cons_self
  · exact .inl (isOpen_perform undisputed.owns agrees (.inr rfl))

theorem OnTheWay.step {number : Nat} {action : RelayAction}
    (onTheWay : OnTheWay object present number state)
    (undisputed : Undisputed device object present state)
    (steady : Steady device present number state action)
    (moved : relayMachine.step state action = some after) :
    OnTheWay object present number after := by
  rcases onTheWay with agrees | ⟨jobs, job, own, pending, leads⟩
  · exact .inl (undisputed.isOpen_step steady agrees moved)
  have inside : number < state.2.length := (List.getElem?_eq_some_iff.mp own).1
  have kept : forall jobs', (state.2 ++ [jobs'])[number]? = some jobs := by
    intro jobs'
    rw [List.getElem?_append_left inside]
    exact own
  cases action with
  | connect identity peerAddress =>
      cases moved
      exact .inr ⟨jobs, job, kept _, pending, leads⟩
  | disconnect clientId =>
      cases moved
      exact .inr ⟨jobs, job, kept _, pending, leads⟩
  | supervise =>
      cases moved
      exact .inr ⟨jobs, job, kept _, pending, leads⟩
  | shutdown => exact steady.elim
  | restart retentionSeconds autoEnroll manual => exact steady.elim
  | fail thread =>
      cases moved
      refine .inr ⟨jobs, job, ?_, pending, leads⟩
      exact (List.getElem?_set_ne steady).trans own
  | advance thread now =>
      obtain ⟨first, rest, found, -, rfl⟩ := Threads.advance_eq_some moved
      by_cases same : thread = number
      · subst same
        rw [own, Option.some.injEq] at found
        subst found
        rcases List.mem_cons.mp pending with rfl | later
        · rcases leadsTo_perform undisputed steady (undisputed.undecided.head own) leads with
            agrees | ⟨next, follows, leadsOn⟩
          · exact .inl agrees
          · exact .inr ⟨_, next, List.getElem?_set_self inside, List.mem_append_left _ follows,
              leadsOn⟩
        · exact .inr ⟨_, job, List.getElem?_set_self inside, List.mem_append_right _ later, leads⟩
      · exact .inr ⟨jobs, job, (List.getElem?_set_ne same).trans own, pending, leads⟩

theorem sessionOpen_of_undisputed (undisputed : Undisputed device object present state)
    (agrees : state.1.isOpen object = present) : state.1.sessionOpen device = some present := by
  rw [Relay.sessionOpen, DeviceManager.getByDeviceId, undisputed.bridged, Option.map_some, agrees]

end Steadily

/-! ## Feeders that were never there -/

section Unseen

variable {device : String} {state after : Relay × List (List RelayJob)}

/-- No session of the device is open, and none is about to be. -/
structure Unseen (device : String) (state : Relay × List (List RelayJob)) : Prop where
  closed : forall (object : Nat) (context : ManagedContext),
    state.1.manager.objects[object]? = some context -> context.deviceId = device ->
      context.upstreamClient = none
  undecided : Threads.AllPending (fun job => forall object, job = .startUpstream object ->
    exists other, state.1.Owns other object ∧ other ≠ device) state.2

theorem record_of_perform {relay : Relay} {now : Rat} {job : RelayJob}
    (unknown : (relay.perform now job).1.presence.record device = none) :
    relay.presence.record device = none := by
  cases job with
  | sessionOpened identity peerAddress =>
      simp only [Relay.perform, DevicePresenceTracker.record, DevicePresenceTracker.sessionOpened,
        Dict.get?_set] at unknown
      split at unknown
      · cases unknown
      · exact unknown
  | sessionClosed clientId =>
      simp only [Relay.perform, DevicePresenceTracker.record, DevicePresenceTracker.sessionClosed,
        Dict.get?_set] at unknown
      split at unknown
      · cases unknown
      · exact unknown
  | _ => exact unknown

/-- What decides to open a session is not about a device without a record. -/
theorem startUpstream_of_perform {relay : Relay} {now : Rat} {job : RelayJob} {object : Nat}
    (names : NamesItsDevice relay job) (unknown : relay.presence.record device = none)
    (member : .startUpstream object ∈ (relay.perform now job).2) :
    exists other, relay.Owns other object ∧ other ≠ device := by
  have offline : relay.presence.isOnline now device = false := by
    rw [DevicePresenceTracker.isOnline, unknown]
  have follows := follows_of_perform member
  have starts : exists other, relay.Owns other object ∧
      relay.presence.isOnline now other = true := by
    generalize decided : RelayJob.startUpstream object = next at follows
    cases follows with
    | decidesNew other own online =>
        obtain ⟨-, rfl⟩ := @decision_inj true true object other decided
        exact ⟨own, names, online⟩
    | decides other =>
        obtain ⟨online, rfl⟩ := @decision_inj true _ object other decided
        obtain ⟨own, owns⟩ := names
        rw [owns.deviceOf] at online
        exact ⟨own, owns, online.symm⟩
    | _ => cases decided
  obtain ⟨other, owns, online⟩ := starts
  refine ⟨other, owns, ?_⟩
  rintro rfl
  rw [offline] at online
  cases online

theorem Unseen.perform {number : Nat} {now : Rat} {job : RelayJob} {rest : List RelayJob}
    (unseen : Unseen device state) (placed : Placed state)
    (unknown : state.1.presence.record device = none)
    (found : state.2[number]? = some (job :: rest)) :
    Unseen device ((state.1.perform now job).1,
      state.2.set number ((state.1.perform now job).2 ++ rest)) where
  closed := by
    intro object context there own
    dsimp only at there
    cases job with
    | ensureDevice identity =>
        simp only [Relay.perform, DeviceManager.ensureDevice] at there
        split at there
        · exact unseen.closed object context there own
        · rcases List.mem_append.mp (List.mem_of_getElem? there) with old | new
          · obtain ⟨place, known⟩ := List.mem_iff_getElem?.mp old
            exact unseen.closed place context known own
          · rw [List.mem_singleton.mp new]
    | startUpstream other =>
        rw [objects_perform_startUpstream, Option.map_eq_some_iff] at there
        obtain ⟨known, before, rfl⟩ := there
        split at own
        · next same =>
            subst same
            obtain ⟨owner, ⟨context, held, rfl⟩, different⟩ :=
              unseen.undecided.head found other rfl
            rw [before, Option.some.injEq] at held
            subst held
            exact absurd ((deviceId_startUpstream known).symm.trans own) different
        · next different =>
            rw [if_neg different]
            exact unseen.closed object known before own
    | stopUpstream other =>
        rw [objects_perform_stopUpstream, Option.map_eq_some_iff] at there
        obtain ⟨known, before, rfl⟩ := there
        split
        · rfl
        · next different =>
            rw [if_neg different] at own
            exact unseen.closed object known before own
    | _ => exact unseen.closed object context there own
  undecided := by
    refine (unseen.undecided.imp fun pending about object same => ?_).continued found
      fun next member object same => ?_
    · obtain ⟨other, owns, different⟩ := about object same
      exact ⟨other, owns.perform now job, different⟩
    · subst same
      obtain ⟨other, owns, different⟩ :=
        startUpstream_of_perform (placed.named.head found) unknown member
      exact ⟨other, owns.perform now job, different⟩

theorem unseen_boot (device : String) (registry : DeviceRegistry)
    (manual : Option DeviceIdentity) : Unseen device (boot registry manual) where
  closed := by rintro object context ⟨⟩
  undecided := by
    intro thread member job pending object same
    rw [List.mem_singleton.mp member, bootJobs] at pending
    simp only [same, List.mem_cons, List.mem_append, List.mem_map, List.not_mem_nil,
      reduceCtorEq, and_false, exists_false, or_self] at pending

theorem Unseen.step {action : RelayAction} (placed : Placed state)
    (unseen : state.1.presence.record device = none -> Unseen device state)
    (moved : relayMachine.step state action = some after)
    (unknown : after.1.presence.record device = none) : Unseen device after := by
  cases action with
  | connect identity peerAddress =>
      cases moved
      exact ⟨(unseen unknown).closed,
        (unseen unknown).undecided.concat_singleton (by rintro object ⟨⟩)⟩
  | disconnect clientId =>
      cases moved
      exact ⟨(unseen unknown).closed,
        (unseen unknown).undecided.concat_singleton (by rintro object ⟨⟩)⟩
  | supervise =>
      cases moved
      exact ⟨(unseen unknown).closed,
        (unseen unknown).undecided.concat_singleton (by rintro object ⟨⟩)⟩
  | shutdown =>
      cases moved
      refine ⟨(unseen unknown).closed, (unseen unknown).undecided.concat fun job member => ?_⟩
      obtain ⟨stopped, -, rfl⟩ := List.mem_map.mp member
      rintro object ⟨⟩
  | restart retentionSeconds autoEnroll manual => cases moved; exact unseen_boot device _ manual
  | advance thread now =>
      obtain ⟨job, rest, found, -, rfl⟩ := Threads.advance_eq_some moved
      have before := record_of_perform unknown
      exact (unseen before).perform placed before found
  | fail thread =>
      cases moved
      exact ⟨(unseen unknown).closed, (unseen unknown).undecided.abandoned thread⟩

end Unseen

/-! ## Results -/

/-- While the relay goes on and the presence that is read of a device stays the same, a cloud
session that agrees with it is neither opened nor closed, whatever the passes of other threads
do, and every pass that is begun and completed in that time brings it in line. -/
theorem sessions_follow_presence (registry : DeviceRegistry) (manual : Option DeviceIdentity)
    (earlier later : List RelayAction) (device : String) (object : Nat) (present : Bool)
    (number : Nat) :
    let before := relayMachine.run (boot registry manual) earlier
    let system := relayMachine.run before later
    (bridged : before.1.manager.getByDeviceId device = some object) ->
    (started : before.1.manager.started = true) ->
    (undecided : Threads.AllPending (fun job => job ≠ decision (!present) object) before.2) ->
    (steady : relayMachine.Meets (Steady device present number) before later) ->
    (before.1.sessionOpen device = some present -> forall early, early <+: later ->
      (relayMachine.run before early).1.sessionOpen device = some present) ∧
    forall early jobs, early <+: later ->
      (relayMachine.run before early).2[number]? = some jobs -> .syncUpstreamSessions ∈ jobs ->
      system.2[number]? = some [] -> system.1.sessionOpen device = some present := by
  intro before system bridged started undecided steady
  have undisputed : Undisputed device object present before :=
    ⟨placed_run registry manual earlier, bridged, started, undecided⟩
  constructor
  · rintro agrees early ⟨rest, rfl⟩
    have steadyEarly := ((relayMachine.meets_append _ _ _ _).mp steady).1
    rw [Relay.sessionOpen, bridged, Option.map_some, Option.some_inj] at agrees
    have both := relayMachine.run_invariant_of_meets (Steady device present number)
      (fun state => Undisputed device object present state ∧ state.1.isOpen object = present)
      (fun _ _ _ holds steadily moved => ⟨holds.1.step steadily moved,
        holds.1.isOpen_step steadily holds.2 moved⟩) before early ⟨undisputed, agrees⟩ steadyEarly
    exact sessionOpen_of_undisputed both.1 both.2
  · rintro early jobs ⟨rest, rfl⟩ own pending finished
    obtain ⟨steadyEarly, steadyRest⟩ := (relayMachine.meets_append _ _ _ _).mp steady
    have stillUndisputed := relayMachine.run_invariant_of_meets (Steady device present number)
      (Undisputed device object present)
      (fun _ _ _ holds steadily moved => holds.step steadily moved) before early undisputed
      steadyEarly
    have onTheWay : OnTheWay object present number (relayMachine.run before early) :=
      .inr ⟨jobs, _, own, pending, List.mem_cons_self⟩
    have both := relayMachine.run_invariant_of_meets (Steady device present number)
      (fun state => Undisputed device object present state ∧ OnTheWay object present number state)
      (fun _ _ _ holds steadily moved => ⟨holds.1.step steadily moved,
        holds.2.step holds.1 steadily moved⟩) (relayMachine.run before early) rest
      ⟨stillUndisputed, onTheWay⟩ steadyRest
    rw [← relayMachine.run_append] at both
    rcases both.2 with agrees | ⟨left, job, there, member, -⟩
    · exact sessionOpen_of_undisputed both.1 agrees
    · rw [show (relayMachine.run before (early ++ rest)).2[number]? = some [] from finished,
        Option.some.injEq] at there
      subst there
      cases member

/-- Several moves of one thread. -/
def moves (count thread : Nat) (now : Rat) : List RelayAction :=
  List.replicate count (.advance thread now)

/-- The relay restores its feeder, the feeder connects, and its session is opened. -/
def feederArrives : List RelayAction :=
  moves 6 0 0 ++ .connect waitingFeeder "10.3.100.1" :: moves 10 1 1

/-- It drops its connection, a pass of the supervisor follows, and it connects again. -/
def feederBlinks : List RelayAction :=
  [.disconnect "feeder", .advance 2 10, .supervise] ++ moves 4 3 60 ++
    .connect waitingFeeder "10.3.100.1" :: moves 10 4 80

theorem session_survives_blink :
    (relayMachine.run (relayMachine.run (boot enrolledOnce none) feederArrives)
      feederBlinks).1.sessionOpen "feeder" = some true :=
  (sessions_follow_presence enrolledOnce none feederArrives feederBlinks "feeder" 0 true 9
    (by decide +kernel) (by decide +kernel) (by decide +kernel) (by decide +kernel)).1
    (by decide +kernel) feederBlinks (List.prefix_refl _)

/-- The relay holds no cloud session in the name of a feeder that has not connected to it
since it was started, also of one that is enrolled or was set up by hand. -/
theorem no_session_for_unseen_feeder (registry : DeviceRegistry)
    (manual : Option DeviceIdentity) (actions : List RelayAction) (device : String) :
    let system := relayMachine.run (boot registry manual) actions
    system.1.presence.record device = none ->
    forall context, context ∈ system.1.manager.objects -> context.deviceId = device ->
      context.upstreamClient = none := by
  intro system unknown context member own
  have both := relayMachine.run_invariant
    (fun state => Placed state ∧ (state.1.presence.record device = none -> Unseen device state))
    (fun _ _ _ holds moved => ⟨holds.1.step moved, Unseen.step holds.1 holds.2 moved⟩)
    (boot registry manual) actions
    ⟨placed_boot registry manual, fun _ => unseen_boot device registry manual⟩
  obtain ⟨object, there⟩ := List.mem_iff_getElem?.mp member
  exact (both.2 unknown).closed object context there own

/-- The enrolled feeder is restored while it is away. -/
theorem restored_feeder_has_no_session :
    forall context, context ∈ (relayMachine.run (boot enrolledOnce none)
        (moves 6 0 0)).1.manager.objects ->
      context.deviceId = "feeder" -> context.upstreamClient = none :=
  no_session_for_unseen_feeder enrolledOnce none (moves 6 0 0) "feeder" (by decide +kernel)

end Registry
end PetlibroRelay
