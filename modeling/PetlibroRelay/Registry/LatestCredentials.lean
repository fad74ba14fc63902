import PetlibroRelay.Registry.Enrolment

namespace PetlibroRelay
namespace Registry

open Foundations

/-!
# Credentials of the upstream clients

The registry takes the credentials of every CONNECT it sees.  A device's
context takes them once, when it is created, and is used again for every later
cloud session of the device until the relay is restarted.  A client is
therefore built with the latest credentials exactly as long as a recording
never brings credentials that differ from those the relay has already handed
out: to a context, or to a thread on its way to one.
-/

/-- What was recorded last for each client, and every client that was built,
with the identity recorded last for its device at that moment. -/
structure CredentialLog where
  latest : Dict String DeviceIdentity
  builds : List (UpstreamClient × Option DeviceIdentity) := []
  deriving DecidableEq

/-- The rows of a registry that is already there were recorded before. -/
def CredentialLog.ofRegistry (registry : DeviceRegistry) : CredentialLog where
  latest := registry.database.identities.map (fun entry => (entry.1, entry.2.identity entry.1))

/-- The identity a section records. -/
def RelayJob.records : RelayJob -> Option DeviceIdentity
  | .recordIdentity identity _ => some identity
  | .seedManualIdentity identity => some identity
  | _ => none

/-- The recorded identity a thread carries to the manager. -/
def RelayJob.carries : RelayJob -> Option DeviceIdentity
  | .sessionOpened identity _ => some identity
  | .checkBridgeable identity => some identity
  | .ensureDevice identity => some identity
  | _ => none

/-- The client a section builds. -/
def Relay.builtBy (relay : Relay) : RelayJob -> Option UpstreamClient
  | .startUpstream object =>
      (relay.manager.objects[object]?.filter
        (fun context => decide (context.upstreamClient = none))).map
          ManagedContext.buildUpstreamClient
  | _ => none

def CredentialLog.note (log : CredentialLog) (relay : Relay) (job : RelayJob) : CredentialLog where
  latest :=
    match job.records with
    | none => log.latest
    | some identity => Dict.set log.latest identity.clientId identity
  builds := log.builds ++ (relay.builtBy job).toList.map
    (fun client => (client, Dict.get? log.latest client.clientId))

def CredentialLog.observe (log : CredentialLog) (state : Relay × List (List RelayJob)) :
    RelayAction -> CredentialLog
  | .advance thread _ => ((Threads.nextJob state.2 thread).map (log.note state.1)).getD log
  | _ => log

/-- The relay beside its credential log. -/
def creditedRelay : Machine ((Relay × List (List RelayJob)) × CredentialLog) RelayAction :=
  relayMachine.watched CredentialLog.observe

def SameCredentials (first second : DeviceIdentity) : Prop :=
  first.username = second.username ∧ first.password = second.password

instance (first second : DeviceIdentity) : Decidable (SameCredentials first second) :=
  inferInstanceAs (Decidable (_ ∧ _))

/-- Every client was built with the credentials recorded last for its device. -/
def BuiltWithLatest (log : CredentialLog) : Prop :=
  forall build, build ∈ log.builds ->
    exists identity, build.2 = some identity ∧ build.1.username = identity.username ∧
      build.1.password = identity.password

/-- The identity has no credentials of its own for a client that others are
recorded for. -/
def agreesWith (recorded identity : DeviceIdentity) : Bool :=
  decide (identity.clientId ≠ recorded.clientId) || decide (SameCredentials identity recorded)

/-- When credentials are recorded, no context of the device and no thread that
carries a recorded identity of it has other ones. -/
def handsOutNothingElse (state : Relay × List (List RelayJob)) : RelayAction -> Bool
  | .advance thread _ =>
      ((Threads.nextJob state.2 thread).bind RelayJob.records).all (fun recorded =>
        state.1.manager.objects.all (fun context => agreesWith recorded context.identity) &&
          state.2.all (fun jobs => jobs.all (fun job => job.carries.all (agreesWith recorded))))
  | _ => true

/-! ## What is current -/

/-- The credentials of the identity are the ones recorded last for its client. -/
def Current (log : CredentialLog) (identity : DeviceIdentity) : Prop :=
  exists latest, Dict.get? log.latest identity.clientId = some latest ∧
    SameCredentials identity latest

/-- Everything the relay has handed out, and the rows it will hand out. -/
structure CredentialsCurrent (relay : Relay) (log : CredentialLog) : Prop where
  rows : forall clientId row, relay.registry.row clientId = some row ->
    Current log (row.identity clientId)
  contexts : forall context, context ∈ relay.manager.objects -> Current log context.identity
  builds : BuiltWithLatest log

/-- The job carries a current identity, if it carries one. -/
def carriesCurrent (log : CredentialLog) (job : RelayJob) : Prop :=
  forall identity, job.carries = some identity -> Current log identity

/-- What a section records is current at once. -/
theorem current_note_self (log : CredentialLog) (relay : Relay) {job : RelayJob}
    {recorded : DeviceIdentity} (records : job.records = some recorded) :
    Current (log.note relay job) recorded := by
  refine ⟨recorded, ?_, rfl, rfl⟩
  simp only [CredentialLog.note, records]
  exact Dict.get?_set_self _ _ _

/-- What was current stays so, if it agrees with what a section records. -/
theorem Current.note {log : CredentialLog} {identity : DeviceIdentity}
    (current : Current log identity) (relay : Relay) (job : RelayJob)
    (agrees : forall recorded, job.records = some recorded ->
      agreesWith recorded identity = true) : Current (log.note relay job) identity := by
  obtain ⟨latest, found, sameLatest⟩ := current
  cases records : job.records with
  | none =>
      refine ⟨latest, ?_, sameLatest⟩
      simp only [CredentialLog.note, records]
      exact found
  | some recorded =>
      by_cases own : identity.clientId = recorded.clientId
      · have same := agrees recorded records
        rw [agreesWith, decide_eq_false (not_not.mpr own), Bool.false_or, decide_eq_true_eq] at same
        obtain ⟨newest, foundNewest, sameNewest⟩ := current_note_self log relay records
        refine ⟨newest, own ▸ foundNewest, ?_⟩
        exact ⟨same.1.trans sameNewest.1, same.2.trans sameNewest.2⟩
      · refine ⟨latest, ?_, sameLatest⟩
        simp only [CredentialLog.note, records]
        rw [Dict.get?_set_of_ne _ _ (Ne.symm own)]
        exact found

/-- A section that records nothing leaves what is current alone. -/
theorem Current.note_of_none {log : CredentialLog} {identity : DeviceIdentity}
    (current : Current log identity) (relay : Relay) {job : RelayJob}
    (silent : job.records = none) : Current (log.note relay job) identity := by
  apply current.note relay job
  intro recorded records
  rw [silent] at records
  cases records

/-! ## One section -/

section Section

variable {relay : Relay} {log : CredentialLog} {job : RelayJob} {now : Rat}

/-- An identity that a thread carries on was carried, recorded or read from the
registry. -/
theorem carries_of_perform {next : RelayJob} {identity : DeviceIdentity}
    (follows : next ∈ (relay.perform now job).2) (carries : next.carries = some identity) :
    job.carries = some identity ∨ job.records = some identity ∨
      (job = .restoreDevices ∧ identity ∈ relay.registry.getBridgeable now) := by
  cases job with
  | recordIdentity own peerAddress =>
      rw [List.mem_singleton.mp follows] at carries
      exact Or.inr (Or.inl carries)
  | sessionOpened own peerAddress =>
      rw [List.mem_singleton.mp follows] at carries
      exact Or.inl carries
  | checkBridgeable own =>
      simp only [Relay.perform] at follows
      split at follows
      · rcases List.mem_cons.mp follows with rfl | synced
        · exact Or.inl carries
        · rw [List.mem_singleton.mp synced] at carries
          cases carries
      · cases follows
  | restoreDevices =>
      rcases List.mem_append.mp follows with restored | synced
      · obtain ⟨entry, listed, rfl⟩ := List.mem_map.mp restored
        cases carries
        exact Or.inr (Or.inr ⟨rfl, listed⟩)
      · rw [List.mem_singleton.mp synced] at carries
        cases carries
  | listDevices =>
      obtain ⟨object, -, rfl⟩ := List.mem_map.mp follows
      cases carries
  | startManager =>
      rw [List.mem_singleton.mp follows] at carries
      cases carries
  | ensureDevice own =>
      simp only [Relay.perform] at follows
      split at follows
      · rw [List.mem_singleton.mp follows] at carries
        cases carries
      · cases follows
  | startNewDevice object deviceId =>
      simp only [Relay.perform] at follows
      split at follows
      · rw [List.mem_singleton.mp follows] at carries
        cases carries
      · cases follows
  | syncUpstreamSessions =>
      simp only [Relay.perform] at follows
      split at follows
      · rw [List.mem_singleton.mp follows] at carries
        cases carries
      · cases follows
  | syncDevice object =>
      simp only [Relay.perform] at follows
      split at follows
      · rw [List.mem_singleton.mp follows] at carries
        cases carries
      · rw [List.mem_singleton.mp follows] at carries
        cases carries
  | purgeExpired => cases follows
  | seedManualIdentity own => cases follows
  | startUpstream object => cases follows
  | stopUpstream object => cases follows
  | sessionClosed clientId => cases follows

/-- A row after a section is one from before, or holds what was recorded. -/
theorem row_of_perform {clientId : String} {row : IdentityRow}
    (found : (relay.perform now job).1.registry.row clientId = some row) :
    (relay.registry.row clientId = some row ∧
        forall recorded, job.records = some recorded -> clientId ≠ recorded.clientId) ∨
      exists recorded, job.records = some recorded ∧ clientId = recorded.clientId ∧
        SameCredentials (row.identity clientId) recorded := by
  have recording : forall identity, job.records = some identity ->
      (relay.registry.record now identity).1.row clientId = some row ->
      (relay.registry.row clientId = some row ∧
        forall recorded, job.records = some recorded -> clientId ≠ recorded.clientId) ∨
      exists recorded, job.records = some recorded ∧ clientId = recorded.clientId ∧
        SameCredentials (row.identity clientId) recorded := by
    intro identity records stored
    rw [DeviceRegistry.row_record] at stored
    split at stored
    · next same =>
        cases stored
        refine Or.inr ⟨identity, records, same.symm, ?_⟩
        cases relay.registry.row identity.clientId with
        | none => exact ⟨rfl, rfl⟩
        | some known => exact ⟨rfl, rfl⟩
    · next other =>
        refine Or.inl ⟨stored, fun recorded also => ?_⟩
        rw [records, Option.some.injEq] at also
        rw [← also]
        exact Ne.symm other
  cases job with
  | recordIdentity identity peerAddress => exact recording identity rfl found
  | seedManualIdentity identity => exact recording identity rfl found
  | purgeExpired =>
      rw [Relay.perform, DeviceRegistry.row_purgeExpired, Option.filter_eq_some_iff] at found
      exact Or.inl ⟨found.1, fun _ records => by cases records⟩
  | _ => exact Or.inl ⟨found, fun _ records => by cases records⟩

/-- A client is built with the credentials of its context. -/
theorem builtWithLatest_note (current : CredentialsCurrent relay log) :
    BuiltWithLatest (log.note relay job) := by
  intro build member
  rcases List.mem_append.mp member with old | new
  · exact current.builds build old
  · obtain ⟨client, built, rfl⟩ := List.mem_map.mp new
    rw [Option.mem_toList] at built
    cases job with
    | startUpstream object =>
        obtain ⟨context, there, rfl⟩ := Option.map_eq_some_iff.mp built
        have known := List.mem_of_getElem? (Option.filter_eq_some_iff.mp there).1
        obtain ⟨latest, found, same⟩ := current.contexts context known
        exact ⟨latest, found, same⟩
    | _ => cases built

/-- A section that hands out nothing else keeps everything current. -/
theorem CredentialsCurrent.perform (current : CredentialsCurrent relay log)
    (carried : carriesCurrent log job)
    (agrees : forall recorded, job.records = some recorded ->
      forall context, context ∈ relay.manager.objects ->
        agreesWith recorded context.identity = true) :
    CredentialsCurrent (relay.perform now job).1 (log.note relay job) where
  rows := by
    intro clientId row found
    rcases row_of_perform found with ⟨old, other⟩ | ⟨recorded, records, own, same⟩
    · apply (current.rows clientId row old).note relay job
      intro recorded records
      rw [agreesWith, Bool.or_eq_true, decide_eq_true_eq]
      exact Or.inl (other recorded records)
    · obtain ⟨latest, foundLatest, sameLatest⟩ := current_note_self log relay records
      refine ⟨latest, own ▸ foundLatest, ?_⟩
      exact ⟨same.1.trans sameLatest.1, same.2.trans sameLatest.2⟩
  contexts := by
    intro context member
    rcases context_of_perform member with ⟨known, there, same⟩ | ⟨ensured, -⟩
    · rw [← same]
      apply (current.contexts known there).note relay job
      exact fun recorded records => agrees recorded records known there
    · rw [ensured] at carried ⊢
      exact (carried context.identity rfl).note_of_none relay rfl
  builds := builtWithLatest_note current

/-- The identities a thread carries on are current. -/
theorem carriesCurrent_next (current : CredentialsCurrent relay log)
    (carried : carriesCurrent log job) {next : RelayJob}
    (follows : next ∈ (relay.perform now job).2) :
    carriesCurrent (log.note relay job) next := by
  intro identity carries
  have silent : forall {own : DeviceIdentity}, job.carries = some own -> job.records = none := by
    intro own some
    cases job <;> first | rfl | cases some
  rcases carries_of_perform follows carries with same | recorded | ⟨restores, listed⟩
  · exact (carried identity same).note_of_none relay (silent same)
  · exact current_note_self log relay recorded
  · obtain ⟨clientId, row, found, -, -, rfl⟩ := (DeviceRegistry.mem_getBridgeable _ _ _).mp listed
    apply (current.rows clientId row found).note_of_none relay
    rw [restores]
    rfl

end Section

/-! ## Every run -/

/-- The whole relay and its log. -/
def EverythingCurrent (state : (Relay × List (List RelayJob)) × CredentialLog) : Prop :=
  CredentialsCurrent state.1.1 state.2 ∧ Threads.AllPending (carriesCurrent state.2) state.1.2

theorem carriesCurrent_of_none {log : CredentialLog} {job : RelayJob} (none : job.carries = none) :
    carriesCurrent log job := by
  intro identity carries
  rw [none] at carries
  cases carries

theorem carriesCurrent_boot (log : CredentialLog) (manual : Option DeviceIdentity) :
    Threads.AllPending (carriesCurrent log) [bootJobs manual] := by
  intro thread member job pending identity carries
  rw [List.mem_singleton.mp member, bootJobs] at pending
  simp only [List.mem_cons, List.mem_append, List.mem_map, List.not_mem_nil, or_false] at pending
  rcases pending with rfl | ⟨seeded, -, rfl⟩ | rfl <;> cases carries

/-- A thread moves: its section is judged against everything handed out. -/
theorem everythingCurrent_advance {relay : Relay} {threads : List (List RelayJob)}
    {log : CredentialLog} {thread : Nat} {now : Rat} {job : RelayJob} {rest : List RelayJob}
    (current : EverythingCurrent ((relay, threads), log))
    (found : threads[thread]? = some (job :: rest))
    (agrees : handsOutNothingElse (relay, threads) (.advance thread now) = true) :
    EverythingCurrent (((relay.perform now job).1,
      threads.set thread ((relay.perform now job).2 ++ rest)), log.note relay job) := by
  obtain ⟨holds, pending⟩ := current
  have judged : forall recorded, job.records = some recorded ->
      (forall context, context ∈ relay.manager.objects ->
        agreesWith recorded context.identity = true) ∧
      Threads.AllPending (fun other => other.carries.all (agreesWith recorded) = true) threads := by
    intro recorded records
    rw [handsOutNothingElse, Threads.nextJob, found, Option.bind_some, List.head?_cons,
      Option.bind_some, records, Option.all_some, Bool.and_eq_true, List.all_eq_true,
      List.all_eq_true] at agrees
    exact ⟨agrees.1, fun jobs member => List.all_eq_true.mp (agrees.2 jobs member)⟩
  have still : Threads.AllPending (carriesCurrent (log.note relay job)) threads := by
    intro jobs member other waits identity carries
    apply (pending jobs member other waits identity carries).note relay job
    intro recorded records
    have agreed : other.carries.all (agreesWith recorded) = true :=
      (judged recorded records).2 jobs member other waits
    rw [carries, Option.all_some] at agreed
    exact agreed
  refine ⟨holds.perform (pending.head found) (fun recorded records => (judged recorded records).1),
    still.continued found ?_⟩
  exact fun next follows => carriesCurrent_next holds (pending.head found) follows

theorem everythingCurrent_step {state after : (Relay × List (List RelayJob)) × CredentialLog}
    {action : RelayAction} (current : EverythingCurrent state)
    (agrees : handsOutNothingElse state.1 action = true)
    (moved : creditedRelay.step state action = some after) : EverythingCurrent after := by
  obtain ⟨⟨relay, threads⟩, log⟩ := state
  obtain ⟨afterState, afterLog⟩ := after
  obtain ⟨stepped, observed⟩ := Machine.watched_step moved
  obtain ⟨holds, pending⟩ := current
  cases action with
  | connect identity peerAddress =>
      cases stepped
      cases observed
      exact ⟨holds, pending.concat_singleton (carriesCurrent_of_none rfl)⟩
  | disconnect clientId =>
      cases stepped
      cases observed
      exact ⟨holds, pending.concat_singleton (carriesCurrent_of_none rfl)⟩
  | supervise =>
      cases stepped
      cases observed
      exact ⟨holds, pending.concat_singleton (carriesCurrent_of_none rfl)⟩
  | shutdown =>
      cases stepped
      cases observed
      refine ⟨⟨holds.rows, holds.contexts, holds.builds⟩, pending.concat (fun job member => ?_)⟩
      obtain ⟨object, -, rfl⟩ := List.mem_map.mp member
      exact carriesCurrent_of_none rfl
  | restart retentionSeconds autoEnroll manual =>
      cases stepped
      cases observed
      refine ⟨⟨?_, ?_, holds.builds⟩, carriesCurrent_boot log manual⟩
      · intro clientId row found
        have stored := (relay.registry.row_openOn retentionSeconds autoEnroll clientId).symm.trans
          found
        exact holds.rows clientId row stored
      · exact fun _ member => absurd member List.not_mem_nil
  | advance thread now =>
      obtain ⟨job, rest, found, next, rfl⟩ := Threads.advance_eq_some stepped
      have noted : log.observe (relay, threads) (.advance thread now) = log.note relay job := by
        rw [CredentialLog.observe, next, Option.map_some, Option.getD_some]
      cases observed.trans noted
      exact everythingCurrent_advance ⟨holds, pending⟩ found agrees
  | fail thread =>
      cases stepped
      cases observed
      exact ⟨holds, pending.abandoned thread⟩

/-- In every run in which no recording brings credentials other than those
already handed out for its device, every upstream client is built with the
credentials recorded last. -/
theorem clients_built_with_latest_credentials (registry : DeviceRegistry)
    (manual : Option DeviceIdentity) (actions : List RelayAction)
    (agrees : creditedRelay.Meets (fun state action => handsOutNothingElse state.1 action = true)
      (boot registry manual, .ofRegistry registry) actions) :
    BuiltWithLatest
      (creditedRelay.run (boot registry manual, .ofRegistry registry) actions).2 := by
  have current : EverythingCurrent
      (creditedRelay.run (boot registry manual, .ofRegistry registry) actions) := by
    apply creditedRelay.run_invariant_of_meets
      (fun state action => handsOutNothingElse state.1 action = true) EverythingCurrent
    · intro state action after before keeps moved
      exact everythingCurrent_step before keeps moved
    · refine ⟨⟨?_, ?_, ?_⟩, carriesCurrent_boot _ manual⟩
      · intro clientId row found
        refine ⟨row.identity clientId, ?_, rfl, rfl⟩
        refine (Dict.get?_mapValues registry.database.identities
          (fun clientId row => row.identity clientId) clientId).trans ?_
        exact congrArg (Option.map _) found
      · exact fun _ member => absurd member List.not_mem_nil
      · exact fun _ member => absurd member List.not_mem_nil
    · exact agrees
  exact current.1.builds

/-! ## A feeder that changes its password -/

/-- The relay boots with an empty registry and auto-enrolment on. -/
def emptyRegistry : DeviceRegistry := .openOn emptyDatabase 259200 true

def withPassword (password : String) : DeviceIdentity where
  clientId := "feeder"
  username := "user"
  password := password

/-- One thread moves several times. -/
def advances (count thread : Nat) (now : Rat) : List RelayAction :=
  List.replicate count (.advance thread now)

/-- The feeder connects, and its thread runs. -/
def connects (password : String) (count thread : Nat) (now : Rat) : List RelayAction :=
  .connect (withPassword password) "10.3.100.1" :: advances count thread now

/-- The feeder disconnects, and a supervisor pass follows. -/
def disconnects : List RelayAction :=
  [.disconnect "feeder", .advance 2 10, .supervise]

/-- The relay boots, the feeder is enrolled and bridged, and after it has been
away for longer than the presence grace its cloud session is closed. -/
def bridgedAndAway : List RelayAction :=
  advances 5 0 0 ++ connects "first" 10 1 1 ++ disconnects ++ advances 4 3 200

/-- The feeder comes back. -/
def comesBack (password : String) : List RelayAction :=
  connects password 8 4 300

/-- A feeder that comes back with a new password gets a cloud session with the
old one. -/
theorem client_built_with_old_password :
    ¬ forall (registry : DeviceRegistry) (manual : Option DeviceIdentity)
      (actions : List RelayAction),
      BuiltWithLatest
        (creditedRelay.run (boot registry manual, .ofRegistry registry) actions).2 := by
  intro always
  have stale : (⟨"feeder", "user", "first"⟩, some (withPassword "second")) ∈
      (creditedRelay.run (boot emptyRegistry none, .ofRegistry emptyRegistry)
        (bridgedAndAway ++ comesBack "second")).2.builds := by
    decide +kernel
  obtain ⟨identity, latest, -, samePassword⟩ :=
    always emptyRegistry none (bridgedAndAway ++ comesBack "second") _ stale
  cases latest
  exact absurd samePassword (by decide)

/-- A feeder that comes back with the same credentials. -/
theorem client_rebuilt_with_same_password :
    (⟨"feeder", "user", "first"⟩, some (withPassword "first")) ∈
        (creditedRelay.run (boot emptyRegistry none, .ofRegistry emptyRegistry)
          (bridgedAndAway ++ comesBack "first")).2.builds ∧
      BuiltWithLatest
        (creditedRelay.run (boot emptyRegistry none, .ofRegistry emptyRegistry)
          (bridgedAndAway ++ comesBack "first")).2 :=
  ⟨by decide +kernel, clients_built_with_latest_credentials emptyRegistry none
    (bridgedAndAway ++ comesBack "first") (by decide +kernel)⟩

end Registry
end PetlibroRelay
