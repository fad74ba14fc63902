import PetlibroRelay.Camera.BridgeRegistrar
import PetlibroRelay.Camera.ConsumerCount
import PetlibroRelay.Foundations.Holders

namespace PetlibroRelay
namespace Camera

open Foundations

/-!
# The connections of the media server

An RTSP connection becomes a consumer of the camera its first accepted DESCRIBE names, and
gets the function that releases it.  However the connection ends, it stops and then calls
that function.

The registry counts consumers, and the connections hold release functions.  Each function is
held by one connection, so that no consumer is left when the last connection has ended, and
the camera is stopped.

The RTSP library is left out.  Whether an exchange succeeds and which messages arrive in it
is up to the environment.
-/

/-! ## Connections -/

def mediaPathPrefix : String := "/device/"

/-- The device a path of the server names. -/
def deviceIDFromMediaPath (path : String) : Option String :=
  if mediaPathPrefix.toList.isPrefixOf path.toList then
    let deviceId := String.ofList (path.toList.drop mediaPathPrefix.length)
    if validDeviceID deviceId then some deviceId else none
  else none

theorem deviceIDFromMediaPath_eq_some_iff {path deviceId : String} :
    deviceIDFromMediaPath path = some deviceId ↔
      path = mediaPathPrefix ++ deviceId ∧ validDeviceID deviceId = true := by
  have cut : mediaPathPrefix.toList.isPrefixOf path.toList = true ->
      path = mediaPathPrefix ++ String.ofList (path.toList.drop mediaPathPrefix.length) := by
    intro starts
    obtain ⟨rest, same⟩ := List.isPrefixOf_iff_prefix.mp starts
    apply String.toList_injective
    rw [String.toList_append, String.toList_ofList, ← same, ← String.length_toList,
      List.drop_left]
  unfold deviceIDFromMediaPath
  constructor
  · intro named
    split at named
    · next starts =>
        dsimp only at named
        split at named
        · next valid =>
            cases named
            exact ⟨cut starts, valid⟩
        · cases named
    · cases named
  · rintro ⟨rfl, valid⟩
    have rest : (mediaPathPrefix ++ deviceId).toList.drop mediaPathPrefix.length =
        deviceId.toList := by
      rw [String.toList_append, ← String.length_toList, List.drop_left]
    have starts : mediaPathPrefix.toList.isPrefixOf (mediaPathPrefix ++ deviceId).toList =
        true := by
      rw [String.toList_append]
      exact List.isPrefixOf_iff_prefix.mpr (List.prefix_append _ _)
    rw [if_pos starts, rest, String.ofList_toList, if_pos valid]

/-- Where the goroutine of a connection is. -/
inductive ConnectionPhase where
  | accepting
  | handling
  | ended
  deriving DecidableEq, Repr

/-- The release function of a connection: one of the device of the bridge, by its number, or
one of another device. -/
inductive Closer where
  | ours (number : Nat)
  | elsewhere
  deriving DecidableEq, Repr

/-- A connection, with the thread of its `addMediaConsumer` while that has not returned. -/
structure Connection where
  phase : ConnectionPhase := .accepting
  adding : Option Nat := none
  release : Option Closer := none
  deriving DecidableEq, Repr

/-- The registry as the device of the bridge sees it, and the connections of the server. -/
structure MediaServer where
  world : World := ({}, [])
  connections : List Connection := []
  deriving DecidableEq, Repr

/-- What the callback of a connection asks for when a message arrives. -/
def Connection.requested (own : Connection) (describe : Bool) (path : Option String) :
    Option String :=
  if describe = false ∨ own.release.isSome then none else path.bind deviceIDFromMediaPath

/-- The call of `addMediaConsumer` in a thread returns its release function. -/
def Connection.received (thread number : Nat) (own : Connection) : Connection :=
  if own.adding = some thread then
    { own with adding := none, release := some (.ours number) }
  else own

inductive ServerAction where
  | accept
  | message (connection : Nat) (describe : Bool) (path : Option String) (accepted : Bool)
  | rejected (connection : Nat)
  | setUp (connection : Nat) (succeeded : Bool)
  | handled (connection : Nat)
  | bridge (action : BridgeAction)
  deriving DecidableEq, Repr

/-- The bridge goes on.  A function that is handed out goes to the connection that waits. -/
def MediaServer.follow (server : MediaServer) (action : BridgeAction) : Option MediaServer :=
  (bridgeMachine.step server.world action).map fun after =>
    { world := after
      connections :=
        match action with
        | .advance thread _ =>
            if Threads.nextJob server.world.2 thread = some .handOut then
              server.connections.map
                (Connection.received thread server.world.1.releases.length)
            else server.connections
        | _ => server.connections }

/-- The connection is stopped and its release function called, which works once. -/
def MediaServer.finish (server : MediaServer) (connection : Nat) (own : Connection) :
    MediaServer :=
  { world :=
      match own.release with
      | some (.ours number) => bridgeMachine.next server.world (.release number)
      | _ => server.world
    connections := server.connections.set connection { own with phase := .ended } }

/-- A connection whose goroutine is in this phase and not inside its callback. -/
def MediaServer.idleIn (server : MediaServer) (connection : Nat) (phase : ConnectionPhase) :
    Option Connection :=
  server.connections[connection]?.filter fun own =>
    decide (own.phase = phase) && own.adding.isNone

namespace MediaServer

/-- The callback of a connection. -/
def message (deviceId : String) (server : MediaServer) (connection : Nat) (own : Connection)
    (describe : Bool) (path : Option String) (accepted : Bool) : MediaServer :=
  match own.requested describe path with
  | none => server
  | some requested =>
      if requested = deviceId then
        { world := bridgeMachine.next server.world .addMediaConsumer
          connections := server.connections.set connection
            { own with adding := some server.world.2.length } }
      else
        { server with
          connections := server.connections.set connection
            { own with release := if accepted then some .elsewhere else none } }

/-- `Accept` has returned. -/
def setUp (server : MediaServer) (connection : Nat) (own : Connection) (succeeded : Bool) :
    MediaServer :=
  if succeeded ∧ own.release.isSome then
    { server with
      connections := server.connections.set connection { own with phase := .handling } }
  else server.finish connection own

end MediaServer

/-- The goroutines of the connections and everything else that acts on the registry.  Only
connections add consumers and release them. -/
def mediaServerMachine (deviceId : String) : Machine MediaServer ServerAction where
  step server
    | .accept => some { server with connections := server.connections ++ [{}] }
    | .message connection describe path accepted =>
        ((server.idleIn connection .accepting).or (server.idleIn connection .handling)).map
          fun own => server.message deviceId connection own describe path accepted
    | .rejected connection =>
        match server.connections[connection]? with
        | some own =>
            if own.adding.any (fun thread => decide (server.world.2[thread]? = some [])) then
              some { server with
                connections := server.connections.set connection { own with adding := none } }
            else none
        | none => none
    | .setUp connection succeeded =>
        (server.idleIn connection .accepting).map (server.setUp connection · succeeded)
    | .handled connection =>
        (server.idleIn connection .handling).map (server.finish connection ·)
    | .bridge .addMediaConsumer => none
    | .bridge (.release _) => none
    | .bridge action => server.follow action

/-! ## What the connections hold -/

/-- The release function of the device that a connection has still to call. -/
def Connection.held (own : Connection) : Option Nat :=
  if own.phase = .ended then none
  else
    match own.release with
    | some (.ours number) => some number
    | _ => none

/-- Each release function that nobody has called is held by one connection. -/
structure Holding (held : List Nat) (releases : List ReleaseFunction) : Prop where
  distinct : held.Nodup
  unused : forall number, number ∈ held ↔
    exists function, releases[number]? = some function ∧ function.isUnused = true

/-- Each thread that is about to hand out a release function is waited for by one connection,
which has none. -/
structure Waiting (connections : List Connection) (threads : List (List Job)) : Prop where
  apart : (connections.filterMap Connection.adding).Nodup
  started : forall thread, thread ∈ connections.filterMap Connection.adding ->
    thread < threads.length
  awaited : forall thread jobs, threads[thread]? = some jobs -> 0 < jobs.countP Job.isOfAdding ->
    thread ∈ connections.filterMap Connection.adding
  single : forall jobs, jobs ∈ threads -> jobs.countP Job.isOfAdding ≤ 1
  waits : forall own, own ∈ connections -> own.adding.isSome = true ->
    own.phase ≠ .ended ∧ own.release = none

structure Tracks (server : MediaServer) : Prop where
  holding : Holding (server.connections.filterMap Connection.held) server.world.1.releases
  waiting : Waiting server.connections server.world.2

namespace Holding

variable {held rest later : List Nat} {releases : List ReleaseFunction} {number : Nat}

/-- A function is called, and no longer held. -/
theorem gives (holding : Holding held releases) (gone : held.Perm (number :: rest))
    {function : ReleaseFunction} (present : releases[number]? = some function) :
    Holding rest (releases.set number { function with used := true }) := by
  obtain ⟨absent, distinct⟩ := List.nodup_cons.mp (gone.nodup_iff.mp holding.distinct)
  refine ⟨distinct, fun other => ?_⟩
  by_cases same : other = number
  · subst same
    rw [List.getElem?_set_self (List.getElem?_eq_some_iff.mp present).1]
    refine ⟨fun member => absurd member absent, ?_⟩
    rintro ⟨own, ⟨⟩, ⟨⟩⟩
  · rw [List.getElem?_set_ne (Ne.symm same), ← holding.unused other, gone.mem_iff, List.mem_cons]
    exact ⟨Or.inr, fun either => either.resolve_left same⟩

/-- A function is handed out. -/
theorem takes (holding : Holding held releases) (taken : later.Perm (releases.length :: held))
    {function : ReleaseFunction} (fresh : function.isUnused = true) :
    Holding later (releases ++ [function]) := by
  have absent : releases.length ∉ held := by
    intro member
    obtain ⟨own, present, -⟩ := (holding.unused _).mp member
    exact absurd (List.getElem?_eq_some_iff.mp present).1 (Nat.lt_irrefl _)
  refine ⟨taken.nodup_iff.mpr (List.nodup_cons.mpr ⟨absent, holding.distinct⟩), fun other => ?_⟩
  rw [taken.mem_iff, List.mem_cons]
  rcases Nat.lt_trichotomy other releases.length with old | same | beyond
  · rw [List.getElem?_append_left old, ← holding.unused other]
    exact ⟨fun either => either.resolve_left (Nat.ne_of_lt old), Or.inr⟩
  · rw [same, List.getElem?_concat_length]
    exact ⟨fun _ => ⟨function, rfl, fresh⟩, fun _ => .inl rfl⟩
  · rw [List.getElem?_eq_none (by rw [List.length_append]; exact beyond)]
    constructor
    · rintro (same | member)
      · exact absurd same (Nat.ne_of_gt beyond)
      · obtain ⟨own, present, -⟩ := (holding.unused other).mp member
        exact absurd (List.getElem?_eq_some_iff.mp present).1 (Nat.lt_asymm beyond)
    · rintro ⟨own, ⟨⟩, -⟩

end Holding

namespace Waiting

variable {connections : List Connection} {threads : List (List Job)} {place thread : Nat}
  {own next : Connection} {jobs : List Job}

/-- A new thread that adds no consumer. -/
theorem concat (waiting : Waiting connections threads) (neutral : jobs.countP Job.isOfAdding = 0) :
    Waiting connections (threads ++ [jobs]) where
  apart := waiting.apart
  started := by
    intro thread waited
    rw [List.length_append]
    exact Nat.lt_add_right _ (waiting.started thread waited)
  awaited := by
    intro thread own found adds
    rcases Nat.lt_or_ge thread threads.length with old | new
    · exact waiting.awaited thread own (List.getElem?_append_left old ▸ found) adds
    · rw [List.getElem?_append_right new, List.getElem?_singleton] at found
      split at found
      · cases found
        rw [neutral] at adds
        cases adds
      · cases found
  single := by
    refine List.forall_mem_append.mpr ⟨waiting.single, List.forall_mem_singleton.mpr ?_⟩
    rw [neutral]
    exact Nat.zero_le _
  waits := waiting.waits

/-- A connection that goes on outside its callback. -/
theorem changes (waiting : Waiting connections threads) (found : connections[place]? = some own)
    (idle : own.adding = none) (still : next.adding = none) :
    Waiting (connections.set place next) threads := by
  have same : (connections.set place next).filterMap Connection.adding =
      connections.filterMap Connection.adding :=
    Holders.filterMap_set_same found (still.trans idle.symm)
  refine ⟨same ▸ waiting.apart, same ▸ waiting.started, same ▸ waiting.awaited, waiting.single, ?_⟩
  intro other member waits
  rcases List.mem_or_eq_of_mem_set member with old | new
  · exact waiting.waits other old waits
  · rw [new, still] at waits
    cases waits

/-- A new connection. -/
theorem accepts (waiting : Waiting connections threads) :
    Waiting (connections ++ [({} : Connection)]) threads := by
  have same : (connections ++ [({} : Connection)]).filterMap Connection.adding =
      connections.filterMap Connection.adding := by
    rw [List.filterMap_append]
    exact List.append_nil _
  refine ⟨same ▸ waiting.apart, same ▸ waiting.started, same ▸ waiting.awaited, waiting.single, ?_⟩
  refine List.forall_mem_append.mpr ⟨waiting.waits, List.forall_mem_singleton.mpr ?_⟩
  rintro ⟨⟩

/-- A connection calls `addMediaConsumer`. -/
theorem requests (waiting : Waiting connections threads) (found : connections[place]? = some own)
    (open_ : own.phase ≠ .ended) (idle : own.adding = none) (noRelease : own.release = none) :
    Waiting (connections.set place { own with adding := some threads.length })
      (threads ++ [[.cancelIdleDisconnect, .connectConsumer]]) := by
  have taken : ((connections.set place
      { own with adding := some threads.length }).filterMap Connection.adding).Perm
        (threads.length :: connections.filterMap Connection.adding) :=
    Holders.filterMap_set_taken found idle rfl
  have fresh : threads.length ∉ connections.filterMap Connection.adding := fun waited =>
    absurd (waiting.started _ waited) (Nat.lt_irrefl _)
  refine ⟨?_, ?_, ?_, ?_, ?_⟩
  · exact taken.nodup_iff.mpr (List.nodup_cons.mpr ⟨fresh, waiting.apart⟩)
  · intro thread waited
    rw [List.length_append]
    rcases List.mem_cons.mp (taken.mem_iff.mp waited) with new | old
    · rw [new]
      exact Nat.lt_succ_self _
    · exact Nat.lt_add_right _ (waiting.started thread old)
  · intro thread jobs present adds
    refine taken.mem_iff.mpr (List.mem_cons.mpr ?_)
    rcases Nat.lt_or_ge thread threads.length with old | new
    · exact .inr (waiting.awaited thread jobs (List.getElem?_append_left old ▸ present) adds)
    · have inside := (List.getElem?_eq_some_iff.mp present).1
      rw [List.length_append, List.length_singleton] at inside
      exact .inl (Nat.le_antisymm (Nat.le_of_lt_succ inside) new)
  · exact List.forall_mem_append.mpr ⟨waiting.single, List.forall_mem_singleton.mpr le_rfl⟩
  · intro other member waits
    rcases List.mem_or_eq_of_mem_set member with old | new
    · exact waiting.waits other old waits
    · rw [new]
      exact ⟨open_, noRelease⟩

/-- The call of a connection has returned, and nothing is left of its thread that counts. -/
theorem returns (waiting : Waiting connections threads) (found : connections[place]? = some own)
    (calls : own.adding = some thread) (still : next.adding = none) {later : List (List Job)}
    (length : later.length = threads.length)
    (others : forall other jobs, later[other]? = some jobs -> 0 < jobs.countP Job.isOfAdding ->
      other ≠ thread ∧ threads[other]? = some jobs)
    (single : forall jobs, jobs ∈ later -> jobs.countP Job.isOfAdding ≤ 1) :
    Waiting (connections.set place next) later := by
  have released : (connections.filterMap Connection.adding).Perm
      (thread :: (connections.set place next).filterMap Connection.adding) :=
    Holders.filterMap_set_released found calls still
  refine ⟨?_, ?_, ?_, single, ?_⟩
  · exact (List.nodup_cons.mp (released.nodup_iff.mp waiting.apart)).2
  · intro other waited
    rw [length]
    exact waiting.started other (released.mem_iff.mpr (List.mem_cons_of_mem _ waited))
  · intro other jobs present adds
    obtain ⟨apart, before⟩ := others other jobs present adds
    exact (List.mem_cons.mp (released.mem_iff.mp
      (waiting.awaited other jobs before adds))).resolve_left apart
  · intro other member waits
    rcases List.mem_or_eq_of_mem_set member with old | new
    · exact waiting.waits other old waits
    · rw [new, still] at waits
      cases waits

/-- A thread does a job and goes on, and what it leaves behind adds a consumer only if the job
did. -/
theorem advances (waiting : Waiting connections threads) {job : Job} {rest : List Job}
    (found : threads[thread]? = some (job :: rest))
    (fewer : jobs.countP Job.isOfAdding ≤ if job.isOfAdding then 1 else 0) :
    Waiting connections (threads.set thread (jobs ++ rest)) := by
  have bound : (jobs ++ rest).countP Job.isOfAdding ≤ (job :: rest).countP Job.isOfAdding := by
    rw [List.countP_append, List.countP_cons]
    omega
  refine ⟨waiting.apart, ?_, ?_, ?_, waiting.waits⟩
  · rw [List.length_set]
    exact waiting.started
  · intro other own present adds
    by_cases same : thread = other
    · subst same
      rw [List.getElem?_set_self (List.getElem?_eq_some_iff.mp found).1] at present
      cases present
      exact waiting.awaited thread _ found (Nat.lt_of_lt_of_le adds bound)
    · rw [List.getElem?_set_ne same] at present
      exact waiting.awaited other own present adds
  · intro own member
    rcases List.mem_or_eq_of_mem_set member with old | new
    · exact waiting.single own old
    · rw [new]
      exact bound.trans (waiting.single _ (List.mem_of_getElem? found))

end Waiting

/-! ## One step of the server -/

section Steps

variable {deviceId : String} {server after : MediaServer} {connection : Nat} {own : Connection}

theorem idleIn_eq_some {phase : ConnectionPhase}
    (idle : server.idleIn connection phase = some own) :
    server.connections[connection]? = some own ∧ own.phase = phase ∧ own.adding = none := by
  rw [MediaServer.idleIn, Option.filter_eq_some_iff, Bool.and_eq_true, decide_eq_true_eq,
    Option.isNone_iff_eq_none] at idle
  exact idle

theorem held_of_open (open_ : own.phase ≠ .ended) :
    own.held = match own.release with
      | some (.ours number) => some number
      | _ => none :=
  if_neg open_

theorem tracks_message (tracks : Tracks server)
    (found : server.connections[connection]? = some own) (open_ : own.phase ≠ .ended)
    (idle : own.adding = none) (describe : Bool) (path : Option String) (accepted : Bool) :
    Tracks (server.message deviceId connection own describe path accepted) := by
  unfold MediaServer.message
  split
  · exact tracks
  · next requested asked =>
      have noRelease : own.release = none := by
        rw [Connection.requested] at asked
        split at asked
        · cases asked
        · next asks => exact Option.not_isSome_iff_eq_none.mp (not_or.mp asks).2
      split
      · refine ⟨?_, tracks.waiting.requests found open_ idle noRelease⟩
        refine (?_ : Holding ((server.connections.set connection _).filterMap _)
          server.world.1.releases)
        rw [Holders.filterMap_set_same found (by rfl)]
        exact tracks.holding
      · refine ⟨?_, tracks.waiting.changes found idle idle⟩
        refine (?_ : Holding ((server.connections.set connection _).filterMap _)
          server.world.1.releases)
        rw [Holders.filterMap_set_same found]
        · exact tracks.holding
        · rw [held_of_open open_, noRelease]
          refine (if_neg open_).trans ?_
          cases accepted with
          | false => rfl
          | true => rfl

theorem tracks_finish (tracks : Tracks server)
    (found : server.connections[connection]? = some own) (open_ : own.phase ≠ .ended)
    (idle : own.adding = none) : Tracks (server.finish connection own) := by
  have ended : ({ own with phase := .ended } : Connection).held = none := if_pos rfl
  have waiting : Waiting (server.connections.set connection { own with phase := .ended })
      server.world.2 := tracks.waiting.changes found idle idle
  unfold MediaServer.finish
  cases holds : own.held with
  | none =>
      have unchanged : Holding ((server.connections.set connection
          { own with phase := .ended }).filterMap Connection.held) server.world.1.releases := by
        rw [Holders.filterMap_set_same found (ended.trans holds.symm)]
        exact tracks.holding
      split
      · next number release =>
          rw [held_of_open open_, release] at holds
          cases holds
      · exact ⟨unchanged, waiting⟩
  | some number =>
      have release : own.release = some (.ours number) := by
        rw [held_of_open open_] at holds
        split at holds
        · next release =>
            cases holds
            exact release
        · cases holds
      have gone := Holders.filterMap_set_released found holds ended
      obtain ⟨function, present, unused⟩ :=
        (tracks.holding.unused number).mp (gone.mem_iff.mpr List.mem_cons_self)
      have fresh : function.used = false := by
        rw [ReleaseFunction.isUnused, Bool.not_eq_true'] at unused
        exact unused
      have called : bridgeMachine.next server.world (.release number) =
          ({ server.world.1 with
              releases := server.world.1.releases.set number { function with used := true } },
            server.world.2 ++ [[.releaseMediaConsumer function.registration]]) := by
        have step : bridgeMachine.step server.world (.release number) =
            (server.world.1.callRelease number).map _ := rfl
        rw [Machine.next, step, Bridge.callRelease, present]
        dsimp only
        rw [fresh]
        rfl
      rw [release]
      dsimp only
      rw [called]
      rw [release] at gone waiting
      exact ⟨tracks.holding.gives gone present, waiting.concat rfl⟩

theorem tracks_rejected (tracks : Tracks server)
    (found : server.connections[connection]? = some own) {thread : Nat}
    (calls : own.adding = some thread) (returned : server.world.2[thread]? = some []) :
    Tracks { server with
      connections := server.connections.set connection { own with adding := none } } := by
  refine ⟨?_, tracks.waiting.returns found calls rfl rfl ?_ tracks.waiting.single⟩
  · rw [Holders.filterMap_set_same found (by rfl)]
    exact tracks.holding
  · intro other jobs present adds
    refine ⟨?_, present⟩
    rintro rfl
    cases present.symm.trans returned
    cases adds

/-- The bridge hands out a release function, and the connection that waits for it takes it. -/
theorem tracks_handOut (tracks : Tracks server) {thread : Nat} {rest : List Job}
    (found : server.world.2[thread]? = some (.handOut :: rest)) :
    Tracks {
      world := ({ server.world.1 with
          releases := server.world.1.releases ++
            [{ registration := server.world.1.registrations }] },
        server.world.2.set thread rest)
      connections :=
        server.connections.map (Connection.received thread server.world.1.releases.length) } := by
  have single := tracks.waiting.single _ (List.mem_of_getElem? found)
  have nothing : rest.countP Job.isOfAdding = 0 := by
    rw [List.countP_cons_of_pos (by rfl)] at single
    omega
  have awaited := tracks.waiting.awaited thread _ found
    (by rw [List.countP_cons_of_pos (by rfl)]; exact Nat.succ_pos _)
  obtain ⟨own, member, calls⟩ := List.mem_filterMap.mp awaited
  obtain ⟨place, here⟩ := List.getElem?_of_mem member
  obtain ⟨open_, noRelease⟩ := tracks.waiting.waits own member (by rw [calls]; rfl)
  have received : own.received thread server.world.1.releases.length =
      { own with adding := none, release := some (.ours server.world.1.releases.length) } :=
    if_pos calls
  have others : forall party : Connection, party.adding ≠ some thread ->
      party.received thread server.world.1.releases.length = party :=
    fun party other => if_neg other
  rw [Holders.map_eq_set_of_holder others tracks.waiting.apart here calls, received]
  refine ⟨?_, tracks.waiting.returns here calls rfl (List.length_set ..) ?_ ?_⟩
  · refine tracks.holding.takes (Holders.filterMap_set_taken here ?_ ?_) rfl
    · rw [held_of_open open_, noRelease]
    · exact if_neg open_
  · intro other jobs present adds
    by_cases same : thread = other
    · subst same
      rw [List.getElem?_set_self (List.getElem?_eq_some_iff.mp found).1] at present
      cases present
      rw [nothing] at adds
      cases adds
    · exact ⟨Ne.symm same, List.getElem?_set_ne same ▸ present⟩
  · intro jobs member
    rcases List.mem_or_eq_of_mem_set member with old | new
    · exact tracks.waiting.single jobs old
    · rw [new, nothing]
      exact Nat.zero_le _

theorem tracks_follow (tracks : Tracks server) {action : BridgeAction}
    (plain : action.isCounting = false) (moved : server.follow action = some after) :
    Tracks after := by
  obtain ⟨world, stepped, rfl⟩ := Option.map_eq_some_iff.mp moved
  cases worldStep_of_step stepped with
  | called started =>
      obtain ⟨same, neutral⟩ := sameCount_called plain started
      have followed : Tracks { server with
          world := (_, server.world.2 ++ [_]) } := ⟨same.2 ▸ tracks.holding,
        tracks.waiting.concat (countP_neutral neutral).2.2⟩
      cases action with
      | advance thread environment => cases started
      | _ => exact followed
  | @advanced thread environment job rest found =>
      have next : Threads.nextJob server.world.2 thread = some job := by
        rw [Threads.nextJob, found, Option.bind_some, List.head?_cons]
      dsimp only
      rw [next]
      by_cases handsOut : job = .handOut
      · subst handsOut
        rw [if_pos rfl]
        exact tracks_handOut tracks found
      · rw [if_neg fun same => handsOut (Option.some.inj same)]
        refine ⟨?_, tracks.waiting.advances found (perform_ofAdding _ _ _)⟩
        dsimp only
        rw [perform_releases server.world.1 environment handsOut]
        exact tracks.holding

/-- No step deletes the device. -/
def ServerAction.stays : ServerAction -> Bool
  | .bridge .delete => false
  | _ => true

theorem step_bridge {action : BridgeAction} (plain : action.isCounting = false) :
    (mediaServerMachine deviceId).step server (.bridge action) = server.follow action := by
  cases action with
  | addMediaConsumer => cases plain
  | release number => cases plain
  | _ => rfl

theorem step_rejected
    (moved : (mediaServerMachine deviceId).step server (.rejected connection) = some after) :
    exists own thread, server.connections[connection]? = some own ∧ own.adding = some thread ∧
      server.world.2[thread]? = some [] ∧
      after = { server with
        connections := server.connections.set connection { own with adding := none } } := by
  simp only [mediaServerMachine] at moved
  split at moved
  · next own found =>
      split at moved
      · next returned =>
          obtain ⟨thread, calls, empty⟩ := (Option.any_eq_true _ _).mp returned
          exact ⟨own, thread, found, calls, of_decide_eq_true empty, (Option.some.inj moved).symm⟩
      · cases moved
  · cases moved

theorem tracks_step {action : ServerAction} (tracks : Tracks server) (stays : action.stays = true)
    (moved : (mediaServerMachine deviceId).step server action = some after) : Tracks after := by
  cases action with
  | accept =>
      cases moved
      refine ⟨?_, tracks.waiting.accepts⟩
      dsimp only
      rw [List.filterMap_append]
      exact (List.append_nil (server.connections.filterMap Connection.held)).symm ▸ tracks.holding
  | message connection describe path accepted =>
      obtain ⟨own, idle, rfl⟩ := Option.map_eq_some_iff.mp moved
      rcases Option.or_eq_some_iff.mp idle with accepting | ⟨-, handling⟩
      · obtain ⟨found, phase, idle⟩ := idleIn_eq_some accepting
        exact tracks_message tracks found (by rw [phase]; rintro ⟨⟩) idle describe path accepted
      · obtain ⟨found, phase, idle⟩ := idleIn_eq_some handling
        exact tracks_message tracks found (by rw [phase]; rintro ⟨⟩) idle describe path accepted
  | rejected connection =>
      obtain ⟨own, thread, found, calls, returned, rfl⟩ := step_rejected moved
      exact tracks_rejected tracks found calls returned
  | setUp connection succeeded =>
      obtain ⟨own, idle, rfl⟩ := Option.map_eq_some_iff.mp moved
      obtain ⟨found, phase, idle⟩ := idleIn_eq_some idle
      have open_ : own.phase ≠ .ended := by
        rw [phase]
        rintro ⟨⟩
      unfold MediaServer.setUp
      split
      · refine ⟨?_, tracks.waiting.changes found idle idle⟩
        dsimp only
        rw [Holders.filterMap_set_same found]
        · exact tracks.holding
        · rw [held_of_open open_]
          exact if_neg (by rintro ⟨⟩)
      · exact tracks_finish tracks found open_ idle
  | handled connection =>
      obtain ⟨own, idle, rfl⟩ := Option.map_eq_some_iff.mp moved
      obtain ⟨found, phase, idle⟩ := idleIn_eq_some idle
      have open_ : own.phase ≠ .ended := by
        rw [phase]
        rintro ⟨⟩
      exact tracks_finish tracks found open_ idle
  | bridge own =>
      by_cases plain : own.isCounting = false
      · rw [step_bridge plain] at moved
        exact tracks_follow tracks plain moved
      · cases own with
        | delete => cases stays
        | addMediaConsumer => cases moved
        | release number => cases moved
        | _ => exact absurd rfl plain

/-- A step of the server is at most one step of the bridge. -/
theorem world_of_step {action : ServerAction}
    (moved : (mediaServerMachine deviceId).step server action = some after) :
    after.world = server.world ∨
      exists own, bridgeMachine.step server.world own = some after.world ∧
        (own = .addMediaConsumer ∨ (exists number, own = .release number) ∨
          action = .bridge own) := by
  have next : forall own, bridgeMachine.next server.world own = server.world ∨
      bridgeMachine.step server.world own = some (bridgeMachine.next server.world own) :=
    fun own => Machine.next_cases _ _ _
  have finish : forall (place : Nat) (own : Connection),
      (server.finish place own).world = server.world ∨
        exists number, bridgeMachine.step server.world (.release number) =
          some (server.finish place own).world := by
    intro place own
    unfold MediaServer.finish
    split
    · next number release => exact (next (.release number)).imp_right fun moved => ⟨number, moved⟩
    · exact .inl rfl
  cases action with
  | accept =>
      cases moved
      exact .inl rfl
  | message connection describe path accepted =>
      obtain ⟨own, idle, rfl⟩ := Option.map_eq_some_iff.mp moved
      unfold MediaServer.message
      split
      · exact .inl rfl
      · split
        · exact (next .addMediaConsumer).imp_right fun moved => ⟨_, moved, .inl rfl⟩
        · exact .inl rfl
  | rejected connection =>
      obtain ⟨own, thread, -, -, -, rfl⟩ := step_rejected moved
      exact .inl rfl
  | setUp connection succeeded =>
      obtain ⟨own, idle, rfl⟩ := Option.map_eq_some_iff.mp moved
      unfold MediaServer.setUp
      split
      · exact .inl rfl
      · refine (finish connection own).imp_right ?_
        rintro ⟨number, moved⟩
        exact ⟨_, moved, .inr (.inl ⟨number, rfl⟩)⟩
  | handled connection =>
      obtain ⟨own, idle, rfl⟩ := Option.map_eq_some_iff.mp moved
      refine (finish connection own).imp_right ?_
      rintro ⟨number, moved⟩
      exact ⟨_, moved, .inr (.inl ⟨number, rfl⟩)⟩
  | bridge own =>
      have followed : server.follow own = some after := by
        cases own with
        | addMediaConsumer => cases moved
        | release number => cases moved
        | _ => exact moved
      obtain ⟨world, stepped, rfl⟩ := Option.map_eq_some_iff.mp followed
      exact .inr ⟨own, stepped, .inr (.inr rfl)⟩

/-- What holds of the bridge while it takes steps that meet a condition holds of the server,
whose own calls meet it always. -/
theorem server_invariant (condition : World -> BridgeAction -> Prop) {invariant : World -> Prop}
    (preserved : forall world action later, invariant world -> condition world action ->
      bridgeMachine.step world action = some later -> invariant later)
    (adds : forall world, condition world .addMediaConsumer)
    (releases : forall world number, condition world (.release number)) {action : ServerAction}
    (holds : invariant server.world)
    (meets : forall own, action = .bridge own -> condition server.world own)
    (moved : (mediaServerMachine deviceId).step server action = some after) :
    invariant after.world := by
  rcases world_of_step moved with same | ⟨own, stepped, kind⟩
  · rw [same]
    exact holds
  · refine preserved _ own _ holds ?_ stepped
    rcases kind with rfl | ⟨number, rfl⟩ | rfl
    · exact adds _
    · exact releases _ number
    · exact meets own rfl

end Steps

/-! ## Every run of the server -/

/-- No connection of the server has something left to do. -/
def MediaServer.AllEnded (server : MediaServer) : Prop :=
  forall own, own ∈ server.connections -> own.phase = .ended

instance allEndedDecidable (server : MediaServer) : Decidable server.AllEnded :=
  inferInstanceAs (Decidable (forall own, own ∈ server.connections -> own.phase = .ended))

section Runs

variable (deviceId : String) {actions : List ServerAction}
  (stays : (mediaServerMachine deviceId).Meets (fun _ action => action.stays = true) {} actions)

include stays

theorem tracks_run : Tracks ((mediaServerMachine deviceId).run {} actions) := by
  refine Machine.run_invariant_of_meets _ _ Tracks ?_ {} actions ?_ stays
  · intro before action after holds condition moved
    exact tracks_step holds condition moved
  · exact ⟨⟨List.nodup_nil, fun number => ⟨by rintro ⟨⟩, by rintro ⟨_, ⟨⟩, -⟩⟩⟩,
      ⟨List.nodup_nil, by rintro _ ⟨⟩, by rintro _ _ ⟨⟩, List.forall_mem_nil _,
        List.forall_mem_nil _⟩⟩

theorem balanced_server_run : Balanced ((mediaServerMachine deviceId).run {} actions).world := by
  refine Machine.run_invariant_of_meets _ _ (fun server : MediaServer => Balanced server.world)
    ?_ {} actions ?_ stays
  · intro before action after holds condition moved
    refine server_invariant (fun _ own => own ≠ .delete) ?_ ?_ ?_ holds ?_ moved
    · exact fun world own later balanced stays stepped => balanced_step balanced stays stepped
    · rintro world ⟨⟩
    · rintro world number ⟨⟩
    · rintro own rfl rfl
      cases condition
  · rfl

/-- The functions held and those on their way between the registry and a connection. -/
theorem consumers_eq_held :
    let server := (mediaServerMachine deviceId).run {} actions
    server.world.1.consumers = (server.connections.filterMap Connection.held).length +
      Threads.pendingCount Job.isHandOut server.world.2 +
      Threads.pendingCount Job.isRelease server.world.2 := by
  intro server
  have tracks : Tracks server := tracks_run deviceId stays
  rw [Holders.length_eq_countP tracks.holding.distinct tracks.holding.unused]
  exact balanced_server_run deviceId stays

theorem no_consumer_of_allEnded :
    let server := (mediaServerMachine deviceId).run {} actions
    server.AllEnded -> Quiescent server.world -> server.world.1.consumers = 0 := by
  intro server ended quiescent
  have count := consumers_eq_held deviceId stays
  have nothing : server.connections.filterMap Connection.held = [] := by
    refine List.filterMap_eq_nil_iff.mpr fun own member => ?_
    exact if_pos (ended own member)
  dsimp only at count
  rw [nothing, Threads.pendingCount_eq_zero _ quiescent, Threads.pendingCount_eq_zero _ quiescent]
    at count
  exact count

end Runs

/-- Whatever the order of messages, failures and ends of connections and of everything else that
happens to a device that stays registered, no two connections hold one release function, and
the consumers of the device are the functions held and those on their way between the registry
and a connection.  When every connection has ended and no call is half-way, there is none. -/
theorem consumers_are_connections (deviceId : String) (actions : List ServerAction)
    (stays : (mediaServerMachine deviceId).Meets (fun _ action => action.stays = true) {} actions) :
    let server := (mediaServerMachine deviceId).run {} actions
    let held := server.connections.filterMap Connection.held
    held.Nodup ∧
      server.world.1.consumers = held.length + Threads.pendingCount Job.isHandOut server.world.2 +
        Threads.pendingCount Job.isRelease server.world.2 ∧
      (server.AllEnded -> Quiescent server.world -> server.world.1.consumers = 0) :=
  ⟨(tracks_run deviceId stays).holding.distinct, consumers_eq_held deviceId stays,
    no_consumer_of_allEnded deviceId stays⟩

/-- A client that asks for the device, plays and goes away. -/
def oneViewer : List ServerAction :=
  [.bridge (.upsert exampleUid none 0), .accept, .message 0 true (some "/device/feeder") true,
    .bridge (.advance 1 atOnce), .bridge (.advance 1 atOnce), .bridge (.advance 1 atOnce),
    .bridge (.advance 1 atOnce), .setUp 0 true, .handled 0]

theorem consumers_are_connections_one_viewer :
    let server := (mediaServerMachine "feeder").run {} oneViewer
    server.AllEnded ∧ server.world.1.consumers =
      (server.connections.filterMap Connection.held).length +
        Threads.pendingCount Job.isHandOut server.world.2 +
        Threads.pendingCount Job.isRelease server.world.2 ∧ server.world.1.consumers = 1 :=
  ⟨by decide, (consumers_are_connections "feeder" oneViewer (by decide)).2.1, by decide⟩

/-- The condition on a step of the server is the one on the step of the bridge. -/
def serverAttentive (server : MediaServer) : ServerAction -> Bool
  | .bridge own => attentive server.world own
  | _ => true

/-- In every run in which the bridge asks for no connection without a reason, every consumer
can be attached and no idle callback comes upon a consumer, a camera that is connected when the
last RTSP connection has ended and no call is half-way has an idle timer that will stop it. -/
theorem camera_stops_after_last_connection (deviceId : String) (actions : List ServerAction)
    (calm : (mediaServerMachine deviceId).Meets
      (fun server action => serverAttentive server action = true) {} actions) :
    let server := (mediaServerMachine deviceId).run {} actions
    server.AllEnded -> Quiescent server.world -> forall record,
      server.world.1.device = some record -> record.connectActive = true -> StopsWhenIdle server.world record := by
  intro server ended quiescent record present active
  have stays : (mediaServerMachine deviceId).Meets (fun _ action => action.stays = true) {}
      actions := by
    refine Machine.meets_of_invariant _ _ _ (fun _ => True) (fun _ _ _ _ _ _ => trivial) ?_ _
      actions trivial calm
    rintro before action - condition
    cases action with
    | bridge own =>
        cases own with
        | delete => cases condition
        | _ => rfl
    | _ => rfl
  have nobody := no_consumer_of_allEnded deviceId stays ended quiescent
  rw [consumers_of_device present] at nobody
  have attends : Attends server.world := by
    refine Machine.run_invariant_of_meets _ _ (fun server : MediaServer => Attends server.world)
      ?_ {} actions Attends.initial calm
    intro before action after holds condition moved
    refine server_invariant (fun world own => attentive world own = true) ?_ ?_ ?_ holds ?_ moved
    · exact fun world own later attends calm stepped => attends_step attends calm stepped
    · exact fun world => rfl
    · exact fun world number => rfl
    · rintro own rfl
      exact condition
  exact attends.stops quiescent present nobody active

theorem camera_stops_after_one_viewer :
    let server := (mediaServerMachine "feeder").run {} (oneViewer ++ [.bridge (.advance 2 atOnce)])
    exists record, server.world.1.device = some record ∧ record.connectActive = true ∧
      StopsWhenIdle server.world record :=
  ⟨_, rfl, rfl, camera_stops_after_last_connection "feeder" _ (by decide) (by decide) (by decide) _
    rfl rfl⟩

end Camera
end PetlibroRelay
