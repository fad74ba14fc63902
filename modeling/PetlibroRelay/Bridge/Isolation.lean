import PetlibroRelay.Bridge.LocalMessages
import PetlibroRelay.Queue.Migration
import PetlibroRelay.Upstream.DeviceManager

namespace PetlibroRelay
namespace Bridge

open Foundations
open Protocol
open Queue
open Pump
open Upstream
open Control

/-!
# No message crosses over to another device

The device of a message is derived again and again: from the topic at receipt,
from the context that was looked up, from the row the pump selects, and from the
topic once more when an old database is migrated.  A message is sent over the
client of a target, and a client is authenticated as the device it was built
for.  The machine keeps these derivations apart.  Contexts are objects with an
identity of their own, clients are numbered across all devices and the log notes
for whom each one was built.
-/

/-- The part of a context that routing depends on. -/
structure BridgedContext where
  deviceId : String
  productId : String
  upstreamClient : Option Nat := none
  upstreamSubscriptionsReady : Bool := true
  deriving DecidableEq, Repr

/-- A call of `handle_local_message` on the context that was looked up. -/
structure LocalThread where
  deviceId : String
  productId : String
  topic : String
  payload : List UInt8
  qos : Nat
  deriving DecidableEq, Repr

/-- The list of upstream targets while it is being built: contexts that remain,
and the client read from the first of them. -/
structure TargetList where
  remaining : List Nat
  found : List PumpTarget := []
  client : Option Nat := none
  deriving DecidableEq, Repr

/-- The devices, the calls in progress, the queue and the pumps. -/
structure Hub where
  core : Core
  devices : DeviceManager BridgedContext := {}
  handling : List LocalThread := []
  gathering : Option TargetList := none
  clientsBuilt : Nat := 0

inductive HubAction where
  | ensureDevice (deviceId productId : String)
  | removeDevice (deviceId : String)
  | stopManager
  | startUpstream (object : Nat)
  | stopUpstream (object : Nat)
  | setReady (object : Nat) (ready : Bool)
  | receive (topic : String) (payload : List UInt8) (qos : Nat)
  | handle (thread : LocalThread) (bridge : MqttBridge) (later : LaterReads) (now : Rat)
  | cloudMessage (object : Nat) (topic : String) (payload : List UInt8) (qos : Nat) (now : Rat)
  | listDevices
  | readClient
  | readReady
  | pump (side : Side) (taken : PumpStep)
  | restart

namespace Hub

/-- A fresh process on a database, which it migrates. -/
def start (maxSizePerDirection : Nat) (database : Database) : Hub where
  core := { queue := ⟨maxSizePerDirection, migrateSchemaLocked database⟩ }

/-- The database file of a running process. -/
def database (hub : Hub) : Database where
  columns := Columns.current
  pendingMessages := hub.core.queue.pendingMessages
  absent := fun _ _ => ⟨nofun, nofun, nofun, nofun, nofun⟩

/-- The routing of `_on_local_message`: the context a message goes to. -/
def route (hub : Hub) (topic : String) : Option BridgedContext :=
  match parseTopic topic with
  | none => none
  | some address =>
      if address.isPost then
        (hub.devices.getByDeviceId address.deviceId).bind (fun object =>
          hub.devices.objects[object]?)
      else none

/-- The rest of `_on_local_message`, after the lookup. -/
def outcome (loads : Loads) (thread : LocalThread) (bridge : MqttBridge) (later : LaterReads) :
    LocalOutcome :=
  match bridge.ackRoute loads thread.deviceId thread.topic thread.payload with
  | .localOnly => .localOnly
  | _ => handleLocalMessage loads bridge.responder later thread.deviceId thread.productId
      thread.topic thread.payload thread.qos

/-- What ties a pass of the device-to-cloud pump to the devices. -/
def answers (hub : Hub) : Side -> PumpStep -> Bool
  | .localToUpstream, .beginPass targets =>
      decide (hub.gathering = some { remaining := [], found := targets })
  | _, _ => true

end Hub

/-- One step of the hub.  The state of the controller and of the responder at a
message, and the upstream state a call reads, come with the action. -/
def hubStep (settings : ReplaySettings) (loads : Loads) (hub : Hub) : HubAction -> Option Hub
  | .ensureDevice deviceId productId =>
      some { hub with
        devices := (hub.devices.ensureDevice deviceId
          { deviceId := deviceId, productId := productId }).1 }
  | .removeDevice deviceId =>
      some { hub with devices := (hub.devices.removeDevice deviceId).1 }
  | .stopManager => some { hub with devices := hub.devices.stop.1 }
  | .startUpstream object =>
      hub.devices.objects[object]?.bind (fun context =>
        match context.upstreamClient with
        | some _ => none
        | none => some { hub with
            devices := hub.devices.modify object (fun context => { context with
              upstreamClient := some hub.clientsBuilt, upstreamSubscriptionsReady := false })
            clientsBuilt := hub.clientsBuilt + 1 })
  | .stopUpstream object =>
      some { hub with
        devices := hub.devices.modify object (fun context => { context with
          upstreamClient := none, upstreamSubscriptionsReady := false }) }
  | .setReady object ready =>
      some { hub with
        devices := hub.devices.modify object (fun context => { context with
          upstreamSubscriptionsReady := ready }) }
  | .receive topic payload qos =>
      (hub.route topic).map (fun context => { hub with
        handling := { deviceId := context.deviceId, productId := context.productId, topic := topic,
                      payload := payload, qos := qos } :: hub.handling })
  | .handle thread bridge later now =>
      if thread ∈ hub.handling then
        some { hub with
          handling := hub.handling.erase thread
          core := { hub.core with
            queue := match Hub.outcome loads thread bridge later with
              | .enqueued call => (hub.core.queue.enqueue call now).1
              | _ => hub.core.queue } }
      else none
  | .cloudMessage object topic payload qos now =>
      hub.devices.objects[object]?.map (fun context => { hub with
        core := { hub.core with
          queue := (hub.core.queue.enqueue (enqueueCall loads
            { deviceId := context.deviceId, productId := context.productId,
              isCloudToDevice := true, topic := topic, payload := payload, qos := qos } false)
            now).1 } })
  | .listDevices =>
      match hub.core.localToUpstreamPump.phase with
      | .idle => some { hub with
          gathering := some { remaining := hub.devices.listDevices BridgedContext.deviceId } }
      | _ => none
  | .readClient =>
      match hub.gathering with
      | some { remaining := object :: rest, found, client := none } =>
          hub.devices.objects[object]?.map (fun context => { hub with
            gathering := some (match context.upstreamClient with
              | none => { remaining := rest, found := found }
              | some client => { remaining := object :: rest, found := found,
                                 client := some client }) })
      | _ => none
  | .readReady =>
      match hub.gathering with
      | some { remaining := object :: rest, found, client := some client } =>
          hub.devices.objects[object]?.map (fun context => { hub with
            gathering := some {
              remaining := rest
              found := found ++
                [⟨context.deviceId, client, context.upstreamSubscriptionsReady⟩] } })
      | _ => none
  | .pump side taken =>
      if hub.answers side taken then
        ((coreMachine settings).step hub.core (.pump side taken)).map
          (fun core => { hub with core := core })
      else none
  | .restart =>
      some { Hub.start hub.core.queue.maxSizePerDirection hub.database with
        clientsBuilt := hub.clientsBuilt }

def hubMachine (settings : ReplaySettings) (loads : Loads) : Machine Hub HubAction where
  step := hubStep settings loads

/-! ## What is noted -/

/-- A message that was taken up, and the devices that were bridged then. -/
structure Receipt where
  topic : String
  bridged : List String
  deriving DecidableEq, Repr

/-- One publish call of a pump. -/
structure Sent where
  side : Side
  client : Nat
  message : QueuedMessage
  deriving DecidableEq, Repr

/-- The device each client was built for, the messages taken up, the queue
calls they led to and the publish calls of both pumps. -/
structure RoutingLog where
  builtFor : List String := []
  receipts : List Receipt := []
  queued : List EnqueueCall := []
  sent : List Sent := []

def observeRouting (loads : Loads) (log : RoutingLog) (hub : Hub) : HubAction -> RoutingLog
  | .startUpstream object =>
      match hub.devices.objects[object]? with
      | some context => { log with builtFor := log.builtFor ++ [context.deviceId] }
      | none => log
  | .receive topic _ _ =>
      { log with receipts := log.receipts ++ [⟨topic, Dict.keys hub.devices.contexts⟩] }
  | .handle thread bridge later _ =>
      match Hub.outcome loads thread bridge later with
      | .enqueued call => { log with queued := log.queued ++ [call] }
      | _ => log
  | .pump side (.publish _) =>
      match (hub.core.pump side).phase with
      | .publishing visit message =>
          { log with sent := log.sent ++ [⟨side, visit.target.client, message⟩] }
      | _ => log
  | _ => log

/-- The hub, watched by the log. -/
def routingMachine (settings : ReplaySettings) (loads : Loads) :
    Machine (Hub × RoutingLog) HubAction :=
  (hubMachine settings loads).watched (observeRouting loads)

/-- The topic parses and names the device. -/
def Names (topic deviceId : String) : Prop :=
  exists address, parseTopic topic = some address ∧ address.deviceId = deviceId

/-- A message on the topic was taken up for the device, which it names in a
topic of device-to-cloud traffic and which was bridged then. -/
def Accepted (log : RoutingLog) (topic deviceId : String) : Prop :=
  exists receipt, receipt ∈ log.receipts ∧ receipt.topic = topic ∧ deviceId ∈ receipt.bridged ∧
    exists address, parseTopic topic = some address ∧ address.isPost = true ∧
      address.deviceId = deviceId

theorem Accepted.names {log : RoutingLog} {topic deviceId : String}
    (accepted : Accepted log topic deviceId) : Names topic deviceId := by
  rcases accepted with ⟨_, _, _, _, address, parsed, _, own⟩
  exact ⟨address, parsed, own⟩

/-! ## Devices and clients -/

/-- A target's client is authenticated as the target's device. -/
def Owned (builtFor : List String) (target : PumpTarget) : Prop :=
  builtFor[target.client]? = some target.deviceId

theorem getElem?_grown {builtFor : List String} {client : Nat} {device : String}
    (known : builtFor[client]? = some device) (other : String) :
    (builtFor ++ [other])[client]? = some device :=
  (List.getElem?_append_left (List.getElem?_eq_some_iff.mp known).1).trans known

/-- Contexts, their clients and the gathered targets belong together. -/
structure DevicesAgree (hub : Hub) (builtFor : List String) : Prop where
  keyed : hub.devices.Keyed BridgedContext.deviceId
  numbered : builtFor.length = hub.clientsBuilt
  owned : forall (object : Nat) (context : BridgedContext) (client : Nat),
    hub.devices.objects[object]? = some context -> context.upstreamClient = some client ->
    builtFor[client]? = some context.deviceId
  found : forall targets target, hub.gathering = some targets -> target ∈ targets.found ->
    Owned builtFor target
  reading : forall targets (object : Nat) rest (client : Nat),
    hub.gathering = some targets -> targets.remaining = object :: rest ->
    targets.client = some client ->
    exists context, hub.devices.objects[object]? = some context ∧
      builtFor[client]? = some context.deviceId

section Devices

variable {hub : Hub} {builtFor : List String}

theorem devicesAgree_start (maxSize : Nat) (database : Database) (built : Nat)
    (numbered : builtFor.length = built) :
    DevicesAgree { Hub.start maxSize database with clientsBuilt := built } builtFor where
  keyed := fun _ _ found => nomatch found
  numbered := numbered
  owned := fun object context client found => by
    simp only [Hub.start, List.getElem?_nil, reduceCtorEq] at found
  found := fun _ _ absent => nomatch absent
  reading := fun _ _ _ _ absent => nomatch absent

/-- Only the queue and the pumps or the calls in progress change. -/
theorem DevicesAgree.of_same (agree : DevicesAgree hub builtFor) {after : Hub}
    (devices : after.devices = hub.devices) (gathering : after.gathering = hub.gathering)
    (built : after.clientsBuilt = hub.clientsBuilt) : DevicesAgree after builtFor := by
  refine ⟨?_, ?_, ?_, ?_, ?_⟩
  · rw [devices]
    exact agree.keyed
  · rw [built]
    exact agree.numbered
  · rw [devices]
    exact agree.owned
  · rw [gathering]
    exact agree.found
  · rw [gathering, devices]
    exact agree.reading

/-- Forgetting devices leaves the objects alone. -/
theorem DevicesAgree.forget (agree : DevicesAgree hub builtFor)
    {devices : DeviceManager BridgedContext} (objects : devices.objects = hub.devices.objects)
    (keyed : devices.Keyed BridgedContext.deviceId) :
    DevicesAgree { hub with devices := devices } builtFor :=
  ⟨keyed, agree.numbered, objects ▸ agree.owned, agree.found, objects ▸ agree.reading⟩

/-- A new context has no client. -/
theorem DevicesAgree.ensureDevice (agree : DevicesAgree hub builtFor)
    (deviceId productId : String) :
    DevicesAgree { hub with
      devices := (hub.devices.ensureDevice deviceId
        { deviceId := deviceId, productId := productId }).1 } builtFor := by
  refine ⟨agree.keyed.ensureDevice rfl, agree.numbered, ?_, agree.found, ?_⟩
  · intro object context client found has
    simp only [DeviceManager.ensureDevice] at found
    split at found
    · exact agree.owned object context client found has
    · rw [List.getElem?_append] at found
      split at found
      · exact agree.owned object context client found has
      · rw [List.mem_singleton.mp (List.mem_of_getElem? found)] at has
        cases has
  · intro targets object rest client gathering remaining read
    rcases agree.reading targets object rest client gathering remaining read with
      ⟨context, there, own⟩
    exact ⟨context, DeviceManager.objects_ensureDevice there, own⟩

/-- A change of one context that keeps its identity, and its client or gives it
one that was built for it. -/
theorem DevicesAgree.modify (agree : DevicesAgree hub builtFor) (object : Nat)
    {change : BridgedContext -> BridgedContext}
    (identity : forall context, (change context).deviceId = context.deviceId)
    (clients : forall context client, hub.devices.objects[object]? = some context ->
      (change context).upstreamClient = some client ->
      builtFor[client]? = some context.deviceId) :
    DevicesAgree { hub with devices := hub.devices.modify object change } builtFor := by
  refine ⟨agree.keyed.modify object identity, agree.numbered, ?_, agree.found, ?_⟩
  · intro other context client found has
    rw [DeviceManager.objects_modify, Option.map_eq_some_iff] at found
    rcases found with ⟨old, there, same⟩
    split at same
    · next itself =>
        subst itself
        subst context
        rw [identity old]
        exact clients old client there has
    · subst context
      exact agree.owned other old client there has
  · intro targets other rest client gathering remaining read
    rcases agree.reading targets other rest client gathering remaining read with
      ⟨context, there, own⟩
    refine ⟨_, by rw [DeviceManager.objects_modify, there, Option.map_some], ?_⟩
    split
    · rw [identity context]
      exact own
    · exact own

/-- One more client does not change for whom the others were built. -/
theorem DevicesAgree.grown (agree : DevicesAgree hub builtFor) (deviceId : String) :
    DevicesAgree { hub with clientsBuilt := hub.clientsBuilt + 1 } (builtFor ++ [deviceId]) where
  keyed := agree.keyed
  numbered := by rw [List.length_append, agree.numbered]; rfl
  owned := fun object context client there has =>
    getElem?_grown (agree.owned object context client there has) deviceId
  found := fun targets target gathering member =>
    getElem?_grown (agree.found targets target gathering member) deviceId
  reading := by
    intro targets object rest client gathering remaining read
    rcases agree.reading targets object rest client gathering remaining read with
      ⟨context, there, own⟩
    exact ⟨context, there, getElem?_grown own deviceId⟩

/-- Reading the client of the first remaining context. -/
theorem DevicesAgree.readClient (agree : DevicesAgree hub builtFor) {object : Nat}
    {rest : List Nat} {found : List PumpTarget} {context : BridgedContext}
    (gathering : hub.gathering = some { remaining := object :: rest, found := found })
    (there : hub.devices.objects[object]? = some context) :
    DevicesAgree { hub with
      gathering := some (match context.upstreamClient with
        | none => { remaining := rest, found := found }
        | some client => { remaining := object :: rest, found := found,
                           client := some client }) } builtFor := by
  refine ⟨agree.keyed, agree.numbered, agree.owned, ?_, ?_⟩
  · intro targets target same member
    cases same
    refine agree.found _ target gathering ?_
    cases client : context.upstreamClient <;> rw [client] at member <;> exact member
  · intro targets other others client same remaining read
    cases same
    cases has : context.upstreamClient with
    | none =>
        rw [has] at read
        cases read
    | some number =>
        rw [has] at remaining read
        cases remaining
        exact ⟨context, there, agree.owned object context client there (has.trans read)⟩

/-- The target that is added has the device of the context its client came
from. -/
theorem DevicesAgree.readReady (agree : DevicesAgree hub builtFor) {object client : Nat}
    {rest : List Nat} {found : List PumpTarget} {context : BridgedContext}
    (gathering : hub.gathering =
      some { remaining := object :: rest, found := found, client := some client })
    (there : hub.devices.objects[object]? = some context) :
    DevicesAgree { hub with
      gathering := some {
        remaining := rest
        found := found ++
          [⟨context.deviceId, client, context.upstreamSubscriptionsReady⟩] } } builtFor := by
  refine ⟨agree.keyed, agree.numbered, agree.owned, ?_, ?_⟩
  · intro targets target same member
    cases same
    rcases List.mem_append.mp member with old | new
    · exact agree.found _ target gathering old
    · rw [List.mem_singleton.mp new]
      rcases agree.reading _ object rest client gathering rfl rfl with ⟨known, same, own⟩
      rw [there] at same
      cases same
      exact own
  · intro targets other others number same remaining read
    cases same
    cases read

end Devices

/-! ## Rows and pumps -/

/-- Rows of a device name it, the unparsable rows of the old database belong to
no device, and a pump visits clients of the devices it drains. -/
structure RowsAgree (orphans : List Nat) (core : Core) (builtFor : List String) : Prop where
  visited : forall target, target ∈ core.localToUpstreamPump.phase.targets ->
    Owned builtFor target
  rows : forall row deviceId, row ∈ core.queue.pendingMessages.rows ->
    row.2.direction = LOCAL_TO_UPSTREAM -> row.2.deviceId = some deviceId ->
    Names row.2.topic deviceId
  orphaned : forall row, row ∈ core.queue.pendingMessages.rows -> row.1 ∈ orphans ->
    row.2.deviceId = none
  earlier : forall id, id ∈ orphans -> id ≤ core.queue.pendingMessages.sequence
  held : forall side deviceId message, (core.pump side).phase.device? = some deviceId ->
    (core.pump side).phase.message? = some message ->
    message.id ∉ orphans ∧ (side = .localToUpstream -> Names message.topic deviceId)

section Rows

variable {orphans : List Nat} {core : Core} {builtFor : List String}

theorem RowsAgree.grown (agree : RowsAgree orphans core builtFor) (deviceId : String) :
    RowsAgree orphans core (builtFor ++ [deviceId]) :=
  { agree with
    visited := fun target member => getElem?_grown (agree.visited target member) deviceId }

/-- Inserting a row that names its device, if it is bound for the cloud. -/
theorem RowsAgree.enqueue (agree : RowsAgree orphans core builtFor) (call : EnqueueCall)
    (now : Rat) (named : call.direction = LOCAL_TO_UPSTREAM -> Names call.topic call.deviceId) :
    RowsAgree orphans { core with queue := (core.queue.enqueue call now).1 } builtFor := by
  refine ⟨agree.visited, ?_, ?_, ?_, ?_⟩
  · intro row deviceId member direction device
    rcases core.queue.mem_rows_enqueue call now member with old | new
    · exact agree.rows row deviceId old direction device
    · rw [new] at direction device ⊢
      cases device
      exact named direction
  · intro row member orphan
    rcases core.queue.mem_rows_enqueue call now member with old | new
    · exact agree.orphaned row old orphan
    · rw [new] at orphan
      have bound := agree.earlier _ orphan
      dsimp only at bound
      omega
  · intro id member
    have bound := agree.earlier id member
    rw [MessageQueue.sequence_enqueue]
    omega
  · intro side
    rw [Core.pump_with_queue]
    exact agree.held side

/-- A row a peek reports has a device, so it is no orphan, and it names the
device it is reported for. -/
theorem RowsAgree.peeked (agree : RowsAgree orphans core builtFor) {side : Side}
    {settings : ReplaySettings} {deviceId : String} {prioritizeLive : Bool}
    {message : QueuedMessage}
    (found : core.queue.peekOldest deviceId (settings.pumpConfig side).direction
      prioritizeLive = some message) :
    message.id ∉ orphans ∧ (side = .localToUpstream -> Names message.topic deviceId) := by
  rcases MessageQueue.row_of_peekOldest found with ⟨row, member, rfl⟩
  rcases (core.queue.mem_partition_iff _ _ row).mp member with ⟨stored, device, direction⟩
  refine ⟨?_, ?_⟩
  · intro orphan
    rw [agree.orphaned row stored orphan] at device
    cases device
  · intro cloud
    subst cloud
    exact agree.rows row deviceId stored direction device

theorem RowsAgree.pump (agree : RowsAgree orphans core builtFor) {settings : ReplaySettings}
    {after : Core} {side : Side} {taken : PumpStep}
    (stepped : (coreMachine settings).step core (.pump side taken) = some after)
    (brought : forall targets, side = .localToUpstream -> taken = .beginPass targets ->
      forall target, target ∈ targets -> Owned builtFor target) :
    RowsAgree orphans after builtFor := by
  rcases coreMachine_pump stepped with ⟨effect, still⟩
  have kept : forall row, row ∈ after.queue.pendingMessages.rows ->
      exists old, old ∈ core.queue.pendingMessages.rows ∧ row.1 = old.1 ∧
        row.2.deviceId = old.2.deviceId ∧ row.2.direction = old.2.direction ∧
        row.2.topic = old.2.topic := by
    intro row member
    rcases effect.later.rows row member with ⟨old, oldMember, same, _⟩ | new
    · rw [same]
      exact ⟨old, oldMember, rfl, rfl, rfl, rfl⟩
    · have bound := after.queue.pendingMessages.bounded row member
      rw [effect.sequence_eq] at bound
      omega
  refine ⟨?_, ?_, ?_, ?_, ?_⟩
  · intro target member
    cases side with
    | upstreamToLocal =>
        refine agree.visited target ?_
        have same : after.localToUpstreamPump = core.localToUpstreamPump :=
          still .localToUpstream nofun
        rw [← same]
        exact member
    | localToUpstream =>
        rcases step_targets (coreMachine_stepped stepped) with before | ⟨targets, begun, within⟩
        · exact agree.visited target (before target member)
        · exact brought targets rfl begun target (within target member)
  · intro row deviceId member direction device
    rcases kept row member with ⟨old, oldMember, _, sameDevice, sameDirection, sameTopic⟩
    rw [sameTopic]
    exact agree.rows old deviceId oldMember (sameDirection ▸ direction) (sameDevice ▸ device)
  · intro row member orphan
    rcases kept row member with ⟨old, oldMember, sameId, sameDevice, _, _⟩
    rw [sameDevice]
    exact agree.orphaned old oldMember (sameId ▸ orphan)
  · rw [effect.sequence_eq]
    exact agree.earlier
  · intro other deviceId message device holds
    by_cases own : other = side
    · subst other
      rcases effect.held holds with ⟨peekedFor, there, found⟩ | ⟨before, same⟩
      · have sameDevice : peekedFor = deviceId := Option.some.inj (there.symm.trans device)
        rw [sameDevice] at found
        exact agree.peeked found
      · exact agree.held side deviceId message (same ▸ device) before
    · rw [still other own] at device holds
      exact agree.held other deviceId message device holds

/-- A new process on the same rows. -/
theorem RowsAgree.restart (agree : RowsAgree orphans core builtFor) :
    RowsAgree orphans { queue := core.queue } builtFor where
  visited := fun _ absent => nomatch absent
  rows := agree.rows
  orphaned := agree.orphaned
  earlier := agree.earlier
  held := fun side _ _ absent => by cases side <;> cases absent

end Rows

/-! ## Messages and the log -/

/-- The calls in progress, the queue calls and the publish calls go back to
accepted messages and to clients of the right devices. -/
structure LogAgrees (orphans : List Nat) (handling : List LocalThread) (log : RoutingLog) :
    Prop where
  handling : forall thread, thread ∈ handling -> Accepted log thread.topic thread.deviceId
  queued : forall call, call ∈ log.queued -> Accepted log call.topic call.deviceId
  sent : forall publish, publish ∈ log.sent -> publish.message.id ∉ orphans ∧
    (publish.side = .localToUpstream -> exists deviceId,
      log.builtFor[publish.client]? = some deviceId ∧ Names publish.message.topic deviceId)

/-- What a message of a feeder is queued as. -/
theorem outcome_enqueued {loads : Loads} {thread : LocalThread} {bridge : MqttBridge}
    {later : LaterReads} {call : EnqueueCall}
    (found : Hub.outcome loads thread bridge later = .enqueued call) :
    call.topic = thread.topic ∧ call.deviceId = thread.deviceId := by
  have queue : forall queued : LocalOutcome, queued = enqueue loads later thread.deviceId
      thread.productId thread.topic thread.payload thread.qos -> queued = .enqueued call ->
      call.topic = thread.topic ∧ call.deviceId = thread.deviceId := by
    intro queued origin same
    rw [origin, enqueue_none] at same
    split at same <;> cases same
    exact ⟨rfl, rfl⟩
  rw [Hub.outcome] at found
  split at found
  · cases found
  · simp only [handleLocalMessage, Bool.false_eq_true, if_false] at found
    split at found
    · exact queue _ rfl found
    · split at found
      · cases found
      · cases found
      · cases found
      · exact queue _ rfl found

section Log

variable {orphans : List Nat} {handling : List LocalThread} {log : RoutingLog}

theorem Accepted.grown {topic deviceId : String} (accepted : Accepted log topic deviceId)
    {later : RoutingLog} (grows : forall receipt, receipt ∈ log.receipts ->
      receipt ∈ later.receipts) : Accepted later topic deviceId := by
  rcases accepted with ⟨receipt, member, facts⟩
  exact ⟨receipt, grows receipt member, facts⟩

theorem LogAgrees.built (agrees : LogAgrees orphans handling log) (deviceId : String) :
    LogAgrees orphans handling { log with builtFor := log.builtFor ++ [deviceId] } where
  handling := agrees.handling
  queued := agrees.queued
  sent := by
    intro publish member
    rcases agrees.sent publish member with ⟨parsed, owned⟩
    refine ⟨parsed, fun cloud => ?_⟩
    rcases owned cloud with ⟨owner, known, named⟩
    exact ⟨owner, getElem?_grown known deviceId, named⟩

/-- Taking up a message for the device it is routed to. -/
theorem LogAgrees.receive {hub : Hub} {context : BridgedContext} {topic : String}
    (agrees : LogAgrees orphans handling log)
    (keyed : hub.devices.Keyed BridgedContext.deviceId)
    (routed : hub.route topic = some context) (payload : List UInt8) (qos : Nat) :
    LogAgrees orphans
      ({ deviceId := context.deviceId, productId := context.productId, topic := topic,
         payload := payload, qos := qos } :: handling)
      { log with receipts := log.receipts ++ [⟨topic, Dict.keys hub.devices.contexts⟩] } := by
  have grows : forall receipt, receipt ∈ log.receipts ->
      receipt ∈ log.receipts ++ [⟨topic, Dict.keys hub.devices.contexts⟩] :=
    fun _ member => List.mem_append_left _ member
  refine ⟨?_, fun call member => (agrees.queued call member).grown grows, agrees.sent⟩
  intro thread member
  rcases List.mem_cons.mp member with itself | old
  · rw [itself, Accepted]
    simp only [Hub.route] at routed
    split at routed
    · cases routed
    · next address parsed =>
        split at routed
        · next post =>
            rcases Option.bind_eq_some_iff.mp routed with ⟨object, found, there⟩
            rcases keyed address.deviceId object found with ⟨known, same, own⟩
            rw [there] at same
            cases same
            refine ⟨_, List.mem_append_right _ (List.mem_singleton.mpr rfl), rfl, ?_, address,
              parsed, post, own.symm⟩
            rw [own]
            exact List.mem_map_of_mem (Dict.mem_of_get?_eq_some found)
        · cases routed
  · exact (agrees.handling thread old).grown grows

theorem LogAgrees.handle {loads : Loads} {thread : LocalThread} {bridge : MqttBridge}
    {later : LaterReads} (agrees : LogAgrees orphans handling log)
    (begun : thread ∈ handling) (hub : Hub) (now : Rat) :
    LogAgrees orphans (handling.erase thread)
      (observeRouting loads log hub (.handle thread bridge later now)) := by
  have fewer : forall other, other ∈ handling.erase thread ->
      Accepted log other.topic other.deviceId :=
    fun other member => agrees.handling other (List.mem_of_mem_erase member)
  simp only [observeRouting]
  split
  · next call found =>
      refine ⟨fewer, ?_, agrees.sent⟩
      intro other member
      rcases List.mem_append.mp member with old | new
      · exact agrees.queued other old
      · rw [List.mem_singleton.mp new, (outcome_enqueued found).1, (outcome_enqueued found).2]
        exact agrees.handling thread begun
  · exact ⟨fewer, agrees.queued, agrees.sent⟩

/-- A publish call goes over the client of the target being drained. -/
theorem LogAgrees.pump {loads : Loads} {hub : Hub} (agrees : LogAgrees orphans handling log)
    (rows : RowsAgree orphans hub.core log.builtFor) (side : Side) (taken : PumpStep) :
    LogAgrees orphans handling (observeRouting loads log hub (.pump side taken)) := by
  cases taken with
  | publish outcome =>
      simp only [observeRouting]
      split
      · next visit message place =>
          refine ⟨agrees.handling, agrees.queued, ?_⟩
          intro publish member
          rcases List.mem_append.mp member with old | new
          · exact agrees.sent publish old
          · rw [List.mem_singleton.mp new]
            rcases rows.held side visit.target.deviceId message (by rw [place]; rfl)
              (by rw [place]; rfl) with ⟨parsed, named⟩
            refine ⟨parsed, fun cloud => ⟨visit.target.deviceId, ?_, named cloud⟩⟩
            dsimp only at cloud
            subst cloud
            refine rows.visited visit.target ?_
            have there : hub.core.localToUpstreamPump.phase = .publishing visit message := place
            rw [there]
            exact List.mem_cons_self
      · exact ⟨agrees.handling, agrees.queued, agrees.sent⟩
  | _ => exact ⟨agrees.handling, agrees.queued, agrees.sent⟩

end Log

/-! ## Runs -/

/-- The three parts of the invariant. -/
structure Isolated (orphans : List Nat) (state : Hub × RoutingLog) : Prop where
  devices : DevicesAgree state.1 state.2.builtFor
  rows : RowsAgree orphans state.1.core state.2.builtFor
  log : LogAgrees orphans state.1.handling state.2

section Steps

variable {settings : ReplaySettings} {loads : Loads} {orphans : List Nat} {hub next : Hub}
  {log : RoutingLog}

/-- Giving a context a client. -/
theorem Isolated.startUpstream (isolated : Isolated orphans (hub, log)) {object : Nat}
    (stepped : (hubMachine settings loads).step hub (.startUpstream object) = some next) :
    Isolated orphans (next, observeRouting loads log hub (.startUpstream object)) := by
  rcases isolated with ⟨devices, rows, logged⟩
  simp only [hubMachine, hubStep, Option.bind_eq_some_iff] at stepped
  rcases stepped with ⟨context, there, begun⟩
  split at begun <;> cases begun
  simp only [observeRouting, there]
  refine ⟨?_, rows.grown context.deviceId, logged.built context.deviceId⟩
  refine (devices.grown context.deviceId).modify object (fun _ => rfl) ?_
  intro other client same has
  cases has
  rw [there] at same
  cases same
  rw [← devices.numbered]
  exact List.getElem?_concat_length

/-- Changes of a context that bring no client. -/
theorem Isolated.modify (isolated : Isolated orphans (hub, log)) (object : Nat)
    {change : BridgedContext -> BridgedContext}
    (identity : forall context, (change context).deviceId = context.deviceId)
    (clients : forall context client, (change context).upstreamClient = some client ->
      context.upstreamClient = some client) :
    Isolated orphans ({ hub with devices := hub.devices.modify object change }, log) where
  devices := isolated.devices.modify object identity (fun context client there has =>
    isolated.devices.owned object context client there (clients context client has))
  rows := isolated.rows
  log := isolated.log

/-- The end of a call for a message of a feeder. -/
theorem Isolated.handle (isolated : Isolated orphans (hub, log)) {thread : LocalThread}
    {bridge : MqttBridge} {later : LaterReads} {now : Rat}
    (stepped : (hubMachine settings loads).step hub (.handle thread bridge later now) =
      some next) :
    Isolated orphans (next, observeRouting loads log hub (.handle thread bridge later now)) := by
  rcases isolated with ⟨devices, rows, logged⟩
  simp only [hubMachine, hubStep] at stepped
  split at stepped
  · next begun =>
      cases stepped
      have built : (observeRouting loads log hub
          (.handle thread bridge later now)).builtFor = log.builtFor := by
        simp only [observeRouting]
        split <;> rfl
      refine ⟨?_, ?_, logged.handle begun hub now⟩
      · dsimp only
        rw [built]
        exact devices.of_same rfl rfl rfl
      · dsimp only
        rw [built]
        cases found : Hub.outcome loads thread bridge later with
        | enqueued call =>
            refine rows.enqueue call now (fun _ => ?_)
            rw [(outcome_enqueued found).1, (outcome_enqueued found).2]
            exact (logged.handling thread begun).names
        | _ => exact rows
  · cases stepped

/-- A message of the cloud goes to the context of the client it came over. -/
theorem Isolated.cloudMessage (isolated : Isolated orphans (hub, log)) {object : Nat}
    {topic : String} {payload : List UInt8} {qos : Nat} {now : Rat}
    (stepped : (hubMachine settings loads).step hub
      (.cloudMessage object topic payload qos now) = some next) :
    Isolated orphans (next, log) := by
  rcases isolated with ⟨devices, rows, logged⟩
  simp only [hubMachine, hubStep, Option.map_eq_some_iff] at stepped
  rcases stepped with ⟨context, _, same⟩
  subst next
  refine ⟨devices.of_same rfl rfl rfl, rows.enqueue _ now ?_, logged⟩
  intro impossible
  have different : UPSTREAM_TO_LOCAL ≠ LOCAL_TO_UPSTREAM := by decide
  exact absurd impossible different

/-- The three reads of a gathering of targets. -/
theorem Isolated.gather (isolated : Isolated orphans (hub, log)) {action : HubAction}
    (reads : action = .listDevices ∨ action = .readClient ∨ action = .readReady)
    (stepped : (hubMachine settings loads).step hub action = some next) :
    Isolated orphans (next, log) := by
  rcases isolated with ⟨devices, rows, logged⟩
  rcases reads with listed | client | ready
  · subst action
    simp only [hubMachine, hubStep] at stepped
    split at stepped <;> cases stepped
    refine ⟨⟨devices.keyed, devices.numbered, devices.owned, ?_, ?_⟩, rows, logged⟩
    · intro targets target same member
      cases same
      cases member
    · intro targets object rest client same _ read
      cases same
      cases read
  · subst action
    simp only [hubMachine, hubStep] at stepped
    split at stepped
    · next object rest found gathering =>
        rw [Option.map_eq_some_iff] at stepped
        rcases stepped with ⟨context, there, same⟩
        subst next
        exact ⟨devices.readClient gathering there, rows, logged⟩
    · cases stepped
  · subst action
    simp only [hubMachine, hubStep] at stepped
    split at stepped
    · next object rest found client gathering =>
        rw [Option.map_eq_some_iff] at stepped
        rcases stepped with ⟨context, there, same⟩
        subst next
        exact ⟨devices.readReady gathering there, rows, logged⟩
    · cases stepped

/-- A step of a pump, which begins a pass with the gathered targets. -/
theorem Isolated.pump (isolated : Isolated orphans (hub, log)) {side : Side} {taken : PumpStep}
    (stepped : (hubMachine settings loads).step hub (.pump side taken) = some next) :
    Isolated orphans (next, observeRouting loads log hub (.pump side taken)) := by
  rcases isolated with ⟨devices, rows, logged⟩
  simp only [hubMachine, hubStep] at stepped
  split at stepped
  · next answered =>
      rw [Option.map_eq_some_iff] at stepped
      rcases stepped with ⟨core, pumped, same⟩
      subst next
      have built : (observeRouting loads log hub (.pump side taken)).builtFor =
          log.builtFor := by
        cases taken with
        | publish outcome =>
            simp only [observeRouting]
            split <;> rfl
        | _ => rfl
      refine ⟨?_, ?_, logged.pump rows side taken⟩
      · dsimp only
        rw [built]
        exact devices.of_same rfl rfl rfl
      · dsimp only
        rw [built]
        refine rows.pump pumped ?_
        rintro targets rfl rfl target member
        rw [Hub.answers, decide_eq_true_eq] at answered
        exact devices.found _ target answered member
  · cases stepped

end Steps

theorem isolated_step {settings : ReplaySettings} {loads : Loads} {orphans : List Nat}
    {state after : Hub × RoutingLog} {action : HubAction} (isolated : Isolated orphans state)
    (moved : (routingMachine settings loads).step state action = some after) :
    Isolated orphans after := by
  rcases Machine.watched_step moved with ⟨stepped, noted⟩
  rcases state with ⟨hub, log⟩
  rcases after with ⟨next, noted'⟩
  dsimp only at stepped noted
  subst noted
  cases action with
  | ensureDevice deviceId productId =>
      cases stepped
      exact ⟨isolated.devices.ensureDevice deviceId productId, isolated.rows, isolated.log⟩
  | removeDevice deviceId =>
      cases stepped
      exact ⟨isolated.devices.forget rfl (isolated.devices.keyed.removeDevice deviceId),
        isolated.rows, isolated.log⟩
  | stopManager =>
      cases stepped
      exact ⟨isolated.devices.forget rfl (fun _ _ found => nomatch found), isolated.rows,
        isolated.log⟩
  | startUpstream object => exact isolated.startUpstream stepped
  | stopUpstream object =>
      cases stepped
      exact isolated.modify object (fun _ => rfl) (fun _ _ impossible => nomatch impossible)
  | setReady object ready =>
      cases stepped
      exact isolated.modify object (fun _ => rfl) (fun _ _ has => has)
  | receive topic payload qos =>
      simp only [hubMachine, hubStep, Option.map_eq_some_iff] at stepped
      rcases stepped with ⟨context, routed, same⟩
      subst next
      exact ⟨isolated.devices.of_same rfl rfl rfl, isolated.rows,
        isolated.log.receive isolated.devices.keyed routed payload qos⟩
  | handle thread bridge later now => exact isolated.handle stepped
  | cloudMessage object topic payload qos now => exact isolated.cloudMessage stepped
  | listDevices => exact isolated.gather (Or.inl rfl) stepped
  | readClient => exact isolated.gather (Or.inr (Or.inl rfl)) stepped
  | readReady => exact isolated.gather (Or.inr (Or.inr rfl)) stepped
  | pump side taken => exact isolated.pump stepped
  | restart =>
      cases stepped
      refine ⟨devicesAgree_start _ _ _ isolated.devices.numbered, isolated.rows.restart, ?_,
        isolated.log.queued, isolated.log.sent⟩
      intro thread absent
      cases absent

/-- The rows of an old database whose topics do not parse. -/
def orphanIds (database : Database) : List Nat :=
  ((database.pendingMessages.rows).filter (fun row =>
    (parseTopic row.2.topic).isNone)).map Prod.fst

theorem isolated_start (maxSize : Nat) (database : LegacyDatabase) :
    Isolated (orphanIds database.toDatabase) (Hub.start maxSize database.toDatabase, {}) := by
  refine ⟨devicesAgree_start _ _ 0 rfl, ⟨?_, ?_, ?_, ?_, ?_⟩, ?_, ?_, ?_⟩
  · intro target absent
    cases absent
  · intro row deviceId member _ device
    rw [(deviceId_of_migrated member).1, Option.map_eq_some_iff] at device
    exact device
  · intro row member orphan
    rcases deviceId_of_migrated member with ⟨device, old, oldMember, sameId, sameTopic⟩
    rcases List.mem_map.mp orphan with ⟨other, selected, sameKey⟩
    rcases List.mem_filter.mp selected with ⟨otherMember, unparsed⟩
    have equal := database.pendingMessages.eq_of_same_id otherMember oldMember
      (sameKey.trans sameId.symm)
    rw [equal, sameTopic, Option.isNone_iff_eq_none] at unparsed
    rw [device, unparsed, Option.map_none]
  · intro id orphan
    rcases List.mem_map.mp orphan with ⟨other, selected, sameKey⟩
    rw [← sameKey]
    have bound := database.pendingMessages.bounded other (List.mem_filter.mp selected).1
    simp only [Hub.start, migrateSchemaLocked]
    split <;> exact bound
  · intro side deviceId message device
    cases side <;> cases device
  · intro thread absent
    cases absent
  · intro call absent
    cases absent
  · intro publish absent
    cases absent

/-- In every run on a migrated database: a row for the cloud with a device has a
topic that names it, a message sent over a cloud client names the device the
client was built for, a message of a feeder is queued only if it was taken up on
a topic of device-to-cloud traffic that names a device bridged then, and a row
of the old database whose topic does not parse is never sent. -/
theorem no_cross_device_traffic (settings : ReplaySettings) (loads : Loads) (maxSize : Nat)
    (database : LegacyDatabase) (actions : List HubAction) :
    let state := (routingMachine settings loads).run
      (Hub.start maxSize database.toDatabase, {}) actions
    (forall row deviceId, row ∈ state.1.core.queue.pendingMessages.rows ->
      row.2.direction = LOCAL_TO_UPSTREAM -> row.2.deviceId = some deviceId ->
      Names row.2.topic deviceId) ∧
    (forall publish, publish ∈ state.2.sent -> publish.side = .localToUpstream ->
      exists deviceId, state.2.builtFor[publish.client]? = some deviceId ∧
        Names publish.message.topic deviceId) ∧
    (forall call, call ∈ state.2.queued -> Accepted state.2 call.topic call.deviceId) ∧
    (forall row, row ∈ database.pendingMessages.rows -> parseTopic row.2.topic = none ->
      forall publish, publish ∈ state.2.sent -> publish.message.id ≠ row.1) := by
  intro state
  have isolated : Isolated (orphanIds database.toDatabase) state :=
    Machine.run_invariant _ (Isolated (orphanIds database.toDatabase))
      (fun _ _ _ isolated moved => isolated_step isolated moved) _ actions
      (isolated_start maxSize database)
  refine ⟨isolated.rows.rows, fun publish member => (isolated.log.sent publish member).2,
    isolated.log.queued, ?_⟩
  intro row member unparsed publish sent same
  refine (isolated.log.sent publish sent).1 ?_
  refine List.mem_map.mpr ⟨row, List.mem_filter.mpr ⟨member, ?_⟩, same.symm⟩
  rw [unparsed]
  rfl

end Bridge
end PetlibroRelay
