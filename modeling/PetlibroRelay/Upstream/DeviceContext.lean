import PetlibroRelay.Foundations.Machine
import PetlibroRelay.Protocol.ReplayPolicy
import PetlibroRelay.Pump.SharedQueue
import PetlibroRelay.Upstream.Telemetry

namespace PetlibroRelay
namespace Upstream

open Foundations
open Protocol
open Pump
open Queue

/-!
# Device contexts and the relay machine

A device context owns the cloud session of one device.  This machine puts the
contexts around the queue and the pumps, at the grain of the locks: a section
under the lifecycle lock, one telemetry method, one queue method and one read
of a shared value are steps of their own.

The MQTT client library is represented by what the relay asks it.  A client is
named by its device and by its number among the clients built for that device,
and it is connected or not.  When the cloud accepts or drops a connection, which
telemetry method a callback reaches and what a publish returns are left to the
environment.

Two components are only observed.  `sessions` counts the sessions ever
established, and `stamp` notes for each row how many there were when the row was
inserted, so that a row was queued before a session exactly when its stamp is
smaller than the session's number.
-/

structure DeviceContext where
  productId : String := PRODUCT_ID
  upstreamClient : Option Nat := none
  clientsBuilt : Nat := 0
  upstreamSubscriptionsReady : Bool := true
  telemetry : DeviceTelemetry := {}
  deriving DecidableEq, Repr

namespace DeviceContext

/-- The locked section of `start_upstream`: a fresh client, unless there is a
current one. -/
def startUpstream (context : DeviceContext) : Option DeviceContext :=
  match context.upstreamClient with
  | some _ => none
  | none => some { context with
      upstreamClient := some context.clientsBuilt
      clientsBuilt := context.clientsBuilt + 1
      upstreamSubscriptionsReady := false }

/-- The locked section of `stop_upstream`. -/
def stopUpstream (context : DeviceContext) : Option DeviceContext :=
  match context.upstreamClient with
  | none => none
  | some _ => some { context with
      upstreamClient := none
      upstreamSubscriptionsReady := false }

end DeviceContext

/-- The direction name of a message flow. -/
def directionOf (isCloudToDevice : Bool) : String :=
  if isCloudToDevice then UPSTREAM_TO_LOCAL else LOCAL_TO_UPSTREAM

/-- One call of `DeviceContext._enqueue` that has passed its first look at the
upstream state.  The second look decides liveness and comes later. -/
structure EnqueueThread where
  deviceId : String
  productId : String
  isCloudToDevice : Bool
  topic : String
  payload : List UInt8
  qos : Nat
  isLive : Option Bool := none
  deriving DecidableEq, Repr

/-- Whether the message may enter the queue at all. -/
def mayEnqueue (loads : Loads) (isCloudToDevice : Bool) (payload : List UInt8)
    (upstream : UpstreamState) : Bool :=
  shouldEnqueue (policyFor isCloudToDevice (extractCommand loads payload)) upstream.isOnline

/-- The queue call `_enqueue` makes once liveness is decided. -/
def enqueueCall (loads : Loads) (thread : EnqueueThread) (isLive : Bool) : EnqueueCall :=
  let command := extractCommand loads thread.payload
  let policy := policyFor thread.isCloudToDevice command
  { deviceId := thread.deviceId
    direction := directionOf thread.isCloudToDevice
    topic := thread.topic
    payload := thread.payload
    qos := thread.qos
    coalesceKey := coalesceKeyFor loads thread.topic command policy thread.payload
    productId := thread.productId
    maxAgeSeconds := policy.maxAgeSeconds
    isLive := isLive }

/-! ## The relay machine -/

/-- The target list of the device-to-cloud pump while it is being built: one
read of the client and one of the readiness for each device. -/
structure Gathering where
  remaining : List String
  found : List PumpTarget := []
  client : Option Nat := none
  deriving DecidableEq, Repr

structure Relay where
  core : Core
  contexts : Dict String DeviceContext := []
  connections : Dict (String × Nat) Nat := []
  enqueues : List EnqueueThread := []
  gathering : Option Gathering := none
  sessions : Nat := 0
  stamp : Nat -> Nat := fun _ => 0

/-- The session a target's client is connected in, if it is connected. -/
def Relay.session? (relay : Relay) (target : PumpTarget) : Option Nat :=
  Dict.get? relay.connections (target.deviceId, target.client)

inductive RelayAction where
  | ensureDevice (deviceId productId : String)
  | startUpstream (deviceId : String)
  | stopUpstream (deviceId : String)
  | telemetry (deviceId : String) (call : TelemetryCall) (now : Rat)
  | connack (deviceId : String) (client : Nat)
  | connectionLost (deviceId : String) (client : Nat)
  | setReady (deviceId : String) (ready : Bool)
  | beginEnqueue (deviceId : String) (isCloudToDevice : Bool) (topic : String)
      (payload : List UInt8) (qos : Nat)
  | readLive (thread : EnqueueThread)
  | insert (thread : EnqueueThread) (now : Rat)
  | listDevices
  | readClient
  | readReady
  | pump (side : Side) (taken : PumpStep)
  | restart
  deriving DecidableEq, Repr

/-- What ties a step of the device-to-cloud pump to the rest of the relay: its
targets are the gathered ones and its clients answer truthfully. -/
def Relay.answers (relay : Relay) : Side -> PumpStep -> Bool
  | .localToUpstream, .beginPass targets =>
      decide (relay.gathering = some { remaining := [], found := targets })
  | .localToUpstream, .checkConnected connected =>
      match relay.core.localToUpstreamPump.phase with
      | .visiting (target :: _) => decide (connected = (relay.session? target).isSome)
      | _ => false
  | _, _ => true

/-- The context of a bridged device replaced by a changed one. -/
def Relay.withContext (relay : Relay) (deviceId : String)
    (change : DeviceContext -> Option DeviceContext) : Option Relay :=
  (Dict.get? relay.contexts deviceId).bind (fun context =>
    (change context).map (fun changed =>
      { relay with contexts := Dict.set relay.contexts deviceId changed }))

/-- Every device the manager lists, in the order of their identifiers. -/
def Relay.listDevices (relay : Relay) : List String :=
  (Dict.keys relay.contexts).insertionSort (· ≤ ·)

def relayStep (settings : ReplaySettings) (loads : Loads) (relay : Relay) :
    RelayAction -> Option Relay
  | .ensureDevice deviceId productId =>
      match Dict.get? relay.contexts deviceId with
      | some _ => none
      | none => some { relay with
          contexts := Dict.set relay.contexts deviceId { productId := productId } }
  | .startUpstream deviceId => relay.withContext deviceId DeviceContext.startUpstream
  | .stopUpstream deviceId => relay.withContext deviceId DeviceContext.stopUpstream
  | .telemetry deviceId call now =>
      relay.withContext deviceId
        (fun context => some { context with telemetry := context.telemetry.apply now call })
  | .connack deviceId client =>
      match Dict.get? relay.connections (deviceId, client) with
      | some _ => none
      | none =>
          (Dict.get? relay.contexts deviceId).bind (fun context =>
            if client < context.clientsBuilt then
              some { relay with
                connections := Dict.set relay.connections (deviceId, client) (relay.sessions + 1)
                sessions := relay.sessions + 1 }
            else none)
  | .connectionLost deviceId client =>
      some { relay with connections := Dict.erase relay.connections (deviceId, client) }
  | .setReady deviceId ready =>
      relay.withContext deviceId
        (fun context => some { context with upstreamSubscriptionsReady := ready })
  | .beginEnqueue deviceId isCloudToDevice topic payload qos =>
      (Dict.get? relay.contexts deviceId).bind (fun context =>
        if mayEnqueue loads isCloudToDevice payload context.telemetry.upstreamState then
          some { relay with
            enqueues := { deviceId := deviceId, productId := context.productId,
                          isCloudToDevice := isCloudToDevice, topic := topic,
                          payload := payload, qos := qos } :: relay.enqueues }
        else none)
  | .readLive thread =>
      if thread ∈ relay.enqueues ∧ thread.isLive = none then
        (Dict.get? relay.contexts thread.deviceId).map (fun context =>
          { relay with
            enqueues :=
              { thread with
                isLive := some (!thread.isCloudToDevice &&
                  context.telemetry.upstreamState.isOnline) } ::
                relay.enqueues.erase thread })
      else none
  | .insert thread now =>
      if thread ∈ relay.enqueues then
        thread.isLive.map (fun isLive =>
          { relay with
            core := { relay.core with
              queue := (relay.core.queue.enqueue (enqueueCall loads thread isLive) now).1 }
            enqueues := relay.enqueues.erase thread
            stamp := Function.update relay.stamp
              (relay.core.queue.pendingMessages.sequence + 1) relay.sessions })
      else none
  | .listDevices =>
      match relay.core.localToUpstreamPump.phase with
      | .idle => some { relay with gathering := some { remaining := relay.listDevices } }
      | _ => none
  | .readClient =>
      match relay.gathering with
      | some { remaining := deviceId :: rest, found, client := none } =>
          (Dict.get? relay.contexts deviceId).map (fun context =>
            match context.upstreamClient with
            | none => { relay with gathering := some { remaining := rest, found := found } }
            | some client => { relay with
                gathering := some { remaining := deviceId :: rest, found := found,
                                    client := some client } })
      | _ => none
  | .readReady =>
      match relay.gathering with
      | some { remaining := deviceId :: rest, found, client := some client } =>
          (Dict.get? relay.contexts deviceId).map (fun context =>
            { relay with
              gathering := some {
                remaining := rest
                found := found ++ [⟨deviceId, client, context.upstreamSubscriptionsReady⟩] } })
      | _ => none
  | .pump side taken =>
      if relay.answers side taken then
        ((coreMachine settings).step relay.core (.pump side taken)).map
          (fun core => { relay with core := core })
      else none
  | .restart =>
      some { core := { queue := relay.core.queue }, sessions := relay.sessions,
             stamp := relay.stamp }

/-- The relay around the queue and its pumps. -/
def relayMachine (settings : ReplaySettings) (loads : Loads) : Machine Relay RelayAction where
  step := relayStep settings loads

/-- A fresh process on a database without pending rows. -/
def Relay.initial (maxSizePerDirection sequence : Nat) : Relay where
  core := Core.initial maxSizePerDirection sequence

/-! ## What a step can do -/

/-- Every step of the relay with the guard it has passed. -/
inductive RelayMove (settings : ReplaySettings) (loads : Loads) (relay after : Relay) :
    RelayAction -> Prop where
  | ensured (deviceId productId : String) (absent : Dict.get? relay.contexts deviceId = none)
      (changed : after = { relay with
        contexts := Dict.set relay.contexts deviceId { productId := productId } }) :
      RelayMove settings loads relay after (.ensureDevice deviceId productId)
  | started (deviceId : String)
      (changed : relay.withContext deviceId DeviceContext.startUpstream = some after) :
      RelayMove settings loads relay after (.startUpstream deviceId)
  | stopped (deviceId : String)
      (changed : relay.withContext deviceId DeviceContext.stopUpstream = some after) :
      RelayMove settings loads relay after (.stopUpstream deviceId)
  | recorded (deviceId : String) (call : TelemetryCall) (now : Rat)
      (changed : relay.withContext deviceId (fun context =>
        some { context with telemetry := context.telemetry.apply now call }) = some after) :
      RelayMove settings loads relay after (.telemetry deviceId call now)
  | marked (deviceId : String) (ready : Bool)
      (changed : relay.withContext deviceId (fun context =>
        some { context with upstreamSubscriptionsReady := ready }) = some after) :
      RelayMove settings loads relay after (.setReady deviceId ready)
  | accepted (deviceId : String) (client : Nat) (context : DeviceContext)
      (free : Dict.get? relay.connections (deviceId, client) = none)
      (there : Dict.get? relay.contexts deviceId = some context)
      (built : client < context.clientsBuilt)
      (changed : after = { relay with
        connections := Dict.set relay.connections (deviceId, client) (relay.sessions + 1)
        sessions := relay.sessions + 1 }) :
      RelayMove settings loads relay after (.connack deviceId client)
  | lost (deviceId : String) (client : Nat)
      (changed : after = { relay with
        connections := Dict.erase relay.connections (deviceId, client) }) :
      RelayMove settings loads relay after (.connectionLost deviceId client)
  | begun (deviceId : String) (isCloudToDevice : Bool) (topic : String) (payload : List UInt8)
      (qos : Nat) (context : DeviceContext)
      (there : Dict.get? relay.contexts deviceId = some context)
      (allowed : mayEnqueue loads isCloudToDevice payload context.telemetry.upstreamState = true)
      (changed : after = { relay with
        enqueues := { deviceId := deviceId, productId := context.productId,
                      isCloudToDevice := isCloudToDevice, topic := topic,
                      payload := payload, qos := qos } :: relay.enqueues }) :
      RelayMove settings loads relay after
        (.beginEnqueue deviceId isCloudToDevice topic payload qos)
  | readLive (thread : EnqueueThread) (context : DeviceContext) (begun : thread ∈ relay.enqueues)
      (unread : thread.isLive = none)
      (there : Dict.get? relay.contexts thread.deviceId = some context)
      (changed : after = { relay with
        enqueues :=
          { thread with
            isLive := some (!thread.isCloudToDevice &&
              context.telemetry.upstreamState.isOnline) } :: relay.enqueues.erase thread }) :
      RelayMove settings loads relay after (.readLive thread)
  | inserted (thread : EnqueueThread) (now : Rat) (isLive : Bool)
      (begun : thread ∈ relay.enqueues) (read : thread.isLive = some isLive)
      (changed : after = { relay with
        core := { relay.core with
          queue := (relay.core.queue.enqueue (enqueueCall loads thread isLive) now).1 }
        enqueues := relay.enqueues.erase thread
        stamp := Function.update relay.stamp
          (relay.core.queue.pendingMessages.sequence + 1) relay.sessions }) :
      RelayMove settings loads relay after (.insert thread now)
  | listed (idle : relay.core.localToUpstreamPump.phase = .idle)
      (changed : after = { relay with
        gathering := some { remaining := relay.listDevices } }) :
      RelayMove settings loads relay after .listDevices
  | passedOver (deviceId : String) (rest : List String) (found : List PumpTarget)
      (context : DeviceContext)
      (gathering : relay.gathering = some { remaining := deviceId :: rest, found := found })
      (there : Dict.get? relay.contexts deviceId = some context)
      (without : context.upstreamClient = none)
      (changed : after = { relay with gathering := some { remaining := rest, found := found } }) :
      RelayMove settings loads relay after .readClient
  | readClient (deviceId : String) (rest : List String) (found : List PumpTarget) (client : Nat)
      (context : DeviceContext)
      (gathering : relay.gathering = some { remaining := deviceId :: rest, found := found })
      (there : Dict.get? relay.contexts deviceId = some context)
      (has : context.upstreamClient = some client)
      (changed : after = { relay with gathering := some {
        remaining := deviceId :: rest, found := found, client := some client } }) :
      RelayMove settings loads relay after .readClient
  | readReady (deviceId : String) (rest : List String) (found : List PumpTarget) (client : Nat)
      (context : DeviceContext)
      (gathering : relay.gathering =
        some { remaining := deviceId :: rest, found := found, client := some client })
      (there : Dict.get? relay.contexts deviceId = some context)
      (changed : after = { relay with gathering := some {
        remaining := rest
        found := found ++ [⟨deviceId, client, context.upstreamSubscriptionsReady⟩] } }) :
      RelayMove settings loads relay after .readReady
  | pumped (side : Side) (taken : PumpStep) (core : Core)
      (answered : relay.answers side taken = true)
      (stepped : (coreMachine settings).step relay.core (.pump side taken) = some core)
      (changed : after = { relay with core := core }) :
      RelayMove settings loads relay after (.pump side taken)
  | restarted (changed : after =
        { core := { queue := relay.core.queue }, sessions := relay.sessions,
          stamp := relay.stamp }) :
      RelayMove settings loads relay after .restart

theorem relayMove_of_step {settings : ReplaySettings} {loads : Loads} {relay after : Relay}
    {action : RelayAction} (moved : relayStep settings loads relay action = some after) :
    RelayMove settings loads relay after action := by
  cases action with
  | ensureDevice deviceId productId =>
      simp only [relayStep] at moved
      split at moved
      · cases moved
      · next absent => exact .ensured deviceId productId absent (Option.some.inj moved).symm
  | startUpstream deviceId => exact .started deviceId moved
  | stopUpstream deviceId => exact .stopped deviceId moved
  | telemetry deviceId call now => exact .recorded deviceId call now moved
  | setReady deviceId ready => exact .marked deviceId ready moved
  | connack deviceId client =>
      simp only [relayStep] at moved
      split at moved
      · cases moved
      · next free =>
          rw [Option.bind_eq_some_iff] at moved
          rcases moved with ⟨context, there, connected⟩
          split at connected
          · next built =>
              exact .accepted deviceId client context free there built
                (Option.some.inj connected).symm
          · cases connected
  | connectionLost deviceId client => exact .lost deviceId client (Option.some.inj moved).symm
  | beginEnqueue deviceId isCloudToDevice topic payload qos =>
      simp only [relayStep, Option.bind_eq_some_iff] at moved
      rcases moved with ⟨context, there, begun⟩
      split at begun
      · next allowed =>
          exact .begun deviceId isCloudToDevice topic payload qos context there allowed
            (Option.some.inj begun).symm
      · cases begun
  | readLive thread =>
      simp only [relayStep] at moved
      split at moved
      · next waiting =>
          rw [Option.map_eq_some_iff] at moved
          rcases moved with ⟨context, there, same⟩
          exact .readLive thread context waiting.1 waiting.2 there same.symm
      · cases moved
  | insert thread now =>
      simp only [relayStep] at moved
      split at moved
      · next begun =>
          rw [Option.map_eq_some_iff] at moved
          rcases moved with ⟨isLive, read, same⟩
          exact .inserted thread now isLive begun read same.symm
      · cases moved
  | listDevices =>
      simp only [relayStep] at moved
      split at moved
      · next idle => exact .listed idle (Option.some.inj moved).symm
      · cases moved
  | readClient =>
      simp only [relayStep] at moved
      split at moved
      · next deviceId rest found gathering =>
          rw [Option.map_eq_some_iff] at moved
          rcases moved with ⟨context, there, same⟩
          subst after
          split
          · next without => exact .passedOver deviceId rest found context gathering there without rfl
          · next client has =>
              exact .readClient deviceId rest found client context gathering there has rfl
      · cases moved
  | readReady =>
      simp only [relayStep] at moved
      split at moved
      · next deviceId rest found client gathering =>
          rw [Option.map_eq_some_iff] at moved
          rcases moved with ⟨context, there, same⟩
          exact .readReady deviceId rest found client context gathering there same.symm
      · cases moved
  | pump side taken =>
      simp only [relayStep] at moved
      split at moved
      · next answered =>
          rw [Option.map_eq_some_iff] at moved
          rcases moved with ⟨core, stepped, same⟩
          exact .pumped side taken core answered stepped same.symm
      · cases moved
  | restart => exact .restarted (Option.some.inj moved).symm

/-! ## What a step does to the queue and the pumps -/

/-- A step of the relay inserts a row, is a step of a pump, restarts the
process, or leaves the queue and the pumps alone. -/
inductive CoreEffect (settings : ReplaySettings) (loads : Loads) (relay after : Relay) :
    RelayAction -> Prop where
  | inserted (thread : EnqueueThread) (now : Rat) (isLive : Bool)
      (begun : thread ∈ relay.enqueues)
      (changed : after.core = { relay.core with
        queue := (relay.core.queue.enqueue (enqueueCall loads thread isLive) now).1 })
      (enqueues : forall other, other ∈ after.enqueues -> other ∈ relay.enqueues)
      (contexts : after.contexts = relay.contexts) :
      CoreEffect settings loads relay after (.insert thread now)
  | pumped (side : Side) (taken : PumpStep) (answered : relay.answers side taken = true)
      (stepped : (coreMachine settings).step relay.core (.pump side taken) = some after.core)
      (unchanged : after = { relay with core := after.core }) :
      CoreEffect settings loads relay after (.pump side taken)
  | restarted (changed : after.core = { queue := relay.core.queue })
      (forgotten : after.enqueues = [] ∧ after.contexts = [] ∧ after.gathering = none) :
      CoreEffect settings loads relay after .restart
  | outside (action : RelayAction) (unchanged : after.core = relay.core)
      (notInsert : forall thread now, action ≠ .insert thread now)
      (notPump : forall side taken, action ≠ .pump side taken)
      (notRestart : action ≠ .restart) :
      CoreEffect settings loads relay after action

theorem core_withContext {relay after : Relay} {deviceId : String}
    {change : DeviceContext -> Option DeviceContext}
    (moved : relay.withContext deviceId change = some after) : after.core = relay.core := by
  simp only [Relay.withContext, Option.bind_eq_some_iff, Option.map_eq_some_iff] at moved
  rcases moved with ⟨context, _, changed, _, same⟩
  subst after
  rfl

theorem relayStep_core {settings : ReplaySettings} {loads : Loads} {relay after : Relay}
    {action : RelayAction} (moved : relayStep settings loads relay action = some after) :
    CoreEffect settings loads relay after action := by
  cases relayMove_of_step moved with
  | inserted thread now isLive begun read changed =>
      subst changed
      exact .inserted thread now isLive begun rfl (fun _ member => List.mem_of_mem_erase member)
        rfl
  | pumped side taken core answered stepped changed =>
      subst changed
      exact .pumped side taken answered stepped rfl
  | restarted changed =>
      subst changed
      exact .restarted rfl ⟨rfl, rfl, rfl⟩
  | started deviceId changed =>
      exact .outside _ (core_withContext changed) (fun _ _ => nofun) (fun _ _ => nofun) nofun
  | stopped deviceId changed =>
      exact .outside _ (core_withContext changed) (fun _ _ => nofun) (fun _ _ => nofun) nofun
  | recorded deviceId call now changed =>
      exact .outside _ (core_withContext changed) (fun _ _ => nofun) (fun _ _ => nofun) nofun
  | marked deviceId ready changed =>
      exact .outside _ (core_withContext changed) (fun _ _ => nofun) (fun _ _ => nofun) nofun
  | _ =>
      subst after
      exact .outside _ rfl (fun _ _ => nofun) (fun _ _ => nofun) nofun

end Upstream
end PetlibroRelay
