import PetlibroRelay.Responder.LocalResponder
import PetlibroRelay.Upstream.DeviceContext

namespace PetlibroRelay
namespace Upstream

open Foundations
open Protocol
open Queue
open Pump
open Shadow
open Responder

/-!
# Callbacks of replaced sessions

The client library may deliver a callback after its session was stopped, and
every start builds a new client.  A callback is therefore matched against the
current client before it does anything.  This module models the five callbacks
of a device context with everything they write: the context, the pending
subscriptions, the telemetry and its named counters, the queue, the shadow, the
state cache and the memory of the responder.

Four callbacks look first.  The one for failed connections does not.
-/

/-- What the state cache keeps of a payload: the decoded value, or the bytes that
are read as text. -/
inductive CachedPayload where
  | decoded (value : Json)
  | text (payload : List UInt8)

structure CacheEntry where
  payload : CachedPayload
  receivedAt : Rat

/-- The last payload for each topic. -/
abbrev StateCache := Dict String CacheEntry

def StateCache.update (cache : StateCache) (loads : Loads) (topic : String)
    (payload : List UInt8) (now : Rat) : StateCache :=
  Dict.set cache topic
    { payload := match loads payload with
        | some value => .decoded value
        | none => .text payload
      receivedAt := now }

/-- One device context with the stores its callbacks reach. -/
structure UpstreamSession where
  context : DeviceContext := {}
  pendingUpstreamSubscriptions : Dict Nat String := []
  counters : Dict String Nat := []
  queue : MessageQueue
  shadow : StateShadow := {}
  stateCache : StateCache := []
  responder : LocalResponder := {}
  suppressedLateCloudResponses : Nat := 0

/-- What does not change during the life of a context. -/
structure SessionConfig where
  deviceId : String
  responder : Option LocalResponderSettings
  loads : Loads

def UPSTREAM_SUBSCRIBE_CATEGORIES : List String :=
  ["service", "event", "ota", "ntp", "broadcast", "heart", "config", "system"]

/-- The code of a CONNACK. -/
structure ReasonCode where
  isFailure : Bool
  text : String
  deriving DecidableEq, Repr

/-- The five callbacks.  The answers of the client to the subscriptions and the
clock readings come with them. -/
inductive UpstreamCallback where
  | onConnect (reasonCode : ReasonCode) (subscribed : String -> Option Nat) (now : Rat)
  | onConnectFail (now : Rat)
  | onSubscribe (mid : Nat)
  | onMessage (topic : String) (payload : List UInt8) (qos : Nat)
      (cachedAt handledAt queuedAt : Rat)
  | onDisconnect (reasonCode disconnectFlags : String) (lostAt attemptedAt : Rat)

def UpstreamCallback.isConnectFail : UpstreamCallback -> Bool
  | .onConnectFail _ => true
  | _ => false

namespace UpstreamSession

def withTelemetry (session : UpstreamSession) (now : Rat) (call : TelemetryCall) :
    UpstreamSession :=
  { session with
    context := { session.context with telemetry := session.context.telemetry.apply now call } }

def increment (session : UpstreamSession) (counter : String) (amount : Nat := 1) :
    UpstreamSession :=
  { session with
    counters := Dict.set session.counters counter
      ((Dict.get? session.counters counter).getD 0 + amount) }

def setReady (session : UpstreamSession) (ready : Bool) : UpstreamSession :=
  { session with context := { session.context with upstreamSubscriptionsReady := ready } }

/-- Whether a callback came from a session that has already been replaced. -/
def isStaleClient (session : UpstreamSession) (client : Nat) : Bool :=
  decide (session.context.upstreamClient ≠ some client)

/-- Open the cloud session, if it is not already open. -/
def startUpstream (session : UpstreamSession) (now : Rat) : UpstreamSession :=
  match session.context.startUpstream with
  | none => session
  | some started => { session with context := started }.withTelemetry now .connectAttempt

/-- Close the cloud session. -/
def stopUpstream (session : UpstreamSession) (now : Rat) : UpstreamSession :=
  match session.context.stopUpstream with
  | none => session
  | some stopped => { session with context := stopped }.withTelemetry now .suspended

/-- Record clock traffic of the cloud. -/
def observeNtp (session : UpstreamSession) (loads : Loads) (payload : List UInt8) :
    UpstreamSession :=
  if extractCommand loads payload = some Command.NTP_SYNC then
    session.increment "ntp_sync_from_cloud"
  else session

/-- Queue a message of the cloud. -/
def enqueue (session : UpstreamSession) (config : SessionConfig) (topic : String)
    (payload : List UInt8) (qos : Nat) (now : Rat) : UpstreamSession :=
  if mayEnqueue config.loads true payload session.context.telemetry.upstreamState then
    let queued := session.queue.enqueue (enqueueCall config.loads
      { deviceId := config.deviceId, productId := session.context.productId,
        isCloudToDevice := true, topic := topic, payload := payload, qos := qos } false) now
    let stored := { session with queue := queued.1 }
    if queued.2 = 0 then stored else stored.increment "queue_coalesced_latest" queued.2
  else session.increment "queue_dropped_ephemeral"

/-- Look at a message of the cloud before it is queued.  The flag tells whether
it still has to be queued: not if it was suppressed, and not if learning from it
raised. -/
def learn (session : UpstreamSession) (config : SessionConfig)
    (settings : LocalResponderSettings) (topic : String) (payload : List UInt8) (now : Rat) :
    UpstreamSession × Bool :=
  let observed := observeCloudMessage config.loads session.shadow config.deviceId topic payload
  let learned := { session with shadow := observed.1 }
  if observed.2 then
    let suppressed := session.responder.isSuppressedCloudResponse settings config.loads now
      config.deviceId payload
    let remembered := { learned with responder := suppressed.2 }
    if suppressed.1 then
      ({ remembered with
          suppressedLateCloudResponses := remembered.suppressedLateCloudResponses + 1 }.increment
        "suppressed_late_cloud_responses", false)
    else (remembered, true)
  else (learned, false)

def onUpstreamMessage (session : UpstreamSession) (config : SessionConfig) (client : Nat)
    (topic : String) (payload : List UInt8) (qos : Nat) (cachedAt handledAt queuedAt : Rat) :
    UpstreamSession :=
  if session.isStaleClient client then session
  else
    let cached := { session with
      stateCache := session.stateCache.update config.loads topic payload cachedAt }.observeNtp
        config.loads payload
    match config.responder with
    | none => cached.enqueue config topic payload qos queuedAt
    | some settings =>
        let learned := cached.learn config settings topic payload handledAt
        if learned.2 then learned.1.enqueue config topic payload qos queuedAt else learned.1

/-- The subscriptions the client accepted, by their message identifiers. -/
def subscribeAll (config : SessionConfig) (productId : String)
    (subscribed : String -> Option Nat) : Dict Nat String :=
  UPSTREAM_SUBSCRIBE_CATEGORIES.foldl (fun pending category =>
    match subscribed category with
    | none => pending
    | some mid => Dict.set pending mid (subTopic config.deviceId category productId)) []

def onUpstreamConnect (session : UpstreamSession) (config : SessionConfig) (client : Nat)
    (reasonCode : ReasonCode) (subscribed : String -> Option Nat) (now : Rat) :
    UpstreamSession :=
  if session.isStaleClient client then session
  else if reasonCode.isFailure then session.withTelemetry now (.refused reasonCode.text)
  else
    let pending := subscribeAll config session.context.productId subscribed
    let online := { session.setReady false with
      pendingUpstreamSubscriptions := pending }.withTelemetry now .online
    if pending.isEmpty then online.setReady true else online

/-- Does not ask which client failed. -/
def onUpstreamConnectFail (session : UpstreamSession) (now : Rat) : UpstreamSession :=
  session.withTelemetry now (.connectFailed "TCP/DNS connect failure")

def onUpstreamSubscribe (session : UpstreamSession) (client mid : Nat) : UpstreamSession :=
  if session.isStaleClient client then session
  else
    let pending := Dict.erase session.pendingUpstreamSubscriptions mid
    let confirmed := { session with pendingUpstreamSubscriptions := pending }
    if pending.isEmpty then confirmed.setReady true else confirmed

def onUpstreamDisconnect (session : UpstreamSession) (client : Nat)
    (reasonCode disconnectFlags : String) (lostAt attemptedAt : Rat) : UpstreamSession :=
  if session.isStaleClient client then session
  else ((session.setReady false).withTelemetry lostAt
    (.disconnected reasonCode (some disconnectFlags))).withTelemetry attemptedAt .connectAttempt

/-- What a callback of a client does. -/
def deliver (session : UpstreamSession) (config : SessionConfig) (client : Nat) :
    UpstreamCallback -> UpstreamSession
  | .onConnect reasonCode subscribed now =>
      session.onUpstreamConnect config client reasonCode subscribed now
  | .onConnectFail now => session.onUpstreamConnectFail now
  | .onSubscribe mid => session.onUpstreamSubscribe client mid
  | .onMessage topic payload qos cachedAt handledAt queuedAt =>
      session.onUpstreamMessage config client topic payload qos cachedAt handledAt queuedAt
  | .onDisconnect reasonCode disconnectFlags lostAt attemptedAt =>
      session.onUpstreamDisconnect client reasonCode disconnectFlags lostAt attemptedAt

end UpstreamSession

/-- Starts, stops and callbacks of clients built so far. -/
inductive SessionAction where
  | startUpstream (now : Rat)
  | stopUpstream (now : Rat)
  | callback (client : Nat) (callback : UpstreamCallback)

def sessionMachine (config : SessionConfig) : Machine UpstreamSession SessionAction where
  step session
    | .startUpstream now => some (session.startUpstream now)
    | .stopUpstream now => some (session.stopUpstream now)
    | .callback client callback =>
        if client < session.context.clientsBuilt then
          some (session.deliver config client callback)
        else none

/-! ## The guard -/

/-- A failed connection is always counted. -/
theorem tcpConnectFailures_connectFailed (telemetry : DeviceTelemetry) (now : Rat)
    (reason : String) :
    (telemetry.apply now (.connectFailed reason)).counters.tcpConnectFailures =
      telemetry.counters.tcpConnectFailures + 1 := by
  have summary : forall other : DeviceTelemetry,
      (other.offlineSummaryDueLocked now).2.counters = other.counters := by
    intro other
    rw [DeviceTelemetry.offlineSummaryDueLocked]
    split
    · rfl
    · split
      · rfl
      · split
        · rfl
        · split <;> rfl
  have opened : (telemetry.beginOutageLocked now).counters = telemetry.counters := by
    rw [DeviceTelemetry.beginOutageLocked]
    split <;> rfl
  have attempted : (telemetry.ensureAttemptForFailureLocked now).counters.tcpConnectFailures =
      telemetry.counters.tcpConnectFailures := by
    simp only [DeviceTelemetry.ensureAttemptForFailureLocked]
    split
    · rw [opened]
    · simp only [DeviceTelemetry.countAttempt, opened]
  simp only [DeviceTelemetry.apply, DeviceTelemetry.upstreamConnectFailed,
    DeviceTelemetry.failAttempt, summary, DeviceTelemetry.registerRetryFailureLocked, attempted]

/-- After every sequence of starts, stops and callbacks, a callback of a client
that is not the current one leaves everything as it was, if and only if it is not
the callback for failed connections. -/
theorem stale_callback_unchanged_iff (config : SessionConfig) (start : UpstreamSession)
    (actions : List SessionAction) (client : Nat) (callback : UpstreamCallback)
    (stale : ((sessionMachine config).run start actions).isStaleClient client = true) :
    ((sessionMachine config).run start actions).deliver config client callback =
      (sessionMachine config).run start actions ↔ callback.isConnectFail = false := by
  generalize (sessionMachine config).run start actions = session at stale ⊢
  cases callback with
  | onConnect reasonCode subscribed now =>
      refine ⟨fun _ => rfl, fun _ => ?_⟩
      rw [UpstreamSession.deliver, UpstreamSession.onUpstreamConnect, if_pos stale]
  | onConnectFail now =>
      refine ⟨fun same => ?_, fun impossible => nomatch impossible⟩
      have counted := congrArg (fun other : UpstreamSession =>
        other.context.telemetry.counters.tcpConnectFailures) same
      dsimp only [UpstreamSession.deliver, UpstreamSession.onUpstreamConnectFail,
        UpstreamSession.withTelemetry] at counted
      rw [tcpConnectFailures_connectFailed] at counted
      omega
  | onSubscribe mid =>
      refine ⟨fun _ => rfl, fun _ => ?_⟩
      rw [UpstreamSession.deliver, UpstreamSession.onUpstreamSubscribe, if_pos stale]
  | onMessage topic payload qos cachedAt handledAt queuedAt =>
      refine ⟨fun _ => rfl, fun _ => ?_⟩
      rw [UpstreamSession.deliver, UpstreamSession.onUpstreamMessage, if_pos stale]
  | onDisconnect reasonCode disconnectFlags lostAt attemptedAt =>
      refine ⟨fun _ => rfl, fun _ => ?_⟩
      rw [UpstreamSession.deliver, UpstreamSession.onUpstreamDisconnect, if_pos stale]

/-! ## A session that was replaced while it was connecting -/

/-- A feeder without a responder, whose messages do not matter. -/
def plainFeeder : SessionConfig where
  deviceId := "A"
  responder := none
  loads := fun _ => none

def freshSession : UpstreamSession where
  queue := .empty DEFAULT_MAX_QUEUE_SIZE 0

/-- The first client is replaced by a second one, and the cloud accepts that. -/
def replacedSession : List SessionAction :=
  [.startUpstream 0, .stopUpstream 1, .startUpstream 2,
    .callback 1 (.onConnect ⟨false, "Success"⟩ (fun _ => none) 3)]

/-- A late message of the first client changes nothing. -/
theorem stale_message_unchanged :
    ((sessionMachine plainFeeder).run freshSession replacedSession).isStaleClient 0 = true ∧
    ((sessionMachine plainFeeder).run freshSession replacedSession).deliver plainFeeder 0
        (.onMessage "dl/PLAF203/A/device/service/sub" [] 0 4 4 4) =
      (sessionMachine plainFeeder).run freshSession replacedSession :=
  ⟨by decide +kernel,
    (stale_callback_unchanged_iff plainFeeder freshSession replacedSession 0 _
      (by decide +kernel)).mpr rfl⟩

/-- A late failure of the first client takes the second one, which is online, for
disconnected. -/
theorem stale_failure_disconnects_session :
    let session := (sessionMachine plainFeeder).run freshSession replacedSession
    session.isStaleClient 0 = true ∧
      session.context.telemetry.upstreamState = .online ∧
      (session.deliver plainFeeder 0 (.onConnectFail 4)).context.telemetry.upstreamState =
        .disconnected ∧
      session.deliver plainFeeder 0 (.onConnectFail 4) ≠ session := by
  intro session
  have before : session.context.telemetry.upstreamState = .online := by decide +kernel
  have after : (session.deliver plainFeeder 0
      (.onConnectFail 4)).context.telemetry.upstreamState = .disconnected := by
    decide +kernel
  refine ⟨by decide +kernel, before, after, ?_⟩
  intro same
  rw [same, before] at after
  cases after

end Upstream
end PetlibroRelay
