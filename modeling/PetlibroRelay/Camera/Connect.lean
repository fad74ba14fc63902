import PetlibroRelay.Camera.Handshake
import PetlibroRelay.Camera.ReceiveLoop
import PetlibroRelay.Foundations.Conversation

namespace PetlibroRelay
namespace Camera

open Foundations
open Foundations.Conversation

/-!
# Connecting to a camera

One attempt opens a transport and looks for the camera, first at the known address of the
feeder and then by broadcast.  It logs in, sends the commands that start a session, waits
for the replies to two of them, starts the stream and waits for the first frame.

Between two receives the attempt is a straight line of sends, so it is written as a
machine that takes one arrival after the other.  Its phase says which receive it waits in.
All that was sent, received and reported is kept in a log.  Which sends fail, what the
clock shows, the nonce and the transform of the wire are parameters.  A receive error may
be a timeout.

The aggregate diagnostics of the bootstrap are left out.
-/

/-! ## The attempt and its surroundings -/

structure DirectConnector where
  hasTransportFactory : Bool := true
  supportsRoutedSource : Bool := true
  broadcastFallback : Bool := true
  discoveryTargets : Option (List (Option UDPAddr))
  deriving DecidableEq, Repr

inductive OpenOutcome where
  | opened
  | routeFailed (error : String)
  | failed
  deriving DecidableEq, Repr

/-- What the attempt meets with.  The clock shows nanoseconds. -/
structure ConnectEnvironment where
  transform : Transform
  openTransport : OpenOutcome := .opened
  nonce : Option SessionId
  sendOk : Nat -> Bool
  clock : Nat -> Int

inductive Arrival where
  | packet (bytes : Packet) (peer : Option UDPAddr)
  | error (text : String)
  deriving DecidableEq, Repr

def Arrival.isError : Arrival -> Bool
  | .packet _ _ => false
  | .error _ => true

/-- What has happened on the way. -/
inductive Exchange where
  | emitted (event : SessionEvent)
  | sent (wire : Packet) (address : UDPAddr) (ok : Bool)
  | received (arrival : Arrival)
  deriving DecidableEq, Repr

inductive ConnectError where
  | invalidUID
  | transportFactoryUnavailable
  | openTransport
  | nonce
  | noTargets
  | targeter
  | discoverySend
  | discoveryReceive (text : String)
  | noPeer
  | phaseTwoSend
  | loginSend
  | loginReceive (text : String)
  | clientStartSend
  | heartbeatSend
  | countersSend
  | controlSend (controlType : UInt32)
  | replySend
  | controlReplyReceive (text : String)
  | mediaReceive (text : String)
  deriving DecidableEq, Repr

/-- How much of the surroundings has been used, and the session once there is one. -/
structure Dialogue where
  sends : Nat := 0
  readings : Nat := 0
  session : LoopSession := {}
  deriving DecidableEq, Repr

abbrev Talk := Conversation Dialogue Exchange ConnectError

/-- The receive that the attempt waits in. -/
inductive ConnectPhase where
  | unicast (ipv4 : IP)
  | broadcast
  | login (address : UDPAddr)
  | replies (address : UDPAddr) (expected : List ControlReplyKey)
  | video (address : UDPAddr)
  | connected (address : UDPAddr) (frame : VideoFrame)
  deriving DecidableEq, Repr

def emit (state : SessionState) (step : String) (error : String := "") : Talk PUnit :=
  tell (.emitted { state := state, step := step, error := error })

/-- The time in milliseconds, in 32 bits. -/
def unixMillis (now : Int) : UInt32 :=
  UInt32.ofNat ((now / 1000000) % 4294967296).toNat

section Connect

variable (environment : ConnectEnvironment)

def readClock : Talk Int :=
  modifyGet (fun dialogue => (environment.clock dialogue.readings,
    { dialogue with readings := dialogue.readings + 1 }))

/-- Send one packet, and say whether it went out. -/
def sendTo (packet : Packet) (address : UDPAddr) : Talk Bool := do
  let ok <- modifyGet (fun dialogue => (environment.sendOk dialogue.sends,
    { dialogue with sends := dialogue.sends + 1 }))
  tell (.sent (environment.transform.transCodePartial packet) address ok)
  return ok

def sendOrFail (packet : Packet) (address : UDPAddr) (error : ConnectError) : Talk PUnit := do
  let ok <- sendTo environment packet address
  if ok then return ⟨⟩ else fail error

/-! ## Discovery -/

def searchTargets (search : Packet) : List (Option UDPAddr) -> Talk PUnit
  | [] => return ⟨⟩
  | target :: rest =>
      match target with
      | none => searchTargets search rest
      | some address =>
          match address.ip with
          | none => searchTargets search rest
          | some _ => do
              emit .discovering "udp_tx"
              let ok <- sendTo environment search address
              if ok then do
                emit .discovering "udp_tx_ok"
                searchTargets search rest
              else do
                emit .discovering "udp_tx_failed"
                fail .discoverySend

/-- What `discover` does before it receives. -/
def beginDiscover (uid : String) (nonce : SessionId) (targets : List (Option UDPAddr)) :
    Talk PUnit :=
  if targets.isEmpty then fail .noTargets
  else
    match encodeLANSearch3 uid nonce with
    | none => fail .invalidUID
    | some search => searchTargets environment search targets

variable (connector : DirectConnector) (uid : String) (nonce : SessionId)

def beginBroadcast : Talk ConnectPhase :=
  match connector.discoveryTargets with
  | none => fail .targeter
  | some targets => do
      emit .discovering "broadcast"
      beginDiscover environment uid nonce targets
      return .broadcast

def unicastFailed (error : ConnectError) : Talk ConnectPhase := do
  emit .discovering "unicast_timeout"
  if connector.broadcastFallback then do
    emit .discovering "broadcast_fallback"
    beginBroadcast environment connector uid nonce
  else fail error

/-- What `connector.discover` does before it receives. -/
def beginDiscovery (feederIp : Option IP) : Talk ConnectPhase :=
  match usableIPv4 feederIp with
  | some ipv4 => do
      emit .discovering ("unicast target=" ++ ipv4.text ++ ":" ++ toString LAN_PORT)
      let begun <- attempt (beginDiscover environment uid nonce [some (feederTarget ipv4)])
      match begun with
      | .ok _ => return .unicast ipv4
      | .error error => unicastFailed environment connector uid nonce error
  | none => beginBroadcast environment connector uid nonce

def discoveryRejectStep : SearchError -> String
  | .uidMismatch => "reject_uid_mismatch"
  | .packetTooShort _ => "reject_invalid_length"
  | _ => "reject_invalid_packet"

/-- Look at one packet in `discover`.  The address of its sender is returned if it is the
answer of the camera. -/
def judgeAnswer (expectedSourceIp : Option IP) (bytes : Packet) (peer : Option UDPAddr) :
    Talk (Option UDPAddr) :=
  match peer with
  | none => do
      emit .discovering "reject_missing_peer"
      return none
  | some address =>
      match address.ip with
      | none => do
          emit .discovering "reject_missing_peer"
          return none
      | some ip => do
          emit .discovering "response"
          if expectedSourceIp.any (fun expected => !ip.equal expected) then do
            emit .discovering "reject_source_ip"
            return none
          else
            match decodeLANSearchResponse (environment.transform.reverseTransCodePartial bytes)
                uid with
            | .error error => do
                emit .discovering (discoveryRejectStep error)
                return none
            | .ok _ => do
                emit .discovering "valid"
                return some address

def completeDirectDiscovery (address : UDPAddr) : Talk PUnit :=
  match address.ip with
  | none => fail .noPeer
  | some _ =>
      match encodeLANSearch3Phase uid nonce 2 with
      | none => fail .invalidUID
      | some phaseTwo => do
          emit .discovering "phase_two_tx"
          sendOrFail environment phaseTwo address .phaseTwoSend
          emit .discovering "complete"

/-! ## Login -/

def sendLogin (address : UDPAddr) (step : String) (request : LoginRequest) : Talk PUnit := do
  emit .loggingIn step
  sendOrFail environment request.encode address .loginSend

/-- The camera has answered: complete the discovery and log in. -/
def beginLogin (address : UDPAddr) : Talk ConnectPhase := do
  completeDirectDiscovery environment uid nonce address
  emit .loggingIn ""
  let now <- readClock environment
  let timestamp := unixMillis now
  sendLogin environment address "client_start_primary" ⟨nonce, 0, .primary, timestamp⟩
  sendLogin environment address "client_start_secondary" ⟨nonce, 1, .secondary, timestamp + 1⟩
  return .login address

def discoverTurn (expectedSourceIp : Option IP) (bytes : Packet) (peer : Option UDPAddr)
    (waiting : ConnectPhase) : Talk ConnectPhase := do
  let found <- judgeAnswer environment uid expectedSourceIp bytes peer
  match found with
  | none => return waiting
  | some address => beginLogin environment uid nonce address

/-! ## Sends of the session -/

variable (address : UDPAddr)

def nextSequence : Talk UInt16 :=
  modifyGet (fun dialogue => (dialogue.session.sequence,
    { dialogue with session := { dialogue.session with
      sequence := dialogue.session.sequence + 1 } }))

def nextSession25ControlCounter : Talk UInt16 :=
  modifyGet (fun dialogue => (dialogue.session.session25.nextOutboundCommand.1,
    { dialogue with session := { dialogue.session with
      session25 := dialogue.session.session25.nextOutboundCommand.2 } }))

/-- Wrap a body under the next number and send it. -/
def sendBody (body : Packet) (error : ConnectError) : Talk PUnit := do
  let sequence <- nextSequence
  sendOrFail environment (encodeClientSessionPacket nonce sequence body) address error

/-- One of the two logins that are repeated under numbers of the session. -/
def sendClientStart (variant : LoginVariant) (timestamp : UInt32) : Talk PUnit := do
  let sequence <- nextSequence
  sendOrFail environment (LoginRequest.encode ⟨nonce, sequence, variant, timestamp⟩) address
    .clientStartSend

def sendLoginPair (timestamp : UInt32) : Talk PUnit := do
  sendClientStart environment nonce address .primary timestamp
  sendClientStart environment nonce address .secondary (timestamp + 1)

def sendControl (channel : UInt16) (index controlType : UInt32) (controlData : Packet) :
    Talk PUnit := do
  let counter <- nextSession25ControlCounter
  sendBody environment nonce address
    (encodeControlData counter channel index (controlPayload controlType controlData))
    (.controlSend controlType)

/-- The heartbeat that is sent once, before anything is received. -/
def sendBootstrapHeartbeat (timestamp : UInt32) : Talk PUnit := do
  let counter <- nextSession25ControlCounter
  sendBody environment nonce address (encodeBootstrapHeartbeat counter timestamp) .heartbeatSend

def nextCountersBody (random : UInt16) : Talk Packet :=
  modifyGet (fun dialogue =>
    let counted := dialogue.session.session25.nextCounters random
    (counted.1, { dialogue with session := { dialogue.session with session25 := counted.2.2 } }))

/-- Report the first few of a kind. -/
def emitLimitedEvent (key : String) (limit : Nat) (event : SessionEvent) : Talk PUnit := do
  let events <- modifyGet (fun dialogue =>
    let reported := dialogue.session.emitLimited key limit event
    (reported.2, { dialogue with session := reported.1 }))
  events.forM (fun reported => tell (.emitted reported))

/-- Send a counters packet. -/
def sendCounters (random : UInt16) : Talk PUnit := do
  let body <- nextCountersBody random
  sendBody environment nonce address body .countersSend

def sendSession25Counters : Talk PUnit := do
  let now <- readClock environment
  sendCounters environment nonce address (lowMillis now)
  emitLimitedEvent "session25_counters_tx" 4 (diagnostic "session25_counters_tx")

/-- The packet is reported before it is sent. -/
def sendStartVideo : Talk PUnit := do
  let counter <- nextSession25ControlCounter
  let sequence <- nextSequence
  emit .bootstrapping "stream_start_packet"
  sendOrFail environment (encodeClientSessionPacket nonce sequence (startVideoBody counter))
    address (.controlSend CONTROL_START_VIDEO)
  emit .bootstrapping "stream_start_tx"

/-! ## Bootstrap -/

/-- What `bootstrap` sends before it receives. -/
def sendBootstrap : Talk ConnectPhase := do
  emit .connected ""
  emit .bootstrapping ""
  let now <- readClock environment
  let timestamp := unixMillis now
  sendLoginPair environment nonce address timestamp
  sendBootstrapHeartbeat environment nonce address timestamp
  sendSession25Counters environment nonce address
  sendControl environment nonce address CONTROL_CHANNEL_STREAM 0 CONTROL_SET_STREAM
    STREAM_CONTROL_HD
  sendSession25Counters environment nonce address
  sendControl environment nonce address CONTROL_CHANNEL_SYSTEM FORMAT_CONTROL_INDEX
    CONTROL_GET_FORMAT []
  return .replies address [streamReply, formatReply]

/-- The login was accepted: there is a session. -/
def beginBootstrap : Talk ConnectPhase := do
  modify (fun dialogue => { dialogue with session := {} })
  sendBootstrap environment nonce address

def loginTurn (bytes : Packet) : Talk ConnectPhase :=
  match decodeLoginResponse (environment.transform.reverseTransCodePartial bytes) nonce with
  | .error _ => return .login address
  | .ok _ => beginBootstrap environment nonce address

/-- The part of a turn of the receive loop that its replies look at. -/
def answerTurn (dialogue : Dialogue) : Turn where
  received := .packet []
  sent := environment.sendOk dialogue.sends
  first := environment.clock dialogue.readings

/-- One of the replies a receive loop gives, as part of the attempt. -/
def answer (reply : LoopSession -> Turn -> Reply) : Talk Bool := do
  let made <- modifyGet (fun dialogue =>
    let made := reply dialogue.session (answerTurn environment dialogue)
    (made, {
      sends := dialogue.sends + made.datagrams.length
      readings := dialogue.readings + made.datagrams.length
      session := made.session }))
  made.datagrams.forM (fun wire =>
    tell (.sent wire address (decide (made.outcome = .handled))))
  made.events.forM (fun event => tell (.emitted event))
  match made.outcome with
  | .unrecognized => return false
  | .handled => return true
  | .failed => fail .replySend

def noteReply : Talk PUnit :=
  modify (fun dialogue => { dialogue with session := { dialogue.session with
    session25 := dialogue.session.session25.noteReceivedControlReply } })

/-- The replies are there: start the stream. -/
def beginVideo : Talk ConnectPhase := do
  sendStartVideo environment nonce address
  sendSession25Counters environment nonce address
  return .video address

/-- Go on waiting while replies are missing. -/
def awaitReplies (missing : List ControlReplyKey) : Talk ConnectPhase :=
  if missing.isEmpty then beginVideo environment nonce address
  else return .replies address missing

/-- A reply to a command.  A reply on the channel of the stream is followed by counters. -/
def takeReply (expected : List ControlReplyKey) (key : ControlReplyKey) : Talk ConnectPhase := do
  noteReply
  if key.channel = CONTROL_CHANNEL_STREAM then sendSession25Counters environment nonce address
  awaitReplies environment nonce address (expected.erase key)

/-- One turn of `waitForControlReplies`. -/
def controlReplyTurn (expected : List ControlReplyKey) (bytes : Packet) : Talk ConnectPhase := do
  let decoded := environment.transform.reverseTransCodePartial bytes
  let beaten <- answer environment address (fun session turn =>
    replySessionHeartbeat environment.transform nonce session turn decoded)
  if beaten then do
    sendSession25Counters environment nonce address
    return .replies address expected
  else
    match decodeDeviceSession decoded nonce with
    | none => return .replies address expected
    | some inner => do
        let counted <- answer environment address (fun session turn =>
          replySession25Counters environment.transform nonce session turn inner)
        if counted then return .replies address expected
        else
          match parseControlReply inner with
          | none => return .replies address expected
          | some key => takeReply environment nonce address expected key

/-- Hand a packet to the media receiver of the session. -/
def handleVideoPacket (decoded : Packet) (now : Int) :
    Talk (Except MediaError (Option VideoFrame)) :=
  modifyGet (fun dialogue =>
    let handled := dialogue.session.media.handlePacket decoded nonce now
    (handled.2, { dialogue with session := { dialogue.session with media := handled.1 } }))

/-- The diagnostics of the receive loop start anew. -/
def noteFirstFrame (decoded : Packet) : Talk PUnit :=
  modify (fun dialogue => { dialogue with session :=
    { noteSession25Media nonce dialogue.session decoded with
      emitted := []
      emittedCount := [] } })

def noteMediaEvent (now : Int) : Talk PUnit :=
  modify (fun dialogue => { dialogue with session := { dialogue.session with
    lastMediaEvent := if intervalPassed dialogue.session.lastMediaEvent now then some now
      else dialogue.session.lastMediaEvent } })

/-- The first frame is there. -/
def beginStreaming (decoded : Packet) (frame : VideoFrame) : Talk ConnectPhase := do
  noteFirstFrame nonce decoded
  let now <- readClock environment
  noteMediaEvent now
  emit .streaming "bootstrap"
  return .connected address frame

def mediaTurn (decoded : Packet) : Talk ConnectPhase := do
  let now <- readClock environment
  let handled <- handleVideoPacket nonce decoded now
  match handled with
  | .ok (some frame) => beginStreaming environment nonce address decoded frame
  | _ => return .video address

/-- A packet of the session that is no heartbeat. -/
def deviceTurn (decoded inner : Packet) : Talk ConnectPhase := do
  let counted <- answer environment address (fun session turn =>
    replySession25Counters environment.transform nonce session turn inner)
  if counted then return .video address
  else if parseControlReply inner = some startReply then do
    emit .bootstrapping "stream_start_ack"
    return .video address
  else mediaTurn environment nonce address decoded

/-- One turn of `waitForVideo`. -/
def videoTurn (bytes : Packet) : Talk ConnectPhase := do
  let decoded := environment.transform.reverseTransCodePartial bytes
  let kept <- answer environment address (fun session turn =>
    replyKeepalive environment.transform session turn decoded)
  if kept then return .video address
  else do
    let beaten <- answer environment address (fun session turn =>
      replySessionHeartbeat environment.transform nonce session turn decoded)
    if beaten then return .video address
    else
      match decodeDeviceSession decoded nonce with
      | some inner => deviceTurn environment nonce address decoded inner
      | none => mediaTurn environment nonce address decoded

/-! ## The whole attempt -/

/-- The attempt after one more arrival. -/
def turn (arrival : Arrival) : ConnectPhase -> Talk ConnectPhase
  | .unicast ipv4 => do
      tell (.received arrival)
      match arrival with
      | .error text => unicastFailed environment connector uid nonce (.discoveryReceive text)
      | .packet bytes peer =>
          discoverTurn environment uid nonce (some ipv4) bytes peer (.unicast ipv4)
  | .broadcast => do
      tell (.received arrival)
      match arrival with
      | .error text => fail (.discoveryReceive text)
      | .packet bytes peer => discoverTurn environment uid nonce none bytes peer .broadcast
  | .login address => do
      tell (.received arrival)
      match arrival with
      | .error text => fail (.loginReceive text)
      | .packet bytes _ => loginTurn environment nonce address bytes
  | .replies address expected => do
      tell (.received arrival)
      match arrival with
      | .error text => fail (.controlReplyReceive text)
      | .packet bytes _ => controlReplyTurn environment nonce address expected bytes
  | .video address => do
      tell (.received arrival)
      match arrival with
      | .error text => fail (.mediaReceive text)
      | .packet bytes _ => videoTurn environment nonce address bytes
  | .connected address frame => return .connected address frame

end Connect

inductive TransportState where
  | absent
  | opened
  | closed
  deriving DecidableEq, Repr

/-- An attempt: where it is or how it has failed, and what has happened. -/
structure Attempted where
  phase : Except ConnectError ConnectPhase
  dialogue : Dialogue := {}
  transport : TransportState := .absent
  log : List Exchange := []
  deriving Repr

/-- Go on with a log and an open transport.  An attempt that fails closes it. -/
def Attempted.goOn (log : List Exchange)
    (outcome : Outcome Dialogue Exchange ConnectError ConnectPhase) : Attempted where
  phase := outcome.result
  dialogue := outcome.state
  transport := match outcome.result with
    | .error _ => .closed
    | .ok _ => .opened
  log := log ++ outcome.log

/-- What is reported once the transport is open. -/
def reportSocket (routed : Bool) : Talk PUnit := do
  if routed then emit .discovering "route_source"
  emit .discovering "udp_socket"

/-- What `Connect` does before its first receive. -/
def DirectConnector.begin (connector : DirectConnector) (environment : ConnectEnvironment)
    (uid : String) (feederIp : Option IP) : Attempted :=
  if validUID uid = false then { phase := .error .invalidUID }
  else if connector.hasTransportFactory = false then
    { phase := .error .transportFactoryUnavailable }
  else
    match environment.openTransport with
    | .failed => { phase := .error .openTransport }
    | .routeFailed error =>
        { phase := .error .openTransport
          log := [.emitted { state := .discovering, step := "route_failed", error := error }] }
    | .opened =>
        let routed := (usableIPv4 feederIp).isSome && connector.supportsRoutedSource
        Attempted.goOn [] ((do
          reportSocket routed
          match environment.nonce with
          | none => fail .nonce
          | some nonce => beginDiscovery environment connector uid nonce feederIp) {})

/-- One more arrival.  An attempt that is over takes nothing in. -/
def DirectConnector.take (connector : DirectConnector) (environment : ConnectEnvironment)
    (uid : String) (attempted : Attempted) (arrival : Arrival) : Attempted :=
  match attempted.phase, environment.nonce with
  | .ok (.connected _ _), _ => attempted
  | .ok phase, some nonce =>
      Attempted.goOn attempted.log (turn environment connector uid nonce arrival phase
        attempted.dialogue)
  | _, _ => attempted

/-- `Connect` with the arrivals so far. -/
def DirectConnector.connect (connector : DirectConnector) (environment : ConnectEnvironment)
    (uid : String) (feederIp : Option IP) (arrivals : List Arrival) : Attempted :=
  arrivals.foldl (connector.take environment uid) (connector.begin environment uid feederIp)

/-- The attempt has returned. -/
def Attempted.isOver (attempted : Attempted) : Bool :=
  match attempted.phase with
  | .error _ => true
  | .ok (.connected _ _) => true
  | .ok _ => false

end Camera
end PetlibroRelay
