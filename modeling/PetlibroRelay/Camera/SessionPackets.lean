import Mathlib.Data.List.Basic

namespace PetlibroRelay
namespace Camera

/-!
# Packets of a camera session

The decoded packets that a session sends and receives, and the counters it keeps for
them.  Every packet of a session starts with a header of 28 bytes that names the
session; only keepalives have no session in them.

A byte is read only where the checks before it say that it is there, so a read out of
range cannot be written down.  Numbers are stored with the low byte first.
-/

/-! ## Bytes -/

abbrev Packet := List UInt8

/-- The eight bytes a session is named by. -/
abbrev SessionId := Vector UInt8 8

/-- A number of two bytes. -/
def uint16At (packet : Packet) (first : Nat) (within : first + 2 ≤ packet.length) : UInt16 :=
  UInt16.ofNat (packet[first].toNat + 256 * packet[first + 1].toNat)

/-- A number of four bytes. -/
def uint32At (packet : Packet) (first : Nat) (within : first + 4 ≤ packet.length) : UInt32 :=
  UInt32.ofNat (packet[first].toNat + 256 * packet[first + 1].toNat +
    65536 * packet[first + 2].toNat + 16777216 * packet[first + 3].toNat)

def slice (packet : Packet) (first last : Nat) (_within : last ≤ packet.length) : Packet :=
  (packet.drop first).take (last - first)

def putUint16 (number : UInt16) : Packet :=
  [UInt8.ofNat (number.toNat % 256), UInt8.ofNat (number.toNat / 256)]

/-! ## Headers -/

def SESSION_FLAGS : UInt8 := 0x0A
def CLIENT_SESSION_MAGIC_VERSION : UInt8 := 0x1C
def DEVICE_SESSION_MAGIC_VERSION : UInt8 := 0x1B
def CLIENT_SESSION_OPCODE : UInt16 := 0x0407
def DEVICE_SESSION_OPCODE : UInt16 := 0x0408
def CLIENT_SESSION_SUBTYPE : UInt16 := 0x0021
def DEVICE_LOGIN_SUBTYPE : UInt16 := 0x0012
def LOGIN_COMMAND_VERSION : UInt8 := 0x0B

/-- The identifier of a session as headers have it. -/
def sessionID16 (sessionId : SessionId) : Packet :=
  [sessionId[0], sessionId[1], 0, 0, 0x0C, 0, 0, 0] ++ sessionId.toList

/-- The body of a packet of the device, if it is one of this session. -/
def decodeDeviceSession (packet : Packet) (sessionId : SessionId) : Option Packet :=
  if long : 28 ≤ packet.length then
    if packet[0] = 0x04 ∧ packet[1] = 0x02 ∧ packet[2] = DEVICE_SESSION_MAGIC_VERSION ∧
        packet[3] = SESSION_FLAGS ∧
        uint16At packet 4 (by omega) = UInt16.ofNat (packet.length - 16) ∧
        uint16At packet 8 (by omega) = DEVICE_SESSION_OPCODE ∧
        uint16At packet 10 (by omega) = DEVICE_LOGIN_SUBTYPE ∧
        slice packet 12 28 long = sessionID16 sessionId then
      some (packet.drop 28)
    else none
  else none

/-- The number and the body of a packet that the client sends in a session. -/
def decodeClientSession (packet : Packet) (sessionId : SessionId) : Option (UInt16 × Packet) :=
  if long : 28 ≤ packet.length then
    if packet[0] = 0x04 ∧ packet[1] = 0x02 ∧ packet[2] = CLIENT_SESSION_MAGIC_VERSION ∧
        packet[3] = SESSION_FLAGS ∧
        uint16At packet 8 (by omega) = CLIENT_SESSION_OPCODE ∧
        slice packet 12 28 long = sessionID16 sessionId then
      some (uint16At packet 6 (by omega), packet.drop 28)
    else none
  else none

def encodeClientSessionPacket (sessionId : SessionId) (sequence : UInt16) (body : Packet) :
    Packet :=
  [0x04, 0x02, CLIENT_SESSION_MAGIC_VERSION, SESSION_FLAGS] ++
    putUint16 (UInt16.ofNat (28 + body.length - 16)) ++ putUint16 sequence ++
    putUint16 CLIENT_SESSION_OPCODE ++ putUint16 CLIENT_SESSION_SUBTYPE ++
    sessionID16 sessionId ++ body

theorem length_encodeClientSessionPacket (sessionId : SessionId) (sequence : UInt16)
    (body : Packet) :
    (encodeClientSessionPacket sessionId sequence body).length = 28 + body.length := by
  simp only [encodeClientSessionPacket, sessionID16, putUint16, List.length_append,
    List.length_cons, List.length_nil, Vector.length_toList]

/-! ## Packets that call for a reply -/

def KEEPALIVE_RESPONSE_OPCODE : UInt16 := 0x0428
def KEEPALIVE_REQUEST_OPCODE : UInt16 := 0x0427
def KEEPALIVE_RESPONSE_SUBTYPE : UInt16 := 0x0012
def KEEPALIVE_REQUEST_SUBTYPE : UInt16 := 0x0021
def BOOTSTRAP_HEARTBEAT_MARKER : UInt8 := 0x0A

/-- The reply to a keepalive: the same packet under another opcode. -/
def encodeKeepaliveReply (packet : Packet) : Option Packet :=
  if exact : packet.length = 24 then
    if packet[0] = 0x04 ∧ packet[1] = 0x02 ∧ packet[2] = DEVICE_SESSION_MAGIC_VERSION ∧
        packet[3] = SESSION_FLAGS ∧ uint16At packet 4 (by omega) = 8 ∧
        uint16At packet 8 (by omega) = KEEPALIVE_RESPONSE_OPCODE ∧
        uint16At packet 10 (by omega) = KEEPALIVE_RESPONSE_SUBTYPE then
      some (packet.take 8 ++ putUint16 KEEPALIVE_REQUEST_OPCODE ++
        putUint16 KEEPALIVE_REQUEST_SUBTYPE ++ packet.drop 12)
    else none
  else none

theorem length_encodeKeepaliveReply {packet reply : Packet}
    (encoded : encodeKeepaliveReply packet = some reply) : reply.length = 24 := by
  unfold encodeKeepaliveReply at encoded
  split at encoded
  · next exact_ =>
      split at encoded
      · cases encoded
        simp only [List.length_append, List.length_take, List.length_drop, exact_]
        rfl
      · cases encoded
  · cases encoded

/-- The acknowledgement of a heartbeat. -/
def encodeSessionHeartbeatAck (inner : Packet) : Option Packet :=
  if exact : inner.length = 16 then
    if inner[0] = BOOTSTRAP_HEARTBEAT_MARKER ∧ inner[1] = 0x08 ∧
        inner[2] = LOGIN_COMMAND_VERSION then
      some [0x0B, 0x00, 0x0B, 0x00, 0, 0, 1, 0, inner[8], inner[9], 3, 0, 3, 0, 0, 0, 0, 0, 0, 0]
    else none
  else none

def SESSION25_COUNTER_COMMAND : UInt8 := 0x09
def SESSION25_VERSION : UInt8 := 0x0B
def SESSION25_INITIAL_PACKET : UInt16 := 0x3FFF

/-- What a counters packet carries. -/
structure Session25Counters where
  seqSendCmd1 : UInt16
  seqRecvPkt0 : UInt16
  seqRecvPkt1 : UInt16
  seqRecvCmd2 : UInt16
  seqSendCnt : UInt16
  random : UInt16
  deriving DecidableEq, Repr

def decodeSession25Counters (body : Packet) : Option Session25Counters :=
  if exact : body.length = 24 then
    if body[0] = SESSION25_COUNTER_COMMAND ∧ body[1] = 0 ∧ body[2] = SESSION25_VERSION ∧
        body[3] = 0 then
      some {
        seqSendCmd1 := uint16At body 4 (by omega)
        seqRecvPkt0 := uint16At body 8 (by omega)
        seqRecvPkt1 := uint16At body 10 (by omega)
        seqRecvCmd2 := uint16At body 12 (by omega)
        seqSendCnt := uint16At body 18 (by omega)
        random := uint16At body 20 (by omega) }
    else none
  else none

def encodeSession25Counters (counters : Session25Counters) : Packet :=
  [SESSION25_COUNTER_COMMAND, 0, SESSION25_VERSION, 0] ++ putUint16 counters.seqSendCmd1 ++
    [0, 0] ++ putUint16 counters.seqRecvPkt0 ++ putUint16 counters.seqRecvPkt1 ++
    putUint16 counters.seqRecvCmd2 ++ [0, 0, 0, 0] ++ putUint16 counters.seqSendCnt ++
    putUint16 counters.random ++ [0, 0]

/-! ## The counters of a session -/

structure Session25State where
  seqSendCmd1 : UInt16 := 0
  seqSendCmd2 : UInt16 := 0
  seqRecvCmd2 : UInt16 := 0
  seqRecvPkt0 : UInt16 := SESSION25_INITIAL_PACKET
  seqRecvPkt1 : UInt16 := SESSION25_INITIAL_PACKET
  seqSendCnt : UInt16 := 0
  deriving DecidableEq, Repr

namespace Session25State

def nextOutboundCommand (state : Session25State) : UInt16 × Session25State :=
  (state.seqSendCmd1,
    { state with
      seqSendCmd1 := state.seqSendCmd1 + 1
      seqSendCmd2 := state.seqSendCmd2 + 1 })

/-- The next counters packet.  The first one moves the cursor of received commands to
its sentinel. -/
def nextCounters (state : Session25State) (random : UInt16) :
    Packet × Session25Counters × Session25State :=
  let counters : Session25Counters := {
    seqSendCmd1 := state.seqSendCmd1
    seqRecvPkt0 := state.seqRecvPkt0
    seqRecvPkt1 := state.seqRecvPkt1
    seqRecvCmd2 := state.seqRecvCmd2
    seqSendCnt := state.seqSendCnt
    random := random }
  (encodeSession25Counters counters, counters,
    { state with
      seqSendCmd1 := state.seqSendCmd1 + 1
      seqRecvPkt0 := state.seqRecvPkt1
      seqSendCnt := state.seqSendCnt + 1
      seqRecvCmd2 := if state.seqSendCnt + 1 = 1 then 0xFFFF else state.seqRecvCmd2 })

/-- The first reply after the sentinel is counted as the first one. -/
def noteReceivedControlReply (state : Session25State) : Session25State :=
  if state.seqRecvCmd2 = 0xFFFF then { state with seqRecvCmd2 := 1 }
  else { state with seqRecvCmd2 := state.seqRecvCmd2 + 1 }

def noteReceivedMedia (state : Session25State) (sequence : UInt16) : Session25State :=
  { state with seqRecvPkt1 := sequence }

end Session25State

end Camera
end PetlibroRelay
