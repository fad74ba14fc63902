import PetlibroRelay.Camera.CameraRegistry
import PetlibroRelay.Camera.SessionPackets

namespace PetlibroRelay
namespace Camera

/-!
# Packets and addresses of a connection attempt

A camera is searched for by its identifier, first with one packet and, after it has
answered, with a second one.  Two login packets follow, and then the commands that start
the stream.  Everything here is a packet before the transform of the wire is applied.
-/

/-! ## Addresses -/

/-- The bytes of an address: four, sixteen, or none at all. -/
abbrev IP := List UInt8

def V4_IN_V6_PREFIX : Packet := [0, 0, 0, 0, 0, 0, 0, 0, 0, 0, 0xFF, 0xFF]

namespace IP

/-- The four bytes of an address of the older kind. -/
def to4 (ip : IP) : Option IP :=
  if ip.length = 4 then some ip
  else if ip.length = 16 ∧ ip.take 12 = V4_IN_V6_PREFIX then some (ip.drop 12)
  else none

/-- Equality of addresses, where the two ways to write the same address count as equal. -/
def equal (ip other : IP) : Bool :=
  if ip.length = other.length then decide (ip = other)
  else if ip.length = 4 ∧ other.length = 16 then
    decide (other.take 12 = V4_IN_V6_PREFIX) && decide (ip = other.drop 12)
  else if ip.length = 16 ∧ other.length = 4 then
    decide (ip.take 12 = V4_IN_V6_PREFIX) && decide (ip.drop 12 = other)
  else false

def isUnspecified (ip : IP) : Bool :=
  equal ip [0, 0, 0, 0] || equal ip (List.replicate 16 0)

def text (ip : IP) : String :=
  ".".intercalate (ip.map (fun byte => toString byte.toNat))

end IP

/-- An address may lack its bytes. -/
structure UDPAddr where
  ip : Option IP
  port : Nat
  zone : String := ""
  deriving DecidableEq, Repr

def LAN_PORT : Nat := 32761

/-- The address that a feeder is searched at. -/
def feederTarget (ipv4 : IP) : UDPAddr := { ip := some ipv4, port := LAN_PORT }

/-- The four bytes of the address of a feeder, if it is known and usable. -/
def usableIPv4 (feederIp : Option IP) : Option IP :=
  (feederIp.bind IP.to4).filter (fun ipv4 => !ipv4.isUnspecified)

/-! ## Searching -/

def putUint32 (number : UInt32) : Packet :=
  [UInt8.ofNat (number.toNat % 256), UInt8.ofNat (number.toNat / 256 % 256),
    UInt8.ofNat (number.toNat / 65536 % 256), UInt8.ofNat (number.toNat / 16777216)]

def LAN_SEARCH_LENGTH : Nat := 88
def LAN_SEARCH_RESPONSE_LENGTH : Nat := 200
def CONTROL_FLAGS : UInt8 := 0x02
def LAN_SEARCH_OPCODE : UInt16 := 0x0601
def LAN_SEARCH_RESPONSE_OPCODE : UInt16 := 0x0602
def LAN_SEARCH_SUBTYPE : UInt16 := 0x0021
def LAN_SEARCH_RESPONSE_SUBTYPE : UInt16 := 0x0012
def CLIENT_SDK_VERSION : Packet := [0x02, 0x03, 0x03, 0x04]

/-- The bytes of a valid identifier, one for each character. -/
def uidBytes (uid : String) : Packet :=
  uid.toList.map (fun character => UInt8.ofNat character.toNat)

/-- One of the two search packets. -/
def encodeLANSearch3Phase (uid : String) (nonce : SessionId) (phase : UInt8) : Option Packet :=
  if validUID uid then
    some ([0x04, 0x02, CLIENT_SESSION_MAGIC_VERSION, CONTROL_FLAGS] ++
      putUint16 (UInt16.ofNat (LAN_SEARCH_LENGTH - 16)) ++ [0, 0] ++
      putUint16 LAN_SEARCH_OPCODE ++ putUint16 LAN_SEARCH_SUBTYPE ++ [0, 0, 0, 0] ++
      uidBytes uid ++ List.replicate 16 0 ++ CLIENT_SDK_VERSION ++ nonce.toList ++ [phase] ++
      List.replicate 9 0 ++ List.replicate 8 0x30 ++ List.replicate 6 0)
  else none

def encodeLANSearch3 (uid : String) (nonce : SessionId) : Option Packet :=
  encodeLANSearch3Phase uid nonce 1

structure LANSearchResponse where
  uid : Packet
  tailMarker : UInt32
  opaqueToken : Packet
  responseFlags : UInt32
  deriving DecidableEq, Repr

inductive SearchError where
  | invalidUID
  | packetTooShort (got : Nat)
  | unexpectedPacket
  | uidMismatch
  deriving DecidableEq, Repr

def decodeLANSearchResponse (packet : Packet) (expectedUid : String) :
    Except SearchError LANSearchResponse :=
  if validUID expectedUid then
    if exact : packet.length = LAN_SEARCH_RESPONSE_LENGTH then
      have long : packet.length = 200 := exact
      if packet[0] = 0x04 ∧ packet[1] = 0x02 ∧ packet[2] = DEVICE_SESSION_MAGIC_VERSION ∧
          packet[3] = CONTROL_FLAGS then
        if uint16At packet 4 (by omega) = UInt16.ofNat (LAN_SEARCH_RESPONSE_LENGTH - 16) ∧
            uint16At packet 8 (by omega) = LAN_SEARCH_RESPONSE_OPCODE ∧
            uint16At packet 10 (by omega) = LAN_SEARCH_RESPONSE_SUBTYPE then
          let response : LANSearchResponse := {
            uid := slice packet 16 36 (by omega)
            tailMarker := uint32At packet 184 (by omega)
            opaqueToken := slice packet 188 196 (by omega)
            responseFlags := uint32At packet 196 (by omega) }
          if response.uid = uidBytes expectedUid then .ok response else .error .uidMismatch
        else .error .unexpectedPacket
      else .error .unexpectedPacket
    else .error (.packetTooShort packet.length)
  else .error .invalidUID

/-! ## Login -/

inductive LoginVariant where
  | primary
  | secondary
  deriving DecidableEq, Repr

def LOGIN_REQUEST_LENGTH : Nat := 598
def LOGIN_RESPONSE_LENGTH : Nat := 88
def LOGIN_FIELD_LENGTH : Nat := 257
def LOGIN_SUCCESS_COMMAND : UInt8 := 0x21

/-- A text in a field of fixed length. -/
def loginField (text : String) : Packet :=
  uidBytes text ++ List.replicate (LOGIN_FIELD_LENGTH - text.length) 0

structure LoginRequest where
  sessionId : SessionId
  sequence : UInt16
  variant : LoginVariant
  timestampMillis : UInt32

def LoginRequest.encode (request : LoginRequest) : Packet :=
  [0x04, 0x02, CLIENT_SESSION_MAGIC_VERSION, SESSION_FLAGS] ++
    putUint16 (UInt16.ofNat (LOGIN_REQUEST_LENGTH - 16)) ++ putUint16 request.sequence ++
    putUint16 CLIENT_SESSION_OPCODE ++ putUint16 CLIENT_SESSION_SUBTYPE ++
    sessionID16 request.sessionId ++
    [0, if request.variant = .primary then 0 else 0x20, LOGIN_COMMAND_VERSION] ++
    List.replicate 13 0 ++ putUint16 (UInt16.ofNat (LOGIN_REQUEST_LENGTH - 52)) ++
    [if request.variant = .primary then 1 else 0, 0] ++ putUint32 request.timestampMillis ++
    loginField "admin" ++ loginField "888888" ++
    [1, 0, 0, 0, 4, 0, 0, 0, 0xFB, 0x07, 0x1F, 0x00, 0, 0, 0, 0, 0, 0, 0, 0, 0, 0, 3,
      0, 0, 0, 0, 0, 1, 0, 0, 0]

structure LoginResponse where
  sessionId : SessionId
  sequence : UInt16
  deriving DecidableEq, Repr

inductive LoginError where
  | packetTooShort (got : Nat)
  | unexpectedPacket
  | rejected
  deriving DecidableEq, Repr

def decodeLoginResponse (packet : Packet) (expectedSessionId : SessionId) :
    Except LoginError LoginResponse :=
  if exact : packet.length = LOGIN_RESPONSE_LENGTH then
    have long : packet.length = 88 := exact
    if packet[0] = 0x04 ∧ packet[1] = 0x02 ∧ packet[2] = DEVICE_SESSION_MAGIC_VERSION ∧
        packet[3] = SESSION_FLAGS ∧
        uint16At packet 4 (by omega) = UInt16.ofNat (LOGIN_RESPONSE_LENGTH - 16) ∧
        uint16At packet 8 (by omega) = DEVICE_SESSION_OPCODE ∧
        uint16At packet 10 (by omega) = DEVICE_LOGIN_SUBTYPE then
      if slice packet 12 28 (by omega) = sessionID16 expectedSessionId then
        if packet[28] = 0 ∧ packet[29] = LOGIN_SUCCESS_COMMAND ∧
            packet[30] = LOGIN_COMMAND_VERSION then
          .ok { sessionId := expectedSessionId, sequence := uint16At packet 6 (by omega) }
        else .error .rejected
      else .error .unexpectedPacket
    else .error .unexpectedPacket
  else .error (.packetTooShort packet.length)

/-! ## Commands -/

def CONTROL_CHANNEL_STREAM : UInt16 := 0x1000
def CONTROL_CHANNEL_SYSTEM : UInt16 := 0x7000
def CONTROL_SET_STREAM : UInt32 := 0x0024
def CONTROL_SET_STREAM_REPLY : UInt32 := CONTROL_SET_STREAM + 1
def CONTROL_GET_FORMAT : UInt32 := 0x032A
def CONTROL_GET_FORMAT_REPLY : UInt32 := CONTROL_GET_FORMAT + 1
def CONTROL_START_VIDEO : UInt32 := 0x01FF
def CONTROL_START_VIDEO_REPLY : UInt32 := CONTROL_START_VIDEO + 1
def FORMAT_CONTROL_INDEX : UInt32 := 1
def STREAM_START_ARGUMENT_SIZE : Nat := 8
def STREAM_CONTROL_HD : Packet := [0x01, 0x00, 0xFF, 0x3F, 0x00, 0x00, 0x00, 0x00]

/-- A command as the payload of a control packet. -/
def controlPayload (controlType : UInt32) (controlData : Packet) : Packet :=
  putUint32 controlType ++ controlData

def encodeControlData (counter channel : UInt16) (index : UInt32) (payload : Packet) : Packet :=
  [0x0C, 0, LOGIN_COMMAND_VERSION, 0] ++ putUint16 counter ++ List.replicate 10 0 ++
    putUint16 channel ++ [0, 0] ++ putUint32 1 ++ putUint32 (UInt32.ofNat payload.length) ++
    putUint32 index ++ [0, 0, 0, 0] ++ payload

def encodeBootstrapHeartbeat (counter : UInt16) (timestamp : UInt32) : Packet :=
  [BOOTSTRAP_HEARTBEAT_MARKER, 0x08, LOGIN_COMMAND_VERSION, 0] ++ putUint16 counter ++ [0, 0] ++
    putUint32 timestamp ++ [0, 0, 0, 0]

structure ControlReplyKey where
  channel : UInt16
  controlType : UInt32
  deriving DecidableEq, Repr

def parseControlReply (inner : Packet) : Option ControlReplyKey :=
  if long : 40 ≤ inner.length then
    if inner[0] = 0x0C ∧ inner[2] = LOGIN_COMMAND_VERSION then
      let channel := uint16At inner 16 (by omega)
      if channel = CONTROL_CHANNEL_STREAM ∨ channel = CONTROL_CHANNEL_SYSTEM then
        some { channel := channel, controlType := uint32At inner 36 (by omega) }
      else none
    else none
  else none

def streamReply : ControlReplyKey := ⟨CONTROL_CHANNEL_STREAM, CONTROL_SET_STREAM_REPLY⟩
def formatReply : ControlReplyKey := ⟨CONTROL_CHANNEL_SYSTEM, CONTROL_GET_FORMAT_REPLY⟩
def startReply : ControlReplyKey := ⟨CONTROL_CHANNEL_SYSTEM, CONTROL_START_VIDEO_REPLY⟩

/-- The body of the command that starts the stream. -/
def startVideoBody (counter : UInt16) : Packet :=
  encodeControlData counter CONTROL_CHANNEL_SYSTEM 2
    (controlPayload CONTROL_START_VIDEO (List.replicate STREAM_START_ARGUMENT_SIZE 0))

end Camera
end PetlibroRelay
