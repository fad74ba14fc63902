import PetlibroRelay.Foundations.ChunkedInput
import PetlibroRelay.Foundations.Utf8

namespace PetlibroRelay
namespace Presence

open Foundations

/-!
# The CONNECT packet

The capture proxy reads one CONNECT packet off the socket of a feeder and takes the
identity fields out of it.  A reader keeps every byte it has consumed.  An error
carries what was consumed, so that it can still be forwarded.

Indexing beyond the end of a buffer is an error of its own, which the proxy would not
catch.
-/

abbrev Bytes := List UInt8

def CONNECT_PACKET_TYPE : UInt8 := 0x10
def CONNECT_PACKET_TYPE_MASK : UInt8 := 0xF0
def USERNAME_FLAG_BIT : UInt8 := 0x80
def PASSWORD_FLAG_BIT : UInt8 := 0x40
def WILL_FLAG_BIT : UInt8 := 0x04
def MAX_REMAINING_LENGTH_BYTES : Nat := 4
def CONTINUATION_BIT : UInt8 := 0x80
def REMAINING_LENGTH_VALUE_MASK : UInt8 := 0x7F

/-- What reading a packet may raise. -/
inductive ReadError where
  | malformedConnectPacket (message : String) (rawSoFar : Bytes)
  | indexError
  deriving DecidableEq, Repr

/-- The identity fields of a packet. -/
structure ConnectPacketFields where
  clientId : String
  username : Option String
  password : Option String
  deriving DecidableEq, Repr

/-- A socket, and every byte consumed from it so far. -/
structure TrackingReader where
  sock : ChunkedInput UInt8
  raw : Bytes := []

/-- A step of reading, which moves the reader and gives a value or an error. -/
def SocketRead (α : Type) := TrackingReader -> Except ReadError α × TrackingReader

namespace SocketRead

variable {α β : Type}

def andThen (first : SocketRead α) (next : α -> SocketRead β) : SocketRead β := fun reader =>
  match first reader with
  | (.ok value, moved) => next value moved
  | (.error error, moved) => (.error error, moved)

instance : Monad SocketRead where
  pure value := fun reader => (.ok value, reader)
  bind := andThen

/-- The error for what was consumed so far. -/
def malformed (message : String) : SocketRead α := fun reader =>
  (.error (.malformedConnectPacket message reader.raw), reader)

/-- The bytes consumed so far. -/
def consumed : SocketRead Bytes := fun reader => (.ok reader.raw, reader)

def lift (outcome : Except ReadError α) : SocketRead α := fun reader => (outcome, reader)

theorem bind_ok {first : SocketRead α} {next : α -> SocketRead β} {reader moved : TrackingReader}
    {value : α} (done : first reader = (.ok value, moved)) :
    (first >>= next) reader = next value moved := by
  change andThen first next reader = next value moved
  rw [andThen, done]

theorem bind_error {first : SocketRead α} {next : α -> SocketRead β}
    {reader moved : TrackingReader} {error : ReadError}
    (failed : first reader = (.error error, moved)) :
    (first >>= next) reader = (.error error, moved) := by
  change andThen first next reader = (.error error, moved)
  rw [andThen, failed]

/-- A sequence that gives a value has given one after the first step. -/
theorem ok_of_bind {first : SocketRead α} {next : α -> SocketRead β}
    {reader moved : TrackingReader} {value : β} (done : (first >>= next) reader = (.ok value, moved)) :
    exists result middle, first reader = (.ok result, middle) ∧
      next result middle = (.ok value, moved) := by
  rcases outcome : first reader with ⟨failed | result, middle⟩
  · rw [bind_error outcome] at done
    cases done
  · rw [bind_ok outcome] at done
    exact ⟨result, middle, rfl, done⟩

end SocketRead

def byteAt (buffer : Bytes) (index : Nat) : Except ReadError UInt8 :=
  match buffer[index]? with
  | some byte => .ok byte
  | none => .error .indexError

theorem byteAt_of_lt {buffer : Bytes} {index : Nat} (inside : index < buffer.length) :
    byteAt buffer index = .ok buffer[index] := by
  rw [byteAt, List.getElem?_eq_getElem inside]

/-- The loop of `recv_exact`.  A read that is not the end of the stream gives at least one
byte, so there are at most as many reads as bytes. -/
def recvLoop (length : Nat) : Nat -> Bytes -> SocketRead Bytes
  | 0, buffer => pure buffer
  | reads + 1, buffer => fun reader =>
      if buffer.length < length then
        let received := reader.sock.recv (length - buffer.length)
        if received.1 = [] then
          SocketRead.malformed "connection closed before a full packet was read"
            { reader with sock := received.2 }
        else recvLoop length reads (buffer ++ received.1) ⟨received.2, reader.raw ++ received.1⟩
      else (.ok buffer, reader)

/-- Read exactly a number of bytes. -/
def recvExact (length : Nat) : SocketRead Bytes := recvLoop length length []

theorem recvLoop_of_enough {length reads : Nat} {buffer : Bytes} (started : buffer.length ≤ length)
    (bounded : length - buffer.length ≤ reads) {reader : TrackingReader}
    (enough : length - buffer.length ≤ reader.sock.content.length) :
    exists sock, sock.content = reader.sock.content.drop (length - buffer.length) ∧
      recvLoop length reads buffer reader =
        (.ok (buffer ++ reader.sock.content.take (length - buffer.length)),
          ⟨sock, reader.raw ++ reader.sock.content.take (length - buffer.length)⟩) := by
  induction reads generalizing buffer reader with
  | zero =>
      have done : length - buffer.length = 0 := by omega
      refine ⟨reader.sock, ?_, ?_⟩
      · rw [done, List.drop_zero]
      · rw [done, List.take_zero, List.append_nil, List.append_nil]
        rfl
  | succ reads inductionHypothesis =>
      by_cases missing : buffer.length < length
      · have read := reader.sock.recv_append (length - buffer.length)
        have most := reader.sock.length_recv_le (length - buffer.length)
        have some_read : (reader.sock.recv (length - buffer.length)).1 ≠ [] := by
          intro nothing
          rw [ChunkedInput.content_of_recv_nil (by omega) nothing, List.length_nil] at enough
          omega
        simp only [recvLoop, if_pos missing, if_neg some_read]
        generalize reader.sock.recv (length - buffer.length) = received at read most some_read
        have positive := List.length_pos_iff.mpr some_read
        have left : length - (buffer ++ received.1).length =
            length - buffer.length - received.1.length := by
          rw [List.length_append]
          omega
        rw [← read, List.length_append] at enough
        obtain ⟨sock, rest, result⟩ := @inductionHypothesis (buffer ++ received.1)
          (by rw [List.length_append]; omega) (by omega) ⟨received.2, reader.raw ++ received.1⟩
          (by rw [left]; dsimp only; omega)
        refine ⟨sock, ?_, ?_⟩
        · rw [rest, ← read, List.drop_append, left, List.drop_eq_nil_of_le most, List.nil_append]
        · rw [result, ← read, List.take_append, left, List.take_of_length_le most,
            List.append_assoc, List.append_assoc]
      · have done : length - buffer.length = 0 := by omega
        refine ⟨reader.sock, ?_, ?_⟩
        · rw [done, List.drop_zero]
        · simp only [recvLoop, if_neg missing, done, List.take_zero, List.append_nil]

theorem recvLoop_of_short {length reads : Nat} {buffer : Bytes}
    (bounded : length - buffer.length ≤ reads) {reader : TrackingReader}
    (short : reader.sock.content.length < length - buffer.length) :
    exists sock message, sock.content = [] ∧
      recvLoop length reads buffer reader =
        (.error (.malformedConnectPacket message (reader.raw ++ reader.sock.content)),
          ⟨sock, reader.raw ++ reader.sock.content⟩) := by
  induction reads generalizing buffer reader with
  | zero => omega
  | succ reads inductionHypothesis =>
      have missing : buffer.length < length := by omega
      have read := reader.sock.recv_append (length - buffer.length)
      simp only [recvLoop, if_pos missing]
      by_cases nothing : (reader.sock.recv (length - buffer.length)).1 = []
      · have ended := ChunkedInput.content_of_recv_nil (by omega) nothing
        rw [nothing, List.nil_append, ended] at read
        rw [if_pos nothing, ended, List.append_nil]
        exact ⟨_, _, read, rfl⟩
      · rw [if_neg nothing]
        generalize reader.sock.recv (length - buffer.length) = received at read nothing
        have positive := List.length_pos_iff.mpr nothing
        rw [← read, List.length_append] at short
        obtain ⟨sock, message, ended, result⟩ := @inductionHypothesis (buffer ++ received.1)
          (by rw [List.length_append]; omega) ⟨received.2, reader.raw ++ received.1⟩
          (by rw [List.length_append]; dsimp only; omega)
        refine ⟨sock, message, ended, ?_⟩
        rw [result, ← read, List.append_assoc]

/-- An exact read of bytes that are there gives them, however they arrive. -/
theorem recvExact_of_enough {length : Nat} {reader : TrackingReader}
    (enough : length ≤ reader.sock.content.length) :
    exists sock, sock.content = reader.sock.content.drop length ∧
      recvExact length reader = (.ok (reader.sock.content.take length),
        ⟨sock, reader.raw ++ reader.sock.content.take length⟩) :=
  @recvLoop_of_enough length length [] (Nat.zero_le _) (Nat.le_refl _) reader enough

/-- An exact read that meets the end of the stream has consumed all of it. -/
theorem recvExact_of_short {length : Nat} {reader : TrackingReader}
    (short : reader.sock.content.length < length) :
    exists sock message, sock.content = [] ∧
      recvExact length reader =
        (.error (.malformedConnectPacket message (reader.raw ++ reader.sock.content)),
          ⟨sock, reader.raw ++ reader.sock.content⟩) :=
  @recvLoop_of_short length length [] (Nat.le_refl _) reader short

/-- The loop of `_read_remaining_length`. -/
def remainingLengthLoop : Nat -> Nat -> Nat -> SocketRead Nat
  | 0, _, _ => SocketRead.malformed "remaining length field exceeds 4 bytes"
  | rounds + 1, multiplier, value => do
      let received ← recvExact 1
      let byteValue ← SocketRead.lift (byteAt received 0)
      let value := value + (byteValue &&& REMAINING_LENGTH_VALUE_MASK).toNat * multiplier
      if byteValue &&& CONTINUATION_BIT = 0 then pure value
      else remainingLengthLoop rounds (multiplier * 128) value

/-- Read the variable-length remaining length. -/
def readRemainingLength : SocketRead Nat := remainingLengthLoop MAX_REMAINING_LENGTH_BYTES 1 0

/-- Read a text with a length prefix of two bytes: the text and where the next field
begins. -/
def readLengthPrefixedString (buffer : Bytes) (offset : Nat) (rawSoFar : Bytes) :
    Except ReadError (String × Nat) := do
  if offset + 2 > buffer.length then
    .error (.malformedConnectPacket "truncated length prefix" rawSoFar)
  else
    let high ← byteAt buffer offset
    let low ← byteAt buffer (offset + 1)
    let fieldLength := high.toNat <<< 8 ||| low.toNat
    let start := offset + 2
    let stop := start + fieldLength
    if stop > buffer.length then
      .error (.malformedConnectPacket "truncated field" rawSoFar)
    else .ok (Utf8.decode ((buffer.drop start).take fieldLength), stop)

/-- A text that a flag announces. -/
def readAnnounced (announced : Bool) (buffer : Bytes) (offset : Nat) (rawSoFar : Bytes) :
    Except ReadError (Option String × Nat) :=
  if announced then do
    let field ← readLengthPrefixedString buffer offset rawSoFar
    .ok (some field.1, field.2)
  else .ok (none, offset)

/-- Whether a flag is set. -/
def hasFlag (flags bit : UInt8) : Bool := decide (flags &&& bit ≠ 0)

/-- The fields of the body of a packet. -/
def readFields (body rawPacket : Bytes) : Except ReadError ConnectPacketFields := do
  let protocolName ← readLengthPrefixedString body 0 rawPacket
  let offset := protocolName.2
  if offset + 2 > body.length then
    .error (.malformedConnectPacket "truncated protocol level / connect flags" rawPacket)
  else
    let connectFlags ← byteAt body (offset + 1)
    -- the protocol level and the flags, and then the keep alive
    let offset := offset + 2 + 2
    let clientId ← readLengthPrefixedString body offset rawPacket
    let willTopic ← readAnnounced (hasFlag connectFlags WILL_FLAG_BIT) body clientId.2 rawPacket
    let willMessage ←
      readAnnounced (hasFlag connectFlags WILL_FLAG_BIT) body willTopic.2 rawPacket
    let username ←
      readAnnounced (hasFlag connectFlags USERNAME_FLAG_BIT) body willMessage.2 rawPacket
    let password ←
      readAnnounced (hasFlag connectFlags PASSWORD_FLAG_BIT) body username.2 rawPacket
    .ok { clientId := clientId.1, username := username.1, password := password.1 }

def hexDigit (digit : Nat) : Char :=
  if digit < 10 then Char.ofNat (digit + 48) else Char.ofNat (digit + 87)

/-- A byte as two hexadecimal digits. -/
def hexByte (byte : UInt8) : String :=
  String.ofList [hexDigit (byte.toNat / 16), hexDigit (byte.toNat % 16)]

/-- Read one packet: its bytes and its fields. -/
def readConnectPacket : SocketRead (Bytes × ConnectPacketFields) := do
  let received ← recvExact 1
  let firstByte ← SocketRead.lift (byteAt received 0)
  if firstByte &&& CONNECT_PACKET_TYPE_MASK ≠ CONNECT_PACKET_TYPE then
    SocketRead.malformed ("expected a CONNECT packet (0x10), got packet type 0x" ++
      hexByte (firstByte &&& CONNECT_PACKET_TYPE_MASK))
  else
    let remainingLength ← readRemainingLength
    let body ← recvExact remainingLength
    let rawPacket ← SocketRead.consumed
    let fields ← SocketRead.lift (readFields body rawPacket)
    pure (rawPacket, fields)

end Presence
end PetlibroRelay
