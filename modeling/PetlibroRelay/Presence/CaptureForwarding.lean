import PetlibroRelay.Registry.DeviceRegistry
import PetlibroRelay.Presence.ConnectPacket

namespace PetlibroRelay
namespace Presence

open Foundations
open Registry

/-!
# The capture proxy as a pipe

The proxy reads the CONNECT packet of a client, forwards what it has read to the
broker, and then forwards all the rest.  Whatever the client sends, and however the
socket splits it, the bytes that were read are the bytes that are forwarded: a read
ends with the bytes it has consumed, or with an error that carries them.

In between it records the identity of the client and tells the listener of its session.
When one of them raises, the handler closes both sockets, and what the client has sent
behind its CONNECT is lost.
-/

/-! ## The proxy -/

/-- The calls made with the identity of a client, and for which identities they raise. -/
structure IdentityCalls where
  recordRaises : DeviceIdentity -> Bool
  listener : Option (DeviceIdentity -> Bool) := none

namespace IdentityCalls

def openSessionRaises (calls : IdentityCalls) (identity : DeviceIdentity) : Bool :=
  match calls.listener with
  | none => false
  | some deviceSessionOpenedRaises => deviceSessionOpenedRaises identity

def raises (calls : IdentityCalls) (identity : DeviceIdentity) : Bool :=
  calls.recordRaises identity || calls.openSessionRaises identity

end IdentityCalls

/-- What has been sent to the broker, the identity that was captured, the socket, and
whether a call with the identity raised. -/
structure Capture where
  sent : List Bytes
  identity : Option DeviceIdentity
  sock : ChunkedInput UInt8
  raised : Bool := false

/-- Capture the identity of a device, forward its CONNECT, and open its session.  Only a
malformed packet is caught. -/
def captureAndForwardConnect (calls : IdentityCalls) (clientSocket : ChunkedInput UInt8) :
    Except ReadError Capture :=
  match readConnectPacket { sock := clientSocket } with
  | (.error (.malformedConnectPacket _ rawSoFar), reader) =>
      .ok { sent := if rawSoFar = [] then [] else [rawSoFar], identity := none, sock := reader.sock }
  | (.error .indexError, _) => .error .indexError
  | (.ok (rawPacket, fields), reader) =>
      match fields.username, fields.password with
      | some username, some password =>
          let identity : DeviceIdentity :=
            { clientId := fields.clientId, username := username, password := password }
          .ok {
            sent := [rawPacket]
            identity := some identity
            sock := reader.sock
            raised := calls.raises identity }
      | _, _ => .ok { sent := [rawPacket], identity := none, sock := reader.sock }

def RELAY_BUFFER_SIZE : Nat := 4096

/-- Forward pieces until the end of the stream. -/
def pipeLoop : Nat -> ChunkedInput UInt8 -> List Bytes
  | 0, _ => []
  | reads + 1, source =>
      let received := source.recv RELAY_BUFFER_SIZE
      if received.1 = [] then [] else received.1 :: pipeLoop reads received.2

/-- What one direction of the pipe sends.  No more reads give something than there are
bytes. -/
def pipeOneDirection (source : ChunkedInput UInt8) : List Bytes :=
  pipeLoop source.content.length source

/-- What a connection sends to the broker once it has reached it.  An error ends the handler,
and the pipe is not started. -/
def handleConnection (calls : IdentityCalls) (clientSocket : ChunkedInput UInt8) : List Bytes :=
  match captureAndForwardConnect calls clientSocket with
  | .error _ => []
  | .ok capture =>
      if capture.raised then capture.sent else capture.sent ++ pipeOneDirection capture.sock

/-! ## Every byte is accounted for -/

/-- After a step, what was consumed and what is left make up the stream as before, and an
error carries what was consumed. -/
def Accounts {α : Type} (step : SocketRead α) (reader : TrackingReader) : Prop :=
  (step reader).2.raw ++ (step reader).2.sock.content = reader.raw ++ reader.sock.content ∧
    forall error, (step reader).1 = .error error ->
      exists message, error = .malformedConnectPacket message (step reader).2.raw

namespace Accounts

variable {α β : Type} {reader : TrackingReader}

theorem pure (value : α) : Accounts (Pure.pure value) reader := ⟨rfl, nofun⟩

theorem consumed : Accounts SocketRead.consumed reader := ⟨rfl, nofun⟩

theorem malformed (message : String) : Accounts (SocketRead.malformed (α := α) message) reader := by
  refine ⟨rfl, ?_⟩
  rintro error ⟨rfl⟩
  exact ⟨message, rfl⟩

theorem bind {first : SocketRead α} {next : α -> SocketRead β} (start : Accounts first reader)
    (continued : forall value moved, first reader = (.ok value, moved) ->
      Accounts (next value) moved) :
    Accounts (first >>= next) reader := by
  rcases outcome : first reader with ⟨failed | value, moved⟩
  · rw [Accounts, SocketRead.bind_error outcome]
    rw [Accounts, outcome] at start
    refine ⟨start.1, ?_⟩
    rintro error ⟨rfl⟩
    exact start.2 failed rfl
  · have step := continued value moved outcome
    rw [Accounts, outcome] at start
    rw [Accounts, SocketRead.bind_ok outcome]
    exact ⟨step.1.trans start.1, step.2⟩

theorem recvExact (length : Nat) : Accounts (Presence.recvExact length) reader := by
  by_cases enough : length ≤ reader.sock.content.length
  · obtain ⟨sock, rest, result⟩ := recvExact_of_enough enough
    rw [Accounts, result]
    refine ⟨?_, nofun⟩
    rw [rest, List.append_assoc, List.take_append_drop]
  · obtain ⟨sock, message, ended, result⟩ := recvExact_of_short (Nat.lt_of_not_le enough)
    rw [Accounts, result]
    refine ⟨?_, ?_⟩
    · rw [ended, List.append_nil]
    · rintro error ⟨rfl⟩
      exact ⟨message, rfl⟩

/-- The byte that was read with an exact read of one. -/
theorem recvByte {next : UInt8 -> SocketRead β}
    (continued : forall byte moved, Accounts (next byte) moved) :
    Accounts (do
      let received ← Presence.recvExact 1
      let byte ← SocketRead.lift (byteAt received 0)
      next byte) reader := by
  refine bind (recvExact 1) ?_
  intro received moved outcome
  by_cases enough : 1 ≤ reader.sock.content.length
  · obtain ⟨sock, -, result⟩ := recvExact_of_enough enough
    rw [result, Prod.mk.injEq, Except.ok.injEq] at outcome
    have inside : 0 < received.length := by
      rw [← outcome.1, List.length_take]
      omega
    have read : SocketRead.lift (byteAt received 0) moved = (.ok received[0], moved) := by
      rw [SocketRead.lift, byteAt_of_lt inside]
    rw [Accounts, SocketRead.bind_ok read]
    exact continued _ moved
  · obtain ⟨sock, message, -, result⟩ := recvExact_of_short (Nat.lt_of_not_le enough)
    rw [result] at outcome
    cases outcome

theorem remainingLengthLoop (rounds multiplier value : Nat) (reader : TrackingReader) :
    Accounts (Presence.remainingLengthLoop rounds multiplier value) reader := by
  induction rounds generalizing multiplier value reader with
  | zero => exact malformed _
  | succ rounds inductionHypothesis =>
      rw [Presence.remainingLengthLoop]
      apply recvByte
      intro byte moved
      dsimp only
      split
      · exact pure _
      · exact inductionHypothesis _ _ moved

end Accounts

/-! ## Errors of the fields -/

/-- An error is that of a malformed packet, with these bytes. -/
def FailsWith {α : Type} (rawPacket : Bytes) (outcome : Except ReadError α) : Prop :=
  forall error, outcome = .error error ->
    exists message, error = .malformedConnectPacket message rawPacket

namespace FailsWith

variable {α β : Type} {rawPacket : Bytes}

theorem ok (value : α) : FailsWith rawPacket (.ok value) := nofun

theorem bind {first : Except ReadError α} {next : α -> Except ReadError β}
    (start : FailsWith rawPacket first) (continued : forall value, FailsWith rawPacket (next value)) :
    FailsWith rawPacket (first >>= next) := by
  cases first with
  | ok value => exact continued value
  | error failed =>
      rintro error ⟨rfl⟩
      exact start failed rfl

theorem malformed (message : String) :
    FailsWith (α := α) rawPacket (.error (.malformedConnectPacket message rawPacket)) := by
  rintro error ⟨rfl⟩
  exact ⟨message, rfl⟩

theorem byteAt {buffer : Bytes} {index : Nat} (inside : index < buffer.length) :
    FailsWith rawPacket (Presence.byteAt buffer index) := by
  rw [byteAt_of_lt inside]
  exact ok _

theorem readLengthPrefixedString (buffer : Bytes) (offset : Nat) :
    FailsWith rawPacket (Presence.readLengthPrefixedString buffer offset rawPacket) := by
  rw [Presence.readLengthPrefixedString]
  split
  · exact malformed _
  · refine bind (byteAt (by omega)) (fun high => bind (byteAt (by omega)) (fun low => ?_))
    dsimp only
    split
    · exact malformed _
    · exact ok _

theorem readAnnounced (announced : Bool) (buffer : Bytes) (offset : Nat) :
    FailsWith rawPacket (Presence.readAnnounced announced buffer offset rawPacket) := by
  rw [Presence.readAnnounced]
  split
  · exact bind (readLengthPrefixedString _ _) (fun _ => ok _)
  · exact ok _

theorem readFields (body : Bytes) : FailsWith rawPacket (Presence.readFields body rawPacket) := by
  rw [Presence.readFields]
  refine bind (readLengthPrefixedString _ _) (fun protocolName => ?_)
  dsimp only
  split
  · exact malformed _
  · exact bind (byteAt (by omega)) (fun _ => bind (readLengthPrefixedString _ _)
      (fun _ => bind (readAnnounced _ _ _) (fun _ => bind (readAnnounced _ _ _)
        (fun _ => bind (readAnnounced _ _ _) (fun _ => bind (readAnnounced _ _ _)
          (fun _ => ok _))))))

end FailsWith

/-! ## The whole stream -/

theorem Accounts.readConnectPacket (reader : TrackingReader) :
    Accounts Presence.readConnectPacket reader := by
  rw [Presence.readConnectPacket]
  apply recvByte
  intro firstByte moved
  split
  · exact malformed _
  · refine bind (remainingLengthLoop _ _ _ moved) ?_
    intro remainingLength measured _
    refine bind (recvExact remainingLength) ?_
    intro body complete _
    refine bind consumed ?_
    rintro rawPacket _ ⟨rfl, rfl⟩
    refine bind ?_ (fun fields last _ => pure _)
    exact ⟨rfl, FailsWith.readFields body⟩

/-- The bytes of a packet are the bytes that were consumed. -/
theorem readConnectPacket_raw {reader moved : TrackingReader} {packet : Bytes × ConnectPacketFields}
    (done : readConnectPacket reader = (.ok packet, moved)) : packet.1 = moved.raw := by
  rw [readConnectPacket] at done
  obtain ⟨received, first, -, done⟩ := SocketRead.ok_of_bind done
  obtain ⟨firstByte, second, -, done⟩ := SocketRead.ok_of_bind done
  split at done
  · cases done
  · obtain ⟨remainingLength, third, -, done⟩ := SocketRead.ok_of_bind done
    obtain ⟨body, fourth, -, done⟩ := SocketRead.ok_of_bind done
    obtain ⟨rawPacket, fifth, ⟨rfl, rfl⟩, done⟩ := SocketRead.ok_of_bind done
    obtain ⟨fields, sixth, parsed, ⟨rfl, rfl⟩⟩ := SocketRead.ok_of_bind done
    rw [SocketRead.lift, Prod.mk.injEq] at parsed
    rw [parsed.2]

/-- The pipe forwards all that is left. -/
theorem flatten_pipeLoop {reads : Nat} {source : ChunkedInput UInt8}
    (enough : source.content.length ≤ reads) :
    (pipeLoop reads source).flatten = source.content := by
  induction reads generalizing source with
  | zero => exact (List.eq_nil_of_length_eq_zero (Nat.le_zero.mp enough)).symm
  | succ reads inductionHypothesis =>
      have read := source.recv_append RELAY_BUFFER_SIZE
      rw [pipeLoop]
      split
      · next nothing =>
          exact (ChunkedInput.content_of_recv_nil (by decide) nothing).symm
      · next something =>
          have positive := List.length_pos_iff.mpr something
          rw [← read, List.length_append] at enough
          rw [List.flatten_cons, inductionHypothesis (by omega), read]

theorem flatten_pipeOneDirection (source : ChunkedInput UInt8) :
    (pipeOneDirection source).flatten = source.content :=
  flatten_pipeLoop (Nat.le_refl _)

/-- What is promised of a connection: the bytes sent of its CONNECT are the bytes read of it,
and with what is piped they are the stream of the client. -/
structure Transparent (calls : IdentityCalls) (clientSocket : ChunkedInput UInt8) : Prop where
  consumed : exists capture, captureAndForwardConnect calls clientSocket = .ok capture ∧
    capture.sent.flatten = (readConnectPacket { sock := clientSocket }).2.raw
  whole : (handleConnection calls clientSocket).flatten = clientSocket.content

/-- The packet names an identity on which a call raises, and it is not all the client sends. -/
def CutOff (calls : IdentityCalls) (clientSocket : ChunkedInput UInt8) : Prop :=
  exists rawPacket fields reader username password,
    readConnectPacket { sock := clientSocket } = (.ok (rawPacket, fields), reader) ∧
      fields.username = some username ∧ fields.password = some password ∧
        calls.raises { clientId := fields.clientId, username := username, password := password } =
          true ∧
        reader.sock.content ≠ []

section Connections

variable {calls : IdentityCalls} {clientSocket : ChunkedInput UInt8}

/-- Only a raising call ends a connection early: without one all is forwarded. -/
theorem handleConnection_of_capture {capture : Capture}
    (captured : captureAndForwardConnect calls clientSocket = .ok capture)
    (accounts : capture.sent.flatten ++ capture.sock.content = clientSocket.content) :
    (handleConnection calls clientSocket).flatten = clientSocket.content ↔
      ¬ (capture.raised = true ∧ capture.sock.content ≠ []) := by
  rw [handleConnection, captured]
  dsimp only
  cases capture.raised with
  | true =>
      rw [if_pos rfl, ← accounts, List.self_eq_append_right]
      exact ⟨fun nothing impossible => impossible.2 nothing,
        fun whole => Classical.not_not.mp fun some => whole ⟨rfl, some⟩⟩
  | false =>
      rw [if_neg Bool.false_ne_true, List.flatten_append, flatten_pipeOneDirection, accounts]
      exact ⟨fun _ impossible => Bool.false_ne_true impossible.1, fun _ => rfl⟩

variable (calls)

/-- A packet that cannot be read is forwarded as far as it was read. -/
theorem capture_of_malformed {message : String} {rawSoFar : Bytes} {moved : TrackingReader}
    (outcome : readConnectPacket { sock := clientSocket } =
      (.error (.malformedConnectPacket message rawSoFar), moved)) :
    exists capture, captureAndForwardConnect calls clientSocket = .ok capture ∧
      capture.sent.flatten = rawSoFar ∧ capture.sock = moved.sock ∧ capture.raised = false := by
  have sent : (if rawSoFar = [] then [] else [rawSoFar]).flatten = rawSoFar := by
    split
    · next nothing => rw [nothing, List.flatten_nil]
    · exact List.flatten_singleton
  rw [captureAndForwardConnect, outcome]
  exact ⟨_, rfl, sent, rfl, rfl⟩

/-- A packet that was read is forwarded whole, and its identity is reported. -/
theorem capture_of_packet {rawPacket : Bytes} {fields : ConnectPacketFields}
    {moved : TrackingReader}
    (outcome : readConnectPacket { sock := clientSocket } = (.ok (rawPacket, fields), moved)) :
    exists capture, captureAndForwardConnect calls clientSocket = .ok capture ∧
      capture.sent.flatten = rawPacket ∧ capture.sock = moved.sock ∧
      (capture.raised = true ↔ exists username password, fields.username = some username ∧
        fields.password = some password ∧
        calls.raises { clientId := fields.clientId, username := username, password := password } =
          true) := by
  unfold captureAndForwardConnect
  rw [outcome]
  dsimp only
  split
  · next username password named secret =>
      refine ⟨_, rfl, List.flatten_singleton, rfl, ?_⟩
      constructor
      · intro raised
        exact ⟨username, password, named, secret, raised⟩
      · rintro ⟨otherName, otherSecret, otherNamed, otherKnown, raised⟩
        cases named.symm.trans otherNamed
        cases secret.symm.trans otherKnown
        exact raised
  · next incomplete =>
      refine ⟨_, rfl, List.flatten_singleton, rfl, ?_⟩
      constructor
      · intro impossible
        cases impossible
      · rintro ⟨username, password, named, secret, _⟩
        exact absurd secret (incomplete username password named)

end Connections

/-- The proxy is transparent to a stream, whatever it is and however it arrives, unless a call
with the identity it begins with raises and more follows the packet. -/
theorem proxy_transparent_iff (calls : IdentityCalls) (clientSocket : ChunkedInput UInt8) :
    Transparent calls clientSocket ↔ ¬ CutOff calls clientSocket := by
  have accounts := Accounts.readConnectPacket { sock := clientSocket }
  rcases outcome : readConnectPacket { sock := clientSocket } with ⟨failed | ⟨rawPacket, fields⟩, moved⟩
  · rw [Accounts, outcome, List.nil_append] at accounts
    obtain ⟨message, same⟩ := accounts.2 failed rfl
    rw [same] at outcome
    obtain ⟨capture, captured, sent, sock, raised⟩ := capture_of_malformed calls outcome
    have whole := (handleConnection_of_capture captured
      (by rw [sent, sock]; exact accounts.1)).mpr (fun cut =>
        Bool.false_ne_true (raised.symm.trans cut.1))
    refine ⟨fun _ => ?_, fun _ => ⟨⟨capture, captured, ?_⟩, whole⟩⟩
    · rintro ⟨_, _, _, _, _, read, _⟩
      cases outcome.symm.trans read
    · rw [sent, outcome]
  · rw [Accounts, outcome, List.nil_append] at accounts
    have raw : rawPacket = moved.raw := readConnectPacket_raw outcome
    obtain ⟨capture, captured, sent, sock, raised⟩ := capture_of_packet calls outcome
    have whole := handleConnection_of_capture captured
      (by rw [sent, sock, raw]; exact accounts.1)
    constructor
    · rintro transparent ⟨_, _, _, username, password, read, named, secret, raises, more⟩
      cases outcome.symm.trans read
      exact whole.mp transparent.whole
        ⟨raised.mpr ⟨username, password, named, secret, raises⟩, sock ▸ more⟩
    · intro complete
      refine ⟨⟨capture, captured, by rw [sent, outcome]; exact raw⟩, whole.mpr ?_⟩
      rintro ⟨reported, more⟩
      obtain ⟨username, password, named, secret, raises⟩ := raised.mp reported
      exact complete ⟨rawPacket, fields, moved, username, password, outcome, named, secret, raises,
        sock ▸ more⟩

/-! ## A client without an identifier -/

/-- Building a cloud client for an identity.  The client library refuses an empty identifier
together with a session that is kept. -/
def buildingClientRaises (identity : DeviceIdentity) : Bool := decide (identity.clientId = "")

/-- A CONNECT with an empty identifier and credentials, and a PINGREQ behind it. -/
def namelessSocket : ChunkedInput UInt8 where
  chunks := [[0x10, 18] ++ ([0, 4] ++ utf8 "MQTT") ++ [4, 0xC2, 0, 60] ++ [0, 0] ++
    ([0, 1] ++ utf8 "u") ++ ([0, 1] ++ utf8 "p"), [0xC0, 0]]
  nonempty := by decide

/-- The PINGREQ never reaches the broker. -/
theorem nameless_client_is_cut_off :
    ¬ forall (calls : IdentityCalls) (clientSocket : ChunkedInput UInt8),
      Transparent calls clientSocket := by
  intro always
  have whole := (always { recordRaises := fun _ => false, listener := some buildingClientRaises }
    namelessSocket).whole
  revert whole
  decide +kernel

end Presence
end PetlibroRelay
