import Mathlib.Data.List.Chain
import PetlibroRelay.Camera.ConnectGate
import PetlibroRelay.Foundations.Machine

namespace PetlibroRelay
namespace Camera

open Foundations
open Foundations.Conversation

/-!
# Numbers on the packets of a session

Every packet of a session has a number.  Heartbeats, commands and counters also carry a
counter that they share, counters packets are counted once more, and each of them repeats
what the one before it said about received media.

The bootstrap of a session takes its numbers one by one, but until it is over nobody else
has the session.  From then on the receive loop and commands of other goroutines send under
a lock: a number is taken and its packet handed over before the lock is released.  So the
packets are numbered in the order in which the transport gets them, whatever happens to
them there.  The replies to keepalives carry no number.
-/

/-! ## Reading a packet -/

/-- The counter that a heartbeat, a command or a counters packet carries. -/
def commandCounter (body : Packet) : Option UInt16 :=
  if long : 6 ≤ body.length then
    if body[0] = BOOTSTRAP_HEARTBEAT_MARKER ∨ body[0] = 0x0C ∨
        body[0] = SESSION25_COUNTER_COMMAND then
      some (uint16At body 4 (by omega))
    else none
  else none

/-- A body with another first byte carries no counter. -/
theorem commandCounter_of_first {first : UInt8} {rest : Packet}
    (heartbeat : first ≠ BOOTSTRAP_HEARTBEAT_MARKER) (command : first ≠ 0x0C)
    (counters : first ≠ SESSION25_COUNTER_COMMAND) : commandCounter (first :: rest) = none := by
  unfold commandCounter
  split
  · refine if_neg ?_
    rintro (same | same | same)
    · exact heartbeat same
    · exact command same
    · exact counters same
  · rfl

/-- Two bytes give back the number they were made from. -/
theorem uint16_of_bytes (number : UInt16) :
    UInt16.ofNat ((UInt8.ofNat (number.toNat % 256)).toNat +
      256 * (UInt8.ofNat (number.toNat / 256)).toNat) = number := by
  have small := number.toNat_lt
  rw [UInt8.toNat_ofNat', UInt8.toNat_ofNat', Nat.mod_eq_of_lt (a := number.toNat % 256) (by omega),
    Nat.mod_eq_of_lt (a := number.toNat / 256) (by omega), Nat.mod_add_div]
  exact UInt16.ofNat_toNat

theorem decode_encodeClientSessionPacket (sessionId : SessionId) (sequence : UInt16)
    (body : Packet) :
    decodeClientSession (encodeClientSessionPacket sessionId sequence body) sessionId =
      some (sequence, body) := by
  have length := length_encodeClientSessionPacket sessionId sequence body
  have idLength : (sessionID16 sessionId).length = 16 := by
    simp only [sessionID16, List.length_append, List.length_cons, List.length_nil,
      Vector.length_toList]
  have rest : (encodeClientSessionPacket sessionId sequence body).drop 12 =
      sessionID16 sessionId ++ body := rfl
  have named : slice (encodeClientSessionPacket sessionId sequence body) 12 28 (by omega) =
      sessionID16 sessionId := by
    rw [slice, rest]
    exact List.take_left' idLength
  have inner : (encodeClientSessionPacket sessionId sequence body).drop 28 = body := by
    have twice := congrArg (List.drop 16) rest
    rw [List.drop_drop, List.drop_left' idLength] at twice
    exact twice
  have number : uint16At (encodeClientSessionPacket sessionId sequence body) 6 (by omega) =
      sequence := uint16_of_bytes sequence
  unfold decodeClientSession
  rw [dif_pos (by omega), if_pos ⟨rfl, rfl, rfl, rfl, rfl, named⟩, inner, number]

theorem decodeClientSession_of_short {packet : Packet} (short : packet.length < 28)
    (sessionId : SessionId) : decodeClientSession packet sessionId = none :=
  dif_neg (by omega)

/-! ## The counters packet and its reading -/

theorem decode_encodeSession25Counters (counters : Session25Counters) :
    decodeSession25Counters (encodeSession25Counters counters) = some counters := by
  simp only [decodeSession25Counters, encodeSession25Counters, putUint16, List.cons_append,
    List.nil_append, List.length_cons, List.length_nil, uint16At, List.getElem_cons_zero,
    List.getElem_cons_succ, and_self, dif_pos, if_true, uint16_of_bytes]

/-- The counter is put right after the first four bytes. -/
theorem commandCounter_of_put {first second third fourth : UInt8} {number : UInt16}
    {rest : Packet} (kind : first = BOOTSTRAP_HEARTBEAT_MARKER ∨ first = 0x0C ∨
      first = SESSION25_COUNTER_COMMAND) :
    commandCounter (first :: second :: third :: fourth :: (putUint16 number ++ rest)) =
      some number := by
  unfold commandCounter
  rw [dif_pos (by simp only [putUint16, List.length_cons, List.cons_append]; omega)]
  simp only [List.getElem_cons_zero, if_pos kind]
  exact congrArg some (uint16_of_bytes number)

theorem commandCounter_encodeSession25Counters (counters : Session25Counters) :
    commandCounter (encodeSession25Counters counters) = some counters.seqSendCmd1 := by
  simp only [encodeSession25Counters, List.append_assoc, List.cons_append, List.nil_append]
  exact commandCounter_of_put (Or.inr (Or.inr rfl))

theorem commandCounter_encodeControlData (counter channel : UInt16) (index : UInt32)
    (payload : Packet) :
    commandCounter (encodeControlData counter channel index payload) = some counter := by
  simp only [encodeControlData, List.append_assoc, List.cons_append, List.nil_append]
  exact commandCounter_of_put (Or.inr (Or.inl rfl))

theorem commandCounter_encodeBootstrapHeartbeat (counter : UInt16) (timestamp : UInt32) :
    commandCounter (encodeBootstrapHeartbeat counter timestamp) = some counter := by
  simp only [encodeBootstrapHeartbeat, List.append_assoc, List.cons_append, List.nil_append]
  exact commandCounter_of_put (Or.inl rfl)

theorem decodeSession25Counters_of_length {body : Packet} (other : body.length ≠ 24) :
    decodeSession25Counters body = none :=
  dif_neg other

theorem decodeSession25Counters_encodeControlData (counter channel : UInt16) (index : UInt32)
    (payload : Packet) :
    decodeSession25Counters (encodeControlData counter channel index payload) = none := by
  refine decodeSession25Counters_of_length ?_
  simp only [encodeControlData, putUint16, putUint32, List.length_append, List.length_cons,
    List.length_nil, List.length_replicate]
  omega

/-- What a login packet of the session has after its header. -/
def loginBody (variant : LoginVariant) (timestamp : UInt32) : Packet :=
  [0, if variant = .primary then 0 else 0x20, LOGIN_COMMAND_VERSION] ++ (List.replicate 13 0 ++
    (putUint16 (UInt16.ofNat (LOGIN_REQUEST_LENGTH - 52)) ++
    ([if variant = .primary then 1 else 0, 0] ++ (putUint32 timestamp ++
    (loginField "admin" ++ (loginField "888888" ++
    [1, 0, 0, 0, 4, 0, 0, 0, 0xFB, 0x07, 0x1F, 0x00, 0, 0, 0, 0, 0, 0, 0, 0, 0, 0, 3,
      0, 0, 0, 0, 0, 1, 0, 0, 0]))))))

theorem length_loginField {text : String} (short : text.length ≤ LOGIN_FIELD_LENGTH) :
    (loginField text).length = LOGIN_FIELD_LENGTH := by
  rw [loginField, uidBytes, List.length_append, List.length_map, List.length_replicate,
    String.length_toList]
  omega

theorem length_loginBody (variant : LoginVariant) (timestamp : UInt32) :
    (loginBody variant timestamp).length = 570 := by
  have name := length_loginField (show "admin".length ≤ LOGIN_FIELD_LENGTH by decide)
  have password := length_loginField (show "888888".length ≤ LOGIN_FIELD_LENGTH by decide)
  simp only [loginBody, putUint16, putUint32, List.length_append, List.length_cons,
    List.length_nil, List.length_replicate, name, password]
  rfl

/-- A login of the session is a packet of it like the others. -/
theorem encode_loginRequest (sessionId : SessionId) (sequence : UInt16) (variant : LoginVariant)
    (timestamp : UInt32) :
    LoginRequest.encode ⟨sessionId, sequence, variant, timestamp⟩ =
      encodeClientSessionPacket sessionId sequence (loginBody variant timestamp) := by
  rw [encodeClientSessionPacket, length_loginBody, LoginRequest.encode, loginBody]
  simp only [List.append_assoc]
  rfl

/-! ## Numbers in their order -/

/-- The numbers that come next. -/
structure Numbering where
  sequence : UInt16
  command : UInt16
  count : UInt16
  received : UInt16
  deriving DecidableEq, Repr

def LoopSession.numbering (session : LoopSession) : Numbering where
  sequence := session.sequence
  command := session.session25.seqSendCmd1
  count := session.session25.seqSendCnt
  received := session.session25.seqRecvPkt0

/-- A packet carries the numbers that come next, and says what it has to about received
media. -/
structure Follows (point : Numbering) (packet : UInt16 × Packet) (next : Numbering) : Prop where
  sequence : packet.1 = point.sequence ∧ next.sequence = point.sequence + 1
  command : match commandCounter packet.2 with
    | none => next.command = point.command
    | some number => number = point.command ∧ next.command = point.command + 1
  counters : match decodeSession25Counters packet.2 with
    | none => next.count = point.count ∧ next.received = point.received
    | some counters => counters.seqSendCnt = point.count ∧
        counters.seqRecvPkt0 = point.received ∧ next.count = point.count + 1 ∧
        next.received = counters.seqRecvPkt1

/-- The packet of the session in a datagram. -/
def readWire (environment : ConnectEnvironment) (nonce : SessionId) (wire : Packet) :
    Option (UInt16 × Packet) :=
  decodeClientSession (environment.transform.reverseTransCodePartial wire) nonce

/-- The packet of the session in an exchange, if it is one that was handed over. -/
def sessionPacket (environment : ConnectEnvironment) (nonce : SessionId) :
    Exchange -> Option (UInt16 × Packet)
  | .sent wire _ _ => readWire environment nonce wire
  | _ => none

/-- The packets of the session that were handed to the transport. -/
def sessionPackets (environment : ConnectEnvironment) (nonce : SessionId)
    (log : List Exchange) : List (UInt16 × Packet) :=
  log.filterMap (sessionPacket environment nonce)

/-- The packets in the log are numbered on from the session before it, and the session after
it has the numbers that come next. -/
def NumberedOn (environment : ConnectEnvironment) (nonce : SessionId) (before after : Dialogue)
    (log : List Exchange) : Prop :=
  Reads Follows before.session.numbering (sessionPackets environment nonce log)
    after.session.numbering

section NumberedOn

variable {environment : ConnectEnvironment} {nonce : SessionId} {address : UDPAddr}

theorem numberedOn_chained : Chained (NumberedOn environment nonce) :=
  chained_reads (fun dialogue : Dialogue => dialogue.session.numbering)
    (sessionPacket environment nonce)

/-- Nothing is sent and no number is used. -/
theorem numberedOn_quiet {before after : Dialogue} {log : List Exchange}
    (quiet : sessionPackets environment nonce log = [])
    (same : after.session.numbering = before.session.numbering) :
    NumberedOn environment nonce before after log := by
  rw [NumberedOn, quiet, same]
  exact .nil _

theorem sessionPackets_emitted (events : List SessionEvent) :
    sessionPackets environment nonce (events.map .emitted) = [] := by
  rw [sessionPackets, List.filterMap_map]
  exact List.filterMap_eq_nil_iff.mpr (fun _ _ => rfl)

theorem numbering_emitOnce (session : LoopSession) (key : String) (event : SessionEvent) :
    (session.emitOnce key event).1.numbering = session.numbering := by
  unfold LoopSession.emitOnce
  split
  · rfl
  · rfl

theorem numbering_emitLimited (session : LoopSession) (key : String) (limit : Nat)
    (event : SessionEvent) :
    (session.emitLimited key limit event).1.numbering = session.numbering := by
  unfold LoopSession.emitLimited
  dsimp only
  split
  · rfl
  · rfl

/-- A body without counters uses the number of the packet only. -/
theorem follows_plain (session : LoopSession) {body : Packet}
    (noCommand : commandCounter body = none) (noCounters : decodeSession25Counters body = none) :
    Follows session.numbering (session.sequence, body)
      ({ session with sequence := session.sequence + 1 } : LoopSession).numbering where
  sequence := ⟨rfl, rfl⟩
  command := by
    rw [noCommand]
    rfl
  counters := by
    rw [noCounters]
    exact ⟨rfl, rfl⟩

theorem follows_command (session : LoopSession) {body : Packet}
    (command : commandCounter body = some session.session25.seqSendCmd1)
    (noCounters : decodeSession25Counters body = none) :
    Follows session.numbering (session.sequence, body) session.commanded.numbering where
  sequence := ⟨rfl, rfl⟩
  command := by
    rw [command]
    exact ⟨rfl, rfl⟩
  counters := by
    rw [noCounters]
    exact ⟨rfl, rfl⟩

theorem follows_counters (session : LoopSession) (random : UInt16) :
    Follows session.numbering
      (session.sequence, (session.session25.nextCounters random).1)
      ({ session with
        sequence := session.sequence + 1
        session25 := (session.session25.nextCounters random).2.2 } : LoopSession).numbering where
  sequence := ⟨rfl, rfl⟩
  command := by
    rw [Session25State.nextCounters, commandCounter_encodeSession25Counters]
    exact ⟨rfl, rfl⟩
  counters := by
    rw [Session25State.nextCounters, decode_encodeSession25Counters]
    exact ⟨rfl, rfl, rfl, rfl⟩

/-! ## Sends -/

theorem sendOrFail_log (packet : Packet) (error : ConnectError) (state : Dialogue) :
    (sendOrFail environment packet address error state).log =
      [.sent (environment.transform.transCodePartial packet) address
        (environment.sendOk state.sends)] := by
  simp only [sendOrFail, sendTo, Bind.bind, Conversation.bind, Conversation.modifyGet,
    Conversation.tell, Pure.pure]
  cases environment.sendOk state.sends with
  | false => rfl
  | true => rfl

theorem sendOrFail_session (packet : Packet) (error : ConnectError) (state : Dialogue) :
    (sendOrFail environment packet address error state).state.session = state.session := by
  simp only [sendOrFail, sendTo, Bind.bind, Conversation.bind, Conversation.modifyGet,
    Conversation.tell, Pure.pure]
  cases environment.sendOk state.sends with
  | false => rfl
  | true => rfl

variable (undone : forall packet, environment.transform.reverseTransCodePartial
  (environment.transform.transCodePartial packet) = packet)

include undone

theorem sessionPackets_sent (sequence : UInt16) (body : Packet) (ok : Bool) :
    sessionPackets environment nonce [.sent (environment.transform.transCodePartial
      (encodeClientSessionPacket nonce sequence body)) address ok] = [(sequence, body)] := by
  have read : sessionPacket environment nonce (.sent (environment.transform.transCodePartial
      (encodeClientSessionPacket nonce sequence body)) address ok) = some (sequence, body) := by
    rw [sessionPacket, readWire, undone, decode_encodeClientSessionPacket]
  rw [sessionPackets, List.filterMap_cons_some read, List.filterMap_nil]

/-- A packet is handed over whose numbers were taken right before. -/
theorem numberedOn_sendOrFail {before taken : Dialogue} {sequence : UInt16} {body : Packet}
    (follows : Follows before.session.numbering (sequence, body) taken.session.numbering)
    (error : ConnectError) :
    NumberedOn environment nonce before
      (sendOrFail environment (encodeClientSessionPacket nonce sequence body) address error
        taken).state
      (sendOrFail environment (encodeClientSessionPacket nonce sequence body) address error
        taken).log := by
  rw [NumberedOn, sendOrFail_log, sendOrFail_session, sessionPackets_sent undone]
  exact .single follows

theorem numberedOn_clientStart (variant : LoginVariant) (timestamp : UInt32) :
    Respects (NumberedOn environment nonce)
      (sendClientStart environment nonce address variant timestamp) := by
  intro state
  have noCommand : commandCounter (loginBody variant timestamp) = none :=
    commandCounter_of_first (by decide) (by decide) (by decide)
  have noCounters : decodeSession25Counters (loginBody variant timestamp) = none :=
    decodeSession25Counters_of_length (by rw [length_loginBody]; decide)
  simp only [sendClientStart, encode_loginRequest]
  exact @numberedOn_sendOrFail environment nonce address undone state (nextSequence state).state _ _
    (follows_plain state.session noCommand noCounters) .clientStartSend

theorem numberedOn_heartbeat (timestamp : UInt32) :
    Respects (NumberedOn environment nonce)
      (sendBootstrapHeartbeat environment nonce address timestamp) := by
  intro state
  exact @numberedOn_sendOrFail environment nonce address undone state
    { state with session := state.session.commanded } _ _
    (follows_command state.session (commandCounter_encodeBootstrapHeartbeat _ timestamp) rfl)
    .heartbeatSend

/-- A command uses a number and a counter, whatever it is. -/
theorem numberedOn_control (channel : UInt16) (index controlType : UInt32)
    (controlData : Packet) :
    Respects (NumberedOn environment nonce)
      (sendControl environment nonce address channel index controlType controlData) := by
  intro state
  exact @numberedOn_sendOrFail environment nonce address undone state
    { state with session := state.session.commanded } _ _
    (follows_command state.session (commandCounter_encodeControlData _ channel index _)
      (decodeSession25Counters_encodeControlData _ channel index _)) (.controlSend controlType)

theorem numberedOn_counters (random : UInt16) :
    Respects (NumberedOn environment nonce) (sendCounters environment nonce address random) := by
  intro state
  exact @numberedOn_sendOrFail environment nonce address undone state
    { state with session := { state.session with
      sequence := state.session.sequence + 1
      session25 := (state.session.session25.nextCounters random).2.2 } } _ _
    (follows_counters state.session random) .countersSend

/-- The packet that starts the stream is reported before and after it is handed over. -/
theorem numberedOn_startVideo :
    Respects (NumberedOn environment nonce) (sendStartVideo environment nonce address) := by
  intro state
  have sent := @numberedOn_sendOrFail environment nonce address undone state
    { state with session := state.session.commanded } _ _
    (follows_command state.session
      (commandCounter_encodeControlData _ CONTROL_CHANNEL_SYSTEM 2
        (controlPayload CONTROL_START_VIDEO (List.replicate STREAM_START_ARGUMENT_SIZE 0)))
      (decodeSession25Counters_encodeControlData _ _ _ _)) (.controlSend CONTROL_START_VIDEO)
  have reports : forall step, Respects (NumberedOn environment nonce)
      (emit .bootstrapping step) := fun step =>
    respects_tell (fun _ => numberedOn_quiet rfl rfl)
  have whole := numberedOn_chained.bind sent (fun _ => reports "stream_start_tx")
  exact whole

/-! ## Replies -/

omit undone in
/-- What a reply sends is numbered on. -/
theorem numberedOn_answer {reply : LoopSession -> Turn -> Reply}
    (numbered : forall session turn, Reads Follows session.numbering
      ((reply session turn).datagrams.filterMap (readWire environment nonce))
      (reply session turn).session.numbering) :
    Respects (NumberedOn environment nonce) (answer environment address reply) := by
  intro state
  rw [answer_eq environment address reply state _ rfl]
  have events := @sessionPackets_emitted environment nonce
    (reply state.session (answerTurn environment state)).events
  rw [sessionPackets] at events
  rw [NumberedOn, sessionPackets, List.filterMap_append, events, List.append_nil,
    List.filterMap_map]
  exact numbered state.session _

theorem readWire_sendBody (session : LoopSession) (body : Packet) :
    [(session.sendBody environment.transform nonce body).2].filterMap (readWire environment nonce) =
      [(session.sequence, body)] := by
  have read : readWire environment nonce (session.sendBody environment.transform nonce body).2 =
      some (session.sequence, body) := by
    rw [readWire, LoopSession.sendBody, undone, decode_encodeClientSessionPacket]
  rw [List.filterMap_cons_some read, List.filterMap_nil]

theorem reads_keepalive (session : LoopSession) (turn : Turn) (decoded : Packet) :
    Reads Follows session.numbering
      ((replyKeepalive environment.transform session turn decoded).datagrams.filterMap
        (readWire environment nonce))
      (replyKeepalive environment.transform session turn decoded).session.numbering := by
  unfold replyKeepalive
  split
  · exact .nil _
  · next reply encoded =>
      have unread : readWire environment nonce (environment.transform.transCodePartial reply) =
          none := by
        rw [readWire, undone]
        refine decodeClientSession_of_short ?_ nonce
        rw [length_encodeKeepaliveReply encoded]
        decide
      rw [List.filterMap_cons_none unread]
      exact .nil _

theorem reads_heartbeat (session : LoopSession) (turn : Turn) (decoded : Packet) :
    Reads Follows session.numbering
      ((replySessionHeartbeat environment.transform nonce session turn decoded).datagrams.filterMap
        (readWire environment nonce))
      (replySessionHeartbeat environment.transform nonce session turn decoded).session.numbering := by
  unfold replySessionHeartbeat
  split
  · exact .nil _
  · next ack recognized =>
      have plain : commandCounter ack = none ∧ decodeSession25Counters ack = none := by
        obtain ⟨inner, -, encoded⟩ := Option.bind_eq_some_iff.mp recognized
        unfold encodeSessionHeartbeatAck at encoded
        split at encoded
        · split at encoded
          · cases encoded
            exact ⟨commandCounter_of_first (by decide) (by decide) (by decide), rfl⟩
          · cases encoded
        · cases encoded
      have arrived := numbering_emitOnce session "session_heartbeat_rx"
        (diagnostic "session_heartbeat_rx")
      dsimp only
      generalize (session.emitOnce "session_heartbeat_rx"
        (diagnostic "session_heartbeat_rx")).1 = noted at arrived ⊢
      have follows := follows_plain noted plain.1 plain.2
      rw [← arrived]
      split
      · rw [readWire_sendBody undone, numbering_emitOnce]
        exact .single follows
      · rw [readWire_sendBody undone]
        exact .single follows

theorem reads_counters (session : LoopSession) (turn : Turn) (inner : Packet) :
    Reads Follows session.numbering
      ((replySession25Counters environment.transform nonce session turn inner).datagrams.filterMap
        (readWire environment nonce))
      (replySession25Counters environment.transform nonce session turn inner).session.numbering := by
  unfold replySession25Counters
  split
  · exact .nil _
  · have arrived := numbering_emitLimited session "session25_counters_rx" 4
      (diagnostic "session25_counters_rx")
    dsimp only
    generalize (session.emitLimited "session25_counters_rx" 4
      (diagnostic "session25_counters_rx")).1 = noted at arrived ⊢
    have follows := follows_counters noted (lowMillis turn.first)
    rw [← arrived]
    split
    · rw [readWire_sendBody undone, numbering_emitLimited]
      exact .single follows
    · rw [readWire_sendBody undone]
      exact .single follows

/-! ## Everything a session does -/

omit undone in
theorem numbering_noteReceivedControlReply (session : LoopSession) :
    ({ session with session25 := session.session25.noteReceivedControlReply } :
      LoopSession).numbering = session.numbering := by
  unfold Session25State.noteReceivedControlReply
  split
  · rfl
  · rfl

omit undone in
theorem numbering_noteSession25Media (session : LoopSession) (decoded : Packet) :
    (noteSession25Media nonce session decoded).numbering = session.numbering := by
  unfold noteSession25Media
  split
  · rfl
  · split
    · split
      · rfl
      · rfl
    · rfl

theorem numberedOn_rules : MediaRules environment nonce address (NumberedOn environment nonce) where
  chained := numberedOn_chained
  emitted _ _ := numberedOn_quiet rfl rfl
  clock _ := numberedOn_quiet rfl rfl
  reported _ _ _ :=
    respects_bind numberedOn_chained
      (fun _ => numberedOn_quiet rfl (numbering_emitLimited _ _ _ _)) (fun _ =>
        respects_forM numberedOn_chained
          (fun _ => respects_tell (fun _ => numberedOn_quiet rfl rfl)) _)
  replyNoted _ := numberedOn_quiet rfl (numbering_noteReceivedControlReply _)
  clientStart := numberedOn_clientStart undone
  heartbeat := numberedOn_heartbeat undone
  counters := numberedOn_counters undone
  setStream := numberedOn_control undone _ _ _ _
  getFormat := numberedOn_control undone _ _ _ _
  startVideo := numberedOn_startVideo undone
  keepalive _ := numberedOn_answer (fun session turn => reads_keepalive undone session turn _)
  heartbeatAck _ := numberedOn_answer (fun session turn => reads_heartbeat undone session turn _)
  countersAck _ := numberedOn_answer (fun session turn => reads_counters undone session turn _)
  taken _ _ _ := numberedOn_quiet rfl rfl
  frameNoted _ state := numberedOn_quiet rfl (numbering_noteSession25Media state.session _)
  eventNoted _ _ := numberedOn_quiet rfl rfl

omit undone in
theorem numbering_handleAudio (session : LoopSession) (turn : Turn) (decoded : Packet) :
    (handleAudio nonce session turn decoded).datagrams = [] ∧
      (handleAudio nonce session turn decoded).session.numbering = session.numbering := by
  unfold handleAudio
  split
  · exact ⟨rfl, rfl⟩
  · unfold handleUnknown
    split
    · split
      · exact ⟨rfl, rfl⟩
      · exact ⟨rfl, rfl⟩
    · exact ⟨rfl, rfl⟩
  · dsimp only
    split
    · exact ⟨rfl, numbering_noteSession25Media _ _⟩
    · exact ⟨rfl, numbering_noteSession25Media _ _⟩

omit undone in
theorem numbering_handleMedia (session : LoopSession) (turn : Turn) (decoded : Packet) :
    (handleMedia nonce session turn decoded).datagrams = [] ∧
      (handleMedia nonce session turn decoded).session.numbering = session.numbering := by
  unfold handleMedia
  split
  · exact ⟨rfl, rfl⟩
  · exact numbering_handleAudio _ _ _
  · dsimp only
    split
    · exact ⟨rfl, numbering_noteSession25Media _ _⟩
    · exact ⟨rfl, numbering_noteSession25Media _ _⟩

omit undone in
theorem finish_eq_some {reply : Reply} {result : TurnResult} (finished : reply.finish = some result) :
    result.datagrams = reply.datagrams ∧ result.session = reply.session := by
  unfold Reply.finish at finished
  split at finished
  · cases finished
  · cases finished
    exact ⟨rfl, rfl⟩
  · cases finished
    exact ⟨rfl, rfl⟩

/-- What a turn of the receive loop sends is numbered on. -/
theorem reads_handleDatagram (session : LoopSession) (turn : Turn) (bytes : Packet) :
    Reads Follows session.numbering
      ((handleDatagram environment.transform nonce session turn bytes).datagrams.filterMap
        (readWire environment nonce))
      (handleDatagram environment.transform nonce session turn bytes).session.numbering := by
  unfold handleDatagram
  dsimp only
  split
  · next result finished =>
      obtain ⟨datagrams, reached⟩ := finish_eq_some finished
      rw [datagrams, reached]
      exact reads_keepalive undone session turn _
  · split
    · next result finished =>
        obtain ⟨datagrams, reached⟩ := finish_eq_some finished
        rw [datagrams, reached]
        exact reads_heartbeat undone session turn _
    · generalize answered : ((decodeDeviceSession
        (environment.transform.reverseTransCodePartial bytes) nonce).bind fun inner =>
          (replySession25Counters environment.transform nonce session turn inner).finish) = counted
      cases counted with
      | none =>
          obtain ⟨datagrams, same⟩ := @numbering_handleMedia nonce session turn
            (environment.transform.reverseTransCodePartial bytes)
          rw [Option.getD_none, datagrams, same]
          exact .nil _
      | some result =>
          obtain ⟨inner, -, finished⟩ := Option.bind_eq_some_iff.mp answered
          obtain ⟨datagrams, reached⟩ := finish_eq_some finished
          rw [Option.getD_some, datagrams, reached]
          exact reads_counters undone session turn inner

end NumberedOn

/-! ## Sessions with several users -/

/-- The phases of an attempt that has a session. -/
def ConnectPhase.inBootstrap : ConnectPhase -> Bool
  | .replies _ _ => true
  | .video _ => true
  | _ => false

/-- Who has the session: the attempt that sets it up, or a receive loop that may have ended and
other goroutines, or nobody any more. -/
inductive SharedPhase where
  | bootstrapping (phase : ConnectPhase)
  | streaming (address : UDPAddr) (looping : Bool)
  | abandoned
  deriving DecidableEq, Repr

/-- A session and all that was exchanged in it. -/
structure SharedSession where
  phase : SharedPhase
  dialogue : Dialogue
  log : List Exchange
  deriving DecidableEq, Repr

inductive SharedAction where
  | arrives (arrival : Arrival)
  | turns (turn : Turn)
  | commands (channel : UInt16) (index controlType : UInt32) (controlData : Packet)
  deriving DecidableEq, Repr

namespace SharedSession

def bootstrapped (log : List Exchange)
    (outcome : Outcome Dialogue Exchange ConnectError ConnectPhase) : SharedSession where
  phase := match outcome.result with
    | .error _ => .abandoned
    | .ok (.connected address _) => .streaming address true
    | .ok phase => .bootstrapping phase
  dialogue := outcome.state
  log := log ++ outcome.log

/-- What a login that was accepted goes on with. -/
def accepted (environment : ConnectEnvironment) (nonce : SessionId) (address : UDPAddr)
    (dialogue : Dialogue) : SharedSession :=
  bootstrapped [] (beginBootstrap environment nonce address dialogue)

/-- One turn of the receive loop.  It holds the lock once at most. -/
def looped (environment : ConnectEnvironment) (nonce : SessionId) (shared : SharedSession)
    (address : UDPAddr) (turn : Turn) : SharedSession :=
  match turn.received with
  | .packet bytes =>
      let result := handleDatagram environment.transform nonce shared.dialogue.session turn bytes
      { phase := .streaming address result.ended.isNone
        dialogue := { shared.dialogue with session := result.session }
        log := shared.log ++ result.datagrams.map (fun wire => .sent wire address turn.sent) ++
          result.events.map .emitted }
  | _ => { shared with phase := .streaming address false }

/-- A command of another goroutine, under the lock from its counter to its send. -/
def commanded (environment : ConnectEnvironment) (nonce : SessionId) (shared : SharedSession)
    (address : UDPAddr) (channel : UInt16) (index controlType : UInt32) (controlData : Packet) :
    SharedSession :=
  let outcome := sendControl environment nonce address channel index controlType controlData
    shared.dialogue
  { shared with dialogue := outcome.state, log := shared.log ++ outcome.log }

def step (connector : DirectConnector) (environment : ConnectEnvironment) (uid : String)
    (nonce : SessionId) (shared : SharedSession) : SharedAction -> Option SharedSession
  | .arrives arrival =>
      match shared.phase with
      | .bootstrapping phase =>
          if phase.inBootstrap then
            some (bootstrapped shared.log (turn environment connector uid nonce arrival phase
              shared.dialogue))
          else none
      | _ => none
  | .turns turn =>
      match shared.phase with
      | .streaming address true => some (shared.looped environment nonce address turn)
      | _ => none
  | .commands channel index controlType controlData =>
      match shared.phase with
      | .streaming address _ =>
          some (shared.commanded environment nonce address channel index controlType controlData)
      | _ => none

end SharedSession

def sharedMachine (connector : DirectConnector) (environment : ConnectEnvironment) (uid : String)
    (nonce : SessionId) : Machine SharedSession SharedAction where
  step := SharedSession.step connector environment uid nonce

section Shared

variable {connector : DirectConnector} {environment : ConnectEnvironment} {uid : String}
  {nonce : SessionId} {address : UDPAddr}
  (undone : forall packet, environment.transform.reverseTransCodePartial
    (environment.transform.transCodePartial packet) = packet)

/-- All packets of the session are numbered, and the session has the numbers that come next. -/
def SharedSession.IsNumbered (environment : ConnectEnvironment) (nonce : SessionId)
    (shared : SharedSession) : Prop :=
  NumberedOn environment nonce {} shared.dialogue shared.log

include undone

theorem isNumbered_accepted (dialogue : Dialogue) :
    (SharedSession.accepted environment nonce address dialogue).IsNumbered environment nonce :=
  (numberedOn_rules undone).sendBootstrap { dialogue with session := {} }

theorem numberedOn_turn {phase : ConnectPhase} (inBootstrap : phase.inBootstrap = true)
    (arrival : Arrival) : Respects (NumberedOn environment nonce)
      (turn environment connector uid nonce arrival phase) := by
  have arrived : Respects (NumberedOn environment nonce)
      (tell (.received arrival) : Talk PUnit) :=
    respects_tell (fun _ => numberedOn_quiet rfl rfl)
  have failed : forall error, Respects (NumberedOn environment nonce)
      (fail error : Talk ConnectPhase) := fun error => respects_fail numberedOn_chained error
  cases phase with
  | replies address expected =>
      refine respects_bind numberedOn_chained arrived (fun _ => ?_)
      split
      · exact failed _
      · exact (numberedOn_rules undone).controlReplyTurn expected _
  | video address =>
      refine respects_bind numberedOn_chained arrived (fun _ => ?_)
      split
      · exact failed _
      · exact (numberedOn_rules undone).videoTurn _
  | unicast ipv4 => cases inBootstrap
  | broadcast => cases inBootstrap
  | login address => cases inBootstrap
  | connected address frame => cases inBootstrap

theorem isNumbered_looped {shared : SharedSession} (numbered : shared.IsNumbered environment nonce)
    (turn : Turn) : (shared.looped environment nonce address turn).IsNumbered environment nonce := by
  unfold SharedSession.looped
  split
  · next bytes received =>
      have sent := @reads_handleDatagram environment nonce undone shared.dialogue.session turn bytes
      have events := @sessionPackets_emitted environment nonce
        (handleDatagram environment.transform nonce shared.dialogue.session turn bytes).events
      rw [sessionPackets] at events
      rw [SharedSession.IsNumbered, NumberedOn, sessionPackets, List.filterMap_append, events,
        List.append_nil, List.filterMap_append, List.filterMap_map]
      exact numbered.append sent
  · exact numbered

/-- Whatever happens in a session, its packets stay numbered. -/
theorem isNumbered_step {shared after : SharedSession} {action : SharedAction}
    (numbered : shared.IsNumbered environment nonce)
    (moved : (sharedMachine connector environment uid nonce).step shared action = some after) :
    after.IsNumbered environment nonce := by
  cases action with
  | arrives arrival =>
      simp only [sharedMachine, SharedSession.step] at moved
      split at moved
      · next phase _ =>
          split at moved
          · next inBootstrap =>
              cases moved
              exact numberedOn_chained.trans numbered
                (@numberedOn_turn connector environment uid nonce undone phase inBootstrap arrival
                  shared.dialogue)
          · cases moved
      · cases moved
  | turns turn =>
      simp only [sharedMachine, SharedSession.step] at moved
      split at moved
      · cases moved
        exact isNumbered_looped undone numbered turn
      · cases moved
  | commands channel index controlType controlData =>
      simp only [sharedMachine, SharedSession.step] at moved
      split at moved
      · next address _ _ =>
          cases moved
          exact numberedOn_chained.trans numbered
            (@numberedOn_control environment nonce address undone channel index controlType
              controlData shared.dialogue)
      · cases moved

theorem isNumbered_run (dialogue : Dialogue) (actions : List SharedAction) :
    ((sharedMachine connector environment uid nonce).run
      (SharedSession.accepted environment nonce address dialogue) actions).IsNumbered
        environment nonce :=
  Machine.run_invariant _ (SharedSession.IsNumbered environment nonce)
    (fun _ _ _ numbered moved => isNumbered_step undone numbered moved) _ actions
    (isNumbered_accepted undone dialogue)

end Shared

/-! ## Consecutive numbers -/

/-- So many numbers from the first one on, modulo 2^16. -/
def countUp (first : UInt16) (number : Nat) : List UInt16 :=
  (List.range number).map (fun place => first + UInt16.ofNat place)

theorem countUp_succ (first : UInt16) (number : Nat) :
    countUp first (number + 1) = first :: countUp (first + 1) number := by
  rw [countUp, List.range_succ_eq_map, List.map_cons, List.map_map, countUp]
  refine congr (congrArg List.cons ?_) (List.map_congr_left ?_)
  · exact UInt16.add_zero first
  · intro place _
    rw [Function.comp_apply, Nat.succ_eq_one_add, UInt16.ofNat_add, ← UInt16.add_assoc]
    rfl

def commandCounters (packets : List (UInt16 × Packet)) : List UInt16 :=
  packets.filterMap (fun packet => commandCounter packet.2)

def countersPackets (packets : List (UInt16 × Packet)) : List Session25Counters :=
  packets.filterMap (fun packet => decodeSession25Counters packet.2)

theorem commandCounters_cons (packet : UInt16 × Packet) (rest : List (UInt16 × Packet)) :
    commandCounters (packet :: rest) =
      (commandCounter packet.2).toList ++ commandCounters rest := by
  rw [commandCounters, List.filterMap_cons]
  cases commandCounter packet.2 with
  | none => rfl
  | some number => rfl

theorem countersPackets_cons (packet : UInt16 × Packet) (rest : List (UInt16 × Packet)) :
    countersPackets (packet :: rest) =
      (decodeSession25Counters packet.2).toList ++ countersPackets rest := by
  rw [countersPackets, List.filterMap_cons]
  cases decodeSession25Counters packet.2 with
  | none => rfl
  | some counters => rfl

/-- Each counters packet repeats what the one before it said about received media. -/
def Linked (counters : List Session25Counters) : Prop :=
  counters.IsChain (fun earlier later => later.seqRecvPkt0 = earlier.seqRecvPkt1)

section Consecutive

variable {point last : Numbering} {packets : List (UInt16 × Packet)}

theorem sequences_of_reads (reads : Reads Follows point packets last) :
    packets.map Prod.fst = countUp point.sequence packets.length := by
  induction reads with
  | nil point => rfl
  | cons follows later inductionHypothesis =>
      rw [List.map_cons, List.length_cons, countUp_succ, inductionHypothesis,
        follows.sequence.1, follows.sequence.2]

theorem commands_of_reads (reads : Reads Follows point packets last) :
    commandCounters packets = countUp point.command (commandCounters packets).length := by
  induction reads with
  | nil point => rfl
  | @cons point middle last packet rest follows later inductionHypothesis =>
      have command := follows.command
      rw [commandCounters_cons]
      cases carried : commandCounter packet.2 with
      | none =>
          rw [carried] at command
          have same : middle.command = point.command := command
          rw [← same]
          exact inductionHypothesis
      | some number =>
          rw [carried] at command
          obtain ⟨own, next⟩ : number = point.command ∧ middle.command = point.command + 1 := command
          rw [Option.toList_some, List.singleton_append, List.length_cons, countUp_succ, ← next,
            ← inductionHypothesis, own]

theorem counters_of_reads (reads : Reads Follows point packets last) :
    (countersPackets packets).map Session25Counters.seqSendCnt =
        countUp point.count (countersPackets packets).length ∧
      Linked (countersPackets packets) ∧
      forall first, first ∈ (countersPackets packets).head? -> first.seqRecvPkt0 = point.received := by
  induction reads with
  | nil point => exact ⟨rfl, List.IsChain.nil, nofun⟩
  | @cons point middle last packet rest follows later inductionHypothesis =>
      have counters := follows.counters
      rw [countersPackets_cons]
      cases carried : decodeSession25Counters packet.2 with
      | none =>
          rw [carried] at counters
          obtain ⟨count, received⟩ : middle.count = point.count ∧ middle.received = point.received :=
            counters
          rw [← count, ← received]
          exact inductionHypothesis
      | some own =>
          rw [carried] at counters
          obtain ⟨number, repeats, count, received⟩ : own.seqSendCnt = point.count ∧
            own.seqRecvPkt0 = point.received ∧ middle.count = point.count + 1 ∧
            middle.received = own.seqRecvPkt1 := counters
          obtain ⟨numbers, linked, first⟩ := inductionHypothesis
          rw [Option.toList_some, List.singleton_append, List.map_cons, List.length_cons,
            countUp_succ, ← count, ← numbers, number]
          refine ⟨rfl, List.isChain_cons.mpr ⟨?_, linked⟩, ?_⟩
          · intro next among
            exact (first next among).trans received
          · rintro _ ⟨⟩
            exact repeats

end Consecutive

/-- The packets of a session carry consecutive numbers, and so do its commands and counters. -/
structure WellNumbered (packets : List (UInt16 × Packet)) : Prop where
  sequences : packets.map Prod.fst = countUp 2 packets.length
  commands : commandCounters packets = countUp 0 (commandCounters packets).length
  counts : (countersPackets packets).map Session25Counters.seqSendCnt =
    countUp 0 (countersPackets packets).length
  linked : Linked (countersPackets packets)

/-- Whatever is received, whichever sends fail and whenever other goroutines send commands, the
packets of a session are numbered in the order in which the transport gets them.  Counters are
read back as they were written. -/
theorem session_packets_numbered (connector : DirectConnector) (environment : ConnectEnvironment)
    (undone : forall packet, environment.transform.reverseTransCodePartial
      (environment.transform.transCodePartial packet) = packet)
    (uid : String) (nonce : SessionId) (address : UDPAddr) (dialogue : Dialogue)
    (actions : List SharedAction) :
    WellNumbered (sessionPackets environment nonce
        ((sharedMachine connector environment uid nonce).run
          (SharedSession.accepted environment nonce address dialogue) actions).log) ∧
      (forall counters,
        decodeSession25Counters (encodeSession25Counters counters) = some counters) ∧
      forall body counters, decodeSession25Counters body = some counters ->
        decodeSession25Counters (encodeSession25Counters counters) =
          decodeSession25Counters body := by
  have reads := @isNumbered_run connector environment uid nonce address undone dialogue actions
  obtain ⟨counts, linked, -⟩ := counters_of_reads reads
  refine ⟨⟨sequences_of_reads reads, commands_of_reads reads, counts, linked⟩,
    decode_encodeSession25Counters, ?_⟩
  intro body counters accepted
  rw [accepted]
  exact decode_encodeSession25Counters counters

/-- A transform that changes every byte and is its own inverse. -/
def masked (packet : Packet) : Packet := packet.map (fun byte => byte ^^^ 0x5A)

theorem masked_masked (packet : Packet) : masked (masked packet) = packet := by
  have twice : forall byte : UInt8, byte ^^^ 0x5A ^^^ 0x5A = byte := fun byte => by
    rw [UInt8.xor_assoc, UInt8.xor_self, UInt8.xor_zero]
  rw [masked, masked, List.map_map]
  exact (List.map_congr_left (fun byte _ => twice byte)).trans (List.map_id _)

/-- Surroundings in which the eleventh packet cannot be sent. -/
def troubledEnvironment : ConnectEnvironment :=
  { plainEnvironment with
    transform := ⟨masked, masked⟩
    sendOk := fun send => decide (send ≠ 10) }

/-- The camera answers until its first frame.  Then it sends a heartbeat and counters, with a
command of another goroutine in between. -/
def troubledActions : List SharedAction :=
  [plainReply formatReply, plainReply streamReply, plainFragment].map
      (fun bytes => .arrives (.packet (masked bytes) (some plainPeer))) ++
    [.turns { received := .packet (masked (plainDevicePacket
        ([BOOTSTRAP_HEARTBEAT_MARKER, 0x08, LOGIN_COMMAND_VERSION] ++ List.replicate 13 0))) },
      .commands CONTROL_CHANNEL_STREAM 0 CONTROL_SET_STREAM STREAM_CONTROL_HD,
      .turns { received := .packet (masked (plainDevicePacket
        (encodeSession25Counters ⟨0, 0, 0, 0, 0, 0⟩))) }]

def troubledSession : SharedSession :=
  (sharedMachine plainConnector troubledEnvironment plainUid plainNonce).run
    (SharedSession.accepted troubledEnvironment plainNonce plainPeer {}) troubledActions

/-- What was handed to the transport and not sent. -/
def unsentPackets (log : List Exchange) : List Exchange :=
  log.filter (fun exchange => match exchange with
    | .sent _ _ ok => !ok
    | _ => false)

/-- The command that could not be sent has a number like the packets around it. -/
theorem unsent_packet_numbered :
    troubledSession.phase = .streaming plainPeer true ∧
      (unsentPackets troubledSession.log).length = 1 ∧
      (sessionPackets troubledEnvironment plainNonce troubledSession.log).map Prod.fst =
        [2, 3, 4, 5, 6, 7, 8, 9, 10, 11, 12, 13, 14] ∧
      WellNumbered (sessionPackets troubledEnvironment plainNonce troubledSession.log) :=
  ⟨by decide +kernel, by decide +kernel, by decide +kernel,
    (session_packets_numbered plainConnector troubledEnvironment masked_masked plainUid plainNonce
      plainPeer {} troubledActions).1⟩

end Camera
end PetlibroRelay
