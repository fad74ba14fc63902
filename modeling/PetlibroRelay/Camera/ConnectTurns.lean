import PetlibroRelay.Camera.AnnouncedFragments
import PetlibroRelay.Camera.ConnectRules

namespace PetlibroRelay
namespace Camera

open Foundations
open Foundations.Conversation

/-!
# Turns of a connection attempt that succeed

Between two receives an attempt either stays in its phase or goes on to the next one.  Here
each turn is looked at by itself: which events it has to see in order to go on, which ones it
adds to the log, and what becomes of the media receiver.

Packets that are passed over and replies that are sent in between only add to the log.
-/

/-! ## The events on the way -/

section Events

variable (environment : ConnectEnvironment) (uid : String) (nonce : SessionId)
  (address : UDPAddr)

/-- The search by broadcast has begun. -/
def BroadcastBegun (exchange : Exchange) : Prop :=
  exchange = .emitted { state := .discovering, step := "broadcast" }

/-- A packet that this address has sent answers the search for the identifier. -/
def SearchAnswered (exchange : Exchange) : Prop :=
  exists bytes response, exchange = .received (.packet bytes (some address)) ∧
    decodeLANSearchResponse (environment.transform.reverseTransCodePartial bytes) uid =
      .ok response ∧
    response.uid = uidBytes uid

/-- A packet has gone out. -/
def Sent (packet : Packet) (exchange : Exchange) : Prop :=
  exchange = .sent (environment.transform.transCodePartial packet) address true

def PhaseTwoSent (exchange : Exchange) : Prop :=
  exists packet, encodeLANSearch3Phase uid nonce 2 = some packet ∧
    Sent environment address packet exchange

def LoginSent (variant : LoginVariant) (exchange : Exchange) : Prop :=
  exists sequence timestamp, Sent environment address
    (LoginRequest.encode ⟨nonce, sequence, variant, timestamp⟩) exchange

def LoginAccepted (exchange : Exchange) : Prop :=
  exists bytes peer response, exchange = .received (.packet bytes peer) ∧
    decodeLoginResponse (environment.transform.reverseTransCodePartial bytes) nonce = .ok response

/-- A packet of the session replies to a command. -/
def ReplyReceived (key : ControlReplyKey) (exchange : Exchange) : Prop :=
  exists bytes peer inner, exchange = .received (.packet bytes peer) ∧
    decodeDeviceSession (environment.transform.reverseTransCodePartial bytes) nonce = some inner ∧
    parseControlReply inner = some key

def StartSent (exchange : Exchange) : Prop :=
  exists sequence counter, Sent environment address
    (encodeClientSessionPacket nonce sequence (startVideoBody counter)) exchange

/-- A packet of the session carries the fragment. -/
def FragmentReceived (fragment : MediaFragment) (exchange : Exchange) : Prop :=
  exists bytes peer, exchange = .received (.packet bytes peer) ∧
    decodeMediaFragment (environment.transform.reverseTransCodePartial bytes) nonce =
      .ok (some fragment)

/-- The events from the answer of the camera to the logins. -/
def loggingIn : List (Exchange -> Prop) :=
  [SearchAnswered environment uid address, PhaseTwoSent environment uid nonce address,
    LoginSent environment nonce address .primary, LoginSent environment nonce address .secondary]

/-- The events up to the replies to these commands. -/
def replying (got : List ControlReplyKey) : List (Exchange -> Prop) :=
  loggingIn environment uid nonce address ++
    LoginAccepted environment nonce :: got.map (ReplyReceived environment nonce)

/-- The events from the start of the stream to the arrival of these fragments. -/
def watching (fragments : List MediaFragment) : List (Exchange -> Prop) :=
  StartSent environment nonce address :: fragments.map (FragmentReceived environment nonce)

end Events

/-! ## Sends that succeed -/

section Sends

variable {environment : ConnectEnvironment} {uid : String} {nonce : SessionId}
  {address : UDPAddr}

theorem passes_sendOrFail (packet : Packet) (error : ConnectError) :
    Passes [Sent environment address packet] (sendOrFail environment packet address error) := by
  intro state value succeeds
  obtain ⟨ok, sent, finished, -, log⟩ := bind_eq_ok succeeds
  have logged : (sendOrFail environment packet address error state).log = _ := log
  rw [logged]
  have outcome : environment.sendOk state.sends = ok := Except.ok.inj sent
  cases ok with
  | false => cases finished
  | true =>
      refine (milestones_singleton ?_).append (milestones_nil _)
      exact congrArg (Exchange.sent _ address) outcome

theorem passes_completeDirectDiscovery :
    Passes [PhaseTwoSent environment uid nonce address]
      (completeDirectDiscovery environment uid nonce address) := by
  unfold completeDirectDiscovery
  split
  · exact passes_fail _ _
  · split
    · exact passes_fail _ _
    · next packet encoded =>
        refine passes_after (fun _ => passes_before ?_)
        exact (passes_sendOrFail packet .phaseTwoSend).imply (fun _ sent => ⟨packet, encoded, sent⟩)

theorem passes_sendLogin (step : String) (request : LoginRequest) (same : request.sessionId = nonce) :
    Passes [LoginSent environment nonce address request.variant]
      (sendLogin environment address step request) := by
  refine passes_after (fun _ => (passes_sendOrFail request.encode .loginSend).imply ?_)
  rintro exchange sent
  cases same
  exact ⟨request.sequence, request.timestampMillis, sent⟩

theorem passes_beginLogin :
    Passes (loggingIn environment uid nonce address).tail
      (beginLogin environment uid nonce address) := by
  refine passes_bind passes_completeDirectDiscovery (fun _ => ?_)
  refine passes_after (fun _ => passes_after (fun now => ?_))
  refine passes_bind (passes_sendLogin _ ⟨nonce, 0, .primary, _⟩ rfl) (fun _ => ?_)
  exact passes_before (passes_sendLogin _ ⟨nonce, 1, .secondary, _⟩ rfl)

theorem returns_beginLogin :
    Returns (fun phase => phase = .login address) (beginLogin environment uid nonce address) :=
  returns_bind (fun _ => returns_bind (fun _ => returns_bind (fun _ => returns_bind (fun _ =>
    returns_bind (fun _ => returns_pure rfl)))))

theorem passes_sendStartVideo :
    Passes [StartSent environment nonce address] (sendStartVideo environment nonce address) := by
  refine passes_after (fun counter => passes_after (fun sequence => passes_after (fun _ => ?_)))
  exact passes_before ((passes_sendOrFail _ _).imply (fun _ sent => ⟨sequence, counter, sent⟩))

theorem passes_beginVideo :
    Passes [StartSent environment nonce address] (beginVideo environment nonce address) :=
  passes_before passes_sendStartVideo

theorem returns_beginVideo :
    Returns (fun phase => phase = .video address) (beginVideo environment nonce address) :=
  returns_bind (fun _ => returns_bind (fun _ => returns_pure rfl))

theorem returns_sendBootstrap :
    Returns (fun phase => phase = .replies address [streamReply, formatReply])
      (sendBootstrap environment nonce address) :=
  returns_bind (fun _ => returns_bind (fun _ => returns_bind (fun _ => returns_bind (fun _ =>
    returns_bind (fun _ => returns_bind (fun _ => returns_bind (fun _ => returns_bind (fun _ =>
      returns_bind (fun _ => returns_pure rfl)))))))))

end Sends

/-! ## The media receiver while nothing is taken in -/

section Media

variable {environment : ConnectEnvironment} {nonce : SessionId} {address : UDPAddr}

def KeepsMedia (before after : Dialogue) (_log : List Exchange) : Prop :=
  after.session.media = before.session.media

theorem keepsMedia_chained : Chained KeepsMedia where
  refl _ := rfl
  trans first second := second.trans first

theorem keepsMedia_sendOrFail (packet : Packet) (error : ConnectError) :
    Respects KeepsMedia (sendOrFail environment packet address error) := by
  have sends : Respects KeepsMedia (sendTo environment packet address) :=
    respects_bind keepsMedia_chained (fun _ => rfl) (fun _ =>
      respects_bind keepsMedia_chained (fun _ => rfl) (fun _ => fun _ => rfl))
  refine respects_bind keepsMedia_chained sends (fun ok => ?_)
  split
  · exact respects_pure keepsMedia_chained _
  · exact respects_fail keepsMedia_chained _

theorem keepsMedia_sendBody (body : Packet) (error : ConnectError) :
    Respects KeepsMedia (sendBody environment nonce address body error) :=
  respects_bind keepsMedia_chained (fun _ => rfl) (fun _ => keepsMedia_sendOrFail _ _)

theorem media_emitOnce (session : LoopSession) (key : String) (event : SessionEvent) :
    (session.emitOnce key event).1.media = session.media := by
  unfold LoopSession.emitOnce
  split
  · rfl
  · rfl

theorem media_emitLimited (session : LoopSession) (key : String) (limit : Nat)
    (event : SessionEvent) : (session.emitLimited key limit event).1.media = session.media := by
  unfold LoopSession.emitLimited
  dsimp only
  split
  · rfl
  · rfl

theorem keepsMedia_answer {reply : LoopSession -> Turn -> Reply}
    (kept : forall session turn, (reply session turn).session.media = session.media) :
    Respects KeepsMedia (answer environment address reply) := by
  intro state
  rw [answer_eq environment address reply state _ rfl]
  exact kept state.session _

theorem media_replyKeepalive (transform : Transform) (session : LoopSession) (turn : Turn)
    (decoded : Packet) :
    (replyKeepalive transform session turn decoded).session.media = session.media := by
  unfold replyKeepalive
  split
  · rfl
  · rfl

theorem media_replySessionHeartbeat (transform : Transform) (session : LoopSession) (turn : Turn)
    (decoded : Packet) :
    (replySessionHeartbeat transform nonce session turn decoded).session.media =
      session.media := by
  unfold replySessionHeartbeat
  split
  · rfl
  · dsimp only
    split
    · exact (media_emitOnce _ _ _).trans (media_emitOnce _ _ _)
    · exact media_emitOnce _ _ _

theorem media_replySession25Counters (transform : Transform) (session : LoopSession) (turn : Turn)
    (inner : Packet) :
    (replySession25Counters transform nonce session turn inner).session.media =
      session.media := by
  unfold replySession25Counters
  split
  · rfl
  · dsimp only
    split
    · exact (media_emitLimited _ _ _ _).trans (media_emitLimited _ _ _ _)
    · exact media_emitLimited _ _ _ _

theorem keepsMedia_sends : StartRules environment nonce address KeepsMedia where
  chained := keepsMedia_chained
  emitted _ _ := rfl
  clock _ := rfl
  reported _ _ _ :=
    respects_bind keepsMedia_chained (fun _ => media_emitLimited _ _ _ _) (fun _ =>
      respects_forM keepsMedia_chained (fun _ => respects_tell (fun _ => rfl)) _)
  replyNoted _ := rfl
  clientStart _ _ :=
    respects_bind keepsMedia_chained (fun _ => rfl) (fun _ => keepsMedia_sendOrFail _ _)
  heartbeat _ :=
    respects_bind keepsMedia_chained (fun _ => rfl) (fun _ => keepsMedia_sendBody _ _)
  counters _ :=
    respects_bind keepsMedia_chained (fun _ => rfl) (fun _ => keepsMedia_sendBody _ _)
  setStream := respects_bind keepsMedia_chained (fun _ => rfl) (fun _ => keepsMedia_sendBody _ _)
  getFormat := respects_bind keepsMedia_chained (fun _ => rfl) (fun _ => keepsMedia_sendBody _ _)
  startVideo :=
    respects_bind keepsMedia_chained (fun _ => rfl) (fun _ =>
      respects_bind keepsMedia_chained (fun _ => rfl) (fun _ =>
        respects_bind keepsMedia_chained (fun _ => rfl) (fun _ =>
          respects_bind keepsMedia_chained (keepsMedia_sendOrFail _ _) (fun _ => fun _ => rfl))))
  keepalive _ := keepsMedia_answer (fun session turn => media_replyKeepalive _ session turn _)
  heartbeatAck _ :=
    keepsMedia_answer (fun session turn => media_replySessionHeartbeat _ session turn _)
  countersAck _ :=
    keepsMedia_answer (fun session turn => media_replySession25Counters _ session turn _)

end Media

/-! ## The stream is not started early -/

/-- The command that starts the stream was handed to the transport. -/
def IsStart (environment : ConnectEnvironment) (nonce : SessionId) (exchange : Exchange) : Prop :=
  exists sequence counter address ok, exchange = .sent (environment.transform.transCodePartial
    (encodeClientSessionPacket nonce sequence (startVideoBody counter))) address ok

/-- Nothing in the log starts the stream. -/
def NotStarted (environment : ConnectEnvironment) (nonce : SessionId) (log : List Exchange) :
    Prop :=
  forall exchange, exchange ∈ log -> ¬ IsStart environment nonce exchange

def Unstarted (environment : ConnectEnvironment) (nonce : SessionId) (_before _after : Dialogue)
    (log : List Exchange) : Prop :=
  NotStarted environment nonce log

section Unstarted

variable {environment : ConnectEnvironment} {uid : String} {nonce : SessionId}
  {address : UDPAddr}

theorem NotStarted.append {first second : List Exchange}
    (early : NotStarted environment nonce first) (late : NotStarted environment nonce second) :
    NotStarted environment nonce (first ++ second) := by
  intro exchange member
  rcases List.mem_append.mp member with before | after
  · exact early exchange before
  · exact late exchange after

theorem unstarted_chained : Chained (Unstarted environment nonce) where
  refl _ := List.forall_mem_nil _
  trans := NotStarted.append

theorem not_isStart_emitted (event : SessionEvent) :
    ¬ IsStart environment nonce (.emitted event) := by
  rintro ⟨_, _, _, _, same⟩
  cases same

theorem not_isStart_received (arrival : Arrival) :
    ¬ IsStart environment nonce (.received arrival) := by
  rintro ⟨_, _, _, _, same⟩
  cases same

theorem unstarted_emit (state : SessionState) (step error : String) :
    Respects (Unstarted environment nonce) (emit state step error) := by
  refine respects_tell (fun _ => List.forall_mem_singleton.mpr ?_)
  exact not_isStart_emitted _

theorem body_of_encodeClientSessionPacket {sequence other : UInt16} {body otherBody : Packet}
    (same : encodeClientSessionPacket nonce sequence body =
      encodeClientSessionPacket nonce other otherBody) : body = otherBody :=
  List.append_inj_right same rfl

/-- A packet of the session whose body is of another length does not start the stream. -/
theorem ne_start_of_length {sequence : UInt16} {body : Packet} {length : Nat}
    (known : body.length = length) (short : length ≠ 48) (other counter : UInt16) :
    encodeClientSessionPacket nonce sequence body ≠
      encodeClientSessionPacket nonce other (startVideoBody counter) := by
  intro same
  have lengths := congrArg List.length (body_of_encodeClientSessionPacket same)
  exact short (known.symm.trans lengths)

theorem heartbeat_ne_start (sequence other own counter : UInt16) (timestamp : UInt32) :
    encodeClientSessionPacket nonce sequence (encodeBootstrapHeartbeat own timestamp) ≠
      encodeClientSessionPacket nonce other (startVideoBody counter) :=
  @ne_start_of_length nonce sequence _ 16 rfl (by decide) other counter

theorem counters_ne_start (sequence other counter : UInt16) (counters : Session25Counters) :
    encodeClientSessionPacket nonce sequence (encodeSession25Counters counters) ≠
      encodeClientSessionPacket nonce other (startVideoBody counter) :=
  @ne_start_of_length nonce sequence _ 24 rfl (by decide) other counter

theorem getFormat_ne_start (sequence other own counter : UInt16) :
    encodeClientSessionPacket nonce sequence (encodeControlData own CONTROL_CHANNEL_SYSTEM
      FORMAT_CONTROL_INDEX (controlPayload CONTROL_GET_FORMAT [])) ≠
    encodeClientSessionPacket nonce other (startVideoBody counter) :=
  @ne_start_of_length nonce sequence _ 40 rfl (by decide) other counter

/-- The command that selects the stream goes to another channel than the one that starts it. -/
theorem setStream_ne_start (sequence other own counter : UInt16) :
    encodeClientSessionPacket nonce sequence (encodeControlData own CONTROL_CHANNEL_STREAM 0
      (controlPayload CONTROL_SET_STREAM STREAM_CONTROL_HD)) ≠
    encodeClientSessionPacket nonce other (startVideoBody counter) := by
  intro same
  have bodies := congrArg (fun body => body[17]?) (body_of_encodeClientSessionPacket same)
  have channels : some (0x10 : UInt8) = some 0x70 := bodies
  cases channels

theorem loginRequest_ne_start (request : LoginRequest) (sequence counter : UInt16) :
    request.encode ≠ encodeClientSessionPacket nonce sequence (startVideoBody counter) := by
  intro same
  have lengths : some (0x46 : UInt8) = some 0x3C := congrArg (fun packet => packet[4]?) same
  cases lengths

theorem search_ne_start {phase : UInt8} {packet : Packet}
    (encoded : encodeLANSearch3Phase uid nonce phase = some packet) (sequence counter : UInt16) :
    packet ≠ encodeClientSessionPacket nonce sequence (startVideoBody counter) := by
  intro same
  unfold encodeLANSearch3Phase at encoded
  split at encoded
  · cases encoded
    have flags : some (0x02 : UInt8) = some 0x0A := congrArg (fun packet => packet[3]?) same
    cases flags
  · cases encoded

variable (undone : forall packet, environment.transform.reverseTransCodePartial
  (environment.transform.transCodePartial packet) = packet)

include undone

theorem not_isStart_of_ne {packet : Packet} {ok : Bool}
    (differs : forall sequence counter,
      packet ≠ encodeClientSessionPacket nonce sequence (startVideoBody counter)) :
    ¬ IsStart environment nonce
      (.sent (environment.transform.transCodePartial packet) address ok) := by
  rintro ⟨sequence, counter, other, sent, same⟩
  have wires := (Exchange.sent.inj same).1
  have packets := congrArg environment.transform.reverseTransCodePartial wires
  rw [undone, undone] at packets
  exact differs sequence counter packets

theorem unstarted_sendTo {packet : Packet} (differs : forall sequence counter,
      packet ≠ encodeClientSessionPacket nonce sequence (startVideoBody counter)) :
    Respects (Unstarted environment nonce) (sendTo environment packet address) := by
  refine respects_bind unstarted_chained (fun _ => List.forall_mem_nil _) (fun ok => ?_)
  refine respects_bind unstarted_chained (respects_tell (fun _ => ?_)) (fun _ =>
    respects_pure unstarted_chained _)
  exact List.forall_mem_singleton.mpr (not_isStart_of_ne undone differs)

theorem unstarted_sendOrFail {packet : Packet} (differs : forall sequence counter,
      packet ≠ encodeClientSessionPacket nonce sequence (startVideoBody counter))
    (error : ConnectError) :
    Respects (Unstarted environment nonce) (sendOrFail environment packet address error) := by
  refine respects_bind unstarted_chained (unstarted_sendTo undone differs) (fun ok => ?_)
  split
  · exact respects_pure unstarted_chained _
  · exact respects_fail unstarted_chained _

theorem unstarted_sendBody {body : Packet} (differs : forall own sequence counter,
      encodeClientSessionPacket nonce own body ≠
        encodeClientSessionPacket nonce sequence (startVideoBody counter))
    (error : ConnectError) :
    Respects (Unstarted environment nonce) (sendBody environment nonce address body error) :=
  respects_bind unstarted_chained (fun _ => List.forall_mem_nil _) (fun own =>
    unstarted_sendOrFail undone (differs own) error)

theorem unstarted_sendCounters (random : UInt16) :
    Respects (Unstarted environment nonce) (sendCounters environment nonce address random) := by
  intro state
  have counted : Unstarted environment nonce state (nextCountersBody random state).state [] :=
    List.forall_mem_nil _
  have sent := @unstarted_sendBody environment nonce address undone
    (state.session.session25.nextCounters random).1
    (fun sequence other counter => counters_ne_start sequence other counter _) .countersSend
    (nextCountersBody random state).state
  exact unstarted_chained.trans counted sent

/-- An answer that sends other packets does not start the stream. -/
theorem unstarted_answer {reply : LoopSession -> Turn -> Reply}
    (others : forall session turn wire, wire ∈ (reply session turn).datagrams ->
      exists packet, wire = environment.transform.transCodePartial packet ∧
        forall sequence counter,
          packet ≠ encodeClientSessionPacket nonce sequence (startVideoBody counter)) :
    Respects (Unstarted environment nonce) (answer environment address reply) := by
  intro state exchange member
  rw [answer_eq environment address reply state _ rfl] at member
  rcases List.mem_append.mp member with datagram | event
  · obtain ⟨wire, among, rfl⟩ := List.mem_map.mp datagram
    obtain ⟨packet, rfl, differs⟩ := others _ _ wire among
    exact not_isStart_of_ne undone differs
  · obtain ⟨reported, -, rfl⟩ := List.mem_map.mp event
    exact not_isStart_emitted reported

theorem unstarted_keepalive (decoded : Packet) :
    Respects (Unstarted environment nonce) (answer environment address
      (fun session turn => replyKeepalive environment.transform session turn decoded)) := by
  refine unstarted_answer undone (fun session turn wire among => ?_)
  unfold replyKeepalive at among
  split at among
  · cases among
  · next reply encoded =>
      refine ⟨reply, List.mem_singleton.mp among, fun sequence counter same => ?_⟩
      have lengths := congrArg List.length same
      rw [length_encodeKeepaliveReply encoded, length_encodeClientSessionPacket] at lengths
      omega

theorem unstarted_heartbeatAck (decoded : Packet) :
    Respects (Unstarted environment nonce) (answer environment address (fun session turn =>
      replySessionHeartbeat environment.transform nonce session turn decoded)) := by
  refine unstarted_answer undone (fun session turn wire among => ?_)
  unfold replySessionHeartbeat at among
  split at among
  · cases among
  · next ack recognized =>
      have length : ack.length = 20 := by
        obtain ⟨inner, -, encoded⟩ := Option.bind_eq_some_iff.mp recognized
        unfold encodeSessionHeartbeatAck at encoded
        split at encoded
        · split at encoded
          · cases encoded
            rfl
          · cases encoded
        · cases encoded
      have differs := fun own => @ne_start_of_length nonce own ack 20 length (by decide)
      dsimp only at among
      split at among
      · exact ⟨_, List.mem_singleton.mp among, differs _⟩
      · exact ⟨_, List.mem_singleton.mp among, differs _⟩

theorem unstarted_countersAck (inner : Packet) :
    Respects (Unstarted environment nonce) (answer environment address (fun session turn =>
      replySession25Counters environment.transform nonce session turn inner)) := by
  refine unstarted_answer undone (fun session turn wire among => ?_)
  unfold replySession25Counters at among
  split at among
  · cases among
  · dsimp only at among
    split at among
    · exact ⟨_, List.mem_singleton.mp among, fun other counter =>
        counters_ne_start _ other counter _⟩
    · exact ⟨_, List.mem_singleton.mp among, fun other counter =>
        counters_ne_start _ other counter _⟩

/-- Nothing that is sent before the replies are there starts the stream. -/
theorem unstarted_sends : SendRules environment nonce address (Unstarted environment nonce) where
  chained := unstarted_chained
  emitted event _ := List.forall_mem_singleton.mpr (not_isStart_emitted event)
  clock _ := List.forall_mem_nil _
  reported _ _ _ :=
    respects_bind unstarted_chained (fun _ => List.forall_mem_nil _) (fun _ =>
      respects_forM unstarted_chained (fun event => respects_tell (fun _ =>
        List.forall_mem_singleton.mpr (not_isStart_emitted event))) _)
  replyNoted _ := List.forall_mem_nil _
  clientStart _ _ :=
    respects_bind unstarted_chained (fun _ => List.forall_mem_nil _) (fun _ =>
      unstarted_sendOrFail undone (loginRequest_ne_start _) _)
  heartbeat _ :=
    respects_bind unstarted_chained (fun _ => List.forall_mem_nil _) (fun _ =>
      unstarted_sendBody undone (fun sequence other counter =>
        heartbeat_ne_start sequence other _ counter _) _)
  counters random := unstarted_sendCounters undone random
  setStream :=
    respects_bind unstarted_chained (fun _ => List.forall_mem_nil _) (fun _ =>
      unstarted_sendBody undone (fun sequence other counter =>
        setStream_ne_start sequence other _ counter) _)
  getFormat :=
    respects_bind unstarted_chained (fun _ => List.forall_mem_nil _) (fun _ =>
      unstarted_sendBody undone (fun sequence other counter =>
        getFormat_ne_start sequence other _ counter) _)
  keepalive := unstarted_keepalive undone
  heartbeatAck := unstarted_heartbeatAck undone
  countersAck := unstarted_countersAck undone

theorem unstarted_searchTargets {search : Packet} (differs : forall sequence counter,
      search ≠ encodeClientSessionPacket nonce sequence (startVideoBody counter))
    (targets : List (Option UDPAddr)) :
    Respects (Unstarted environment nonce) (searchTargets environment search targets) := by
  induction targets with
  | nil => exact respects_pure unstarted_chained _
  | cons target rest inductionHypothesis =>
      unfold searchTargets
      split
      · exact inductionHypothesis
      · split
        · exact inductionHypothesis
        · refine respects_bind unstarted_chained (unstarted_emit _ _ _) (fun _ => ?_)
          refine respects_bind unstarted_chained (unstarted_sendTo undone differs) (fun ok => ?_)
          split
          · exact respects_bind unstarted_chained (unstarted_emit _ _ _)
              (fun _ => inductionHypothesis)
          · exact respects_bind unstarted_chained (unstarted_emit _ _ _)
              (fun _ => respects_fail unstarted_chained _)

theorem unstarted_beginDiscover (targets : List (Option UDPAddr)) :
    Respects (Unstarted environment nonce) (beginDiscover environment uid nonce targets) := by
  unfold beginDiscover
  split
  · exact respects_fail unstarted_chained _
  · split
    · exact respects_fail unstarted_chained _
    · next search encoded => exact unstarted_searchTargets undone (search_ne_start encoded) targets

theorem unstarted_beginBroadcast (connector : DirectConnector) :
    Respects (Unstarted environment nonce) (beginBroadcast environment connector uid nonce) := by
  unfold beginBroadcast
  split
  · exact respects_fail unstarted_chained _
  · refine respects_bind unstarted_chained (unstarted_emit _ _ _) (fun _ => ?_)
    exact respects_bind unstarted_chained (unstarted_beginDiscover undone _)
      (fun _ => respects_pure unstarted_chained _)

theorem unstarted_unicastFailed (connector : DirectConnector) (error : ConnectError) :
    Respects (Unstarted environment nonce)
      (unicastFailed environment connector uid nonce error) := by
  refine respects_bind unstarted_chained (unstarted_emit _ _ _) (fun _ => ?_)
  split
  · exact respects_bind unstarted_chained (unstarted_emit _ _ _)
      (fun _ => unstarted_beginBroadcast undone connector)
  · exact respects_fail unstarted_chained _

theorem unstarted_beginDiscovery (connector : DirectConnector) (feederIp : Option IP) :
    Respects (Unstarted environment nonce)
      (beginDiscovery environment connector uid nonce feederIp) := by
  unfold beginDiscovery
  split
  · refine respects_bind unstarted_chained (unstarted_emit _ _ _) (fun _ => ?_)
    refine respects_bind unstarted_chained (respects_attempt (unstarted_beginDiscover undone _))
      (fun begun => ?_)
    split
    · exact respects_pure unstarted_chained _
    · exact unstarted_unicastFailed undone connector _
  · exact unstarted_beginBroadcast undone connector

omit undone in
theorem unstarted_judgeAnswer (expectedSourceIp : Option IP) (bytes : Packet)
    (peer : Option UDPAddr) :
    Respects (Unstarted environment nonce)
      (judgeAnswer environment uid expectedSourceIp bytes peer) := by
  have reports : forall step (found : Option UDPAddr), Respects (Unstarted environment nonce)
      (emit .discovering step >>= fun _ => (pure found : Talk (Option UDPAddr))) :=
    fun step found => respects_bind unstarted_chained (unstarted_emit _ _ _)
      (fun _ => respects_pure unstarted_chained _)
  unfold judgeAnswer
  split
  · exact reports _ _
  · split
    · exact reports _ _
    · refine respects_bind unstarted_chained (unstarted_emit _ _ _) (fun _ => ?_)
      split
      · exact reports _ _
      · split
        · exact reports _ _
        · exact reports _ _

theorem unstarted_beginLogin :
    Respects (Unstarted environment nonce) (beginLogin environment uid nonce address) := by
  have completes : Respects (Unstarted environment nonce)
      (completeDirectDiscovery environment uid nonce address) := by
    unfold completeDirectDiscovery
    split
    · exact respects_fail unstarted_chained _
    · split
      · exact respects_fail unstarted_chained _
      · next packet encoded =>
          refine respects_bind unstarted_chained (unstarted_emit _ _ _) (fun _ => ?_)
          exact respects_bind unstarted_chained
            (unstarted_sendOrFail undone (search_ne_start encoded) _)
            (fun _ => unstarted_emit _ _ _)
  have sends : forall step request, Respects (Unstarted environment nonce)
      (sendLogin environment address step request) :=
    fun step request => respects_bind unstarted_chained (unstarted_emit _ _ _)
      (fun _ => unstarted_sendOrFail undone (loginRequest_ne_start request) _)
  refine respects_bind unstarted_chained completes (fun _ => ?_)
  refine respects_bind unstarted_chained (unstarted_emit _ _ _) (fun _ => ?_)
  refine respects_bind unstarted_chained (fun _ => List.forall_mem_nil _) (fun now => ?_)
  refine respects_bind unstarted_chained (sends _ _) (fun _ => ?_)
  exact respects_bind unstarted_chained (sends _ _) (fun _ => respects_pure unstarted_chained _)

theorem unstarted_discoverTurn (expectedSourceIp : Option IP) (bytes : Packet)
    (peer : Option UDPAddr) (waiting : ConnectPhase) :
    Respects (Unstarted environment nonce)
      (discoverTurn environment uid nonce expectedSourceIp bytes peer waiting) := by
  refine respects_bind unstarted_chained (unstarted_judgeAnswer _ _ _) (fun found => ?_)
  split
  · exact respects_pure unstarted_chained _
  · exact unstarted_beginLogin undone

theorem unstarted_loginTurn (bytes : Packet) :
    Respects (Unstarted environment nonce) (loginTurn environment nonce address bytes) := by
  unfold loginTurn
  split
  · exact respects_pure unstarted_chained _
  · exact respects_bind unstarted_chained (fun _ => List.forall_mem_nil _)
      (fun _ => (unstarted_sends undone).sendBootstrap)

end Unstarted

/-- The stream is started in the log, and not before that. -/
def StartsIn (environment : ConnectEnvironment) (nonce : SessionId) (address : UDPAddr)
    (log : List Exchange) : Prop :=
  exists before after, log = before ++ after ∧ NotStarted environment nonce before ∧
    Milestones [StartSent environment nonce address] after

theorem StartsIn.after {environment : ConnectEnvironment} {nonce : SessionId}
    {address : UDPAddr} {first log : List Exchange} (starts : StartsIn environment nonce address log)
    (early : NotStarted environment nonce first) :
    StartsIn environment nonce address (first ++ log) := by
  obtain ⟨before, after, rfl, notYet, started⟩ := starts
  exact ⟨first ++ before, after, (List.append_assoc _ _ _).symm, early.append notYet, started⟩

/-! ## Turns that succeed -/

section Turns

variable {environment : ConnectEnvironment} {uid : String} {nonce : SessionId}
  {address : UDPAddr}

/-- Only an answer to the search is taken for one. -/
theorem judgeAnswer_eq_some {expectedSourceIp : Option IP} {bytes : Packet}
    {peer : Option UDPAddr} {state : Dialogue} (found :
      (judgeAnswer environment uid expectedSourceIp bytes peer state).result = .ok (some address)) :
    peer = some address ∧
      (exists ip, address.ip = some ip ∧ forall expected, expectedSourceIp = some expected ->
        ip.equal expected = true) ∧
      exists response, decodeLANSearchResponse
        (environment.transform.reverseTransCodePartial bytes) uid = .ok response := by
  unfold judgeAnswer at found
  cases peer with
  | none => cases found
  | some sender =>
      cases known : sender.ip with
      | none =>
          simp only [known] at found
          cases found
      | some ip =>
          simp only [known] at found
          obtain ⟨-, -, judged, -⟩ := bind_eq_ok found
          split at judged
          · cases judged
          · next expected =>
              cases decoded : decodeLANSearchResponse
                  (environment.transform.reverseTransCodePartial bytes) uid with
              | error error =>
                  simp only [decoded] at judged
                  cases judged
              | ok response =>
                  simp only [decoded] at judged
                  cases judged
                  refine ⟨rfl, ⟨ip, known, ?_⟩, response, rfl⟩
                  rintro source rfl
                  simpa using expected

theorem uid_of_decodeLANSearchResponse {packet : Packet} {response : LANSearchResponse}
    (decoded : decodeLANSearchResponse packet uid = .ok response) :
    response.uid = uidBytes uid := by
  unfold decodeLANSearchResponse at decoded
  dsimp only at decoded
  split_ifs at decoded with _ _ _ _ same
  cases decoded
  exact same

/-- A packet is passed over, or it answers the search and the camera is logged in to. -/
theorem discoverTurn_cases {expectedSourceIp : Option IP} {bytes : Packet}
    {peer : Option UDPAddr} {waiting phase : ConnectPhase} {state : Dialogue}
    (succeeds : (discoverTurn environment uid nonce expectedSourceIp bytes peer waiting
      state).result = .ok phase) :
    phase = waiting ∨ exists address ip, phase = .login address ∧ address.ip = some ip ∧
      (forall expected, expectedSourceIp = some expected -> ip.equal expected = true) ∧
      Milestones (loggingIn environment uid nonce address)
        (.received (.packet bytes peer) ::
          (discoverTurn environment uid nonce expectedSourceIp bytes peer waiting state).log) := by
  obtain ⟨found, judged, later, -, log⟩ := bind_eq_ok succeeds
  have logged : (discoverTurn environment uid nonce expectedSourceIp bytes peer waiting
    state).log = _ := log
  cases found with
  | none =>
      cases later
      exact Or.inl rfl
  | some address =>
      obtain ⟨rfl, ⟨ip, known, source⟩, response, decoded⟩ := judgeAnswer_eq_some judged
      refine Or.inr ⟨address, ip, returns_beginLogin _ _ later, known, source, ?_⟩
      rw [logged]
      have answered : Milestones [SearchAnswered environment uid address]
          [.received (.packet bytes (some address))] :=
        milestones_singleton ⟨bytes, response, rfl, decoded, uid_of_decodeLANSearchResponse decoded⟩
      exact answered.append ((passes_beginLogin _ _ later).of_sublist
        (List.sublist_append_right _ _))

section Broadcast

variable {connector : DirectConnector}

theorem passes_beginBroadcast :
    Passes [BroadcastBegun] (beginBroadcast environment connector uid nonce) := by
  unfold beginBroadcast
  split
  · exact passes_fail _ _
  · exact passes_before (passes_tell rfl)

theorem returns_beginBroadcast :
    Returns (fun phase => phase = .broadcast)
      (beginBroadcast environment connector uid nonce) := by
  unfold beginBroadcast
  split
  · exact returns_fail _ _
  · exact returns_bind (fun _ => returns_bind (fun _ => returns_pure rfl))

theorem passes_unicastFailed (error : ConnectError) :
    Passes [BroadcastBegun] (unicastFailed environment connector uid nonce error) := by
  refine passes_after (fun _ => ?_)
  split
  · exact passes_after (fun _ => passes_beginBroadcast)
  · exact passes_fail _ _

theorem returns_unicastFailed (error : ConnectError) :
    Returns (fun phase => phase = .broadcast)
      (unicastFailed environment connector uid nonce error) := by
  refine returns_bind (fun _ => ?_)
  split
  · exact returns_bind (fun _ => returns_beginBroadcast)
  · exact returns_fail _ _

theorem beginDiscovery_cases {feederIp : Option IP} {phase : ConnectPhase} {state : Dialogue}
    (succeeds : (beginDiscovery environment connector uid nonce feederIp state).result =
      .ok phase) :
    (exists ipv4, usableIPv4 feederIp = some ipv4 ∧ phase = .unicast ipv4) ∨
      (phase = .broadcast ∧ Milestones [BroadcastBegun]
        (beginDiscovery environment connector uid nonce feederIp state).log) := by
  unfold beginDiscovery at succeeds ⊢
  cases usable : usableIPv4 feederIp with
  | none =>
      simp only [usable] at succeeds ⊢
      exact Or.inr ⟨returns_beginBroadcast _ _ succeeds, passes_beginBroadcast _ _ succeeds⟩
  | some ipv4 =>
      simp only [usable] at succeeds ⊢
      obtain ⟨-, -, later, -, log⟩ := bind_eq_ok succeeds
      obtain ⟨begun, -, finished, -, laterLog⟩ := bind_eq_ok later
      cases begun with
      | ok _ =>
          cases finished
          exact Or.inl ⟨ipv4, rfl, rfl⟩
      | error error =>
          refine Or.inr ⟨returns_unicastFailed error _ _ finished, ?_⟩
          rw [log, laterLog]
          exact (passes_unicastFailed error _ _ finished).of_sublist
            ((List.sublist_append_right _ _).trans (List.sublist_append_right _ _))

end Broadcast

theorem loginTurn_cases {bytes : Packet} {phase : ConnectPhase} {state : Dialogue}
    (succeeds : (loginTurn environment nonce address bytes state).result = .ok phase) :
    phase = .login address ∨ (phase = .replies address [streamReply, formatReply] ∧
      (loginTurn environment nonce address bytes state).state.session.media = {} ∧
      exists response, decodeLoginResponse
        (environment.transform.reverseTransCodePartial bytes) nonce = .ok response) := by
  unfold loginTurn at succeeds ⊢
  cases decoded : decodeLoginResponse (environment.transform.reverseTransCodePartial bytes)
      nonce with
  | error error =>
      simp only [decoded] at succeeds
      cases succeeds
      exact Or.inl rfl
  | ok response =>
      simp only [decoded] at succeeds ⊢
      obtain ⟨-, -, sent, kept, -⟩ := bind_eq_ok succeeds
      refine Or.inr ⟨returns_sendBootstrap _ _ sent, ?_, response, rfl⟩
      refine (congrArg (fun dialogue : Dialogue => dialogue.session.media) kept).trans ?_
      exact keepsMedia_sends.sendBootstrap _

section Replies

variable (undone : forall packet, environment.transform.reverseTransCodePartial
  (environment.transform.transCodePartial packet) = packet)

/-- How a turn goes on when it has a reply: it waits for the others, or it starts the stream. -/
def GoesOn (environment : ConnectEnvironment) (nonce : SessionId) (address : UDPAddr)
    (missing : List ControlReplyKey) (phase : ConnectPhase) (log : List Exchange) : Prop :=
  (phase = .replies address missing ∧ NotStarted environment nonce log) ∨
  (phase = .video address ∧ missing = [] ∧ StartsIn environment nonce address log)

theorem GoesOn.after {missing : List ControlReplyKey} {phase : ConnectPhase}
    {first log : List Exchange} (goesOn : GoesOn environment nonce address missing phase log)
    (early : NotStarted environment nonce first) :
    GoesOn environment nonce address missing phase (first ++ log) := by
  rcases goesOn with ⟨waits, notYet⟩ | ⟨starts, all, started⟩
  · exact Or.inl ⟨waits, early.append notYet⟩
  · exact Or.inr ⟨starts, all, started.after early⟩

theorem goesOn_awaitReplies {missing : List ControlReplyKey} {phase : ConnectPhase}
    {state : Dialogue}
    (succeeds : (awaitReplies environment nonce address missing state).result = .ok phase) :
    GoesOn environment nonce address missing phase
      (awaitReplies environment nonce address missing state).log := by
  unfold awaitReplies at succeeds ⊢
  cases missing with
  | nil =>
      refine Or.inr ⟨returns_beginVideo _ _ succeeds, rfl, [], _, rfl, List.forall_mem_nil _, ?_⟩
      exact passes_beginVideo _ _ succeeds
  | cons key rest =>
      cases succeeds
      exact Or.inl ⟨rfl, List.forall_mem_nil _⟩

include undone

theorem goesOn_takeReply {expected : List ControlReplyKey} {key : ControlReplyKey}
    {phase : ConnectPhase} {state : Dialogue}
    (succeeds : (takeReply environment nonce address expected key state).result = .ok phase) :
    GoesOn environment nonce address (expected.erase key) phase
      (takeReply environment nonce address expected key state).log := by
  obtain ⟨-, -, later, -, log⟩ := bind_eq_ok succeeds
  have logged : (takeReply environment nonce address expected key state).log = _ := log
  rw [logged]
  have rules := @unstarted_sends environment nonce address undone
  refine GoesOn.after ?_ (rules.replyNoted state)
  by_cases stream : key.channel = CONTROL_CHANNEL_STREAM
  · simp only [if_pos stream] at later ⊢
    obtain ⟨-, -, awaited, -, laterLog⟩ := bind_eq_ok later
    rw [laterLog]
    exact (goesOn_awaitReplies awaited).after (rules.sendSession25Counters _)
  · simp only [if_neg stream] at later ⊢
    exact goesOn_awaitReplies later

/-- A packet is passed over, or it replies to a command. -/
theorem controlReplyTurn_cases {expected : List ControlReplyKey} {bytes : Packet}
    {phase : ConnectPhase} {state : Dialogue}
    (succeeds : (controlReplyTurn environment nonce address expected bytes state).result =
      .ok phase) :
    (phase = .replies address expected ∧ NotStarted environment nonce
        (controlReplyTurn environment nonce address expected bytes state).log) ∨
      exists inner key, decodeDeviceSession
          (environment.transform.reverseTransCodePartial bytes) nonce = some inner ∧
        parseControlReply inner = some key ∧
        GoesOn environment nonce address (expected.erase key) phase
          (controlReplyTurn environment nonce address expected bytes state).log := by
  obtain ⟨beaten, -, later, -, log⟩ := bind_eq_ok succeeds
  have logged : (controlReplyTurn environment nonce address expected bytes state).log = _ := log
  rw [logged]
  have rules := @unstarted_sends environment nonce address undone
  have early : NotStarted environment nonce _ :=
    rules.heartbeatAck (environment.transform.reverseTransCodePartial bytes) state
  cases beaten with
  | true =>
      obtain ⟨-, -, finished, -, laterLog⟩ := bind_eq_ok later
      cases finished
      refine Or.inl ⟨rfl, early.append ?_⟩
      simp only [if_true]
      rw [laterLog]
      exact NotStarted.append (rules.sendSession25Counters _) (List.forall_mem_nil _)
  | false =>
      simp only [Bool.false_eq_true, if_false] at later ⊢
      cases decoded : decodeDeviceSession (environment.transform.reverseTransCodePartial bytes)
          nonce with
      | none =>
          simp only [decoded] at later ⊢
          cases later
          exact Or.inl ⟨rfl, early.append (List.forall_mem_nil _)⟩
      | some inner =>
          simp only [decoded] at later ⊢
          obtain ⟨counted, -, finished, -, laterLog⟩ := bind_eq_ok later
          rw [laterLog]
          have middle := rules.countersAck inner
          cases counted with
          | true =>
              cases finished
              exact Or.inl ⟨rfl, early.append (NotStarted.append (middle _) (List.forall_mem_nil _))⟩
          | false =>
              simp only [Bool.false_eq_true, if_false] at finished ⊢
              cases parsed : parseControlReply inner with
              | none =>
                  simp only [parsed] at finished ⊢
                  cases finished
                  exact Or.inl ⟨rfl, early.append (NotStarted.append (middle _) (List.forall_mem_nil _))⟩
              | some key =>
                  simp only [parsed] at finished ⊢
                  refine Or.inr ⟨inner, key, rfl, parsed, GoesOn.after ?_ early⟩
                  exact (goesOn_takeReply undone finished).after (middle _)

end Replies

/-! ## Media that is taken in -/

section HandlePacket

variable {receiver : MediaReceiver} {packet : Packet} {now : Int}

theorem handlePacket_of_frame {frame : VideoFrame}
    (handled : (receiver.handlePacket packet nonce now).2 = .ok (some frame)) :
    exists fragment data, decodeMediaFragment packet nonce = .ok (some fragment) ∧
      (fragment.channel = H264_MAIN_CHANNEL ∨ fragment.channel = H264_SUB_CHANNEL) ∧
      receiver.returns ⟨fragment, now⟩ = .ok (some data) ∧
      frame.data = (stripMediaMetadata data).1 ∧ containsH264NAL frame.data = true := by
  unfold MediaReceiver.handlePacket at handled
  split at handled
  · cases handled
  · cases handled
  · next fragment decoded =>
      split at handled
      · cases handled
      · next own =>
          split at handled
          · cases handled
          · cases handled
          · next after data assembled =>
              dsimp only at handled
              split at handled
              · next unit =>
                  cases handled
                  refine ⟨fragment, data, decoded, ?_, congrArg Prod.snd assembled, rfl, unit⟩
                  rwa [not_and_or, Decidable.not_not, Decidable.not_not] at own
              · cases handled

theorem handlePacket_of_no_frame
    (handled : forall frame, (receiver.handlePacket packet nonce now).2 ≠ .ok (some frame)) :
    (receiver.handlePacket packet nonce now).1 = receiver ∨
      exists fragment, decodeMediaFragment packet nonce = .ok (some fragment) ∧
        (receiver.handlePacket packet nonce now).1 =
          assemblyMachine.next receiver ⟨fragment, now⟩ := by
  unfold MediaReceiver.handlePacket at handled ⊢
  split
  · exact Or.inl rfl
  · exact Or.inl rfl
  · next fragment decoded =>
      rw [decoded] at handled
      split
      · exact Or.inl rfl
      · next own =>
          simp only [if_neg own] at handled
          refine Or.inr ⟨fragment, decoded, ?_⟩
          split
          · next after error assembled => exact (congrArg Prod.fst assembled).symm
          · next after assembled => exact (congrArg Prod.fst assembled).symm
          · next after data assembled =>
              simp only [assembled] at handled
              dsimp only
              split
              · next unit =>
                  rw [if_pos unit] at handled
                  exact absurd rfl (handled _)
              · exact (congrArg Prod.fst assembled).symm

end HandlePacket

/-- A packet completes the first frame or is taken in for later. -/
theorem mediaTurn_cases {decoded : Packet} {phase : ConnectPhase} {state : Dialogue}
    (succeeds : (mediaTurn environment nonce address decoded state).result = .ok phase) :
    exists now, (exists frame,
        (state.session.media.handlePacket decoded nonce now).2 = .ok (some frame) ∧
        phase = .connected address frame) ∨
      ((forall frame, (state.session.media.handlePacket decoded nonce now).2 ≠ .ok (some frame)) ∧
        phase = .video address ∧
        (mediaTurn environment nonce address decoded state).state.session.media =
          (state.session.media.handlePacket decoded nonce now).1) := by
  obtain ⟨now, clock, later, kept, -⟩ := bind_eq_ok succeeds
  obtain ⟨handled, taken, finished, laterKept, -⟩ := bind_eq_ok later
  have handledIs : (state.session.media.handlePacket decoded nonce now).2 = handled :=
    Except.ok.inj taken
  refine ⟨now, ?_⟩
  rw [handledIs]
  have media : (mediaTurn environment nonce address decoded state).state = _ :=
    kept.trans laterKept
  rw [media]
  cases handled with
  | error error =>
      cases finished
      exact Or.inr ⟨nofun, rfl, rfl⟩
  | ok found =>
      cases found with
      | none =>
          cases finished
          exact Or.inr ⟨nofun, rfl, rfl⟩
      | some frame =>
          cases finished
          exact Or.inl ⟨frame, rfl, rfl⟩

/-- A turn leaves the media receiver alone, or it hands the packet to it. -/
def HandsOver (environment : ConnectEnvironment) (nonce : SessionId) (address : UDPAddr)
    (decoded : Packet) (before after : Dialogue) (phase : ConnectPhase) : Prop :=
  (phase = .video address ∧ after.session.media = before.session.media) ∨
  exists middle, middle.session.media = before.session.media ∧
    (mediaTurn environment nonce address decoded middle).result = .ok phase ∧
    after = (mediaTurn environment nonce address decoded middle).state

theorem HandsOver.after {decoded : Packet} {before middle after : Dialogue} {phase : ConnectPhase}
    (hands : HandsOver environment nonce address decoded middle after phase)
    (kept : middle.session.media = before.session.media) :
    HandsOver environment nonce address decoded before after phase := by
  rcases hands with ⟨waits, media⟩ | ⟨later, media, handed⟩
  · exact Or.inl ⟨waits, media.trans kept⟩
  · exact Or.inr ⟨later, media.trans kept, handed⟩

theorem handsOver_deviceTurn {decoded inner : Packet} {phase : ConnectPhase} {state : Dialogue}
    (succeeds : (deviceTurn environment nonce address decoded inner state).result = .ok phase) :
    HandsOver environment nonce address decoded state
      (deviceTurn environment nonce address decoded inner state).state phase := by
  obtain ⟨counted, -, later, kept, -⟩ := bind_eq_ok succeeds
  have reached : (deviceTurn environment nonce address decoded inner state).state = _ := kept
  rw [reached]
  have rules := @keepsMedia_sends environment nonce address
  refine HandsOver.after ?_ (rules.countersAck inner state)
  cases counted with
  | true =>
      cases later
      exact Or.inl ⟨rfl, rfl⟩
  | false =>
      simp only [Bool.false_eq_true, if_false] at later ⊢
      by_cases started : parseControlReply inner = some startReply
      · simp only [if_pos started] at later ⊢
        cases later
        exact Or.inl ⟨rfl, rfl⟩
      · simp only [if_neg started] at later ⊢
        exact Or.inr ⟨_, rfl, later, rfl⟩

theorem handsOver_videoTurn {bytes : Packet} {phase : ConnectPhase} {state : Dialogue}
    (succeeds : (videoTurn environment nonce address bytes state).result = .ok phase) :
    HandsOver environment nonce address (environment.transform.reverseTransCodePartial bytes) state
      (videoTurn environment nonce address bytes state).state phase := by
  obtain ⟨alive, -, later, kept, -⟩ := bind_eq_ok succeeds
  have reached : (videoTurn environment nonce address bytes state).state = _ := kept
  rw [reached]
  have rules := @keepsMedia_sends environment nonce address
  refine HandsOver.after ?_
    (rules.keepalive (environment.transform.reverseTransCodePartial bytes) state)
  cases alive with
  | true =>
      cases later
      exact Or.inl ⟨rfl, rfl⟩
  | false =>
      simp only [Bool.false_eq_true, if_false] at later ⊢
      obtain ⟨beaten, -, finished, laterKept, -⟩ := bind_eq_ok later
      rw [laterKept]
      refine HandsOver.after ?_
        (rules.heartbeatAck (environment.transform.reverseTransCodePartial bytes) _)
      cases beaten with
      | true =>
          cases finished
          exact Or.inl ⟨rfl, rfl⟩
      | false =>
          simp only [Bool.false_eq_true, if_false] at finished ⊢
          cases decoded : decodeDeviceSession
              (environment.transform.reverseTransCodePartial bytes) nonce with
          | none =>
              simp only [decoded] at finished ⊢
              exact Or.inr ⟨_, rfl, finished, rfl⟩
          | some inner =>
              simp only [decoded] at finished ⊢
              exact handsOver_deviceTurn finished

end Turns

end Camera
end PetlibroRelay
