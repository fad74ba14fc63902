import PetlibroRelay.Camera.Connect

namespace PetlibroRelay
namespace Camera

open Foundations
open Foundations.Conversation

/-!
# What the parts of an attempt keep

Once there is a session, an attempt does a few things to it over and over: it sends a
login, a heartbeat, counters or a command, it answers the device, and it takes notes.  A
relation between dialogues that can be chained and that each of these keeps, with what it
writes to the log, is kept by a whole turn, also by one that fails in the middle.

The rules are stated for an arbitrary relation.  The command that starts the stream and what
is done with media are apart from the others, since some relations stop with them.
-/

/-- The result of an answer says whether the packet called for one, and it fails if the answer
was not sent. -/
def ReplyOutcome.result : ReplyOutcome -> Except ConnectError Bool
  | .unrecognized => .ok false
  | .handled => .ok true
  | .failed => .error .replySend

theorem answer_eq (environment : ConnectEnvironment) (address : UDPAddr)
    (reply : LoopSession -> Turn -> Reply) (state : Dialogue) (made : Reply)
    (replied : reply state.session (answerTurn environment state) = made) :
    answer environment address reply state =
      ⟨made.outcome.result,
        { sends := state.sends + made.datagrams.length
          readings := state.readings + made.datagrams.length
          session := made.session },
        made.datagrams.map (fun wire => .sent wire address (decide (made.outcome = .handled))) ++
          made.events.map .emitted⟩ := by
  unfold answer
  simp only [Bind.bind, Conversation.bind, Conversation.modifyGet, replied, forM_tell, List.nil_append]
  cases made.outcome with
  | unrecognized => simp only [Pure.pure, List.append_nil, ReplyOutcome.result]
  | handled => simp only [Pure.pure, List.append_nil, ReplyOutcome.result]
  | failed => simp only [Conversation.fail, List.append_nil, ReplyOutcome.result]

section Rules

variable {environment : ConnectEnvironment} {nonce : SessionId} {address : UDPAddr}
  {relation : Dialogue -> Dialogue -> List Exchange -> Prop}

/-- The sends and notes of a session keep the relation. -/
structure SendRules (environment : ConnectEnvironment) (nonce : SessionId) (address : UDPAddr)
    (relation : Dialogue -> Dialogue -> List Exchange -> Prop) : Prop where
  chained : Chained relation
  emitted : forall event state, relation state state [.emitted event]
  clock : Respects relation (readClock environment)
  reported : forall key limit event, Respects relation (emitLimitedEvent key limit event)
  replyNoted : Respects relation noteReply
  clientStart : forall variant timestamp,
    Respects relation (sendClientStart environment nonce address variant timestamp)
  heartbeat : forall timestamp,
    Respects relation (sendBootstrapHeartbeat environment nonce address timestamp)
  counters : forall random, Respects relation (sendCounters environment nonce address random)
  setStream : Respects relation (sendControl environment nonce address CONTROL_CHANNEL_STREAM 0
    CONTROL_SET_STREAM STREAM_CONTROL_HD)
  getFormat : Respects relation (sendControl environment nonce address CONTROL_CHANNEL_SYSTEM
    FORMAT_CONTROL_INDEX CONTROL_GET_FORMAT [])
  keepalive : forall decoded, Respects relation (answer environment address
    (fun session turn => replyKeepalive environment.transform session turn decoded))
  heartbeatAck : forall decoded, Respects relation (answer environment address
    (fun session turn => replySessionHeartbeat environment.transform nonce session turn decoded))
  countersAck : forall inner, Respects relation (answer environment address
    (fun session turn => replySession25Counters environment.transform nonce session turn inner))

namespace SendRules

variable (rules : SendRules environment nonce address relation)

include rules

theorem emit (state : SessionState) (step error : String) :
    Respects relation (emit state step error) :=
  respects_tell (rules.emitted _)

theorem sendSession25Counters : Respects relation (sendSession25Counters environment nonce address) :=
  respects_bind rules.chained rules.clock (fun _ =>
    respects_bind rules.chained (rules.counters _) (fun _ => rules.reported _ _ _))

theorem sendBootstrap : Respects relation (sendBootstrap environment nonce address) := by
  refine respects_bind rules.chained (rules.emit _ _ _) (fun _ => ?_)
  refine respects_bind rules.chained (rules.emit _ _ _) (fun _ => ?_)
  refine respects_bind rules.chained rules.clock (fun _ => ?_)
  refine respects_bind rules.chained (respects_bind rules.chained (rules.clientStart _ _)
    (fun _ => rules.clientStart _ _)) (fun _ => ?_)
  refine respects_bind rules.chained (rules.heartbeat _) (fun _ => ?_)
  refine respects_bind rules.chained rules.sendSession25Counters (fun _ => ?_)
  refine respects_bind rules.chained rules.setStream (fun _ => ?_)
  refine respects_bind rules.chained rules.sendSession25Counters (fun _ => ?_)
  refine respects_bind rules.chained rules.getFormat (fun _ => ?_)
  exact respects_pure rules.chained _

end SendRules

/-- The command that starts the stream keeps the relation as well. -/
structure StartRules (environment : ConnectEnvironment) (nonce : SessionId) (address : UDPAddr)
    (relation : Dialogue -> Dialogue -> List Exchange -> Prop) : Prop
    extends SendRules environment nonce address relation where
  startVideo : Respects relation (sendStartVideo environment nonce address)

namespace StartRules

variable (rules : StartRules environment nonce address relation)

include rules

theorem beginVideo : Respects relation (beginVideo environment nonce address) :=
  respects_bind rules.chained rules.startVideo (fun _ =>
    respects_bind rules.chained rules.sendSession25Counters (fun _ =>
      respects_pure rules.chained _))

theorem awaitReplies (missing : List ControlReplyKey) :
    Respects relation (awaitReplies environment nonce address missing) := by
  unfold Camera.awaitReplies
  split
  · exact rules.beginVideo
  · exact respects_pure rules.chained _

theorem takeReply (expected : List ControlReplyKey) (key : ControlReplyKey) :
    Respects relation (takeReply environment nonce address expected key) := by
  refine respects_bind rules.chained rules.replyNoted (fun _ => ?_)
  dsimp only
  split
  · exact respects_bind rules.chained rules.sendSession25Counters (fun _ => rules.awaitReplies _)
  · exact rules.awaitReplies _

theorem controlReplyTurn (expected : List ControlReplyKey) (bytes : Packet) :
    Respects relation (controlReplyTurn environment nonce address expected bytes) := by
  refine respects_bind rules.chained (rules.heartbeatAck _) (fun beaten => ?_)
  cases beaten with
  | true =>
      exact respects_bind rules.chained rules.sendSession25Counters (fun _ =>
        respects_pure rules.chained _)
  | false =>
      simp only [Bool.false_eq_true, if_false]
      split
      · exact respects_pure rules.chained _
      · refine respects_bind rules.chained (rules.countersAck _) (fun counted => ?_)
        split
        · exact respects_pure rules.chained _
        · split
          · exact respects_pure rules.chained _
          · exact rules.takeReply _ _

end StartRules

/-- What is done with media keeps the relation as well. -/
structure MediaRules (environment : ConnectEnvironment) (nonce : SessionId) (address : UDPAddr)
    (relation : Dialogue -> Dialogue -> List Exchange -> Prop) : Prop
    extends StartRules environment nonce address relation where
  taken : forall decoded now, Respects relation (handleVideoPacket nonce decoded now)
  frameNoted : forall decoded, Respects relation (noteFirstFrame nonce decoded)
  eventNoted : forall now, Respects relation (noteMediaEvent now)

namespace MediaRules

variable (rules : MediaRules environment nonce address relation)

include rules

theorem beginStreaming (decoded : Packet) (frame : VideoFrame) :
    Respects relation (beginStreaming environment nonce address decoded frame) := by
  refine respects_bind rules.chained (rules.frameNoted _) (fun _ => ?_)
  refine respects_bind rules.chained rules.clock (fun _ => ?_)
  refine respects_bind rules.chained (rules.eventNoted _) (fun _ => ?_)
  exact respects_bind rules.chained (rules.emit _ _ _) (fun _ => respects_pure rules.chained _)

theorem mediaTurn (decoded : Packet) :
    Respects relation (mediaTurn environment nonce address decoded) := by
  refine respects_bind rules.chained rules.clock (fun _ => ?_)
  refine respects_bind rules.chained (rules.taken _ _) (fun handled => ?_)
  split
  · exact rules.beginStreaming _ _
  · exact respects_pure rules.chained _

theorem deviceTurn (decoded inner : Packet) :
    Respects relation (deviceTurn environment nonce address decoded inner) := by
  refine respects_bind rules.chained (rules.countersAck _) (fun counted => ?_)
  split
  · exact respects_pure rules.chained _
  · split
    · exact respects_bind rules.chained (rules.emit _ _ _) (fun _ => respects_pure rules.chained _)
    · exact rules.mediaTurn _

theorem videoTurn (bytes : Packet) :
    Respects relation (videoTurn environment nonce address bytes) := by
  refine respects_bind rules.chained (rules.keepalive _) (fun kept => ?_)
  split
  · exact respects_pure rules.chained _
  · refine respects_bind rules.chained (rules.heartbeatAck _) (fun beaten => ?_)
    split
    · exact respects_pure rules.chained _
    · split
      · exact rules.deviceTurn _ _
      · exact rules.mediaTurn _

end MediaRules

end Rules

end Camera
end PetlibroRelay
