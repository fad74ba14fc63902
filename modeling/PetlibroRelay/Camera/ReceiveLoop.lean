import Mathlib.Logic.Function.Iterate
import PetlibroRelay.Camera.CameraRegistry
import PetlibroRelay.Camera.MediaReceiver

namespace PetlibroRelay
namespace Camera

open Foundations

/-!
# The receive loop of a session

A session has one loop that receives datagrams, replies to keepalives, heartbeats and
counters, and hands media on.  The loop ends with the first receive error, and it
reports that one unless its context was canceled.  It also ends with the first reply
that cannot be sent, and of that it says nothing.

One turn of the loop takes what the transport returned, whether the one message a turn
may send was sent, and what other calls did to the session since the turn before.  The
transform of datagrams on the wire is a parameter.
-/

/-! ## The session as the loop sees it -/

/-- The transform that every datagram passes. -/
structure Transform where
  transCodePartial : Packet -> Packet
  reverseTransCodePartial : Packet -> Packet

/-- The part of a session that its loop reads and writes.  Times are nanoseconds. -/
structure LoopSession where
  sequence : UInt16 := 2
  session25 : Session25State := {}
  media : MediaReceiver := {}
  emitted : List String := []
  emittedCount : Dict String Nat := []
  lastMediaEvent : Option Int := none
  lastAudioEvent : Option Int := none
  lastUnknownMediaEvent : Option Int := none
  deriving DecidableEq, Repr

/-- What the transport returns. -/
inductive Received where
  | packet (bytes : Packet)
  | canceled
  | error (text : String)
  deriving DecidableEq, Repr

/-- One turn: what was received, whether a message could be sent, up to three readings
of the clock, and what other calls did before: commands they sent, and the note of the
connector about its first frame. -/
structure Turn where
  received : Received
  sent : Bool := true
  first : Int := 0
  second : Int := 0
  third : Int := 0
  controls : Nat := 0
  noted : Option Int := none
  deriving DecidableEq, Repr

inductive LoopEnd where
  | canceled
  | receiveFailed
  | replyFailed
  deriving DecidableEq, Repr

structure TurnResult where
  session : LoopSession
  events : List SessionEvent := []
  datagrams : List Packet := []
  video : Option VideoFrame := none
  audio : Option AudioFrame := none
  ended : Option LoopEnd := none
  deriving DecidableEq, Repr

inductive ReplyOutcome where
  | unrecognized
  | handled
  | failed
  deriving DecidableEq, Repr

structure Reply where
  outcome : ReplyOutcome
  session : LoopSession
  events : List SessionEvent := []
  datagrams : List Packet := []
  deriving DecidableEq, Repr

def MEDIA_STATS_LOG_INTERVAL : Int := 5000000000

namespace LoopSession

/-- Another call has sent a command. -/
def commanded (session : LoopSession) : LoopSession :=
  { session with
    sequence := session.sequence + 1
    session25 := session.session25.nextOutboundCommand.2 }

/-- What other calls have done since the last turn. -/
def meanwhile (session : LoopSession) (turn : Turn) : LoopSession :=
  let session := Nat.iterate commanded turn.controls session
  { session with lastMediaEvent := turn.noted.or session.lastMediaEvent }

def emitOnce (session : LoopSession) (key : String) (event : SessionEvent) :
    LoopSession × List SessionEvent :=
  if key ∈ session.emitted then (session, [])
  else ({ session with emitted := key :: session.emitted }, [event])

def emitLimited (session : LoopSession) (key : String) (limit : Nat) (event : SessionEvent) :
    LoopSession × List SessionEvent :=
  let count := (Dict.get? session.emittedCount key).getD 0
  if limit ≤ count then (session, [])
  else ({ session with emittedCount := Dict.set session.emittedCount key (count + 1) }, [event])

/-- Wrap a body and use one number of the session for it, sent or not. -/
def sendBody (session : LoopSession) (transform : Transform) (sessionId : SessionId)
    (body : Packet) : LoopSession × Packet :=
  ({ session with sequence := session.sequence + 1 },
    transform.transCodePartial (encodeClientSessionPacket sessionId session.sequence body))

end LoopSession

/-- Whether the interval since the last event has passed. -/
def intervalPassed (last : Option Int) (now : Int) : Bool :=
  last.all (fun before => !decide (now - before < MEDIA_STATS_LOG_INTERVAL))

/-- The low bits of the time in milliseconds. -/
def lowMillis (now : Int) : UInt16 :=
  UInt16.ofNat ((now / 1000000) % 65536).toNat

/-- A diagnostic event. -/
def diagnostic (step : String) : SessionEvent := { state := .bootstrapping, step := step }

/-- An event of a session that streams. -/
def streamingEvent (step : String) : SessionEvent := { state := .streaming, step := step }

/-! ## Replies -/

section Loop

variable (transform : Transform) (sessionId : SessionId)

def replyKeepalive (session : LoopSession) (turn : Turn) (decoded : Packet) : Reply :=
  match encodeKeepaliveReply decoded with
  | none => { outcome := .unrecognized, session := session }
  | some reply =>
      { outcome := if turn.sent then .handled else .failed
        session := session
        events := diagnostic "keepalive_rx" ::
          if turn.sent then [diagnostic "keepalive_tx"] else []
        datagrams := [transform.transCodePartial reply] }

def replySessionHeartbeat (session : LoopSession) (turn : Turn) (decoded : Packet) : Reply :=
  match (decodeDeviceSession decoded sessionId).bind encodeSessionHeartbeatAck with
  | none => { outcome := .unrecognized, session := session }
  | some ack =>
      let arrived := session.emitOnce "session_heartbeat_rx" (diagnostic "session_heartbeat_rx")
      let answered := arrived.1.sendBody transform sessionId ack
      if turn.sent then
        let reported :=
          answered.1.emitOnce "session_heartbeat_tx" (diagnostic "session_heartbeat_tx")
        { outcome := .handled
          session := reported.1
          events := arrived.2 ++ reported.2
          datagrams := [answered.2] }
      else
        { outcome := .failed
          session := answered.1
          events := arrived.2
          datagrams := [answered.2] }

def replySession25Counters (session : LoopSession) (turn : Turn) (inner : Packet) : Reply :=
  match decodeSession25Counters inner with
  | none => { outcome := .unrecognized, session := session }
  | some _ =>
      let arrived :=
        session.emitLimited "session25_counters_rx" 4 (diagnostic "session25_counters_rx")
      let counted := arrived.1.session25.nextCounters (lowMillis turn.first)
      let answered := ({ arrived.1 with session25 := counted.2.2 } : LoopSession).sendBody
        transform sessionId counted.1
      if turn.sent then
        let reported := answered.1.emitLimited "session25_counters_tx" 4
          (diagnostic "session25_counters_tx")
        { outcome := .handled
          session := reported.1
          events := arrived.2 ++ reported.2
          datagrams := [answered.2] }
      else
        { outcome := .failed
          session := answered.1
          events := arrived.2
          datagrams := [answered.2] }

/-! ## Media -/

theorem kind_within {inner : Packet} (long : 36 ≤ inner.length) : 0 < inner.length := by
  omega

theorem version_within {inner : Packet} (long : 36 ≤ inner.length) : 2 < inner.length := by
  omega

theorem subsequence_within {inner : Packet} (long : 36 ≤ inner.length) :
    18 + 2 ≤ inner.length := by
  omega

def noteSession25Media (session : LoopSession) (decoded : Packet) : LoopSession :=
  match decodeDeviceSession decoded sessionId with
  | none => session
  | some inner =>
      if long : 36 ≤ inner.length then
        if getElem inner 0 (kind_within long) = 0x0C ∧
            getElem inner 2 (version_within long) = LOGIN_COMMAND_VERSION then
          { session with
            session25 := session.session25.noteReceivedMedia
              (uint16At inner 18 (subsequence_within long)) }
        else session
      else session

/-- What is neither video nor audio. -/
def handleUnknown (session : LoopSession) (turn : Turn) (decoded : Packet) : TurnResult :=
  match observeNonVideoPacket decoded sessionId with
  | .ok (some _) =>
      if intervalPassed session.lastUnknownMediaEvent turn.third then
        { session := { session with lastUnknownMediaEvent := some turn.third }
          events := [streamingEvent "media_unknown"] }
      else { session := session }
  | _ => { session := session }

def handleAudio (session : LoopSession) (turn : Turn) (decoded : Packet) : TurnResult :=
  match session.media.handleAudioPacket decoded sessionId turn.second with
  | (media, .error _) => { session := { session with media := media } }
  | (media, .ok none) => handleUnknown sessionId { session with media := media } turn decoded
  | (media, .ok (some frame)) =>
      let noted := noteSession25Media sessionId { session with media := media } decoded
      if intervalPassed noted.lastAudioEvent turn.third then
        { session := { noted with lastAudioEvent := some turn.third }
          events := [streamingEvent "audio_media"]
          audio := some frame }
      else { session := noted, audio := some frame }

def handleMedia (session : LoopSession) (turn : Turn) (decoded : Packet) : TurnResult :=
  match session.media.handlePacket decoded sessionId turn.first with
  | (media, .error _) => { session := { session with media := media } }
  | (media, .ok none) => handleAudio sessionId { session with media := media } turn decoded
  | (media, .ok (some frame)) =>
      let noted := noteSession25Media sessionId { session with media := media } decoded
      if intervalPassed noted.lastMediaEvent turn.second then
        { session := { noted with lastMediaEvent := some turn.second }
          events := [streamingEvent "media_stats"]
          video := some frame }
      else { session := noted, video := some frame }

/-! ## The loop -/

/-- The turn that a reply makes, if the packet called for one. -/
def Reply.finish (reply : Reply) : Option TurnResult :=
  match reply.outcome with
  | .unrecognized => none
  | .handled =>
      some { session := reply.session, events := reply.events, datagrams := reply.datagrams }
  | .failed =>
      some {
        session := reply.session
        events := reply.events
        datagrams := reply.datagrams
        ended := some .replyFailed }

def handleDatagram (session : LoopSession) (turn : Turn) (bytes : Packet) : TurnResult :=
  let decoded := transform.reverseTransCodePartial bytes
  match (replyKeepalive transform session turn decoded).finish with
  | some result => result
  | none =>
      match (replySessionHeartbeat transform sessionId session turn decoded).finish with
      | some result => result
      | none =>
          let counters := (decodeDeviceSession decoded sessionId).bind (fun inner =>
            (replySession25Counters transform sessionId session turn inner).finish)
          counters.getD (handleMedia sessionId session turn decoded)

/-- The event of a loop that has ended with a receive error. -/
def lossEvent (error : String) : SessionEvent :=
  { state := .failed, step := "media_receive_failed", error := error }

def receiveTurn (session : LoopSession) (turn : Turn) : TurnResult :=
  match turn.received with
  | .canceled => { session := session.meanwhile turn, ended := some .canceled }
  | .error text =>
      { session := session.meanwhile turn
        events := [lossEvent text]
        ended := some .receiveFailed }
  | .packet bytes => handleDatagram transform sessionId (session.meanwhile turn) turn bytes

structure LoopRun where
  session : LoopSession
  events : List SessionEvent := []
  ended : Option LoopEnd := none
  deriving DecidableEq, Repr

/-- The loop goes on until it ends or nothing more is received. -/
def mediaReceiver (session : LoopSession) : List Turn -> LoopRun
  | [] => { session := session }
  | turn :: rest =>
      let result := receiveTurn transform sessionId session turn
      match result.ended with
      | some ended => { session := result.session, events := result.events, ended := some ended }
      | none =>
          let later := mediaReceiver result.session rest
          { later with events := result.events ++ later.events }

/-! ## What a turn can end with -/

/-- The packet calls for a reply. -/
def asksReply (bytes : Packet) : Bool :=
  let decoded := transform.reverseTransCodePartial bytes
  (encodeKeepaliveReply decoded).isSome ||
    (decodeDeviceSession decoded sessionId).any (fun inner =>
      (encodeSessionHeartbeatAck inner).isSome || (decodeSession25Counters inner).isSome)

/-- No event says that the session is lost. -/
def Quiet (events : List SessionEvent) : Prop :=
  forall event, event ∈ events -> event.isLoss = false

variable {transform sessionId}

theorem Quiet.append {first second : List SessionEvent} (early : Quiet first)
    (late : Quiet second) : Quiet (first ++ second) := by
  intro event member
  rcases List.mem_append.mp member with before | after
  · exact early event before
  · exact late event after

theorem quiet_nil : Quiet [] := List.forall_mem_nil _

theorem quiet_diagnostic (step : String) : Quiet [diagnostic step] :=
  List.forall_mem_singleton.mpr rfl

theorem quiet_streamingEvent (step : String) : Quiet [streamingEvent step] :=
  List.forall_mem_singleton.mpr rfl

theorem quiet_emitOnce (session : LoopSession) (key step : String) :
    Quiet (session.emitOnce key (diagnostic step)).2 := by
  unfold LoopSession.emitOnce
  split
  · exact quiet_nil
  · exact quiet_diagnostic step

theorem quiet_emitLimited (session : LoopSession) (key step : String) (limit : Nat) :
    Quiet (session.emitLimited key limit (diagnostic step)).2 := by
  unfold LoopSession.emitLimited
  dsimp only
  split
  · exact quiet_nil
  · exact quiet_diagnostic step

/-- A reply is handled if it was sent, fails if it was not, and reports no loss. -/
structure Answers (recognized : Bool) (turn : Turn) (reply : Reply) : Prop where
  outcome : reply.outcome =
    if recognized then (if turn.sent then .handled else .failed) else .unrecognized
  quiet : Quiet reply.events

theorem answers_replyKeepalive (session : LoopSession) (turn : Turn) (decoded : Packet) :
    Answers (encodeKeepaliveReply decoded).isSome turn
      (replyKeepalive transform session turn decoded) := by
  unfold replyKeepalive
  cases encodeKeepaliveReply decoded with
  | none => exact ⟨rfl, quiet_nil⟩
  | some reply =>
      cases sent : turn.sent with
      | false => exact ⟨by rw [sent]; rfl, quiet_diagnostic "keepalive_rx"⟩
      | true =>
          exact ⟨by rw [sent]; rfl,
            (quiet_diagnostic "keepalive_rx").append (quiet_diagnostic "keepalive_tx")⟩

theorem answers_replySessionHeartbeat (session : LoopSession) (turn : Turn) (decoded : Packet) :
    Answers ((decodeDeviceSession decoded sessionId).bind encodeSessionHeartbeatAck).isSome turn
      (replySessionHeartbeat transform sessionId session turn decoded) := by
  unfold replySessionHeartbeat
  cases (decodeDeviceSession decoded sessionId).bind encodeSessionHeartbeatAck with
  | none => exact ⟨rfl, quiet_nil⟩
  | some ack =>
      dsimp only
      cases sent : turn.sent with
      | false => exact ⟨by rw [sent]; rfl, quiet_emitOnce _ _ _⟩
      | true =>
          exact ⟨by rw [sent]; rfl, (quiet_emitOnce _ _ _).append (quiet_emitOnce _ _ _)⟩

theorem answers_replySession25Counters (session : LoopSession) (turn : Turn) (inner : Packet) :
    Answers (decodeSession25Counters inner).isSome turn
      (replySession25Counters transform sessionId session turn inner) := by
  unfold replySession25Counters
  cases decodeSession25Counters inner with
  | none => exact ⟨rfl, quiet_nil⟩
  | some counters =>
      dsimp only
      cases sent : turn.sent with
      | false => exact ⟨by rw [sent]; rfl, quiet_emitLimited _ _ _ _⟩
      | true =>
          exact ⟨by rw [sent]; rfl, (quiet_emitLimited _ _ _ _).append (quiet_emitLimited _ _ _ _)⟩

/-- A turn goes on, or ends because its reply was not sent, and reports no loss. -/
structure Goes (failed : Bool) (result : TurnResult) : Prop where
  ended : result.ended = if failed then some .replyFailed else none
  quiet : Quiet result.events

theorem Answers.finish {turn : Turn} {reply : Reply} (answers : Answers true turn reply) :
    exists result, reply.finish = some result ∧ Goes (!turn.sent) result := by
  have outcome := answers.outcome
  rw [if_pos rfl] at outcome
  cases sent : turn.sent with
  | true =>
      rw [sent, if_pos rfl] at outcome
      rw [Reply.finish, outcome]
      exact ⟨_, rfl, rfl, answers.quiet⟩
  | false =>
      rw [sent, if_neg Bool.false_ne_true] at outcome
      rw [Reply.finish, outcome]
      exact ⟨_, rfl, rfl, answers.quiet⟩

theorem Answers.passes {turn : Turn} {reply : Reply} (answers : Answers false turn reply) :
    reply.finish = none := by
  have outcome := answers.outcome
  rw [if_neg Bool.false_ne_true] at outcome
  rw [Reply.finish, outcome]

theorem goes_handleUnknown (session : LoopSession) (turn : Turn) (decoded : Packet) :
    Goes false (handleUnknown sessionId session turn decoded) := by
  unfold handleUnknown
  split
  · split
    · exact ⟨rfl, quiet_streamingEvent "media_unknown"⟩
    · exact ⟨rfl, quiet_nil⟩
  · exact ⟨rfl, quiet_nil⟩

theorem goes_handleAudio (session : LoopSession) (turn : Turn) (decoded : Packet) :
    Goes false (handleAudio sessionId session turn decoded) := by
  unfold handleAudio
  split
  · exact ⟨rfl, quiet_nil⟩
  · exact goes_handleUnknown _ turn decoded
  · dsimp only
    split
    · exact ⟨rfl, quiet_streamingEvent "audio_media"⟩
    · exact ⟨rfl, quiet_nil⟩

theorem goes_handleMedia (session : LoopSession) (turn : Turn) (decoded : Packet) :
    Goes false (handleMedia sessionId session turn decoded) := by
  unfold handleMedia
  split
  · exact ⟨rfl, quiet_nil⟩
  · exact goes_handleAudio _ turn decoded
  · dsimp only
    split
    · exact ⟨rfl, quiet_streamingEvent "media_stats"⟩
    · exact ⟨rfl, quiet_nil⟩

/-- A datagram ends the loop exactly if it calls for a reply that is not sent. -/
theorem goes_handleDatagram (session : LoopSession) (turn : Turn) (bytes : Packet) :
    Goes (asksReply transform sessionId bytes && !turn.sent)
      (handleDatagram transform sessionId session turn bytes) := by
  unfold handleDatagram asksReply
  dsimp only
  generalize transform.reverseTransCodePartial bytes = decoded
  have keepalive := @answers_replyKeepalive transform session turn decoded
  cases kept : (encodeKeepaliveReply decoded).isSome with
  | true =>
      rw [kept] at keepalive
      obtain ⟨result, finished, goes⟩ := keepalive.finish
      rw [finished, Bool.true_or, Bool.true_and]
      exact goes
  | false =>
      rw [kept] at keepalive
      rw [keepalive.passes, Bool.false_or]
      have heartbeat := @answers_replySessionHeartbeat transform sessionId session turn decoded
      cases device : decodeDeviceSession decoded sessionId with
      | none =>
          rw [device] at heartbeat
          rw [heartbeat.passes]
          exact goes_handleMedia session turn decoded
      | some inner =>
          rw [device, Option.bind_some] at heartbeat
          rw [Option.any_some]
          cases beats : (encodeSessionHeartbeatAck inner).isSome with
          | true =>
              rw [beats] at heartbeat
              obtain ⟨result, finished, goes⟩ := heartbeat.finish
              rw [finished, Bool.true_or, Bool.true_and]
              exact goes
          | false =>
              rw [beats] at heartbeat
              rw [heartbeat.passes, Bool.false_or]
              have counters :=
                @answers_replySession25Counters transform sessionId session turn inner
              cases counted : (decodeSession25Counters inner).isSome with
              | true =>
                  rw [counted] at counters
                  obtain ⟨result, finished, goes⟩ := counters.finish
                  rw [Bool.true_and, Option.bind_some, finished]
                  exact goes
              | false =>
                  rw [counted] at counters
                  rw [Bool.false_and, Option.bind_some, counters.passes]
                  exact goes_handleMedia session turn decoded

/-! ## What a loop can end with -/

/-- Every packet before the first receive error that calls for a reply gets one. -/
def repliesSent (transform : Transform) (sessionId : SessionId) : List Turn -> Bool
  | [] => true
  | turn :: rest =>
      match turn.received with
      | .packet bytes =>
          (!asksReply transform sessionId bytes || turn.sent) &&
            repliesSent transform sessionId rest
      | _ => true

/-- A loop that has ended without being canceled has reported one loss. -/
def ReportsItsEnd (run : LoopRun) : Prop :=
  forall ended, run.ended = some ended -> ended ≠ .canceled ->
    run.events.countP SessionEvent.isLoss = 1

theorem countP_of_quiet {events : List SessionEvent} (quiet : Quiet events) :
    events.countP SessionEvent.isLoss = 0 := by
  refine List.countP_eq_zero.mpr ?_
  intro event member
  rw [quiet event member]
  exact Bool.false_ne_true

/-- A loop reports its end exactly if every reply it owes is sent. -/
theorem reportsItsEnd_iff (session : LoopSession) (turns : List Turn) :
    ReportsItsEnd (mediaReceiver transform sessionId session turns) ↔
      repliesSent transform sessionId turns = true := by
  induction turns generalizing session with
  | nil => exact iff_of_true nofun rfl
  | cons turn rest inductionHypothesis =>
      cases received : turn.received with
      | canceled =>
          refine iff_of_true ?_ ?_
          · intro ended ends running
            simp only [mediaReceiver, receiveTurn, received, Option.some.injEq] at ends
            exact absurd ends.symm running
          · simp only [repliesSent, received]
      | error text =>
          refine iff_of_true ?_ ?_
          · intro ended _ _
            simp only [mediaReceiver, receiveTurn, received]
            rfl
          · simp only [repliesSent, received]
      | packet bytes =>
          have goes :=
            @goes_handleDatagram transform sessionId (session.meanwhile turn) turn bytes
          have same : receiveTurn transform sessionId session turn =
              handleDatagram transform sessionId (session.meanwhile turn) turn bytes := by
            simp only [receiveTurn, received]
          rw [← same] at goes
          simp only [repliesSent, received]
          cases failed : (asksReply transform sessionId bytes && !turn.sent) with
          | true =>
              have ends := goes.ended
              rw [failed, if_pos rfl] at ends
              -- the loop is over, and nobody was told
              refine iff_of_false ?_ ?_
              · intro reports
                have once := reports .replyFailed (by simp only [mediaReceiver, ends]) nofun
                simp only [mediaReceiver, ends, countP_of_quiet goes.quiet] at once
                cases once
              · rw [Bool.and_eq_true, Bool.not_eq_true'] at failed
                rw [failed.1, failed.2]
                exact Bool.false_ne_true
          | false =>
              have ends := goes.ended
              rw [failed, if_neg Bool.false_ne_true] at ends
              have answered : (!asksReply transform sessionId bytes || turn.sent) = true := by
                rcases Bool.and_eq_false_iff.mp failed with unasked | sent
                · rw [unasked, Bool.not_false, Bool.true_or]
                · rw [Bool.not_eq_false'] at sent
                  rw [sent, Bool.or_true]
              rw [answered, Bool.true_and,
                ← inductionHypothesis (receiveTurn transform sessionId session turn).session]
              unfold ReportsItsEnd
              simp only [mediaReceiver, ends, List.countP_append, countP_of_quiet goes.quiet,
                Nat.zero_add]

end Loop

end Camera
end PetlibroRelay
