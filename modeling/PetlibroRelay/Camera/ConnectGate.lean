import PetlibroRelay.Camera.ConnectTurns

namespace PetlibroRelay
namespace Camera

open Foundations
open Foundations.Conversation

/-!
# What a connection attempt has been through

An attempt returns a session only after a fixed series of events: the camera has answered
the search, the second search packet and two logins have gone out, the login was accepted,
both commands were replied to, the stream was started and a frame arrived.  Here this is
said of the log of the attempt, for every sequence of arrivals and every outcome of sends.

Each phase has its own part of the series behind it, and a turn that goes on to the next
phase adds what that one asks for.

A frame is complete as the media receiver judges it.  It counts fragments in eight bits, so
of their number only the remainder is known; it is at least the announced one.
-/

/-! ## The gate -/

/-- How the camera was found: it has answered from the address of the feeder, or after the
search by broadcast had begun. -/
def FoundBy (feederIp : Option IP) (address : UDPAddr) (opening : List (Exchange -> Prop)) :
    Prop :=
  (opening = [] ∧ exists ipv4 ip, usableIPv4 feederIp = some ipv4 ∧ address.ip = some ip ∧
    ip.equal ipv4 = true) ∨
  opening = [BroadcastBegun]

/-- The frame is complete with its last fragment. -/
structure CompleteWith (early : List MediaFragment) (last : MediaFragment) (frame : VideoFrame) :
    Prop where
  video : last.channel = H264_MAIN_CHANNEL ∨ last.channel = H264_SUB_CHANNEL
  ends : last.ends = true
  labels : forall part, part ∈ early -> part.channel = last.channel ∧
    part.frameNumber = last.frameNumber ∧ part.fragmentCount = last.fragmentCount
  distinct : ((early ++ [last]).map MediaFragment.subsequence).Nodup
  counted : (early.length + 1) % 256 = last.fragmentCount.toNat
  data : frame.data =
    (stripMediaMetadata ((early ++ [last]).map MediaFragment.payload).flatten).1
  unit : containsH264NAL frame.data = true

/-- The stream is started once these replies are there and not before, and then these
fragments arrive. -/
def Started (environment : ConnectEnvironment) (uid : String) (nonce : SessionId)
    (address : UDPAddr) (opening : List (Exchange -> Prop)) (got : List ControlReplyKey)
    (fragments : List MediaFragment) (log : List Exchange) : Prop :=
  exists before after, log = before ++ after ∧ NotStarted environment nonce before ∧
    Milestones (opening ++ replying environment uid nonce address got) before ∧
    Milestones (watching environment nonce address fragments) after

/-- All that a session is returned after, in its order. -/
def PassedGate (environment : ConnectEnvironment) (uid : String) (feederIp : Option IP)
    (nonce : SessionId) (address : UDPAddr) (frame : VideoFrame) (log : List Exchange) : Prop :=
  exists opening got early last, FoundBy feederIp address opening ∧
    got.Perm [streamReply, formatReply] ∧ CompleteWith early last frame ∧
    Started environment uid nonce address opening got (early ++ [last]) log

/-! ## The first frame -/

/-- A frame that is completed consists of fragments that were delivered before, and the
completing one is the last of them. -/
theorem built_of_completes {history : List Delivery} {delivery : Delivery} {data : Packet}
    (completes : Completes (assemblyMachine.run {} history) delivery data) :
    exists early, (early ++ [delivery.fragment]).Sublist
        ((history ++ [delivery]).map Delivery.fragment) ∧
      BuiltFrom delivery.fragment.channel
        ((((assemblyMachine.run {} history).channel delivery.fragment.channel).assemblyFor
          delivery.fragment delivery.now).grow delivery.fragment)
        (early ++ [delivery.fragment]) := by
  have count := Decidable.not_not.mp (fun other => completes.fits (Or.inl other))
  have new := completes.new
  rw [List.map_append]
  cases joins : ((assemblyMachine.run {} history).channel delivery.fragment.channel).joins
      delivery.fragment delivery.now with
  | none =>
      rw [ChannelState.assemblyFor_of_begins joins] at new ⊢
      exact ⟨[], (List.nil_sublist _).append (List.Sublist.refl _),
        (builtFrom_anew delivery.fragment delivery.now).grow rfl rfl new⟩
  | some assembly =>
      rw [ChannelState.assemblyFor_of_joins joins] at new count ⊢
      obtain ⟨found, -, number⟩ := ChannelState.joins_eq_some joins
      obtain ⟨before, start, since, parts, rfl, -, built, within⟩ := allTraced history _ _ found
      refine ⟨start.fragment :: parts, ?_, built.grow number.symm count.symm new⟩
      refine List.Sublist.append ?_ (List.Sublist.refl _)
      rw [List.map_append, List.map_cons]
      exact (within.cons_cons _).trans (List.sublist_append_right _ _)

theorem completeWith_of_completes {history : List Delivery} {delivery : Delivery} {data : Packet}
    {frame : VideoFrame} (completes : Completes (assemblyMachine.run {} history) delivery data)
    (video : delivery.fragment.channel = H264_MAIN_CHANNEL ∨
      delivery.fragment.channel = H264_SUB_CHANNEL)
    (stripped : frame.data = (stripMediaMetadata data).1)
    (unit : containsH264NAL frame.data = true) :
    exists early, (early ++ [delivery.fragment]).Sublist
        ((history ++ [delivery]).map Delivery.fragment) ∧
      CompleteWith early delivery.fragment frame := by
  obtain ⟨early, within, built⟩ := built_of_completes completes
  have counted := length_mod_of_completes completes built
  rw [List.length_append, List.length_singleton] at counted
  refine ⟨early, within, video, completes.ends, ?_, built.distinct, counted, ?_, unit⟩
  · intro part member
    obtain ⟨channel, number, count⟩ := built.labels part (List.mem_append_left _ member)
    refine ⟨channel, number.trans (assemblyFor_frameNumber _ _ _), count.trans ?_⟩
    exact Decidable.not_not.mp (fun other => completes.fits (Or.inl other))
  · rw [stripped, completes.data, ← built.data]
    rfl

/-! ## Phases and what lies behind them -/

section Reached

variable (environment : ConnectEnvironment) (uid : String) (feederIp : Option IP)
  (nonce : SessionId)

/-- What lies behind an attempt in each phase. -/
def Reached (log : List Exchange) (media : MediaReceiver) : ConnectPhase -> Prop
  | .unicast ipv4 => usableIPv4 feederIp = some ipv4 ∧ NotStarted environment nonce log
  | .broadcast => Milestones [BroadcastBegun] log ∧ NotStarted environment nonce log
  | .login address => exists opening, FoundBy feederIp address opening ∧
      Milestones (opening ++ loggingIn environment uid nonce address) log ∧
      NotStarted environment nonce log
  | .replies address expected => exists opening got, FoundBy feederIp address opening ∧
      (got ++ expected).Perm [streamReply, formatReply] ∧ media = {} ∧
      Milestones (opening ++ replying environment uid nonce address got) log ∧
      NotStarted environment nonce log
  | .video address => exists opening got history, FoundBy feederIp address opening ∧
      got.Perm [streamReply, formatReply] ∧ media = assemblyMachine.run {} history ∧
      Started environment uid nonce address opening got (history.map Delivery.fragment) log
  | .connected address frame => PassedGate environment uid feederIp nonce address frame log

variable {environment uid feederIp nonce}

theorem Started.stays {address : UDPAddr} {opening : List (Exchange -> Prop)}
    {got : List ControlReplyKey} {fragments : List MediaFragment} {log : List Exchange}
    (started : Started environment uid nonce address opening got fragments log)
    (more : List Exchange) :
    Started environment uid nonce address opening got fragments (log ++ more) := by
  obtain ⟨before, after, rfl, notYet, passed, watched⟩ := started
  exact ⟨before, after ++ more, List.append_assoc _ _ _, notYet, passed,
    watched.of_sublist (List.sublist_append_left _ _)⟩

theorem Started.grow {address : UDPAddr} {opening : List (Exchange -> Prop)}
    {got : List ControlReplyKey} {fragments : List MediaFragment} {log : List Exchange}
    (started : Started environment uid nonce address opening got fragments log)
    {fragment : MediaFragment} {exchange : Exchange}
    (received : FragmentReceived environment nonce fragment exchange) :
    Started environment uid nonce address opening got (fragments ++ [fragment])
      (log ++ [exchange]) := by
  obtain ⟨before, after, rfl, notYet, passed, watched⟩ := started
  refine ⟨before, after ++ [exchange], List.append_assoc _ _ _, notYet, passed, ?_⟩
  have longer := watched.append (milestones_singleton received)
  rw [watching, List.map_append]
  exact longer

theorem Started.thin {address : UDPAddr} {opening : List (Exchange -> Prop)}
    {got : List ControlReplyKey} {fewer fragments : List MediaFragment} {log : List Exchange}
    (started : Started environment uid nonce address opening got fragments log)
    (within : fewer.Sublist fragments) :
    Started environment uid nonce address opening got fewer log := by
  obtain ⟨before, after, same, notYet, passed, watched⟩ := started
  exact ⟨before, after, same, notYet, passed, watched.thin ((within.map _).cons_cons _)⟩

/-- More may be written while an attempt stays in its phase. -/
theorem Reached.stays {log : List Exchange} {media : MediaReceiver} {phase : ConnectPhase}
    (reached : Reached environment uid feederIp nonce log media phase) {more : List Exchange}
    (quiet : NotStarted environment nonce more) :
    Reached environment uid feederIp nonce (log ++ more) media phase := by
  have within := List.sublist_append_left log more
  cases phase with
  | unicast ipv4 => exact ⟨reached.1, reached.2.append quiet⟩
  | broadcast => exact ⟨reached.1.of_sublist within, reached.2.append quiet⟩
  | login address =>
      obtain ⟨opening, found, passed, notYet⟩ := reached
      exact ⟨opening, found, passed.of_sublist within, notYet.append quiet⟩
  | replies address expected =>
      obtain ⟨opening, got, found, perm, empty, passed, notYet⟩ := reached
      exact ⟨opening, got, found, perm, empty, passed.of_sublist within, notYet.append quiet⟩
  | video address =>
      obtain ⟨opening, got, history, found, perm, run, started⟩ := reached
      exact ⟨opening, got, history, found, perm, run, started.stays more⟩
  | connected address frame =>
      obtain ⟨opening, got, early, last, found, perm, complete, started⟩ := reached
      exact ⟨opening, got, early, last, found, perm, complete, started.stays more⟩

/-- A reply takes the place of the command it was expected for. -/
theorem replies_erase {opening : List (Exchange -> Prop)} {address : UDPAddr}
    {got expected : List ControlReplyKey} {key : ControlReplyKey} {log : List Exchange}
    {exchange : Exchange} (perm : (got ++ expected).Perm [streamReply, formatReply])
    (received : ReplyReceived environment nonce key exchange)
    (passed : Milestones (opening ++ replying environment uid nonce address got) log) :
    exists more, (more ++ expected.erase key).Perm [streamReply, formatReply] ∧
      Milestones (opening ++ replying environment uid nonce address more) (log ++ [exchange]) := by
  by_cases awaited : key ∈ expected
  · refine ⟨got ++ [key], ?_, ?_⟩
    · rw [List.append_assoc]
      exact ((List.perm_cons_erase awaited).symm.append_left got).trans perm
    · have longer := passed.append (milestones_singleton received)
      simp only [replying, List.map_append, List.map_cons, List.map_nil, List.append_assoc,
        List.cons_append] at longer ⊢
      exact longer
  · refine ⟨got, ?_, passed.of_sublist (List.sublist_append_left _ _)⟩
    rw [List.erase_of_not_mem awaited]
    exact perm

section Steps

variable {connector : DirectConnector} {log : List Exchange} {state : Dialogue}
  {after : ConnectPhase}
  (undone : forall packet, environment.transform.reverseTransCodePartial
    (environment.transform.transCodePartial packet) = packet)

theorem notStarted_received (arrival : Arrival) {more : List Exchange}
    (quiet : NotStarted environment nonce more) :
    NotStarted environment nonce (.received arrival :: more) :=
  List.forall_mem_cons.mpr ⟨not_isStart_received arrival, quiet⟩

include undone

theorem reached_unicast {ipv4 : IP} {arrival : Arrival}
    (reached : Reached environment uid feederIp nonce log state.session.media (.unicast ipv4))
    (succeeds : (turn environment connector uid nonce arrival (.unicast ipv4) state).result =
      .ok after) :
    Reached environment uid feederIp nonce
      (log ++ (turn environment connector uid nonce arrival (.unicast ipv4) state).log)
      (turn environment connector uid nonce arrival (.unicast ipv4) state).state.session.media
      after := by
  obtain ⟨-, -, later, -, -⟩ := bind_eq_ok succeeds
  cases arrival with
  | error text =>
      cases returns_unicastFailed _ _ _ later
      have begun := (passes_unicastFailed _ _ _ later).of_sublist
        (List.sublist_append_right [.received (.error text)] _)
      have quiet := @unstarted_unicastFailed environment uid nonce undone connector
        (.discoveryReceive text) state
      exact ⟨begun.of_sublist (List.sublist_append_right log _),
        reached.2.append (notStarted_received _ quiet)⟩
  | packet bytes peer =>
      have quiet := @unstarted_discoverTurn environment uid nonce undone (some ipv4) bytes peer
        (.unicast ipv4) state
      rcases discoverTurn_cases later with rfl | ⟨address, ip, rfl, known, source, passed⟩
      · exact reached.stays (notStarted_received _ quiet)
      · refine ⟨[], Or.inl ⟨rfl, ipv4, ip, reached.1, known, source ipv4 rfl⟩, ?_,
          reached.2.append (notStarted_received _ quiet)⟩
        exact passed.of_sublist (List.sublist_append_right log _)

theorem reached_broadcast {arrival : Arrival}
    (reached : Reached environment uid feederIp nonce log state.session.media .broadcast)
    (succeeds : (turn environment connector uid nonce arrival .broadcast state).result =
      .ok after) :
    Reached environment uid feederIp nonce
      (log ++ (turn environment connector uid nonce arrival .broadcast state).log)
      (turn environment connector uid nonce arrival .broadcast state).state.session.media
      after := by
  obtain ⟨-, -, later, -, -⟩ := bind_eq_ok succeeds
  cases arrival with
  | error text => cases later
  | packet bytes peer =>
      have quiet := @unstarted_discoverTurn environment uid nonce undone none bytes peer
        .broadcast state
      rcases discoverTurn_cases later with rfl | ⟨address, ip, rfl, known, source, passed⟩
      · exact reached.stays (notStarted_received _ quiet)
      · exact ⟨[BroadcastBegun], Or.inr rfl, reached.1.append passed,
          reached.2.append (notStarted_received _ quiet)⟩

theorem reached_login {address : UDPAddr} {arrival : Arrival}
    (reached : Reached environment uid feederIp nonce log state.session.media (.login address))
    (succeeds : (turn environment connector uid nonce arrival (.login address) state).result =
      .ok after) :
    Reached environment uid feederIp nonce
      (log ++ (turn environment connector uid nonce arrival (.login address) state).log)
      (turn environment connector uid nonce arrival (.login address) state).state.session.media
      after := by
  obtain ⟨-, -, later, -, -⟩ := bind_eq_ok succeeds
  cases arrival with
  | error text => cases later
  | packet bytes peer =>
      have quiet := @unstarted_loginTurn environment nonce address undone bytes state
      rcases loginTurn_cases later with rfl | ⟨rfl, media, response, decoded⟩
      · exact reached.stays (notStarted_received _ quiet)
      · obtain ⟨opening, found, passed, notYet⟩ := reached
        refine ⟨opening, [], found, List.Perm.refl _, media, ?_,
          notYet.append (notStarted_received _ quiet)⟩
        have accepted : Milestones [LoginAccepted environment nonce]
            [.received (.packet bytes peer)] :=
          milestones_singleton ⟨bytes, peer, response, rfl, decoded⟩
        have longer := passed.append (accepted.append (milestones_nil
          (loginTurn environment nonce address bytes state).log))
        rw [List.append_assoc] at longer
        exact longer

theorem reached_replies {address : UDPAddr} {expected : List ControlReplyKey} {arrival : Arrival}
    (reached : Reached environment uid feederIp nonce log state.session.media
      (.replies address expected))
    (succeeds : (turn environment connector uid nonce arrival (.replies address expected)
      state).result = .ok after) :
    Reached environment uid feederIp nonce
      (log ++ (turn environment connector uid nonce arrival (.replies address expected) state).log)
      (turn environment connector uid nonce arrival (.replies address expected)
        state).state.session.media after := by
  obtain ⟨-, -, later, -, -⟩ := bind_eq_ok succeeds
  cases arrival with
  | error text => cases later
  | packet bytes peer =>
      have media : (turn environment connector uid nonce (.packet bytes peer)
          (.replies address expected) state).state.session.media = state.session.media :=
        keepsMedia_sends.controlReplyTurn expected bytes state
      rw [media]
      rcases controlReplyTurn_cases undone later with
        ⟨rfl, quiet⟩ | ⟨inner, key, decoded, parsed, goesOn⟩
      · exact reached.stays (notStarted_received _ quiet)
      · obtain ⟨opening, got, found, perm, empty, passed, notYet⟩ := reached
        have received : ReplyReceived environment nonce key (.received (.packet bytes peer)) :=
          ⟨bytes, peer, inner, rfl, decoded, parsed⟩
        obtain ⟨more, morePerm, longer⟩ := replies_erase perm received passed
        rcases goesOn with ⟨rfl, quiet⟩ | ⟨rfl, all, first, rest, split, quiet, started⟩
        · refine ⟨opening, more, found, morePerm, empty, ?_,
            notYet.append (notStarted_received _ quiet)⟩
          have within := longer.of_sublist (List.sublist_append_left _
            (controlReplyTurn environment nonce address expected bytes state).log)
          rw [List.append_assoc] at within
          exact within
        · -- What the turn has sent before it starts the stream comes after the reply.
          rw [all, List.append_nil] at morePerm
          refine ⟨opening, more, [], found, morePerm, empty,
            log ++ .received (.packet bytes peer) :: first, rest, ?_,
            notYet.append (notStarted_received _ quiet), ?_, started⟩
          · have whole : (turn environment connector uid nonce (.packet bytes peer)
                (.replies address expected) state).log =
                .received (.packet bytes peer) :: (first ++ rest) :=
              congrArg (Exchange.received (.packet bytes peer) :: ·) split
            rw [whole, List.append_assoc, List.cons_append]
          · have within := longer.of_sublist (List.sublist_append_left _ first)
            rw [List.append_assoc] at within
            exact within

omit undone in
/-- A packet that is handed over may complete the first frame. -/
theorem reached_handedOver {address : UDPAddr} {bytes : Packet} {peer : Option UDPAddr}
    {before : Dialogue} (more : List Exchange)
    (reached : Reached environment uid feederIp nonce log before.session.media (.video address))
    (succeeds : (mediaTurn environment nonce address
      (environment.transform.reverseTransCodePartial bytes) before).result = .ok after) :
    Reached environment uid feederIp nonce (log ++ .received (.packet bytes peer) :: more)
      (mediaTurn environment nonce address (environment.transform.reverseTransCodePartial bytes)
        before).state.session.media after := by
  obtain ⟨opening, got, history, found, perm, run, started⟩ := reached
  -- The fragment of this packet, whatever becomes of it.
  have longer : forall {delivery : Delivery},
      decodeMediaFragment (environment.transform.reverseTransCodePartial bytes) nonce =
        .ok (some delivery.fragment) ->
      Started environment uid nonce address opening got
        ((history ++ [delivery]).map Delivery.fragment)
        (log ++ .received (.packet bytes peer) :: more) := by
    intro delivery decoded
    have grown := @Started.grow _ _ _ _ _ _ _ _ started delivery.fragment
      (.received (.packet bytes peer)) ⟨bytes, peer, rfl, decoded⟩
    have stays := grown.stays more
    rw [List.append_assoc] at stays
    rw [List.map_append]
    exact stays
  obtain ⟨now, ⟨frame, handled, rfl⟩ | ⟨noFrame, rfl, media⟩⟩ := mediaTurn_cases succeeds
  · rw [run] at handled
    obtain ⟨fragment, data, decoded, video, returned, stripped, unit⟩ :=
      handlePacket_of_frame handled
    have completes := completes_of_returns (wellKept_run history) returned
    obtain ⟨early, within, complete⟩ := completeWith_of_completes completes video stripped unit
    exact ⟨opening, got, early, fragment, found, perm, complete, (longer decoded).thin within⟩
  · rw [media]
    rw [run] at noFrame ⊢
    rcases handlePacket_of_no_frame noFrame with same | ⟨fragment, decoded, next⟩
    · rw [same]
      exact ⟨opening, got, history, found, perm, rfl, started.stays _⟩
    · rw [next]
      exact ⟨opening, got, history ++ [⟨fragment, now⟩], found, perm,
        (run_concat {} history ⟨fragment, now⟩).symm, longer decoded⟩

omit undone in
theorem reached_video {address : UDPAddr} {arrival : Arrival}
    (reached : Reached environment uid feederIp nonce log state.session.media (.video address))
    (succeeds : (turn environment connector uid nonce arrival (.video address) state).result =
      .ok after) :
    Reached environment uid feederIp nonce
      (log ++ (turn environment connector uid nonce arrival (.video address) state).log)
      (turn environment connector uid nonce arrival (.video address) state).state.session.media
      after := by
  cases arrival with
  | error text => cases succeeds
  | packet bytes peer =>
      have later : (videoTurn environment nonce address bytes state).result = .ok after := succeeds
      have reachedState : (turn environment connector uid nonce (.packet bytes peer)
          (.video address) state).state = (videoTurn environment nonce address bytes state).state :=
        rfl
      rw [reachedState]
      rcases handsOver_videoTurn later with ⟨rfl, media⟩ | ⟨middle, media, handed, same⟩
      · obtain ⟨opening, got, history, found, perm, run, started⟩ := reached
        exact ⟨opening, got, history, found, perm, media.trans run, started.stays _⟩
      · rw [← media] at reached
        have goesOn := @reached_handedOver environment uid feederIp nonce log after address bytes
          peer middle (videoTurn environment nonce address bytes state).log reached handed
        rw [← same] at goesOn
        exact goesOn

/-- Every turn that succeeds adds what its phase asks for. -/
theorem reached_turn {phase : ConnectPhase} {arrival : Arrival}
    (reached : Reached environment uid feederIp nonce log state.session.media phase)
    (succeeds : (turn environment connector uid nonce arrival phase state).result = .ok after) :
    Reached environment uid feederIp nonce
      (log ++ (turn environment connector uid nonce arrival phase state).log)
      (turn environment connector uid nonce arrival phase state).state.session.media after := by
  cases phase with
  | unicast ipv4 => exact reached_unicast undone reached succeeds
  | broadcast => exact reached_broadcast undone reached succeeds
  | login address => exact reached_login undone reached succeeds
  | replies address expected => exact reached_replies undone reached succeeds
  | video address => exact reached_video reached succeeds
  | connected address frame =>
      cases succeeds
      exact reached.stays (List.forall_mem_nil _)

end Steps

end Reached

/-! ## Receive errors -/

section Errors

variable {environment : ConnectEnvironment} {connector : DirectConnector} {uid : String}
  {nonce : SessionId} {state : Dialogue}

/-- Only the search at the address of the feeder survives a receive error. -/
theorem turn_of_error {text : String} {phase after : ConnectPhase}
    (pending : forall address frame, phase ≠ .connected address frame)
    (succeeds : (turn environment connector uid nonce (.error text) phase state).result =
      .ok after) :
    (exists ipv4, phase = .unicast ipv4) ∧ after = .broadcast := by
  cases phase with
  | unicast ipv4 =>
      obtain ⟨-, -, later, -, -⟩ := bind_eq_ok succeeds
      exact ⟨⟨ipv4, rfl⟩, returns_unicastFailed _ _ _ later⟩
  | broadcast => cases succeeds
  | login address => cases succeeds
  | replies address expected => cases succeeds
  | video address => cases succeeds
  | connected address frame => exact absurd rfl (pending address frame)

/-- The search at the address of the feeder is not taken up again. -/
theorem phase_of_turn_unicast (undone : forall packet,
      environment.transform.reverseTransCodePartial
        (environment.transform.transCodePartial packet) = packet) {arrival : Arrival} {phase : ConnectPhase} {ipv4 : IP}
    (succeeds : (turn environment connector uid nonce arrival phase state).result =
      .ok (.unicast ipv4)) : phase = .unicast ipv4 := by
  cases arrival with
  | error text =>
      by_cases ended : exists address frame, phase = .connected address frame
      · obtain ⟨address, frame, rfl⟩ := ended
        cases succeeds
      · have pending : forall address frame, phase ≠ .connected address frame :=
          fun address frame same => ended ⟨address, frame, same⟩
        cases (turn_of_error pending succeeds).2
  | packet bytes peer =>
      cases phase with
      | unicast other =>
          obtain ⟨-, -, later, -, -⟩ := bind_eq_ok succeeds
          rcases discoverTurn_cases later with same | ⟨address, ip, login, -⟩
          · exact same.symm
          · cases login
      | broadcast =>
          obtain ⟨-, -, later, -, -⟩ := bind_eq_ok succeeds
          rcases discoverTurn_cases later with same | ⟨address, ip, login, -⟩
          · cases same
          · cases login
      | login address =>
          obtain ⟨-, -, later, -, -⟩ := bind_eq_ok succeeds
          rcases loginTurn_cases later with same | ⟨same, -⟩
          · cases same
          · cases same
      | replies address expected =>
          obtain ⟨-, -, later, -, -⟩ := bind_eq_ok succeeds
          rcases controlReplyTurn_cases undone later with
            ⟨same, -⟩ | ⟨inner, key, -, -, ⟨same, -⟩ | ⟨same, -⟩⟩
          · cases same
          · cases same
          · cases same
      | video address =>
          have handed : (videoTurn environment nonce address bytes state).result =
            .ok (.unicast ipv4) := succeeds
          rcases handsOver_videoTurn handed with ⟨same, -⟩ | ⟨middle, -, taken, -⟩
          · cases same
          · obtain ⟨now, ⟨frame, -, same⟩ | ⟨-, same, -⟩⟩ := mediaTurn_cases taken
            · cases same
            · cases same
      | connected address frame => cases succeeds

end Errors

/-! ## Whole attempts -/

section Attempts

variable {connector : DirectConnector} {environment : ConnectEnvironment} {uid : String}
  {feederIp : Option IP} (undone : forall packet, environment.transform.reverseTransCodePartial
    (environment.transform.transCodePartial packet) = packet)

/-- What holds of an attempt after any arrivals, of which so many were errors. -/
structure AttemptSound (environment : ConnectEnvironment) (uid : String) (feederIp : Option IP)
    (errors : Nat) (attempted : Attempted) : Prop where
  passed : forall phase, attempted.phase = .ok phase -> attempted.transport = .opened ∧
    exists nonce, environment.nonce = some nonce ∧
      Reached environment uid feederIp nonce attempted.log attempted.dialogue.session.media phase
  failed : forall error, attempted.phase = .error error -> attempted.transport ≠ .opened
  searching : forall ipv4, attempted.phase = .ok (.unicast ipv4) -> errors = 0
  pending : attempted.isOver = false -> errors ≤ 1

theorem attemptSound_of_error {error : ConnectError} {attempted : Attempted} {errors : Nat}
    (ended : attempted.phase = .error error) (closed : attempted.transport ≠ .opened) :
    AttemptSound environment uid feederIp errors attempted where
  passed := by
    intro phase same
    rw [ended] at same
    cases same
  failed _ _ := closed
  searching := by
    intro ipv4 same
    rw [ended] at same
    cases same
  pending := by
    intro same
    rw [Attempted.isOver, ended] at same
    cases same

theorem attemptSound_goOn {log : List Exchange} {errors : Nat}
    {outcome : Outcome Dialogue Exchange ConnectError ConnectPhase}
    (reached : forall phase, outcome.result = .ok phase ->
      exists nonce, environment.nonce = some nonce ∧ Reached environment uid feederIp nonce
        (log ++ outcome.log) outcome.state.session.media phase)
    (searching : forall ipv4, outcome.result = .ok (.unicast ipv4) -> errors = 0)
    (pending : (Attempted.goOn log outcome).isOver = false -> errors ≤ 1) :
    AttemptSound environment uid feederIp errors (Attempted.goOn log outcome) := by
  cases result : outcome.result with
  | error error =>
      refine @attemptSound_of_error environment uid feederIp error _ errors result ?_
      simp only [Attempted.goOn, result, ne_eq, reduceCtorEq, not_false_eq_true]
  | ok phase =>
      refine ⟨?_, ?_, searching, pending⟩
      · intro own same
        refine ⟨?_, reached own same⟩
        simp only [Attempted.goOn, result]
      · intro error same
        rw [Attempted.goOn, result] at same
        cases same

include undone in
theorem attemptSound_begin :
    AttemptSound environment uid feederIp 0 (connector.begin environment uid feederIp) := by
  unfold DirectConnector.begin
  split
  · exact attemptSound_of_error rfl nofun
  · split
    · exact attemptSound_of_error rfl nofun
    · split
      · exact attemptSound_of_error rfl nofun
      · exact attemptSound_of_error rfl nofun
      · refine attemptSound_goOn ?_ (fun _ _ => rfl) (fun _ => Nat.zero_le 1)
        intro phase succeeds
        obtain ⟨-, -, later, -, logged⟩ := bind_eq_ok succeeds
        cases known : environment.nonce with
        | none =>
            rw [known] at later
            cases later
        | some nonce =>
            simp only [known] at later logged ⊢
            refine ⟨nonce, rfl, ?_⟩
            have reports : Respects (Unstarted environment nonce) (reportSocket
                ((usableIPv4 feederIp).isSome && connector.supportsRoutedSource)) := by
              unfold reportSocket
              split
              · exact respects_bind unstarted_chained (unstarted_emit _ _ _)
                  (fun _ => unstarted_emit _ _ _)
              · exact unstarted_emit _ _ _
            have quiet := respects_bind unstarted_chained reports (fun _ =>
              @unstarted_beginDiscovery environment uid nonce undone connector feederIp) {}
            rcases beginDiscovery_cases later with ⟨ipv4, usable, rfl⟩ | ⟨rfl, begun⟩
            · exact ⟨usable, quiet⟩
            · refine ⟨?_, quiet⟩
              rw [logged, List.nil_append]
              exact begun.of_sublist (List.sublist_append_right _ _)

theorem take_of_isOver {attempted : Attempted} (ended : attempted.isOver = true)
    (arrival : Arrival) : connector.take environment uid attempted arrival = attempted := by
  unfold Attempted.isOver at ended
  unfold DirectConnector.take
  split at ended
  · next error failed => simp only [failed]
  · next address frame connected => simp only [connected]
  · cases ended

/-- A pending attempt goes on with a turn. -/
theorem take_of_pending {attempted : Attempted} {phase : ConnectPhase} {nonce : SessionId}
    (found : attempted.phase = .ok phase) (known : environment.nonce = some nonce)
    (pending : attempted.isOver = false) (arrival : Arrival) :
    (forall address frame, phase ≠ .connected address frame) ∧
    connector.take environment uid attempted arrival = Attempted.goOn attempted.log
      (turn environment connector uid nonce arrival phase attempted.dialogue) := by
  rw [Attempted.isOver, found] at pending
  rw [DirectConnector.take, found, known]
  cases phase with
  | connected address frame => cases pending
  | unicast ipv4 => exact ⟨nofun, rfl⟩
  | broadcast => exact ⟨nofun, rfl⟩
  | login address => exact ⟨nofun, rfl⟩
  | replies address expected => exact ⟨nofun, rfl⟩
  | video address => exact ⟨nofun, rfl⟩

include undone in
theorem attemptSound_take {attempted : Attempted} {errors : Nat}
    (sound : AttemptSound environment uid feederIp errors attempted) (arrival : Arrival) :
    AttemptSound environment uid feederIp (errors + if arrival.isError then 1 else 0)
      (connector.take environment uid attempted arrival) := by
  cases ended : attempted.isOver with
  | true =>
      rw [take_of_isOver ended]
      refine ⟨sound.passed, sound.failed, ?_, ?_⟩
      · intro ipv4 same
        rw [Attempted.isOver, same] at ended
        cases ended
      · intro pending
        rw [ended] at pending
        cases pending
  | false =>
      cases found : attempted.phase with
      | error error =>
          rw [Attempted.isOver, found] at ended
          cases ended
      | ok phase =>
          obtain ⟨-, nonce, known, reached⟩ := sound.passed phase found
          obtain ⟨pending, taken⟩ := @take_of_pending connector environment uid _ _ _ found known
            ended arrival
          rw [taken]
          refine attemptSound_goOn (fun after succeeds =>
            ⟨nonce, known, reached_turn undone reached succeeds⟩) ?_ ?_
          · intro ipv4 succeeds
            have searching := sound.searching ipv4
              (found.trans (congrArg Except.ok (phase_of_turn_unicast undone succeeds)))
            cases arrival with
            | packet bytes peer => exact searching
            | error text => cases (turn_of_error pending succeeds).2
          · intro goesOn
            cases arrival with
            | packet bytes peer => exact sound.pending ended
            | error text =>
                -- The attempt goes on after an error, so it was searching and this is the first.
                cases result : (turn environment connector uid nonce (.error text) phase
                    attempted.dialogue).result with
                | error error =>
                    rw [Attempted.isOver, Attempted.goOn, result] at goesOn
                    cases goesOn
                | ok after =>
                    obtain ⟨⟨ipv4, rfl⟩, -⟩ := turn_of_error pending result
                    rw [sound.searching ipv4 found]
                    exact Nat.le_refl 1

include undone in
theorem attemptSound_connect (arrivals : List Arrival) :
    AttemptSound environment uid feederIp (arrivals.countP Arrival.isError)
      (connector.connect environment uid feederIp arrivals) := by
  induction arrivals using List.reverseRecOn with
  | nil => exact attemptSound_begin undone
  | append_singleton arrivals arrival inductionHypothesis =>
      rw [DirectConnector.connect, List.foldl_append, List.countP_append, List.countP_singleton]
      exact attemptSound_take undone inductionHypothesis arrival

theorem connect_of_isOver {arrivals : List Arrival}
    (ended : (connector.connect environment uid feederIp arrivals).isOver = true)
    (more : List Arrival) :
    connector.connect environment uid feederIp (arrivals ++ more) =
      connector.connect environment uid feederIp arrivals := by
  rw [DirectConnector.connect, List.foldl_append]
  change more.foldl _ (connector.connect environment uid feederIp arrivals) = _
  generalize connector.connect environment uid feederIp arrivals = attempted at ended ⊢
  induction more with
  | nil => rfl
  | cons arrival rest inductionHypothesis =>
      rw [List.foldl_cons, take_of_isOver ended]
      exact inductionHypothesis

end Attempts

/-- What is promised of an attempt after any arrivals.  Of receive errors the search at the
address of the feeder survives one, and nothing else does. -/
structure Gated (connector : DirectConnector) (environment : ConnectEnvironment) (uid : String)
    (feederIp : Option IP) (arrivals : List Arrival) (attempted : Attempted) : Prop where
  session : forall address frame, attempted.phase = .ok (.connected address frame) ->
    attempted.transport = .opened ∧ exists nonce, environment.nonce = some nonce ∧
      PassedGate environment uid feederIp nonce address frame attempted.log
  failure : forall error, attempted.phase = .error error -> attempted.transport ≠ .opened
  ends : 2 ≤ arrivals.countP Arrival.isError -> attempted.isOver = true
  final : attempted.isOver = true -> forall more,
    connector.connect environment uid feederIp (arrivals ++ more) = attempted

/-- A session is returned only past the gate.  An attempt that ends otherwise returns an
error and has no transport open, and it does end once receives keep failing. -/
theorem session_only_past_gate (connector : DirectConnector) (environment : ConnectEnvironment)
    (undone : forall packet, environment.transform.reverseTransCodePartial
      (environment.transform.transCodePartial packet) = packet)
    (uid : String) (feederIp : Option IP) (arrivals : List Arrival) :
    Gated connector environment uid feederIp arrivals
      (connector.connect environment uid feederIp arrivals) := by
  have sound := @attemptSound_connect connector environment uid feederIp undone arrivals
  refine ⟨?_, sound.failed, ?_, connect_of_isOver⟩
  · intro address frame connected
    exact sound.passed _ connected
  · intro errors
    cases ended : (connector.connect environment uid feederIp arrivals).isOver with
    | true => rfl
    | false =>
        have few := sound.pending ended
        omega

/-! An attempt in which every send succeeds and the camera answers each time. -/

def plainNonce : SessionId := Vector.replicate 8 7

def plainEnvironment : ConnectEnvironment where
  transform := ⟨id, id⟩
  nonce := some plainNonce
  sendOk _ := true
  clock _ := 0

def plainConnector : DirectConnector where
  discoveryTargets := some [some { ip := some [255, 255, 255, 255], port := LAN_PORT }]

def plainUid : String := "ABCDEFGHJKLMNPQRST12"

def plainPeer : UDPAddr := { ip := some [10, 0, 0, 9], port := 40000 }

def plainSearchAnswer : Packet :=
  [0x04, 0x02, DEVICE_SESSION_MAGIC_VERSION, CONTROL_FLAGS] ++ putUint16 184 ++ [0, 0] ++
    putUint16 LAN_SEARCH_RESPONSE_OPCODE ++ putUint16 LAN_SEARCH_RESPONSE_SUBTYPE ++
    [0, 0, 0, 0] ++ uidBytes plainUid ++ List.replicate 164 0

/-- A packet of the device with this body. -/
def plainDevicePacket (inner : Packet) : Packet :=
  [0x04, 0x02, DEVICE_SESSION_MAGIC_VERSION, SESSION_FLAGS] ++
    putUint16 (UInt16.ofNat (inner.length + 12)) ++ [0, 0] ++ putUint16 DEVICE_SESSION_OPCODE ++
    putUint16 DEVICE_LOGIN_SUBTYPE ++ sessionID16 plainNonce ++ inner

def plainReply (key : ControlReplyKey) : Packet :=
  plainDevicePacket (encodeControlData 0 key.channel 0 (controlPayload key.controlType []))

/-- The only fragment of a frame with one unit in it. -/
def plainFragment : Packet :=
  plainDevicePacket ([0x0C, 0x01, LOGIN_COMMAND_VERSION] ++ List.replicate 13 0 ++
    [0x05, 0x01, 0, 0, 1, 0, 0, 0, 5, 0, 0, 0, 1, 0, 0, 0, 0, 0, 0, 0] ++ [0, 0, 1, 0x65, 0])

def plainArrivals : List Arrival :=
  [plainSearchAnswer,
    plainDevicePacket ([0, LOGIN_SUCCESS_COMMAND, LOGIN_COMMAND_VERSION] ++ List.replicate 57 0),
    plainReply formatReply, plainReply streamReply, plainFragment].map
      (fun bytes => .packet bytes (some plainPeer))

def plainFrame : VideoFrame where
  timestamp := 0
  keyframe := true
  data := [0, 0, 1, 0x65, 0]

/-- It returns a session, and has been through everything. -/
theorem plain_attempt_past_gate :
    (plainConnector.connect plainEnvironment plainUid none plainArrivals).phase =
        .ok (.connected plainPeer plainFrame) ∧
      exists nonce, plainEnvironment.nonce = some nonce ∧
        PassedGate plainEnvironment plainUid none nonce plainPeer plainFrame
          (plainConnector.connect plainEnvironment plainUid none plainArrivals).log := by
  have connected : (plainConnector.connect plainEnvironment plainUid none plainArrivals).phase =
      .ok (.connected plainPeer plainFrame) := by
    decide +kernel
  exact ⟨connected, ((session_only_past_gate plainConnector plainEnvironment (fun _ => rfl)
    plainUid none plainArrivals).session plainPeer plainFrame connected).2⟩

end Camera
end PetlibroRelay
