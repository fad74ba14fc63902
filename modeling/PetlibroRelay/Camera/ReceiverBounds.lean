import Mathlib.Algebra.GroupWithZero.Nat
import PetlibroRelay.Camera.CheckedPackets
import PetlibroRelay.Camera.FrameAssembly

namespace PetlibroRelay
namespace Camera

open Foundations

/-!
# What the receiver holds under any traffic

Packets of any content arrive as video or as audio, in any order and at any time.  What the
receiver is putting together stays within its three channels and its bound, and consists of
the fragments that it has accepted since it began it.  The counters agree with the frames
that were returned.

A call reads, puts its fragment to its channel, and counts a frame that is complete.
-/

/-! ## Calls -/

inductive MediaKind where
  | video
  | audio
  deriving DecidableEq, Repr

/-- The channels whose fragments a call puts together. -/
def MediaKind.channels : MediaKind -> List UInt8
  | .video => [H264_MAIN_CHANNEL, H264_SUB_CHANNEL]
  | .audio => [AAC_CHANNEL]

/-- One call of `HandlePacket` or of `HandleAudioPacket`. -/
structure MediaCall where
  kind : MediaKind
  packet : Packet
  sessionId : SessionId
  now : Int

namespace MediaCall

variable (call : MediaCall) (receiver : MediaReceiver)

/-- The fragment in the packet of a call. -/
def carried : Option MediaFragment :=
  match decodeMediaFragment call.packet call.sessionId with
  | .ok fragment => fragment
  | .error _ => none

/-- The fragment that a call puts to its channel. -/
def fragment : Option MediaFragment :=
  call.carried.filter (fun fragment => decide (fragment.channel ∈ call.kind.channels))

/-- The receiver with the fragment of the call, nothing counted yet. -/
def put : MediaReceiver :=
  match call.fragment with
  | some fragment => (receiver.assemble fragment call.now).1
  | none => receiver

/-- The receiver after a call. -/
def perform : MediaReceiver :=
  match call.kind with
  | .video => (receiver.handlePacket call.packet call.sessionId call.now).1
  | .audio => (receiver.handleAudioPacket call.packet call.sessionId call.now).1

end MediaCall

/-- The frame in what a call returns. -/
def returned {Frame : Type} : Except MediaError (Option Frame) -> List Frame
  | .ok (some frame) => [frame]
  | _ => []

namespace MediaCall

variable (call : MediaCall) (receiver : MediaReceiver)

def videoFrames : List VideoFrame :=
  match call.kind with
  | .video => returned (receiver.handlePacket call.packet call.sessionId call.now).2
  | .audio => []

def audioFrames : List AudioFrame :=
  match call.kind with
  | .video => []
  | .audio => returned (receiver.handleAudioPacket call.packet call.sessionId call.now).2

theorem put_of_none {call : MediaCall} (none : call.fragment = none) :
    call.put receiver = receiver := by
  rw [put, none]

theorem put_of_some {call : MediaCall} {fragment : MediaFragment}
    (own : call.fragment = some fragment) :
    call.put receiver = (receiver.assemble fragment call.now).1 := by
  rw [put, own]

theorem fragment_of_error {call : MediaCall} {error : MediaError}
    (decoded : decodeMediaFragment call.packet call.sessionId = .error error) :
    call.fragment = none := by
  rw [fragment, carried, decoded, Option.filter_none]

theorem fragment_of_none {call : MediaCall}
    (decoded : decodeMediaFragment call.packet call.sessionId = .ok none) :
    call.fragment = none := by
  rw [fragment, carried, decoded, Option.filter_none]

theorem fragment_of_foreign {call : MediaCall} {fragment : MediaFragment}
    (decoded : decodeMediaFragment call.packet call.sessionId = .ok (some fragment))
    (foreign : fragment.channel ∉ call.kind.channels) : call.fragment = none := by
  rw [MediaCall.fragment, carried, decoded, Option.filter_some, decide_eq_false foreign]
  rfl

theorem fragment_of_own {call : MediaCall} {fragment : MediaFragment}
    (decoded : decodeMediaFragment call.packet call.sessionId = .ok (some fragment))
    (own : fragment.channel ∈ call.kind.channels) : call.fragment = some fragment := by
  rw [MediaCall.fragment, carried, decoded, Option.filter_some, decide_eq_true own]
  rfl

end MediaCall

/-! ## Counters -/

/-- The counters have moved on by these frames. -/
structure Counted (before after : MediaStats) (video : List VideoFrame) (audio : List AudioFrame) :
    Prop where
  frames : after.framesReceived = before.framesReceived + UInt64.ofNat video.length
  bytes : after.bytesReceived =
    before.bytesReceived + UInt64.ofNat (video.map (fun frame => frame.data.length)).sum
  audioFrames : after.audioFramesReceived =
    before.audioFramesReceived + UInt64.ofNat audio.length
  audioBytes : after.audioBytesReceived =
    before.audioBytesReceived + UInt64.ofNat (audio.map (fun frame => frame.data.length)).sum

theorem counted_none (stats : MediaStats) : Counted stats stats [] [] where
  frames := (UInt64.add_zero _).symm
  bytes := (UInt64.add_zero _).symm
  audioFrames := (UInt64.add_zero _).symm
  audioBytes := (UInt64.add_zero _).symm

/-- The counters after one video frame. -/
theorem counted_video {before after : MediaStats} {frame : VideoFrame}
    (frames : after.framesReceived = before.framesReceived + 1)
    (bytes : after.bytesReceived = before.bytesReceived + UInt64.ofNat frame.data.length)
    (audioFrames : after.audioFramesReceived = before.audioFramesReceived)
    (audioBytes : after.audioBytesReceived = before.audioBytesReceived) :
    Counted before after [frame] [] where
  frames := frames
  bytes := by rw [List.map_singleton, List.sum_singleton, bytes]
  audioFrames := audioFrames.trans (UInt64.add_zero _).symm
  audioBytes := audioBytes.trans (UInt64.add_zero _).symm

/-- The counters after one audio frame. -/
theorem counted_audio {before after : MediaStats} {frame : AudioFrame}
    (audioFrames : after.audioFramesReceived = before.audioFramesReceived + 1)
    (audioBytes :
      after.audioBytesReceived = before.audioBytesReceived + UInt64.ofNat frame.data.length)
    (frames : after.framesReceived = before.framesReceived)
    (bytes : after.bytesReceived = before.bytesReceived) : Counted before after [] [frame] where
  frames := frames.trans (UInt64.add_zero _).symm
  bytes := bytes.trans (UInt64.add_zero _).symm
  audioFrames := audioFrames
  audioBytes := by rw [List.map_singleton, List.sum_singleton, audioBytes]

theorem Counted.append {first middle last : MediaStats} {video moreVideo : List VideoFrame}
    {audio moreAudio : List AudioFrame} (early : Counted first middle video audio)
    (late : Counted middle last moreVideo moreAudio) :
    Counted first last (video ++ moreVideo) (audio ++ moreAudio) where
  frames := by
    rw [late.frames, early.frames, List.length_append, UInt64.ofNat_add, UInt64.add_assoc]
  bytes := by
    rw [late.bytes, early.bytes, List.map_append, List.sum_append, UInt64.ofNat_add,
      UInt64.add_assoc]
  audioFrames := by
    rw [late.audioFrames, early.audioFrames, List.length_append, UInt64.ofNat_add,
      UInt64.add_assoc]
  audioBytes := by
    rw [late.audioBytes, early.audioBytes, List.map_append, List.sum_append, UInt64.ofNat_add,
      UInt64.add_assoc]

/-! ## What a call does -/

/-- A call puts its fragment to its channel, if it has one, and counts what it returns. -/
structure Performs {Frame : Type} (receiver : MediaReceiver) (call : MediaCall)
    (counts : MediaStats -> MediaStats -> List Frame -> Prop)
    (result : MediaReceiver × Except MediaError (Option Frame)) : Prop where
  moved : exists stats, result.1 = { call.put receiver with stats := stats }
  counted : counts receiver.stats result.1.stats (returned result.2)

/-- A call that returns no frame. -/
theorem performs_quietly {Frame : Type} {receiver after : MediaReceiver} {call : MediaCall}
    {counts : MediaStats -> MediaStats -> List Frame -> Prop}
    {answer : Except MediaError (Option Frame)}
    (nothing : counts receiver.stats receiver.stats []) (moved : call.put receiver = after)
    (same : after.stats = receiver.stats) (quiet : returned answer = []) :
    Performs receiver call counts (after, answer) where
  moved := ⟨after.stats, by rw [moved]⟩
  counted := by
    rw [quiet, same]
    exact nothing

/-- A call without a fragment for its channel. -/
theorem performs_ignored {Frame : Type} {receiver : MediaReceiver} {call : MediaCall}
    {counts : MediaStats -> MediaStats -> List Frame -> Prop}
    {answer : Except MediaError (Option Frame)}
    (nothing : counts receiver.stats receiver.stats []) (ignored : call.fragment = none)
    (quiet : returned answer = []) : Performs receiver call counts (receiver, answer) :=
  performs_quietly nothing (MediaCall.put_of_none receiver ignored) rfl quiet

theorem mem_channels_video (channel : UInt8) :
    channel ∈ MediaKind.video.channels ↔
      ¬ (channel ≠ H264_MAIN_CHANNEL ∧ channel ≠ H264_SUB_CHANNEL) := by
  rw [MediaKind.channels, List.mem_cons, List.mem_singleton, not_and_or, not_not, not_not]

theorem performs_handlePacket {receiver : MediaReceiver} (kept : receiver.WellKept)
    (packet : Packet) (sessionId : SessionId) (now : Int) :
    Performs receiver ⟨.video, packet, sessionId, now⟩
      (fun before after frames => Counted before after frames [])
      (receiver.handlePacket packet sessionId now) := by
  have nothing := counted_none receiver.stats
  rw [MediaReceiver.handlePacket]
  cases decoded : decodeMediaFragment packet sessionId with
  | error error =>
      exact performs_ignored nothing (MediaCall.fragment_of_error decoded) rfl
  | ok carried =>
      cases carried with
      | none =>
          exact performs_ignored nothing (MediaCall.fragment_of_none decoded) rfl
      | some fragment =>
          dsimp only
          split
          · next other =>
              have foreign := (mem_channels_video fragment.channel).not.mpr (not_not_intro other)
              exact performs_ignored nothing (MediaCall.fragment_of_foreign decoded foreign) rfl
          · next own =>
              have moved := MediaCall.put_of_some receiver (@MediaCall.fragment_of_own
                ⟨.video, packet, sessionId, now⟩ fragment decoded
                ((mem_channels_video fragment.channel).mpr own))
              have same := (MediaReceiver.assembles_assemble kept fragment now).stats
              revert moved same
              dsimp only
              obtain ⟨after, result⟩ := receiver.assemble fragment now
              intro moved same
              cases result with
              | error error => exact performs_quietly nothing moved same rfl
              | ok complete =>
                  cases complete with
                  | none => exact performs_quietly nothing moved same rfl
                  | some complete =>
                      dsimp only
                      split
                      · refine ⟨⟨_, by rw [moved]⟩, ?_⟩
                        rw [← same]
                        exact counted_video rfl rfl rfl rfl
                      · exact performs_quietly nothing moved same rfl

theorem performs_handleAudioPacket {receiver : MediaReceiver} (kept : receiver.WellKept)
    (packet : Packet) (sessionId : SessionId) (now : Int) :
    Performs receiver ⟨.audio, packet, sessionId, now⟩
      (fun before after frames => Counted before after [] frames)
      (receiver.handleAudioPacket packet sessionId now) := by
  have nothing := counted_none receiver.stats
  rw [MediaReceiver.handleAudioPacket]
  cases decoded : decodeMediaFragment packet sessionId with
  | error error =>
      exact performs_ignored nothing (MediaCall.fragment_of_error decoded) rfl
  | ok carried =>
      cases carried with
      | none =>
          exact performs_ignored nothing (MediaCall.fragment_of_none decoded) rfl
      | some fragment =>
          dsimp only
          split
          · next other =>
              have foreign : fragment.channel ∉ MediaKind.audio.channels :=
                List.mem_singleton.not.mpr other
              exact performs_ignored nothing (MediaCall.fragment_of_foreign decoded foreign) rfl
          · next own =>
              have moved := MediaCall.put_of_some receiver (@MediaCall.fragment_of_own
                ⟨.audio, packet, sessionId, now⟩ fragment decoded
                (List.mem_singleton.mpr (Decidable.not_not.mp own)))
              have same := (MediaReceiver.assembles_assemble kept fragment now).stats
              revert moved same
              dsimp only
              obtain ⟨after, result⟩ := receiver.assemble fragment now
              intro moved same
              cases result with
              | error error => exact performs_quietly nothing moved same rfl
              | ok complete =>
                  cases complete with
                  | none => exact performs_quietly nothing moved same rfl
                  | some complete =>
                      dsimp only
                      split
                      · exact performs_quietly nothing moved same rfl
                      · refine ⟨⟨_, by rw [moved]⟩, ?_⟩
                        rw [← same]
                        exact counted_audio rfl rfl rfl rfl

/-- What a call does to the receiver. -/
structure Performed (receiver : MediaReceiver) (call : MediaCall) : Prop where
  moved : exists stats, call.perform receiver = { call.put receiver with stats := stats }
  counted : Counted receiver.stats (call.perform receiver).stats (call.videoFrames receiver)
    (call.audioFrames receiver)

theorem performed {receiver : MediaReceiver} (kept : receiver.WellKept) (call : MediaCall) :
    Performed receiver call := by
  obtain ⟨kind, packet, sessionId, now⟩ := call
  cases kind with
  | video =>
      have performs := performs_handlePacket kept packet sessionId now
      exact ⟨performs.moved, performs.counted⟩
  | audio =>
      have performs := performs_handleAudioPacket kept packet sessionId now
      exact ⟨performs.moved, performs.counted⟩

/-! ## Accepted fragments -/

namespace ChannelState

variable (state : ChannelState) (fragment : MediaFragment) (now : Int)

/-- The fragment is new and fits into what it is put to. -/
def Accepts : Prop :=
  state.isDuplicate fragment.subsequence = false ∧
    ¬ (state.assemblyFor fragment now).refuses fragment ∧
    fragment.subsequence ∉ (state.assemblyFor fragment now).seenSubsequences

instance : Decidable (state.Accepts fragment now) :=
  inferInstanceAs (Decidable (_ ∧ ¬ (_ ∨ _) ∧ _))

/-- The accepted fragments of what the channel holds, with the next fragment. -/
def acceptedWith (accepted : List MediaFragment) : List MediaFragment :=
  if state.Accepts fragment now then
    match state.joins fragment now with
    | some _ => accepted ++ [fragment]
    | none => [fragment]
  else accepted

end ChannelState

/-- What is put together on a channel stays within its bound and consists of the fragments
that were accepted for it. -/
structure Held (channel : UInt8) (assembly : MediaAssembly) (accepted : List MediaFragment) :
    Prop where
  known : channel ∈ [AAC_CHANNEL, H264_MAIN_CHANNEL, H264_SUB_CHANNEL]
  bounded : assembly.data.length ≤ MAX_MEDIA_FRAME_BYTES
  built : BuiltFrom channel assembly accepted

/-- The step lemma of one channel. -/
theorem held_of_takes {state after : ChannelState} {fragment : MediaFragment} {now : Int}
    {result : Except MediaError (Option Packet)} {accepted : List MediaFragment}
    (known : fragment.channel ∈ [AAC_CHANNEL, H264_MAIN_CHANNEL, H264_SUB_CHANNEL])
    (before : forall assembly, state.assembly = some assembly ->
      Held fragment.channel assembly accepted)
    (takes : Takes state fragment now after result) (assembly : MediaAssembly)
    (found : after.assembly = some assembly) :
    Held fragment.channel assembly (state.acceptedWith fragment now accepted) := by
  cases takes with
  | duplicate duplicate =>
      rw [ChannelState.acceptedWith,
        if_neg (fun accepts => Bool.eq_false_iff.mp accepts.1 duplicate)]
      exact before assembly (ChannelState.assembly_of_expire found)
  | refused fresh refuses => cases found
  | repeated fresh fits seen =>
      rw [ChannelState.acceptedWith, if_neg (fun accepts => accepts.2.2 seen)]
      cases joins : state.joins fragment now with
      | none =>
          rw [ChannelState.assemblyFor_of_begins joins] at seen
          cases seen
      | some own =>
          rw [ChannelState.assemblyFor_of_joins joins] at found
          cases found
          exact before _ (ChannelState.joins_eq_some joins).1
  | grown fresh fits new goesOn =>
      rw [ChannelState.acceptedWith, if_pos ⟨fresh, fits, new⟩]
      obtain ⟨count, room⟩ := not_or.mp fits
      have count := Decidable.not_not.mp count
      have within := Nat.le_of_not_lt room
      cases joins : state.joins fragment now with
      | none =>
          rw [ChannelState.assemblyFor_of_begins joins] at found within
          cases found
          refine ⟨known, ?_, (builtFrom_anew fragment now).grow rfl rfl List.not_mem_nil⟩
          rw [MediaAssembly.grow_data, List.length_append]
          exact within
      | some own =>
          rw [ChannelState.assemblyFor_of_joins joins] at found within new count
          cases found
          obtain ⟨held, -, number⟩ := ChannelState.joins_eq_some joins
          refine ⟨known, ?_, (before own held).built.grow number.symm count.symm new⟩
          rw [MediaAssembly.grow_data, List.length_append]
          exact within
  | incomplete fresh fits new ends missing => cases found
  | complete fresh fits new ends all => cases found

/-! ## Runs -/

/-- What was accepted and returned in a run.  Fragments are kept by channel. -/
structure ReceiverLog where
  accepted : UInt8 -> List MediaFragment := fun _ => []
  video : List VideoFrame := []
  audio : List AudioFrame := []

def ReceiverLog.note (log : ReceiverLog) (receiver : MediaReceiver) (call : MediaCall) :
    ReceiverLog where
  accepted :=
    match call.fragment with
    | some fragment =>
        Function.update log.accepted fragment.channel
          ((receiver.channel fragment.channel).acceptedWith fragment call.now
            (log.accepted fragment.channel))
    | none => log.accepted
  video := log.video ++ call.videoFrames receiver
  audio := log.audio ++ call.audioFrames receiver

/-- A receiver that gets packets of any content, as video or as audio, at any time. -/
def mediaMachine : Machine (MediaReceiver × ReceiverLog) MediaCall :=
  (Machine.mk (fun receiver call => some (call.perform receiver))).watched ReceiverLog.note

/-- What the receiver holds is bounded and traced, and its counters agree with its frames. -/
structure Consistent (receiver : MediaReceiver) (log : ReceiverLog) : Prop where
  kept : receiver.WellKept
  held : forall entry, entry ∈ receiver.assemblies ->
    Held entry.1 entry.2 (log.accepted entry.1)
  counted : Counted {} receiver.stats log.video log.audio

theorem MediaCall.channels_known {call : MediaCall} {fragment : MediaFragment}
    (own : call.fragment = some fragment) :
    fragment.channel ∈ [AAC_CHANNEL, H264_MAIN_CHANNEL, H264_SUB_CHANNEL] := by
  have taken := of_decide_eq_true (Option.filter_eq_some_iff.mp own).2
  cases kind : call.kind with
  | video =>
      rw [kind] at taken
      exact List.mem_cons_of_mem _ taken
  | audio =>
      rw [kind] at taken
      exact List.mem_cons.mpr (Or.inl (List.mem_singleton.mp taken))

/-- The entries of the channels, after a fragment was put to its channel. -/
theorem held_put {receiver : MediaReceiver} {log : ReceiverLog} (kept : receiver.WellKept)
    (held : forall entry, entry ∈ receiver.assemblies ->
      Held entry.1 entry.2 (log.accepted entry.1))
    (call : MediaCall) {entry : UInt8 × MediaAssembly}
    (member : entry ∈ (call.put receiver).assemblies) :
    Held entry.1 entry.2 ((log.note receiver call).accepted entry.1) := by
  cases own : call.fragment with
  | none =>
      rw [MediaCall.put_of_none receiver own] at member
      rw [ReceiverLog.note, own]
      exact held entry member
  | some fragment =>
      have assembles := MediaReceiver.assembles_assemble kept fragment call.now
      rw [MediaCall.put_of_some receiver own] at member
      have found := Dict.get?_eq_some_of_mem assembles.kept member
      rw [ReceiverLog.note, own]
      dsimp only
      by_cases same : entry.1 = fragment.channel
      · rw [same] at found ⊢
        rw [Function.update_self]
        exact held_of_takes (MediaCall.channels_known own)
          (fun assembly before => held (_, assembly) (Dict.mem_of_get?_eq_some before))
          assembles.own entry.2 found
      · rw [Function.update_of_ne same]
        have before := congrArg ChannelState.assembly (assembles.others entry.1 same)
        exact held entry (Dict.mem_of_get?_eq_some
          (ChannelState.assembly_of_expire (before.symm.trans found)))

theorem wellKept_put {receiver : MediaReceiver} (kept : receiver.WellKept) (call : MediaCall) :
    (call.put receiver).WellKept := by
  cases own : call.fragment with
  | none =>
      rw [MediaCall.put_of_none receiver own]
      exact kept
  | some fragment =>
      rw [MediaCall.put_of_some receiver own]
      exact (MediaReceiver.assembles_assemble kept fragment call.now).kept

/-- The step lemma. -/
theorem consistent_perform {receiver : MediaReceiver} {log : ReceiverLog}
    (consistent : Consistent receiver log) (call : MediaCall) :
    Consistent (call.perform receiver) (log.note receiver call) := by
  obtain ⟨⟨stats, moved⟩, counted⟩ := performed consistent.kept call
  refine ⟨?_, ?_, consistent.counted.append counted⟩
  · rw [moved]
    exact wellKept_put consistent.kept call
  · intro entry member
    rw [moved] at member
    exact held_put consistent.kept consistent.held call member

theorem consistent_run (calls : List MediaCall) :
    Consistent (mediaMachine.run ({}, {}) calls).1 (mediaMachine.run ({}, {}) calls).2 := by
  refine mediaMachine.run_invariant (fun state => Consistent state.1 state.2) ?_ ({}, {}) calls
    ⟨List.nodup_nil, nofun, counted_none {}⟩
  intro state call after consistent moved
  obtain ⟨stepped, noted⟩ := Machine.watched_step moved
  rw [noted, ← Option.some.inj stepped]
  exact consistent_perform consistent call

/-! ## The channels stay apart -/

/-- A call changes nothing on a channel that is not the one of its packet, except that it
gives up what has been put together there for too long. -/
def LeavesOthers (receiver : MediaReceiver) (call : MediaCall) : Prop :=
  forall channel, (forall fragment, call.carried = some fragment -> channel ≠ fragment.channel) ->
    Dict.get? (call.perform receiver).assemblies channel = Dict.get? receiver.assemblies channel ∨
      exists assembly, Dict.get? receiver.assemblies channel = some assembly ∧
        isExpired assembly call.now = true ∧
        Dict.get? (call.perform receiver).assemblies channel = none

theorem expire_cases (state : ChannelState) (now : Int) :
    (state.expire now).assembly = state.assembly ∨
      exists assembly, state.assembly = some assembly ∧ isExpired assembly now = true ∧
        (state.expire now).assembly = none := by
  obtain ⟨held, last⟩ := state
  cases held with
  | none => exact Or.inl rfl
  | some assembly =>
      cases expired : isExpired assembly now with
      | false =>
          refine Or.inl ?_
          rw [ChannelState.expire, Option.filter_some, expired]
          rfl
      | true =>
          refine Or.inr ⟨assembly, rfl, expired, ?_⟩
          rw [ChannelState.expire, Option.filter_some, expired]
          rfl

theorem leavesOthers {receiver : MediaReceiver} (kept : receiver.WellKept) (call : MediaCall) :
    LeavesOthers receiver call := by
  intro channel other
  obtain ⟨⟨stats, moved⟩, -⟩ := performed kept call
  rw [moved]
  cases own : call.fragment with
  | none =>
      rw [MediaCall.put_of_none receiver own]
      exact Or.inl rfl
  | some fragment =>
      have different := other fragment (Option.filter_eq_some_iff.mp own).1
      have expired := (MediaReceiver.assembles_assemble kept fragment call.now).others channel
        different
      have same : Dict.get? (call.put receiver).assemblies channel =
          ((receiver.channel channel).expire call.now).assembly := by
        rw [MediaCall.put_of_some receiver own, ← expired]
        rfl
      rw [same]
      exact expire_cases (receiver.channel channel) call.now

/-- Every read of a call is in range. -/
def ReadsInRange (receiver : MediaReceiver) (call : MediaCall) : Prop :=
  match call.kind with
  | .video =>
      receiver.handlePacketChecked call.packet call.sessionId call.now =
        some (receiver.handlePacket call.packet call.sessionId call.now)
  | .audio =>
      receiver.handleAudioPacketChecked call.packet call.sessionId call.now =
        some (receiver.handleAudioPacket call.packet call.sessionId call.now)

theorem readsInRange (receiver : MediaReceiver) (call : MediaCall) :
    ReadsInRange receiver call := by
  obtain ⟨kind, packet, sessionId, now⟩ := call
  cases kind with
  | video => exact receiver.handlePacketChecked_eq packet sessionId now
  | audio => exact receiver.handleAudioPacketChecked_eq packet sessionId now

/-- Under any packets, taken as video or as audio at any times, the receiver reads in range,
keeps its channels within their bound and apart, and counts what it returns. -/
theorem receiver_bounded_and_consistent (calls : List MediaCall) :
    Consistent (mediaMachine.run ({}, {}) calls).1 (mediaMachine.run ({}, {}) calls).2 ∧
      forall call, ReadsInRange (mediaMachine.run ({}, {}) calls).1 call ∧
        LeavesOthers (mediaMachine.run ({}, {}) calls).1 call :=
  ⟨consistent_run calls, fun call =>
    ⟨readsInRange _ call, leavesOthers (consistent_run calls).kept call⟩⟩

end Camera
end PetlibroRelay
