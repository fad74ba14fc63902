import PetlibroRelay.Camera.MediaReceiver
import PetlibroRelay.Foundations.CheckedReads

namespace PetlibroRelay
namespace Camera

open Foundations

/-!
# Media packets, read by index

The functions that take media packets apart, with every read by an index that is computed
and that may be out of range, in the order in which the source makes them.  None of them
ever reads out of range, and they return what the functions return that carry the proofs of
their bounds.
-/

/-! ## Numbers -/

def readUint16 (packet : Packet) (first : Nat) : Option UInt16 :=
  packet[first]?.bind (fun low => packet[first + 1]?.map (fun high =>
    UInt16.ofNat (low.toNat + 256 * high.toNat)))

def readUint32 (packet : Packet) (first : Nat) : Option UInt32 :=
  packet[first]?.bind (fun low => packet[first + 1]?.bind (fun second =>
    packet[first + 2]?.bind (fun third => packet[first + 3]?.map (fun high =>
      UInt32.ofNat (low.toNat + 256 * second.toNat + 65536 * third.toNat +
        16777216 * high.toNat)))))

theorem readUint16_of_le {packet : Packet} {first : Nat} (within : first + 2 ≤ packet.length) :
    readUint16 packet first = some (uint16At packet first within) := by
  rw [readUint16, List.getElem?_eq_getElem (by omega : first < packet.length),
    List.getElem?_eq_getElem (by omega : first + 1 < packet.length)]
  rfl

theorem readUint32_of_le {packet : Packet} {first : Nat} (within : first + 4 ≤ packet.length) :
    readUint32 packet first = some (uint32At packet first within) := by
  rw [readUint32, List.getElem?_eq_getElem (by omega : first < packet.length),
    List.getElem?_eq_getElem (by omega : first + 1 < packet.length),
    List.getElem?_eq_getElem (by omega : first + 2 < packet.length),
    List.getElem?_eq_getElem (by omega : first + 3 < packet.length)]
  rfl

theorem readSlice_eq_slice {packet : Packet} {first last : Nat} (ordered : first ≤ last)
    (within : last ≤ packet.length) :
    readSlice packet first last = some (slice packet first last within) :=
  readSlice_of_le ordered within

/-! ## Packets of the session -/

def decodeDeviceSessionChecked (packet : Packet) (sessionId : SessionId) :
    Option (Option Packet) := do
  let valid ← allChecks [some (decide (28 ≤ packet.length)), readIs packet 0 0x04,
    readIs packet 1 0x02, readIs packet 2 DEVICE_SESSION_MAGIC_VERSION,
    readIs packet 3 SESSION_FLAGS,
    (readUint16 packet 4).map (fun length => decide (length = UInt16.ofNat (packet.length - 16))),
    (readUint16 packet 8).map (fun opcode => decide (opcode = DEVICE_SESSION_OPCODE)),
    (readUint16 packet 10).map (fun subtype => decide (subtype = DEVICE_LOGIN_SUBTYPE)),
    (readSlice packet 12 28).map (fun named => decide (named = sessionID16 sessionId))]
  if valid then (readSlice packet 28 packet.length).map some else some none

theorem decodeDeviceSessionChecked_eq (packet : Packet) (sessionId : SessionId) :
    decodeDeviceSessionChecked packet sessionId = some (decodeDeviceSession packet sessionId) := by
  rw [decodeDeviceSessionChecked, decodeDeviceSession]
  by_cases long : 28 ≤ packet.length
  · rw [dif_pos long, readIs_of_lt (by omega : 0 < packet.length),
      readIs_of_lt (by omega : 1 < packet.length), readIs_of_lt (by omega : 2 < packet.length),
      readIs_of_lt (by omega : 3 < packet.length),
      readUint16_of_le (by omega : 4 + 2 ≤ packet.length),
      readUint16_of_le (by omega : 8 + 2 ≤ packet.length),
      readUint16_of_le (by omega : 10 + 2 ≤ packet.length),
      readSlice_eq_slice (by omega : 12 ≤ 28) long, readSlice_length long]
    have tested := allChecks_map_some [decide (28 ≤ packet.length), decide (packet[0] = 0x04),
      decide (packet[1] = 0x02), decide (packet[2] = DEVICE_SESSION_MAGIC_VERSION),
      decide (packet[3] = SESSION_FLAGS),
      decide (uint16At packet 4 (by omega) = UInt16.ofNat (packet.length - 16)),
      decide (uint16At packet 8 (by omega) = DEVICE_SESSION_OPCODE),
      decide (uint16At packet 10 (by omega) = DEVICE_LOGIN_SUBTYPE),
      decide (slice packet 12 28 long = sessionID16 sessionId)]
    simp only [List.map_cons, List.map_nil] at tested
    simp only [Option.map_some]
    rw [tested]
    simp only [List.all_cons, List.all_nil, id, long, decide_true, Bool.true_and, Bool.and_true,
      Option.bind_eq_bind, Option.bind_some, Bool.and_eq_true, decide_eq_true_eq]
    split <;> rfl
  · rw [dif_neg long]
    simp only [long, decide_false, allChecks_cons_some, Bool.false_eq_true, if_false]
    rfl

def decodeMediaFragmentChecked (packet : Packet) (sessionId : SessionId) :
    Option (Except MediaError (Option MediaFragment)) := do
  match ← decodeDeviceSessionChecked packet sessionId with
  | none => some (.error .unexpectedPacket)
  | some inner =>
      let media ← allChecks [some (decide (36 ≤ inner.length)), readIs inner 0 0x0C,
        readIs inner 2 LOGIN_COMMAND_VERSION]
      if media then
        let fragmentCount : UInt8 ← inner[20]?
        if fragmentCount = 0 then some (.error (.fragmentCount fragmentCount))
        else
          let payloadLength ← (readUint16 inner 24).map UInt16.toNat
          if payloadLength = 0 ∨ inner.length < 36 + payloadLength then
            some (.error (.payloadLength payloadLength))
          else
            let channelId ← readUint16 inner 16
            let payload ← readSlice inner 36 (36 + payloadLength)
            let subsequence ← readUint16 inner 18
            let frameNumber ← readUint32 inner 28
            let flags : UInt8 ← inner[1]?
            some (.ok (some {
              channelId := channelId
              channel := channelId.toUInt8
              fragmentCount := fragmentCount
              payload := payload
              subsequence := subsequence
              frameNumber := frameNumber
              isEndFragment := decide (flags &&& 0x01 ≠ 0) && decide (channelId &&& 0x0100 ≠ 0) }))
      else some (.ok none)

theorem decodeMediaFragmentChecked_eq (packet : Packet) (sessionId : SessionId) :
    decodeMediaFragmentChecked packet sessionId = some (decodeMediaFragment packet sessionId) := by
  rw [decodeMediaFragmentChecked, decodeDeviceSessionChecked_eq, decodeMediaFragment]
  simp only [Option.bind_eq_bind, Option.bind_some]
  cases decodeDeviceSession packet sessionId with
  | none => rfl
  | some inner =>
      dsimp only
      by_cases long : 36 ≤ inner.length
      · rw [dif_pos long, readIs_of_lt (by omega : 0 < inner.length),
          readIs_of_lt (by omega : 2 < inner.length)]
        simp only [long, decide_true, allChecks_cons_some, allChecks_nil, if_true]
        by_cases command : inner[0] = 0x0C
        · by_cases version : inner[2] = LOGIN_COMMAND_VERSION
          · simp only [command, version, decide_true, if_true, Option.bind_some, and_self]
            rw [List.getElem?_eq_getElem (by omega : 20 < inner.length), Option.bind_some]
            by_cases none : inner[20] = 0
            · rw [if_pos none, if_pos none]
            · rw [if_neg none, if_neg none, readUint16_of_le (by omega : 24 + 2 ≤ inner.length),
                Option.map_some, Option.bind_some]
              by_cases fits : (uint16At inner 24 (by omega)).toNat ≠ 0 ∧
                  36 + (uint16At inner 24 (by omega)).toNat ≤ inner.length
              · rw [if_neg (by omega), dif_pos fits,
                  readUint16_of_le (by omega : 16 + 2 ≤ inner.length),
                  readSlice_eq_slice (by omega) fits.2,
                  readUint16_of_le (by omega : 18 + 2 ≤ inner.length),
                  readUint32_of_le (by omega : 28 + 4 ≤ inner.length),
                  List.getElem?_eq_getElem (by omega : 1 < inner.length)]
                rfl
              · rw [if_pos (by omega), dif_neg fits]
          · simp only [command, version, decide_true, decide_false, if_true, Bool.false_eq_true,
              if_false, Option.bind_some, and_false]
        · simp only [command, decide_false, Bool.false_eq_true, if_false, Option.bind_some,
            false_and]
      · rw [dif_neg long]
        simp only [long, decide_false, allChecks_cons_some, Bool.false_eq_true, if_false,
          Option.bind_some]

/-! ## Frames -/

def stripMediaMetadataChecked (data : Packet) : Option (Packet × UInt64) := do
  let trailer ← allChecks [some (decide (16 ≤ data.length)),
    readIs data (data.length - 16) H264_CODEC_MARKER, readIs data (data.length - 16 + 1) 0]
  if trailer then
    let timestamp ← readUint32 data (data.length - 4)
    let stripped ← readSlice data 0 (data.length - 16)
    some (stripped, timestamp.toUInt64)
  else some (data, 0)

theorem stripMediaMetadataChecked_eq (data : Packet) :
    stripMediaMetadataChecked data = some (stripMediaMetadata data) := by
  rw [stripMediaMetadataChecked, stripMediaMetadata]
  by_cases long : 16 ≤ data.length
  · rw [dif_pos long, readIs_of_lt (by omega : data.length - 16 < data.length),
      readIs_of_lt (by omega : data.length - 16 + 1 < data.length)]
    simp only [long, decide_true, allChecks_cons_some, allChecks_nil, if_true]
    by_cases marked : data[data.length - 16] = H264_CODEC_MARKER
    · by_cases empty : data[data.length - 16 + 1] = 0
      · simp only [marked, empty, decide_true, if_true, Option.bind_eq_bind, Option.bind_some,
          and_self]
        rw [readUint32_of_le (by omega), readSlice_of_le (Nat.zero_le _) (by omega)]
        rfl
      · simp only [marked, empty, decide_true, decide_false, if_true, Bool.false_eq_true, if_false,
          Option.bind_eq_bind, Option.bind_some, and_false]
    · simp only [marked, decide_false, Bool.false_eq_true, if_false, Option.bind_eq_bind,
        Option.bind_some, false_and]
  · rw [dif_neg long]
    simp only [long, decide_false, allChecks_cons_some, Bool.false_eq_true, if_false,
      Option.bind_eq_bind, Option.bind_some]

/-- The length of the start code at an index, 0 if there is none. -/
def startCodeLengthChecked (data : Packet) (index : Nat) : Option Nat := do
  let three ← allChecks [readIs data index 0, readIs data (index + 1) 0, readIs data (index + 2) 1]
  if three then some 3
  else
    let four ← allChecks [some (decide (index + 4 < data.length)), readIs data index 0,
      readIs data (index + 1) 0, readIs data (index + 2) 0, readIs data (index + 3) 1]
    some (if four then 4 else 0)

/-- The scan from an index on. -/
def findH264NALChecked (data : Packet) (wantedType : Option UInt8) (index : Nat) : Option Bool :=
  if inside : index + 4 < data.length then
    (startCodeLengthChecked data index).bind (fun length =>
      if length = 0 ∨ data.length ≤ index + length then
        findH264NALChecked data wantedType (index + 1)
      else
        data[index + length]?.bind (fun header =>
          if wantedType.all (fun wanted => decide (header &&& 0x1F = wanted)) then some true
          else findH264NALChecked data wantedType (index + 1)))
  else some false
termination_by data.length - index
decreasing_by all_goals omega

theorem startCodeLengthChecked_eq {data rest : Packet} {index : Nat}
    {first second third fourth fifth : UInt8}
    (split : data.drop index = first :: second :: third :: fourth :: fifth :: rest) :
    startCodeLengthChecked data index = some (startCodeLength first second third fourth) := by
  have inside : index + 4 < data.length := by
    have length := congrArg List.length split
    simp only [List.length_drop, List.length_cons] at length
    omega
  have zeroth : forall expected, readIs data index expected = some (decide (first = expected)) :=
    fun expected => readIs_of_drop split 0 expected
  have three : allChecks [readIs data index 0, readIs data (index + 1) 0,
      readIs data (index + 2) 1] = some (decide (first = 0 ∧ second = 0 ∧ third = 1)) := by
    rw [zeroth, readIs_of_drop split, readIs_of_drop split]
    refine (allChecks_map_some [decide (first = 0), decide (second = 0), decide (third = 1)]).trans ?_
    simp only [List.all_cons, List.all_nil, id, Bool.and_true, Bool.decide_and]
  have four : allChecks [some (decide (index + 4 < data.length)), readIs data index 0,
      readIs data (index + 1) 0, readIs data (index + 2) 0, readIs data (index + 3) 1] =
        some (decide (first = 0 ∧ second = 0 ∧ third = 0 ∧ fourth = 1)) := by
    rw [zeroth, readIs_of_drop split, readIs_of_drop split, readIs_of_drop split]
    refine (allChecks_map_some [decide (index + 4 < data.length), decide (first = 0),
      decide (second = 0), decide (third = 0), decide (fourth = 1)]).trans ?_
    simp only [List.all_cons, List.all_nil, id, Bool.and_true, Bool.decide_and, inside, decide_true,
      Bool.true_and]
  rw [startCodeLengthChecked, startCodeLength, three, four]
  simp only [Option.bind_eq_bind, Option.bind_some, decide_eq_true_eq]
  split
  · rfl
  · rfl

theorem startCodeLength_cases (first second third fourth : UInt8) :
    startCodeLength first second third fourth = 3 ∨ startCodeLength first second third fourth = 4 ∨
      startCodeLength first second third fourth = 0 := by
  rw [startCodeLength]
  split
  · exact Or.inl rfl
  · split
    · exact Or.inr (Or.inl rfl)
    · exact Or.inr (Or.inr rfl)

theorem exists_drop_eq_cons {data : Packet} {index : Nat} (inside : index + 4 < data.length) :
    exists first second third fourth fifth rest,
      data.drop index = first :: second :: third :: fourth :: fifth :: rest := by
  refine ⟨data[index], data[index + 1], data[index + 2], data[index + 3], data[index + 4],
    data.drop (index + 5), ?_⟩
  rw [← List.drop_eq_getElem_cons, ← List.drop_eq_getElem_cons, ← List.drop_eq_getElem_cons,
    ← List.drop_eq_getElem_cons, ← List.drop_eq_getElem_cons]

/-- The scan never reads out of range, and finds what the recursion on the bytes finds. -/
theorem findH264NALChecked_eq (data : Packet) (wantedType : Option UInt8) (index : Nat) :
    findH264NALChecked data wantedType index = some (findH264NAL wantedType (data.drop index)) := by
  induction index using findH264NALChecked.induct data with
  | case1 index inside inductionHypothesis _ =>
      obtain ⟨first, second, third, fourth, fifth, rest, split⟩ := exists_drop_eq_cons inside
      have later : data.drop (index + 1) = second :: third :: fourth :: fifth :: rest := by
        rw [← List.tail_drop, split, List.tail_cons]
      rw [later] at inductionHypothesis
      rw [findH264NALChecked, dif_pos inside, startCodeLengthChecked_eq split, Option.bind_some,
        split, findH264NAL, inductionHypothesis]
      rcases startCodeLength_cases first second third fourth with three | four | none
      · rw [three, if_neg (by omega), getElem?_of_drop split]
        simp only [List.getElem?_cons_succ, List.getElem?_cons_zero, Option.bind_some,
          Option.any_some]
        split
        · next wanted => rw [wanted, Bool.true_or]
        · next other => rw [Bool.not_eq_true _ |>.mp other, Bool.false_or]
      · rw [four, if_neg (by omega), getElem?_of_drop split]
        simp only [List.getElem?_cons_succ, List.getElem?_cons_zero, Option.bind_some,
          Option.any_some]
        split
        · next wanted => rw [wanted, Bool.true_or]
        · next other => rw [Bool.not_eq_true _ |>.mp other, Bool.false_or]
      · rw [none, if_pos (Or.inl rfl)]
        rfl
  | case2 index outside =>
      rw [findH264NALChecked, dif_neg outside, findH264NAL.eq_2]
      intro first second third fourth fifth rest split
      refine outside ?_
      have length := congrArg List.length split
      simp only [List.length_drop, List.length_cons] at length
      omega

def parsePLAF203ADTSChecked (data : Packet) : Option (Except MediaError (Packet × UInt64)) := do
  let header ← allChecks [some (decide (23 ≤ data.length)), readIs data 0 0xFF,
    data[1]?.map (fun flags => decide (flags &&& 0xF6 = 0xF0)),
    data[1]?.map (fun flags => decide (flags &&& 0x01 ≠ 0))]
  if header then
    let second : UInt8 ← data[2]?
    let third : UInt8 ← data[3]?
    let profile := (second >>> 6) &&& 0x03
    let sampleRateIndex := (second >>> 2) &&& 0x0F
    let channels := ((second &&& 0x01) <<< 2) ||| (third >>> 6)
    if profile = 1 ∧ sampleRateIndex = 4 ∧ channels = 1 then
      let fourth : UInt8 ← data[4]?
      let fifth : UInt8 ← data[5]?
      let frameLength := (third &&& 0x03).toNat * 2048 + fourth.toNat * 8 + (fifth >>> 5).toNat
      if 7 ≤ frameLength ∧ data.length = frameLength + 16 then
        let timestamp ← readUint32 data (data.length - 4)
        let accessUnit ← readSlice data 0 frameLength
        some (.ok (accessUnit, timestamp.toUInt64))
      else some (.error (.adtsLength frameLength data.length))
    else some (.error (.adtsConfig profile sampleRateIndex channels))
  else some (.error .adtsHeader)

theorem parsePLAF203ADTSChecked_eq (data : Packet) :
    parsePLAF203ADTSChecked data = some (parsePLAF203ADTS data) := by
  rw [parsePLAF203ADTSChecked, parsePLAF203ADTS]
  by_cases long : 23 ≤ data.length
  · have tested := allChecks_map_some [decide (23 ≤ data.length), decide (data[0] = 0xFF),
      decide (data[1] &&& 0xF6 = 0xF0), decide (data[1] &&& 0x01 ≠ 0)]
    simp only [List.map_cons, List.map_nil] at tested
    rw [dif_pos long, readIs_of_lt (by omega : 0 < data.length),
      List.getElem?_eq_getElem (by omega : 1 < data.length),
      List.getElem?_eq_getElem (by omega : 2 < data.length),
      List.getElem?_eq_getElem (by omega : 3 < data.length),
      List.getElem?_eq_getElem (by omega : 4 < data.length),
      List.getElem?_eq_getElem (by omega : 5 < data.length), Option.map_some, Option.map_some,
      tested]
    simp only [List.all_cons, List.all_nil, id, long, decide_true, Bool.true_and, Bool.and_true,
      Option.bind_eq_bind, Option.bind_some, Bool.and_eq_true, decide_eq_true_eq]
    split
    · split
      · split
        · next fits =>
            rw [readUint32_of_le (by omega), readSlice_of_le (Nat.zero_le _) (by omega)]
            rfl
        · rfl
      · rfl
    · rfl
  · rw [dif_neg long]
    simp only [long, decide_false, allChecks_cons_some, Bool.false_eq_true, if_false,
      Option.bind_eq_bind, Option.bind_some]

/-! ## The receiver -/

namespace MediaReceiver

/-- The call with its reads.  Putting frames together reads no packet by index. -/
def handlePacketChecked (receiver : MediaReceiver) (packet : Packet) (sessionId : SessionId)
    (now : Int) : Option (MediaReceiver × Except MediaError (Option VideoFrame)) := do
  match ← decodeMediaFragmentChecked packet sessionId with
  | .error error => some (receiver, .error error)
  | .ok none => some (receiver, .ok none)
  | .ok (some fragment) =>
      if fragment.channel ≠ H264_MAIN_CHANNEL ∧ fragment.channel ≠ H264_SUB_CHANNEL then
        some (receiver, .ok none)
      else
        match receiver.assemble fragment now with
        | (after, .error error) => some (after, .error error)
        | (after, .ok none) => some (after, .ok none)
        | (after, .ok (some complete)) =>
            let stripped ← stripMediaMetadataChecked complete
            let found ← findH264NALChecked stripped.1 none 0
            if found then
              let keyframe ← findH264NALChecked stripped.1 (some 5) 0
              some ({ after with stats := { after.stats with
                  videoCodec := "h264"
                  framesReceived := after.stats.framesReceived + 1
                  bytesReceived := after.stats.bytesReceived + UInt64.ofNat stripped.1.length
                  lastFrameAt := some now } },
                .ok (some {
                  timestamp := stripped.2
                  keyframe := keyframe
                  data := stripped.1 }))
            else some (after, .error .noNAL)

def handleAudioPacketChecked (receiver : MediaReceiver) (packet : Packet) (sessionId : SessionId)
    (now : Int) : Option (MediaReceiver × Except MediaError (Option AudioFrame)) := do
  match ← decodeMediaFragmentChecked packet sessionId with
  | .error error => some (receiver, .error error)
  | .ok none => some (receiver, .ok none)
  | .ok (some fragment) =>
      if fragment.channel ≠ AAC_CHANNEL then some (receiver, .ok none)
      else
        match receiver.assemble fragment now with
        | (after, .error error) => some (after, .error error)
        | (after, .ok none) => some (after, .ok none)
        | (after, .ok (some complete)) =>
            match ← parsePLAF203ADTSChecked complete with
            | .error error => some (after, .error error)
            | .ok (accessUnit, timestamp) =>
                some ({ after with stats := { after.stats with
                    audioCodec := "aac-lc"
                    audioFramesReceived := after.stats.audioFramesReceived + 1
                    audioBytesReceived :=
                      after.stats.audioBytesReceived + UInt64.ofNat accessUnit.length
                    lastAudioAt := some now } },
                  .ok (some { timestamp := timestamp, data := accessUnit }))

variable (receiver : MediaReceiver) (packet : Packet) (sessionId : SessionId) (now : Int)

theorem handlePacketChecked_eq :
    receiver.handlePacketChecked packet sessionId now =
      some (receiver.handlePacket packet sessionId now) := by
  rw [handlePacketChecked, handlePacket, decodeMediaFragmentChecked_eq]
  simp only [Option.bind_eq_bind, Option.bind_some]
  cases decodeMediaFragment packet sessionId with
  | error error => rfl
  | ok decoded =>
      cases decoded with
      | none => rfl
      | some fragment =>
          dsimp only
          split
          · rfl
          · obtain ⟨after, result⟩ := receiver.assemble fragment now
            cases result with
            | error error => rfl
            | ok data =>
                cases data with
                | none => rfl
                | some complete =>
                    dsimp only
                    rw [stripMediaMetadataChecked_eq, Option.bind_some, findH264NALChecked_eq,
                      Option.bind_some, findH264NALChecked_eq, List.drop_zero]
                    simp only [Option.bind_some]
                    split
                    · next found => rw [containsH264NAL, if_pos found, containsH264IDR]
                    · next none => rw [containsH264NAL, if_neg none]

theorem handleAudioPacketChecked_eq :
    receiver.handleAudioPacketChecked packet sessionId now =
      some (receiver.handleAudioPacket packet sessionId now) := by
  rw [handleAudioPacketChecked, handleAudioPacket, decodeMediaFragmentChecked_eq]
  simp only [Option.bind_eq_bind, Option.bind_some]
  cases decodeMediaFragment packet sessionId with
  | error error => rfl
  | ok decoded =>
      cases decoded with
      | none => rfl
      | some fragment =>
          dsimp only
          split
          · rfl
          · obtain ⟨after, result⟩ := receiver.assemble fragment now
            cases result with
            | error error => rfl
            | ok data =>
                cases data with
                | none => rfl
                | some complete =>
                    dsimp only
                    rw [parsePLAF203ADTSChecked_eq, Option.bind_some]
                    cases parsePLAF203ADTS complete with
                    | error error => rfl
                    | ok parsed => rfl

end MediaReceiver

end Camera
end PetlibroRelay
