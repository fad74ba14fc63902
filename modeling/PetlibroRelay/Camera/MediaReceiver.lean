import PetlibroRelay.Camera.SessionPackets
import PetlibroRelay.Foundations.Dict

namespace PetlibroRelay
namespace Camera

open Foundations

/-!
# The media receiver of a session

Video and audio arrive in fragments.  For each channel the receiver keeps the frame it
is putting together and the number of the last fragment of the last complete frame,
and it counts the frames it has returned.

Times are nanoseconds.  What a map of the source holds for a channel is an entry of a
dictionary here.
-/

/-! ## Fragments -/

def H264_MAIN_CHANNEL : UInt8 := 0x05
def H264_SUB_CHANNEL : UInt8 := 0x07
def AAC_CHANNEL : UInt8 := 0x03
def H264_CODEC_MARKER : UInt8 := 0x4E
def MAX_MEDIA_FRAME_BYTES : Nat := 2 * 1024 * 1024
def MEDIA_ASSEMBLY_TIMEOUT : Int := 1000000000

structure MediaFragment where
  channelId : UInt16
  channel : UInt8
  fragmentCount : UInt8
  payload : Packet
  subsequence : UInt16
  frameNumber : UInt32
  isEndFragment : Bool
  deriving DecidableEq, Repr

/-- Why a packet gives no frame and is not merely other traffic. -/
inductive MediaError where
  | unexpectedPacket
  | fragmentCount (count : UInt8)
  | payloadLength (length : Nat)
  | inconsistent (channel : UInt8) (frameNumber : UInt32)
  | incomplete (channel : UInt8) (frameNumber : UInt32) (got want : UInt8)
  | noNAL
  | adtsHeader
  | adtsConfig (profile sampleRateIndex channels : UInt8)
  | adtsLength (frame payload : Nat)
  deriving DecidableEq, Repr

/-- The fragment in a packet.  A packet of the session that is no media is no error. -/
def decodeMediaFragment (packet : Packet) (sessionId : SessionId) :
    Except MediaError (Option MediaFragment) :=
  match decodeDeviceSession packet sessionId with
  | none => .error .unexpectedPacket
  | some inner =>
      if long : 36 ≤ inner.length then
        if inner[0] = 0x0C ∧ inner[2] = LOGIN_COMMAND_VERSION then
          if inner[20] = 0 then .error (.fragmentCount inner[20])
          else
            let payloadLength := (uint16At inner 24 (by omega)).toNat
            if fits : payloadLength ≠ 0 ∧ 36 + payloadLength ≤ inner.length then
              let channelId := uint16At inner 16 (by omega)
              .ok (some {
                channelId := channelId
                channel := channelId.toUInt8
                fragmentCount := inner[20]
                payload := slice inner 36 (36 + payloadLength) fits.2
                subsequence := uint16At inner 18 (by omega)
                frameNumber := uint32At inner 28 (by omega)
                isEndFragment := decide (inner[1] &&& 0x01 ≠ 0) &&
                  decide (channelId &&& 0x0100 ≠ 0) })
            else .error (.payloadLength payloadLength)
        else .ok none
      else .ok none

/-! ## Putting frames together -/

structure MediaAssembly where
  frameNumber : UInt32
  expectedFragments : UInt8
  receivedFragments : UInt8 := 0
  startedAt : Int
  data : Packet := []
  seenSubsequences : List UInt16 := []
  deriving DecidableEq, Repr

structure MediaStats where
  videoCodec : String := ""
  audioCodec : String := ""
  framesReceived : UInt64 := 0
  bytesReceived : UInt64 := 0
  lastFrameAt : Option Int := none
  audioFramesReceived : UInt64 := 0
  audioBytesReceived : UInt64 := 0
  lastAudioAt : Option Int := none
  deriving DecidableEq, Repr

structure MediaReceiver where
  assemblies : Dict UInt8 MediaAssembly := []
  lastSubsequence : Dict UInt8 UInt16 := []
  stats : MediaStats := {}
  deriving DecidableEq, Repr

namespace MediaReceiver

/-- Give up what has been put together for too long. -/
def expire (receiver : MediaReceiver) (now : Int) : MediaReceiver :=
  { receiver with assemblies := receiver.assemblies.filter (fun entry =>
      !decide (now - entry.2.startedAt > MEDIA_ASSEMBLY_TIMEOUT)) }

/-- A fragment of the last complete frame or of one before it. -/
def isDuplicate (receiver : MediaReceiver) (channel : UInt8) (subsequence : UInt16) : Bool :=
  match Dict.get? receiver.lastSubsequence channel with
  | none => false
  | some last =>
      decide (subsequence = last) ||
        (decide (subsequence < last) && decide (last - subsequence < 0x8000))

/-- What is being put together for a fragment, begun anew if it is another frame. -/
def assemblyFor (receiver : MediaReceiver) (fragment : MediaFragment) (now : Int) :
    MediaAssembly :=
  match Dict.get? receiver.assemblies fragment.channel with
  | some assembly =>
      if assembly.frameNumber = fragment.frameNumber then assembly
      else
        { frameNumber := fragment.frameNumber, expectedFragments := fragment.fragmentCount,
          startedAt := now }
  | none =>
      { frameNumber := fragment.frameNumber, expectedFragments := fragment.fragmentCount,
        startedAt := now }

def storeAssembly (receiver : MediaReceiver) (channel : UInt8) (assembly : MediaAssembly) :
    MediaReceiver :=
  { receiver with assemblies := Dict.set receiver.assemblies channel assembly }

def dropAssembly (receiver : MediaReceiver) (channel : UInt8) : MediaReceiver :=
  { receiver with assemblies := Dict.erase receiver.assemblies channel }

/-- Take one fragment in.  The data of the frame comes with its last fragment. -/
def assemble (receiver : MediaReceiver) (fragment : MediaFragment) (now : Int) :
    MediaReceiver × Except MediaError (Option Packet) :=
  let current := receiver.expire now
  if current.isDuplicate fragment.channel fragment.subsequence then (current, .ok none)
  else
    let assembly := current.assemblyFor fragment now
    if assembly.expectedFragments ≠ fragment.fragmentCount ∨
        MAX_MEDIA_FRAME_BYTES < assembly.data.length + fragment.payload.length then
      (current.dropAssembly fragment.channel,
        .error (.inconsistent fragment.channel fragment.frameNumber))
    else if fragment.subsequence ∈ assembly.seenSubsequences then
      (current.storeAssembly fragment.channel assembly, .ok none)
    else
      let grown := { assembly with
        seenSubsequences := fragment.subsequence :: assembly.seenSubsequences
        data := assembly.data ++ fragment.payload
        receivedFragments := assembly.receivedFragments + 1 }
      if fragment.fragmentCount ≠ 1 ∧ fragment.isEndFragment = false then
        (current.storeAssembly fragment.channel grown, .ok none)
      else if grown.receivedFragments ≠ grown.expectedFragments then
        (current.dropAssembly fragment.channel,
          .error (.incomplete fragment.channel fragment.frameNumber grown.receivedFragments
            grown.expectedFragments))
      else
        ({ current.dropAssembly fragment.channel with
            lastSubsequence :=
              Dict.set current.lastSubsequence fragment.channel fragment.subsequence },
          .ok (some grown.data))

end MediaReceiver

/-! ## Frames -/

structure VideoFrame where
  codec : String := "h264"
  timestamp : UInt64
  keyframe : Bool
  data : Packet
  deriving DecidableEq, Repr

structure AudioFrame where
  codec : String := "aac-lc"
  sampleRate : Nat := 44100
  channels : Nat := 1
  samples : Nat := 1024
  timestamp : UInt64
  data : Packet
  deriving DecidableEq, Repr

structure MediaObservation where
  channelId : UInt16
  payloadLength : Nat
  frameNumber : UInt32
  deriving DecidableEq, Repr

/-- The data without its trailer, and the time in the trailer, if there is one. -/
def stripMediaMetadata (data : Packet) : Packet × UInt64 :=
  if long : 16 ≤ data.length then
    if data[data.length - 16] = H264_CODEC_MARKER ∧ data[data.length - 16 + 1] = 0 then
      (data.take (data.length - 16), (uint32At data (data.length - 4) (by omega)).toUInt64)
    else (data, 0)
  else (data, 0)

/-- The length of the start code at the front, 0 if there is none. -/
def startCodeLength (first second third fourth : UInt8) : Nat :=
  if first = 0 ∧ second = 0 ∧ third = 1 then 3
  else if first = 0 ∧ second = 0 ∧ third = 0 ∧ fourth = 1 then 4
  else 0

/-- Look for a unit, of the wanted type if there is one, while five bytes are left. -/
def findH264NAL (wantedType : Option UInt8) : Packet -> Bool
  | first :: second :: third :: fourth :: fifth :: rest =>
      let nal := match startCodeLength first second third fourth with
        | 3 => some (fourth &&& 0x1F)
        | 4 => some (fifth &&& 0x1F)
        | _ => none
      nal.any (fun nalType => wantedType.all (fun wanted => decide (nalType = wanted))) ||
        findH264NAL wantedType (second :: third :: fourth :: fifth :: rest)
  | _ => false

def containsH264NAL (data : Packet) : Bool := findH264NAL none data

def containsH264IDR (data : Packet) : Bool := findH264NAL (some 5) data

/-- One audio unit with its trailer. -/
def parsePLAF203ADTS (data : Packet) : Except MediaError (Packet × UInt64) :=
  if long : 23 ≤ data.length then
    if data[0] = 0xFF ∧ data[1] &&& 0xF6 = 0xF0 ∧ data[1] &&& 0x01 ≠ 0 then
      let profile := (data[2] >>> 6) &&& 0x03
      let sampleRateIndex := (data[2] >>> 2) &&& 0x0F
      let channels := ((data[2] &&& 0x01) <<< 2) ||| (data[3] >>> 6)
      if profile = 1 ∧ sampleRateIndex = 4 ∧ channels = 1 then
        let frameLength := (data[3] &&& 0x03).toNat * 2048 + data[4].toNat * 8 +
          (data[5] >>> 5).toNat
        if 7 ≤ frameLength ∧ data.length = frameLength + 16 then
          .ok (data.take frameLength, (uint32At data (data.length - 4) (by omega)).toUInt64)
        else .error (.adtsLength frameLength data.length)
      else .error (.adtsConfig profile sampleRateIndex channels)
    else .error .adtsHeader
  else .error .adtsHeader

namespace MediaReceiver

/-- A packet is taken for video, and other traffic is passed over. -/
def handlePacket (receiver : MediaReceiver) (packet : Packet) (sessionId : SessionId) (now : Int) :
    MediaReceiver × Except MediaError (Option VideoFrame) :=
  match decodeMediaFragment packet sessionId with
  | .error error => (receiver, .error error)
  | .ok none => (receiver, .ok none)
  | .ok (some fragment) =>
      if fragment.channel ≠ H264_MAIN_CHANNEL ∧ fragment.channel ≠ H264_SUB_CHANNEL then
        (receiver, .ok none)
      else
        match receiver.assemble fragment now with
        | (after, .error error) => (after, .error error)
        | (after, .ok none) => (after, .ok none)
        | (after, .ok (some complete)) =>
            let stripped := stripMediaMetadata complete
            if containsH264NAL stripped.1 then
              ({ after with stats := { after.stats with
                  videoCodec := "h264"
                  framesReceived := after.stats.framesReceived + 1
                  bytesReceived := after.stats.bytesReceived + UInt64.ofNat stripped.1.length
                  lastFrameAt := some now } },
                .ok (some {
                  timestamp := stripped.2
                  keyframe := containsH264IDR stripped.1
                  data := stripped.1 }))
            else (after, .error .noNAL)

def handleAudioPacket (receiver : MediaReceiver) (packet : Packet) (sessionId : SessionId)
    (now : Int) : MediaReceiver × Except MediaError (Option AudioFrame) :=
  match decodeMediaFragment packet sessionId with
  | .error error => (receiver, .error error)
  | .ok none => (receiver, .ok none)
  | .ok (some fragment) =>
      if fragment.channel ≠ AAC_CHANNEL then (receiver, .ok none)
      else
        match receiver.assemble fragment now with
        | (after, .error error) => (after, .error error)
        | (after, .ok none) => (after, .ok none)
        | (after, .ok (some complete)) =>
            match parsePLAF203ADTS complete with
            | .error error => (after, .error error)
            | .ok (accessUnit, timestamp) =>
                ({ after with stats := { after.stats with
                    audioCodec := "aac-lc"
                    audioFramesReceived := after.stats.audioFramesReceived + 1
                    audioBytesReceived :=
                      after.stats.audioBytesReceived + UInt64.ofNat accessUnit.length
                    lastAudioAt := some now } },
                  .ok (some { timestamp := timestamp, data := accessUnit }))

end MediaReceiver

/-- What can be said about media of another kind. -/
def observeNonVideoPacket (packet : Packet) (sessionId : SessionId) :
    Except MediaError (Option MediaObservation) :=
  match decodeMediaFragment packet sessionId with
  | .error error => .error error
  | .ok none => .ok none
  | .ok (some fragment) =>
      if fragment.channel = H264_MAIN_CHANNEL ∨ fragment.channel = H264_SUB_CHANNEL ∨
          fragment.channel = AAC_CHANNEL then .ok none
      else
        .ok (some {
          channelId := fragment.channelId
          payloadLength := fragment.payload.length
          frameNumber := fragment.frameNumber })

end Camera
end PetlibroRelay
