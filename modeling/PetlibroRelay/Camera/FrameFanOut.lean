import PetlibroRelay.Foundations.Machine
import PetlibroRelay.Camera.MediaReceiver
import Mathlib.Logic.Function.Basic

namespace PetlibroRelay
namespace Camera

open Foundations

/-!
# From the sessions of a camera to its consumers

A session hands each frame it completes to its callbacks, and the one callback there is
belongs to the media publisher of the camera.  The publisher writes the frame to a track,
and the track gives it to every consumer attached at that moment.

Keyframes are kept in two places, so that a newcomer need not wait for the next one.  A
session replays its last keyframe to a new callback, and the publisher replays its own to
a new consumer.  Both replays happen outside the locks that order live frames, and the
second goes through the track that all consumers share.

A section under a lock is one job of a thread, and so is a write to the track.  There are
three kinds of threads: the one that holds the lock of the registry, the one that opens a
session, and the receive loop of a session.  Taking the lock of the registry and the first
section under it are one step.

Left out are audio, consumers that cannot be added to the track, and all parts of the
registry that decide when a session is opened or unsubscribed.
-/

/-! ## Frames -/

/-- A frame as a session has completed it.  The program does not see the session and the
place of the frame in the order in which the camera produced its frames. -/
structure CameraFrame where
  session : Nat
  place : Nat
  video : VideoFrame
  deriving DecidableEq, Repr

def MEDIA_CLOCK_RATE : Int64 := 90000
def MEDIA_TIMESTAMP_DIVISOR : Int64 := 1000000000

/-- A packet on the track, with the frame it was made of. -/
structure TrackPacket where
  frame : CameraFrame
  timestamp : UInt32
  payload : Packet
  marker : Bool := true
  deriving DecidableEq, Repr

/-- The packet of a frame, some nanoseconds after the publisher was made. -/
def trackPacket (encodeToAVCC : Packet -> Packet) (frame : CameraFrame) (elapsed : Int64) :
    TrackPacket where
  frame := frame
  timestamp := (elapsed * MEDIA_CLOCK_RATE / MEDIA_TIMESTAMP_DIVISOR).toUInt64.toUInt32
  payload := encodeToAVCC frame.video.data

/-! ## Sessions, consumers and threads -/

/-- What a session keeps for its callbacks.  The last two fields say whether the registry
has been told of it, and which frame it has completed last. -/
structure FrameSession where
  frameCallbacks : List Nat := []
  nextFrameId : Nat := 0
  latestKeyframe : Option CameraFrame := none
  connected : Bool := false
  lastPlace : Nat
  deriving DecidableEq, Repr

/-- The section of `publishFrame`. -/
def FrameSession.keepKeyframe (session : FrameSession) (frame : CameraFrame) : FrameSession :=
  if frame.video.keyframe then { session with latestKeyframe := some frame } else session

/-- The section of `SubscribeFrames`. -/
def FrameSession.addCallback (session : FrameSession) : FrameSession :=
  { session with
    nextFrameId := session.nextFrameId + 1
    frameCallbacks := session.frameCallbacks ++ [session.nextFrameId + 1] }

/-- What the function that `SubscribeFrames` returns does. -/
def FrameSession.removeCallback (session : FrameSession) (callbackId : Nat) : FrameSession :=
  { session with
    frameCallbacks := session.frameCallbacks.filter (fun other => decide (other ≠ callbackId)) }

/-- A consumer and what the track has given it. -/
structure TrackConsumer where
  attached : Bool := true
  received : List TrackPacket := []
  deriving DecidableEq, Repr

/-- A consumer that is not attached is given nothing. -/
def TrackConsumer.give (packet : TrackPacket) (consumer : TrackConsumer) : TrackConsumer :=
  if consumer.attached then { consumer with received := consumer.received ++ [packet] }
  else consumer

inductive FrameThread where
  | registry
  | opening (session : Nat)
  | loop (session : Nat)
  deriving DecidableEq, Repr

/-- What a thread still has to do. -/
inductive FrameJob where
  | publishFrame (session : Nat) (frame : CameraFrame)
  | publish (frame : CameraFrame)
  | writeRTP (packet : TrackPacket)
  | replay (consumer : Nat)
  | attached (consumer : Nat)
  deriving DecidableEq, Repr

/-- The frame that a job brings to the track. -/
def FrameJob.carried : FrameJob -> Option CameraFrame
  | .publish frame => some frame
  | .writeRTP packet => some packet.frame
  | _ => none

/-- The camera with all its frames, the sessions, the publisher and the consumers of its
track. -/
structure FanOut where
  camera : List VideoFrame := []
  sessions : List FrameSession := []
  latestFrame : Option CameraFrame := none
  consumers : List TrackConsumer := []
  pending : FrameThread -> List FrameJob := fun _ => []

namespace FanOut

/-- A thread has new jobs. -/
def doing (state : FanOut) (thread : FrameThread) (jobs : List FrameJob) : FanOut :=
  { state with pending := Function.update state.pending thread jobs }

/-- The threads that can have something to do. -/
def threads (state : FanOut) : List FrameThread :=
  .registry ::
    (List.range state.sessions.length).flatMap (fun number => [.opening number, .loop number])

/-- What a consumer has been given. -/
def received (state : FanOut) (consumer : Nat) : List TrackPacket :=
  (state.consumers[consumer]?.map TrackConsumer.received).getD []

/-! ## Jobs -/

/-- Keep the frame if it is a keyframe, and call every callback there is. -/
def publishFrame (state : FanOut) (number : Nat) (frame : CameraFrame) : FanOut × List FrameJob :=
  match state.sessions[number]? with
  | none => (state, [])
  | some session =>
      ({ state with sessions := state.sessions.set number (session.keepKeyframe frame) },
        session.frameCallbacks.map (fun _ => .publish frame))

/-- The section of the publisher.  A frame without data is dropped. -/
def publish (encodeToAVCC : Packet -> Packet) (state : FanOut) (frame : CameraFrame)
    (elapsed : Int64) : FanOut × List FrameJob :=
  if frame.video.data = [] ∨ encodeToAVCC frame.video.data = [] then (state, [])
  else
    ({ state with latestFrame := if frame.video.keyframe then some frame else state.latestFrame },
      [.writeRTP (trackPacket encodeToAVCC frame elapsed)])

/-- One job, at a time after the publisher was made. -/
def perform (encodeToAVCC : Packet -> Packet) (state : FanOut) (elapsed : Int64) :
    FrameJob -> FanOut × List FrameJob
  | .publishFrame number frame => state.publishFrame number frame
  | .publish frame => state.publish encodeToAVCC frame elapsed
  | .writeRTP packet =>
      ({ state with consumers := state.consumers.map (TrackConsumer.give packet) }, [])
  | .replay _ => (state, state.latestFrame.toList.map .publish)
  | .attached _ => (state, [])

/-! ## Steps -/

/-- The connector has a first frame.  The receive loop starts before that frame is
published. -/
def opened (state : FanOut) (place : Nat) : Option FanOut := do
  let video <- state.camera[place]?
  let number := state.sessions.length
  some (doing { state with sessions := state.sessions ++ [{ lastPlace := place }] }
    (.opening number) [.publishFrame number ⟨number, place, video⟩])

/-- The receive loop of a session has completed a frame the camera produced after the last
one. -/
def completed (state : FanOut) (number place : Nat) : Option FanOut := do
  let session <- state.sessions[number]?
  let video <- state.camera[place]?
  if state.pending (.loop number) = [] ∧ session.lastPlace < place then
    some (doing
      { state with sessions := state.sessions.set number { session with lastPlace := place } }
      (.loop number) [.publishFrame number ⟨number, place, video⟩])
  else none

/-- The registry is told of a session and subscribes the publisher to it. -/
def connected (state : FanOut) (number : Nat) : Option FanOut := do
  let session <- state.sessions[number]?
  if session.connected = false ∧ state.pending (.opening number) = [] ∧
      state.pending .registry = [] then
    some (doing
      { state with
        sessions := state.sessions.set number { session.addCallback with connected := true } }
      .registry (session.latestKeyframe.toList.map .publish))
  else none

def unsubscribe (state : FanOut) (number callbackId : Nat) : Option FanOut := do
  let session <- state.sessions[number]?
  some { state with sessions := state.sessions.set number (session.removeCallback callbackId) }

/-- A new consumer is added to the track. -/
def addMediaConsumer (state : FanOut) : Option FanOut :=
  if state.pending .registry = [] then
    some (doing { state with consumers := state.consumers ++ [{}] } .registry
      [.replay state.consumers.length, .attached state.consumers.length])
  else none

/-- A consumer leaves the track. -/
def detach (state : FanOut) (consumer : Nat) : FanOut :=
  { state with
    consumers := state.consumers.modify consumer (fun left => { left with attached := false }) }

/-- A thread does its next job. -/
def advance (encodeToAVCC : Packet -> Packet) (state : FanOut) (thread : FrameThread)
    (elapsed : Int64) : Option FanOut :=
  match state.pending thread with
  | [] => none
  | job :: rest =>
      let done := state.perform encodeToAVCC elapsed job
      some (done.1.doing thread (done.2 ++ rest))

end FanOut

inductive FanOutAction where
  | produced (video : VideoFrame)
  | opened (place : Nat)
  | completed (session place : Nat)
  | connected (session : Nat)
  | unsubscribe (session callbackId : Nat)
  | addMediaConsumer
  | detach (consumer : Nat)
  | advance (thread : FrameThread) (elapsed : Int64)
  deriving DecidableEq, Repr

def fanOut (encodeToAVCC : Packet -> Packet) : Machine FanOut FanOutAction where
  step state
    | .produced video => some { state with camera := state.camera ++ [video] }
    | .opened place => state.opened place
    | .completed session place => state.completed session place
    | .connected session => state.connected session
    | .unsubscribe session callbackId => state.unsubscribe session callbackId
    | .addMediaConsumer => state.addMediaConsumer
    | .detach consumer => some (state.detach consumer)
    | .advance thread elapsed => state.advance encodeToAVCC thread elapsed

end Camera
end PetlibroRelay
