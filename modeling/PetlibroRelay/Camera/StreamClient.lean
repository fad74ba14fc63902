import PetlibroRelay.Foundations.Dict
import PetlibroRelay.Camera.CameraRegistry

namespace PetlibroRelay
namespace Camera

open Foundations

/-!
# The stream client of the relay

The relay counts the viewers of each camera and keeps a stream in go2rtc for cameras that
are watched.  A viewer that is not refreshed is removed by a watchdog, and some time after
the last viewer has left a timer stops the stream.

Every section under the lock is one function on the state of the client, and
`ensure_stream` holds the lock over its requests.  What a call does after it gives the lock
up is a list of jobs, so that any other call or timer can come in between.  A timer is
named by its place in the list of all timers ever made.  A cancelled timer does not fire,
but one that has fired before has already started its callback.

go2rtc is the set of its streams.  Whether a request is answered and whether it is executed
is supplied from outside.  Log lines and the media that a session carries are left out.
-/

/-! ## Data -/

def WHEP_IDLE_CLOSE_SECONDS : Rat := 10
def VIEWER_TIMEOUT_SECONDS : Rat := 20

structure Go2RtcSettings where
  enabled : Bool := true
  baseUrl : String := ""
  deriving DecidableEq, Repr

/-- The stream of a device. -/
def streamNameForDevice (deviceId : String) : String := "plaf203_" ++ deviceId

/-- Why a viewer is removed. -/
inductive RemovalReason where
  | requested
  | heartbeatExpired
  deriving DecidableEq, Repr

/-- What a call or a callback still has to do. -/
inductive StreamJob where
  | activateViewer (deviceId viewerId : String)
  | ensureViewed (deviceId viewerId : String)
  | heartbeatViewer (deviceId viewerId : String)
  | exchangeWebrtc (deviceId viewerId : String)
  | ensureExchanged (deviceId : String)
  | postOffer (deviceId : String)
  | rememberWebrtcSession (deviceId : String) (location : Option String)
  | closeWebrtc (deviceId sessionId : String)
  | deleteWebrtcSession (url : String)
  | deactivateViewer (deviceId viewerId : String) (reason : RemovalReason)
  | scheduleIdleStreamStop (deviceId : String)
  | expireViewer (deviceId viewerId : String)
  | stopIdleStream (deviceId : String)
  | deleteStream (deviceId : String)
  deriving DecidableEq, Repr

/-- A timer with its callback and its delay in seconds. -/
structure StreamTimer where
  callback : StreamJob
  delay : Rat
  state : TimerState := .armed
  deriving DecidableEq, Repr

def StreamTimer.cancel (timer : StreamTimer) : StreamTimer :=
  if timer.state = .armed then { timer with state := .stopped } else timer

/-- The client, the timers, the clock and the streams of go2rtc. -/
structure Go2RtcStreamClient where
  ensuredStreams : List String := []
  webrtcSessions : Dict String (String × Option String) := []
  webrtcStopTimers : Dict String Nat := []
  viewers : Dict String (Dict String Rat) := []
  viewerWatchdogs : Dict (String × String) Nat := []
  timers : List StreamTimer := []
  now : Rat := 0
  streams : List String := []

/-- What is supplied from outside: which requests of `ensure_stream` are answered or
executed, the answer to an offer and the name of a new session. -/
structure SidecarReplies where
  firstGet : Bool := true
  deleted : Bool := true
  put : Bool := true
  secondGet : Bool := true
  offerAnswered : Bool := true
  location : Option String := none
  sessionId : String := ""
  deriving DecidableEq, Repr

namespace Go2RtcStreamClient

variable (client : Go2RtcStreamClient) (deviceId viewerId : String)

/-- The viewers of a device with the times they were last seen. -/
def viewersOf : Dict String Rat := (Dict.get? client.viewers deviceId).getD []

/-- When a viewer was last seen, if it is registered. -/
def lastSeen : Option Rat := Dict.get? (client.viewersOf deviceId) viewerId

/-! ## Timers -/

/-- Cancel the timer of an entry, if there is one. -/
def cancelTimer (timers : List StreamTimer) : Option Nat -> List StreamTimer
  | none => timers
  | some number => timers.modify number StreamTimer.cancel

/-- Replace the watchdog of a viewer. -/
def armViewerWatchdogLocked : Go2RtcStreamClient :=
  let key := (deviceId, viewerId)
  { client with
    timers := cancelTimer client.timers (Dict.get? client.viewerWatchdogs key) ++
      [{ callback := .expireViewer deviceId viewerId, delay := VIEWER_TIMEOUT_SECONDS }]
    viewerWatchdogs := Dict.set (Dict.erase client.viewerWatchdogs key) key client.timers.length }

/-- Pop the watchdog of a viewer and cancel it. -/
def cancelViewerWatchdog : Go2RtcStreamClient :=
  let key := (deviceId, viewerId)
  { client with
    timers := cancelTimer client.timers (Dict.get? client.viewerWatchdogs key)
    viewerWatchdogs := Dict.erase client.viewerWatchdogs key }

/-- Pop the stop timer of a device and cancel it. -/
def cancelStopTimer : Go2RtcStreamClient :=
  { client with
    timers := cancelTimer client.timers (Dict.get? client.webrtcStopTimers deviceId)
    webrtcStopTimers := Dict.erase client.webrtcStopTimers deviceId }

/-- Start the stop timer of a device. -/
def startStopTimer : Go2RtcStreamClient :=
  { client with
    timers := client.timers ++
      [{ callback := .stopIdleStream deviceId, delay := WHEP_IDLE_CLOSE_SECONDS }]
    webrtcStopTimers := Dict.set client.webrtcStopTimers deviceId client.timers.length }

/-! ## Sections under the lock -/

/-- A viewer is seen now. -/
def see : Go2RtcStreamClient :=
  { client with
    viewers := Dict.set client.viewers deviceId
      (Dict.set (client.viewersOf deviceId) viewerId client.now) }

/-- A viewer is no longer registered. -/
def forget : Go2RtcStreamClient :=
  { client with
    viewers := Dict.set client.viewers deviceId (Dict.erase (client.viewersOf deviceId) viewerId) }

/-- The section of `activate_viewer`. -/
def activateViewer : Go2RtcStreamClient :=
  ((client.see deviceId viewerId).armViewerWatchdogLocked deviceId viewerId).cancelStopTimer deviceId

def heartbeatViewer : Go2RtcStreamClient × Bool :=
  match client.lastSeen deviceId viewerId with
  | none => (client, false)
  | some _ => ((client.see deviceId viewerId).armViewerWatchdogLocked deviceId viewerId, true)

/-- The section of `deactivate_viewer`.  The last viewer is followed by a stop. -/
def deactivateViewer : Go2RtcStreamClient × List StreamJob :=
  match client.lastSeen deviceId viewerId with
  | none => (client, [])
  | some _ =>
      let left := client.forget deviceId viewerId
      (left.cancelViewerWatchdog deviceId viewerId,
        if (left.viewersOf deviceId).length = 0 then [.scheduleIdleStreamStop deviceId] else [])

/-- The section of `_expire_viewer`. -/
def expireViewer : Go2RtcStreamClient × List StreamJob :=
  match client.lastSeen deviceId viewerId with
  | none => (client, [])
  | some seen =>
      if client.now - seen < VIEWER_TIMEOUT_SECONDS then
        (client.armViewerWatchdogLocked deviceId viewerId, [])
      else (client, [.deactivateViewer deviceId viewerId .heartbeatExpired])

/-- `ensure_stream` with its requests. -/
def ensureStream (settings : Go2RtcSettings) (replies : SidecarReplies) :
    Go2RtcStreamClient × Bool :=
  let name := streamNameForDevice deviceId
  let known := replies.firstGet && decide (name ∈ client.streams)
  if settings.enabled = false then (client, false)
  else if known && decide (name ∈ client.ensuredStreams) then (client, true)
  else
    let emptied := if known && replies.deleted then client.streams.filter (fun other => other ≠ name)
      else client.streams
    let created := if replies.put then emptied.insert name else emptied
    let verified := replies.secondGet && decide (name ∈ created)
    ({ client with
        streams := created
        ensuredStreams := if verified then client.ensuredStreams.insert name
          else client.ensuredStreams.filter (fun other => other ≠ name) },
      verified)

/-- What `ensure_stream` can do.  Only its own stream comes or goes. -/
theorem ensureStream_cases (settings : Go2RtcSettings) (replies : SidecarReplies) :
    client.ensureStream deviceId settings replies = (client, false) ∧ settings.enabled = false ∨
      (client.ensureStream deviceId settings replies = (client, true) ∧
        streamNameForDevice deviceId ∈ client.streams) ∨
      exists streams verified, client.ensureStream deviceId settings replies =
          ({ client with
              streams := streams
              ensuredStreams :=
                if verified then client.ensuredStreams.insert (streamNameForDevice deviceId)
                else client.ensuredStreams.filter
                  (fun other => other ≠ streamNameForDevice deviceId) }, verified) ∧
        settings.enabled = true ∧
        (verified = true -> replies.secondGet = true ∧ streamNameForDevice deviceId ∈ streams) ∧
        (replies.put = true -> streamNameForDevice deviceId ∈ streams) ∧
        forall other, other ≠ streamNameForDevice deviceId ->
          (other ∈ streams ↔ other ∈ client.streams) := by
  rw [ensureStream]
  split
  · next disabled => exact Or.inl ⟨rfl, disabled⟩
  · next enabled =>
      split
      · next known =>
          simp only [Bool.and_eq_true, decide_eq_true_eq] at known
          exact Or.inr (Or.inl ⟨rfl, known.1.2⟩)
      · refine Or.inr (Or.inr ⟨_, _, rfl, Bool.not_eq_false _ ▸ enabled, ?_, ?_, ?_⟩)
        · intro verified
          rw [Bool.and_eq_true, decide_eq_true_eq] at verified
          exact verified
        · intro put
          rw [if_pos put]
          exact List.mem_insert_self
        · intro other different
          have emptied : forall known : Bool, (other ∈ if known then
              client.streams.filter (fun other => other ≠ streamNameForDevice deviceId)
              else client.streams) ↔ other ∈ client.streams := by
            intro known
            cases known with
            | false => exact Iff.rfl
            | true =>
                simp only [if_true, List.mem_filter, decide_eq_true_eq]
                exact and_iff_left different
          split
          · rw [List.mem_insert_iff, emptied]
            exact or_iff_right different
          · exact emptied _

def rememberWebrtcSession (settings : Go2RtcSettings) (location : Option String)
    (sessionId : String) : Go2RtcStreamClient :=
  let url := (location.filter (fun text => decide (text ≠ ""))).map (fun text =>
    if "http".isPrefixOf text then text else settings.baseUrl ++ text)
  { client.cancelStopTimer deviceId with
    webrtcSessions := Dict.set client.webrtcSessions sessionId (deviceId, url) }

/-- The section of `close_webrtc`. -/
def closeWebrtc (sessionId : String) : Go2RtcStreamClient × List StreamJob :=
  ({ client with webrtcSessions := Dict.erase client.webrtcSessions sessionId },
    match Dict.get? client.webrtcSessions sessionId with
    | some (owner, some url) => if owner = deviceId then [.deleteWebrtcSession url] else []
    | _ => [])

def scheduleIdleStreamStop : Go2RtcStreamClient :=
  if client.viewersOf deviceId ≠ [] then client
  else if (Dict.get? client.webrtcStopTimers deviceId).isSome then client
  else client.startStopTimer deviceId

/-- The section of `_stop_idle_stream`.  It forgets the timer without cancelling it. -/
def stopIdleStream : Go2RtcStreamClient × List StreamJob :=
  let popped := { client with webrtcStopTimers := Dict.erase client.webrtcStopTimers deviceId }
  if client.viewersOf deviceId ≠ [] then (popped, [])
  else
    ({ popped with
        ensuredStreams := client.ensuredStreams.filter
          (fun other => other ≠ streamNameForDevice deviceId) },
      [.deleteStream deviceId])

/-- The request of `_delete_stream`, outside the lock. -/
def deleteStream (replies : SidecarReplies) : Go2RtcStreamClient :=
  if replies.deleted then
    { client with
      streams := client.streams.filter (fun other => other ≠ streamNameForDevice deviceId) }
  else client

/-! ## Jobs -/

def perform (settings : Go2RtcSettings) (client : Go2RtcStreamClient) (replies : SidecarReplies) :
    StreamJob -> Go2RtcStreamClient × List StreamJob
  | .activateViewer deviceId viewerId =>
      (client.activateViewer deviceId viewerId, [.ensureViewed deviceId viewerId])
  | .ensureViewed deviceId _ => ((client.ensureStream deviceId settings replies).1, [])
  | .heartbeatViewer deviceId viewerId => ((client.heartbeatViewer deviceId viewerId).1, [])
  | .exchangeWebrtc deviceId viewerId =>
      if settings.enabled = false then (client, [])
      else
        let beaten := client.heartbeatViewer deviceId viewerId
        (beaten.1, if beaten.2 then [.ensureExchanged deviceId] else [])
  | .ensureExchanged deviceId =>
      let ensured := client.ensureStream deviceId settings replies
      (ensured.1, if ensured.2 then [.postOffer deviceId] else [])
  | .postOffer deviceId =>
      (client,
        if replies.offerAnswered then [.rememberWebrtcSession deviceId replies.location] else [])
  | .rememberWebrtcSession deviceId location =>
      (client.rememberWebrtcSession deviceId settings location replies.sessionId, [])
  | .closeWebrtc deviceId sessionId => client.closeWebrtc deviceId sessionId
  | .deleteWebrtcSession _ => (client, [])
  | .deactivateViewer deviceId viewerId _ => client.deactivateViewer deviceId viewerId
  | .scheduleIdleStreamStop deviceId => (client.scheduleIdleStreamStop deviceId, [])
  | .expireViewer deviceId viewerId => client.expireViewer deviceId viewerId
  | .stopIdleStream deviceId => client.stopIdleStream deviceId
  | .deleteStream deviceId => (client.deleteStream deviceId replies, [])

/-- A timer that is armed starts its callback. -/
def fire (number : Nat) : Option (Go2RtcStreamClient × StreamJob) :=
  match client.timers[number]? with
  | some timer =>
      if timer.state = .armed then
        some ({ client with timers := client.timers.set number { timer with state := .fired } },
          timer.callback)
      else none
  | none => none

end Go2RtcStreamClient

/-! ## Calls and runs -/

/-- The calls of the dashboard. -/
inductive ViewerCall where
  | activate (deviceId viewerId : String)
  | heartbeat (deviceId viewerId : String)
  | deactivate (deviceId viewerId : String)
  | exchange (deviceId viewerId : String)
  | close (deviceId sessionId : String)
  deriving DecidableEq, Repr

def ViewerCall.job : ViewerCall -> StreamJob
  | .activate deviceId viewerId => .activateViewer deviceId viewerId
  | .heartbeat deviceId viewerId => .heartbeatViewer deviceId viewerId
  | .deactivate deviceId viewerId => .deactivateViewer deviceId viewerId .requested
  | .exchange deviceId viewerId => .exchangeWebrtc deviceId viewerId
  | .close deviceId sessionId => .closeWebrtc deviceId sessionId

/-- The client and the calls and callbacks that are half-way. -/
abbrev StreamWorld := Go2RtcStreamClient × List (List StreamJob)

inductive StreamAction where
  | call (call : ViewerCall)
  | advance (thread : Nat) (replies : SidecarReplies)
  | fire (timer : Nat)
  | tick (later : Rat)
  | lose (stream : String)
  deriving DecidableEq, Repr

def streamMachine (settings : Go2RtcSettings) : Machine StreamWorld StreamAction where
  step world
    | .call call => some (world.1, world.2 ++ [[call.job]])
    | .advance thread replies =>
        Threads.advance (Go2RtcStreamClient.perform settings) world thread replies
    | .fire timer =>
        (world.1.fire timer).map (fun fired => (fired.1, world.2 ++ [[fired.2]]))
    | .tick later => if world.1.now ≤ later then some ({ world.1 with now := later }, world.2) else none
    | .lose stream =>
        some ({ world.1 with streams := world.1.streams.filter (fun other => other ≠ stream) }, world.2)

/-- Before anything has happened. -/
def StreamWorld.start : StreamWorld := ({}, [])

/-- No call and no callback is half-way. -/
def StreamWorld.IsQuiet (world : StreamWorld) : Prop :=
  forall thread, thread ∈ world.2 -> thread = []

end Camera
end PetlibroRelay
