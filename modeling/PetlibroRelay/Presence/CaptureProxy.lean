import Mathlib.Algebra.Order.Field.Rat
import PetlibroRelay.Foundations.Dict
import PetlibroRelay.Foundations.Machine

namespace PetlibroRelay
namespace Presence

open Foundations

/-!
# Local presence

The capture proxy counts the open sessions of each feeder under a lock, and tells
the presence tracker about an opened session and about the end of the last one.
It does so after it has left the lock.

The machine has one handler thread for each captured connection.  The section
under the session lock and the callback are steps of their own, and the other
threads may run in between.  A feeder that reconnects can therefore be told
present by its new session before the end of its old one is told.
-/

/-! ## The presence tracker -/

structure PresenceRecord where
  deviceId : String
  connected : Bool
  lastOpenedAt : Option Rat
  lastClosedAt : Option Rat
  peerAddress : Option String
  connectionGeneration : Nat
  deriving DecidableEq, Repr

/-- The latest record of each device that ever connected. -/
structure DevicePresenceTracker where
  records : Dict String PresenceRecord := []

namespace DevicePresenceTracker

def record (tracker : DevicePresenceTracker) (deviceId : String) : Option PresenceRecord :=
  Dict.get? tracker.records deviceId

/-- Record that a device has connected.  A missing or empty address keeps the
known one. -/
def sessionOpened (tracker : DevicePresenceTracker) (now : Rat) (deviceId : String)
    (peerAddress : Option String) : DevicePresenceTracker :=
  let existing := tracker.record deviceId
  { records := Dict.set tracker.records deviceId
      { deviceId := deviceId
        connected := true
        lastOpenedAt := some now
        lastClosedAt := existing.bind PresenceRecord.lastClosedAt
        peerAddress := (peerAddress.filter (fun address => decide (address ≠ ""))).or
          (existing.bind PresenceRecord.peerAddress)
        connectionGeneration :=
          (existing.map PresenceRecord.connectionGeneration).getD 0 + 1 } }

/-- Record that the last session of a device has ended. -/
def sessionClosed (tracker : DevicePresenceTracker) (now : Rat) (deviceId : String) :
    DevicePresenceTracker :=
  let existing := tracker.record deviceId
  { records := Dict.set tracker.records deviceId
      { deviceId := deviceId
        connected := false
        lastOpenedAt := existing.bind PresenceRecord.lastOpenedAt
        lastClosedAt := some now
        peerAddress := existing.bind PresenceRecord.peerAddress
        connectionGeneration := (existing.map PresenceRecord.connectionGeneration).getD 0 } }

/-- How long after its last session a device still counts as present. -/
def LOCAL_PRESENCE_GRACE_SECONDS : Rat := 90

/-- Whether a device is present or within its reconnect grace. -/
def isOnline (tracker : DevicePresenceTracker) (now : Rat) (deviceId : String) : Bool :=
  match tracker.record deviceId with
  | none => false
  | some record =>
      record.connected ||
        record.lastClosedAt.any (fun closed => decide (now - closed ≤ LOCAL_PRESENCE_GRACE_SECONDS))

/-- Whether the tracker says that the device is connected. -/
def isConnected (tracker : DevicePresenceTracker) (deviceId : String) : Bool :=
  (tracker.record deviceId).any PresenceRecord.connected

theorem isConnected_sessionOpened (tracker : DevicePresenceTracker) (now : Rat)
    (deviceId : String) (peerAddress : Option String) (other : String) :
    (tracker.sessionOpened now deviceId peerAddress).isConnected other =
      if deviceId = other then true else tracker.isConnected other := by
  rw [isConnected, record, sessionOpened, Dict.get?_set]
  split
  · rfl
  · rfl

theorem isConnected_sessionClosed (tracker : DevicePresenceTracker) (now : Rat)
    (deviceId other : String) :
    (tracker.sessionClosed now deviceId).isConnected other =
      if deviceId = other then false else tracker.isConnected other := by
  rw [isConnected, record, sessionClosed, Dict.get?_set]
  split
  · rfl
  · rfl

end DevicePresenceTracker

/-! ## The proxy and its handlers -/

/-- How far a handler thread is.  In `opened` and `closed` it has left the lock
and its callback is outstanding. -/
inductive HandlerPhase where
  | captured
  | opened
  | serving
  | closed
  | finished
  deriving DecidableEq, Repr

/-- A handler thread that has read the identity of its feeder. -/
structure Handler where
  clientId : String
  peerAddress : String
  phase : HandlerPhase := .captured
  deriving DecidableEq, Repr

/-- The proxy, its listener's tracker and the handler threads. -/
structure CredentialCaptureProxy where
  openSessions : Dict String Int := []
  tracker : DevicePresenceTracker := {}
  handlers : List Handler := []

inductive ProxyAction where
  | capture (clientId peerAddress : String)
  | openSession (handler : Nat)
  | closeSession (handler : Nat)
  | callback (handler : Nat) (now : Rat)

namespace CredentialCaptureProxy

/-- The number of open sessions of a device. -/
def count (proxy : CredentialCaptureProxy) (clientId : String) : Int :=
  (Dict.get? proxy.openSessions clientId).getD 0

/-- The handlers after one of them has moved on. -/
def moved (proxy : CredentialCaptureProxy) (number : Nat) (handler : Handler)
    (phase : HandlerPhase) : List Handler :=
  proxy.handlers.set number { handler with phase := phase }

/-- The locked section of `_open_session`. -/
def openSession (proxy : CredentialCaptureProxy) (number : Nat) (handler : Handler) :
    CredentialCaptureProxy :=
  let sessions := proxy.count handler.clientId + 1
  { proxy with
    openSessions := Dict.set proxy.openSessions handler.clientId sessions
    handlers := proxy.moved number handler .opened }

/-- The locked section of `_close_session`.  Only the last session's handler goes
on to a callback. -/
def closeSession (proxy : CredentialCaptureProxy) (number : Nat) (handler : Handler) :
    CredentialCaptureProxy :=
  let sessions := proxy.count handler.clientId - 1
  if 0 < sessions then
    { proxy with
      openSessions := Dict.set proxy.openSessions handler.clientId sessions
      handlers := proxy.moved number handler .finished }
  else
    { proxy with
      openSessions := Dict.erase proxy.openSessions handler.clientId
      handlers := proxy.moved number handler .closed }

/-- The callback of a handler that has one outstanding. -/
def callback (proxy : CredentialCaptureProxy) (number : Nat) (handler : Handler) (now : Rat) :
    Option CredentialCaptureProxy :=
  match handler.phase with
  | .opened => some { proxy with
      tracker := proxy.tracker.sessionOpened now handler.clientId (some handler.peerAddress)
      handlers := proxy.moved number handler .serving }
  | .closed => some { proxy with
      tracker := proxy.tracker.sessionClosed now handler.clientId
      handlers := proxy.moved number handler .finished }
  | _ => none

/-- The number of handlers of a device in a phase. -/
def inPhase (proxy : CredentialCaptureProxy) (clientId : String) (phase : HandlerPhase) : Nat :=
  proxy.handlers.countP (fun handler =>
    decide (handler.clientId = clientId) && decide (handler.phase = phase))

/-- Whether no callback is outstanding. -/
def quiet (proxy : CredentialCaptureProxy) : Bool :=
  proxy.handlers.all (fun handler =>
    decide (handler.phase ≠ .opened) && decide (handler.phase ≠ .closed))

end CredentialCaptureProxy

def proxyStep (proxy : CredentialCaptureProxy) : ProxyAction -> Option CredentialCaptureProxy
  | .capture clientId peerAddress => some { proxy with
      handlers := proxy.handlers ++ [{ clientId := clientId, peerAddress := peerAddress }] }
  | .openSession number =>
      match proxy.handlers[number]? with
      | none => none
      | some handler =>
          if handler.phase = .captured then some (proxy.openSession number handler) else none
  | .closeSession number =>
      match proxy.handlers[number]? with
      | none => none
      | some handler =>
          if handler.phase = .serving then some (proxy.closeSession number handler) else none
  | .callback number now =>
      match proxy.handlers[number]? with
      | none => none
      | some handler => proxy.callback number handler now

/-- The proxy among its handler threads. -/
def proxyMachine : Machine CredentialCaptureProxy ProxyAction where
  step := proxyStep

/-- The end of a last session is told while the device has no session, or while
the callback of a session that is open is still to come. -/
def closesInOrder (proxy : CredentialCaptureProxy) : ProxyAction -> Bool
  | .callback number _ =>
      (proxy.handlers[number]?).all (fun handler =>
        decide (handler.phase ≠ .closed) || decide (proxy.count handler.clientId ≤ 0) ||
          decide (0 < proxy.inPhase handler.clientId .opened))
  | _ => true

/-! ## Steps -/

/-- Everything a step can do. -/
inductive ProxyEffect (proxy : CredentialCaptureProxy) :
    ProxyAction -> CredentialCaptureProxy -> Prop where
  | captured (clientId peerAddress : String) :
      ProxyEffect proxy (.capture clientId peerAddress) { proxy with
        handlers := proxy.handlers ++ [{ clientId := clientId, peerAddress := peerAddress }] }
  | opened (number : Nat) (handler : Handler) (found : proxy.handlers[number]? = some handler)
      (ready : handler.phase = .captured) :
      ProxyEffect proxy (.openSession number) (proxy.openSession number handler)
  | closed (number : Nat) (handler : Handler) (found : proxy.handlers[number]? = some handler)
      (serves : handler.phase = .serving) :
      ProxyEffect proxy (.closeSession number) (proxy.closeSession number handler)
  | toldOpen (number : Nat) (now : Rat) (handler : Handler)
      (found : proxy.handlers[number]? = some handler) (outstanding : handler.phase = .opened) :
      ProxyEffect proxy (.callback number now) { proxy with
        tracker := proxy.tracker.sessionOpened now handler.clientId (some handler.peerAddress)
        handlers := proxy.moved number handler .serving }
  | toldClosed (number : Nat) (now : Rat) (handler : Handler)
      (found : proxy.handlers[number]? = some handler) (outstanding : handler.phase = .closed) :
      ProxyEffect proxy (.callback number now) { proxy with
        tracker := proxy.tracker.sessionClosed now handler.clientId
        handlers := proxy.moved number handler .finished }

theorem proxyEffect_of_step {proxy after : CredentialCaptureProxy} {action : ProxyAction}
    (step : proxyStep proxy action = some after) : ProxyEffect proxy action after := by
  cases action with
  | capture clientId peerAddress =>
      cases step
      exact .captured clientId peerAddress
  | openSession number =>
      rw [proxyStep] at step
      split at step
      · cases step
      · next handler found =>
          split at step
          · next ready =>
              cases step
              exact .opened number handler found ready
          · cases step
  | closeSession number =>
      rw [proxyStep] at step
      split at step
      · cases step
      · next handler found =>
          split at step
          · next serves =>
              cases step
              exact .closed number handler found serves
          · cases step
  | callback number now =>
      rw [proxyStep] at step
      split at step
      · cases step
      · next handler found =>
          rw [CredentialCaptureProxy.callback] at step
          split at step
          · next outstanding =>
              cases step
              exact .toldOpen number now handler found outstanding
          · next outstanding =>
              cases step
              exact .toldClosed number now handler found outstanding
          · cases step

/-! ## Counting sessions and callbacks -/

/-- Replacing one element of a list, counted on both sides. -/
theorem countP_set_add {α : Type} (selected : α -> Bool) {entries : List α} {number : Nat}
    {old : α} (found : entries[number]? = some old) (new : α) :
    (entries.set number new).countP selected + (if selected old then 1 else 0) =
      entries.countP selected + (if selected new then 1 else 0) := by
  rcases List.getElem?_eq_some_iff.mp found with ⟨inside, same⟩
  rw [List.countP_set inside, same]
  by_cases chosen : selected old = true
  · have positive : 0 < entries.countP selected := by
      rw [List.countP_pos_iff]
      exact ⟨old, List.mem_of_getElem? found, chosen⟩
    rw [if_pos chosen]
    omega
  · rw [if_neg chosen]
    omega

/-- The number of handlers in a phase after one of them has moved on. -/
theorem inPhase_moved {proxy after : CredentialCaptureProxy} {number : Nat} {handler : Handler}
    {phase : HandlerPhase} (found : proxy.handlers[number]? = some handler)
    (moves : after.handlers = proxy.moved number handler phase) (clientId : String)
    (other : HandlerPhase) :
    after.inPhase clientId other +
        (if handler.clientId = clientId ∧ handler.phase = other then 1 else 0) =
      proxy.inPhase clientId other +
        (if handler.clientId = clientId ∧ phase = other then 1 else 0) := by
  have counted := countP_set_add (fun entry : Handler =>
    decide (entry.clientId = clientId) && decide (entry.phase = other)) found
    { handler with phase := phase }
  simp only [Bool.and_eq_true, decide_eq_true_eq] at counted
  rw [CredentialCaptureProxy.inPhase, CredentialCaptureProxy.inPhase, moves]
  exact counted

theorem inPhase_captured {proxy after : CredentialCaptureProxy} {new : Handler}
    (grown : after.handlers = proxy.handlers ++ [new]) (fresh : new.phase = .captured)
    (clientId : String) {phase : HandlerPhase} (different : phase ≠ .captured) :
    after.inPhase clientId phase = proxy.inPhase clientId phase := by
  have unseen : (decide (new.clientId = clientId) && decide (new.phase = phase)) = false := by
    rw [fresh, decide_eq_false (Ne.symm different), Bool.and_false]
  rw [CredentialCaptureProxy.inPhase, grown, List.countP_append, List.countP_singleton, unseen]
  rfl

theorem count_openSession (proxy : CredentialCaptureProxy) (number : Nat) (handler : Handler)
    (clientId : String) :
    (proxy.openSession number handler).count clientId =
      proxy.count clientId + if handler.clientId = clientId then 1 else 0 := by
  rw [CredentialCaptureProxy.count, CredentialCaptureProxy.openSession, Dict.get?_set]
  split
  · next same =>
      rw [same]
      rfl
  · exact (Int.add_zero _).symm

/-- The count of a device that has a session to close. -/
theorem count_closeSession (proxy : CredentialCaptureProxy) (number : Nat) (handler : Handler)
    (clientId : String) (open_ : 0 < proxy.count handler.clientId) :
    (proxy.closeSession number handler).count clientId =
      proxy.count clientId - if handler.clientId = clientId then 1 else 0 := by
  rw [CredentialCaptureProxy.closeSession]
  by_cases more : 0 < proxy.count handler.clientId - 1
  · rw [if_pos more, CredentialCaptureProxy.count, Dict.get?_set]
    split
    · next same =>
        rw [same]
        rfl
    · exact (Int.sub_zero _).symm
  · rw [if_neg more, CredentialCaptureProxy.count, Dict.get?_erase]
    split
    · next same =>
        rw [← same, Option.getD_none]
        omega
    · exact (Int.sub_zero _).symm

/-- The phase a handler goes to when it closes its session. -/
theorem handlers_closeSession (proxy : CredentialCaptureProxy) (number : Nat) (handler : Handler) :
    (proxy.closeSession number handler).handlers = proxy.moved number handler
      (if 0 < proxy.count handler.clientId - 1 then .finished else .closed) := by
  rw [CredentialCaptureProxy.closeSession]
  split
  · rfl
  · rfl

/-- The same for the device of the handler. -/
theorem inPhase_moved_own {proxy after : CredentialCaptureProxy} {number : Nat}
    {handler : Handler} {phase : HandlerPhase} (found : proxy.handlers[number]? = some handler)
    (moves : after.handlers = proxy.moved number handler phase) (other : HandlerPhase) :
    after.inPhase handler.clientId other + (if handler.phase = other then 1 else 0) =
      proxy.inPhase handler.clientId other + (if phase = other then 1 else 0) := by
  have counted := inPhase_moved found moves handler.clientId other
  simp only [true_and] at counted
  exact counted

/-- For other devices a moved handler does not count. -/
theorem inPhase_moved_of_ne {proxy after : CredentialCaptureProxy} {number : Nat}
    {handler : Handler} {phase : HandlerPhase} (found : proxy.handlers[number]? = some handler)
    (moves : after.handlers = proxy.moved number handler phase) {clientId : String}
    (foreign : handler.clientId ≠ clientId) (other : HandlerPhase) :
    after.inPhase clientId other = proxy.inPhase clientId other := by
  have counted := inPhase_moved found moves clientId other
  rw [if_neg (fun both => foreign both.1), if_neg (fun both => foreign both.1)] at counted
  exact counted

/-- In a phase that a handler neither leaves nor enters there are as many as
before. -/
theorem inPhase_moved_past {proxy after : CredentialCaptureProxy} {number : Nat}
    {handler : Handler} {phase other : HandlerPhase}
    (found : proxy.handlers[number]? = some handler)
    (moves : after.handlers = proxy.moved number handler phase) (leaves : handler.phase ≠ other)
    (enters : phase ≠ other) (clientId : String) :
    after.inPhase clientId other = proxy.inPhase clientId other := by
  have counted := inPhase_moved found moves clientId other
  rw [if_neg (fun both => leaves both.2), if_neg (fun both => enters both.2)] at counted
  exact counted

/-! ## Agreement -/

/-- The sessions of a device are counted.  A device with sessions is connected
unless the callback of one of them is to come, and a device without is not
connected unless the callback of its last one is to come. -/
structure AgreesOn (proxy : CredentialCaptureProxy) (clientId : String) : Prop where
  counted : proxy.count clientId =
    (proxy.inPhase clientId .opened + proxy.inPhase clientId .serving : Nat)
  present : 0 < proxy.count clientId -> proxy.inPhase clientId .opened = 0 ->
    proxy.tracker.isConnected clientId = true
  absent : proxy.count clientId = 0 -> proxy.inPhase clientId .closed = 0 ->
    proxy.tracker.isConnected clientId = false

/-- A step that is not about the device. -/
theorem AgreesOn.of_same {proxy after : CredentialCaptureProxy} {clientId : String}
    (agrees : AgreesOn proxy clientId) (counts : after.count clientId = proxy.count clientId)
    (phases : forall phase, phase ≠ .captured ->
      after.inPhase clientId phase = proxy.inPhase clientId phase)
    (connected : after.tracker.isConnected clientId = proxy.tracker.isConnected clientId) :
    AgreesOn after clientId where
  counted := by
    rw [counts, phases .opened (by decide), phases .serving (by decide)]
    exact agrees.counted
  present := by
    rw [counts, phases .opened (by decide), connected]
    exact agrees.present
  absent := by
    rw [counts, phases .closed (by decide), connected]
    exact agrees.absent

/-- A session that is open is counted. -/
theorem AgreesOn.count_pos {proxy : CredentialCaptureProxy} {number : Nat} {handler : Handler}
    (agrees : AgreesOn proxy handler.clientId) (found : proxy.handlers[number]? = some handler)
    (holds : handler.phase = .opened ∨ handler.phase = .serving) :
    0 < proxy.count handler.clientId := by
  have there : forall phase, handler.phase = phase ->
      0 < proxy.inPhase handler.clientId phase := by
    intro phase same
    rw [CredentialCaptureProxy.inPhase, List.countP_pos_iff]
    refine ⟨handler, List.mem_of_getElem? found, ?_⟩
    rw [same, decide_eq_true rfl, decide_eq_true rfl]
    rfl
  rw [agrees.counted]
  rcases holds with opened | serving
  · have one := there .opened opened
    omega
  · have one := there .serving serving
    omega

section Steps

variable {proxy after : CredentialCaptureProxy} {number : Nat} {handler : Handler}

theorem agreesOn_openSession (agrees : forall clientId, AgreesOn proxy clientId)
    (found : proxy.handlers[number]? = some handler) (ready : handler.phase = .captured)
    (clientId : String) : AgreesOn (proxy.openSession number handler) clientId := by
  have counts := count_openSession proxy number handler clientId
  have moves : (proxy.openSession number handler).handlers =
    proxy.moved number handler .opened := rfl
  by_cases own : handler.clientId = clientId
  · subst own
    have opened := inPhase_moved_own found moves .opened
    have serving := inPhase_moved_own found moves .serving
    simp only [ready, reduceCtorEq, if_false, if_true] at opened serving counts
    have counted := (agrees handler.clientId).counted
    constructor
    · omega
    · intro _ none
      omega
    · intro none
      omega
  · rw [if_neg own, Int.add_zero] at counts
    exact (agrees clientId).of_same counts
      (fun phase _ => inPhase_moved_of_ne found moves own phase) rfl

theorem agreesOn_closeSession (agrees : forall clientId, AgreesOn proxy clientId)
    (found : proxy.handlers[number]? = some handler) (serves : handler.phase = .serving)
    (clientId : String) : AgreesOn (proxy.closeSession number handler) clientId := by
  have positive := (agrees handler.clientId).count_pos found (Or.inr serves)
  have counts := count_closeSession proxy number handler clientId positive
  have moves := handlers_closeSession proxy number handler
  have tracker : (proxy.closeSession number handler).tracker = proxy.tracker := by
    rw [CredentialCaptureProxy.closeSession]
    split
    · rfl
    · rfl
  by_cases own : handler.clientId = clientId
  · subst own
    have opened := inPhase_moved_own found moves .opened
    have serving := inPhase_moved_own found moves .serving
    have closed := inPhase_moved_own found moves .closed
    simp only [serves, reduceCtorEq, if_false, if_true] at opened serving closed counts
    have facts := agrees handler.clientId
    have counted := facts.counted
    by_cases more : 0 < proxy.count handler.clientId - 1
    · simp only [if_pos more, reduceCtorEq, if_false] at opened serving
      constructor
      · omega
      · intro _ none
        rw [tracker]
        exact facts.present positive (by omega)
      · intro none
        omega
    · simp only [if_neg more, reduceCtorEq, if_false, if_true] at opened serving closed
      constructor
      · omega
      · intro some
        omega
      · intro _ none
        omega
  · rw [if_neg own, Int.sub_zero] at counts
    exact (agrees clientId).of_same counts
      (fun phase _ => inPhase_moved_of_ne found moves own phase) (by rw [tracker])

theorem agreesOn_toldOpen (now : Rat) (agrees : forall clientId, AgreesOn proxy clientId)
    (found : proxy.handlers[number]? = some handler) (outstanding : handler.phase = .opened)
    (sessions : after.openSessions = proxy.openSessions)
    (told : after.tracker =
      proxy.tracker.sessionOpened now handler.clientId (some handler.peerAddress))
    (moves : after.handlers = proxy.moved number handler .serving) (clientId : String) :
    AgreesOn after clientId := by
  have counts : after.count clientId = proxy.count clientId := by
    rw [CredentialCaptureProxy.count, sessions]
    rfl
  have connected := proxy.tracker.isConnected_sessionOpened now handler.clientId
    (some handler.peerAddress) clientId
  rw [← told] at connected
  by_cases own : handler.clientId = clientId
  · subst own
    have opened := inPhase_moved_own found moves .opened
    have serving := inPhase_moved_own found moves .serving
    simp only [outstanding, reduceCtorEq, if_false, if_true] at opened serving connected
    have positive := (agrees handler.clientId).count_pos found (Or.inl outstanding)
    have counted := (agrees handler.clientId).counted
    constructor
    · omega
    · exact fun _ _ => connected
    · intro none
      omega
  · rw [if_neg own] at connected
    exact (agrees clientId).of_same counts
      (fun phase _ => inPhase_moved_of_ne found moves own phase) connected

/-- The end of a last session is told.  Here the order of the callbacks matters. -/
theorem agreesOn_toldClosed (now : Rat) (agrees : forall clientId, AgreesOn proxy clientId)
    (found : proxy.handlers[number]? = some handler) (outstanding : handler.phase = .closed)
    (ordered : proxy.count handler.clientId ≤ 0 ∨ 0 < proxy.inPhase handler.clientId .opened)
    (sessions : after.openSessions = proxy.openSessions)
    (told : after.tracker = proxy.tracker.sessionClosed now handler.clientId)
    (moves : after.handlers = proxy.moved number handler .finished) (clientId : String) :
    AgreesOn after clientId := by
  have counts : after.count clientId = proxy.count clientId := by
    rw [CredentialCaptureProxy.count, sessions]
    rfl
  have connected := proxy.tracker.isConnected_sessionClosed now handler.clientId clientId
  rw [← told] at connected
  by_cases own : handler.clientId = clientId
  · subst own
    have opened := inPhase_moved_own found moves .opened
    have serving := inPhase_moved_own found moves .serving
    simp only [outstanding, reduceCtorEq, if_false, if_true] at opened serving connected
    have counted := (agrees handler.clientId).counted
    constructor
    · omega
    · intro some none
      omega
    · exact fun _ _ => connected
  · rw [if_neg own] at connected
    exact (agrees clientId).of_same counts
      (fun phase _ => inPhase_moved_of_ne found moves own phase) connected

/-- One step that keeps the order of callbacks. -/
theorem agrees_step {action : ProxyAction} (agrees : forall clientId, AgreesOn proxy clientId)
    (ordered : closesInOrder proxy action = true) (effect : ProxyEffect proxy action after)
    (clientId : String) : AgreesOn after clientId := by
  cases effect with
  | captured _ peerAddress =>
      exact (agrees clientId).of_same rfl
        (fun phase different => inPhase_captured rfl rfl clientId different) rfl
  | opened number handler found ready => exact agreesOn_openSession agrees found ready clientId
  | closed number handler found serves => exact agreesOn_closeSession agrees found serves clientId
  | toldOpen number now handler found outstanding =>
      refine agreesOn_toldOpen now agrees found outstanding ?_ ?_ ?_ clientId
      · rfl
      · rfl
      · rfl
  | toldClosed number now handler found outstanding =>
      rw [closesInOrder, found, Option.all_some, outstanding, Bool.or_eq_true, Bool.or_eq_true,
        decide_eq_true_eq, decide_eq_true_eq, decide_eq_true_eq, or_assoc] at ordered
      refine agreesOn_toldClosed now agrees found outstanding
        (ordered.resolve_left (fun different => different rfl)) ?_ ?_ ?_ clientId
      · rfl
      · rfl
      · rfl

end Steps

theorem agrees_run (actions : List ProxyAction)
    (ordered : proxyMachine.Meets (fun proxy action => closesInOrder proxy action = true) {}
      actions) (clientId : String) : AgreesOn (proxyMachine.run {} actions) clientId := by
  refine proxyMachine.run_invariant_of_meets _ (fun proxy => forall device, AgreesOn proxy device)
    (fun _ _ _ agrees keeps step => agrees_step agrees keeps (proxyEffect_of_step step))
    {} actions ?_ ordered clientId
  intro device
  constructor
  · rfl
  · exact fun impossible => absurd impossible (Int.lt_irrefl 0)
  · exact fun _ _ => rfl

/-- Without outstanding callbacks no handler waits for one. -/
theorem inPhase_of_quiet {proxy : CredentialCaptureProxy} (quiet : proxy.quiet = true)
    (clientId : String) :
    proxy.inPhase clientId .opened = 0 ∧ proxy.inPhase clientId .closed = 0 := by
  rw [CredentialCaptureProxy.quiet, List.all_eq_true] at quiet
  have none : forall phase, (forall handler, handler ∈ proxy.handlers -> handler.phase ≠ phase) ->
      proxy.inPhase clientId phase = 0 := by
    intro phase different
    rw [CredentialCaptureProxy.inPhase, List.countP_eq_zero]
    intro handler member chosen
    rw [Bool.and_eq_true, decide_eq_true_eq, decide_eq_true_eq] at chosen
    exact different handler member chosen.2
  constructor
  · refine none .opened (fun handler member => ?_)
    have apart := quiet handler member
    rw [Bool.and_eq_true, decide_eq_true_eq] at apart
    exact apart.1
  · refine none .closed (fun handler member => ?_)
    have apart := quiet handler member
    rw [Bool.and_eq_true, decide_eq_true_eq, decide_eq_true_eq] at apart
    exact apart.2

/-! ## Disagreement -/

/-- A device with sessions that the tracker takes for disconnected, with no
callback to come that would correct it. -/
structure Forgotten (clientId : String) (proxy : CredentialCaptureProxy) : Prop where
  counted : 0 < proxy.count clientId
  uncorrected : proxy.inPhase clientId .opened = 0
  disconnected : proxy.tracker.isConnected clientId = false

/-- Further callbacks do not help. -/
theorem Forgotten.stays {proxy after : CredentialCaptureProxy} {clientId : String} {number : Nat}
    {now : Rat} (forgotten : Forgotten clientId proxy)
    (effect : ProxyEffect proxy (.callback number now) after) : Forgotten clientId after := by
  cases effect with
  | toldOpen _ _ handler found outstanding =>
      have foreign : handler.clientId ≠ clientId := by
        intro own
        have none := List.countP_eq_zero.mp forgotten.uncorrected handler
          (List.mem_of_getElem? found)
        rw [own, outstanding, decide_eq_true rfl, decide_eq_true rfl] at none
        exact none rfl
      refine ⟨forgotten.counted, ?_, ?_⟩
      · exact (inPhase_moved_of_ne found rfl foreign .opened).trans forgotten.uncorrected
      · refine (proxy.tracker.isConnected_sessionOpened now handler.clientId _ clientId).trans ?_
        rw [if_neg foreign]
        exact forgotten.disconnected
  | toldClosed _ _ handler found outstanding =>
      refine ⟨forgotten.counted, ?_, ?_⟩
      · refine (inPhase_moved_past found rfl ?_ (by decide) clientId).trans forgotten.uncorrected
        rw [outstanding]
        decide
      · refine (proxy.tracker.isConnected_sessionClosed now handler.clientId clientId).trans ?_
        rw [forgotten.disconnected, ite_self]

/-- A callback out of order leaves a device forgotten. -/
theorem forgotten_of_disorder {proxy : CredentialCaptureProxy} {number : Nat} {now : Rat}
    (disorder : closesInOrder proxy (.callback number now) = false) :
    exists clientId, Forgotten clientId (proxyMachine.next proxy (.callback number now)) := by
  cases found : proxy.handlers[number]? with
  | none =>
      rw [closesInOrder, found] at disorder
      cases disorder
  | some handler =>
      rw [closesInOrder, found, Option.all_some, Bool.or_eq_false_iff, Bool.or_eq_false_iff,
        decide_eq_false_iff_not, decide_eq_false_iff_not, decide_eq_false_iff_not,
        not_not] at disorder
      rcases disorder with ⟨⟨outstanding, counted⟩, uncorrected⟩
      have step : proxyStep proxy (.callback number now) = some { proxy with
          tracker := proxy.tracker.sessionClosed now handler.clientId
          handlers := proxy.moved number handler .finished } := by
        simp only [proxyStep, found, CredentialCaptureProxy.callback, outstanding]
      refine ⟨handler.clientId, ?_⟩
      rw [Machine.next, show proxyMachine.step proxy (.callback number now) = _ from step,
        Option.getD_some]
      refine ⟨Int.not_le.mp counted, ?_, ?_⟩
      · refine (inPhase_moved_past found rfl ?_ (by decide) _).trans (by omega)
        rw [outstanding]
        decide
      · refine (proxy.tracker.isConnected_sessionClosed now handler.clientId _).trans ?_
        rw [if_pos rfl]

def ProxyAction.isCallback : ProxyAction -> Bool
  | .callback _ _ => true
  | _ => false

theorem Forgotten.run {proxy : CredentialCaptureProxy} {clientId : String}
    (forgotten : Forgotten clientId proxy) (actions : List ProxyAction)
    (callbacks : forall action, action ∈ actions -> action.isCallback = true) :
    Forgotten clientId (proxyMachine.run proxy actions) := by
  induction actions generalizing proxy with
  | nil => exact forgotten
  | cons action rest inductionHypothesis =>
      refine inductionHypothesis ?_ (fun other member =>
        callbacks other (List.mem_cons_of_mem _ member))
      rcases proxyMachine.next_cases proxy action with refused | step
      · rw [refused]
        exact forgotten
      · cases action with
        | callback number now => exact forgotten.stays (proxyEffect_of_step step)
        | _ => cases callbacks _ List.mem_cons_self

/-! ## Presence and the proxy -/

/-- In every run in which the end of a last session is told in order, whenever no
callback is outstanding the tracker takes exactly the devices with open sessions
for connected.  One callback out of order is enough to spoil this: whatever
callbacks still come, a device with open sessions is taken for disconnected. -/
theorem presence_agrees_with_proxy (actions : List ProxyAction) :
    let final := proxyMachine.run {} actions
    (proxyMachine.Meets (fun proxy action => closesInOrder proxy action = true) {} actions ->
      final.quiet = true ->
      forall clientId, final.tracker.isConnected clientId = true ↔ 0 < final.count clientId) ∧
    (forall number now rest, closesInOrder final (.callback number now) = false ->
      (forall action, action ∈ rest -> action.isCallback = true) ->
      exists clientId,
        let after := proxyMachine.run final (.callback number now :: rest)
        after.tracker.isConnected clientId = false ∧ 0 < after.count clientId) := by
  intro final
  constructor
  · intro ordered quiet clientId
    have agrees : AgreesOn final clientId := agrees_run actions ordered clientId
    rcases inPhase_of_quiet quiet clientId with ⟨unopened, unclosed⟩
    constructor
    · intro connected
      have counted := agrees.counted
      by_contra none
      have disconnected := agrees.absent (by omega) unclosed
      rw [disconnected] at connected
      cases connected
    · exact fun some => agrees.present some unopened
  · intro number now rest disorder callbacks
    rcases forgotten_of_disorder disorder with ⟨clientId, forgotten⟩
    have stays := forgotten.run rest callbacks
    exact ⟨clientId, stays.disconnected, stays.counted⟩

/-- The first session of feeder `A`, up to the end of its section under the lock. -/
def firstSession : List ProxyAction :=
  [.capture "A" "10.3.100.1", .openSession 0, .callback 0 0, .closeSession 0]

/-- The feeder comes back. -/
def secondSession : List ProxyAction :=
  [.capture "A" "10.3.100.1", .openSession 1, .callback 1 1]

/-- The old session's handler leaves the lock, the new session is opened and told,
and then the end of the old one is told. -/
theorem stale_close_forgets_session :
    let final := proxyMachine.run {} (firstSession ++ secondSession ++ [.callback 0 2])
    final.quiet = true ∧ final.count "A" = 1 ∧ final.tracker.isConnected "A" = false := by
  decide +kernel

/-- The same sessions, with the end of the old one told before the new one is. -/
theorem presence_agrees_with_proxy_after_reconnect :
    let final := proxyMachine.run {} (firstSession ++ [.callback 0 1] ++ secondSession)
    forall clientId, final.tracker.isConnected clientId = true ↔ 0 < final.count clientId :=
  (presence_agrees_with_proxy _).1 (by decide +kernel) (by decide +kernel)

end Presence
end PetlibroRelay
