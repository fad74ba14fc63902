import Mathlib.Data.List.Perm.Basic
import PetlibroRelay.Foundations.Dict
import PetlibroRelay.Foundations.Machine

namespace PetlibroRelay
namespace Presence

open Foundations

/-!
# Counting sessions on every path

A handler thread of the capture proxy counts a session when it has learned an
identity, and uncounts it in its `finally` block.  Whether it has something to
uncount is what the capturing helper returned, and the helper returns only
after the listener of opened sessions has.  Here are all the ways a handler can
end: the broker is not reached, the CONNECT is malformed or has no credentials,
a socket fails before or while bytes are piped, the registry raises, or the
listener raises when it is told of the opened or of the last closed session.
-/

/-! ## The counter -/

/-- The count of a client, which is zero where there is no entry. -/
def sessionCount (openSessions : Dict String Int) (clientId : String) : Int :=
  (Dict.get? openSessions clientId).getD 0

/-- The section of `_open_session` under the lock. -/
def countSession (openSessions : Dict String Int) (clientId : String) : Dict String Int :=
  Dict.set openSessions clientId (sessionCount openSessions clientId + 1)

/-- The section of `_close_session` under the lock, and whether the device is
still connected. -/
def uncountSession (openSessions : Dict String Int) (clientId : String) :
    Dict String Int × Bool :=
  let sessions := sessionCount openSessions clientId - 1
  if 0 < sessions then (Dict.set openSessions clientId sessions, true)
  else (Dict.erase openSessions clientId, false)

theorem sessionCount_countSession (openSessions : Dict String Int) (clientId other : String) :
    sessionCount (countSession openSessions clientId) other =
      sessionCount openSessions other + if clientId = other then 1 else 0 := by
  rw [sessionCount, countSession, Dict.get?_set]
  split
  · next same =>
      rw [same]
      rfl
  · exact (Int.add_zero _).symm

/-- A count that is positive goes down by one. -/
theorem sessionCount_uncountSession {openSessions : Dict String Int} {clientId : String}
    (counted : 0 < sessionCount openSessions clientId) (other : String) :
    sessionCount (uncountSession openSessions clientId).1 other =
      sessionCount openSessions other - if clientId = other then 1 else 0 := by
  rw [uncountSession]
  by_cases more : 0 < sessionCount openSessions clientId - 1
  · rw [if_pos more, sessionCount, Dict.get?_set]
    split
    · next same =>
        rw [same]
        rfl
    · exact (Int.sub_zero _).symm
  · rw [if_neg more, sessionCount, Dict.get?_erase]
    split
    · next same =>
        rw [← same, Option.getD_none]
        omega
    · exact (Int.sub_zero _).symm

/-! ## The handlers -/

/-- How far a handler is.  What `piping` and `closing` hold is the client
identifier the helper returned; a handler whose helper has not returned holds
none in its `finally` block. -/
inductive HandlerStage where
  | accepted
  | connected
  | learned (clientId : String)
  | recorded (clientId : String)
  | counted (clientId : String)
  | piping (opened : Option String)
  | closing (opened : Option String)
  | telling (clientId : String)
  | finished
  deriving DecidableEq, Repr

/-- What reading and forwarding the CONNECT comes to. -/
inductive ConnectOutcome where
  | socketError
  | malformed
  | anonymous (clientId : String)
  | identified (clientId : String)
  deriving DecidableEq, Repr

/-- The stage after the CONNECT. -/
def ConnectOutcome.stage : ConnectOutcome -> HandlerStage
  | .socketError => .closing none
  | .malformed => .piping none
  | .anonymous _ => .piping none
  | .identified clientId => .learned clientId

inductive HandlerEvent where
  | connectBroker (reached : Bool)
  | readConnect (outcome : ConnectOutcome)
  | recordIdentity (raises : Bool)
  | openSession
  | deviceSessionOpened (raises : Bool)
  | pipeEnds
  | closeSession
  | deviceSessionClosed (raises : Bool)
  deriving DecidableEq, Repr

structure SessionProxy where
  openSessions : Dict String Int := []
  handlers : List HandlerStage := []

inductive SessionAction where
  | accept
  | handler (number : Nat) (event : HandlerEvent)
  deriving DecidableEq, Repr

namespace SessionProxy

def count (proxy : SessionProxy) (clientId : String) : Int :=
  sessionCount proxy.openSessions clientId

/-- One handler goes on to another stage. -/
def move (proxy : SessionProxy) (number : Nat) (stage : HandlerStage) : SessionProxy :=
  { proxy with handlers := proxy.handlers.set number stage }

/-- The end of a handler that holds a session. -/
def closeSession (proxy : SessionProxy) (number : Nat) (clientId : String) : SessionProxy :=
  let uncounted := uncountSession proxy.openSessions clientId
  { openSessions := uncounted.1
    handlers := proxy.handlers.set number
      (if uncounted.2 then .finished else .telling clientId) }

/-- The next event of a handler, by the stage it is in. -/
def handle (proxy : SessionProxy) (number : Nat) (stage : HandlerStage) :
    HandlerEvent -> Option SessionProxy
  | .connectBroker reached =>
      if stage = .accepted then some (proxy.move number (if reached then .connected else .finished))
      else none
  | .readConnect outcome =>
      if stage = .connected then some (proxy.move number outcome.stage) else none
  | .recordIdentity raises =>
      match stage with
      | .learned clientId =>
          some (proxy.move number (if raises then .closing none else .recorded clientId))
      | _ => none
  | .openSession =>
      match stage with
      | .recorded clientId =>
          some { openSessions := countSession proxy.openSessions clientId
                 handlers := proxy.handlers.set number (.counted clientId) }
      | _ => none
  | .deviceSessionOpened raises =>
      match stage with
      | .counted clientId =>
          some (proxy.move number (if raises then .closing none else .piping (some clientId)))
      | _ => none
  | .pipeEnds =>
      match stage with
      | .piping opened => some (proxy.move number (.closing opened))
      | _ => none
  | .closeSession =>
      match stage with
      | .closing none => some (proxy.move number .finished)
      | .closing (some clientId) => some (proxy.closeSession number clientId)
      | _ => none
  | .deviceSessionClosed _ =>
      match stage with
      | .telling _ => some (proxy.move number .finished)
      | _ => none

end SessionProxy

/-- The proxy among its handlers. -/
def sessionMachine : Machine SessionProxy SessionAction where
  step proxy
    | .accept => some { proxy with handlers := proxy.handlers ++ [.accepted] }
    | .handler number event =>
        (proxy.handlers[number]?).bind (fun stage => proxy.handle number stage event)

/-! ## The ledger -/

/-- Every increment and every decrement, with the handler it was made for. -/
structure SessionLedger where
  increments : List (Nat × String) := []
  decrements : List (Nat × String) := []
  deriving DecidableEq, Repr

def SessionLedger.observe (ledger : SessionLedger) (proxy : SessionProxy) :
    SessionAction -> SessionLedger
  | .handler number .openSession =>
      match proxy.handlers[number]? with
      | some (.recorded clientId) =>
          { ledger with increments := ledger.increments ++ [(number, clientId)] }
      | _ => ledger
  | .handler number .closeSession =>
      match proxy.handlers[number]? with
      | some (.closing (some clientId)) =>
          { ledger with decrements := ledger.decrements ++ [(number, clientId)] }
      | _ => ledger
  | _ => ledger

def ledgerMachine : Machine (SessionProxy × SessionLedger) SessionAction :=
  sessionMachine.watched SessionLedger.observe

/-- The session a handler holds: it is counted and will be uncounted. -/
def HandlerStage.holds : HandlerStage -> Option String
  | .counted clientId => some clientId
  | .piping opened => opened
  | .closing opened => opened
  | _ => none

/-- The handler has been through its `finally` block. -/
def HandlerStage.done : HandlerStage -> Bool
  | .telling _ | .finished => true
  | _ => false

/-- A handler that is there and not done. -/
def SessionProxy.live (proxy : SessionProxy) (number : Nat) : Bool :=
  (proxy.handlers[number]?).any (fun stage => !stage.done)

/-- The number of live handlers that opened a session for the client. -/
def liveSessions (proxy : SessionProxy) (ledger : SessionLedger) (clientId : String) : Nat :=
  ledger.increments.countP (fun entry => decide (entry.2 = clientId) && proxy.live entry.1)

/-- No call of `device_session_opened` raises. -/
def listenerReturns : SessionAction -> Bool
  | .handler _ (.deviceSessionOpened raises) => !raises
  | _ => true

/-- The increments and decrements match, and the counter says who is live. -/
structure SessionsBalanced (proxy : SessionProxy) (ledger : SessionLedger) : Prop where
  once : (ledger.increments.map Prod.fst).Nodup
  decremented_once : ledger.decrements.Nodup
  matched : forall number clientId, (number, clientId) ∈ ledger.decrements ↔
    (number, clientId) ∈ ledger.increments ∧ proxy.live number = false
  counted : forall clientId, proxy.count clientId = liveSessions proxy ledger clientId
  nonnegative : forall clientId, 0 ≤ proxy.count clientId
  settled : forall clientId,
    (forall number, (number, clientId) ∈ ledger.increments -> proxy.live number = false) ->
    proxy.count clientId = 0

/-! ## Steps -/

/-- Everything a step can do to the handlers, the counter and the ledger. -/
inductive SessionEffect (proxy : SessionProxy) (ledger : SessionLedger) :
    SessionAction -> SessionProxy -> SessionLedger -> Prop where
  | accepted :
      SessionEffect proxy ledger .accept
        { proxy with handlers := proxy.handlers ++ [.accepted] } ledger
  | moved (number : Nat) (event : HandlerEvent) (before after : HandlerStage)
      (found : proxy.handlers[number]? = some before) (same : after.holds = before.holds)
      (stillDone : before.done = true -> after.done = true) :
      SessionEffect proxy ledger (.handler number event) (proxy.move number after) ledger
  | raised (number : Nat) (clientId : String)
      (found : proxy.handlers[number]? = some (.counted clientId)) :
      SessionEffect proxy ledger (.handler number (.deviceSessionOpened true))
        (proxy.move number (.closing none)) ledger
  | opened (number : Nat) (clientId : String)
      (found : proxy.handlers[number]? = some (.recorded clientId)) :
      SessionEffect proxy ledger (.handler number .openSession)
        { openSessions := countSession proxy.openSessions clientId
          handlers := proxy.handlers.set number (.counted clientId) }
        { ledger with increments := ledger.increments ++ [(number, clientId)] }
  | closed (number : Nat) (clientId : String)
      (found : proxy.handlers[number]? = some (.closing (some clientId))) :
      SessionEffect proxy ledger (.handler number .closeSession)
        (proxy.closeSession number clientId)
        { ledger with decrements := ledger.decrements ++ [(number, clientId)] }

theorem sessionEffect_of_handle {proxy after : SessionProxy} {ledger : SessionLedger}
    {number : Nat} {stage : HandlerStage} {event : HandlerEvent}
    (found : proxy.handlers[number]? = some stage)
    (handled : proxy.handle number stage event = some after) :
    SessionEffect proxy ledger (.handler number event) after
      (ledger.observe proxy (.handler number event)) := by
  cases event with
  | connectBroker reached =>
      simp only [SessionProxy.handle] at handled
      split at handled
      · next ready =>
          cases handled
          subst ready
          refine .moved number _ .accepted _ found ?_ (fun impossible => by cases impossible)
          cases reached <;> rfl
      · cases handled
  | readConnect outcome =>
      simp only [SessionProxy.handle] at handled
      split at handled
      · next ready =>
          cases handled
          subst ready
          refine .moved number _ .connected _ found ?_ (fun impossible => by cases impossible)
          cases outcome <;> rfl
      · cases handled
  | recordIdentity raises =>
      cases stage with
      | learned clientId =>
          cases handled
          refine .moved number _ _ _ found ?_ (fun impossible => by cases impossible)
          cases raises <;> rfl
      | _ => cases handled
  | openSession =>
      cases stage with
      | recorded clientId =>
          cases handled
          simp only [SessionLedger.observe, found]
          exact .opened number clientId found
      | _ => cases handled
  | deviceSessionOpened raises =>
      cases stage with
      | counted clientId =>
          cases handled
          cases raises with
          | true => exact .raised number clientId found
          | false =>
              exact .moved number _ _ _ found rfl (fun impossible => by cases impossible)
      | _ => cases handled
  | pipeEnds =>
      cases stage with
      | piping opened =>
          cases handled
          exact .moved number _ _ _ found rfl (fun impossible => by cases impossible)
      | _ => cases handled
  | closeSession =>
      cases stage with
      | closing opened =>
          cases opened with
          | none =>
              cases handled
              simp only [SessionLedger.observe, found]
              exact .moved number _ _ _ found rfl (fun impossible => by cases impossible)
          | some clientId =>
              cases handled
              simp only [SessionLedger.observe, found]
              exact .closed number clientId found
      | _ => cases handled
  | deviceSessionClosed raises =>
      cases stage with
      | telling clientId =>
          cases handled
          exact .moved number _ _ _ found rfl (fun _ => rfl)
      | _ => cases handled

theorem sessionEffect_of_step {state after : SessionProxy × SessionLedger}
    {action : SessionAction} (step : ledgerMachine.step state action = some after) :
    SessionEffect state.1 state.2 action after.1 after.2 := by
  obtain ⟨proxy, ledger⟩ := state
  obtain ⟨proxyAfter, ledgerAfter⟩ := after
  obtain ⟨stepped, observed⟩ := Machine.watched_step step
  rw [observed]
  cases action with
  | accept =>
      cases stepped
      exact .accepted
  | handler number event =>
      obtain ⟨stage, found, handled⟩ := Option.bind_eq_some_iff.mp stepped
      exact sessionEffect_of_handle found handled

/-! ## The joint invariant -/

/-- What is counted is held by a handler or has been uncounted by it. -/
structure HandlersTracked (proxy : SessionProxy) (ledger : SessionLedger) : Prop where
  incremented : forall number clientId, (number, clientId) ∈ ledger.increments ->
    exists stage, proxy.handlers[number]? = some stage ∧
      (stage.holds = some clientId ∨
        (stage.done = true ∧ (number, clientId) ∈ ledger.decrements))
  holding : forall number stage clientId, proxy.handlers[number]? = some stage ->
    stage.holds = some clientId -> (number, clientId) ∈ ledger.increments
  decremented : forall number clientId, (number, clientId) ∈ ledger.decrements ->
    (number, clientId) ∈ ledger.increments ∧
      exists stage, proxy.handlers[number]? = some stage ∧ stage.done = true
  once : (ledger.increments.map Prod.fst).Nodup
  decremented_once : ledger.decrements.Nodup
  difference : forall clientId, proxy.count clientId =
    (ledger.increments.countP (fun entry => decide (entry.2 = clientId)) : Int) -
      ledger.decrements.countP (fun entry => decide (entry.2 = clientId))

theorem not_done_of_holds {stage : HandlerStage} {clientId : String}
    (holds : stage.holds = some clientId) : stage.done = false := by
  cases stage <;> first | rfl | cases holds

/-- The stages after one handler has moved. -/
theorem stage_of_set {handlers : List HandlerStage} {number : Nat} {before : HandlerStage}
    (found : handlers[number]? = some before) (after : HandlerStage) (other : Nat) :
    (handlers.set number after)[other]? =
      if number = other then some after else handlers[other]? := by
  have inside := (List.getElem?_eq_some_iff.mp found).1
  rw [List.getElem?_set, if_pos inside]

/-- The invariant is the balance. -/
theorem HandlersTracked.balanced {proxy : SessionProxy} {ledger : SessionLedger}
    (tracked : HandlersTracked proxy ledger) : SessionsBalanced proxy ledger := by
  have matched : forall number clientId, (number, clientId) ∈ ledger.decrements ↔
      (number, clientId) ∈ ledger.increments ∧ proxy.live number = false := by
    intro number clientId
    constructor
    · intro member
      obtain ⟨counted, stage, found, done⟩ := tracked.decremented number clientId member
      refine ⟨counted, ?_⟩
      rw [SessionProxy.live, found, Option.any_some, done]
      rfl
    · rintro ⟨member, notLive⟩
      obtain ⟨stage, found, holds | ⟨-, uncounted⟩⟩ := tracked.incremented number clientId member
      · rw [SessionProxy.live, found, Option.any_some, not_done_of_holds holds] at notLive
        cases notLive
      · exact uncounted
  have counted : forall clientId, proxy.count clientId = liveSessions proxy ledger clientId := by
    intro clientId
    have unique : ledger.increments.Nodup := tracked.once.of_map
    -- The decrements are exactly the increments of handlers that are not live.
    have same : (ledger.decrements.filter (fun entry => decide (entry.2 = clientId))).Perm
        (ledger.increments.filter
          (fun entry => decide (entry.2 = clientId) && !proxy.live entry.1)) := by
      rw [List.perm_ext_iff_of_nodup (tracked.decremented_once.filter _) (unique.filter _)]
      rintro ⟨number, own⟩
      simp only [List.mem_filter, matched number own, decide_eq_true_eq, Bool.and_eq_true,
        Bool.not_eq_true']
      exact ⟨fun both => ⟨both.1.1, both.2, both.1.2⟩, fun all => ⟨⟨all.1, all.2.2⟩, all.2.1⟩⟩
    have sizes := same.length_eq
    rw [← List.countP_eq_length_filter, ← List.countP_eq_length_filter] at sizes
    have split := List.countP_eq_countP_filter_add ledger.increments
      (fun entry => decide (entry.2 = clientId)) (fun entry => proxy.live entry.1)
    simp only [List.countP_filter] at split
    rw [tracked.difference, liveSessions]
    omega
  refine ⟨tracked.once, tracked.decremented_once, matched, counted, ?_, ?_⟩
  · intro clientId
    rw [counted]
    exact Int.natCast_nonneg _
  · intro clientId none
    have empty : liveSessions proxy ledger clientId = 0 := by
      rw [liveSessions, List.countP_eq_zero]
      rintro ⟨number, own⟩ member selected
      rw [Bool.and_eq_true, decide_eq_true_eq] at selected
      have dead := none number (selected.1 ▸ member)
      rw [dead] at selected
      cases selected.2
    rw [counted, empty]
    rfl

section Tracking

variable {proxy : SessionProxy} {ledger : SessionLedger} {number : Nat}

/-- A new handler holds nothing. -/
theorem HandlersTracked.accept (tracked : HandlersTracked proxy ledger) :
    HandlersTracked { proxy with handlers := proxy.handlers ++ [.accepted] } ledger := by
  have kept : forall {other : Nat} {stage : HandlerStage}, proxy.handlers[other]? = some stage ->
      (proxy.handlers ++ [HandlerStage.accepted])[other]? = some stage := by
    intro other stage found
    rw [List.getElem?_append_left (List.getElem?_eq_some_iff.mp found).1]
    exact found
  refine { tracked with incremented := ?_, holding := ?_, decremented := ?_ }
  · intro other clientId member
    obtain ⟨stage, found, either⟩ := tracked.incremented other clientId member
    exact ⟨stage, kept found, either⟩
  · intro other stage clientId found holds
    rw [List.getElem?_append] at found
    split at found
    · exact tracked.holding other stage clientId found holds
    · have fresh := List.mem_of_getElem? found
      rw [List.mem_singleton.mp fresh] at holds
      cases holds
  · intro other clientId member
    obtain ⟨counted, stage, found, done⟩ := tracked.decremented other clientId member
    exact ⟨counted, stage, kept found, done⟩

/-- A handler that moves without counting keeps what it holds. -/
theorem HandlersTracked.move (tracked : HandlersTracked proxy ledger)
    {before after : HandlerStage} (found : proxy.handlers[number]? = some before)
    (same : after.holds = before.holds) (stillDone : before.done = true -> after.done = true) :
    HandlersTracked (proxy.move number after) ledger := by
  have stages := stage_of_set found after
  refine { tracked with incremented := ?_, holding := ?_, decremented := ?_ }
  · intro other clientId member
    obtain ⟨stage, there, either⟩ := tracked.incremented other clientId member
    rw [SessionProxy.move, stages]
    split
    · next own =>
        subst own
        rw [found] at there
        cases there
        exact ⟨after, rfl, either.imp (same.trans ·) (fun both => ⟨stillDone both.1, both.2⟩)⟩
    · exact ⟨stage, there, either⟩
  · intro other stage clientId there holds
    rw [SessionProxy.move, stages] at there
    split at there
    · next own =>
        subst own
        cases there
        exact tracked.holding number before clientId found (same.symm.trans holds)
    · exact tracked.holding other stage clientId there holds
  · intro other clientId member
    obtain ⟨counted, stage, there, done⟩ := tracked.decremented other clientId member
    refine ⟨counted, ?_⟩
    rw [SessionProxy.move, stages]
    split
    · next own =>
        subst own
        rw [found] at there
        cases there
        exact ⟨after, rfl, stillDone done⟩
    · exact ⟨stage, there, done⟩

/-- A handler that is not done holds the session it has counted. -/
theorem HandlersTracked.holds_of_counted (tracked : HandlersTracked proxy ledger)
    {stage : HandlerStage} (found : proxy.handlers[number]? = some stage)
    (alive : stage.done = false) {clientId : String}
    (member : (number, clientId) ∈ ledger.increments) : stage.holds = some clientId := by
  obtain ⟨other, there, held | ⟨done, -⟩⟩ := tracked.incremented number clientId member
  · rw [found, Option.some.injEq] at there
    rw [there]
    exact held
  · rw [found, Option.some.injEq] at there
    rw [← there, alive] at done
    cases done

/-- A handler that is not done has uncounted nothing. -/
theorem HandlersTracked.not_uncounted (tracked : HandlersTracked proxy ledger)
    {stage : HandlerStage} (found : proxy.handlers[number]? = some stage)
    (alive : stage.done = false) (clientId : String) :
    (number, clientId) ∉ ledger.decrements := by
  intro member
  obtain ⟨-, other, there, done⟩ := tracked.decremented number clientId member
  rw [found, Option.some.injEq] at there
  rw [← there, alive] at done
  cases done

/-- A session that a handler holds is counted. -/
theorem HandlersTracked.count_pos (tracked : HandlersTracked proxy ledger)
    {stage : HandlerStage} {clientId : String} (found : proxy.handlers[number]? = some stage)
    (holds : stage.holds = some clientId) : 0 < proxy.count clientId := by
  rw [tracked.balanced.counted]
  have live : 0 < liveSessions proxy ledger clientId := by
    rw [liveSessions, List.countP_pos_iff]
    refine ⟨(number, clientId), tracked.holding number stage clientId found holds, ?_⟩
    rw [SessionProxy.live, found, decide_eq_true rfl, Option.any_some, not_done_of_holds holds]
    rfl
  omega

theorem HandlersTracked.openSession (tracked : HandlersTracked proxy ledger) {clientId : String}
    (found : proxy.handlers[number]? = some (.recorded clientId)) :
    HandlersTracked
      { openSessions := countSession proxy.openSessions clientId
        handlers := proxy.handlers.set number (.counted clientId) }
      { ledger with increments := ledger.increments ++ [(number, clientId)] } := by
  have stages := stage_of_set found (.counted clientId)
  have fresh : forall own, (number, own) ∉ ledger.increments := by
    intro own member
    cases tracked.holds_of_counted found rfl member
  refine ⟨?_, ?_, ?_, ?_, tracked.decremented_once, ?_⟩
  · intro other own member
    rw [stages]
    rcases List.mem_append.mp member with old | new
    · obtain ⟨stage, there, either⟩ := tracked.incremented other own old
      have apart : number ≠ other := by
        intro same
        exact fresh own (same ▸ old)
      rw [if_neg apart]
      exact ⟨stage, there, either⟩
    · cases List.mem_singleton.mp new
      rw [if_pos rfl]
      exact ⟨.counted clientId, rfl, Or.inl rfl⟩
  · intro other stage own there holds
    rw [stages] at there
    split at there
    · next same =>
        subst same
        cases there
        cases holds
        exact List.mem_append_right _ (List.mem_singleton.mpr rfl)
    · exact List.mem_append_left _ (tracked.holding other stage own there holds)
  · intro other own member
    obtain ⟨counted, stage, there, done⟩ := tracked.decremented other own member
    refine ⟨List.mem_append_left _ counted, ?_⟩
    have apart : number ≠ other := by
      intro same
      exact fresh own (same ▸ counted)
    rw [stages, if_neg apart]
    exact ⟨stage, there, done⟩
  · rw [List.map_append, List.map_singleton, List.nodup_append]
    refine ⟨tracked.once, List.nodup_singleton _, ?_⟩
    intro other member same singleton equal
    rw [List.mem_singleton.mp singleton] at equal
    obtain ⟨⟨first, own⟩, counted, rfl⟩ := List.mem_map.mp member
    have sameHandler : first = number := equal
    exact fresh own (sameHandler ▸ counted)
  · intro own
    have counts := sessionCount_countSession proxy.openSessions clientId own
    have difference := tracked.difference own
    rw [SessionProxy.count] at difference ⊢
    rw [counts, difference, List.countP_append, List.countP_singleton]
    by_cases same : clientId = own
    · simp only [same, if_true, decide_true]
      omega
    · simp only [same, if_false, decide_false, Bool.false_eq_true]
      omega

theorem HandlersTracked.closeSession (tracked : HandlersTracked proxy ledger)
    {clientId : String} (found : proxy.handlers[number]? = some (.closing (some clientId))) :
    HandlersTracked (proxy.closeSession number clientId)
      { ledger with decrements := ledger.decrements ++ [(number, clientId)] } := by
  have stages := stage_of_set found
    (if (uncountSession proxy.openSessions clientId).2 then .finished else .telling clientId)
  have done : (if (uncountSession proxy.openSessions clientId).2 then HandlerStage.finished
      else .telling clientId).done = true := by
    split <;> rfl
  have empty : (if (uncountSession proxy.openSessions clientId).2 then HandlerStage.finished
      else .telling clientId).holds = none := by
    split <;> rfl
  have held := tracked.holding number _ clientId found rfl
  have undone := tracked.not_uncounted found rfl
  refine ⟨?_, ?_, ?_, tracked.once, ?_, ?_⟩
  · intro other own member
    obtain ⟨stage, there, either⟩ := tracked.incremented other own member
    rw [SessionProxy.closeSession, stages]
    split
    · next same =>
        subst same
        cases tracked.holds_of_counted found rfl member
        exact ⟨_, rfl, Or.inr ⟨done, List.mem_append_right _ (List.mem_singleton.mpr rfl)⟩⟩
    · exact ⟨stage, there, either.imp_right
        (fun both => ⟨both.1, List.mem_append_left _ both.2⟩)⟩
  · intro other stage own there holds
    rw [SessionProxy.closeSession, stages] at there
    split at there
    · cases there
      rw [empty] at holds
      cases holds
    · exact tracked.holding other stage own there holds
  · intro other own member
    rw [SessionProxy.closeSession, stages]
    rcases List.mem_append.mp member with old | new
    · obtain ⟨counted, stage, there, finished⟩ := tracked.decremented other own old
      refine ⟨counted, ?_⟩
      have apart : number ≠ other := by
        intro same
        exact undone own (same ▸ old)
      rw [if_neg apart]
      exact ⟨stage, there, finished⟩
    · cases List.mem_singleton.mp new
      rw [if_pos rfl]
      exact ⟨held, _, rfl, done⟩
  · rw [List.nodup_append]
    refine ⟨tracked.decremented_once, List.nodup_singleton _, ?_⟩
    intro entry member last singleton equal
    rw [equal, List.mem_singleton.mp singleton] at member
    exact undone clientId member
  · intro own
    have counts := sessionCount_uncountSession (tracked.count_pos found rfl) own
    have difference := tracked.difference own
    rw [SessionProxy.count] at difference ⊢
    rw [SessionProxy.closeSession, counts, difference, List.countP_append, List.countP_singleton]
    by_cases same : clientId = own
    · simp only [same, if_true, decide_true]
      omega
    · simp only [same, if_false, decide_false, Bool.false_eq_true]
      omega

/-- One step in which the listener of an opened session returns. -/
theorem HandlersTracked.step {action : SessionAction} {after : SessionProxy}
    {ledgerAfter : SessionLedger} (tracked : HandlersTracked proxy ledger)
    (returns : listenerReturns action = true)
    (effect : SessionEffect proxy ledger action after ledgerAfter) :
    HandlersTracked after ledgerAfter := by
  cases effect with
  | accepted => exact tracked.accept
  | moved number event before after found same stillDone => exact tracked.move found same stillDone
  | raised number clientId found => cases returns
  | opened number clientId found => exact tracked.openSession found
  | closed number clientId found => exact tracked.closeSession found

end Tracking

/-! ## Every run -/

theorem handlersTracked_initial : HandlersTracked {} {} where
  incremented := fun _ _ member => absurd member List.not_mem_nil
  holding := fun _ _ _ found => by cases found
  decremented := fun _ _ member => absurd member List.not_mem_nil
  once := List.nodup_nil
  decremented_once := List.nodup_nil
  difference := fun _ => rfl

/-- In every run in which no call of `device_session_opened` raises, the
sessions are balanced, whatever else ends the handlers. -/
theorem sessions_balanced_run (actions : List SessionAction)
    (returns : ledgerMachine.Meets (fun _ action => listenerReturns action = true) ({}, {})
      actions) :
    SessionsBalanced (ledgerMachine.run ({}, {}) actions).1
      (ledgerMachine.run ({}, {}) actions).2 := by
  have tracked : HandlersTracked (ledgerMachine.run ({}, {}) actions).1
      (ledgerMachine.run ({}, {}) actions).2 := by
    apply ledgerMachine.run_invariant_of_meets (fun _ action => listenerReturns action = true)
      (fun state => HandlersTracked state.1 state.2)
    · intro state action after before keeps moved
      exact before.step keeps (sessionEffect_of_step moved)
    · exact handlersTracked_initial
    · exact returns
  exact tracked.balanced

/-- A connection and what happens to its handler. -/
def connection (number : Nat) (events : List HandlerEvent) : List SessionAction :=
  .accept :: events.map (.handler number)

/-- The listener raises when it is told of the session. -/
def leakingConnection : List SessionAction :=
  connection 0 [.connectBroker true, .readConnect (.identified "feeder"), .recordIdentity false,
    .openSession, .deviceSessionOpened true, .closeSession]

/-- The handler of that connection ends and the session stays counted. -/
theorem raising_listener_leaks_session :
    ¬ forall actions : List SessionAction,
      SessionsBalanced (ledgerMachine.run ({}, {}) actions).1
        (ledgerMachine.run ({}, {}) actions).2 := by
  intro always
  have same := (always leakingConnection).counted "feeder"
  have counted : (ledgerMachine.run ({}, {}) leakingConnection).1.count "feeder" = 1 := by
    decide +kernel
  have none : liveSessions (ledgerMachine.run ({}, {}) leakingConnection).1
      (ledgerMachine.run ({}, {}) leakingConnection).2 "feeder" = 0 := by
    decide +kernel
  rw [counted, none] at same
  cases same

/-- A second connection of the feeder whose pipe fails while the first one goes
on, and a third one that the registry rejects. -/
def overlappingConnections : List SessionAction :=
  connection 0 [.connectBroker true, .readConnect (.identified "feeder"), .recordIdentity false,
    .openSession, .deviceSessionOpened false] ++
  connection 1 [.connectBroker true, .readConnect (.identified "feeder"), .recordIdentity false,
    .openSession, .deviceSessionOpened false, .pipeEnds, .closeSession] ++
  connection 2 [.connectBroker true, .readConnect (.identified "feeder"), .recordIdentity true,
    .closeSession]

theorem overlapping_connections_balanced :
    (ledgerMachine.run ({}, {}) overlappingConnections).1.count "feeder" = 1 ∧
      SessionsBalanced (ledgerMachine.run ({}, {}) overlappingConnections).1
        (ledgerMachine.run ({}, {}) overlappingConnections).2 :=
  ⟨by decide +kernel, sessions_balanced_run overlappingConnections (by decide +kernel)⟩

end Presence
end PetlibroRelay
