import PetlibroRelay.Camera.StreamClient

namespace PetlibroRelay
namespace Camera

open Foundations

/-!
# The sessions behind the tokens

A browser that has exchanged an offer gets a token, and the client remembers behind it the
device and the address of the session in go2rtc.  Closing takes the entry out first, and
looks afterwards whether the token belongs to the device and whether go2rtc deletes the
session.  An entry that is taken out is never put back.

Here a call runs to its end before the next one begins.  Between the calls the client does
anything else that it does.
-/

/-- The address of a session, from the location that go2rtc answered with. -/
def sessionUrl (settings : Go2RtcSettings) (location : Option String) : Option String :=
  (location.filter (fun text => decide (text ≠ ""))).map (fun text =>
    if "http".isPrefixOf text then text else settings.baseUrl ++ text)

/-- What a call of `close_webrtc` comes to. -/
structure CloseOutcome where
  request : Option String
  closed : Bool
  deriving DecidableEq, Repr

namespace Go2RtcStreamClient

/-! ## Whole calls -/

/-- `exchange_webrtc` with its requests.  The result is the token, and nothing if it
raises. -/
def exchangeWebrtcCall (client : Go2RtcStreamClient) (settings : Go2RtcSettings)
    (deviceId viewerId : String) (replies : SidecarReplies) :
    Go2RtcStreamClient × Option String :=
  if settings.enabled = false then (client, none)
  else
    let beaten := client.heartbeatViewer deviceId viewerId
    if beaten.2 = false then (beaten.1, none)
    else
      let ensured := beaten.1.ensureStream deviceId settings replies
      if ensured.2 = false ∨ replies.offerAnswered = false then (ensured.1, none)
      else
        (ensured.1.rememberWebrtcSession deviceId settings replies.location replies.sessionId,
          some replies.sessionId)

/-- `close_webrtc` with its request, which go2rtc executes or not. -/
def closeWebrtcCall (client : Go2RtcStreamClient) (deviceId sessionId : String) (deleted : Bool) :
    Go2RtcStreamClient × CloseOutcome :=
  let popped := { client with webrtcSessions := Dict.erase client.webrtcSessions sessionId }
  match Dict.get? client.webrtcSessions sessionId with
  | none => (popped, ⟨none, false⟩)
  | some (owner, url) =>
      if owner ≠ deviceId then (popped, ⟨none, false⟩)
      else
        match url with
        | none => (popped, ⟨none, true⟩)
        | some address => (popped, ⟨some address, deleted⟩)

variable (client : Go2RtcStreamClient) (settings : Go2RtcSettings) (deviceId viewerId : String)

theorem next_advance (job : StreamJob) (rest : List StreamJob) (replies : SidecarReplies) :
    (streamMachine settings).next (client, [job :: rest]) (.advance 0 replies) =
      ((perform settings client replies job).1, [(perform settings client replies job).2 ++ rest]) :=
  rfl

theorem next_advance_nil (replies : SidecarReplies) :
    (streamMachine settings).next (client, [[]]) (.advance 0 replies) = (client, [[]]) := rfl

/-- The jobs of a call, one after another, do what the call does. -/
theorem exchangeWebrtcCall_run (replies : SidecarReplies) :
    ((streamMachine settings).run (client, []) [.call (.exchange deviceId viewerId),
        .advance 0 replies, .advance 0 replies, .advance 0 replies, .advance 0 replies]).1 =
      (client.exchangeWebrtcCall settings deviceId viewerId replies).1 := by
  have called : (streamMachine settings).next (client, []) (.call (.exchange deviceId viewerId)) =
      (client, [[.exchangeWebrtc deviceId viewerId]]) := rfl
  simp only [Machine.run_cons, Machine.run_nil, called, next_advance, perform, exchangeWebrtcCall]
  by_cases disabled : settings.enabled = false
  · simp only [if_pos disabled, List.append_nil, next_advance_nil]
  · simp only [if_neg disabled]
    cases beaten : (client.heartbeatViewer deviceId viewerId).2 with
    | false => simp only [Bool.false_eq_true, if_false, if_true, List.append_nil, next_advance_nil]
    | true =>
        simp only [Bool.true_eq_false, if_false, if_true, List.append_nil, next_advance, perform]
        generalize (client.heartbeatViewer deviceId viewerId).1 = seen
        cases ensured : (seen.ensureStream deviceId settings replies).2 with
        | false => simp only [Bool.false_eq_true, if_false, next_advance_nil, true_or, if_true]
        | true =>
            cases answered : replies.offerAnswered <;>
              simp [next_advance, next_advance_nil, perform, answered]

theorem closeWebrtcCall_run (sessionId : String) (replies : SidecarReplies) (deleted : Bool) :
    ((streamMachine settings).run (client, []) [.call (.close deviceId sessionId),
        .advance 0 replies, .advance 0 replies]).1 =
      (client.closeWebrtcCall deviceId sessionId deleted).1 := by
  have called : (streamMachine settings).next (client, []) (.call (.close deviceId sessionId)) =
      (client, [[.closeWebrtc deviceId sessionId]]) := rfl
  simp only [Machine.run_cons, Machine.run_nil, called, next_advance, perform, closeWebrtc,
    closeWebrtcCall, List.append_nil]
  cases Dict.get? client.webrtcSessions sessionId with
  | none => rfl
  | some session =>
      obtain ⟨owner, url⟩ := session
      by_cases own : owner = deviceId
      · cases url with
        | none => simp only [next_advance_nil, own, ne_eq, not_true_eq_false, if_false]
        | some address =>
            simp only [own, ne_eq, not_true_eq_false, if_true, if_false, next_advance, perform]
      · cases url with
        | none => simp only [next_advance_nil, ne_eq, own, not_false_eq_true, if_true]
        | some address => simp only [own, ne_eq, not_false_eq_true, if_true, if_false, next_advance_nil]

/-! ## What happens to the sessions -/

theorem webrtcSessions_ensureStream (replies : SidecarReplies) :
    (client.ensureStream deviceId settings replies).1.webrtcSessions = client.webrtcSessions := by
  rcases client.ensureStream_cases deviceId settings replies with
    ⟨same, -⟩ | ⟨same, -⟩ | ⟨streams, verified, same, -⟩
  · rw [same]
  · rw [same]
  · rw [same]

theorem webrtcSessions_heartbeatViewer :
    (client.heartbeatViewer deviceId viewerId).1.webrtcSessions = client.webrtcSessions := by
  rw [heartbeatViewer]
  cases client.lastSeen deviceId viewerId with
  | none => rfl
  | some seen => rfl

/-- An exchange that returns a token remembers it with its device and its address, and any
other one remembers nothing. -/
theorem webrtcSessions_exchangeWebrtcCall (replies : SidecarReplies) :
    let exchanged := client.exchangeWebrtcCall settings deviceId viewerId replies
    (exchanged.2 = none ∧ exchanged.1.webrtcSessions = client.webrtcSessions) ∨
      (exchanged.2 = some replies.sessionId ∧ exchanged.1.webrtcSessions =
        Dict.set client.webrtcSessions replies.sessionId
          (deviceId, sessionUrl settings replies.location)) := by
  simp only [exchangeWebrtcCall]
  split
  · exact Or.inl ⟨rfl, rfl⟩
  · split
    · exact Or.inl ⟨rfl, client.webrtcSessions_heartbeatViewer deviceId viewerId⟩
    · have kept := (webrtcSessions_ensureStream (client.heartbeatViewer deviceId viewerId).1 settings
        deviceId replies).trans (client.webrtcSessions_heartbeatViewer deviceId viewerId)
      split
      · exact Or.inl ⟨rfl, kept⟩
      · refine Or.inr ⟨rfl, ?_⟩
        rw [← kept]
        rfl

/-- The token, the address behind it and the answer, in each case of a close. -/
theorem closeWebrtcCall_cases (sessionId : String) (deleted : Bool) :
    let closing := client.closeWebrtcCall deviceId sessionId deleted
    closing.1.webrtcSessions = Dict.erase client.webrtcSessions sessionId ∧
      ((closing.2 = ⟨none, false⟩ ∧ forall session,
          Dict.get? client.webrtcSessions sessionId = some session -> session.1 ≠ deviceId) ∨
        exists url, Dict.get? client.webrtcSessions sessionId = some (deviceId, url) ∧
          closing.2 = ⟨url, url.isNone || deleted⟩) := by
  simp only [closeWebrtcCall]
  cases found : Dict.get? client.webrtcSessions sessionId with
  | none => exact ⟨rfl, Or.inl ⟨rfl, by rintro _ ⟨⟩⟩⟩
  | some session =>
      obtain ⟨owner, url⟩ := session
      dsimp only
      by_cases own : owner = deviceId
      · rw [if_neg (not_not.mpr own), own]
        cases url with
        | none => exact ⟨rfl, Or.inr ⟨none, rfl, rfl⟩⟩
        | some address => exact ⟨rfl, Or.inr ⟨some address, rfl, rfl⟩⟩
      · rw [if_pos own]
        refine ⟨rfl, Or.inl ⟨rfl, ?_⟩⟩
        intro session same
        rw [← Option.some.inj same]
        exact own

end Go2RtcStreamClient

/-! ## Runs of calls -/

/-- The jobs that remember a session or forget one. -/
def StreamJob.handlesSessions : StreamJob -> Bool
  | .rememberWebrtcSession _ _ => true
  | .closeWebrtc _ _ => true
  | _ => false

theorem webrtcSessions_perform (settings : Go2RtcSettings) (client : Go2RtcStreamClient)
    (replies : SidecarReplies) {job : StreamJob} (apart : job.handlesSessions = false) :
    (Go2RtcStreamClient.perform settings client replies job).1.webrtcSessions =
      client.webrtcSessions := by
  cases job with
  | activateViewer device viewer => rfl
  | ensureViewed device viewer => exact client.webrtcSessions_ensureStream settings device replies
  | heartbeatViewer device viewer => exact client.webrtcSessions_heartbeatViewer device viewer
  | exchangeWebrtc device viewer =>
      rw [Go2RtcStreamClient.perform]
      split
      · rfl
      · exact client.webrtcSessions_heartbeatViewer device viewer
  | ensureExchanged device => exact client.webrtcSessions_ensureStream settings device replies
  | postOffer device => rfl
  | rememberWebrtcSession device location => cases apart
  | closeWebrtc device session => cases apart
  | deleteWebrtcSession url => rfl
  | deactivateViewer device viewer reason =>
      rw [Go2RtcStreamClient.perform, Go2RtcStreamClient.deactivateViewer]
      split <;> rfl
  | scheduleIdleStreamStop device =>
      rw [Go2RtcStreamClient.perform, Go2RtcStreamClient.scheduleIdleStreamStop]
      split
      · rfl
      · split <;> rfl
  | expireViewer device viewer =>
      rw [Go2RtcStreamClient.perform, Go2RtcStreamClient.expireViewer]
      split
      · rfl
      · split <;> rfl
  | stopIdleStream device =>
      rw [Go2RtcStreamClient.perform, Go2RtcStreamClient.stopIdleStream]
      split <;> rfl
  | deleteStream device =>
      rw [Go2RtcStreamClient.perform, Go2RtcStreamClient.deleteStream]
      split <;> rfl

/-- Exchanges and closes with what go2rtc answers, and the jobs of all other calls and
callbacks. -/
inductive WhepAction where
  | exchange (deviceId viewerId : String) (replies : SidecarReplies)
  | close (deviceId sessionId : String) (deleted : Bool)
  | other (job : StreamJob) (replies : SidecarReplies)
  | tick (later : Rat)
  deriving DecidableEq, Repr

def whepMachine (settings : Go2RtcSettings) : Machine Go2RtcStreamClient WhepAction where
  step client
    | .exchange deviceId viewerId replies =>
        some (client.exchangeWebrtcCall settings deviceId viewerId replies).1
    | .close deviceId sessionId deleted => some (client.closeWebrtcCall deviceId sessionId deleted).1
    | .other job replies =>
        if job.handlesSessions then none
        else some (Go2RtcStreamClient.perform settings client replies job).1
    | .tick later => if client.now ≤ later then some { client with now := later } else none

/-- The tokens that have been returned and not been closed since, with their devices and
addresses. -/
abbrev OpenSessions := List (String × (String × Option String))

def noteSessions (settings : Go2RtcSettings) (openSessions : OpenSessions)
    (client : Go2RtcStreamClient) : WhepAction -> OpenSessions
  | .exchange deviceId viewerId replies =>
      match (client.exchangeWebrtcCall settings deviceId viewerId replies).2 with
      | some token => (token, (deviceId, sessionUrl settings replies.location)) :: openSessions
      | none => openSessions
  | .close deviceId sessionId deleted =>
      if (client.closeWebrtcCall deviceId sessionId deleted).2.closed then
        openSessions.filter (fun entry => decide (¬(entry.1 = sessionId ∧ entry.2.1 = deviceId)))
      else openSessions
  | _ => openSessions

/-- The client beside its open sessions. -/
def sessionMachine (settings : Go2RtcSettings) :
    Machine (Go2RtcStreamClient × OpenSessions) WhepAction :=
  (whepMachine settings).watched (noteSessions settings)

/-! ## The property, the assumption and the condition -/

/-- Closing an open session under its device asks go2rtc to delete its address, if it has
one, and succeeds if go2rtc does. -/
def SessionsClosable (state : Go2RtcStreamClient × OpenSessions) : Prop :=
  forall token deviceId url, (token, (deviceId, url)) ∈ state.2 -> forall deleted,
    (state.1.closeWebrtcCall deviceId token deleted).2 = ⟨url, url.isNone || deleted⟩

/-- A close of an unknown token, one under another device and one whose request fails leave
the remembered sessions alone. -/
def LeavesSessions (state : Go2RtcStreamClient × OpenSessions) : WhepAction -> Prop
  | .close deviceId sessionId deleted =>
      (forall session, Dict.get? state.1.webrtcSessions sessionId = some session ->
        session.1 ≠ deviceId ∨ (session.2.isSome = true ∧ deleted = false)) ->
      (state.1.closeWebrtcCall deviceId sessionId deleted).1.webrtcSessions =
        state.1.webrtcSessions
  | _ => True

/-- A new token is none of the remembered ones. -/
def TokensFresh (state : Go2RtcStreamClient × OpenSessions) : WhepAction -> Prop
  | .exchange _ _ replies => replies.sessionId ∉ Dict.keys state.1.webrtcSessions
  | _ => True

/-- A remembered token is named under its own device only, and the request for its session
is executed. -/
def ClosesCleanly (state : Go2RtcStreamClient × OpenSessions) : WhepAction -> Prop
  | .close deviceId sessionId deleted =>
      forall session, Dict.get? state.1.webrtcSessions sessionId = some session ->
        session.1 = deviceId ∧ (session.2.isSome = true -> deleted = true)
  | _ => True

instance (state : Go2RtcStreamClient × OpenSessions) :
    (action : WhepAction) -> Decidable (TokensFresh state action)
  | .exchange _ _ replies =>
      inferInstanceAs (Decidable (replies.sessionId ∉ Dict.keys state.1.webrtcSessions))
  | .close _ _ _ | .other _ _ | .tick _ => isTrue trivial

instance (state : Go2RtcStreamClient × OpenSessions) :
    (action : WhepAction) -> Decidable (ClosesCleanly state action)
  | .close deviceId sessionId deleted =>
      inferInstanceAs (Decidable (forall session,
        session ∈ Dict.get? state.1.webrtcSessions sessionId ->
          session.1 = deviceId ∧ (session.2.isSome = true -> deleted = true)))
  | .exchange _ _ _ | .other _ _ | .tick _ => isTrue trivial

/-! ## Steps -/

/-- The remembered sessions are left alone exactly by the closes that meet the condition. -/
theorem leavesSessions_iff (state : Go2RtcStreamClient × OpenSessions) (action : WhepAction) :
    LeavesSessions state action ↔ ClosesCleanly state action := by
  cases action with
  | close deviceId sessionId deleted =>
      have popped := (state.1.closeWebrtcCall_cases deviceId sessionId deleted).1
      rw [LeavesSessions, ClosesCleanly, popped]
      constructor
      · intro leaves session found
        by_contra unclean
        rw [not_and_or, Classical.not_imp, Bool.not_eq_true] at unclean
        have kept := leaves (fun other same => by
          rw [found] at same
          rw [← Option.some.inj same]
          exact unclean)
        have gone := Dict.get?_erase state.1.webrtcSessions sessionId sessionId
        rw [kept, found, if_pos rfl] at gone
        cases gone
      · intro cleanly refused
        have absent : Dict.get? state.1.webrtcSessions sessionId = none := by
          rw [Option.eq_none_iff_forall_ne_some]
          intro session found
          obtain ⟨own, executed⟩ := cleanly session found
          rcases refused session found with foreign | ⟨addressed, failed⟩
          · exact foreign own
          · rw [executed addressed] at failed
            cases failed
        exact Dict.erase_of_get?_eq_none absent
  | _ => exact Iff.rfl

/-- Every open session is remembered. -/
def OpenRemembered (state : Go2RtcStreamClient × OpenSessions) : Prop :=
  forall token session, (token, session) ∈ state.2 ->
    Dict.get? state.1.webrtcSessions token = some session

theorem OpenRemembered.closable {state : Go2RtcStreamClient × OpenSessions}
    (remembered : OpenRemembered state) : SessionsClosable state := by
  intro token deviceId url opened deleted
  have found := remembered token _ opened
  rcases (state.1.closeWebrtcCall_cases deviceId token deleted).2 with
    ⟨-, foreign⟩ | ⟨known, same, outcome⟩
  · exact absurd rfl (foreign _ found)
  · rw [found, Option.some.injEq, Prod.mk.injEq] at same
    rw [outcome, same.2]

/-- A close that is clean and takes an entry out has succeeded. -/
theorem closed_of_closesCleanly {state : Go2RtcStreamClient × OpenSessions}
    {deviceId sessionId : String} {deleted : Bool}
    (cleanly : ClosesCleanly state (.close deviceId sessionId deleted))
    {session : String × Option String}
    (found : Dict.get? state.1.webrtcSessions sessionId = some session) :
    (state.1.closeWebrtcCall deviceId sessionId deleted).2.closed = true := by
  obtain ⟨own, executed⟩ := cleanly session found
  rcases (state.1.closeWebrtcCall_cases deviceId sessionId deleted).2 with
    ⟨-, foreign⟩ | ⟨url, same, outcome⟩
  · exact absurd own (foreign session found)
  · rw [found, Option.some.injEq] at same
    rw [same] at executed
    rw [outcome]
    cases url with
    | none => rfl
    | some address => exact executed rfl

/-- A new session is remembered, and under a new token it replaces none. -/
theorem OpenRemembered.exchanged {state : Go2RtcStreamClient × OpenSessions}
    (remembered : OpenRemembered state) (settings : Go2RtcSettings) {deviceId viewerId : String}
    {replies : SidecarReplies} (fresh : TokensFresh state (.exchange deviceId viewerId replies)) :
    OpenRemembered ((state.1.exchangeWebrtcCall settings deviceId viewerId replies).1,
      noteSessions settings state.2 state.1 (.exchange deviceId viewerId replies)) := by
  intro token session opened
  rcases state.1.webrtcSessions_exchangeWebrtcCall settings deviceId viewerId replies with
    ⟨raised, kept⟩ | ⟨returned, added⟩
  · rw [noteSessions, raised] at opened
    rw [kept]
    exact remembered token session opened
  · rw [noteSessions, returned] at opened
    rw [added]
    rcases List.mem_cons.mp opened with new | old
    · cases new
      exact Dict.get?_set_self _ _ _
    · have found := remembered token session old
      have different : replies.sessionId ≠ token := by
        intro same
        rw [TokensFresh, same, ← Dict.get?_eq_none_iff, found] at fresh
        cases fresh
      rw [Dict.get?_set_of_ne _ _ different]
      exact found

/-- A close forgets its own session only. -/
theorem OpenRemembered.closed {state : Go2RtcStreamClient × OpenSessions}
    (remembered : OpenRemembered state) (settings : Go2RtcSettings)
    {deviceId sessionId : String} {deleted : Bool}
    (cleanly : ClosesCleanly state (.close deviceId sessionId deleted)) :
    OpenRemembered ((state.1.closeWebrtcCall deviceId sessionId deleted).1,
      noteSessions settings state.2 state.1 (.close deviceId sessionId deleted)) := by
  intro token session opened
  rw [(state.1.closeWebrtcCall_cases deviceId sessionId deleted).1, Dict.get?_erase]
  rw [noteSessions] at opened
  by_cases named : sessionId = token
  · subst named
    split at opened
    · obtain ⟨old, other⟩ := List.mem_filter.mp opened
      have own := (cleanly session (remembered sessionId session old)).1
      exact absurd ⟨rfl, own⟩ (of_decide_eq_true other)
    · next failed =>
        have found := remembered sessionId session opened
        exact absurd (closed_of_closesCleanly cleanly found) failed
  · rw [if_neg named]
    refine remembered token session ?_
    split at opened
    · exact (List.mem_filter.mp opened).1
    · exact opened

theorem openRemembered_step (settings : Go2RtcSettings)
    (state : Go2RtcStreamClient × OpenSessions) (action : WhepAction)
    (after : Go2RtcStreamClient × OpenSessions) (remembered : OpenRemembered state)
    (conditions : TokensFresh state action ∧ ClosesCleanly state action)
    (moved : (sessionMachine settings).step state action = some after) : OpenRemembered after := by
  obtain ⟨stepped, noted⟩ := Machine.watched_step moved
  obtain ⟨client, openSessions⟩ := after
  dsimp only at stepped noted
  subst noted
  cases action with
  | exchange deviceId viewerId replies =>
      cases stepped
      exact remembered.exchanged settings conditions.1
  | close deviceId sessionId deleted =>
      cases stepped
      exact remembered.closed settings conditions.2
  | other job replies =>
      simp only [whepMachine] at stepped
      split at stepped
      · cases stepped
      · next apart =>
          cases stepped
          intro token session opened
          rw [webrtcSessions_perform settings state.1 replies ((Bool.not_eq_true _).mp apart)]
          exact remembered token session opened
  | tick later =>
      simp only [whepMachine] at stepped
      split at stepped
      · cases stepped
        exact remembered
      · cases stepped

/-! ## Runs -/

/-- A run leaves every open session closable, and its refused closes leave the remembered
sessions alone, exactly if each of its closes is clean. -/
theorem sessions_belong_to_their_device (settings : Go2RtcSettings) (client : Go2RtcStreamClient)
    (actions : List WhepAction)
    (fresh : (sessionMachine settings).Meets TokensFresh (client, []) actions) :
    ((forall early, early <+: actions ->
        SessionsClosable ((sessionMachine settings).run (client, []) early)) ∧
      (sessionMachine settings).Meets LeavesSessions (client, []) actions) ↔
      (sessionMachine settings).Meets ClosesCleanly (client, []) actions := by
  rw [Machine.meets_congr (sessionMachine settings) leavesSessions_iff]
  refine ⟨fun holds => holds.2, fun cleanly => ⟨?_, cleanly⟩⟩
  rintro early ⟨later, rfl⟩
  have conditions := Machine.meets_and fresh cleanly
  rw [Machine.meets_append] at conditions
  exact OpenRemembered.closable ((sessionMachine settings).run_invariant_of_meets _ OpenRemembered
    (openRemembered_step settings) (client, []) early
    (fun _ _ none => absurd none List.not_mem_nil) conditions.1)

/-- A viewer of the feeder gets a token. -/
def sessionOpened : List WhepAction :=
  [.other (.activateViewer "feeder" "viewer") {},
    .exchange "feeder" "viewer" { location := some "/api/webrtc?id=1", sessionId := "token" }]

/-- The viewer closes its session. -/
theorem session_closed_by_its_device :
    (forall early, early <+: sessionOpened ++ [.close "feeder" "token" true] ->
        SessionsClosable ((sessionMachine {}).run ({}, []) early)) ∧
      (sessionMachine {}).Meets LeavesSessions ({}, [])
        (sessionOpened ++ [.close "feeder" "token" true]) :=
  (sessions_belong_to_their_device {} {} (sessionOpened ++ [.close "feeder" "token" true])
    (by decide +kernel)).mpr (by decide +kernel)

/-- An open session that a close refuses is not closable. -/
theorem not_sessionsClosable {state : Go2RtcStreamClient × OpenSessions} {token deviceId : String}
    {url : Option String} (opened : (token, (deviceId, url)) ∈ state.2)
    (refused : (state.1.closeWebrtcCall deviceId token true).2 = ⟨none, false⟩) :
    ¬ SessionsClosable state := by
  intro closable
  have reaches := closable token deviceId url opened true
  rw [refused, CloseOutcome.mk.injEq, Bool.or_true] at reaches
  cases reaches.2

/-- A close under another device, and one that go2rtc does not execute, forget the session. -/
theorem refused_close_forgets_session :
    ((sessionMachine {}).Meets TokensFresh ({}, [])
        (sessionOpened ++ [.close "other" "token" true]) ∧
      ¬ SessionsClosable ((sessionMachine {}).run ({}, [])
        (sessionOpened ++ [.close "other" "token" true]))) ∧
    ((sessionMachine {}).Meets TokensFresh ({}, [])
        (sessionOpened ++ [.close "feeder" "token" false]) ∧
      ¬ SessionsClosable ((sessionMachine {}).run ({}, [])
        (sessionOpened ++ [.close "feeder" "token" false]))) := by
  refine ⟨⟨by decide +kernel, ?_⟩, ⟨by decide +kernel, ?_⟩⟩
  · exact @not_sessionsClosable _ "token" "feeder" (some "/api/webrtc?id=1") (by decide +kernel)
      (by decide +kernel)
  · exact @not_sessionsClosable _ "token" "feeder" (some "/api/webrtc?id=1") (by decide +kernel)
      (by decide +kernel)

end Camera
end PetlibroRelay
