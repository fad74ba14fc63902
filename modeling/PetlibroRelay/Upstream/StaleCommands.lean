import Mathlib.Tactic.Linarith
import PetlibroRelay.Upstream.DeviceContext

namespace PetlibroRelay
namespace Upstream

open Foundations
open Protocol
open Pump
open Queue

/-!
# Stale commands are not acted on

A command can wait in the queue for any time: the local client may be away, a
publish may fail, the process may restart.  What protects the device is that
the row carries the age its command tolerates and that the pump looks at the
clock after each peek, before it publishes.  The log notes every insert with the
message it came from, every look at the clock and every publish call.  Restarts
do not clear it.
-/

/-- One insert of `_enqueue`: the key, the call and the time of the database. -/
structure Insertion where
  id : Nat
  thread : EnqueueThread
  now : Rat
  deriving DecidableEq, Repr

/-- One publish call of a pump, with the latest expiry check of the iteration
it belongs to: the row that was checked and the time. -/
structure Handover where
  side : Side
  deviceId : String
  message : QueuedMessage
  checked : Option (QueuedMessage × Rat)
  deriving DecidableEq, Repr

structure HandoverLog where
  inserted : List Insertion := []
  checked : Side -> Option (QueuedMessage × Rat) := fun _ => none
  handovers : List Handover := []

/-- What an action adds to the log.  A peek begins a new iteration, so it
forgets the check of the one before. -/
def observeHandovers (log : HandoverLog) (relay : Relay) : RelayAction -> HandoverLog
  | .insert thread now =>
      { log with
        inserted := log.inserted ++ [⟨relay.core.queue.pendingMessages.sequence + 1, thread, now⟩] }
  | .pump side .peek => { log with checked := Function.update log.checked side none }
  | .pump side (.checkExpiry now) =>
      match (relay.core.pump side).phase with
      | .examining _ message =>
          { log with checked := Function.update log.checked side (some (message, now)) }
      | _ => log
  | .pump side (.publish _) =>
      match (relay.core.pump side).phase with
      | .publishing visit message =>
          { log with
            handovers := log.handovers ++
              [⟨side, visit.target.deviceId, message, log.checked side⟩] }
      | _ => log
  | .restart => { log with checked := fun _ => none }
  | _ => log

/-- The relay, watched by the log. -/
def handoverMachine (settings : ReplaySettings) (loads : Loads) :
    Machine (Relay × HandoverLog) RelayAction :=
  (relayMachine settings loads).watched observeHandovers

/-- The message is the one that was inserted for the device and direction,
with the age its policy allows. -/
structure Insertion.Carries (loads : Loads) (insertion : Insertion)
    (deviceId direction : String) (message : QueuedMessage) : Prop where
  id : insertion.id = message.id
  device : insertion.thread.deviceId = deviceId
  direction : directionOf insertion.thread.isCloudToDevice = direction
  topic : message.topic = insertion.thread.topic
  payload : message.payload = insertion.thread.payload
  createdAt : message.createdAt = ⌊insertion.now⌋
  maxAge : message.maxAgeSeconds = (policyFor insertion.thread.isCloudToDevice
    (extractCommand loads insertion.thread.payload)).maxAgeSeconds

/-- Cloud commands that may only be delivered within the grace. -/
def neverReplayCommands : List String :=
  (CLOUD_TO_DEVICE_POLICIES.filter (fun entry => decide (entry.2 = NEVER_REPLAY))).map Prod.fst

/-! ## The invariant -/

/-- A row that an insert of `_enqueue` put there, apart from its liveness. -/
def FromInsertion (loads : Loads) (log : HandoverLog) (row : Nat × PendingMessage) : Prop :=
  exists insertion, insertion ∈ log.inserted ∧ insertion.id = row.1 ∧
    exists isLive, { row.2 with isLive := isLive } =
      (enqueueCall loads insertion.thread isLive).row insertion.now

/-- A message in the hands of a pump, on its way past the check or noted. -/
structure Fresh (settings : ReplaySettings) (loads : Loads) (state : Relay × HandoverLog) :
    Prop where
  rows : forall row, row ∈ state.1.core.queue.pendingMessages.rows ->
    FromInsertion loads state.2 row
  held : forall side deviceId message, (state.1.core.pump side).phase.device? = some deviceId ->
    (state.1.core.pump side).phase.message? = some message ->
    exists insertion, insertion ∈ state.2.inserted ∧
      insertion.Carries loads deviceId (settings.pumpConfig side).direction message
  passed : forall side visit message,
    (state.1.core.pump side).phase = .admitting visit message ∨
      (state.1.core.pump side).phase = .publishing visit message ->
    exists now, state.2.checked side = some (message, now) ∧ isExpired message now = false
  handed : forall handover, handover ∈ state.2.handovers ->
    (exists now, handover.checked = some (handover.message, now) ∧
      isExpired handover.message now = false) ∧
    exists insertion, insertion ∈ state.2.inserted ∧
      insertion.Carries loads handover.deviceId (settings.pumpConfig handover.side).direction
        handover.message

theorem fresh_initial (settings : ReplaySettings) (loads : Loads) (maxSize sequence : Nat) :
    Fresh settings loads (Relay.initial maxSize sequence, {}) where
  rows := fun _ absent => nomatch absent
  held := fun side _ _ absent => by cases side <;> cases absent
  passed := fun side _ _ absent => by cases side <;> rcases absent with absent | absent <;>
    cases absent
  handed := fun _ absent => nomatch absent

/-- What a peek reports carries the policy of the message it was inserted for. -/
theorem carries_of_peeked {loads : Loads} {log : HandoverLog} {queue : MessageQueue}
    {deviceId direction : String} {prioritizeLive : Bool} {message : QueuedMessage}
    (rows : forall row, row ∈ queue.pendingMessages.rows -> FromInsertion loads log row)
    (found : queue.peekOldest deviceId direction prioritizeLive = some message) :
    exists insertion, insertion ∈ log.inserted ∧
      insertion.Carries loads deviceId direction message := by
  rcases MessageQueue.row_of_peekOldest found with ⟨row, member, rfl⟩
  rcases (queue.mem_partition_iff deviceId direction row).mp member with ⟨stored, device, lane⟩
  rcases rows row stored with ⟨insertion, known, id, isLive, same⟩
  have fields := PendingMessage.mk.inj same
  refine ⟨insertion, known, id, ?_, ?_, fields.2.2.2.1, fields.2.2.2.2.1,
    fields.2.2.2.2.2.2.2.2.2, fields.2.2.2.2.2.2.2.1⟩
  · exact Option.some.inj (fields.1.symm.trans device)
  · exact fields.2.2.1.symm.trans lane

/-! ## The log of a pump step -/

section PumpLog

variable (log : HandoverLog) (relay : Relay) (side : Side) (taken : PumpStep)

theorem observe_pump_inserted :
    (observeHandovers log relay (.pump side taken)).inserted = log.inserted := by
  cases taken with
  | checkExpiry now =>
      simp only [observeHandovers]
      split <;> rfl
  | publish outcome =>
      simp only [observeHandovers]
      split <;> rfl
  | _ => rfl

theorem observe_pump_other {other : Side} (different : other ≠ side) :
    (observeHandovers log relay (.pump side taken)).checked other = log.checked other := by
  cases taken with
  | peek => exact Function.update_of_ne different _ _
  | checkExpiry now =>
      simp only [observeHandovers]
      split
      · exact Function.update_of_ne different _ _
      · rfl
  | publish outcome =>
      simp only [observeHandovers]
      split <;> rfl
  | _ => rfl

/-- A handover is noted by a publish call only. -/
theorem observe_pump_handovers {handover : Handover}
    (member : handover ∈ (observeHandovers log relay (.pump side taken)).handovers) :
    handover ∈ log.handovers ∨ exists visit message,
      (relay.core.pump side).phase = .publishing visit message ∧
      handover = ⟨side, visit.target.deviceId, message, log.checked side⟩ := by
  cases taken with
  | checkExpiry now =>
      simp only [observeHandovers] at member
      split at member <;> exact Or.inl member
  | publish outcome =>
      simp only [observeHandovers] at member
      split at member
      · next visit message place =>
          rcases List.mem_append.mp member with old | new
          · exact Or.inl old
          · exact Or.inr ⟨visit, message, place, List.mem_singleton.mp new⟩
      · exact Or.inl member
  | _ => exact Or.inl member

end PumpLog

/-! ## Steps -/

/-- A changed liveness does not change where a row comes from. -/
theorem FromInsertion.of_later {loads : Loads} {log : HandoverLog} {queue left : MessageQueue}
    (rows : forall row, row ∈ queue.pendingMessages.rows -> FromInsertion loads log row)
    (later : queue.Later left)
    (same : left.pendingMessages.sequence = queue.pendingMessages.sequence)
    {row : Nat × PendingMessage} (member : row ∈ left.pendingMessages.rows) :
    FromInsertion loads log row := by
  rcases later.rows row member with ⟨old, oldMember, kept, _⟩ | new
  · rcases rows old oldMember with ⟨insertion, known, id, isLive, origin⟩
    rw [kept]
    exact ⟨insertion, known, id, isLive, origin⟩
  · have bound := left.pendingMessages.bounded row member
    omega

theorem fresh_pump {settings : ReplaySettings} {loads : Loads} {relay after : Relay}
    {log : HandoverLog} (fresh : Fresh settings loads (relay, log)) {side : Side}
    {taken : PumpStep}
    (stepped : (coreMachine settings).step relay.core (.pump side taken) = some after.core) :
    Fresh settings loads (after, observeHandovers log relay (.pump side taken)) := by
  rcases coreMachine_pump stepped with ⟨effect, still⟩
  have inserted := observe_pump_inserted log relay side taken
  refine ⟨?_, ?_, ?_, ?_⟩
  · intro row member
    have origin := FromInsertion.of_later fresh.rows effect.later effect.sequence_eq member
    rw [FromInsertion, inserted]
    exact origin
  · intro other deviceId message device holds
    rw [inserted]
    by_cases own : other = side
    · subst other
      rcases effect.held holds with ⟨peekedFor, there, found⟩ | ⟨before, same⟩
      · have sameDevice : peekedFor = deviceId := Option.some.inj (there.symm.trans device)
        rw [sameDevice] at found
        exact carries_of_peeked fresh.rows found
      · exact fresh.held side deviceId message (same ▸ device) before
    · rw [still other own] at device holds
      exact fresh.held other deviceId message device holds
  · intro other visit message arrived
    by_cases own : other = side
    · subst other
      rcases checked_of_passed (coreMachine_stepped stepped) arrived with
        ⟨now, rfl, place, notOld⟩ | ⟨now, rfl, place⟩
      · refine ⟨now, ?_, notOld⟩
        simp only [observeHandovers, place, Function.update_self]
      · exact fresh.passed side visit message (Or.inl place)
    · rw [still other own] at arrived
      rw [observe_pump_other log relay side taken own]
      exact fresh.passed other visit message arrived
  · intro handover member
    rw [inserted]
    rcases observe_pump_handovers log relay side taken member with old |
      ⟨visit, message, place, rfl⟩
    · exact fresh.handed handover old
    · refine ⟨fresh.passed side visit message (Or.inr place), ?_⟩
      exact fresh.held side visit.target.deviceId message (by rw [place]; rfl)
        (by rw [place]; rfl)

/-- Later inserts keep what is known about earlier ones. -/
theorem fresh_insert {settings : ReplaySettings} {loads : Loads} {relay after : Relay}
    {log : HandoverLog} (fresh : Fresh settings loads (relay, log)) {thread : EnqueueThread}
    {now : Rat} {isLive : Bool}
    (changed : after.core = { relay.core with
      queue := (relay.core.queue.enqueue (enqueueCall loads thread isLive) now).1 }) :
    Fresh settings loads (after, observeHandovers log relay (.insert thread now)) := by
  have grows : forall insertion, insertion ∈ log.inserted ->
      insertion ∈ (observeHandovers log relay (.insert thread now)).inserted :=
    fun _ member => List.mem_append_left _ member
  have pumps : forall side, after.core.pump side = relay.core.pump side := by
    intro side
    rw [changed]
    cases side <;> rfl
  refine ⟨?_, ?_, ?_, ?_⟩
  · intro row member
    rw [changed] at member
    rcases relay.core.queue.mem_rows_enqueue _ now member with old | new
    · rcases fresh.rows row old with ⟨insertion, known, origin⟩
      exact ⟨insertion, grows insertion known, origin⟩
    · rw [new]
      exact ⟨⟨_, thread, now⟩, List.mem_append_right _ (List.mem_singleton.mpr rfl), rfl,
        isLive, rfl⟩
  · intro side deviceId message device holds
    rw [pumps side] at device holds
    rcases fresh.held side deviceId message device holds with ⟨insertion, known, carries⟩
    exact ⟨insertion, grows insertion known, carries⟩
  · intro side visit message arrived
    rw [pumps side] at arrived
    exact fresh.passed side visit message arrived
  · intro handover member
    rcases fresh.handed handover member with ⟨checked, insertion, known, carries⟩
    exact ⟨checked, insertion, grows insertion known, carries⟩

/-- A restart keeps the rows and the log, and no pump holds a message. -/
theorem fresh_restart {settings : ReplaySettings} {loads : Loads} {relay after : Relay}
    {log : HandoverLog} (fresh : Fresh settings loads (relay, log))
    (changed : after.core = { queue := relay.core.queue }) :
    Fresh settings loads (after, observeHandovers log relay .restart) := by
  have pumps : forall side, after.core.pump side = {} := by
    intro side
    rw [changed]
    cases side <;> rfl
  refine ⟨?_, ?_, ?_, fresh.handed⟩
  · rw [changed]
    exact fresh.rows
  · intro side deviceId message device
    rw [pumps side] at device
    cases device
  · intro side visit message arrived
    rw [pumps side] at arrived
    rcases arrived with impossible | impossible <;> cases impossible

theorem fresh_step {settings : ReplaySettings} {loads : Loads}
    {state after : Relay × HandoverLog} {action : RelayAction}
    (fresh : Fresh settings loads state)
    (moved : (handoverMachine settings loads).step state action = some after) :
    Fresh settings loads after := by
  rcases Machine.watched_step moved with ⟨stepped, noted⟩
  rcases after with ⟨relay, log⟩
  dsimp only at stepped noted
  subst log
  cases relayStep_core stepped with
  | inserted thread now isLive begun changed => exact fresh_insert fresh changed
  | pumped side taken answered pumped => exact fresh_pump fresh pumped
  | restarted changed => exact fresh_restart fresh changed
  | outside action unchanged notInsert notPump notRestart =>
      have same : observeHandovers state.2 state.1 action = state.2 := by
        cases action with
        | insert thread now => exact absurd rfl (notInsert thread now)
        | pump side taken => exact absurd rfl (notPump side taken)
        | restart => exact absurd rfl notRestart
        | _ => rfl
      rw [same]
      refine ⟨?_, ?_, ?_, fresh.handed⟩
      · rw [unchanged]
        exact fresh.rows
      · rw [unchanged]
        exact fresh.held
      · rw [unchanged]
        exact fresh.passed

/-! ## Expired rows -/

/-- Whoever is found expired goes to the removal, and from there the pump does
nothing but delete the row. -/
structure DiscardsExpired (settings : ReplaySettings) (loads : Loads) (relay : Relay)
    (side : Side) (visit : Visit) (message : QueuedMessage) : Prop where
  found : forall now after, (relay.core.pump side).phase = .examining visit message ->
    isExpired message now = true ->
    relayStep settings loads relay (.pump side (.checkExpiry now)) = some after ->
    (after.core.pump side).phase = .discarding visit message
  deleted : forall taken after, (relay.core.pump side).phase = .discarding visit message ->
    relayStep settings loads relay (.pump side taken) = some after ->
    taken = .removeExpired ∧ (after.core.pump side).phase.message? = none ∧
      forall row, row ∈ after.core.queue.pendingMessages.rows -> row.1 ≠ message.id

theorem discardsExpired (settings : ReplaySettings) (loads : Loads) (relay : Relay)
    (side : Side) (visit : Visit) (message : QueuedMessage) :
    DiscardsExpired settings loads relay side visit message := by
  refine ⟨?_, ?_⟩
  · intro now after place old moved
    cases relayStep_core moved with
    | outside _ unchanged notInsert notPump => exact absurd rfl (notPump side _)
    | pumped _ _ answered stepped =>
        simp only [coreMachine, step, place, old, if_true, Option.map_some] at stepped
        rw [← Option.some.inj stepped, Core.pump_setPump, if_pos rfl]
  · intro taken after place moved
    cases relayStep_core moved with
    | outside _ unchanged notInsert notPump => exact absurd rfl (notPump side taken)
    | pumped _ _ answered stepped =>
        have effect := (coreMachine_pump stepped).1
        have removal : taken = .removeExpired := by
          cases taken with
          | removeExpired => rfl
          | _ =>
              simp only [coreMachine, step, place, Option.map_none] at stepped
              cases stepped
        subst taken
        cases effect with
        | quiet kept unchanged free => cases kept
        | peeked visit' other act unchanged place' found arrived => cases act
        | foundExpired visit' other now unchanged act place' old arrived => cases act
        | passedOn visit' other kept unchanged place' arrived => cases kept
        | confirmed visit' other unchanged act place' arrived => cases act
        | demoted target rest act place' changed free => cases act
        | removed visit' other place' changed free =>
            refine ⟨rfl, free, ?_⟩
            rcases place' with ⟨_, there⟩ | ⟨impossible, _⟩
            · rw [place] at there
              cases there
              intro row member
              rw [changed] at member
              have kept := (List.mem_filter.mp member).2
              rw [Bool.not_eq_true', decide_eq_false_iff_not] at kept
              exact kept
            · cases impossible

/-! ## The age of what is handed over -/

theorem not_old {message : QueuedMessage} {now maxAge : Rat}
    (fresh : isExpired message now = false) (limit : message.maxAgeSeconds = some maxAge) :
    now - message.createdAt ≤ maxAge := by
  rw [isExpired, limit] at fresh
  exact le_of_not_gt (of_decide_eq_false fresh)

theorem policyFor_neverReplay {command : String} (member : command ∈ neverReplayCommands) :
    policyFor true (some command) = NEVER_REPLAY := by
  rcases List.mem_map.mp member with ⟨entry, selected, rfl⟩
  rcases List.mem_filter.mp selected with ⟨listed, policy⟩
  have unique : (Dict.keys CLOUD_TO_DEVICE_POLICIES).Nodup := by decide +kernel
  have found := Dict.get?_eq_some_of_mem unique listed
  rw [policyFor, if_pos rfl, found, Option.getD_some]
  exact of_decide_eq_true policy

theorem isCloudToDevice_of_direction {isCloudToDevice : Bool}
    (direction : directionOf isCloudToDevice = UPSTREAM_TO_LOCAL) : isCloudToDevice = true := by
  cases isCloudToDevice with
  | true => rfl
  | false => exact absurd direction (by decide)

/-- In every run from an empty database, with restarts and any clock: each
publish call follows an expiry check of its row in the same iteration that did
not find it too old, each row has the age its policy allows, a never-replay
command and a manual feeding are handed to the local client only within their
grace or lifetime counted from the second of their insertion, and a row that is
found expired is deleted and not published. -/
theorem stale_commands_never_handed_over (settings : ReplaySettings) (loads : Loads)
    (maxSize sequence : Nat) (actions : List RelayAction) :
    let state := (handoverMachine settings loads).run (Relay.initial maxSize sequence, {}) actions
    (forall handover, handover ∈ state.2.handovers -> exists now insertion,
      handover.checked = some (handover.message, now) ∧
      (forall maxAge, handover.message.maxAgeSeconds = some maxAge ->
        now - handover.message.createdAt ≤ maxAge) ∧
      insertion ∈ state.2.inserted ∧
      insertion.Carries loads handover.deviceId (settings.pumpConfig handover.side).direction
        handover.message ∧
      (handover.side = .upstreamToLocal -> forall command,
        extractCommand loads handover.message.payload = some command ->
        (command ∈ neverReplayCommands ->
          now ≤ ⌊insertion.now⌋ + NEVER_REPLAY_GRACE_SECONDS) ∧
        (command = Command.MANUAL_FEEDING_SERVICE ->
          now ≤ ⌊insertion.now⌋ + MANUAL_FEED_TTL_SECONDS))) ∧
    (forall row, row ∈ state.1.core.queue.pendingMessages.rows -> exists insertion,
      insertion ∈ state.2.inserted ∧ insertion.id = row.1 ∧
      row.2.maxAgeSeconds = (policyFor insertion.thread.isCloudToDevice
        (extractCommand loads insertion.thread.payload)).maxAgeSeconds) ∧
    (forall side visit message,
      DiscardsExpired settings loads state.1 side visit message) := by
  intro state
  have fresh : Fresh settings loads state :=
    Machine.run_invariant _ (Fresh settings loads)
      (fun _ _ _ fresh moved => fresh_step fresh moved) _ actions
      (fresh_initial settings loads maxSize sequence)
  refine ⟨?_, ?_, discardsExpired settings loads state.1⟩
  · intro handover member
    rcases fresh.handed handover member with ⟨⟨now, checked, notOld⟩, insertion, known, carries⟩
    refine ⟨now, insertion, checked, fun maxAge => not_old notOld, known, carries, ?_⟩
    intro toDevice command extracted
    have direction := carries.direction
    rw [toDevice] at direction
    have cloud := isCloudToDevice_of_direction direction
    have age := carries.maxAge
    rw [cloud, ← carries.payload, extracted] at age
    have created := carries.createdAt
    refine ⟨?_, ?_⟩
    · intro never
      rw [policyFor_neverReplay never] at age
      have bound := not_old notOld age
      linarith
    · intro manual
      rw [manual] at age
      have limit : handover.message.maxAgeSeconds = some MANUAL_FEED_TTL_SECONDS := age
      have bound := not_old notOld limit
      linarith
  · intro row member
    rcases fresh.rows row member with ⟨insertion, known, id, isLive, origin⟩
    refine ⟨insertion, known, id, ?_⟩
    exact congrArg PendingMessage.maxAgeSeconds origin

end Upstream
end PetlibroRelay
