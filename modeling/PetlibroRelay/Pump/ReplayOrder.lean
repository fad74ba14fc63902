import PetlibroRelay.Pump.SharedQueue

namespace PetlibroRelay
namespace Pump

open Foundations
open Queue

/-!
# The order in which a pump delivers

The controlled pump sends live rows first and then the backlog, each oldest
first.  Rows move between the two kinds only in one direction, by demotion, and
keys grow with insertion.  What carries the order through a run is a relation
between the keys already confirmed and the keys still pending: a confirmed live
key is below every pending live key, and a confirmed backlog key is below every
pending key of the device.  The row under removal is the one exception, and it
is gone before the next peek.

Both modes are treated at once.  A pump without replay control has no urgent
rows, so all its rows form a single sequence.
-/

/-- Whether a row of this liveness overtakes the others. -/
def urgent (config : PumpConfig) (isLive : Bool) : Bool :=
  config.controlledReplayEnabled && isLive

/-- One call of `publish` with what the peek of its row found. -/
structure Attempt where
  deviceId : String
  id : Nat
  isLive : Bool
  liveAtPeek : List Nat
  confirmed : Bool
  deriving DecidableEq, Repr

/-- The calls of `publish` of one pump in order, and the live rows its latest
peek found in the partition. -/
structure PublishLog where
  liveAtPeek : List Nat := []
  attempts : List Attempt := []

namespace PublishLog

/-- What a step adds to the log of its pump. -/
def observe (config : PumpConfig) (log : PublishLog) (thread : PumpThread)
    (queue : MessageQueue) : PumpStep -> PublishLog
  | .peek =>
      match thread.phase with
      | .looping visit =>
          { log with
            liveAtPeek := (queue.pendingMessages.select
              (MessageQueue.isLiveIn visit.target.deviceId config.direction)).map Prod.fst }
      | _ => log
  | .publish outcome =>
      match thread.phase with
      | .publishing visit message =>
          { log with
            attempts := log.attempts ++ [{
              deviceId := visit.target.deviceId
              id := message.id
              isLive := message.isLive
              liveAtPeek := log.liveAtPeek
              confirmed := decide (publishConfirmed outcome = some true) }] }
      | _ => log
  | _ => log

/-- The confirmed publishes for one device. -/
def confirmedFor (log : PublishLog) (deviceId : String) : List Attempt :=
  log.attempts.filter (fun attempt => attempt.confirmed && decide (attempt.deviceId = deviceId))

end PublishLog

/-- What an action adds to the logs.  A restart begins new pumps, and with
them new logs. -/
def observePublishes (settings : ReplaySettings) (logs : Side -> PublishLog) (core : Core) :
    CoreAction -> Side -> PublishLog
  | .enqueue _ _ => logs
  | .pump side taken =>
      Function.update logs side
        ((logs side).observe (settings.pumpConfig side) (core.pump side) core.queue taken)
  | .restart => fun _ => {}

/-- Queue and pumps, watched by the logs of both pumps. -/
def publishMachine (settings : ReplaySettings) :
    Machine (Core × (Side -> PublishLog)) CoreAction :=
  (coreMachine settings).watched (observePublishes settings)

/-! ## The invariant of one pump -/

/-- The key a pump is about to remove after a confirmed publish. -/
def PumpThread.removing? (thread : PumpThread) : Option Nat :=
  match thread.phase with
  | .removing _ message => some message.id
  | _ => none

/-- Confirmed keys, the key in hand and pending keys of one pump in order. -/
structure InOrder (config : PumpConfig) (queue : MessageQueue) (thread : PumpThread)
    (log : PublishLog) : Prop where
  known : forall attempt, attempt ∈ log.attempts ->
    attempt.id ≤ queue.pendingMessages.sequence
  behind : forall attempt row, attempt ∈ log.attempts -> attempt.confirmed = true ->
    row ∈ queue.partition attempt.deviceId config.direction ->
    thread.removing? ≠ some row.1 ->
    (urgent config attempt.isLive = true -> row.2.isLive = true) -> attempt.id < row.1
  heldKnown : forall message, thread.phase.message? = some message ->
    message.id ≤ queue.pendingMessages.sequence
  heldFirst : forall deviceId message row, thread.phase.device? = some deviceId ->
    thread.phase.message? = some message -> row ∈ queue.partition deviceId config.direction ->
    (urgent config message.isLive = true -> row.2.isLive = true) -> message.id ≤ row.1
  heldNext : forall deviceId message attempt, thread.phase.device? = some deviceId ->
    thread.phase.message? = some message -> thread.removing? = none ->
    attempt ∈ log.attempts -> attempt.confirmed = true -> attempt.deviceId = deviceId ->
    urgent config attempt.isLive = urgent config message.isLive -> attempt.id < message.id
  heldAlone : forall message, thread.phase.message? = some message ->
    config.controlledReplayEnabled = true -> message.isLive = false -> log.liveAtPeek = []
  sorted : forall deviceId flag, (((log.confirmedFor deviceId).filter (fun attempt =>
    decide (urgent config attempt.isLive = flag))).map Attempt.id).Pairwise (· < ·)
  alone : forall attempt, attempt ∈ log.attempts -> config.controlledReplayEnabled = true ->
    attempt.isLive = false -> attempt.liveAtPeek = []

theorem inOrder_initial (config : PumpConfig) (queue : MessageQueue) :
    InOrder config queue {} {} where
  known := fun _ absent => nomatch absent
  behind := fun _ _ absent => nomatch absent
  heldKnown := fun _ absent => nomatch absent
  heldFirst := fun _ _ _ absent => nomatch absent
  heldNext := fun _ _ _ absent => nomatch absent
  heldAlone := fun _ absent => nomatch absent
  sorted := fun _ _ => List.Pairwise.nil
  alone := fun _ absent => nomatch absent

/-- What other threads do to the queue keeps the order. -/
theorem InOrder.later {config : PumpConfig} {queue left : MessageQueue} {thread : PumpThread}
    {log : PublishLog} (order : InOrder config queue thread log) (later : queue.Later left) :
    InOrder config left thread log where
  known := fun attempt member => Nat.le_trans (order.known attempt member) later.sequence
  behind := by
    intro attempt row member confirmed pending notRemoved overtakes
    rcases later.partition pending with ⟨old, oldPending, same, lost⟩ | new
    · rw [← same] at notRemoved ⊢
      exact order.behind attempt old member confirmed oldPending notRemoved
        (fun flagged => lost (overtakes flagged))
    · exact Nat.lt_of_le_of_lt (order.known attempt member) new
  heldKnown := fun message holds => Nat.le_trans (order.heldKnown message holds) later.sequence
  heldFirst := by
    intro deviceId message row device holds pending overtakes
    rcases later.partition pending with ⟨old, oldPending, same, lost⟩ | new
    · rw [← same]
      exact order.heldFirst deviceId message old device holds oldPending
        (fun flagged => lost (overtakes flagged))
    · exact Nat.le_of_lt (Nat.lt_of_le_of_lt (order.heldKnown message holds) new)
  heldNext := order.heldNext
  heldAlone := order.heldAlone
  sorted := order.sorted
  alone := order.alone

/-! ## The steps of the pump itself -/

section Own

variable {config : PumpConfig} {queue left : MessageQueue} {thread after : PumpThread}
  {log later : PublishLog}

/-- The confirmed row is removed in the step after its confirmation. -/
theorem removal_of_removing {taken : PumpStep} {id : Nat}
    (moved : step config thread queue taken = some (after, left))
    (removing : thread.removing? = some id) : taken = .removeDelivered := by
  simp only [PumpThread.removing?] at removing
  split at removing
  · next visit message place =>
      cases taken with
      | removeDelivered => rfl
      | _ => simp only [step, place] at moved; cases moved
  · cases removing

/-- A step that lets go of the message keeps the order, if the row under
removal is gone and no confirmation is noted. -/
theorem InOrder.released (order : InOrder config queue thread log) (shrinks : queue.Later left)
    (free : after.phase.message? = none)
    (gone : forall deviceId row, row ∈ left.partition deviceId config.direction ->
      thread.removing? ≠ some row.1)
    {extra : List Attempt} (noted : later.attempts = log.attempts ++ extra)
    (extraKnown : forall attempt, attempt ∈ extra ->
      attempt.id ≤ queue.pendingMessages.sequence)
    (extraFailed : forall attempt, attempt ∈ extra -> attempt.confirmed = false)
    (extraAlone : forall attempt, attempt ∈ extra -> config.controlledReplayEnabled = true ->
      attempt.isLive = false -> attempt.liveAtPeek = []) :
    InOrder config left after later := by
  have settled : forall attempt, attempt ∈ later.attempts -> attempt.confirmed = true ->
      attempt ∈ log.attempts := by
    intro attempt member confirmed
    rw [noted] at member
    rcases List.mem_append.mp member with old | new
    · exact old
    · rw [extraFailed attempt new] at confirmed
      cases confirmed
  have moved := order.later shrinks
  refine ⟨?_, ?_, ?_, ?_, ?_, ?_, ?_, ?_⟩
  · intro attempt member
    rw [noted] at member
    rcases List.mem_append.mp member with old | new
    · exact moved.known attempt old
    · exact Nat.le_trans (extraKnown attempt new) shrinks.sequence
  · intro attempt row member confirmed pending _
    exact moved.behind attempt row (settled attempt member confirmed) confirmed pending
      (gone attempt.deviceId row pending)
  · intro message holds
    rw [free] at holds
    cases holds
  · intro deviceId message row device holds
    rw [free] at holds
    cases holds
  · intro deviceId message attempt device holds
    rw [free] at holds
    cases holds
  · intro message holds
    rw [free] at holds
    cases holds
  · intro deviceId flag
    have same : later.confirmedFor deviceId = log.confirmedFor deviceId := by
      have failed : extra.filter (fun attempt =>
          attempt.confirmed && decide (attempt.deviceId = deviceId)) = [] := by
        refine List.filter_eq_nil_iff.mpr ?_
        intro attempt member
        rw [extraFailed attempt member]
        exact Bool.false_ne_true
      rw [PublishLog.confirmedFor, noted, List.filter_append, failed, List.append_nil]
      rfl
    rw [same]
    exact order.sorted deviceId flag
  · intro attempt member
    rw [noted] at member
    rcases List.mem_append.mp member with old | new
    · exact order.alone attempt old
    · exact extraAlone attempt new

/-- A step that passes the message on keeps the order. -/
theorem InOrder.passed (order : InOrder config queue thread log)
    (message : after.phase.message? = thread.phase.message?)
    (device : after.phase.device? = thread.phase.device?)
    (before : thread.removing? = none) :
    InOrder config queue after log where
  known := order.known
  behind := by
    intro attempt row member confirmed pending _
    exact order.behind attempt row member confirmed pending (by rw [before]; exact nofun)
  heldKnown := fun held holds => order.heldKnown held (message ▸ holds)
  heldFirst := fun deviceId held row draining holds =>
    order.heldFirst deviceId held row (device ▸ draining) (message ▸ holds)
  heldNext := fun deviceId held attempt draining holds _ =>
    order.heldNext deviceId held attempt (device ▸ draining) (message ▸ holds) before
  heldAlone := fun held holds => order.heldAlone held (message ▸ holds)
  sorted := order.sorted
  alone := order.alone

/-- The row a peek reports precedes every row it does not overtake. -/
theorem first_of_peeked {deviceId : String} {message : QueuedMessage}
    (found : queue.peekOldest deviceId config.direction config.controlledReplayEnabled =
      some message)
    {row : Nat × PendingMessage} (member : row ∈ queue.partition deviceId config.direction)
    (overtakes : urgent config message.isLive = true -> row.2.isLive = true) :
    message.id ≤ row.1 := by
  cases controlled : config.controlledReplayEnabled with
  | false =>
      rw [controlled] at found
      exact MessageQueue.peekOldest_oldest found member
  | true =>
      rw [controlled] at found
      have first := MessageQueue.peekOldest_first found member
      refine first.2 ?_
      cases live : message.isLive with
      | true =>
          apply overtakes
          rw [urgent, controlled, live]
          rfl
      | false =>
          rw [live] at first
          exact Bool.eq_false_iff.mpr (fun rowLive => nomatch first.1 rowLive)

/-- Beside a reported backlog row no row of the partition is live. -/
theorem alone_of_peeked {deviceId : String} {message : QueuedMessage}
    (found : queue.peekOldest deviceId config.direction config.controlledReplayEnabled =
      some message)
    (controlled : config.controlledReplayEnabled = true) (backlog : message.isLive = false) :
    (queue.pendingMessages.select (MessageQueue.isLiveIn deviceId config.direction)).map
      Prod.fst = [] := by
  rw [List.map_eq_nil_iff, AutoTable.select, List.filter_eq_nil_iff]
  intro row stored live
  rw [MessageQueue.isLiveIn, Bool.and_eq_true] at live
  have member : row ∈ queue.partition deviceId config.direction := by
    rw [queue.partition_eq_select]
    exact List.mem_filter.mpr ⟨stored, live.1⟩
  rw [controlled] at found
  have impossible := (MessageQueue.peekOldest_first found member).1 live.2
  rw [backlog] at impossible
  cases impossible

/-- Taking up a row keeps the order: by the invariant it lies beyond every
confirmed key of its kind. -/
theorem InOrder.peeked (order : InOrder config queue thread log) {visit : Visit}
    {message : QueuedMessage} (place : thread.phase = .looping visit)
    (found : queue.peekOldest visit.target.deviceId config.direction
      config.controlledReplayEnabled = some message)
    (arrived : after.phase = .examining visit message)
    (attempts : later.attempts = log.attempts)
    (live : later.liveAtPeek = (queue.pendingMessages.select
      (MessageQueue.isLiveIn visit.target.deviceId config.direction)).map Prod.fst) :
    InOrder config queue after later := by
  have before : thread.removing? = none := by
    simp only [PumpThread.removing?, place]
  rcases MessageQueue.row_of_peekOldest found with ⟨own, ownMember, same⟩
  have stored := ((queue.mem_partition_iff _ _ own).mp ownMember).1
  refine ⟨?_, ?_, ?_, ?_, ?_, ?_, ?_, ?_⟩
  · rw [attempts]
    exact order.known
  · rw [attempts]
    intro attempt row member confirmed pending _
    exact order.behind attempt row member confirmed pending (by rw [before]; exact nofun)
  · intro held holds
    rw [arrived] at holds
    cases holds
    rw [← same]
    exact queue.pendingMessages.bounded own stored
  · intro deviceId held row device holds pending overtakes
    rw [arrived] at device holds
    cases device
    cases holds
    exact first_of_peeked found pending overtakes
  · intro deviceId held attempt device holds _ member confirmed draining kind
    rw [arrived] at device holds
    cases device
    cases holds
    rw [attempts] at member
    rw [← draining] at ownMember
    subst message
    refine order.behind attempt own member confirmed ownMember (by rw [before]; exact nofun) ?_
    intro flagged
    rw [kind, urgent, Bool.and_eq_true] at flagged
    exact flagged.2
  · intro held holds controlled backlog
    rw [arrived] at holds
    cases holds
    rw [live]
    exact alone_of_peeked found controlled backlog
  · intro deviceId flag
    have same : later.confirmedFor deviceId = log.confirmedFor deviceId := by
      rw [PublishLog.confirmedFor, attempts, PublishLog.confirmedFor]
    rw [same]
    exact order.sorted deviceId flag
  · rw [attempts]
    exact order.alone

/-- A confirmed publish extends the sequence of its kind at the end. -/
theorem InOrder.confirmed (order : InOrder config queue thread log) {visit : Visit}
    {message : QueuedMessage} (place : thread.phase = .publishing visit message)
    (arrived : after.phase = .removing visit message)
    (noted : later = { log with attempts := log.attempts ++ [{
      deviceId := visit.target.deviceId
      id := message.id
      isLive := message.isLive
      liveAtPeek := log.liveAtPeek
      confirmed := true }] }) :
    InOrder config queue after later := by
  have holding : thread.phase.message? = some message := by rw [place]; rfl
  have draining : thread.phase.device? = some visit.target.deviceId := by rw [place]; rfl
  have before : thread.removing? = none := by simp only [PumpThread.removing?, place]
  have removing : after.removing? = some message.id := by
    simp only [PumpThread.removing?, arrived]
  subst later
  refine ⟨?_, ?_, ?_, ?_, ?_, ?_, ?_, ?_⟩
  · intro attempt member
    rcases List.mem_append.mp member with old | new
    · exact order.known attempt old
    · rw [List.mem_singleton.mp new]
      exact order.heldKnown message holding
  · intro attempt row member confirmed pending notRemoved overtakes
    rcases List.mem_append.mp member with old | new
    · exact order.behind attempt row old confirmed pending (by rw [before]; exact nofun) overtakes
    · rw [List.mem_singleton.mp new] at pending overtakes ⊢
      refine Nat.lt_of_le_of_ne (order.heldFirst _ message row draining holding pending
        overtakes) ?_
      intro same
      exact notRemoved (same ▸ removing)
  · intro held holds
    rw [arrived] at holds
    exact order.heldKnown held (holding.trans holds)
  · intro deviceId held row device holds
    rw [arrived] at device holds
    exact order.heldFirst deviceId held row (draining.trans device) (holding.trans holds)
  · intro deviceId held attempt device holds free
    rw [removing] at free
    cases free
  · intro held holds
    rw [arrived] at holds
    exact order.heldAlone held (holding.trans holds)
  · intro deviceId flag
    have sorted := order.sorted deviceId flag
    simp only [PublishLog.confirmedFor, List.filter_append, List.map_append] at sorted ⊢
    refine List.pairwise_append.mpr ⟨sorted, ?_, ?_⟩
    · exact (List.pairwise_singleton _ message.id).sublist
        (((List.filter_sublist.trans List.filter_sublist)).map Attempt.id)
    · intro first firstMember second secondMember
      rcases List.mem_map.mp firstMember with ⟨attempt, member, rfl⟩
      rcases List.mem_map.mp secondMember with ⟨newest, newMember, rfl⟩
      rw [List.mem_filter, List.mem_filter, Bool.and_eq_true, decide_eq_true_eq,
        decide_eq_true_eq] at member newMember
      have itself := List.mem_singleton.mp newMember.1.1
      rw [itself] at newMember ⊢
      exact order.heldNext _ message attempt draining holding before member.1.1 member.1.2.1
        (member.1.2.2.trans newMember.1.2.2.symm) (member.2.trans newMember.2.symm)
  · intro attempt member
    rcases List.mem_append.mp member with old | new
    · exact order.alone attempt old
    · rw [List.mem_singleton.mp new]
      exact order.heldAlone message holding

/-- A publish call is noted when it is made; the other steps note at most what
a peek found. -/
theorem observe_publish {visit : Visit} {message : QueuedMessage} {outcome : PublishOutcome}
    (place : thread.phase = .publishing visit message) :
    (log.observe config thread queue (.publish outcome)) = { log with
      attempts := log.attempts ++ [{
        deviceId := visit.target.deviceId
        id := message.id
        isLive := message.isLive
        liveAtPeek := log.liveAtPeek
        confirmed := decide (publishConfirmed outcome = some true) }] } := by
  simp only [PublishLog.observe, place]

theorem observe_attempts {taken : PumpStep}
    (other : forall outcome, taken ≠ .publish outcome) :
    (log.observe config thread queue taken).attempts = log.attempts := by
  cases taken with
  | publish outcome => exact absurd rfl (other outcome)
  | peek =>
      simp only [PublishLog.observe]
      split <;> rfl
  | _ => rfl

/-- One step of the pump keeps its order. -/
theorem InOrder.step (order : InOrder config queue thread log) {taken : PumpStep}
    (moved : step config thread queue taken = some (after, left)) :
    InOrder config left after (log.observe config thread queue taken) := by
  have notRemoving : taken ≠ .removeDelivered -> thread.removing? = none := by
    intro other
    cases removing : thread.removing? with
    | none => rfl
    | some id => exact absurd (removal_of_removing moved removing) other
  cases step_effect moved with
  | quiet kept unchanged free =>
      subst left
      have before : thread.removing? = none := by
        apply notRemoving
        intro same
        rw [same] at kept
        cases kept
      have gone : forall deviceId row, row ∈ queue.partition deviceId config.direction ->
          thread.removing? ≠ some row.1 := by
        intro deviceId row _
        rw [before]
        rintro ⟨⟩
      cases taken with
      | publish outcome =>
          cases place : thread.phase with
          | publishing visit message =>
              have holding : thread.phase.message? = some message := by rw [place]; rfl
              refine order.released (.refl queue) free gone
                (congrArg PublishLog.attempts (observe_publish place)) ?_ ?_ ?_
              · intro attempt member
                rw [List.mem_singleton.mp member]
                exact order.heldKnown message holding
              · intro attempt member
                rw [List.mem_singleton.mp member]
                -- a confirmed publish would have kept the message in hand
                cases outcome with
                | confirmed =>
                    simp only [Pump.step, place, publishConfirmed] at moved
                    cases moved
                    cases free
                | _ => rfl
              · intro attempt member
                rw [List.mem_singleton.mp member]
                exact order.heldAlone message holding
          | _ => simp only [Pump.step, place] at moved; cases moved
      | _ =>
          refine order.released (.refl queue) free gone
            (Eq.trans ?_ (List.append_nil _).symm) (fun _ absent => by cases absent)
            (fun _ absent => by cases absent) (fun _ absent => by cases absent)
          exact observe_attempts (fun _ same => by cases same)
  | peeked visit message act unchanged place found arrived =>
      subst taken left
      refine order.peeked place found arrived (observe_attempts (fun _ same => by cases same)) ?_
      simp only [PublishLog.observe, place]
  | foundExpired visit message now unchanged act place old arrived =>
      subst taken left
      exact order.passed (by rw [arrived, place]; rfl) (by rw [arrived, place]; rfl)
        (notRemoving (by rintro ⟨⟩))
  | passedOn visit message kept unchanged place arrived =>
      subst left
      have same : log.observe config thread queue taken = log := by
        rcases place with place | place <;> cases taken <;>
          simp only [PublishLog.observe, place]
      rw [same]
      have passed := passedOn_of_phases place arrived
      refine order.passed (passed.afterMessage.trans passed.beforeMessage.symm)
        (passed.afterDevice.trans passed.beforeDevice.symm) (notRemoving ?_)
      intro other
      rw [other] at kept
      cases kept
  | confirmed visit message unchanged act place arrived =>
      subst taken left
      exact order.confirmed place arrived (observe_publish place)
  | demoted target rest act place changed free =>
      subst taken left
      refine order.released (queue.later_demote _ _) free ?_ (List.append_nil _).symm
        (fun _ absent => by cases absent) (fun _ absent => by cases absent)
        (fun _ absent => by cases absent)
      intro deviceId row _
      rw [notRemoving (by rintro ⟨⟩)]
      rintro ⟨⟩
  | removed visit message place changed free =>
      subst left
      have same : log.observe config thread queue taken = log := by
        rcases place with ⟨rfl, _⟩ | ⟨rfl, _⟩ <;> rfl
      rw [same]
      refine order.released (queue.later_remove _) free ?_ (List.append_nil _).symm
        (fun _ absent => by cases absent) (fun _ absent => by cases absent)
        (fun _ absent => by cases absent)
      intro deviceId row member
      rcases place with ⟨rfl, place⟩ | ⟨rfl, place⟩
      · simp only [PumpThread.removing?, place, ne_eq, reduceCtorEq, not_false_eq_true]
      · rw [MessageQueue.partition_remove, List.mem_filter] at member
        simp only [PumpThread.removing?, place]
        intro itself
        rw [decide_eq_true (Option.some.inj itself).symm] at member
        exact absurd member.2 Bool.false_ne_true

end Own

/-! ## Runs -/

/-- Both pumps are in order. -/
def BothInOrder (settings : ReplaySettings) (state : Core × (Side -> PublishLog)) : Prop :=
  forall side, InOrder (settings.pumpConfig side) state.1.queue (state.1.pump side) (state.2 side)

theorem bothInOrder_step {settings : ReplaySettings} {state after : Core × (Side -> PublishLog)}
    {action : CoreAction} (order : BothInOrder settings state)
    (moved : (publishMachine settings).step state action = some after) :
    BothInOrder settings after := by
  rcases Machine.watched_step moved with ⟨stepped, noted⟩
  rcases after with ⟨core, logs⟩
  dsimp only at stepped noted
  subst logs
  intro side
  cases action with
  | enqueue call now =>
      cases stepped
      cases side <;> exact (order _).later (state.1.queue.later_enqueue call now)
  | pump acting taken =>
      by_cases same : side = acting
      · subst acting
        simp only [observePublishes, Function.update_self]
        exact (order side).step (coreMachine_stepped stepped)
      · have still := (coreMachine_pump stepped).2 side same
        simp only [observePublishes, Function.update_of_ne same, still]
        exact (order side).later (coreMachine_later stepped)
  | restart =>
      cases stepped
      cases side <;> exact inOrder_initial _ _

theorem bothInOrder_run (settings : ReplaySettings) (queue : MessageQueue)
    (actions : List CoreAction) :
    BothInOrder settings
      ((publishMachine settings).run ({ queue := queue }, fun _ => {}) actions) := by
  refine Machine.run_invariant _ (BothInOrder settings) ?_ _ actions ?_
  · intro state action after order moved
    exact bothInOrder_step order moved
  · intro side
    cases side <;> exact inOrder_initial _ _

/-- In every run of the two pumps, from any database and for each device: the
device-to-cloud pump confirms backlog keys in strictly increasing order and
live keys in strictly increasing order, it hands over a row as backlog only if
its peek found no live row of the device, and the cloud-to-device pump confirms
all keys in strictly increasing order. -/
theorem replay_order (settings : ReplaySettings) (queue : MessageQueue)
    (actions : List CoreAction) (deviceId : String) :
    let logs := ((publishMachine settings).run ({ queue := queue }, fun _ => {}) actions).2
    let toCloud := (logs .localToUpstream).confirmedFor deviceId
    let toDevice := (logs .upstreamToLocal).confirmedFor deviceId
    ((toCloud.filter (fun attempt => decide (attempt.isLive = false))).map
      Attempt.id).Pairwise (· < ·) ∧
    ((toCloud.filter (fun attempt => decide (attempt.isLive = true))).map
      Attempt.id).Pairwise (· < ·) ∧
    (forall attempt, attempt ∈ (logs .localToUpstream).attempts -> attempt.isLive = false ->
      attempt.liveAtPeek = []) ∧
    (toDevice.map Attempt.id).Pairwise (· < ·) := by
  intro logs toCloud toDevice
  have order := bothInOrder_run settings queue actions
  have cloud := order .localToUpstream
  refine ⟨cloud.sorted deviceId false, cloud.sorted deviceId true, ?_, ?_⟩
  · intro attempt member backlog
    exact cloud.alone attempt member rfl backlog
  · -- no row is urgent for this pump, so the filter keeps every attempt
    have sorted := (order .upstreamToLocal).sorted deviceId false
    have all : toDevice.filter (fun attempt =>
        decide (urgent (settings.pumpConfig .upstreamToLocal) attempt.isLive = false)) =
        toDevice := by
      refine List.filter_eq_self.mpr ?_
      intro attempt _
      rfl
    exact all ▸ sorted

end Pump
end PetlibroRelay
