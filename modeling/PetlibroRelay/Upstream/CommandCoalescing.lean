import PetlibroRelay.Upstream.SettingsOrder
import PetlibroRelay.Upstream.StaleCallbacks

namespace PetlibroRelay
namespace Upstream

open Foundations
open Protocol
open Pump
open Queue

/-!
# What coalescing makes of the cloud's settings

A settings command of the cloud supersedes the pending one with the same set of
fields, which it then overrides completely.  The new row goes to the end of the
queue, behind rows that share some of its fields, and rows of the same set may
already have been delivered.  The feeder is nevertheless left with the settings
it would have if it had received every command.

A command is pending, or it was delivered, or there is a later command with the
same fields.  The last command with a given field is therefore never superseded,
and deliveries are in the order of the queue.
-/

/-- A settings command as it arrives for one device. -/
structure SettingsCommand where
  deviceId : String
  productId : String
  category : String
  payload : List UInt8
  qos : Nat
  deriving DecidableEq, Repr

namespace SettingsCommand

/-- The topic is one of those the device's session subscribes to. -/
def topic (command : SettingsCommand) : String :=
  subTopic command.deviceId command.category command.productId

/-- The queue call made for the command.  Nothing is live in this direction. -/
def queueCall (loads : Loads) (command : SettingsCommand) : EnqueueCall :=
  enqueueCall loads
    { deviceId := command.deviceId, productId := command.productId, isCloudToDevice := true,
      topic := command.topic, payload := command.payload, qos := command.qos } false

/-- Whether it is a settings command on a subscribed topic.  The product is one
segment of the topic. -/
def isReceived (loads : Loads) (command : SettingsCommand) : Bool :=
  decide (extractCommand loads command.payload = some Command.ATTR_SET_SERVICE) &&
    decide (command.category ∈ UPSTREAM_SUBSCRIBE_CATEGORIES) &&
    decide (segments command.productId = [command.productId])

/-- No field name has a comma. -/
def isPlain (loads : Loads) (command : SettingsCommand) : Bool :=
  (attrSetSettingFields loads command.payload).all (fun name => decide (',' ∉ name.toList))

end SettingsCommand

/-- Commands arrive at any moment and in any upstream state, the pump of their
direction moves, and the process restarts. -/
inductive CommandAction where
  | command (command : SettingsCommand) (upstream : UpstreamState) (now : Rat)
  | pump (taken : PumpStep)
  | restart
  deriving DecidableEq, Repr

/-- The queue and its pumps while only settings commands are queued.  The log
notes the commands in the order of the queue calls and the confirmed publishes. -/
def commandMachine (settings : ReplaySettings) (loads : Loads) :
    Machine (Core × ReportLog) CommandAction where
  step state
    | .command command upstream now =>
        if command.isReceived loads && mayEnqueue loads true command.payload upstream then
          ((coreMachine settings).step state.1 (.enqueue (command.queueCall loads) now)).map
            (fun core => (core, { state.2 with
              enqueued := state.2.enqueued ++
                [⟨state.1.queue.pendingMessages.sequence + 1, command.deviceId,
                  command.payload⟩] }))
        else none
    | .pump taken =>
        ((coreMachine settings).step state.1 (.pump .upstreamToLocal taken)).map
          (fun core => (core, state.2.observe state.1.upstreamToLocalPump.phase taken))
    | .restart =>
        ((coreMachine settings).step state.1 .restart).map (fun core => (core, state.2))

/-- The command is plain and no row is evicted to make room for it. -/
def admits (loads : Loads) (state : Core × ReportLog) : CommandAction -> Bool
  | .command command _ _ =>
      command.isPlain loads &&
        decide ((state.1.queue.coalesce (command.queueCall loads)).count command.deviceId
          UPSTREAM_TO_LOCAL + 1 ≤ state.1.queue.maxSizePerDirection)
  | _ => true

/-- The attributes after a command: its setting fields are overridden. -/
def applyCommand (loads : Loads) : (String -> Option Json) -> Report -> String -> Option Json :=
  override (fun report field => decide (field ∈ attrSetSettingFields loads report.payload))
    (fun report field => (decodedObject loads report.payload).bind
      (fun body => Dict.get? body field))

/-- The commands of one device. -/
def ofDevice (deviceId : String) (reports : List Report) : List Report :=
  reports.filter (fun report => decide (report.deviceId = deviceId))

/-! ## The invariant -/

/-- The command a pump holds. -/
def heldCommand (thread : PumpThread) : Option Report :=
  thread.phase.message?.bind (fun message =>
    thread.phase.device?.map (fun deviceId => ⟨message.id, deviceId, message.payload⟩))

/-- A later command of the device with the same fields. -/
def Superseded (loads : Loads) (log : ReportLog) (report : Report) : Prop :=
  exists later, later ∈ log.enqueued ∧ report.id < later.id ∧
    later.deviceId = report.deviceId ∧
    attrSetSettingFields loads later.payload = attrSetSettingFields loads report.payload

/-- The row is that of a plain command, which is in the log. -/
def RowLogged (loads : Loads) (log : ReportLog) (row : Nat × PendingMessage) : Prop :=
  exists command : SettingsCommand, command.isReceived loads = true ∧
    command.isPlain loads = true ∧ row.2.deviceId = some command.deviceId ∧
    row.2.direction = UPSTREAM_TO_LOCAL ∧ row.2.maxAgeSeconds = none ∧
    row.2.payload = command.payload ∧
    row.2.coalesceKey = (command.queueCall loads).coalesceKey ∧
    ⟨row.1, command.deviceId, command.payload⟩ ∈ log.enqueued

structure CommandsKept (loads : Loads) (queue : MessageQueue) (thread : PumpThread)
    (log : ReportLog) : Prop where
  increasing : log.enqueued.Pairwise (fun first second => first.id < second.id)
  numbered : forall report, report ∈ log.enqueued ->
    report.id ≤ queue.pendingMessages.sequence
  stored : forall row, row ∈ queue.pendingMessages.rows -> RowLogged loads log row
  held : forall report, heldCommand thread = some report -> report ∈ log.enqueued
  ageless : forall message, thread.phase.message? = some message -> message.maxAgeSeconds = none
  undiscarded : forall visit message, thread.phase ≠ .discarding visit message
  confirmed : forall visit message, thread.phase = .removing visit message ->
    ⟨message.id, visit.target.deviceId, message.payload⟩ ∈ log.delivered
  known : forall report, report ∈ log.delivered -> report ∈ log.enqueued
  sorted : log.delivered.Pairwise (fun first second =>
    first.deviceId = second.deviceId -> first.id ≤ second.id)
  behindRows : forall report row, report ∈ log.delivered ->
    row ∈ queue.pendingMessages.rows -> row.2.deviceId = some report.deviceId ->
    report.id ≤ row.1
  behindHeld : forall report other, report ∈ log.delivered -> heldCommand thread = some other ->
    other.deviceId = report.deviceId -> report.id ≤ other.id
  heldFirst : forall report row, heldCommand thread = some report ->
    row ∈ queue.pendingMessages.rows -> row.2.deviceId = some report.deviceId ->
    report.id ≤ row.1
  accounted : forall report, report ∈ log.enqueued ->
    report.id ∈ queue.pendingMessages.ids ∨ report ∈ log.delivered ∨ Superseded loads log report

theorem commandsKept_initial (loads : Loads) (maxSize sequence : Nat) :
    CommandsKept loads (.empty maxSize sequence) {} {} where
  increasing := List.Pairwise.nil
  numbered := fun _ member => nomatch member
  stored := fun _ member => nomatch member
  held := fun _ found => nomatch found
  ageless := fun _ found => nomatch found
  undiscarded := fun _ _ found => nomatch found
  confirmed := fun _ _ found => nomatch found
  known := fun _ member => nomatch member
  sorted := List.Pairwise.nil
  behindRows := fun _ _ member => nomatch member
  behindHeld := fun _ _ member => nomatch member
  heldFirst := fun _ _ found => nomatch found
  accounted := fun _ member => nomatch member

/-! ## A new command -/

theorem queueCall_keyed {loads : Loads} {command : SettingsCommand}
    (received : command.isReceived loads = true) :
    (command.queueCall loads).coalesceKey = coalesceKeyFor loads command.topic
        (some Command.ATTR_SET_SERVICE) LATEST_WINS command.payload ∧
      (command.queueCall loads).maxAgeSeconds = none := by
  simp only [SettingsCommand.isReceived, Bool.and_eq_true, decide_eq_true_eq] at received
  have policy : policyFor true (some Command.ATTR_SET_SERVICE) = LATEST_WINS := by decide
  simp only [SettingsCommand.queueCall, enqueueCall, received.1.1, policy, true_and]
  rfl

theorem category_single : forall category, category ∈ UPSTREAM_SUBSCRIBE_CATEGORIES ->
    segments category = [category] := by
  decide

/-- A command supersedes only rows with its own fields. -/
theorem fields_of_superseded {loads : Loads} {log : ReportLog} {command : SettingsCommand}
    (received : command.isReceived loads = true) (plain : command.isPlain loads = true)
    {row : Nat × PendingMessage} (logged : RowLogged loads log row)
    (doomed : MessageQueue.supersededBy command.deviceId UPSTREAM_TO_LOCAL
      (command.queueCall loads).coalesceKey row = true) :
    row.2.deviceId = some command.deviceId ∧
      attrSetSettingFields loads command.payload = attrSetSettingFields loads row.2.payload := by
  obtain ⟨other, otherReceived, otherPlain, device, _, _, payload, keyed, _⟩ := logged
  obtain ⟨key, own⟩ : exists key, (command.queueCall loads).coalesceKey = some key := by
    cases found : (command.queueCall loads).coalesceKey with
    | none =>
        rw [found] at doomed
        cases doomed
    | some key => exact ⟨key, rfl⟩
  rw [own] at doomed
  simp only [MessageQueue.supersededBy, inPartition, Bool.and_eq_true,
    decide_eq_true_eq] at doomed
  have sameDevice : other.deviceId = command.deviceId :=
    Option.some.inj (device.symm.trans doomed.1.1)
  have otherOwn : (other.queueCall loads).coalesceKey = some key := keyed.symm.trans doomed.2
  rw [(queueCall_keyed received).1] at own
  rw [(queueCall_keyed otherReceived).1, SettingsCommand.topic, sameDevice] at otherOwn
  simp only [SettingsCommand.isReceived, Bool.and_eq_true, decide_eq_true_eq]
    at received otherReceived
  simp only [SettingsCommand.isPlain, List.all_eq_true, decide_eq_true_eq] at plain otherPlain
  refine ⟨doomed.1.1, ?_⟩
  rw [payload]
  exact same_fields_of_coalesceKey (category_single _ received.1.2) received.2
    (category_single _ otherReceived.1.2) otherReceived.2 plain otherPlain own otherOwn

section Kept

variable {loads : Loads} {queue left : MessageQueue} {thread after : PumpThread} {log : ReportLog}

theorem RowLogged.grown {row : Nat × PendingMessage} (logged : RowLogged loads log row)
    (new : Report) : RowLogged loads { log with enqueued := log.enqueued ++ [new] } row := by
  obtain ⟨command, received, plain, device, direction, age, payload, keyed, member⟩ := logged
  exact ⟨command, received, plain, device, direction, age, payload, keyed,
    List.mem_append_left _ member⟩

/-- The logged command of a row. -/
theorem CommandsKept.report_of_row (kept : CommandsKept loads queue thread log)
    {row : Nat × PendingMessage} (member : row ∈ queue.pendingMessages.rows) {report : Report}
    (logged : report ∈ log.enqueued) (same : row.1 = report.id) :
    row.2.deviceId = some report.deviceId ∧ row.2.payload = report.payload := by
  obtain ⟨command, _, _, device, _, _, payload, _, known⟩ := kept.stored row member
  have equal := eq_of_position kept.increasing known logged same
  rw [← equal]
  exact ⟨device, payload⟩

theorem CommandsKept.command (kept : CommandsKept loads queue thread log)
    (command : SettingsCommand) (now : Rat) (received : command.isReceived loads = true)
    (plain : command.isPlain loads = true)
    (fits : (queue.coalesce (command.queueCall loads)).count command.deviceId
      UPSTREAM_TO_LOCAL + 1 ≤ queue.maxSizePerDirection) :
    CommandsKept loads (queue.enqueue (command.queueCall loads) now).1 thread
      { log with enqueued := log.enqueued ++
        [⟨queue.pendingMessages.sequence + 1, command.deviceId, command.payload⟩] } := by
  have rows := queue.mem_rows_grown_iff (command.queueCall loads) now
  have sequence := queue.sequence_enqueue (command.queueCall loads) now
  rw [queue.enqueue_of_fits (command.queueCall loads) now fits] at sequence ⊢
  refine ⟨?_, ?_, ?_, ?_, kept.ageless, kept.undiscarded, kept.confirmed, ?_, kept.sorted, ?_,
    kept.behindHeld, ?_, ?_⟩
  · refine List.pairwise_append.mpr ⟨kept.increasing, List.pairwise_singleton _ _, ?_⟩
    intro old oldMember new newMember
    rw [List.mem_singleton.mp newMember]
    exact Nat.lt_succ_of_le (kept.numbered old oldMember)
  · intro report member
    rw [sequence]
    rcases List.mem_append.mp member with old | new
    · exact Nat.le_succ_of_le (kept.numbered report old)
    · rw [List.mem_singleton.mp new]
  · intro row member
    rcases (rows row).mp member with ⟨old, _⟩ | new
    · exact (kept.stored row old).grown _
    · subst new
      exact ⟨command, received, plain, rfl, rfl, (queueCall_keyed received).2, rfl, rfl,
        List.mem_append_right _ (List.mem_singleton.mpr rfl)⟩
  · exact fun report found => List.mem_append_left _ (kept.held report found)
  · exact fun report member => List.mem_append_left _ (kept.known report member)
  · intro report row delivered member device
    rcases (rows row).mp member with ⟨old, _⟩ | new
    · exact kept.behindRows report row delivered old device
    · subst new
      exact Nat.le_succ_of_le (kept.numbered report (kept.known report delivered))
  · intro report row found member device
    rcases (rows row).mp member with ⟨old, _⟩ | new
    · exact kept.heldFirst report row found old device
    · subst new
      exact Nat.le_succ_of_le (kept.numbered report (kept.held report found))
  · intro report member
    rcases List.mem_append.mp member with old | new
    · rcases kept.accounted report old with pending | delivered | ⟨later, known, facts⟩
      · obtain ⟨row, there, same⟩ := List.mem_map.mp pending
        cases doomed : MessageQueue.supersededBy command.deviceId UPSTREAM_TO_LOCAL
            (command.queueCall loads).coalesceKey row with
        | false =>
            exact Or.inl (List.mem_map.mpr ⟨row, (rows row).mpr (Or.inl ⟨there, doomed⟩), same⟩)
        | true =>
            obtain ⟨device, fields⟩ :=
              fields_of_superseded received plain (kept.stored row there) doomed
            obtain ⟨owner, payload⟩ := kept.report_of_row there old same
            refine Or.inr (Or.inr ⟨_, List.mem_append_right _ (List.mem_singleton.mpr rfl),
              Nat.lt_succ_of_le (kept.numbered report old), ?_, ?_⟩)
            · exact Option.some.inj (device.symm.trans owner)
            · rw [← payload]
              exact fields
      · exact Or.inr (Or.inl delivered)
      · exact Or.inr (Or.inr ⟨later, List.mem_append_left _ known, facts⟩)
    · rw [List.mem_singleton.mp new]
      exact Or.inl (List.mem_map.mpr ⟨_, (rows _).mpr (Or.inr rfl), rfl⟩)

/-! ## The pump -/

/-- A step after which the pump holds nothing. -/
theorem CommandsKept.released (kept : CommandsKept loads queue thread log)
    (shrinks : queue.Later left)
    (sequence : left.pendingMessages.sequence = queue.pendingMessages.sequence)
    (free : after.phase.message? = none)
    (accounted : forall report, report ∈ log.enqueued ->
      report.id ∈ queue.pendingMessages.ids -> report.id ∈ left.pendingMessages.ids ∨
        report ∈ log.delivered) :
    CommandsKept loads left after log := by
  have empty : heldCommand after = none := by
    rw [heldCommand, free, Option.bind_none]
  have rows : forall row, row ∈ left.pendingMessages.rows -> exists old,
      old ∈ queue.pendingMessages.rows ∧ row = (old.1, { old.2 with isLive := row.2.isLive }) := by
    intro row member
    rcases shrinks.rows row member with ⟨old, there, same, _⟩ | beyond
    · exact ⟨old, there, same⟩
    · have bounded := left.pendingMessages.bounded row member
      omega
  refine ⟨kept.increasing, ?_, ?_, ?_, ?_, ?_, ?_, kept.known, kept.sorted, ?_, ?_, ?_, ?_⟩
  · rw [sequence]
    exact kept.numbered
  · intro row member
    obtain ⟨old, there, same⟩ := rows row member
    rw [same]
    exact kept.stored old there
  · intro report found
    rw [empty] at found
    cases found
  · intro message found
    rw [free] at found
    cases found
  · intro visit message place
    rw [place] at free
    cases free
  · intro visit message place
    rw [place] at free
    cases free
  · intro report row delivered member device
    obtain ⟨old, there, same⟩ := rows row member
    rw [same] at device ⊢
    exact kept.behindRows report old delivered there device
  · intro report other _ found
    rw [empty] at found
    cases found
  · intro report row found
    rw [empty] at found
    cases found
  · intro report member
    rcases kept.accounted report member with pending | settled
    · exact (accounted report member pending).imp_right Or.inl
    · exact Or.inr settled

/-- A step in which the pump holds on to what it held. -/
theorem CommandsKept.holding (kept : CommandsKept loads queue thread log)
    (message : after.phase.message? = thread.phase.message?)
    (device : after.phase.device? = thread.phase.device?)
    (undiscarded : forall visit message, after.phase ≠ .discarding visit message)
    (confirmed : forall visit message, after.phase = .removing visit message ->
      ⟨message.id, visit.target.deviceId, message.payload⟩ ∈ log.delivered) :
    CommandsKept loads queue after log := by
  have same : heldCommand after = heldCommand thread := by
    rw [heldCommand, heldCommand, message, device]
  refine ⟨kept.increasing, kept.numbered, kept.stored, ?_, ?_, undiscarded, confirmed, kept.known,
    kept.sorted, kept.behindRows, ?_, ?_, kept.accounted⟩
  · rw [same]
    exact kept.held
  · rw [message]
    exact kept.ageless
  · rw [same]
    exact kept.behindHeld
  · rw [same]
    exact kept.heldFirst

/-- The oldest row of a device is taken up. -/
theorem CommandsKept.peeked (kept : CommandsKept loads queue thread log) {visit : Visit}
    {message : QueuedMessage}
    (found : queue.peekOldest visit.target.deviceId UPSTREAM_TO_LOCAL false = some message)
    (arrived : after.phase = .examining visit message) :
    CommandsKept loads queue after log := by
  obtain ⟨row, inside, queued⟩ := MessageQueue.row_of_peekOldest found
  obtain ⟨there, device, direction⟩ := (MessageQueue.mem_partition_iff _ _ _ _).mp inside
  obtain ⟨command, _, _, owner, _, age, payload, _, logged⟩ := kept.stored row there
  have hand : heldCommand after = some ⟨row.1, visit.target.deviceId, row.2.payload⟩ := by
    rw [heldCommand, arrived, ← queued]
    rfl
  have sameDevice : command.deviceId = visit.target.deviceId :=
    Option.some.inj (owner.symm.trans device)
  refine ⟨kept.increasing, kept.numbered, kept.stored, ?_, ?_, ?_, ?_, kept.known, kept.sorted,
    kept.behindRows, ?_, ?_, kept.accounted⟩
  · intro report holds
    rw [hand] at holds
    cases holds
    rw [payload, ← sameDevice]
    exact logged
  · intro other holds
    rw [arrived] at holds
    cases holds
    rw [← queued]
    exact age
  · intro other held place
    rw [arrived] at place
    cases place
  · intro other held place
    rw [arrived] at place
    cases place
  · intro report other delivered holds same
    rw [hand] at holds
    cases holds
    exact kept.behindRows report row delivered there (device.trans (congrArg some same))
  · intro report other holds member own
    rw [hand] at holds
    cases holds
    have oldest := MessageQueue.peekOldest_oldest found ((MessageQueue.mem_partition_iff _ _ _ _).mpr
      ⟨member, own, (kept.stored other member).choose_spec.2.2.2.1⟩)
    rw [← queued] at oldest
    exact oldest

/-- The held command is confirmed. -/
theorem CommandsKept.delivered (kept : CommandsKept loads queue thread log) {visit : Visit}
    {message : QueuedMessage} (place : thread.phase = .publishing visit message) :
    CommandsKept loads queue thread { log with
      delivered := log.delivered ++ [⟨message.id, visit.target.deviceId, message.payload⟩] } := by
  have hand : heldCommand thread = some ⟨message.id, visit.target.deviceId, message.payload⟩ := by
    rw [heldCommand, place]
    rfl
  refine ⟨kept.increasing, kept.numbered, kept.stored, kept.held, kept.ageless, kept.undiscarded,
    ?_, ?_, ?_, ?_, ?_, kept.heldFirst, ?_⟩
  · intro other held removing
    rw [place] at removing
    cases removing
  · intro report member
    rcases List.mem_append.mp member with old | new
    · exact kept.known report old
    · rw [List.mem_singleton.mp new]
      exact kept.held _ hand
  · refine List.pairwise_append.mpr ⟨kept.sorted, List.pairwise_singleton _ _, ?_⟩
    intro old member new last same
    rw [List.mem_singleton.mp last] at same ⊢
    exact kept.behindHeld old _ member hand same.symm
  · intro report row member there device
    rcases List.mem_append.mp member with old | new
    · exact kept.behindRows report row old there device
    · rw [List.mem_singleton.mp new] at device ⊢
      exact kept.heldFirst _ row hand there device
  · intro report other member holds same
    rcases List.mem_append.mp member with old | new
    · exact kept.behindHeld report other old holds same
    · rw [List.mem_singleton.mp new]
      rw [hand] at holds
      cases holds
      exact Nat.le_refl _
  · intro report member
    rcases kept.accounted report member with pending | delivered | superseded
    · exact Or.inl pending
    · exact Or.inr (Or.inl (List.mem_append_left _ delivered))
    · exact Or.inr (Or.inr superseded)

/-- A step of the pump that delivers the commands. -/
theorem CommandsKept.pumped {settings : ReplaySettings} {taken : PumpStep}
    (kept : CommandsKept loads queue thread log)
    (moved : step (settings.pumpConfig .upstreamToLocal) thread queue taken = some (after, left)) :
    CommandsKept loads left after (log.observe thread.phase taken) := by
  have effect := step_effect moved
  have shrinks := effect.later
  have sequence := effect.sequence_eq
  cases effect with
  | quiet _ unchanged free =>
      rw [observe_of_not_removing log moved (not_removing_of_free free)]
      apply kept.released shrinks sequence free
      intro report _ pending
      rw [unchanged]
      exact Or.inl pending
  | peeked visit message act unchanged place found arrived =>
      subst unchanged
      have elsewhere : forall visit' other, after.phase ≠ .removing visit' other := by
        rw [arrived]
        exact fun _ _ there => (by cases there)
      rw [observe_of_not_removing log moved elsewhere]
      exact kept.peeked found arrived
  | foundExpired visit message now unchanged act place old arrived =>
      have age := kept.ageless message (by rw [place]; rfl)
      rw [isExpired, age] at old
      cases old
  | passedOn visit message _ unchanged place arrived =>
      subst unchanged
      have passed := passedOn_of_phases place arrived
      rw [observe_of_not_removing log moved passed.notRemoving]
      apply kept.holding
      · rw [passed.afterMessage, passed.beforeMessage]
      · rw [passed.afterDevice, passed.beforeDevice]
      · exact passed.notDiscarding
      · exact fun visit' other there => absurd there (passed.notRemoving visit' other)
  | confirmed visit message unchanged act place arrived =>
      subst unchanged
      rw [place, act]
      apply (kept.delivered place).holding
      · rw [arrived, place]
        rfl
      · rw [arrived, place]
        rfl
      · rw [arrived]
        exact fun _ _ there => (by cases there)
      · intro visit' other there
        rw [arrived] at there
        cases there
        exact List.mem_append_right _ (List.mem_singleton.mpr rfl)
  | demoted target rest act place changed free =>
      rw [observe_of_not_removing log moved (not_removing_of_free free)]
      apply kept.released shrinks sequence free
      intro report _ pending
      rw [changed, MessageQueue.demoteLiveMessages, AutoTable.ids_updateWhere]
      exact Or.inl pending
  | removed visit message place changed free =>
      rw [observe_of_not_removing log moved (not_removing_of_free free)]
      apply kept.released shrinks sequence free
      intro report member pending
      rcases place with ⟨_, discarding⟩ | ⟨_, removing⟩
      · exact absurd discarding (kept.undiscarded visit message)
      · by_cases same : report.id = message.id
        · right
          have done := kept.confirmed visit message removing
          rw [eq_of_position kept.increasing member (kept.known _ done) same]
          exact done
        · left
          obtain ⟨row, there, own⟩ := List.mem_map.mp pending
          rw [changed]
          refine List.mem_map.mpr ⟨row, List.mem_filter.mpr ⟨there, ?_⟩, own⟩
          rw [Bool.not_eq_true', decide_eq_false_iff_not, own]
          exact same

end Kept

/-! ## Every run -/

theorem commandsKept_step {settings : ReplaySettings} {loads : Loads} {action : CommandAction}
    {state after : Core × ReportLog}
    (kept : CommandsKept loads state.1.queue state.1.upstreamToLocalPump state.2)
    (admitted : admits loads state action = true)
    (moved : (commandMachine settings loads).step state action = some after) :
    CommandsKept loads after.1.queue after.1.upstreamToLocalPump after.2 := by
  cases action with
  | command command upstream now =>
      simp only [commandMachine] at moved
      split at moved
      · next accepted =>
          rw [Bool.and_eq_true] at accepted
          rw [admits, Bool.and_eq_true, decide_eq_true_eq] at admitted
          cases moved
          exact kept.command command now accepted.1 admitted.1 admitted.2
      · cases moved
  | pump taken =>
      simp only [commandMachine, Option.map_eq_some_iff] at moved
      obtain ⟨core, stepped, rfl⟩ := moved
      exact kept.pumped (coreMachine_stepped stepped)
  | restart =>
      cases moved
      apply kept.released (.refl _) rfl rfl
      exact fun _ _ pending => Or.inl pending

theorem commandsKept_run (settings : ReplaySettings) (loads : Loads) (maxSize sequence : Nat)
    (actions : List CommandAction)
    (meets : (commandMachine settings loads).Meets
      (fun state action => admits loads state action = true)
      (Core.initial maxSize sequence, {}) actions) :
    let final := (commandMachine settings loads).run (Core.initial maxSize sequence, {}) actions
    CommandsKept loads final.1.queue final.1.upstreamToLocalPump final.2 :=
  (commandMachine settings loads).run_invariant_of_meets _
    (fun state => CommandsKept loads state.1.queue state.1.upstreamToLocalPump state.2)
    (fun _ _ _ kept admitted moved => commandsKept_step kept admitted moved)
    _ actions (commandsKept_initial loads maxSize sequence) meets

/-- When nothing of the device is pending, the last delivered command with a field
is the last queued one. -/
theorem CommandsKept.last_value {loads : Loads} {queue : MessageQueue} {thread : PumpThread}
    {log : ReportLog} (kept : CommandsKept loads queue thread log) (deviceId field : String)
    (drained : queue.partition deviceId UPSTREAM_TO_LOCAL = []) :
    lastWhere (carries loads deviceId field) log.delivered =
      lastWhere (carries loads deviceId field) log.enqueued := by
  apply lastWhere_eq_of_ordered Report.id
  · exact fun report member _ => kept.known report member
  · intro last found
    obtain ⟨member, carried⟩ := mem_of_lastWhere found
    simp only [carries, Bool.and_eq_true, decide_eq_true_eq] at carried
    rcases kept.accounted last member with pending | delivered | superseded
    · exfalso
      obtain ⟨row, there, same⟩ := List.mem_map.mp pending
      obtain ⟨command, _, _, _, direction, _⟩ := kept.stored row there
      have device := (kept.report_of_row there member same).1
      rw [carried.1] at device
      have inside : row ∈ queue.partition deviceId UPSTREAM_TO_LOCAL :=
        (MessageQueue.mem_partition_iff _ _ _ _).mpr ⟨there, device, direction⟩
      rw [drained] at inside
      cases inside
    · exact delivered
    · exfalso
      obtain ⟨later, known, newer, device, fields⟩ := superseded
      have also : carries loads deviceId field later = true := by
        rw [carries, device, carried.1, fields, decide_eq_true rfl, decide_eq_true carried.2]
        rfl
      have upper := le_of_lastWhere Report.id
        (kept.increasing.imp (fun less _ _ => Nat.le_of_lt less)) found known also
      omega
  · refine kept.sorted.imp (fun ordered firstCarries secondCarries => ordered ?_)
    simp only [carries, Bool.and_eq_true, decide_eq_true_eq] at firstCarries secondCarries
    rw [firstCarries.1, secondCarries.1]
  · exact kept.increasing

/-- In every run without evictions, and in every state of it in which a device has
nothing pending: the delivered commands leave any attributes as all queued
commands would. -/
theorem coalescing_preserves_settings (settings : ReplaySettings) (loads : Loads)
    (maxSize sequence : Nat) (actions : List CommandAction) (deviceId : String)
    (attributes : String -> Option Json)
    (meets : (commandMachine settings loads).Meets
      (fun state action => admits loads state action = true)
      (Core.initial maxSize sequence, {}) actions)
    (drained : ((commandMachine settings loads).run (Core.initial maxSize sequence, {})
      actions).1.queue.partition deviceId UPSTREAM_TO_LOCAL = []) :
    let final := (commandMachine settings loads).run (Core.initial maxSize sequence, {}) actions
    (ofDevice deviceId final.2.delivered).foldl (applyCommand loads) attributes =
      (ofDevice deviceId final.2.enqueued).foldl (applyCommand loads) attributes := by
  intro final
  have kept := commandsKept_run settings loads maxSize sequence actions meets
  have restricted : forall (field : String) (reports : List Report),
      lastWhere (fun report => decide (field ∈ attrSetSettingFields loads report.payload))
          (ofDevice deviceId reports) =
        lastWhere (carries loads deviceId field) reports := by
    intro field reports
    rw [ofDevice, lastWhere_filter]
    exact lastWhere_congr (fun report _ => Bool.and_comm _ _)
  funext field
  rw [applyCommand, foldl_override, foldl_override, restricted, restricted,
    kept.last_value deviceId field drained]

/-- A settings command for device `A`. -/
def commandFor (payload : List UInt8) : CommandAction :=
  .command { deviceId := "A", productId := PRODUCT_ID, category := "service", payload := payload,
             qos := 0 } .online 0

/-- The next row is published and removed. -/
def sendNext : List CommandAction :=
  [.pump .peek, .pump (.checkExpiry 1), .pump (.publish .confirmed), .pump .removeDelivered]

/-- The first command is superseded while the second, which shares a field with
it, is pending. -/
def overlappingCommands : List CommandAction :=
  [commandFor bothSettings, commandFor soundOff, commandFor bothSettings,
    .pump (.beginPass [⟨"A", 0, true⟩]), .pump (.checkConnected true)] ++ sendNext ++ sendNext

theorem overlapping_commands_preserve_settings :
    ((commandMachine .default loadsReports).run (Core.initial DEFAULT_MAX_QUEUE_SIZE 0, {})
        overlappingCommands).2.delivered = [⟨2, "A", soundOff⟩, ⟨3, "A", bothSettings⟩] ∧
      (ofDevice "A" ((commandMachine .default loadsReports).run
          (Core.initial DEFAULT_MAX_QUEUE_SIZE 0, {}) overlappingCommands).2.delivered).foldl
          (applyCommand loadsReports) (fun _ => none) =
        (ofDevice "A" ((commandMachine .default loadsReports).run
          (Core.initial DEFAULT_MAX_QUEUE_SIZE 0, {}) overlappingCommands).2.enqueued).foldl
          (applyCommand loadsReports) (fun _ => none) :=
  ⟨by decide +kernel, coalescing_preserves_settings .default loadsReports DEFAULT_MAX_QUEUE_SIZE 0
    overlappingCommands "A" (fun _ => none) (by decide +kernel) (by decide +kernel)⟩

end Upstream
end PetlibroRelay
