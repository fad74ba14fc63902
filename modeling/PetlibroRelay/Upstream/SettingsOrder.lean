import PetlibroRelay.Queue.Refinement
import PetlibroRelay.Upstream.DeviceContext

namespace PetlibroRelay
namespace Upstream

open Foundations
open Protocol
open Pump
open Queue

/-!
# The order in which settings reach the cloud

A settings report carries a set of fields, and a pending report is superseded
only by a report with the same key, which is built from the exact set of
fields.  Reports with overlapping but different sets are both kept, and the pump
then sends live rows before older backlog rows.  An older report can therefore
be delivered after a newer one and carry an old value of a shared field.

A log notes which reports were queued and which were confirmed by the cloud.
The last value wins for every field in every run in which

* a pending report with the key of a new one carries no field the new one
  lacks, and
* no backlog report with another key shares a field with a new live report.
-/

/-- A report as it was queued or delivered. -/
structure Report where
  id : Nat
  deviceId : String
  payload : List UInt8
  deriving DecidableEq, Repr

structure ReportLog where
  enqueued : List Report := []
  delivered : List Report := []
  deriving DecidableEq, Repr

/-- Whether a payload is a settings report with at least one setting field. -/
def isSettingsReport (loads : Loads) (payload : List UInt8) : Bool :=
  decide (extractCommand loads payload = some Command.ATTR_SET_SERVICE) &&
    !(attrSetSettingFields loads payload).isEmpty

/-- The arguments of `_enqueue` for a report, and what its two looks at the
upstream state see. -/
structure ReportCall where
  deviceId : String
  productId : String
  topic : String
  payload : List UInt8
  qos : Nat
  firstLook : UpstreamState
  secondLook : UpstreamState
  deriving DecidableEq, Repr

/-- The queue call made for a report. -/
def ReportCall.queueCall (loads : Loads) (call : ReportCall) : EnqueueCall :=
  enqueueCall loads
    { deviceId := call.deviceId, productId := call.productId, isCloudToDevice := false,
      topic := call.topic, payload := call.payload, qos := call.qos }
    call.secondLook.isOnline

/-- Reports arrive at any moment and in any upstream state, the pump of their
direction moves, and the process restarts. -/
inductive SettingsAction where
  | report (call : ReportCall) (now : Rat)
  | pump (taken : PumpStep)
  | restart
  deriving DecidableEq, Repr

/-- A confirmed publish is noted. -/
def ReportLog.observe (log : ReportLog) (phase : Phase) (taken : PumpStep) : ReportLog :=
  match phase, taken with
  | .publishing visit message, .publish .confirmed =>
      { log with
        delivered := log.delivered ++ [⟨message.id, visit.target.deviceId, message.payload⟩] }
  | _, _ => log

/-- The queue and its pumps while only settings reports are queued. -/
def settingsMachine (settings : ReplaySettings) (loads : Loads) :
    Machine (Core × ReportLog) SettingsAction where
  step state
    | .report call now =>
        if isSettingsReport loads call.payload &&
            mayEnqueue loads false call.payload call.firstLook then
          ((coreMachine settings).step state.1 (.enqueue (call.queueCall loads) now)).map
            (fun core => (core, { state.2 with
              enqueued := state.2.enqueued ++
                [⟨state.1.queue.pendingMessages.sequence + 1, call.deviceId, call.payload⟩] }))
        else none
    | .pump taken =>
        ((coreMachine settings).step state.1 (.pump .localToUpstream taken)).map
          (fun core => (core, state.2.observe state.1.localToUpstreamPump.phase taken))
    | .restart =>
        ((coreMachine settings).step state.1 .restart).map (fun core => (core, state.2))

/-- Whether a report of the device carries the field. -/
def carries (loads : Loads) (deviceId field : String) (report : Report) : Bool :=
  decide (report.deviceId = deviceId) &&
    decide (field ∈ attrSetSettingFields loads report.payload)

/-- No row is evicted to make room for the report. -/
def withinLimit (loads : Loads) (state : Core × ReportLog) : SettingsAction -> Bool
  | .report call _ =>
      decide ((state.1.queue.coalesce (call.queueCall loads)).count call.deviceId
        LOCAL_TO_UPSTREAM + 1 ≤ state.1.queue.maxSizePerDirection)
  | _ => true

/-- A pending report with the key of the new one carries no further field, and a
backlog report with another key shares no field with a new live one. -/
def keepsOrder (loads : Loads) (state : Core × ReportLog) : SettingsAction -> Bool
  | .report call _ =>
      (state.1.queue.partition call.deviceId LOCAL_TO_UPSTREAM).all (fun row =>
        if row.2.coalesceKey = (call.queueCall loads).coalesceKey then
          (attrSetSettingFields loads row.2.payload).all
            (fun field => decide (field ∈ attrSetSettingFields loads call.payload))
        else
          row.2.isLive || !call.secondLook.isOnline ||
            (attrSetSettingFields loads row.2.payload).all
              (fun field => decide (field ∉ attrSetSettingFields loads call.payload)))
  | _ => true

/-! ## The invariant -/

/-- The report a row stands for. -/
def reportOf (deviceId : String) (row : Nat × PendingMessage) : Report :=
  ⟨row.1, deviceId, row.2.payload⟩

/-- For the last report with a given field there are two possibilities: it is
still pending, or it was delivered last and nothing pending or in the pump's
hands carries the field. -/
def Settled (loads : Loads) (state : Core × ReportLog) (deviceId field : String)
    (last : Report) : Prop :=
  last.id ∈ state.1.queue.pendingMessages.ids ∨
    (lastWhere (carries loads deviceId field) state.2.delivered = some last ∧
      (forall row, row ∈ state.1.queue.pendingMessages.rows -> row.2.deviceId = some deviceId ->
        field ∉ attrSetSettingFields loads row.2.payload) ∧
      (forall message, state.1.localToUpstreamPump.phase.message? = some message ->
        state.1.localToUpstreamPump.phase.device? = some deviceId ->
        field ∉ attrSetSettingFields loads message.payload))

structure InOrder (loads : Loads) (state : Core × ReportLog) : Prop where
  increasing : state.2.enqueued.Pairwise (fun first second => first.id < second.id)
  numbered : forall report, report ∈ state.2.enqueued ->
    report.id ≤ state.1.queue.pendingMessages.sequence
  stored : forall row, row ∈ state.1.queue.pendingMessages.rows ->
    row.2.direction = LOCAL_TO_UPSTREAM ∧ row.2.maxAgeSeconds = none ∧
      exists deviceId, row.2.deviceId = some deviceId ∧
        reportOf deviceId row ∈ state.2.enqueued
  held : forall message deviceId,
    state.1.localToUpstreamPump.phase.message? = some message ->
    state.1.localToUpstreamPump.phase.device? = some deviceId ->
    message.maxAgeSeconds = none ∧ ⟨message.id, deviceId, message.payload⟩ ∈ state.2.enqueued
  undiscarded : forall visit message,
    state.1.localToUpstreamPump.phase ≠ .discarding visit message
  delivered : forall report, report ∈ state.2.delivered -> report ∈ state.2.enqueued
  liveTogether : forall older newer field, older ∈ state.1.queue.pendingMessages.rows ->
    newer ∈ state.1.queue.pendingMessages.rows -> older.2.deviceId = newer.2.deviceId ->
    older.1 < newer.1 -> field ∈ attrSetSettingFields loads older.2.payload ->
    field ∈ attrSetSettingFields loads newer.2.payload -> newer.2.isLive = true ->
    older.2.isLive = true
  heldFirst : forall message deviceId row field,
    state.1.localToUpstreamPump.phase.message? = some message ->
    state.1.localToUpstreamPump.phase.device? = some deviceId ->
    row ∈ state.1.queue.pendingMessages.rows -> row.2.deviceId = some deviceId ->
    field ∈ attrSetSettingFields loads message.payload ->
    field ∈ attrSetSettingFields loads row.2.payload -> message.id ≤ row.1
  lastInHand : forall visit message,
    state.1.localToUpstreamPump.phase = .removing visit message ->
    state.2.delivered.getLast? = some ⟨message.id, visit.target.deviceId, message.payload⟩
  settled : forall deviceId field last,
    lastWhere (carries loads deviceId field) state.2.enqueued = some last ->
    Settled loads state deviceId field last

theorem inOrder_initial (loads : Loads) (maxSize sequence : Nat) :
    InOrder loads (Core.initial maxSize sequence, {}) where
  increasing := List.Pairwise.nil
  numbered := fun _ member => nomatch member
  stored := fun _ member => nomatch member
  held := fun _ _ found => nomatch found
  undiscarded := fun _ _ found => nomatch found
  delivered := fun _ member => nomatch member
  liveTogether := fun _ _ _ member => nomatch member
  heldFirst := fun _ _ _ _ found => nomatch found
  lastInHand := fun _ _ found => nomatch found
  settled := fun _ _ _ found => nomatch found

namespace InOrder

variable {loads : Loads} {core : Core} {log : ReportLog}

/-- The row of a report is determined by its key. -/
theorem report_unique (order : InOrder loads (core, log)) {first second : Report}
    (firstMember : first ∈ log.enqueued) (secondMember : second ∈ log.enqueued)
    (same : first.id = second.id) : first = second := by
  have distinct : (log.enqueued.map Report.id).Nodup := by
    rw [List.Nodup, List.pairwise_map]
    exact order.increasing.imp (fun less => Nat.ne_of_lt less)
  exact List.inj_on_of_nodup_map distinct firstMember secondMember same

/-- The report of a stored row with a known device. -/
theorem report_of_row (order : InOrder loads (core, log)) {row : Nat × PendingMessage}
    (member : row ∈ core.queue.pendingMessages.rows) {deviceId : String}
    (device : row.2.deviceId = some deviceId) : reportOf deviceId row ∈ log.enqueued := by
  rcases (order.stored row member).2.2 with ⟨owner, ownerDevice, known⟩
  have same : owner = deviceId := Option.some.inj (ownerDevice.symm.trans device)
  exact same ▸ known

theorem row_le_sequence (_order : InOrder loads (core, log)) {row : Nat × PendingMessage}
    (member : row ∈ core.queue.pendingMessages.rows) :
    row.1 ≤ core.queue.pendingMessages.sequence :=
  core.queue.pendingMessages.bounded row member

end InOrder

/-! ## A new report -/

/-- A settings report has no age limit and always has a key. -/
theorem queueCall_spec {loads : Loads} {call : ReportCall}
    (settings : isSettingsReport loads call.payload = true) :
    (call.queueCall loads).maxAgeSeconds = none ∧
      exists key, (call.queueCall loads).coalesceKey = some key := by
  simp only [isSettingsReport, Bool.and_eq_true, decide_eq_true_eq, Bool.not_eq_true',
    List.isEmpty_eq_false_iff] at settings
  rcases settings with ⟨command, nonempty⟩
  have policy : policyFor false (some Command.ATTR_SET_SERVICE) = LATEST_WINS := by decide
  simp only [ReportCall.queueCall, enqueueCall, command, policy]
  refine ⟨rfl, ?_⟩
  cases fields : attrSetSettingFields loads call.payload with
  | nil => exact absurd fields nonempty
  | cons field rest =>
      simp only [coalesceKeyFor, fields, LATEST_WINS, if_true]
      exact ⟨_, rfl⟩

/-- What the order condition says about one pending row of the device. -/
theorem keepsOrder_row {loads : Loads} {core : Core} {log : ReportLog} {call : ReportCall}
    {now : Rat} (keeps : keepsOrder loads (core, log) (.report call now) = true)
    {row : Nat × PendingMessage} (member : row ∈ core.queue.pendingMessages.rows)
    (device : row.2.deviceId = some call.deviceId)
    (direction : row.2.direction = LOCAL_TO_UPSTREAM) :
    (row.2.coalesceKey = (call.queueCall loads).coalesceKey ->
      forall field, field ∈ attrSetSettingFields loads row.2.payload ->
        field ∈ attrSetSettingFields loads call.payload) ∧
    (row.2.coalesceKey ≠ (call.queueCall loads).coalesceKey -> row.2.isLive = false ->
      call.secondLook.isOnline = true ->
      forall field, field ∈ attrSetSettingFields loads row.2.payload ->
        field ∉ attrSetSettingFields loads call.payload) := by
  have inside : row ∈ core.queue.partition call.deviceId LOCAL_TO_UPSTREAM :=
    (MessageQueue.mem_partition_iff _ _ _ _).mpr ⟨member, device, direction⟩
  have condition := List.all_eq_true.mp keeps row inside
  constructor
  · intro same field fieldMember
    rw [if_pos same] at condition
    exact of_decide_eq_true (List.all_eq_true.mp condition field fieldMember)
  · intro different backlog online field fieldMember
    rw [if_neg different, backlog, online] at condition
    simp only [Bool.not_true, Bool.or_self, Bool.false_or] at condition
    exact of_decide_eq_true (List.all_eq_true.mp condition field fieldMember)

/-- A row that survives a report of its device has another key. -/
theorem key_ne_of_survives {loads : Loads} {call : ReportCall} {row : Nat × PendingMessage}
    (settings : isSettingsReport loads call.payload = true)
    (survives : MessageQueue.supersededBy call.deviceId LOCAL_TO_UPSTREAM
      (call.queueCall loads).coalesceKey row = false)
    (device : row.2.deviceId = some call.deviceId)
    (direction : row.2.direction = LOCAL_TO_UPSTREAM) :
    row.2.coalesceKey ≠ (call.queueCall loads).coalesceKey := by
  rcases (queueCall_spec settings).2 with ⟨key, keyed⟩
  intro same
  simp only [keyed, MessageQueue.supersededBy, inPartition, device, direction, same,
    decide_true, Bool.and_self, Bool.true_eq_false] at survives

/-- A superseded row belongs to the device and has the key of the report. -/
theorem of_superseded {loads : Loads} {call : ReportCall} {row : Nat × PendingMessage}
    (doomed : MessageQueue.supersededBy call.deviceId LOCAL_TO_UPSTREAM
      (call.queueCall loads).coalesceKey row = true) :
    row.2.deviceId = some call.deviceId ∧ row.2.direction = LOCAL_TO_UPSTREAM ∧
      row.2.coalesceKey = (call.queueCall loads).coalesceKey := by
  cases keyed : (call.queueCall loads).coalesceKey with
  | none => rw [keyed] at doomed; cases doomed
  | some key =>
      simp only [keyed, MessageQueue.supersededBy, inPartition, Bool.and_eq_true,
        decide_eq_true_eq] at doomed
      exact ⟨doomed.1.1, doomed.1.2, doomed.2⟩

theorem inOrder_report {loads : Loads} {core : Core} {log : ReportLog}
    (order : InOrder loads (core, log)) (call : ReportCall) (now : Rat)
    (settings : isSettingsReport loads call.payload = true)
    (fits : withinLimit loads (core, log) (.report call now) = true)
    (keeps : keepsOrder loads (core, log) (.report call now) = true) :
    InOrder loads
      ({ core with queue := (core.queue.enqueue (call.queueCall loads) now).1 },
        { log with enqueued := log.enqueued ++
          [⟨core.queue.pendingMessages.sequence + 1, call.deviceId, call.payload⟩] }) := by
  have grown := core.queue.enqueue_of_fits (call.queueCall loads) now (of_decide_eq_true fits)
  have rows := core.queue.mem_rows_grown_iff (call.queueCall loads) now
  have sequence := core.queue.sequence_enqueue (call.queueCall loads) now
  rw [grown] at sequence ⊢
  refine ⟨?_, ?_, ?_, ?_, order.undiscarded, ?_, ?_, ?_, order.lastInHand, ?_⟩
  · refine List.pairwise_append.mpr ⟨order.increasing, List.pairwise_singleton _ _, ?_⟩
    intro old oldMember new newMember
    rw [List.mem_singleton.mp newMember]
    exact Nat.lt_succ_of_le (order.numbered old oldMember)
  · intro report member
    simp only [sequence]
    rcases List.mem_append.mp member with old | new
    · exact Nat.le_succ_of_le (order.numbered report old)
    · rw [List.mem_singleton.mp new]
  · intro row member
    rcases (rows row).mp member with ⟨old, _⟩ | new
    · rcases order.stored row old with ⟨direction, ageless, deviceId, device, known⟩
      exact ⟨direction, ageless, deviceId, device, List.mem_append_left _ known⟩
    · subst row
      exact ⟨rfl, (queueCall_spec settings).1, call.deviceId, rfl,
        List.mem_append_right _ (List.mem_singleton.mpr rfl)⟩
  · intro message deviceId holds device
    rcases order.held message deviceId holds device with ⟨ageless, known⟩
    exact ⟨ageless, List.mem_append_left _ known⟩
  · intro report member
    exact List.mem_append_left _ (order.delivered report member)
  · intro older newer field olderMember newerMember device less olderField newerField live
    rcases (rows older).mp olderMember with ⟨olderOld, survives⟩ | olderNew
    · rcases (rows newer).mp newerMember with ⟨newerOld, _⟩ | newerNew
      · exact order.liveTogether older newer field olderOld newerOld device less olderField
          newerField live
      · subst newer
        have direction := (order.stored older olderOld).1
        have different := key_ne_of_survives settings survives device direction
        by_contra backlog
        exact (keepsOrder_row keeps olderOld device direction).2 different
          (Bool.eq_false_iff.mpr backlog) live field olderField newerField
    · rw [olderNew] at less
      rcases (rows newer).mp newerMember with ⟨newerOld, _⟩ | newerNew
      · exact absurd less (Nat.not_lt_of_ge (Nat.le_succ_of_le (order.row_le_sequence newerOld)))
      · rw [newerNew] at less
        exact absurd less (Nat.lt_irrefl _)
  · intro message deviceId row field holds device member rowDevice messageField rowField
    rcases (rows row).mp member with ⟨old, _⟩ | new
    · exact order.heldFirst message deviceId row field holds device old rowDevice messageField
        rowField
    · rw [new]
      exact Nat.le_succ_of_le (order.numbered _ (order.held message deviceId holds device).2)
  · intro deviceId field last found
    rw [lastWhere_concat] at found
    split at found
    · cases found
      exact Or.inl (List.mem_map_of_mem ((rows _).mpr (Or.inr rfl)))
    · next other =>
        rcases order.settled deviceId field last found with pending | ⟨lastOne, free, handsFree⟩
        · left
          rcases List.mem_map.mp pending with ⟨row, member, same⟩
          have survives : MessageQueue.supersededBy call.deviceId LOCAL_TO_UPSTREAM
              (call.queueCall loads).coalesceKey row = false := by
            apply Bool.eq_false_iff.mpr
            intro doomed
            rcases of_superseded doomed with ⟨device, direction, key⟩
            have found' := mem_of_lastWhere found
            have equal : last = reportOf call.deviceId row :=
              order.report_unique found'.1 (order.report_of_row member device) same.symm
            subst equal
            simp only [carries, Bool.and_eq_true, decide_eq_true_eq] at found' other
            exact other ⟨found'.2.1, (keepsOrder_row keeps member device direction).1 key field
              found'.2.2⟩
          rw [← same]
          exact List.mem_map_of_mem ((rows row).mpr (Or.inl ⟨member, survives⟩))
        · refine Or.inr ⟨lastOne, ?_, handsFree⟩
          intro row member device
          rcases (rows row).mp member with ⟨old, _⟩ | new
          · exact free row old device
          · subst row
            intro fieldMember
            apply other
            simp only [carries, Bool.and_eq_true, decide_eq_true_eq]
            exact ⟨Option.some.inj device, fieldMember⟩

/-! ## A step of the pump -/

/-- Only a confirmed publish is noted, and it leads to the removal. -/
theorem observe_of_not_removing {config : PumpConfig} {pump after : PumpThread}
    {queue left : MessageQueue} {taken : PumpStep} (log : ReportLog)
    (moved : step config pump queue taken = some (after, left))
    (elsewhere : forall visit message, after.phase ≠ .removing visit message) :
    log.observe pump.phase taken = log := by
  unfold ReportLog.observe
  split
  · next visit message place =>
      simp only [step, place, publishConfirmed] at moved
      cases moved
      exact absurd rfl (elsewhere visit message)
  · rfl

theorem not_removing_of_free {phase : Phase} (free : phase.message? = none) (visit : Visit)
    (message : QueuedMessage) : phase ≠ .removing visit message := by
  intro place
  rw [place] at free
  cases free

/-- A step after which the pump holds nothing and in which no row changed but for
its liveness. -/
theorem inOrder_of_free {loads : Loads} {core : Core} {log : ReportLog}
    (order : InOrder loads (core, log)) {after : Core}
    (free : after.localToUpstreamPump.phase.message? = none)
    (sequence : after.queue.pendingMessages.sequence = core.queue.pendingMessages.sequence)
    (rows : forall row, row ∈ after.queue.pendingMessages.rows -> exists isLive,
      (row.1, { row.2 with isLive := isLive }) ∈ core.queue.pendingMessages.rows)
    (live : forall older newer field, older ∈ after.queue.pendingMessages.rows ->
      newer ∈ after.queue.pendingMessages.rows -> older.2.deviceId = newer.2.deviceId ->
      older.1 < newer.1 -> field ∈ attrSetSettingFields loads older.2.payload ->
      field ∈ attrSetSettingFields loads newer.2.payload -> newer.2.isLive = true ->
      older.2.isLive = true)
    (settled : forall deviceId field last,
      lastWhere (carries loads deviceId field) log.enqueued = some last ->
      last.id ∈ core.queue.pendingMessages.ids ->
      last.id ∈ after.queue.pendingMessages.ids ∨
        (lastWhere (carries loads deviceId field) log.delivered = some last ∧
          forall row, row ∈ after.queue.pendingMessages.rows -> row.2.deviceId = some deviceId ->
            field ∉ attrSetSettingFields loads row.2.payload)) :
    InOrder loads (after, log) := by
  refine ⟨order.increasing, ?_, ?_, ?_, ?_, order.delivered, live, ?_, ?_, ?_⟩
  · simp only [sequence]
    exact order.numbered
  · intro row member
    rcases rows row member with ⟨isLive, old⟩
    exact order.stored (row.1, { row.2 with isLive := isLive }) old
  · intro message deviceId holds
    rw [free] at holds
    cases holds
  · intro visit message place
    have there : after.localToUpstreamPump.phase = .discarding visit message := place
    rw [there] at free
    cases free
  · intro message deviceId row field holds
    rw [free] at holds
    cases holds
  · intro visit message place
    exact absurd place (not_removing_of_free free visit message)
  · intro deviceId field last found
    have hands : forall message, after.localToUpstreamPump.phase.message? = some message ->
        after.localToUpstreamPump.phase.device? = some deviceId ->
        field ∉ attrSetSettingFields loads message.payload := by
      intro message holds
      rw [free] at holds
      cases holds
    rcases order.settled deviceId field last found with pending | ⟨lastOne, clear, _⟩
    · rcases settled deviceId field last found pending with still | ⟨lastOne, clear⟩
      · exact Or.inl still
      · exact Or.inr ⟨lastOne, clear, hands⟩
    · refine Or.inr ⟨lastOne, ?_, hands⟩
      intro row member device
      rcases rows row member with ⟨isLive, old⟩
      exact clear (row.1, { row.2 with isLive := isLive }) old device

/-- A step in which the pump holds on to the same message of the same device. -/
theorem inOrder_of_holding {loads : Loads} {core : Core} {log : ReportLog}
    (order : InOrder loads (core, log)) {thread : PumpThread} {message : QueuedMessage}
    {deviceId : String}
    (before : core.localToUpstreamPump.phase.message? = some message)
    (beforeDevice : core.localToUpstreamPump.phase.device? = some deviceId)
    (after : thread.phase.message? = some message)
    (afterDevice : thread.phase.device? = some deviceId)
    (undiscarded : forall visit message, thread.phase ≠ .discarding visit message)
    (lastInHand : forall visit message, thread.phase = .removing visit message ->
      log.delivered.getLast? = some ⟨message.id, visit.target.deviceId, message.payload⟩) :
    InOrder loads ({ core with localToUpstreamPump := thread }, log) := by
  have same : forall other, thread.phase.message? = some other -> other = message :=
    fun other holds => Option.some.inj (holds.symm.trans after)
  have sameDevice : forall other, thread.phase.device? = some other -> other = deviceId :=
    fun other device => Option.some.inj (device.symm.trans afterDevice)
  refine ⟨order.increasing, order.numbered, order.stored, ?_, undiscarded, order.delivered,
    order.liveTogether, ?_, lastInHand, ?_⟩
  · intro other otherDevice holds device
    rw [same other holds, sameDevice otherDevice device]
    exact order.held message deviceId before beforeDevice
  · intro other otherDevice row field holds device member
    rw [same other holds, sameDevice otherDevice device]
    exact order.heldFirst message deviceId row field before beforeDevice member
  · intro otherDevice field last found
    rcases order.settled otherDevice field last found with pending | ⟨lastOne, clear, hands⟩
    · exact Or.inl pending
    · refine Or.inr ⟨lastOne, clear, ?_⟩
      intro other holds device
      rw [same other holds]
      rw [sameDevice otherDevice device] at hands
      exact hands message before beforeDevice

/-- The peeked row comes before every pending row that shares a field with it. -/
theorem heldFirst_of_peeked {loads : Loads} {core : Core} {log : ReportLog}
    (order : InOrder loads (core, log)) {deviceId : String} {message : QueuedMessage}
    (found : core.queue.peekOldest deviceId LOCAL_TO_UPSTREAM true = some message)
    {row : Nat × PendingMessage} (member : row ∈ core.queue.pendingMessages.rows)
    (device : row.2.deviceId = some deviceId) {field : String}
    (messageField : field ∈ attrSetSettingFields loads message.payload)
    (rowField : field ∈ attrSetSettingFields loads row.2.payload) : message.id ≤ row.1 := by
  have inside : row ∈ core.queue.partition deviceId LOCAL_TO_UPSTREAM :=
    (MessageQueue.mem_partition_iff _ _ _ _).mpr ⟨member, device, (order.stored row member).1⟩
  rcases MessageQueue.peekOldest_first found inside with ⟨liveFirst, oldestFirst⟩
  rcases MessageQueue.row_of_peekOldest found with ⟨chosen, chosenInside, queued⟩
  subst message
  have chosenPlace := (MessageQueue.mem_partition_iff _ _ _ _).mp chosenInside
  by_contra older
  have chosenLive : chosen.2.isLive = true -> row.2.isLive = true :=
    order.liveTogether row chosen field member chosenPlace.1
      (device.trans chosenPlace.2.1.symm) (Nat.lt_of_not_ge older) rowField messageField
  apply older
  apply oldestFirst
  cases live : row.2.isLive with
  | true => exact (liveFirst live).symm
  | false =>
      cases dead : (queuedMessage chosen).isLive with
      | true => rw [chosenLive dead] at live; cases live
      | false => rfl

/-- Removing the delivered row settles its fields. -/
theorem settled_of_removed {loads : Loads} {core : Core} {log : ReportLog}
    (order : InOrder loads (core, log)) {visit : Visit} {message : QueuedMessage}
    (place : core.localToUpstreamPump.phase = .removing visit message)
    (deviceId field : String) (last : Report)
    (found : lastWhere (carries loads deviceId field) log.enqueued = some last)
    (pending : last.id ∈ core.queue.pendingMessages.ids) :
    last.id ∈ (core.queue.remove message.id).pendingMessages.ids ∨
      (lastWhere (carries loads deviceId field) log.delivered = some last ∧
        forall row, row ∈ (core.queue.remove message.id).pendingMessages.rows ->
          row.2.deviceId = some deviceId ->
          field ∉ attrSetSettingFields loads row.2.payload) := by
  have held := order.held message visit.target.deviceId
    (by simp only [place]; rfl) (by simp only [place]; rfl)
  by_cases same : last.id = message.id
  · right
    have lastFacts := mem_of_lastWhere found
    have equal : last = ⟨message.id, visit.target.deviceId, message.payload⟩ :=
      order.report_unique lastFacts.1 held.2 same
    have ends := order.lastInHand visit message place
    rw [← equal] at ends
    refine ⟨lastWhere_of_getLast ends lastFacts.2, ?_⟩
    intro row member device fieldMember
    have parts := List.mem_filter.mp member
    have carried : carries loads deviceId field (reportOf deviceId row) = true := by
      simp only [carries, reportOf, decide_true, Bool.true_and]
      exact decide_eq_true fieldMember
    have upper := le_of_lastWhere Report.id
      (order.increasing.imp (fun less _ _ => Nat.le_of_lt less)) found
      (order.report_of_row parts.1 device) carried
    simp only [carries, Bool.and_eq_true, decide_eq_true_eq, equal] at lastFacts
    have lower := order.heldFirst message visit.target.deviceId row field
      (by simp only [place]; rfl) (by simp only [place]; rfl) parts.1
      (by rw [device, lastFacts.2.1]) lastFacts.2.2 fieldMember
    rw [same] at upper
    have there : row.1 = message.id := Nat.le_antisymm upper lower
    simp only [there, decide_true, Bool.not_true, Bool.false_eq_true] at parts
    exact parts.2
  · left
    rcases List.mem_map.mp pending with ⟨row, member, rowId⟩
    refine List.mem_map.mpr ⟨row, List.mem_filter.mpr ⟨member, ?_⟩, rowId⟩
    rw [Bool.not_eq_true', decide_eq_false_iff_not, rowId]
    exact same

/-- Noting a delivery of the message in hand. -/
theorem inOrder_delivered {loads : Loads} {core : Core} {log : ReportLog}
    (order : InOrder loads (core, log)) {message : QueuedMessage} {deviceId : String}
    {visit : Visit} (place : core.localToUpstreamPump.phase = .publishing visit message)
    (target : visit.target.deviceId = deviceId) :
    InOrder loads (core, { log with
      delivered := log.delivered ++ [⟨message.id, deviceId, message.payload⟩] }) := by
  have before : core.localToUpstreamPump.phase.message? = some message := by rw [place]; rfl
  have device : core.localToUpstreamPump.phase.device? = some deviceId := by
    rw [place, ← target]
    rfl
  refine ⟨order.increasing, order.numbered, order.stored, order.held, order.undiscarded, ?_,
    order.liveTogether, order.heldFirst, ?_, ?_⟩
  · intro report member
    rcases List.mem_append.mp member with old | new
    · exact order.delivered report old
    · rw [List.mem_singleton.mp new]
      exact (order.held message deviceId before device).2
  · intro visit' other there
    have impossible := place.symm.trans there
    cases impossible
  · intro otherDevice field last found
    rcases order.settled otherDevice field last found with pending | ⟨lastOne, clear, hands⟩
    · exact Or.inl pending
    · refine Or.inr ⟨?_, clear, hands⟩
      rw [lastWhere_concat, if_neg, lastOne]
      intro carried
      simp only [carries, Bool.and_eq_true, decide_eq_true_eq] at carried
      exact hands message before (carried.1 ▸ device) carried.2

/-- Demotion reaches all live rows of a device at once. -/
theorem liveTogether_demoted {loads : Loads} {core : Core} {log : ReportLog}
    (order : InOrder loads (core, log)) (deviceId : String)
    (older newer : Nat × PendingMessage) (field : String)
    (olderMember : older ∈
      (core.queue.demoteLiveMessages deviceId LOCAL_TO_UPSTREAM).1.pendingMessages.rows)
    (newerMember : newer ∈
      (core.queue.demoteLiveMessages deviceId LOCAL_TO_UPSTREAM).1.pendingMessages.rows)
    (device : older.2.deviceId = newer.2.deviceId) (less : older.1 < newer.1)
    (olderField : field ∈ attrSetSettingFields loads older.2.payload)
    (newerField : field ∈ attrSetSettingFields loads newer.2.payload)
    (live : newer.2.isLive = true) : older.2.isLive = true := by
  rcases List.mem_map.mp newerMember with ⟨newerOld, newerOldMember, newerSame⟩
  split at newerSame
  · subst newer
    cases live
  · next newerKept =>
      subst newer
      rcases List.mem_map.mp olderMember with ⟨olderOld, olderOldMember, olderSame⟩
      split at olderSame
      · next demoted =>
          subst older
          exfalso
          apply newerKept
          simp only [MessageQueue.isLiveIn, inPartition, Bool.and_eq_true,
            decide_eq_true_eq] at demoted ⊢
          exact ⟨⟨device.symm.trans demoted.1.1, (order.stored newerOld newerOldMember).1⟩, live⟩
      · subst older
        exact order.liveTogether olderOld newerOld field olderOldMember newerOldMember device less
          olderField newerField live

/-- A pump takes the oldest row of its device in hand. -/
theorem inOrder_peeked {loads : Loads} {core : Core} {log : ReportLog} {thread : PumpThread}
    {visit : Visit} {message : QueuedMessage} (order : InOrder loads (core, log))
    (found : core.queue.peekOldest visit.target.deviceId LOCAL_TO_UPSTREAM true = some message)
    (arrived : thread.phase = .examining visit message) :
    InOrder loads ({ core with localToUpstreamPump := thread }, log) := by
  rcases MessageQueue.row_of_peekOldest found with ⟨row, inside, queued⟩
  have rowPlace := (MessageQueue.mem_partition_iff _ _ _ _).mp inside
  have same : forall other, thread.phase.message? = some other -> other = message := by
    rw [arrived]
    exact fun other holds => (Option.some.inj holds).symm
  have sameDevice : forall other, thread.phase.device? = some other ->
      other = visit.target.deviceId := by
    rw [arrived]
    exact fun other device => (Option.some.inj device).symm
  refine ⟨order.increasing, order.numbered, order.stored, ?_, ?_, order.delivered,
    order.liveTogether, ?_, ?_, ?_⟩
  · intro other deviceId holds device
    rw [same other holds, sameDevice deviceId device, ← queued]
    exact ⟨(order.stored row rowPlace.1).2.1, order.report_of_row rowPlace.1 rowPlace.2.1⟩
  · intro visit' other there
    have impossible := arrived.symm.trans there
    cases impossible
  · intro other deviceId pending field holds device member rowDevice otherField rowField
    rw [same other holds] at otherField ⊢
    rw [sameDevice deviceId device] at rowDevice
    exact heldFirst_of_peeked order found member rowDevice otherField rowField
  · intro visit' other there
    have impossible := arrived.symm.trans there
    cases impossible
  · intro deviceId field last lastFound
    rcases order.settled deviceId field last lastFound with pending | ⟨lastOne, clear, _⟩
    · exact Or.inl pending
    · refine Or.inr ⟨lastOne, clear, ?_⟩
      intro other holds device
      rw [same other holds, ← queued]
      have drained := sameDevice deviceId device
      exact clear row rowPlace.1 (by rw [drained]; exact rowPlace.2.1)

/-- The broker has confirmed the message in hand. -/
theorem inOrder_confirmed {loads : Loads} {core : Core} {log : ReportLog} {thread : PumpThread}
    {visit : Visit} {message : QueuedMessage} (order : InOrder loads (core, log))
    (place : core.localToUpstreamPump.phase = .publishing visit message)
    (arrived : thread.phase = .removing visit message) :
    InOrder loads ({ core with localToUpstreamPump := thread }, { log with
      delivered := log.delivered ++ [⟨message.id, visit.target.deviceId, message.payload⟩] }) := by
  have before : core.localToUpstreamPump.phase.message? = some message := by rw [place]; rfl
  have device : core.localToUpstreamPump.phase.device? = some visit.target.deviceId := by
    rw [place]
    rfl
  refine inOrder_of_holding (inOrder_delivered order place rfl) before device ?_ ?_ ?_ ?_
  · rw [arrived]
    rfl
  · rw [arrived]
    rfl
  · rw [arrived]
    intro _ _ there
    cases there
  · rw [arrived]
    intro _ _ there
    cases there
    exact List.getLast?_concat

/-- A row is removed that was delivered. -/
theorem inOrder_removed {loads : Loads} {core : Core} {log : ReportLog} {thread : PumpThread}
    {visit : Visit} {message : QueuedMessage} (order : InOrder loads (core, log))
    (place : core.localToUpstreamPump.phase = .removing visit message)
    (free : thread.phase.message? = none) :
    InOrder loads
      ({ core with queue := core.queue.remove message.id, localToUpstreamPump := thread },
        log) := by
  have kept : forall row, row ∈ (core.queue.remove message.id).pendingMessages.rows ->
      row ∈ core.queue.pendingMessages.rows := fun row member => (List.mem_filter.mp member).1
  refine inOrder_of_free order free rfl ?_ ?_ (settled_of_removed order place)
  · exact fun row member => ⟨row.2.isLive, kept row member⟩
  · intro older newer field olderMember newerMember
    exact order.liveTogether older newer field (kept older olderMember) (kept newer newerMember)

theorem inOrder_pump {settings : ReplaySettings} {loads : Loads} {core : Core} {log : ReportLog}
    {taken : PumpStep} {thread : PumpThread} {queue : MessageQueue}
    (order : InOrder loads (core, log))
    (moved : step (settings.pumpConfig .localToUpstream) core.localToUpstreamPump core.queue taken =
      some (thread, queue)) :
    InOrder loads ({ core with queue := queue, localToUpstreamPump := thread },
      log.observe core.localToUpstreamPump.phase taken) := by
  cases step_effect moved with
  | quiet kept unchanged free =>
      subst queue
      rw [observe_of_not_removing log moved (not_removing_of_free free)]
      exact inOrder_of_free order free rfl (fun row member => ⟨row.2.isLive, member⟩)
        order.liveTogether (fun _ _ _ _ pending => Or.inl pending)
  | peeked visit message act unchanged place found arrived =>
      subst queue
      rw [observe_of_not_removing log moved (by rw [arrived]; intro _ _ there; cases there)]
      exact inOrder_peeked order found arrived
  | foundExpired visit message now unchanged act place old arrived =>
      have ageless := (order.held message visit.target.deviceId
        (by simp only [place]; rfl) (by simp only [place]; rfl)).1
      simp only [isExpired, ageless, Bool.false_eq_true] at old
  | passedOn visit message kept unchanged place arrived =>
      subst queue
      have passed := passedOn_of_phases place arrived
      rw [observe_of_not_removing log moved passed.notRemoving]
      apply inOrder_of_holding order passed.beforeMessage passed.beforeDevice passed.afterMessage
        passed.afterDevice passed.notDiscarding
      exact fun visit' other there => absurd there (passed.notRemoving visit' other)
  | confirmed visit message unchanged act place arrived =>
      subst queue
      simp only [ReportLog.observe, place, act]
      exact inOrder_confirmed order place arrived
  | demoted target rest act place changed free =>
      subst queue
      rw [observe_of_not_removing log moved (not_removing_of_free free)]
      refine inOrder_of_free order free rfl ?_ ?_ ?_
      · intro row member
        rcases List.mem_map.mp member with ⟨old, oldMember, same⟩
        refine ⟨old.2.isLive, ?_⟩
        split at same <;> subst row <;> exact oldMember
      · exact liveTogether_demoted order target.deviceId
      · intro deviceId field last found pending
        left
        simp only [MessageQueue.demoteLiveMessages, AutoTable.ids_updateWhere]
        exact pending
  | removed visit message place changed free =>
      subst queue
      rw [observe_of_not_removing log moved (not_removing_of_free free)]
      rcases place with ⟨_, place⟩ | ⟨_, place⟩
      · exact absurd place (order.undiscarded visit message)
      · exact inOrder_removed order place free

/-! ## Every run -/

theorem inOrder_step {settings : ReplaySettings} {loads : Loads} {action : SettingsAction}
    {state after : Core × ReportLog} (order : InOrder loads state)
    (fits : withinLimit loads state action = true) (keeps : keepsOrder loads state action = true)
    (moved : (settingsMachine settings loads).step state action = some after) :
    InOrder loads after := by
  rcases state with ⟨core, log⟩
  cases action with
  | report call now =>
      simp only [settingsMachine] at moved
      split at moved
      · next accepted =>
          rw [Bool.and_eq_true] at accepted
          cases moved
          exact inOrder_report order call now accepted.1 fits keeps
      · cases moved
  | pump taken =>
      simp only [settingsMachine, coreMachine, Option.map_map, Option.map_eq_some_iff] at moved
      rcases moved with ⟨⟨thread, queue⟩, stepped, same⟩
      subst after
      have next := inOrder_pump order stepped
      exact next
  | restart =>
      cases moved
      exact inOrder_of_free order rfl rfl (fun row member => ⟨row.2.isLive, member⟩)
        order.liveTogether (fun _ _ _ _ pending => Or.inl pending)

theorem inOrder_run (settings : ReplaySettings) (loads : Loads) (maxSize sequence : Nat)
    (actions : List SettingsAction)
    (meets : (settingsMachine settings loads).Meets
      (fun state action => withinLimit loads state action = true ∧
        keepsOrder loads state action = true)
      (Core.initial maxSize sequence, {}) actions) :
    InOrder loads
      ((settingsMachine settings loads).run (Core.initial maxSize sequence, {}) actions) :=
  (settingsMachine settings loads).run_invariant_of_meets _ (InOrder loads)
    (fun _ _ _ order conditions moved => inOrder_step order conditions.1 conditions.2 moved)
    _ actions (inOrder_initial loads maxSize sequence) meets

/-- When nothing of the device is pending, the last delivered report with a field
is the last queued one. -/
theorem InOrder.last_value {loads : Loads} {core : Core} {log : ReportLog}
    (order : InOrder loads (core, log)) (deviceId field : String)
    (drained : core.queue.partition deviceId LOCAL_TO_UPSTREAM = []) :
    lastWhere (carries loads deviceId field) log.delivered =
      lastWhere (carries loads deviceId field) log.enqueued := by
  cases found : lastWhere (carries loads deviceId field) log.enqueued with
  | none =>
      rw [lastWhere_eq_none_iff] at found ⊢
      exact fun report member => found report (order.delivered report member)
  | some last =>
      rcases order.settled deviceId field last found with pending | ⟨lastOne, _⟩
      · exfalso
        rcases List.mem_map.mp pending with ⟨row, member, same⟩
        have lastFacts := mem_of_lastWhere found
        rcases order.stored row member with ⟨direction, _, owner, device, known⟩
        have equal : last = reportOf owner row :=
          order.report_unique lastFacts.1 known same.symm
        subst equal
        simp only [carries, Bool.and_eq_true, decide_eq_true_eq] at lastFacts
        have sameDevice : owner = deviceId := lastFacts.2.1
        have inside : row ∈ core.queue.partition deviceId LOCAL_TO_UPSTREAM :=
          (MessageQueue.mem_partition_iff _ _ _ _).mpr
            ⟨member, sameDevice ▸ device, direction⟩
        rw [drained] at inside
        cases inside
      · exact lastOne

/-- In every run without evictions in which new reports keep the order, and in
every state of it in which a device has nothing pending, the last report the
cloud received with a given field is the last one that was queued with it. -/
theorem settings_last_value_wins (settings : ReplaySettings) (loads : Loads)
    (maxSize sequence : Nat) (actions : List SettingsAction) (deviceId field : String)
    (meets : (settingsMachine settings loads).Meets
      (fun state action => withinLimit loads state action = true ∧
        keepsOrder loads state action = true)
      (Core.initial maxSize sequence, {}) actions)
    (drained : ((settingsMachine settings loads).run (Core.initial maxSize sequence, {})
      actions).1.queue.partition deviceId LOCAL_TO_UPSTREAM = []) :
    lastWhere (carries loads deviceId field)
        ((settingsMachine settings loads).run (Core.initial maxSize sequence, {})
          actions).2.delivered =
      lastWhere (carries loads deviceId field)
        ((settingsMachine settings loads).run (Core.initial maxSize sequence, {})
          actions).2.enqueued :=
  (inOrder_run settings loads maxSize sequence actions meets).last_value deviceId field drained

/-! ## A live report overtakes an older one -/

/-- A report of two settings. -/
def bothSettings : List UInt8 :=
  utf8 "\x7b\"cmd\":\"ATTR_SET_SERVICE\",\"soundSwitch\":true,\"volume\":30\x7d"

/-- A later report of one of them. -/
def soundOff : List UInt8 :=
  utf8 "\x7b\"cmd\":\"ATTR_SET_SERVICE\",\"soundSwitch\":false\x7d"

/-- The decoder, as far as these payloads are concerned. -/
def loadsReports : Loads := fun payload =>
  if payload = bothSettings then
    some (.obj [("cmd", .str "ATTR_SET_SERVICE"), ("soundSwitch", .bool true),
      ("volume", .int 30)])
  else if payload = soundOff then
    some (.obj [("cmd", .str "ATTR_SET_SERVICE"), ("soundSwitch", .bool false)])
  else none

/-- A report of device `A` that sees one upstream state throughout. -/
def reportFrom (payload : List UInt8) (upstream : UpstreamState) : SettingsAction :=
  .report { deviceId := "A", productId := PRODUCT_ID, topic := "dl/PLAF203/A/device/service/post",
            payload := payload, qos := 0, firstLook := upstream, secondLook := upstream } 0

/-- A pass over a connected client up to the choice of a row. -/
def chooseRow (now : Rat) : List SettingsAction :=
  [.pump (.beginPass [⟨"A", 0, true⟩]), .pump (.checkConnected true), .pump .peek,
    .pump (.checkExpiry now)]

/-- A live row is published and removed. -/
def sendLive (now : Rat) : List SettingsAction :=
  chooseRow now ++ [.pump (.publish .confirmed), .pump .removeDelivered, .pump .endPass]

/-- A backlog row waits out the settle delay and is then published. -/
def sendBacklog (now : Rat) : List SettingsAction :=
  chooseRow now ++ [.pump (.askReplay now), .pump .endPass] ++ chooseRow (now + 2) ++
    [.pump (.askReplay (now + 2)), .pump (.publish .confirmed), .pump .removeDelivered,
      .pump (.record (now + 2) 0 0), .pump .complete, .pump .endPass]

/-- Both settings are reported while the cloud is away, and one of them again
once it is back.  The second report is sent first, so the cloud is left with the
older value of the shared setting. -/
theorem live_report_overtakes_backlog :
    let actions := [reportFrom bothSettings .disconnected, reportFrom soundOff .online] ++
      sendLive 1 ++ sendBacklog 2
    let state := (settingsMachine .default loadsReports).run
      (Core.initial DEFAULT_MAX_QUEUE_SIZE 0, {}) actions
    (settingsMachine .default loadsReports).Meets
      (fun state action => withinLimit loadsReports state action = true)
      (Core.initial DEFAULT_MAX_QUEUE_SIZE 0, {}) actions ∧
    state.1.queue.partition "A" LOCAL_TO_UPSTREAM = [] ∧
    lastWhere (carries loadsReports "A" "soundSwitch") state.2.enqueued =
      some ⟨2, "A", soundOff⟩ ∧
    lastWhere (carries loadsReports "A" "soundSwitch") state.2.delivered =
      some ⟨1, "A", bothSettings⟩ := by
  decide +kernel

/-- The same two reports, both while the cloud is away, arrive in order. -/
theorem settings_last_value_wins_for_backlog :
    lastWhere (carries loadsReports "A" "soundSwitch")
        ((settingsMachine .default loadsReports).run (Core.initial DEFAULT_MAX_QUEUE_SIZE 0, {})
          ([reportFrom bothSettings .disconnected, reportFrom soundOff .disconnected] ++
            sendBacklog 2 ++ sendBacklog 6)).2.delivered =
      lastWhere (carries loadsReports "A" "soundSwitch")
        ((settingsMachine .default loadsReports).run (Core.initial DEFAULT_MAX_QUEUE_SIZE 0, {})
          ([reportFrom bothSettings .disconnected, reportFrom soundOff .disconnected] ++
            sendBacklog 2 ++ sendBacklog 6)).2.enqueued :=
  settings_last_value_wins .default loadsReports DEFAULT_MAX_QUEUE_SIZE 0 _ "A" "soundSwitch"
    (by decide +kernel) (by decide +kernel)

end Upstream
end PetlibroRelay
