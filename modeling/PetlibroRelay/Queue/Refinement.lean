import PetlibroRelay.Foundations.BoundedLog
import PetlibroRelay.Queue.MessageQueue

namespace PetlibroRelay
namespace Queue

open Foundations

/-!
# The shared table refines one bounded log per partition

All devices and both directions live in one table.  What a caller relies on is
different: each device's direction is a list of its own, bounded and
coalescing, and nothing done to one of these lists shows in another.  The
abstract queue here states exactly that, as a function from partitions to
lists.  One spec lemma per operation relates the two, and the simulation of
arbitrary sequences of operations follows by induction.
-/

/-! ## Spec lemmas of the operations -/

namespace MessageQueue

theorem partition_eq_select (queue : MessageQueue) (deviceId direction : String) :
    queue.partition deviceId direction =
      queue.pendingMessages.select (inPartition deviceId direction) :=
  queue.pendingMessages.orderById_select _

theorem count_eq_length (queue : MessageQueue) (deviceId direction : String) :
    queue.count deviceId direction = (queue.partition deviceId direction).length := by
  rw [partition_eq_select, count]

theorem partition_ordered (queue : MessageQueue) (deviceId direction : String) :
    (queue.partition deviceId direction).Pairwise (fun first second => first.1 < second.1) := by
  rw [partition_eq_select]
  exact queue.pendingMessages.select_ordered _

theorem mem_partition_iff (queue : MessageQueue) (deviceId direction : String)
    (row : Nat × PendingMessage) :
    row ∈ queue.partition deviceId direction ↔
      row ∈ queue.pendingMessages.rows ∧ row.2.deviceId = some deviceId ∧
        row.2.direction = direction := by
  rw [partition_eq_select, AutoTable.select, List.mem_filter, inPartition, Bool.and_eq_true,
    decide_eq_true_eq, decide_eq_true_eq]

/-- A row lies in one partition only. -/
theorem inPartition_unique {deviceId direction deviceId' direction' : String}
    {row : Nat × PendingMessage} (first : inPartition deviceId direction row = true)
    (second : inPartition deviceId' direction' row = true) :
    deviceId = deviceId' ∧ direction = direction' := by
  simp only [inPartition, Bool.and_eq_true, decide_eq_true_eq] at first second
  exact ⟨Option.some.inj (first.1.symm.trans second.1), first.2.symm.trans second.2⟩

/-- Coalescing and inserting, seen in the partition of the call. -/
theorem partition_coalesce_insert (queue : MessageQueue) (call : EnqueueCall) (now : Rat) :
    ((queue.coalesce call).insert call now).partition call.deviceId call.direction =
      (queue.partition call.deviceId call.direction).filter (fun row =>
        !BoundedLog.sameMark (fun row : Nat × PendingMessage => row.2.coalesceKey)
          (queue.pendingMessages.sequence + 1, call.row now) row) ++
        [(queue.pendingMessages.sequence + 1, call.row now)] := by
  have own : inPartition call.deviceId call.direction
      (queue.pendingMessages.sequence + 1, call.row now) = true := by
    simp only [inPartition, EnqueueCall.row, decide_true, Bool.and_true]
  rw [partition_eq_select, partition_eq_select]
  simp only [insert, coalesce]
  rw [AutoTable.select_insert, AutoTable.select_deleteWhere]
  congr 1
  · refine List.filter_congr ?_
    intro row member
    have inside := (List.mem_filter.mp member).2
    cases key : call.coalesceKey with
    | none =>
        simp only [supersededBy, BoundedLog.sameMark, EnqueueCall.row, key, Option.isSome_none,
          Bool.false_and]
    | some value =>
        simp only [supersededBy, BoundedLog.sameMark, EnqueueCall.row, key, Option.isSome_some,
          Bool.true_and, inside]
  · exact if_pos own

/-- The size limit keeps the newest rows of its own partition. -/
theorem partition_enforceSizeLimit (queue : MessageQueue) (deviceId direction : String) :
    (queue.enforceSizeLimitLocked deviceId direction).partition deviceId direction =
      keepLast queue.maxSizePerDirection (queue.partition deviceId direction) := by
  rw [enforceSizeLimitLocked]
  by_cases exceeds : queue.maxSizePerDirection < queue.count deviceId direction
  · rw [if_pos exceeds, partition_eq_select, AutoTable.select_deleteWhere, ← partition_eq_select,
      keepLast, ← count_eq_length]
    exact AutoTable.filter_not_mem_take _ _ (queue.partition_ordered deviceId direction)
  · rw [if_neg exceeds, keepLast_of_length_le]
    rw [← count_eq_length]
    exact Nat.le_of_not_lt exceeds

/-- Every key the size limit removes belongs to a row of its partition. -/
theorem mem_partition_of_overflow (queue : MessageQueue) (deviceId direction : String)
    {row : Nat × PendingMessage} (member : row ∈ queue.pendingMessages.rows)
    (overflow : row.1 ∈ queue.overflowIds deviceId direction) :
    row ∈ queue.partition deviceId direction := by
  rcases List.mem_map.mp overflow with ⟨other, otherMember, same⟩
  have inside : other ∈ queue.partition deviceId direction := List.mem_of_mem_take otherMember
  have stored := ((queue.mem_partition_iff deviceId direction other).mp inside).1
  rw [← queue.pendingMessages.eq_of_same_id stored member same]
  exact inside

theorem partition_enforceSizeLimit_other (queue : MessageQueue)
    (deviceId direction deviceId' direction' : String)
    (other : (deviceId', direction') ≠ (deviceId, direction)) :
    (queue.enforceSizeLimitLocked deviceId direction).partition deviceId' direction' =
      queue.partition deviceId' direction' := by
  rw [enforceSizeLimitLocked]
  split
  · rw [partition_eq_select, partition_eq_select]
    refine AutoTable.select_deleteWhere_of_disjoint _ _ _ ?_
    intro row member inside
    refine decide_eq_false (fun overflow => other ?_)
    have own := queue.mem_partition_of_overflow deviceId direction member overflow
    rw [partition_eq_select] at own
    have same := inPartition_unique inside (List.mem_filter.mp own).2
    rw [same.1, same.2]
  · rfl

theorem partition_coalesce_insert_other (queue : MessageQueue) (call : EnqueueCall) (now : Rat)
    (deviceId direction : String)
    (other : (deviceId, direction) ≠ (call.deviceId, call.direction)) :
    ((queue.coalesce call).insert call now).partition deviceId direction =
      queue.partition deviceId direction := by
  have outside : inPartition deviceId direction
      (queue.pendingMessages.sequence + 1, call.row now) = false := by
    refine Bool.eq_false_iff.mpr (fun inside => other ?_)
    have own : inPartition call.deviceId call.direction
        (queue.pendingMessages.sequence + 1, call.row now) = true := by
      simp only [inPartition, EnqueueCall.row, decide_true, Bool.and_true]
    have same := inPartition_unique inside own
    rw [same.1, same.2]
  rw [partition_eq_select, partition_eq_select]
  simp only [insert, coalesce]
  rw [AutoTable.select_insert, if_neg (by simp [AutoTable.deleteWhere, outside]), List.append_nil]
  refine AutoTable.select_deleteWhere_of_disjoint _ _ _ ?_
  intro row _ inside
  cases key : call.coalesceKey with
  | none => rfl
  | some value =>
      refine Bool.eq_false_iff.mpr (fun doomed => other ?_)
      simp only [supersededBy, Bool.and_eq_true] at doomed
      have same := inPartition_unique inside doomed.1
      rw [same.1, same.2]

/-- The spec of `enqueue` in the partition of the call. -/
theorem partition_enqueue (queue : MessageQueue) (call : EnqueueCall) (now : Rat) :
    (queue.enqueue call now).1.partition call.deviceId call.direction =
      BoundedLog.add queue.maxSizePerDirection
        (BoundedLog.sameMark (fun row : Nat × PendingMessage => row.2.coalesceKey)
          (queue.pendingMessages.sequence + 1, call.row now))
        (queue.pendingMessages.sequence + 1, call.row now)
        (queue.partition call.deviceId call.direction) := by
  simp only [enqueue]
  rw [partition_enforceSizeLimit, partition_coalesce_insert]
  rfl

/-- The frame of `enqueue`. -/
theorem partition_enqueue_other (queue : MessageQueue) (call : EnqueueCall) (now : Rat)
    (deviceId direction : String)
    (other : (deviceId, direction) ≠ (call.deviceId, call.direction)) :
    (queue.enqueue call now).1.partition deviceId direction =
      queue.partition deviceId direction := by
  simp only [enqueue]
  rw [partition_enforceSizeLimit_other _ _ _ _ _ other,
    partition_coalesce_insert_other _ _ _ _ _ other]

theorem partition_remove (queue : MessageQueue) (messageId : Nat) (deviceId direction : String) :
    (queue.remove messageId).partition deviceId direction =
      (queue.partition deviceId direction).filter (fun row => !decide (row.1 = messageId)) := by
  rw [partition_eq_select, partition_eq_select]
  exact AutoTable.select_deleteWhere _ _ _

/-- The spec of `demote_live_messages`: inside its partition every row becomes
backlog and nothing else about it changes. -/
theorem partition_demote (queue : MessageQueue) (deviceId direction : String) :
    (queue.demoteLiveMessages deviceId direction).1.partition deviceId direction =
      (queue.partition deviceId direction).map
        (fun row => (row.1, { row.2 with isLive := false })) := by
  rw [partition_eq_select, partition_eq_select]
  simp only [demoteLiveMessages]
  rw [AutoTable.select_updateWhere _ _ _ _ (fun row => rfl)]
  refine List.map_congr_left ?_
  intro row member
  have inside := (List.mem_filter.mp member).2
  by_cases live : row.2.isLive = true
  · rw [if_pos (by simp only [isLiveIn, inside, live, Bool.and_true])]
  · rw [if_neg (by simp only [isLiveIn, live, Bool.and_false, Bool.false_eq_true,
      not_false_eq_true])]
    have same : row.2.isLive = false := by simpa only [Bool.not_eq_true] using live
    rw [← same]

theorem partition_demote_other (queue : MessageQueue)
    (deviceId direction deviceId' direction' : String)
    (other : (deviceId', direction') ≠ (deviceId, direction)) :
    (queue.demoteLiveMessages deviceId direction).1.partition deviceId' direction' =
      queue.partition deviceId' direction' := by
  rw [partition_eq_select, partition_eq_select]
  simp only [demoteLiveMessages]
  rw [AutoTable.select_updateWhere _ _ _ _ (fun row => rfl)]
  refine (List.map_congr_left ?_).trans (List.map_id _)
  intro row member
  refine if_neg (fun live => other ?_)
  simp only [isLiveIn, Bool.and_eq_true] at live
  have same := inPartition_unique (List.mem_filter.mp member).2 live.1
  rw [same.1, same.2]

/-- The spec of `peek_oldest`. -/
theorem peekOldest_eq (queue : MessageQueue) (deviceId direction : String)
    (prioritizeLive : Bool) :
    queue.peekOldest deviceId direction prioritizeLive =
      (if prioritizeLive then
          ((queue.partition deviceId direction).find? (fun row => row.2.isLive)).or
            (queue.partition deviceId direction).head?
        else (queue.partition deviceId direction).head?).map queuedMessage := by
  rw [partition_eq_select]
  cases prioritizeLive with
  | false =>
      simp only [peekOldest, Bool.false_eq_true, if_false, AutoTable.orderById_select]
  | true =>
      simp only [peekOldest, if_true]
      rw [AutoTable.head_orderByFlagThenId _ _ (queue.pendingMessages.select_ordered _)]

/-- What `peek_oldest` reports is a row of the partition. -/
theorem row_of_peekOldest {queue : MessageQueue} {deviceId direction : String}
    {prioritizeLive : Bool} {message : QueuedMessage}
    (found : queue.peekOldest deviceId direction prioritizeLive = some message) :
    exists row, row ∈ queue.partition deviceId direction ∧ queuedMessage row = message := by
  rw [peekOldest_eq, Option.map_eq_some_iff] at found
  rcases found with ⟨row, chosen, same⟩
  refine ⟨row, ?_, same⟩
  cases prioritizeLive with
  | false => exact List.mem_of_mem_head? chosen
  | true =>
      rcases Option.or_eq_some_iff.mp chosen with live | ⟨_, head⟩
      · exact List.mem_of_find?_eq_some live
      · exact List.mem_of_mem_head? head

/-- The first row of a partition has its smallest key. -/
theorem first_le (queue : MessageQueue) {deviceId direction : String}
    {first row : Nat × PendingMessage}
    (head : (queue.partition deviceId direction).head? = some first)
    (member : row ∈ queue.partition deviceId direction) : first.1 ≤ row.1 := by
  have ordered := queue.partition_ordered deviceId direction
  cases rows : queue.partition deviceId direction with
  | nil => rw [rows] at member; cases member
  | cons top rest =>
      rw [rows] at member ordered head
      cases head
      rcases List.mem_cons.mp member with itself | later
      · exact Nat.le_of_eq (congrArg Prod.fst itself.symm)
      · exact Nat.le_of_lt ((List.pairwise_cons.mp ordered).1 row later)

/-- With live rows first, the reported row precedes every row of the partition:
no row is live unless it is, and among rows of its liveness it is the oldest. -/
theorem peekOldest_first {queue : MessageQueue} {deviceId direction : String}
    {message : QueuedMessage}
    (found : queue.peekOldest deviceId direction true = some message)
    {row : Nat × PendingMessage} (member : row ∈ queue.partition deviceId direction) :
    (row.2.isLive = true -> message.isLive = true) ∧
      (row.2.isLive = message.isLive -> message.id ≤ row.1) := by
  have ordered := queue.partition_ordered deviceId direction
  rw [peekOldest_eq, if_pos rfl, Option.map_eq_some_iff] at found
  rcases found with ⟨chosen, first, same⟩
  subst message
  rcases Option.or_eq_some_iff.mp first with live | ⟨none, head⟩
  · have chosenLive := List.find?_some live
    refine ⟨fun _ => chosenLive, ?_⟩
    intro agree
    rcases List.find?_eq_some_iff_append.mp live with ⟨_, before, after, split, earlier⟩
    rw [split] at member ordered
    rcases List.mem_append.mp member with inBefore | rest
    · have dead := earlier row inBefore
      rw [agree, show (queuedMessage chosen).isLive = true from chosenLive] at dead
      cases dead
    · rcases List.mem_cons.mp rest with itself | later
      · exact Nat.le_of_eq (congrArg Prod.fst itself.symm)
      · have tail := (List.pairwise_append.mp ordered).2.1
        exact Nat.le_of_lt ((List.pairwise_cons.mp tail).1 row later)
  · have dead := List.find?_eq_none.mp none row member
    exact ⟨fun live => absurd live dead, fun _ => queue.first_le head member⟩

/-- Without priority the reported row is the oldest of the partition. -/
theorem peekOldest_oldest {queue : MessageQueue} {deviceId direction : String}
    {message : QueuedMessage}
    (found : queue.peekOldest deviceId direction false = some message)
    {row : Nat × PendingMessage} (member : row ∈ queue.partition deviceId direction) :
    message.id ≤ row.1 := by
  rw [peekOldest_eq, if_neg Bool.false_ne_true, Option.map_eq_some_iff] at found
  rcases found with ⟨chosen, head, same⟩
  subst message
  exact queue.first_le head member

theorem count_enqueue_le (queue : MessageQueue) (call : EnqueueCall) (now : Rat) :
    (queue.enqueue call now).1.count call.deviceId call.direction ≤ queue.maxSizePerDirection := by
  rw [count_eq_length, partition_enqueue]
  exact BoundedLog.add_length_le _ _ _ _

theorem getLast_partition_enqueue (queue : MessageQueue) (call : EnqueueCall) (now : Rat)
    (room : 1 ≤ queue.maxSizePerDirection) :
    ((queue.enqueue call now).1.partition call.deviceId call.direction).getLast? =
      some (queue.pendingMessages.sequence + 1, call.row now) := by
  rw [partition_enqueue]
  exact BoundedLog.add_getLast _ room _ _ _

/-- The rows after the insert are old rows or the new one. -/
theorem mem_rows_grown (queue : MessageQueue) (call : EnqueueCall) (now : Rat)
    {row : Nat × PendingMessage}
    (member : row ∈ ((queue.coalesce call).insert call now).pendingMessages.rows) :
    row ∈ queue.pendingMessages.rows ∨
      row = (queue.pendingMessages.sequence + 1, call.row now) := by
  rcases List.mem_append.mp member with old | new
  · exact Or.inl (List.mem_filter.mp old).1
  · exact Or.inr (List.mem_singleton.mp new)

theorem mem_rows_enqueue (queue : MessageQueue) (call : EnqueueCall) (now : Rat)
    {row : Nat × PendingMessage}
    (member : row ∈ (queue.enqueue call now).1.pendingMessages.rows) :
    row ∈ queue.pendingMessages.rows ∨
      row = (queue.pendingMessages.sequence + 1, call.row now) := by
  refine mem_rows_grown queue call now ?_
  simp only [enqueue, enforceSizeLimitLocked] at member
  split at member
  · exact (List.mem_filter.mp member).1
  · exact member

/-- With room for one more row the size limit removes nothing. -/
theorem enqueue_of_fits (queue : MessageQueue) (call : EnqueueCall) (now : Rat)
    (fits : (queue.coalesce call).count call.deviceId call.direction + 1 ≤
      queue.maxSizePerDirection) :
    (queue.enqueue call now).1 = (queue.coalesce call).insert call now := by
  have own : inPartition call.deviceId call.direction
      ((queue.coalesce call).pendingMessages.sequence + 1, call.row now) = true := by
    simp only [inPartition, EnqueueCall.row, decide_true, Bool.and_self]
  have grown : ((queue.coalesce call).insert call now).count call.deviceId call.direction =
      (queue.coalesce call).count call.deviceId call.direction + 1 := by
    rw [count, insert, AutoTable.select_insert, if_pos own, List.length_append,
      List.length_singleton]
    rfl
  simp only [enqueue, enforceSizeLimitLocked, grown]
  apply if_neg
  exact Nat.not_lt_of_ge fits

/-- The rows between the insert and the size limit. -/
theorem mem_rows_grown_iff (queue : MessageQueue) (call : EnqueueCall) (now : Rat)
    (row : Nat × PendingMessage) :
    row ∈ ((queue.coalesce call).insert call now).pendingMessages.rows ↔
      row ∈ queue.pendingMessages.rows ∧
          supersededBy call.deviceId call.direction call.coalesceKey row = false ∨
        row = (queue.pendingMessages.sequence + 1, call.row now) := by
  simp only [insert, coalesce, AutoTable.insert, AutoTable.deleteWhere, List.mem_append,
    List.mem_filter, List.mem_singleton, Bool.not_eq_true']

@[simp] theorem maxSize_enforceSizeLimit (queue : MessageQueue) (deviceId direction : String) :
    (queue.enforceSizeLimitLocked deviceId direction).maxSizePerDirection =
      queue.maxSizePerDirection := by
  rw [enforceSizeLimitLocked]
  split <;> rfl

@[simp] theorem sequence_enforceSizeLimit (queue : MessageQueue) (deviceId direction : String) :
    (queue.enforceSizeLimitLocked deviceId direction).pendingMessages.sequence =
      queue.pendingMessages.sequence := by
  rw [enforceSizeLimitLocked]
  split <;> rfl

@[simp] theorem sequence_enqueue (queue : MessageQueue) (call : EnqueueCall) (now : Rat) :
    (queue.enqueue call now).1.pendingMessages.sequence = queue.pendingMessages.sequence + 1 := by
  simp only [enqueue, sequence_enforceSizeLimit]
  rfl

@[simp] theorem maxSize_enqueue (queue : MessageQueue) (call : EnqueueCall) (now : Rat) :
    (queue.enqueue call now).1.maxSizePerDirection = queue.maxSizePerDirection := by
  simp only [enqueue, maxSize_enforceSizeLimit]
  rfl

/-! ## What any call can do to the rows -/

/-- A later state of the queue.  A row of it was there before, apart from a
liveness it may have lost, or it has a key that was not given out before. -/
structure Later (queue left : MessageQueue) : Prop where
  sequence : queue.pendingMessages.sequence ≤ left.pendingMessages.sequence
  rows : forall row, row ∈ left.pendingMessages.rows ->
    (exists old, old ∈ queue.pendingMessages.rows ∧
      row = (old.1, { old.2 with isLive := row.2.isLive }) ∧
      (row.2.isLive = true -> old.2.isLive = true)) ∨
    queue.pendingMessages.sequence < row.1

theorem Later.refl (queue : MessageQueue) : queue.Later queue :=
  ⟨Nat.le_refl _, fun row member => Or.inl ⟨row, member, rfl, fun live => live⟩⟩

theorem later_enqueue (queue : MessageQueue) (call : EnqueueCall) (now : Rat) :
    queue.Later (queue.enqueue call now).1 := by
  refine ⟨?_, ?_⟩
  · rw [sequence_enqueue]
    exact Nat.le_succ _
  · intro row member
    rcases queue.mem_rows_enqueue call now member with old | new
    · exact Or.inl ⟨row, old, rfl, fun live => live⟩
    · rw [new]
      exact Or.inr (Nat.lt_succ_self _)

theorem later_remove (queue : MessageQueue) (messageId : Nat) :
    queue.Later (queue.remove messageId) :=
  ⟨Nat.le_refl _,
    fun row member => Or.inl ⟨row, (List.mem_filter.mp member).1, rfl, fun live => live⟩⟩

theorem later_demote (queue : MessageQueue) (deviceId direction : String) :
    queue.Later (queue.demoteLiveMessages deviceId direction).1 := by
  refine ⟨Nat.le_refl _, ?_⟩
  intro row member
  rcases List.mem_map.mp member with ⟨old, oldMember, same⟩
  subst row
  refine Or.inl ⟨old, oldMember, ?_⟩
  split
  · exact ⟨rfl, fun live => nomatch live⟩
  · exact ⟨rfl, fun live => live⟩

/-- The same for the rows of one partition. -/
theorem Later.partition {queue left : MessageQueue} (later : queue.Later left)
    {deviceId direction : String} {row : Nat × PendingMessage}
    (member : row ∈ left.partition deviceId direction) :
    (exists old, old ∈ queue.partition deviceId direction ∧ old.1 = row.1 ∧
      (row.2.isLive = true -> old.2.isLive = true)) ∨
    queue.pendingMessages.sequence < row.1 := by
  rcases (left.mem_partition_iff deviceId direction row).mp member with ⟨stored, device, lane⟩
  rcases later.rows row stored with ⟨old, oldStored, same, lost⟩ | new
  · rw [same] at device lane
    refine Or.inl ⟨old, ?_, (congrArg Prod.fst same).symm, lost⟩
    exact (queue.mem_partition_iff deviceId direction old).mpr ⟨oldStored, device, lane⟩
  · exact Or.inr new

end MessageQueue

/-! ## Sequences of operations -/

/-- One call of a lock-protected method. -/
inductive Operation where
  | enqueue (call : EnqueueCall) (now : Rat)
  | remove (messageId : Nat)
  | demoteLiveMessages (deviceId direction : String)
  | peekOldest (deviceId direction : String) (prioritizeLive : Bool)

/-- What the call returns: a row count, nothing, or a message. -/
inductive Reply where
  | rowcount (rows : Nat)
  | done
  | message (found : Option QueuedMessage)
  deriving DecidableEq, Repr

/-- Whether an operation is an operation on the given partition.  Removal is
by key, so it concerns the partition that holds the row. -/
def Operation.Concerns (queue : MessageQueue) (deviceId direction : String) : Operation -> Prop
  | .enqueue call _ => (deviceId, direction) = (call.deviceId, call.direction)
  | .remove messageId => exists row, row ∈ queue.partition deviceId direction ∧ row.1 = messageId
  | .demoteLiveMessages device lane => (deviceId, direction) = (device, lane)
  | .peekOldest _ _ _ => False

namespace MessageQueue

def perform (queue : MessageQueue) : Operation -> MessageQueue × Reply
  | .enqueue call now => ((queue.enqueue call now).1, .rowcount (queue.enqueue call now).2)
  | .remove messageId => (queue.remove messageId, .done)
  | .demoteLiveMessages deviceId direction =>
      ((queue.demoteLiveMessages deviceId direction).1,
        .rowcount (queue.demoteLiveMessages deviceId direction).2)
  | .peekOldest deviceId direction prioritizeLive =>
      (queue, .message (queue.peekOldest deviceId direction prioritizeLive))

/-- Perform the operations in order, collecting their replies. -/
def performAll (queue : MessageQueue) : List Operation -> MessageQueue × List Reply
  | [] => (queue, [])
  | operation :: rest =>
      let first := queue.perform operation
      let later := first.1.performAll rest
      (later.1, first.2 :: later.2)

/-- The primary keys the inserts of a sequence of operations are given. -/
def insertedIds (queue : MessageQueue) : List Operation -> List Nat
  | [] => []
  | .enqueue call now :: rest =>
      (queue.pendingMessages.sequence + 1) :: (queue.enqueue call now).1.insertedIds rest
  | operation :: rest => (queue.perform operation).1.insertedIds rest

end MessageQueue

/-! ## The abstract queue -/

/-- One list for each device and direction, and the last number given out. -/
structure BoundedQueue where
  lists : String -> String -> List (Nat × PendingMessage)
  lastId : Nat

namespace BoundedQueue

def empty (lastId : Nat) : BoundedQueue where
  lists := fun _ _ => []
  lastId := lastId

/-- The entries a message with the given key does not supersede. -/
def survivors (coalesceKey : Option String) (rows : List (Nat × PendingMessage)) :
    List (Nat × PendingMessage) :=
  match coalesceKey with
  | none => rows
  | some key => rows.filter (fun row => decide (row.2.coalesceKey ≠ some key))

/-- Replace one list and keep all others. -/
def setList (abstract : BoundedQueue) (deviceId direction : String)
    (rows : List (Nat × PendingMessage)) : BoundedQueue :=
  { abstract with
    lists := fun device lane =>
      if (device, lane) = (deviceId, direction) then rows else abstract.lists device lane }

/-- The oldest entry, the live ones first when they have priority. -/
def oldest (rows : List (Nat × PendingMessage)) (prioritizeLive : Bool) :
    Option (Nat × PendingMessage) :=
  if prioritizeLive then (rows.find? (fun row => row.2.isLive)).or rows.head? else rows.head?

def perform (maxSize : Nat) (abstract : BoundedQueue) : Operation -> BoundedQueue × Reply
  | .enqueue call now =>
      let old := abstract.lists call.deviceId call.direction
      let kept := survivors call.coalesceKey old
      ({ abstract.setList call.deviceId call.direction
          (keepLast maxSize (kept ++ [(abstract.lastId + 1, call.row now)])) with
          lastId := abstract.lastId + 1 },
        .rowcount (old.length - kept.length))
  | .remove messageId =>
      ({ abstract with
          lists := fun device lane =>
            (abstract.lists device lane).filter (fun row => decide (row.1 ≠ messageId)) },
        .done)
  | .demoteLiveMessages deviceId direction =>
      let old := abstract.lists deviceId direction
      (abstract.setList deviceId direction
          (old.map (fun row => (row.1, { row.2 with isLive := false }))),
        .rowcount (old.countP (fun row => row.2.isLive)))
  | .peekOldest deviceId direction prioritizeLive =>
      (abstract,
        .message ((oldest (abstract.lists deviceId direction) prioritizeLive).map (fun row =>
          { id := row.1
            topic := row.2.topic
            payload := row.2.payload
            qos := row.2.qos
            createdAt := row.2.createdAt
            maxAgeSeconds := row.2.maxAgeSeconds
            isLive := row.2.isLive })))

def performAll (maxSize : Nat) (abstract : BoundedQueue) :
    List Operation -> BoundedQueue × List Reply
  | [] => (abstract, [])
  | operation :: rest =>
      let first := abstract.perform maxSize operation
      let later := first.1.performAll maxSize rest
      (later.1, first.2 :: later.2)

end BoundedQueue

/-! ## Simulation -/

/-- The table and the abstract queue agree on every partition and on the next
number. -/
structure Represents (maxSize : Nat) (queue : MessageQueue) (abstract : BoundedQueue) : Prop where
  limit : queue.maxSizePerDirection = maxSize
  sequence : queue.pendingMessages.sequence = abstract.lastId
  lists : forall deviceId direction,
    queue.partition deviceId direction = abstract.lists deviceId direction

theorem represents_empty (maxSize lastId : Nat) :
    Represents maxSize (.empty maxSize lastId) (.empty lastId) where
  limit := rfl
  sequence := rfl
  lists := fun _ _ => rfl

theorem filter_sameMark_eq_survivors (new : Nat × PendingMessage)
    (rows : List (Nat × PendingMessage)) :
    rows.filter (fun row =>
        !BoundedLog.sameMark (fun row : Nat × PendingMessage => row.2.coalesceKey) new row) =
      BoundedQueue.survivors new.2.coalesceKey rows := by
  cases key : new.2.coalesceKey with
  | none =>
      simp only [BoundedLog.sameMark, BoundedQueue.survivors, key, Option.isSome_none,
        Bool.false_and, Bool.not_false, List.filter_true]
  | some value =>
      simp only [BoundedLog.sameMark, BoundedQueue.survivors, key, Option.isSome_some,
        Bool.true_and, decide_not]

/-- The superseded rows are the rows of the partition under the key. -/
theorem select_supersededBy (queue : MessageQueue) (deviceId direction key : String) :
    queue.pendingMessages.select (MessageQueue.supersededBy deviceId direction (some key)) =
      (queue.partition deviceId direction).filter
        (fun row => decide (row.2.coalesceKey = some key)) := by
  rw [MessageQueue.partition_eq_select, AutoTable.select, AutoTable.select, List.filter_filter]
  exact List.filter_congr (fun row _ => Bool.and_comm _ _)

/-- The reported count is the number of entries that do not survive. -/
theorem supersededCount_eq (queue : MessageQueue) (call : EnqueueCall) (now : Rat) :
    (queue.enqueue call now).2 =
      (queue.partition call.deviceId call.direction).length -
        (BoundedQueue.survivors call.coalesceKey
          (queue.partition call.deviceId call.direction)).length := by
  simp only [MessageQueue.enqueue]
  cases call.coalesceKey with
  | none =>
      rw [BoundedQueue.survivors, Nat.sub_self, List.length_eq_zero_iff]
      exact List.filter_eq_nil_iff.mpr (fun row _ => Bool.false_ne_true)
  | some key =>
      rw [select_supersededBy]
      simp only [BoundedQueue.survivors, decide_not]
      have parts := List.length_eq_length_filter_add
        (l := queue.partition call.deviceId call.direction)
        (fun row => decide (row.2.coalesceKey = some key))
      omega

theorem demotedCount_eq (queue : MessageQueue) (deviceId direction : String) :
    (queue.demoteLiveMessages deviceId direction).2 =
      (queue.partition deviceId direction).countP (fun row => row.2.isLive) := by
  rw [MessageQueue.partition_eq_select, List.countP_eq_length_filter, AutoTable.select,
    List.filter_filter]
  simp only [MessageQueue.demoteLiveMessages, AutoTable.select]
  congr 1
  exact List.filter_congr (fun row _ => Bool.and_comm _ _)

/-- One operation on the table is the same operation on the lists. -/
theorem perform_represents {maxSize : Nat} {queue : MessageQueue} {abstract : BoundedQueue}
    (represents : Represents maxSize queue abstract) (operation : Operation) :
    Represents maxSize (queue.perform operation).1 (abstract.perform maxSize operation).1 ∧
      (queue.perform operation).2 = (abstract.perform maxSize operation).2 := by
  cases operation with
  | enqueue call now =>
      refine ⟨⟨?_, ?_, ?_⟩, ?_⟩
      · exact (queue.maxSize_enqueue call now).trans represents.limit
      · exact (queue.sequence_enqueue call now).trans (congrArg (· + 1) represents.sequence)
      · intro deviceId direction
        simp only [MessageQueue.perform, BoundedQueue.perform, BoundedQueue.setList]
        by_cases own : (deviceId, direction) = (call.deviceId, call.direction)
        · have parts := Prod.mk.inj own
          rw [if_pos own, parts.1, parts.2, MessageQueue.partition_enqueue, BoundedLog.add,
            filter_sameMark_eq_survivors, represents.limit, represents.sequence,
            represents.lists]
          rfl
        · rw [if_neg own, MessageQueue.partition_enqueue_other _ _ _ _ _ own]
          exact represents.lists deviceId direction
      · simp only [MessageQueue.perform, BoundedQueue.perform]
        rw [supersededCount_eq, represents.lists]
  | remove messageId =>
      refine ⟨⟨represents.limit, represents.sequence, ?_⟩, rfl⟩
      intro deviceId direction
      simp only [MessageQueue.perform, BoundedQueue.perform]
      rw [MessageQueue.partition_remove, represents.lists]
      exact List.filter_congr (fun row _ => (decide_not).symm)
  | demoteLiveMessages device lane =>
      refine ⟨⟨represents.limit, represents.sequence, ?_⟩, ?_⟩
      · intro deviceId direction
        simp only [MessageQueue.perform, BoundedQueue.perform, BoundedQueue.setList]
        by_cases own : (deviceId, direction) = (device, lane)
        · have parts := Prod.mk.inj own
          rw [if_pos own, parts.1, parts.2, MessageQueue.partition_demote, represents.lists]
        · rw [if_neg own, MessageQueue.partition_demote_other _ _ _ _ _ own]
          exact represents.lists deviceId direction
      · simp only [MessageQueue.perform, BoundedQueue.perform]
        rw [demotedCount_eq, represents.lists]
  | peekOldest device lane prioritizeLive =>
      refine ⟨represents, ?_⟩
      simp only [MessageQueue.perform, BoundedQueue.perform, BoundedQueue.oldest]
      rw [MessageQueue.peekOldest_eq, represents.lists]
      rfl

/-- Whole sequences of operations are simulated, replies included. -/
theorem performAll_represents {maxSize : Nat} {queue : MessageQueue} {abstract : BoundedQueue}
    (represents : Represents maxSize queue abstract) (operations : List Operation) :
    Represents maxSize (queue.performAll operations).1
        (abstract.performAll maxSize operations).1 ∧
      (queue.performAll operations).2 = (abstract.performAll maxSize operations).2 := by
  induction operations generalizing queue abstract with
  | nil => exact ⟨represents, rfl⟩
  | cons operation rest inductionHypothesis =>
      have first := perform_represents represents operation
      have later := inductionHypothesis first.1
      refine ⟨later.1, ?_⟩
      simp only [MessageQueue.performAll, BoundedQueue.performAll]
      rw [first.2, later.2]

/-! ## Consequences for arbitrary sequences -/

/-- An operation leaves every partition it does not concern as it was. -/
theorem perform_frame (queue : MessageQueue) (operation : Operation) (deviceId direction : String)
    (unconcerned : ¬ operation.Concerns queue deviceId direction) :
    (queue.perform operation).1.partition deviceId direction =
      queue.partition deviceId direction := by
  cases operation with
  | enqueue call now =>
      exact MessageQueue.partition_enqueue_other queue call now deviceId direction unconcerned
  | remove messageId =>
      simp only [MessageQueue.perform, MessageQueue.partition_remove]
      refine List.filter_eq_self.mpr ?_
      intro row member
      have kept : row.1 ≠ messageId := fun same => unconcerned ⟨row, member, same⟩
      simp only [kept, decide_false, Bool.not_false]
  | demoteLiveMessages device lane =>
      exact MessageQueue.partition_demote_other queue device lane deviceId direction unconcerned
  | peekOldest device lane prioritizeLive => rfl

/-- No two rows of one partition carry the same key. -/
def KeysUnique (queue : MessageQueue) : Prop :=
  forall deviceId direction, (queue.partition deviceId direction).Pairwise
    (fun first second => first.2.coalesceKey = none ∨
      first.2.coalesceKey ≠ second.2.coalesceKey)

theorem perform_keysUnique (queue : MessageQueue) (operation : Operation)
    (unique : KeysUnique queue) : KeysUnique (queue.perform operation).1 := by
  intro deviceId direction
  cases operation with
  | enqueue call now =>
      by_cases own : (deviceId, direction) = (call.deviceId, call.direction)
      · have parts := Prod.mk.inj own
        simp only [MessageQueue.perform, parts.1, parts.2, MessageQueue.partition_enqueue]
        exact BoundedLog.add_unique_marks (fun row : Nat × PendingMessage => row.2.coalesceKey)
          _ _ _ (unique call.deviceId call.direction)
      · rw [perform_frame queue (.enqueue call now) deviceId direction own]
        exact unique deviceId direction
  | remove messageId =>
      simp only [MessageQueue.perform, MessageQueue.partition_remove]
      exact (unique deviceId direction).filter _
  | demoteLiveMessages device lane =>
      by_cases own : (deviceId, direction) = (device, lane)
      · have parts := Prod.mk.inj own
        simp only [MessageQueue.perform, parts.1, parts.2, MessageQueue.partition_demote,
          List.pairwise_map]
        exact unique device lane
      · rw [perform_frame queue (.demoteLiveMessages device lane) deviceId direction own]
        exact unique deviceId direction
  | peekOldest device lane prioritizeLive => exact unique deviceId direction

theorem performAll_keysUnique (queue : MessageQueue) (operations : List Operation)
    (unique : KeysUnique queue) : KeysUnique (queue.performAll operations).1 := by
  induction operations generalizing queue with
  | nil => exact unique
  | cons operation rest inductionHypothesis =>
      exact inductionHypothesis _ (perform_keysUnique queue operation unique)

/-- Unique keys, counted. -/
theorem filter_key_length_le (queue : MessageQueue) (unique : KeysUnique queue)
    (deviceId direction key : String) :
    ((queue.partition deviceId direction).filter
      (fun row => decide (row.2.coalesceKey = some key))).length ≤ 1 := by
  have distinct := (unique deviceId direction).filter
    (fun row => decide (row.2.coalesceKey = some key))
  have marked : forall row, row ∈ (queue.partition deviceId direction).filter
      (fun row => decide (row.2.coalesceKey = some key)) -> row.2.coalesceKey = some key :=
    fun row member => of_decide_eq_true (List.mem_filter.mp member).2
  generalize (queue.partition deviceId direction).filter
    (fun row => decide (row.2.coalesceKey = some key)) = rows at distinct marked ⊢
  match rows with
  | [] => exact Nat.zero_le 1
  | [_] => exact Nat.le_refl 1
  | first :: second :: _ =>
      have firstKey := marked first List.mem_cons_self
      have secondKey := marked second (List.mem_cons_of_mem _ List.mem_cons_self)
      rcases (List.pairwise_cons.mp distinct).1 second List.mem_cons_self with absent | differ
      · rw [firstKey] at absent
        cases absent
      · exact absurd (firstKey.trans secondKey.symm) differ

/-- Keys are given out above the sequence, so never twice. -/
theorem insertedIds_increasing (queue : MessageQueue) (operations : List Operation) :
    (queue.insertedIds operations).Pairwise (· < ·) ∧
      forall id, id ∈ queue.insertedIds operations -> queue.pendingMessages.sequence < id := by
  induction operations generalizing queue with
  | nil => exact ⟨List.Pairwise.nil, fun _ member => absurd member List.not_mem_nil⟩
  | cons operation rest inductionHypothesis =>
      have later := inductionHypothesis (queue.perform operation).1
      cases operation with
      | enqueue call now =>
          simp only [MessageQueue.perform, MessageQueue.sequence_enqueue] at later
          simp only [MessageQueue.insertedIds]
          refine ⟨List.pairwise_cons.mpr ⟨later.2, later.1⟩, ?_⟩
          intro id member
          rcases List.mem_cons.mp member with same | member
          · rw [same]
            exact Nat.lt_succ_self _
          · exact Nat.lt_of_succ_lt (later.2 id member)
      | remove messageId => exact later
      | demoteLiveMessages deviceId direction => exact later
      | peekOldest deviceId direction prioritizeLive => exact later

/-- A row found after some operations was there before or was inserted by one
of them. -/
theorem mem_partition_performAll (queue : MessageQueue) (operations : List Operation)
    (deviceId direction : String) (id : Nat)
    (member : id ∈ ((queue.performAll operations).1.partition deviceId direction).map Prod.fst) :
    id ∈ (queue.partition deviceId direction).map Prod.fst ∨ id ∈ queue.insertedIds operations := by
  induction operations generalizing queue with
  | nil => exact Or.inl member
  | cons operation rest inductionHypothesis =>
      have later := inductionHypothesis (queue.perform operation).1 member
      cases operation with
      | enqueue call now =>
          simp only [MessageQueue.insertedIds, List.mem_cons]
          rcases later with present | inserted
          · by_cases own : (deviceId, direction) = (call.deviceId, call.direction)
            · have parts := Prod.mk.inj own
              simp only [MessageQueue.perform, parts.1, parts.2,
                MessageQueue.partition_enqueue] at present
              rcases List.mem_map.mp present with ⟨row, rowMember, same⟩
              rcases List.mem_append.mp ((keepLast_sublist _ _).subset rowMember) with old | new
              · rw [parts.1, parts.2, ← same]
                exact Or.inl (List.mem_map_of_mem (List.mem_filter.mp old).1)
              · rw [← same, List.mem_singleton.mp new]
                exact Or.inr (Or.inl rfl)
            · rw [perform_frame queue (.enqueue call now) deviceId direction own] at present
              exact Or.inl present
          · exact Or.inr (Or.inr inserted)
      | remove messageId =>
          rcases later with present | inserted
          · simp only [MessageQueue.perform, MessageQueue.partition_remove] at present
            rcases List.mem_map.mp present with ⟨row, rowMember, same⟩
            rw [← same]
            exact Or.inl (List.mem_map_of_mem (List.mem_filter.mp rowMember).1)
          · exact Or.inr inserted
      | demoteLiveMessages device lane =>
          rcases later with present | inserted
          · by_cases own : (deviceId, direction) = (device, lane)
            · have parts := Prod.mk.inj own
              simp only [MessageQueue.perform, parts.1, parts.2, MessageQueue.partition_demote,
                List.map_map] at present
              rw [parts.1, parts.2]
              exact Or.inl present
            · rw [perform_frame queue (.demoteLiveMessages device lane) deviceId direction
                own] at present
              exact Or.inl present
          · exact Or.inr inserted
      | peekOldest device lane prioritizeLive => exact later

/-- Starting from an empty table, every sequence of queue operations acts on
each partition as on a bounded list of its own, replies included.  Keys grow
in insertion order and are never reused, no key is pending twice in one
partition, every enqueue respects the cap and puts its row last, and no
operation is seen by a partition it does not concern. -/
theorem queue_refines_bounded_lists (maxSize sequence : Nat) (operations : List Operation) :
    let start := MessageQueue.empty maxSize sequence
    let queue := (start.performAll operations).1
    let abstract := (BoundedQueue.empty sequence).performAll maxSize operations
    (forall deviceId direction,
      queue.partition deviceId direction = abstract.1.lists deviceId direction) ∧
    (start.performAll operations).2 = abstract.2 ∧
    (start.insertedIds operations).Pairwise (· < ·) ∧
    (forall deviceId direction,
      ((queue.partition deviceId direction).map Prod.fst).Pairwise (· < ·) ∧
        forall row, row ∈ queue.partition deviceId direction ->
          row.1 ∈ start.insertedIds operations) ∧
    (forall deviceId direction key, ((queue.partition deviceId direction).filter
      (fun row => decide (row.2.coalesceKey = some key))).length ≤ 1) ∧
    (forall call now,
      (queue.enqueue call now).1.count call.deviceId call.direction ≤ maxSize ∧
        (1 ≤ maxSize ->
          ((queue.enqueue call now).1.partition call.deviceId call.direction).getLast? =
            some (queue.pendingMessages.sequence + 1, call.row now))) ∧
    (forall operation deviceId direction, ¬ operation.Concerns queue deviceId direction ->
      (queue.perform operation).1.partition deviceId direction =
        queue.partition deviceId direction) := by
  intro start queue abstract
  have simulation := performAll_represents (represents_empty maxSize sequence) operations
  have unique : KeysUnique queue :=
    performAll_keysUnique start operations (fun _ _ => List.Pairwise.nil)
  have limit : queue.maxSizePerDirection = maxSize := simulation.1.limit
  refine ⟨simulation.1.lists, simulation.2, (insertedIds_increasing start operations).1, ?_,
    filter_key_length_le queue unique, ?_, perform_frame queue⟩
  · intro deviceId direction
    refine ⟨List.pairwise_map.mpr (queue.partition_ordered deviceId direction), ?_⟩
    intro row member
    rcases mem_partition_performAll start operations deviceId direction row.1
        (List.mem_map_of_mem member) with absent | inserted
    · cases absent
    · exact inserted
  · intro call now
    refine ⟨limit ▸ queue.count_enqueue_le call now, fun room => ?_⟩
    exact queue.getLast_partition_enqueue call now (limit.symm ▸ room)

end Queue
end PetlibroRelay
