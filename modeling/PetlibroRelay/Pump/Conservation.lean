import PetlibroRelay.Foundations.Accounts
import PetlibroRelay.Pump.SharedQueue
import PetlibroRelay.Queue.Refinement

namespace PetlibroRelay
namespace Pump

open Foundations
open Queue

/-!
# No message is lost between the queue and the pumps

A row that is being published is not locked.  Between the peek and the removal
it can be superseded, evicted, demoted or joined by newer rows, and every
failure path leaves the loop at its own place.  The ledger below watches the
machine from outside: it notes every inserted row and, for every row that
leaves the table, the statement that deleted it.  It never influences a step.

The accounts then say that each inserted row is still in the table or has
exactly one noted fate, and each fate carries its reason.
-/

/-- Why a row left the table.  An eviction notes the keys of its partition at
that moment, in order, and the insert that made the partition too long. -/
inductive Fate where
  | delivered
  | expired
  | superseded (newer : Nat)
  | evicted (newer : Nat) (partitionIds : List Nat)
  deriving DecidableEq, Repr

/-- What has been observed so far: inserted rows, keys whose publish was
confirmed, expiry checks that succeeded, and the rows that left the table. -/
structure Ledger where
  inserted : List (Nat × PendingMessage) := []
  confirmed : List Nat := []
  foundExpired : List (Nat × Rat) := []
  fates : List (Nat × Fate) := []

/-- The keys the size limit deletes in the given state. -/
def evictedIds (queue : MessageQueue) (deviceId direction : String) : List Nat :=
  if queue.maxSizePerDirection < queue.count deviceId direction then
    queue.overflowIds deviceId direction
  else []

/-- The keys the coalescing delete removes in the given state. -/
def supersededIds (queue : MessageQueue) (call : EnqueueCall) : List Nat :=
  (queue.pendingMessages.select
    (MessageQueue.supersededBy call.deviceId call.direction call.coalesceKey)).map Prod.fst

namespace Ledger

/-- A removal by key is noted when a row is there to be removed. -/
def settle (ledger : Ledger) (queue : MessageQueue) (id : Nat) (fate : Fate) : Ledger :=
  if id ∈ queue.pendingMessages.ids then
    { ledger with fates := ledger.fates ++ [(id, fate)] }
  else ledger

/-- What an action adds to the ledger, read off the state before it. -/
def observe (ledger : Ledger) (core : Core) : CoreAction -> Ledger
  | .enqueue call now =>
      let newId := core.queue.pendingMessages.sequence + 1
      let grown := (core.queue.coalesce call).insert call now
      let partitionIds := (grown.partition call.deviceId call.direction).map Prod.fst
      { ledger with
        inserted := ledger.inserted ++ [(newId, call.row now)]
        fates := ledger.fates ++
          (supersededIds core.queue call).map (fun id => (id, .superseded newId)) ++
          (evictedIds grown call.deviceId call.direction).map
            (fun id => (id, .evicted newId partitionIds)) }
  | .pump side taken =>
      match (core.pump side).phase, taken with
      | .examining _ message, .checkExpiry now =>
          if isExpired message now then
            { ledger with foundExpired := ledger.foundExpired ++ [(message.id, now)] }
          else ledger
      | .publishing _ message, .publish .confirmed =>
          { ledger with confirmed := ledger.confirmed ++ [message.id] }
      | .discarding _ message, .removeExpired => ledger.settle core.queue message.id .expired
      | .removing _ message, .removeDelivered => ledger.settle core.queue message.id .delivered
      | _, _ => ledger
  | .restart => ledger

end Ledger

/-- The machine of queue and pumps, watched by a ledger. -/
def ledgerMachine (settings : ReplaySettings) : Machine (Core × Ledger) CoreAction where
  step state action :=
    ((coreMachine settings).step state.1 action).map
      (fun after => (after, state.2.observe state.1 action))

/-- The row apart from its liveness, which demotion may change. -/
def frozen (message : PendingMessage) : PendingMessage :=
  { message with isLive := false }

/-- When a noted fate has its reason.  A delivery needs a confirmed publish of
this very row, an expiry needs a reading past its age, a superseding row is
newer and has its device, direction and key, and an evicted row was among the
oldest of a partition beyond the cap. -/
def Justified (ledger : Ledger) (maxSize id : Nat) (original : PendingMessage) : Fate -> Prop
  | .delivered => id ∈ ledger.confirmed
  | .expired => exists now maxAge, (id, now) ∈ ledger.foundExpired ∧
      original.maxAgeSeconds = some maxAge ∧ maxAge < now - original.createdAt
  | .superseded newer => exists message, (newer, message) ∈ ledger.inserted ∧ id < newer ∧
      message.deviceId = original.deviceId ∧ message.direction = original.direction ∧
      original.coalesceKey.isSome = true ∧ message.coalesceKey = original.coalesceKey
  | .evicted newer partitionIds => exists message, (newer, message) ∈ ledger.inserted ∧
      message.deviceId = original.deviceId ∧ message.direction = original.direction ∧
      maxSize < partitionIds.length ∧ id ∈ partitionIds.take (partitionIds.length - maxSize)

/-! ## Growth of the ledger -/

/-- A later ledger has everything an earlier one has. -/
structure Ledger.Extends (ledger later : Ledger) : Prop where
  inserted : forall row, row ∈ ledger.inserted -> row ∈ later.inserted
  confirmed : forall id, id ∈ ledger.confirmed -> id ∈ later.confirmed
  foundExpired : forall entry, entry ∈ ledger.foundExpired -> entry ∈ later.foundExpired

theorem Ledger.Extends.refl (ledger : Ledger) : ledger.Extends ledger :=
  ⟨fun _ member => member, fun _ member => member, fun _ member => member⟩

theorem Ledger.settle_extends (ledger : Ledger) (queue : MessageQueue) (id : Nat) (fate : Fate) :
    ledger.Extends (ledger.settle queue id fate) := by
  rw [settle]
  split
  · exact ⟨fun _ member => member, fun _ member => member, fun _ member => member⟩
  · exact .refl ledger

theorem Ledger.observe_extends (ledger : Ledger) (core : Core) (action : CoreAction) :
    ledger.Extends (ledger.observe core action) := by
  cases action with
  | enqueue call now =>
      exact ⟨fun _ member => List.mem_append_left _ member, fun _ member => member,
        fun _ member => member⟩
  | pump side taken =>
      simp only [observe]
      split
      · split
        · exact ⟨fun _ member => member, fun _ member => member,
            fun _ member => List.mem_append_left _ member⟩
        · exact .refl ledger
      · exact ⟨fun _ member => member, fun _ member => List.mem_append_left _ member,
          fun _ member => member⟩
      · exact ledger.settle_extends _ _ _
      · exact ledger.settle_extends _ _ _
      · exact .refl ledger
  | restart => exact .refl ledger

theorem Justified.mono {ledger later : Ledger} (grows : ledger.Extends later) {maxSize id : Nat}
    {original : PendingMessage} {fate : Fate}
    (justified : Justified ledger maxSize id original fate) :
    Justified later maxSize id original fate := by
  cases fate with
  | delivered => exact grows.confirmed id justified
  | expired =>
      rcases justified with ⟨now, maxAge, found, limit, old⟩
      exact ⟨now, maxAge, grows.foundExpired _ found, limit, old⟩
  | superseded newer =>
      rcases justified with ⟨message, known, reason⟩
      exact ⟨message, grows.inserted _ known, reason⟩
  | evicted newer partitionIds =>
      rcases justified with ⟨message, known, reason⟩
      exact ⟨message, grows.inserted _ known, reason⟩

/-! ## The keys each statement of an enqueue removes -/

theorem mem_supersededIds_iff (queue : MessageQueue) (call : EnqueueCall) (id : Nat) :
    id ∈ supersededIds queue call ↔ exists message, (id, message) ∈ queue.pendingMessages.rows ∧
      MessageQueue.supersededBy call.deviceId call.direction call.coalesceKey (id, message) =
        true := by
  simp only [supersededIds, AutoTable.select, List.mem_map, List.mem_filter, Prod.exists,
    exists_and_right, exists_eq_right]

theorem supersededIds_nodup (queue : MessageQueue) (call : EnqueueCall) :
    (supersededIds queue call).Nodup :=
  AutoTable.nodup_ids (queue.pendingMessages.select_ordered _)

theorem mem_ids_coalesce (queue : MessageQueue) (call : EnqueueCall) (id : Nat) :
    id ∈ (queue.coalesce call).pendingMessages.ids ↔
      id ∈ queue.pendingMessages.ids ∧ id ∉ supersededIds queue call :=
  queue.pendingMessages.mem_ids_deleteWhere _ id

/-- Evicted keys are the first keys of their partition, and there are any only
beyond the cap. -/
theorem evictedIds_eq (queue : MessageQueue) (deviceId direction : String) :
    evictedIds queue deviceId direction =
      ((queue.partition deviceId direction).map Prod.fst).take
        ((queue.partition deviceId direction).length - queue.maxSizePerDirection) := by
  rw [evictedIds, queue.count_eq_length]
  split
  · rw [MessageQueue.overflowIds, queue.count_eq_length, List.map_take]
    rfl
  · next fits =>
      rw [Nat.sub_eq_zero_of_le (Nat.le_of_not_lt fits), List.take_zero]

theorem evictedIds_nodup (queue : MessageQueue) (deviceId direction : String) :
    (evictedIds queue deviceId direction).Nodup := by
  rw [evictedIds_eq]
  exact (AutoTable.nodup_ids (queue.partition_ordered deviceId direction)).sublist
    (List.take_sublist _ _)

/-- An evicted key belongs to a row of the partition. -/
theorem row_of_mem_evictedIds (queue : MessageQueue) (deviceId direction : String) {id : Nat}
    (evicted : id ∈ evictedIds queue deviceId direction) :
    exists message, (id, message) ∈ queue.partition deviceId direction := by
  rw [evictedIds_eq] at evicted
  rcases List.mem_map.mp (List.mem_of_mem_take evicted) with ⟨row, member, same⟩
  exact ⟨row.2, same ▸ member⟩

theorem mem_ids_enforce (queue : MessageQueue) (deviceId direction : String) (id : Nat) :
    id ∈ (queue.enforceSizeLimitLocked deviceId direction).pendingMessages.ids ↔
      id ∈ queue.pendingMessages.ids ∧ id ∉ evictedIds queue deviceId direction := by
  rw [MessageQueue.enforceSizeLimitLocked, evictedIds]
  split
  · rw [AutoTable.mem_ids_deleteWhere]
    refine and_congr_right (fun member => not_congr ?_)
    rcases List.mem_map.mp member with ⟨row, rowMember, same⟩
    constructor
    · intro selected
      rcases List.mem_map.mp selected with ⟨other, otherMember, otherSame⟩
      exact otherSame ▸ of_decide_eq_true (List.mem_filter.mp otherMember).2
    · intro overflow
      refine List.mem_map.mpr ⟨row, List.mem_filter.mpr ⟨rowMember, decide_eq_true ?_⟩, same⟩
      exact same.symm ▸ overflow
  · simp only [List.not_mem_nil, not_false_eq_true, and_true]

/-! ## The invariant -/

/-- A message a pump holds is a copy of an inserted row, as far as its key and
its age are concerned. -/
def Known (ledger : Ledger) (message : QueuedMessage) : Prop :=
  exists original, (message.id, original) ∈ ledger.inserted ∧
    message.maxAgeSeconds = original.maxAgeSeconds ∧ message.createdAt = original.createdAt

/-- The accounts of the table are balanced, and the pumps hold only messages
whose state of delivery the ledger knows. -/
structure Balanced (maxSize : Nat) (state : Core × Ledger) : Prop where
  limit : state.1.queue.maxSizePerDirection = maxSize
  numbered : forall row, row ∈ state.2.inserted -> row.1 ≤ state.1.queue.pendingMessages.sequence
  distinct : (state.2.inserted.map Prod.fst).Nodup
  accounts : Accounts (state.2.inserted.map Prod.fst) state.1.queue.pendingMessages.ids
    (state.2.fates.map Prod.fst)
  stored : forall row, row ∈ state.1.queue.pendingMessages.rows ->
    exists original, (row.1, original) ∈ state.2.inserted ∧ frozen row.2 = frozen original
  justified : forall entry, entry ∈ state.2.fates -> exists original,
    (entry.1, original) ∈ state.2.inserted ∧ Justified state.2 maxSize entry.1 original entry.2
  held : forall side message, (state.1.pump side).phase.message? = some message ->
    Known state.2 message
  removing : forall side visit message, (state.1.pump side).phase = .removing visit message ->
    message.id ∈ state.2.confirmed
  discarding : forall side visit message, (state.1.pump side).phase = .discarding visit message ->
    exists now, (message.id, now) ∈ state.2.foundExpired ∧ isExpired message now = true

theorem balanced_initial (maxSize sequence : Nat) :
    Balanced maxSize (Core.initial maxSize sequence, {}) where
  limit := rfl
  numbered := fun _ member => absurd member List.not_mem_nil
  distinct := List.nodup_nil
  accounts := .empty
  stored := fun _ member => absurd member List.not_mem_nil
  justified := fun _ member => absurd member List.not_mem_nil
  held := fun side _ found => by cases side <;> cases found
  removing := fun side _ _ place => by cases side <;> cases place
  discarding := fun side _ _ place => by cases side <;> cases place

theorem Known.mono {ledger later : Ledger} (grows : ledger.Extends later)
    {message : QueuedMessage} (known : Known ledger message) : Known later message := by
  rcases known with ⟨original, member, same⟩
  exact ⟨original, grows.inserted _ member, same⟩

/-- The rows of the table before the size limit is enforced are known once the
new row is noted. -/
theorem stored_grown {maxSize : Nat} {core : Core} {ledger : Ledger}
    (balanced : Balanced maxSize (core, ledger)) (call : EnqueueCall) (now : Rat)
    {row : Nat × PendingMessage}
    (member : row ∈ core.queue.pendingMessages.rows ∨
      row = (core.queue.pendingMessages.sequence + 1, call.row now)) :
    exists original,
      (row.1, original) ∈ ledger.inserted ++
        [(core.queue.pendingMessages.sequence + 1, call.row now)] ∧
      frozen row.2 = frozen original := by
  rcases member with old | new
  · rcases balanced.stored row old with ⟨original, known, same⟩
    exact ⟨original, List.mem_append_left _ known, same⟩
  · exact ⟨row.2, List.mem_append_right _ (List.mem_singleton.mpr new), rfl⟩

/-- The deletions of an enqueue are justified. -/
theorem justified_enqueue {maxSize : Nat} {core : Core} {ledger : Ledger}
    (balanced : Balanced maxSize (core, ledger)) (call : EnqueueCall) (now : Rat)
    (entry : Nat × Fate) (member : entry ∈ (ledger.observe core (.enqueue call now)).fates) :
    exists original, (entry.1, original) ∈ (ledger.observe core (.enqueue call now)).inserted ∧
      Justified (ledger.observe core (.enqueue call now)) maxSize entry.1 original entry.2 := by
  have grows := ledger.observe_extends core (.enqueue call now)
  simp only [Ledger.observe] at member
  rcases List.mem_append.mp member with earlier | evicted
  · rcases List.mem_append.mp earlier with old | superseded
    · rcases balanced.justified entry old with ⟨original, known, justified⟩
      exact ⟨original, grows.inserted _ known, justified.mono grows⟩
    · rcases List.mem_map.mp superseded with ⟨id, gone, same⟩
      subst entry
      rcases (mem_supersededIds_iff core.queue call id).mp gone with ⟨message, present, doomed⟩
      rcases balanced.stored (id, message) present with ⟨original, known, agree⟩
      refine ⟨original, grows.inserted _ known, call.row now,
        List.mem_append_right _ (List.mem_singleton.mpr rfl),
        Nat.lt_succ_of_le (balanced.numbered _ known), ?_⟩
      have device := congrArg PendingMessage.deviceId agree
      have direction := congrArg PendingMessage.direction agree
      have key := congrArg PendingMessage.coalesceKey agree
      simp only [frozen] at device direction key
      cases given : call.coalesceKey with
      | none =>
          rw [given] at doomed
          cases doomed
      | some value =>
          simp only [given, MessageQueue.supersededBy, inPartition, Bool.and_eq_true,
            decide_eq_true_eq] at doomed
          rw [← device, ← direction, ← key, doomed.1.1, doomed.1.2, doomed.2]
          exact ⟨rfl, rfl, rfl, given⟩
  · rcases List.mem_map.mp evicted with ⟨id, gone, same⟩
    subst entry
    rcases row_of_mem_evictedIds _ _ _ gone with ⟨message, inside⟩
    have place := (MessageQueue.mem_partition_iff _ _ _ _).mp inside
    rcases stored_grown balanced call now (MessageQueue.mem_rows_grown core.queue call now place.1) with
      ⟨original, known, agree⟩
    have device := congrArg PendingMessage.deviceId agree
    have direction := congrArg PendingMessage.direction agree
    simp only [frozen] at device direction
    refine ⟨original, known, call.row now, List.mem_append_right _ (List.mem_singleton.mpr rfl),
      place.2.1.symm.trans device, place.2.2.symm.trans direction, ?_⟩
    rw [evictedIds_eq] at gone
    have limit : ((core.queue.coalesce call).insert call now).maxSizePerDirection = maxSize :=
      balanced.limit
    rw [limit] at gone
    rw [List.length_map]
    refine ⟨?_, gone⟩
    by_contra fits
    rw [Nat.sub_eq_zero_of_le (Nat.le_of_not_lt fits), List.take_zero] at gone
    exact absurd gone List.not_mem_nil

theorem balanced_enqueue {maxSize : Nat} {core : Core} {ledger : Ledger}
    (balanced : Balanced maxSize (core, ledger)) (call : EnqueueCall) (now : Rat) :
    Balanced maxSize ({ core with queue := (core.queue.enqueue call now).1 },
      ledger.observe core (.enqueue call now)) := by
  have grows := ledger.observe_extends core (.enqueue call now)
  have fresh : core.queue.pendingMessages.sequence + 1 ∉ ledger.inserted.map Prod.fst := by
    intro member
    rcases List.mem_map.mp member with ⟨row, rowMember, same⟩
    have bound := balanced.numbered row rowMember
    simp only at bound
    omega
  refine ⟨?_, ?_, ?_, ?_, ?_, justified_enqueue balanced call now, ?_, ?_, ?_⟩
  · exact (core.queue.maxSize_enqueue call now).trans balanced.limit
  · intro row member
    simp only [MessageQueue.sequence_enqueue]
    rcases List.mem_append.mp member with old | new
    · exact Nat.le_succ_of_le (balanced.numbered row old)
    · rw [List.mem_singleton.mp new]
  · simp only [Ledger.observe, List.map_append, List.map_cons, List.map_nil]
    refine List.nodup_append.mpr ⟨balanced.distinct, List.nodup_singleton _, ?_⟩
    intro first firstMember second secondMember same
    rw [List.mem_singleton.mp secondMember] at same
    exact fresh (same ▸ firstMember)
  · simp only [Ledger.observe, List.map_append, List.map_map, List.map_cons, List.map_nil]
    have superseded := balanced.accounts.settle (supersededIds_nodup core.queue call)
      (fun id gone => by
        rcases (mem_supersededIds_iff core.queue call id).mp gone with ⟨message, present, _⟩
        exact List.mem_map_of_mem present)
      (mem_ids_coalesce core.queue call)
    have created := superseded.create fresh
      ((core.queue.coalesce call).pendingMessages.mem_ids_insert (call.row now))
    have evicted := created.settle
      (evictedIds_nodup ((core.queue.coalesce call).insert call now) call.deviceId call.direction)
      (fun id gone => by
        rcases row_of_mem_evictedIds _ _ _ gone with ⟨message, inside⟩
        exact List.mem_map_of_mem ((MessageQueue.mem_partition_iff _ _ _ _).mp inside).1)
      (mem_ids_enforce ((core.queue.coalesce call).insert call now) call.deviceId
        call.direction)
    have first : (Prod.fst ∘ fun id : Nat => (id,
        Fate.superseded (core.queue.pendingMessages.sequence + 1))) = id := rfl
    have second : (Prod.fst ∘ fun id : Nat => (id,
        Fate.evicted (core.queue.pendingMessages.sequence + 1)
          (List.map Prod.fst (((core.queue.coalesce call).insert call now).partition
            call.deviceId call.direction)))) = id := rfl
    rw [first, second, List.map_id, List.map_id]
    exact evicted
  · intro row member
    exact stored_grown balanced call now (MessageQueue.mem_rows_enqueue core.queue call now member)
  · intro side message found
    rw [Core.pump_with_queue] at found
    exact (balanced.held side message found).mono grows
  · intro side visit message place
    rw [Core.pump_with_queue] at place
    exact grows.confirmed _ (balanced.removing side visit message place)
  · intro side visit message place
    rw [Core.pump_with_queue] at place
    rcases balanced.discarding side visit message place with ⟨now, found, old⟩
    exact ⟨now, grows.foundExpired _ found, old⟩

/-! ## Pump steps keep the accounts -/

theorem settle_inserted (ledger : Ledger) (queue : MessageQueue) (id : Nat) (fate : Fate) :
    (ledger.settle queue id fate).inserted = ledger.inserted := by
  rw [Ledger.settle]
  split <;> rfl

theorem observe_pump_inserted (ledger : Ledger) (core : Core) (side : Side) (taken : PumpStep) :
    (ledger.observe core (.pump side taken)).inserted = ledger.inserted := by
  simp only [Ledger.observe]
  split
  · split <;> rfl
  · rfl
  · exact settle_inserted _ _ _ _
  · exact settle_inserted _ _ _ _
  · rfl

/-- Only the two removal steps note a fate. -/
theorem observe_pump_fates (ledger : Ledger) (core : Core) (side : Side) (taken : PumpStep)
    (kept : taken.isRemoval = false) :
    (ledger.observe core (.pump side taken)).fates = ledger.fates := by
  simp only [Ledger.observe]
  split
  · split <;> rfl
  · rfl
  · cases kept
  · cases kept
  · rfl

/-- Removing by key settles the row, if it is still there. -/
theorem accounts_remove {queue : MessageQueue} {ledger : Ledger}
    (accounts : Accounts (ledger.inserted.map Prod.fst) queue.pendingMessages.ids
      (ledger.fates.map Prod.fst)) (id : Nat) (fate : Fate) :
    Accounts ((ledger.settle queue id fate).inserted.map Prod.fst)
      (queue.remove id).pendingMessages.ids ((ledger.settle queue id fate).fates.map Prod.fst) := by
  have remaining : forall other, other ∈ (queue.remove id).pendingMessages.ids ↔
      other ∈ queue.pendingMessages.ids ∧ other ≠ id := by
    intro other
    simp only [MessageQueue.remove, AutoTable.ids, AutoTable.deleteWhere, List.mem_map,
      List.mem_filter, Bool.not_eq_true', decide_eq_false_iff_not]
    constructor
    · rintro ⟨row, ⟨member, different⟩, same⟩
      exact ⟨⟨row, member, same⟩, same ▸ different⟩
    · rintro ⟨⟨row, member, same⟩, different⟩
      exact ⟨row, ⟨member, same ▸ different⟩, same⟩
  rw [settle_inserted]
  by_cases present : id ∈ queue.pendingMessages.ids
  · simp only [Ledger.settle, if_pos present, List.map_append, List.map_cons, List.map_nil]
    refine accounts.settle (List.nodup_singleton id) ?_ ?_
    · intro other member
      rw [List.mem_singleton.mp member]
      exact present
    · intro other
      rw [remaining other, List.mem_singleton]
  · simp only [Ledger.settle, if_neg present]
    refine ⟨accounts.once, fun other member =>
      accounts.present_created other ((remaining other).mp member).1, ?_⟩
    intro other
    rw [accounts.settled_iff, remaining other]
    refine and_congr_right (fun _ => not_congr ⟨fun member => ⟨member, ?_⟩, fun both => both.1⟩)
    rintro rfl
    exact present member

/-- The queue after a pump step: its rows are old rows, up to liveness, and its
keys are the keys the ledger expects. -/
structure QueueStep (ledger later : Ledger) (queue left : MessageQueue) : Prop where
  limit : left.maxSizePerDirection = queue.maxSizePerDirection
  sequence : left.pendingMessages.sequence = queue.pendingMessages.sequence
  rows : forall row, row ∈ left.pendingMessages.rows ->
    exists old, old ∈ queue.pendingMessages.rows ∧ old.1 = row.1 ∧ frozen old.2 = frozen row.2
  accounts : Accounts (ledger.inserted.map Prod.fst) queue.pendingMessages.ids
      (ledger.fates.map Prod.fst) ->
    Accounts (later.inserted.map Prod.fst) left.pendingMessages.ids (later.fates.map Prod.fst)

theorem queueStep_unchanged {ledger later : Ledger} (queue : MessageQueue)
    (inserted : later.inserted = ledger.inserted) (fates : later.fates = ledger.fates) :
    QueueStep ledger later queue queue where
  limit := rfl
  sequence := rfl
  rows := fun row member => ⟨row, member, rfl, rfl⟩
  accounts := by
    rw [inserted, fates]
    exact fun accounts => accounts

theorem queueStep_demote {ledger later : Ledger} (queue : MessageQueue)
    (deviceId direction : String) (inserted : later.inserted = ledger.inserted)
    (fates : later.fates = ledger.fates) :
    QueueStep ledger later queue (queue.demoteLiveMessages deviceId direction).1 where
  limit := rfl
  sequence := rfl
  rows := by
    intro row member
    rcases List.mem_map.mp member with ⟨old, oldMember, same⟩
    refine ⟨old, oldMember, ?_⟩
    subst row
    split <;> exact ⟨rfl, rfl⟩
  accounts := by
    rw [inserted, fates]
    simp only [MessageQueue.demoteLiveMessages, AutoTable.ids_updateWhere]
    exact fun accounts => accounts

theorem queueStep_remove (ledger : Ledger) (queue : MessageQueue) (id : Nat) (fate : Fate) :
    QueueStep ledger (ledger.settle queue id fate) queue (queue.remove id) where
  limit := rfl
  sequence := rfl
  rows := fun row member => ⟨row, (List.mem_filter.mp member).1, rfl, rfl⟩
  accounts := fun accounts => accounts_remove accounts id fate

/-- The fates a pump step notes are justified. -/
theorem justified_settle {maxSize : Nat} {core : Core} {ledger : Ledger}
    (balanced : Balanced maxSize (core, ledger)) {id : Nat} {fate : Fate}
    (reason : forall original, (id, original) ∈ ledger.inserted ->
      Justified ledger maxSize id original fate)
    (entry : Nat × Fate) (member : entry ∈ (ledger.settle core.queue id fate).fates) :
    exists original, (entry.1, original) ∈ (ledger.settle core.queue id fate).inserted ∧
      Justified (ledger.settle core.queue id fate) maxSize entry.1 original entry.2 := by
  have grows := ledger.settle_extends core.queue id fate
  by_cases present : id ∈ core.queue.pendingMessages.ids
  · simp only [Ledger.settle, if_pos present] at member
    rcases List.mem_append.mp member with old | new
    · rcases balanced.justified entry old with ⟨original, known, justified⟩
      exact ⟨original, grows.inserted _ known, justified.mono grows⟩
    · rw [List.mem_singleton.mp new]
      rcases List.mem_map.mp present with ⟨row, rowMember, same⟩
      rcases balanced.stored row rowMember with ⟨original, known, _⟩
      rw [same] at known
      exact ⟨original, grows.inserted _ known, (reason original known).mono grows⟩
  · simp only [Ledger.settle, if_neg present] at member
    rcases balanced.justified entry member with ⟨original, known, justified⟩
    exact ⟨original, grows.inserted _ known, justified.mono grows⟩

/-- What has to be shown about the pump that moved.  The other pump stands
still, so its part of the invariant only needs the growth of the ledger. -/
theorem balanced_of_moved {maxSize : Nat} {core after : Core} {ledger : Ledger} {side : Side}
    {taken : PumpStep} (balanced : Balanced maxSize (core, ledger))
    (others : forall other, other ≠ side -> after.pump other = core.pump other)
    (queueStep : QueueStep ledger (ledger.observe core (.pump side taken)) core.queue after.queue)
    (justified : forall entry, entry ∈ (ledger.observe core (.pump side taken)).fates ->
      exists original, (entry.1, original) ∈ (ledger.observe core (.pump side taken)).inserted ∧
        Justified (ledger.observe core (.pump side taken)) maxSize entry.1 original entry.2)
    (held : forall message, (after.pump side).phase.message? = some message ->
      Known (ledger.observe core (.pump side taken)) message)
    (removing : forall visit message, (after.pump side).phase = .removing visit message ->
      message.id ∈ (ledger.observe core (.pump side taken)).confirmed)
    (discarding : forall visit message, (after.pump side).phase = .discarding visit message ->
      exists now, (message.id, now) ∈ (ledger.observe core (.pump side taken)).foundExpired ∧
        isExpired message now = true) :
    Balanced maxSize (after, ledger.observe core (.pump side taken)) := by
  have grows := ledger.observe_extends core (.pump side taken)
  have inserted := observe_pump_inserted ledger core side taken
  refine ⟨queueStep.limit.trans balanced.limit, ?_, ?_, queueStep.accounts balanced.accounts, ?_,
    justified, ?_, ?_, ?_⟩
  · simp only [inserted, queueStep.sequence]
    exact balanced.numbered
  · simp only [inserted]
    exact balanced.distinct
  · intro row member
    rcases queueStep.rows row member with ⟨old, oldMember, sameId, sameRow⟩
    rcases balanced.stored old oldMember with ⟨original, known, agree⟩
    refine ⟨original, ?_, sameRow.symm.trans agree⟩
    rw [inserted, ← sameId]
    exact known
  · intro other message found
    by_cases own : other = side
    · exact held message (own ▸ found)
    · simp only [others other own] at found
      exact (balanced.held other message found).mono grows
  · intro other visit message place
    by_cases own : other = side
    · exact removing visit message (own ▸ place)
    · simp only [others other own] at place
      exact grows.confirmed _ (balanced.removing other visit message place)
  · intro other visit message place
    by_cases own : other = side
    · exact discarding visit message (own ▸ place)
    · simp only [others other own] at place
      rcases balanced.discarding other visit message place with ⟨now, found, old⟩
      exact ⟨now, grows.foundExpired _ found, old⟩

theorem justified_of_fates {maxSize : Nat} {core : Core} {ledger later : Ledger}
    (balanced : Balanced maxSize (core, ledger)) (grows : ledger.Extends later)
    (fates : later.fates = ledger.fates) (entry : Nat × Fate) (member : entry ∈ later.fates) :
    exists original, (entry.1, original) ∈ later.inserted ∧
      Justified later maxSize entry.1 original entry.2 := by
  rw [fates] at member
  rcases balanced.justified entry member with ⟨original, known, justified⟩
  exact ⟨original, grows.inserted _ known, justified.mono grows⟩

/-- A peeked message is a copy of a stored row, and so of an inserted one. -/
theorem known_of_peeked {maxSize : Nat} {core : Core} {ledger : Ledger}
    (balanced : Balanced maxSize (core, ledger)) {deviceId direction : String}
    {prioritizeLive : Bool} {message : QueuedMessage}
    (found : core.queue.peekOldest deviceId direction prioritizeLive = some message) :
    Known ledger message := by
  rcases MessageQueue.row_of_peekOldest found with ⟨row, inside, same⟩
  have present := ((core.queue.mem_partition_iff _ _ _).mp inside).1
  rcases balanced.stored row present with ⟨original, known, agree⟩
  have maxAge := congrArg PendingMessage.maxAgeSeconds agree
  have createdAt := congrArg PendingMessage.createdAt agree
  subst message
  exact ⟨original, known, maxAge, createdAt⟩

/-- A pump that lets go of its message owes nothing to the ledger. -/
theorem balanced_of_free {maxSize : Nat} {core after : Core} {ledger : Ledger} {side : Side}
    {taken : PumpStep} (balanced : Balanced maxSize (core, ledger))
    (others : forall other, other ≠ side -> after.pump other = core.pump other)
    (free : (after.pump side).phase.message? = none)
    (queueStep : QueueStep ledger (ledger.observe core (.pump side taken)) core.queue after.queue)
    (justified : forall entry, entry ∈ (ledger.observe core (.pump side taken)).fates ->
      exists original, (entry.1, original) ∈ (ledger.observe core (.pump side taken)).inserted ∧
        Justified (ledger.observe core (.pump side taken)) maxSize entry.1 original entry.2) :
    Balanced maxSize (after, ledger.observe core (.pump side taken)) := by
  refine balanced_of_moved balanced others queueStep justified ?_ ?_ ?_
  · intro message found
    rw [free] at found
    cases found
  · intro visit message place
    rw [place] at free
    cases free
  · intro visit message place
    rw [place] at free
    cases free

/-- A pump that holds a known message and leaves the queue alone only has to
justify that it is about to remove the row. -/
theorem balanced_of_holding {maxSize : Nat} {core after : Core} {ledger : Ledger} {side : Side}
    {taken : PumpStep} {message : QueuedMessage} (balanced : Balanced maxSize (core, ledger))
    (others : forall other, other ≠ side -> after.pump other = core.pump other)
    (kept : taken.isRemoval = false) (unchanged : after.queue = core.queue)
    (holds : (after.pump side).phase.message? = some message) (known : Known ledger message)
    (removing : forall visit, (after.pump side).phase = .removing visit message ->
      message.id ∈ (ledger.observe core (.pump side taken)).confirmed)
    (discarding : forall visit, (after.pump side).phase = .discarding visit message ->
      exists now, (message.id, now) ∈ (ledger.observe core (.pump side taken)).foundExpired ∧
        isExpired message now = true) :
    Balanced maxSize (after, ledger.observe core (.pump side taken)) := by
  have grows := ledger.observe_extends core (.pump side taken)
  have fates := observe_pump_fates ledger core side taken kept
  refine balanced_of_moved balanced others ?_ (justified_of_fates balanced grows fates) ?_ ?_ ?_
  · rw [unchanged]
    exact queueStep_unchanged _ (observe_pump_inserted ledger core side taken) fates
  · intro other same
    rw [holds] at same
    rw [← Option.some.inj same]
    exact known.mono grows
  · intro visit other place
    have same : some other = some message := by rw [← holds, place]; rfl
    rw [Option.some.inj same] at place ⊢
    exact removing visit place
  · intro visit other place
    have same : some other = some message := by rw [← holds, place]; rfl
    rw [Option.some.inj same] at place ⊢
    exact discarding visit place

/-- A row that is discarded had outlived the age it was inserted with. -/
theorem justified_expired {maxSize : Nat} {core : Core} {ledger : Ledger} {side : Side}
    {visit : Visit} {message : QueuedMessage} (balanced : Balanced maxSize (core, ledger))
    (place : (core.pump side).phase = .discarding visit message) {original : PendingMessage}
    (known : (message.id, original) ∈ ledger.inserted) :
    Justified ledger maxSize message.id original .expired := by
  rcases balanced.discarding side visit message place with ⟨now, found, old⟩
  rcases balanced.held side message (by rw [place]; rfl) with ⟨row, member, age, created⟩
  have same := List.inj_on_of_nodup_map balanced.distinct known member rfl
  have equal : original = row := congrArg Prod.snd same
  simp only [isExpired] at old
  cases limit : message.maxAgeSeconds with
  | none => simp only [limit, Bool.false_eq_true] at old
  | some maxAge =>
      simp only [limit, decide_eq_true_eq] at old
      refine ⟨now, maxAge, found, ?_, ?_⟩
      · rw [equal, ← age, limit]
      · rw [equal, ← created]
        exact old

theorem balanced_pump {settings : ReplaySettings} {maxSize : Nat} {core after : Core}
    {ledger : Ledger} {side : Side} {taken : PumpStep}
    (balanced : Balanced maxSize (core, ledger))
    (moved : (coreMachine settings).step core (.pump side taken) = some after) :
    Balanced maxSize (after, ledger.observe core (.pump side taken)) := by
  rcases coreMachine_pump moved with ⟨effect, others⟩
  have grows := ledger.observe_extends core (.pump side taken)
  have inserted := observe_pump_inserted ledger core side taken
  cases effect with
  | quiet kept unchanged free =>
      have fates := observe_pump_fates ledger core side taken kept
      refine balanced_of_free balanced others free ?_ (justified_of_fates balanced grows fates)
      rw [unchanged]
      exact queueStep_unchanged _ inserted fates
  | peeked visit message act unchanged place found arrived =>
      refine balanced_of_holding balanced others (by rw [act]; rfl) unchanged
        (by rw [arrived]; rfl) (known_of_peeked balanced found) ?_ ?_
      · intro other impossible
        rw [arrived] at impossible
        cases impossible
      · intro other impossible
        rw [arrived] at impossible
        cases impossible
  | foundExpired visit message now unchanged act place old arrived =>
      refine balanced_of_holding balanced others (by rw [act]; rfl) unchanged
        (by rw [arrived]; rfl) (balanced.held side message (by rw [place]; rfl)) ?_ ?_
      · intro other impossible
        rw [arrived] at impossible
        cases impossible
      · intro other _
        refine ⟨now, ?_, old⟩
        simp only [Ledger.observe, place, act, old, if_true]
        exact List.mem_append_right _ (List.mem_singleton.mpr rfl)
  | passedOn visit message kept unchanged place arrived =>
      have passed := passedOn_of_phases place arrived
      refine balanced_of_holding balanced others kept unchanged passed.afterMessage
        (balanced.held side message passed.beforeMessage) ?_ ?_
      · exact fun other impossible => absurd impossible (passed.notRemoving other message)
      · exact fun other impossible => absurd impossible (passed.notDiscarding other message)
  | confirmed visit message unchanged act place arrived =>
      refine balanced_of_holding balanced others (by rw [act]; rfl) unchanged
        (by rw [arrived]; rfl) (balanced.held side message (by rw [place]; rfl)) ?_ ?_
      · intro other _
        simp only [Ledger.observe, place, act]
        exact List.mem_append_right _ (List.mem_singleton.mpr rfl)
      · intro other impossible
        rw [arrived] at impossible
        cases impossible
  | demoted target rest act place changed free =>
      have fates := observe_pump_fates ledger core side taken (by rw [act]; rfl)
      refine balanced_of_free balanced others free ?_ (justified_of_fates balanced grows fates)
      rw [changed]
      exact queueStep_demote _ _ _ inserted fates
  | removed visit message place changed free =>
      rcases place with ⟨act, place⟩ | ⟨act, place⟩
      · have settled : ledger.observe core (.pump side taken) =
            ledger.settle core.queue message.id .expired := by
          simp only [Ledger.observe, place, act]
        refine balanced_of_free balanced others free ?_ ?_
        · rw [changed, settled]
          exact queueStep_remove _ _ _ _
        · rw [settled]
          exact justified_settle balanced (fun _ known => justified_expired balanced place known)
      · have settled : ledger.observe core (.pump side taken) =
            ledger.settle core.queue message.id .delivered := by
          simp only [Ledger.observe, place, act]
        refine balanced_of_free balanced others free ?_ ?_
        · rw [changed, settled]
          exact queueStep_remove _ _ _ _
        · rw [settled]
          exact justified_settle balanced
            (fun _ _ => balanced.removing side visit message place)

/-! ## Every run keeps the accounts -/

/-- A restart forgets what the pumps held. -/
theorem balanced_restart {maxSize : Nat} {core : Core} {ledger : Ledger}
    (balanced : Balanced maxSize (core, ledger)) :
    Balanced maxSize ({ queue := core.queue }, ledger) where
  limit := balanced.limit
  numbered := balanced.numbered
  distinct := balanced.distinct
  accounts := balanced.accounts
  stored := balanced.stored
  justified := balanced.justified
  held := by
    intro side message found
    cases side <;> cases found
  removing := by
    intro side visit message place
    cases side <;> cases place
  discarding := by
    intro side visit message place
    cases side <;> cases place

theorem balanced_step {settings : ReplaySettings} {maxSize : Nat} {action : CoreAction}
    {state after : Core × Ledger} (balanced : Balanced maxSize state)
    (moved : (ledgerMachine settings).step state action = some after) :
    Balanced maxSize after := by
  simp only [ledgerMachine, Option.map_eq_some_iff] at moved
  rcases moved with ⟨core, stepped, same⟩
  subst after
  cases action with
  | enqueue call now =>
      cases stepped
      exact balanced_enqueue balanced call now
  | pump side taken => exact balanced_pump balanced stepped
  | restart =>
      cases stepped
      exact balanced_restart balanced

theorem balanced_run (settings : ReplaySettings) (maxSize sequence : Nat)
    (actions : List CoreAction) :
    Balanced maxSize
      ((ledgerMachine settings).run (Core.initial maxSize sequence, {}) actions) :=
  (ledgerMachine settings).run_invariant (Balanced maxSize)
    (fun _ _ _ balanced moved => balanced_step balanced moved) _ actions
    (balanced_initial maxSize sequence)

/-- Removing a key that is not there changes nothing. -/
theorem remove_of_not_mem (queue : MessageQueue) {id : Nat}
    (absent : id ∉ queue.pendingMessages.ids) :
    (queue.remove id).pendingMessages.rows = queue.pendingMessages.rows := by
  refine List.filter_eq_self.mpr ?_
  intro row member
  rw [Bool.not_eq_true', decide_eq_false_iff_not]
  intro same
  exact absent (same ▸ List.mem_map_of_mem member)

/-- The state of one inserted row: still pending, with nothing but its liveness
changed, or gone for one justified reason that is noted exactly once. -/
def Conserved (maxSize : Nat) (core : Core) (ledger : Ledger) (row : Nat × PendingMessage) :
    Prop :=
  ((exists stored, (row.1, stored) ∈ core.queue.pendingMessages.rows ∧
      frozen stored = frozen row.2) ∧
    ledger.fates.filter (fun entry => decide (entry.1 = row.1)) = []) ∨
  (row.1 ∉ core.queue.pendingMessages.ids ∧
    exists fate, ledger.fates.filter (fun entry => decide (entry.1 = row.1)) = [(row.1, fate)] ∧
      Justified ledger maxSize row.1 row.2 fate)

theorem Balanced.conserved {maxSize : Nat} {core : Core} {ledger : Ledger}
    (balanced : Balanced maxSize (core, ledger)) {row : Nat × PendingMessage}
    (inserted : row ∈ ledger.inserted) : Conserved maxSize core ledger row := by
  have unique : forall original, (row.1, original) ∈ ledger.inserted -> original = row.2 :=
    fun original known =>
      congrArg Prod.snd (List.inj_on_of_nodup_map balanced.distinct known inserted rfl)
  have settled := balanced.accounts.settled_iff row.1
  by_cases present : row.1 ∈ core.queue.pendingMessages.ids
  · refine Or.inl ⟨?_, List.filter_eq_nil_iff.mpr ?_⟩
    · rcases List.mem_map.mp present with ⟨stored, member, same⟩
      rcases balanced.stored stored member with ⟨original, known, agree⟩
      rw [same] at known
      refine ⟨stored.2, ?_, ?_⟩
      · rw [← same]
        exact member
      · rw [agree, unique original known]
    · intro entry member
      rw [decide_eq_true_eq]
      intro same
      exact (settled.mp (same ▸ List.mem_map_of_mem member)).2 present
  · refine Or.inr ⟨present, ?_⟩
    rcases List.mem_map.mp (settled.mpr ⟨List.mem_map_of_mem inserted, present⟩) with
      ⟨entry, member, same⟩
    rcases balanced.justified entry member with ⟨original, known, justified⟩
    rw [same] at known justified
    rw [unique original known] at justified
    refine ⟨entry.2, AutoTable.filter_key_eq_singleton balanced.accounts.once ?_, justified⟩
    rw [← same]
    exact member

/-- No message is lost.  After any interleaving of enqueues, steps of both
pumps with all their failures, and restarts, every row ever inserted is still
pending or left for exactly one of the four reasons, and every pending row is
one that was inserted.  When a pump is about to remove a row it delivered and
the row was superseded in flight, the removal deletes nothing. -/
theorem no_message_lost (settings : ReplaySettings) (maxSize sequence : Nat)
    (actions : List CoreAction) :
    let state := (ledgerMachine settings).run (Core.initial maxSize sequence, {}) actions
    (forall row, row ∈ state.2.inserted -> Conserved maxSize state.1 state.2 row) ∧
      (forall row, row ∈ state.1.queue.pendingMessages.rows ->
        exists original, (row.1, original) ∈ state.2.inserted ∧ frozen row.2 = frozen original) ∧
      (forall side visit message newer after,
        (state.1.pump side).phase = .removing visit message ->
        (message.id, Fate.superseded newer) ∈ state.2.fates ->
        (coreMachine settings).step state.1 (.pump side .removeDelivered) = some after ->
        after.queue.pendingMessages.rows = state.1.queue.pendingMessages.rows) := by
  intro state
  have balanced : Balanced maxSize (state.1, state.2) :=
    balanced_run settings maxSize sequence actions
  refine ⟨fun row inserted => balanced.conserved inserted, balanced.stored, ?_⟩
  intro side visit message newer after place superseded moved
  have gone : message.id ∉ state.1.queue.pendingMessages.ids :=
    ((balanced.accounts.settled_iff message.id).mp (List.mem_map_of_mem superseded)).2
  cases (coreMachine_pump moved).1 with
  | removed visit' message' place' changed free =>
      rcases place' with ⟨act, _⟩ | ⟨_, there⟩
      · cases act
      · rw [place] at there
        cases there
        rw [changed]
        exact remove_of_not_mem state.1.queue gone
  | quiet kept unchanged free => rw [unchanged]
  | peeked visit' message' act => cases act
  | foundExpired visit' message' now unchanged act => cases act
  | passedOn visit' message' kept => cases kept
  | confirmed visit' message' unchanged act => cases act
  | demoted target rest act => cases act

end Pump
end PetlibroRelay
