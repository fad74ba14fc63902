import Mathlib.Data.Rat.Floor
import PetlibroRelay.Foundations.AutoTable
import PetlibroRelay.Protocol.Topics

namespace PetlibroRelay
namespace Queue

open Foundations

/-!
# The durable message queue

One table `pending_messages` holds the rows of every device and of both relay
directions.  Each method of the queue runs under one lock and is therefore one
atomic operation here.  The statements it executes are written in the order of
the source: a coalescing delete, the insert, and the size limit, which counts
after the first two.

`NULL` columns are `none`.  A comparison with a `NULL` column selects nothing,
so a row whose device is unknown belongs to no partition, and a row without a
coalesce key is never superseded.  Failures of the database itself (a raised
`sqlite3.Error`) are not modelled.
-/

/-- One row of `pending_messages` without its primary key. -/
structure PendingMessage where
  deviceId : Option String
  productId : Option String
  direction : String
  topic : String
  payload : List UInt8
  qos : Nat
  coalesceKey : Option String
  maxAgeSeconds : Option Rat
  isLive : Bool
  createdAt : Rat
  deriving DecidableEq, Repr

/-- A single message pending delivery, as `peek_oldest` reports it. -/
structure QueuedMessage where
  id : Nat
  topic : String
  payload : List UInt8
  qos : Nat
  createdAt : Rat
  maxAgeSeconds : Option Rat
  isLive : Bool
  deriving DecidableEq, Repr

/-- The queue owns its table and the cap of every partition. -/
structure MessageQueue where
  maxSizePerDirection : Nat
  pendingMessages : AutoTable PendingMessage

/-- The arguments of one `enqueue` call, with the source's defaults. -/
structure EnqueueCall where
  deviceId : String
  direction : String
  topic : String
  payload : List UInt8
  qos : Nat
  coalesceKey : Option String := none
  productId : String := Protocol.PRODUCT_ID
  maxAgeSeconds : Option Rat := none
  isLive : Bool := false
  deriving DecidableEq, Repr

/-- The inserted row.  `created_at` defaults to the whole second in which the
database executes the insert. -/
def EnqueueCall.row (call : EnqueueCall) (now : Rat) : PendingMessage where
  deviceId := some call.deviceId
  productId := some call.productId
  direction := call.direction
  topic := call.topic
  payload := call.payload
  qos := call.qos
  coalesceKey := call.coalesceKey
  maxAgeSeconds := call.maxAgeSeconds
  isLive := call.isLive
  createdAt := ⌊now⌋

/-- The row as the pump sees it. -/
def queuedMessage (row : Nat × PendingMessage) : QueuedMessage where
  id := row.1
  topic := row.2.topic
  payload := row.2.payload
  qos := row.2.qos
  createdAt := row.2.createdAt
  maxAgeSeconds := row.2.maxAgeSeconds
  isLive := row.2.isLive

/-- `device_id = ? AND direction = ?`. -/
def inPartition (deviceId direction : String) (row : Nat × PendingMessage) : Bool :=
  decide (row.2.deviceId = some deviceId) && decide (row.2.direction = direction)

namespace MessageQueue

/-- An opened queue without rows.  The sequence survives in the database even
when all rows are gone, so it need not be zero. -/
def empty (maxSizePerDirection sequence : Nat) : MessageQueue where
  maxSizePerDirection := maxSizePerDirection
  pendingMessages := AutoTable.empty sequence

/-- One device's direction, read in key order. -/
def partition (queue : MessageQueue) (deviceId direction : String) :
    List (Nat × PendingMessage) :=
  AutoTable.orderById (queue.pendingMessages.select (inPartition deviceId direction))

/-- How many messages are pending for one device and direction. -/
def count (queue : MessageQueue) (deviceId direction : String) : Nat :=
  (queue.pendingMessages.select (inPartition deviceId direction)).length

/-- Non-live messages awaiting controlled replay. -/
def backlogCount (queue : MessageQueue) (deviceId direction : String) : Nat :=
  (queue.pendingMessages.select
    (fun row => inPartition deviceId direction row && !row.2.isLive)).length

/-- The predicate of the coalescing delete. -/
def supersededBy (deviceId direction : String) (coalesceKey : Option String)
    (row : Nat × PendingMessage) : Bool :=
  match coalesceKey with
  | none => false
  | some key => inPartition deviceId direction row && decide (row.2.coalesceKey = some key)

/-- The first statement of `enqueue`.  It only runs when a key is given. -/
def coalesce (queue : MessageQueue) (call : EnqueueCall) : MessageQueue :=
  { queue with
    pendingMessages := queue.pendingMessages.deleteWhere
      (supersededBy call.deviceId call.direction call.coalesceKey) }

/-- The second statement of `enqueue`. -/
def insert (queue : MessageQueue) (call : EnqueueCall) (now : Rat) : MessageQueue :=
  { queue with pendingMessages := queue.pendingMessages.insert (call.row now) }

/-- The keys the size limit removes: the oldest of one partition, as many as
it has beyond the cap. -/
def overflowIds (queue : MessageQueue) (deviceId direction : String) : List Nat :=
  ((AutoTable.orderById (queue.pendingMessages.select (inPartition deviceId direction))).take
    (queue.count deviceId direction - queue.maxSizePerDirection)).map Prod.fst

/-- Drop the oldest messages of one device's direction beyond the cap. -/
def enforceSizeLimitLocked (queue : MessageQueue) (deviceId direction : String) : MessageQueue :=
  if queue.maxSizePerDirection < queue.count deviceId direction then
    { queue with
      pendingMessages := queue.pendingMessages.deleteWhere
        (fun row => decide (row.1 ∈ queue.overflowIds deviceId direction)) }
  else queue

/-- Append a message to the tail of one device's directional queue.  The
second component is the number of older rows it superseded. -/
def enqueue (queue : MessageQueue) (call : EnqueueCall) (now : Rat) : MessageQueue × Nat :=
  let supersededCount := (queue.pendingMessages.select
    (supersededBy call.deviceId call.direction call.coalesceKey)).length
  (((queue.coalesce call).insert call now).enforceSizeLimitLocked call.deviceId call.direction,
    supersededCount)

/-- One device's oldest pending message, without removing it. -/
def peekOldest (queue : MessageQueue) (deviceId direction : String) (prioritizeLive : Bool) :
    Option QueuedMessage :=
  let selected := queue.pendingMessages.select (inPartition deviceId direction)
  let rows := if prioritizeLive then AutoTable.orderByFlagThenId PendingMessage.isLive selected
    else AutoTable.orderById selected
  rows.head?.map queuedMessage

/-- Remove a message once it has been delivered. -/
def remove (queue : MessageQueue) (messageId : Nat) : MessageQueue :=
  { queue with
    pendingMessages := queue.pendingMessages.deleteWhere (fun row => decide (row.1 = messageId)) }

/-- The rows `demote_live_messages` updates. -/
def isLiveIn (deviceId direction : String) (row : Nat × PendingMessage) : Bool :=
  inPartition deviceId direction row && row.2.isLive

/-- Turn unsent live rows into backlog after their destination disconnects. -/
def demoteLiveMessages (queue : MessageQueue) (deviceId direction : String) :
    MessageQueue × Nat :=
  ({ queue with
      pendingMessages := queue.pendingMessages.updateWhere (isLiveIn deviceId direction)
        (fun row => { row with isLive := false }) },
    (queue.pendingMessages.select (isLiveIn deviceId direction)).length)

end MessageQueue
end Queue
end PetlibroRelay
