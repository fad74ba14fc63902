import Mathlib.Data.List.Basic
import PetlibroRelay.Foundations.TopicFilters
import PetlibroRelay.Bridge.Isolation
import PetlibroRelay.Bridge.MessageOutcomes

namespace PetlibroRelay
namespace Bridge

open Foundations
open Protocol
open Queue
open Pump
open Shadow
open Responder
open Upstream

/-!
# The relay between two brokers

The local broker passes on to the relay what its session has subscribed to, the cloud
what the clients of the devices have subscribed to, and neither leaves out what the
relay published itself.  Locally the relay listens to topics that end in `post` and
publishes on topics that end in `sub`; towards the cloud it is the other way round.

A session of an earlier version may still hold a subscription that covers both
directions.  The relay then receives its own messages, and drops them.
-/

def ANY_DEVICE_POST_FILTER : String := "dl/+/+/device/+/post"

def UPSTREAM_SUBSCRIBE_CATEGORIES : List String :=
  ["service", "event", "ota", "ntp", "broadcast", "heart", "config", "system"]

/-- The topic ends in the level. -/
def EndsIn (level topic : String) : Prop := (segments topic).getLast? = some level

/-- A broker does not pass a topic on to a filter that ends in another level. -/
def EndsAlike (covers : String -> String -> Bool) : Prop :=
  forall filter topic level, level ≠ "+" -> level ≠ "#" -> EndsIn level filter ->
    covers filter topic = true -> EndsIn level topic

/-! ## The brokers -/

/-- A message that a broker holds for the relay. -/
structure Parcel where
  topic : String
  payload : List UInt8
  qos : Nat
  own : Bool
  deriving DecidableEq, Repr

/-- The relay, the subscriptions of its sessions, and what the brokers hold for them.
Beside that, the messages of others that were passed on to the relay, with the direction
they travel in, how many messages were queued or published as an answer in turn, and what
the pumps have published. -/
structure World where
  hub : Hub
  session : List String
  localHeld : List Parcel := []
  subscriptions : List (Nat × String) := []
  cloudHeld : List (Nat × Parcel) := []
  foreign : List (Side × Parcel) := []
  caused : Nat := 0
  sent : List (Side × QueuedMessage) := []

inductive WorldAction where
  | connectLocal
  | connectUpstream (object : Nat)
  | publishLocal (topic : String) (payload : List UInt8) (qos : Nat)
  | publishCloud (topic : String) (payload : List UInt8) (qos : Nat)
  | publishSoundSwitch (deviceId productId : String) (payload : List UInt8)
  | receiveLocal
  | receiveCloud (index object : Nat) (suppressed : Bool) (now : Rat)
  | loseLocal (index : Nat)
  | loseCloud (index : Nat)
  | hub (action : HubAction)

/-- A message reaches the hub only from a broker. -/
def HubAction.isReceipt : HubAction -> Bool
  | .receive _ _ _ => true
  | .cloudMessage _ _ _ _ _ => true
  | _ => false

namespace World

def start (maxSizePerDirection : Nat) (database : Database) (session : List String) : World where
  hub := .start maxSizePerDirection database
  session := session

/-- What `_on_local_connect` asks of the broker: give up the old subscriptions of the bridged
devices, and subscribe. -/
def onLocalConnect (world : World) : World :=
  let retired := (world.hub.devices.listDevices BridgedContext.deviceId).filterMap fun object =>
    world.hub.devices.objects[object]?.map fun context =>
      topicPrefix context.deviceId context.productId ++ "/#"
  { world with
    session := (world.session.filter (fun filter => !decide (filter ∈ retired))).erase
      ANY_DEVICE_POST_FILTER ++ [ANY_DEVICE_POST_FILTER] }

/-- What `_on_upstream_connect` asks of the cloud. -/
def onUpstreamConnect (world : World) (context : BridgedContext) (client : Nat) : World :=
  { world with
    subscriptions := world.subscriptions ++ UPSTREAM_SUBSCRIBE_CATEGORIES.map fun category =>
      (client, subTopic context.deviceId category context.productId) }

/-- The queue calls and answers an outcome leads to. -/
def effects (outcome : LocalOutcome) : Nat :=
  outcome.rows.length + outcome.replies.length

section Brokers

variable (covers : String -> String -> Bool)

/-- A message at the local broker, held once for each subscription that covers it. -/
def deliverLocal (world : World) (parcel : Parcel) : World :=
  let copies := (world.session.filter (fun filter => covers filter parcel.topic)).map
    fun _ => parcel
  { world with
    localHeld := world.localHeld ++ copies
    foreign := world.foreign ++
      if parcel.own then [] else copies.map (fun copy => (.localToUpstream, copy)) }

/-- A message at the cloud, held for each client whose subscription covers it. -/
def deliverCloud (world : World) (parcel : Parcel) : World :=
  let copies := (world.subscriptions.filter (fun held => covers held.2 parcel.topic)).map
    fun held => (held.1, parcel)
  { world with
    cloudHeld := world.cloudHeld ++ copies
    foreign := world.foreign ++
      if parcel.own then [] else copies.map (fun copy => (.upstreamToLocal, copy.2)) }

/-- A publish call of a pump. -/
def publish (world : World) (message : QueuedMessage) : Side -> World
  | .localToUpstream =>
      world.deliverCloud covers ⟨message.topic, message.payload, message.qos, true⟩
  | .upstreamToLocal =>
      world.deliverLocal covers ⟨message.topic, message.payload, message.qos, true⟩

/-- The answer to a message, published on the local broker. -/
def answer (dumps : Dict String Json -> List UInt8) (world : World) (outcome : LocalOutcome) :
    World :=
  match outcome with
  | .answered topic payload => world.deliverLocal covers ⟨topic, dumps payload, 0, true⟩
  | _ => world

/-- The world after a step of the hub, with what the step publishes. -/
def afterHub (loads : Loads) (dumps : Dict String Json -> List UInt8) (world : World) (hub : Hub) :
    HubAction -> World
  | .handle thread bridge later _ =>
      answer covers dumps
        { world with
          hub := hub
          caused := world.caused + effects (Hub.outcome loads thread bridge later) }
        (Hub.outcome loads thread bridge later)
  | .pump side (.publish _) =>
      match (world.hub.core.pump side).phase with
      | .publishing _ message =>
          publish covers { world with hub := hub, sent := world.sent ++ [(side, message)] }
            message side
      | _ => { world with hub := hub }
  | _ => { world with hub := hub }

/-- The relay and its surroundings.  The local broker keeps the order of messages, each client
is served by a thread of its own, and either broker may lose a message. -/
def machine (settings : ReplaySettings) (loads : Loads)
    (dumps : Dict String Json -> List UInt8) : Machine World WorldAction where
  step world action :=
    match action with
    | .connectLocal => some world.onLocalConnect
    | .connectUpstream object =>
        world.hub.devices.objects[object]?.bind fun context =>
          context.upstreamClient.map fun client => world.onUpstreamConnect context client
    | .publishLocal topic payload qos =>
        some (world.deliverLocal covers ⟨topic, payload, qos, false⟩)
    | .publishCloud topic payload qos =>
        some (world.deliverCloud covers ⟨topic, payload, qos, false⟩)
    | .publishSoundSwitch deviceId productId payload =>
        some (world.deliverLocal covers ⟨subTopic deviceId "service" productId, payload, 0, true⟩)
    | .receiveLocal =>
        match world.localHeld with
        | [] => none
        | parcel :: rest =>
            match hubStep settings loads world.hub
              (.receive parcel.topic parcel.payload parcel.qos) with
            | none => some { world with localHeld := rest }
            | some hub => some { world with hub := hub, localHeld := rest }
    | .receiveCloud index object suppressed now =>
        match world.cloudHeld[index]?, world.hub.devices.objects[object]? with
        | some (client, parcel), some context =>
            -- Callbacks of a client that was replaced do nothing.
            if context.upstreamClient ≠ some client ∨ suppressed = true then
              some { world with cloudHeld := world.cloudHeld.eraseIdx index }
            else
              (hubStep settings loads world.hub
                (.cloudMessage object parcel.topic parcel.payload parcel.qos now)).map
                  fun hub => { world with
                    hub := hub
                    cloudHeld := world.cloudHeld.eraseIdx index
                    caused := world.caused + 1 }
        | _, _ => none
    | .loseLocal index => some { world with localHeld := world.localHeld.eraseIdx index }
    | .loseCloud index => some { world with cloudHeld := world.cloudHeld.eraseIdx index }
    | .hub action =>
        if action.isReceipt then none
        else (hubStep settings loads world.hub action).map fun hub =>
          world.afterHub covers loads dumps hub action

end Brokers
end World

/-! ## Where rows come from -/

/-- The direction of the rows a side delivers. -/
def rowDirection : Side -> String
  | .localToUpstream => LOCAL_TO_UPSTREAM
  | .upstreamToLocal => UPSTREAM_TO_LOCAL

/-- Every row and every message a pump holds comes from a source of its direction. -/
structure Sourced (source : Side -> String -> List UInt8 -> Nat -> Prop) (core : Core) :
    Prop where
  rows : forall side row, row ∈ core.queue.pendingMessages.rows ->
    row.2.direction = rowDirection side -> source side row.2.topic row.2.payload row.2.qos
  held : forall side message, (core.pump side).phase.message? = some message ->
    source side message.topic message.payload message.qos

section Sources

variable {source : Side -> String -> List UInt8 -> Nat -> Prop} {core : Core}

theorem Sourced.mono (sourced : Sourced source core)
    {larger : Side -> String -> List UInt8 -> Nat -> Prop}
    (grows : forall side topic payload qos, source side topic payload qos ->
      larger side topic payload qos) : Sourced larger core where
  rows := fun side row member direction => grows _ _ _ _ (sourced.rows side row member direction)
  held := fun side message holds => grows _ _ _ _ (sourced.held side message holds)

theorem rowDirection_inj {first second : Side}
    (same : rowDirection first = rowDirection second) : first = second := by
  cases first with
  | localToUpstream =>
      cases second with
      | localToUpstream => rfl
      | upstreamToLocal => exact absurd same (by decide)
  | upstreamToLocal =>
      cases second with
      | localToUpstream => exact absurd same (by decide)
      | upstreamToLocal => rfl

theorem Sourced.enqueue (sourced : Sourced source core) {side : Side} {call : EnqueueCall}
    (direction : call.direction = rowDirection side)
    (from_source : source side call.topic call.payload call.qos) (now : Rat) :
    Sourced source { core with queue := (core.queue.enqueue call now).1 } where
  rows := by
    intro other row member own
    rcases core.queue.mem_rows_enqueue call now member with old | new
    · exact sourced.rows other row old own
    · subst new
      have same : side = other := rowDirection_inj (direction.symm.trans own)
      subst same
      exact from_source
  held := by
    intro other message holds
    rw [Core.pump_with_queue] at holds
    exact sourced.held other message holds

theorem direction_pumpConfig (settings : ReplaySettings) (side : Side) :
    (settings.pumpConfig side).direction = rowDirection side := by
  cases side with
  | localToUpstream => rfl
  | upstreamToLocal => rfl

theorem Sourced.pump (sourced : Sourced source core) {settings : ReplaySettings} {after : Core}
    {side : Side} {taken : PumpStep}
    (stepped : (coreMachine settings).step core (.pump side taken) = some after) :
    Sourced source after := by
  obtain ⟨effect, still⟩ := coreMachine_pump stepped
  refine ⟨?_, ?_⟩
  · intro other row member direction
    rcases effect.later.rows row member with ⟨old, oldMember, same, -⟩ | new
    · rw [same] at direction ⊢
      exact sourced.rows other old oldMember direction
    · have bound := after.queue.pendingMessages.bounded row member
      rw [effect.sequence_eq] at bound
      omega
  · intro other message holds
    by_cases own : other = side
    · subst own
      rcases effect.held holds with ⟨peekedFor, -, found⟩ | ⟨before, -⟩
      · obtain ⟨row, member, rfl⟩ := MessageQueue.row_of_peekOldest found
        obtain ⟨stored, -, direction⟩ := (core.queue.mem_partition_iff _ _ row).mp member
        rw [direction_pumpConfig] at direction
        exact sourced.rows other row stored direction
      · exact sourced.held other message before
    · rw [still other own] at holds
      exact sourced.held other message holds

/-- A new process on the same rows. -/
theorem Sourced.restart (sourced : Sourced source core) :
    Sourced source { queue := core.queue } where
  rows := sourced.rows
  held := by
    intro side message holds
    cases side with
    | localToUpstream => cases holds
    | upstreamToLocal => cases holds

end Sources

/-! ## Directions -/

/-- The last level of the topics that travel in a direction. -/
def lastLevel : Side -> String
  | .localToUpstream => POST_SUFFIX
  | .upstreamToLocal => SUB_SUFFIX

theorem endsIn_append (topic level : String) (single : segments level = [level]) :
    EndsIn level (topic ++ "/" ++ level) := by
  rw [EndsIn, segments_append, single, List.getLast?_append, List.getLast?_singleton,
    Option.some_or]

theorem endsIn_subTopic (deviceId category productId : String) :
    EndsIn SUB_SUFFIX (subTopic deviceId category productId) :=
  endsIn_append _ SUB_SUFFIX (by decide +kernel)

theorem endsIn_ANY_DEVICE_POST_FILTER : EndsIn POST_SUFFIX ANY_DEVICE_POST_FILTER := by
  rw [EndsIn]
  decide +kernel

/-- What the bridge takes up ends in the level of device-to-cloud traffic. -/
theorem endsIn_of_route {hub : Hub} {topic : String} {context : BridgedContext}
    (routed : hub.route topic = some context) : EndsIn POST_SUFFIX topic := by
  rw [Hub.route] at routed
  split at routed
  · cases routed
  · rename_i address parsed
    split at routed
    · rename_i post
      have direction : address.direction = POST_SUFFIX := of_decide_eq_true post
      rw [EndsIn, (parseTopic_eq_some_iff.mp parsed).1, direction]
      rfl
    · cases routed

theorem route_of_endsIn_sub {topic : String} (sub : EndsIn SUB_SUFFIX topic) (hub : Hub) :
    hub.route topic = none := by
  cases routed : hub.route topic with
  | none => rfl
  | some context =>
      have post := endsIn_of_route routed
      rw [EndsIn] at post sub
      rw [post, Option.some_inj] at sub
      exact absurd sub (by decide)

theorem endsIn_of_decided {responder : LocalResponder} {settings : LocalResponderSettings}
    {loads : Loads} {shadow : StateShadow} {moment : Moment} {deviceId topic replyTopic : String}
    {payload : List UInt8} {upstream : UpstreamState} {reply : Dict String Json}
    {handled : String}
    (chosen : (responder.decide settings loads shadow moment deviceId topic payload upstream).1 =
      .respondLocal replyTopic reply handled) : EndsIn SUB_SUFFIX replyTopic := by
  rw [LocalResponder.decide, Faults.archives_none, if_pos rfl] at chosen
  dsimp only at chosen
  split at chosen
  · rename_i command body read
    split at chosen
    · have found : LocalResponder.AnswerCase responder settings moment deviceId
          (((parseTopic topic).map TopicAddress.productId).getD PRODUCT_ID) command body upstream
          (.respondLocal replyTopic reply handled) := by
        rw [← chosen]
        exact LocalResponder.answer_cases _ _ _ _ _ _ _ _ _
      cases found with
      | replied category msgId reply known may => exact endsIn_subTopic _ _ _
    · cases chosen
  · cases chosen

theorem endsIn_of_answered {loads : Loads} {thread : LocalThread} {bridge : MqttBridge}
    {later : LaterReads} {topic : String} {payload : Dict String Json}
    (found : Hub.outcome loads thread bridge later = .answered topic payload) :
    EndsIn SUB_SUFFIX topic := by
  have queued : enqueue loads later thread.deviceId thread.productId thread.topic thread.payload
      thread.qos ≠ .answered topic payload := by
    rw [enqueue_none]
    split
    · rintro ⟨⟩
    · rintro ⟨⟩
  rw [Hub.outcome] at found
  split at found
  · cases found
  · simp only [handleLocalMessage, Bool.false_eq_true, if_false] at found
    split at found
    · exact absurd found queued
    · split at found
      · rename_i replyTopic reply handled chosen
        cases found
        exact endsIn_of_decided chosen
      · cases found
      · cases found
      · exact absurd found queued

/-! ## What every step keeps -/

/-- The topic travels in the direction, and the message is a stored one or one of others. -/
def Traced (stored : Side -> String -> List UInt8 -> Nat -> Prop) (foreign : List (Side × Parcel))
    (side : Side) (topic : String) (payload : List UInt8) (qos : Nat) : Prop :=
  EndsIn (lastLevel side) topic ∧
    (stored side topic payload qos ∨
      exists parcel, (side, parcel) ∈ foreign ∧ parcel.own = false ∧ parcel.topic = topic ∧
        parcel.payload = payload ∧ parcel.qos = qos)

/-- The two directions are kept apart.  Where the session was clean at the start, the local
broker holds nothing that the relay has published. -/
structure Directed (stored : Side -> String -> List UInt8 -> Nat -> Prop) (clean : Prop)
    (world : World) : Prop where
  core : Sourced (Traced stored world.foreign) world.hub.core
  handling : forall thread, thread ∈ world.hub.handling ->
    Traced stored world.foreign .localToUpstream thread.topic thread.payload thread.qos
  session : clean -> forall filter, filter ∈ world.session -> EndsIn POST_SUFFIX filter
  localOwn : forall parcel, parcel ∈ world.localHeld -> parcel.own = true ->
    EndsIn SUB_SUFFIX parcel.topic ∧ ¬ clean
  localForeign : forall parcel, parcel ∈ world.localHeld -> parcel.own = false ->
    (Side.localToUpstream, parcel) ∈ world.foreign
  subscriptions : forall held, held ∈ world.subscriptions -> EndsIn SUB_SUFFIX held.2
  cloud : forall entry, entry ∈ world.cloudHeld -> entry.2.own = false ∧
    EndsIn SUB_SUFFIX entry.2.topic ∧ (Side.upstreamToLocal, entry.2) ∈ world.foreign
  sent : forall entry, entry ∈ world.sent ->
    Traced stored world.foreign entry.1 entry.2.topic entry.2.payload entry.2.qos
  counted : world.caused + world.hub.handling.length +
    world.localHeld.countP (fun parcel => !parcel.own) + world.cloudHeld.length ≤
      world.foreign.length

section Steps

variable {stored : Side -> String -> List UInt8 -> Nat -> Prop} {clean : Prop} {world : World}

theorem Traced.mono {foreign : List (Side × Parcel)} {side : Side} {topic : String}
    {payload : List UInt8} {qos : Nat} (traced : Traced stored foreign side topic payload qos)
    (more : List (Side × Parcel)) : Traced stored (foreign ++ more) side topic payload qos := by
  refine ⟨traced.1, traced.2.imp_right ?_⟩
  rintro ⟨parcel, member, facts⟩
  exact ⟨parcel, List.mem_append_left _ member, facts⟩

theorem not_endsIn_both {topic : String} (post : EndsIn POST_SUFFIX topic)
    (sub : EndsIn SUB_SUFFIX topic) : False := by
  rw [EndsIn] at post sub
  rw [post, Option.some_inj] at sub
  exact absurd sub (by decide)

theorem countP_copies {copies : List Parcel} {parcel : Parcel}
    (same : forall copy, copy ∈ copies -> copy = parcel) :
    copies.countP (fun parcel => !parcel.own) = if parcel.own then 0 else copies.length := by
  cases own : parcel.own with
  | true =>
      rw [if_pos rfl, List.countP_eq_zero]
      intro copy member
      rw [same copy member, own]
      exact Bool.false_ne_true
  | false =>
      rw [if_neg Bool.false_ne_true, List.countP_eq_length]
      intro copy member
      rw [same copy member, own]
      rfl

theorem Directed.local (directed : Directed stored clean world) {covers : String -> String -> Bool}
    (alike : EndsAlike covers) {parcel : Parcel}
    (sub : parcel.own = true -> EndsIn SUB_SUFFIX parcel.topic) :
    Directed stored clean (world.deliverLocal covers parcel) := by
  have copied : forall copy, copy ∈ (world.session.filter
      (fun filter => covers filter parcel.topic)).map (fun _ => parcel) ->
      copy = parcel ∧ (clean -> EndsIn POST_SUFFIX parcel.topic) := by
    intro copy member
    obtain ⟨filter, selected, rfl⟩ := List.mem_map.mp member
    obtain ⟨subscribed, covered⟩ := List.mem_filter.mp selected
    exact ⟨rfl, fun isClean => alike filter parcel.topic POST_SUFFIX (by decide) (by decide)
      (directed.session isClean filter subscribed) covered⟩
  have counted := directed.counted
  refine
    { core := directed.core.mono fun _ _ _ _ traced => traced.mono _
      handling := fun thread called => (directed.handling thread called).mono _
      session := directed.session
      localOwn := ?_
      localForeign := ?_
      subscriptions := directed.subscriptions
      cloud := fun entry held => ?_
      sent := fun entry published => (directed.sent entry published).mono _
      counted := ?_ }
  · intro held member own
    rcases List.mem_append.mp member with old | new
    · exact directed.localOwn held old own
    · obtain ⟨rfl, post⟩ := copied held new
      exact ⟨sub own, fun isClean => not_endsIn_both (post isClean) (sub own)⟩
  · intro held member other
    rcases List.mem_append.mp member with old | new
    · exact List.mem_append_left _ (directed.localForeign held old other)
    · obtain ⟨rfl, -⟩ := copied held new
      refine List.mem_append_right _ ?_
      rw [other, if_neg Bool.false_ne_true]
      exact List.mem_map.mpr ⟨held, new, rfl⟩
  · obtain ⟨other, ends, member⟩ := directed.cloud entry held
    exact ⟨other, ends, List.mem_append_left _ member⟩
  · dsimp only [World.deliverLocal]
    rw [List.countP_append, countP_copies fun copy member => (copied copy member).1,
      List.length_append]
    split
    · rw [List.length_nil]
      omega
    · simp only [List.length_map]
      omega

theorem Directed.cloudDelivery (directed : Directed stored clean world)
    {covers : String -> String -> Bool} (alike : EndsAlike covers) {parcel : Parcel}
    (post : parcel.own = true -> EndsIn POST_SUFFIX parcel.topic) :
    Directed stored clean (world.deliverCloud covers parcel) := by
  have copied : forall copy, copy ∈ (world.subscriptions.filter
      (fun held => covers held.2 parcel.topic)).map (fun held => (held.1, parcel)) ->
      copy.2 = parcel ∧ parcel.own = false ∧ EndsIn SUB_SUFFIX parcel.topic := by
    intro copy member
    obtain ⟨held, selected, rfl⟩ := List.mem_map.mp member
    obtain ⟨subscribed, covered⟩ := List.mem_filter.mp selected
    have sub := alike held.2 parcel.topic SUB_SUFFIX (by decide) (by decide)
      (directed.subscriptions held subscribed) covered
    refine ⟨rfl, ?_, sub⟩
    by_contra own
    exact not_endsIn_both (post (Bool.not_eq_false _ ▸ own)) sub
  have counted := directed.counted
  refine
    { core := directed.core.mono fun _ _ _ _ traced => traced.mono _
      handling := fun thread called => (directed.handling thread called).mono _
      session := directed.session
      localOwn := directed.localOwn
      localForeign := fun held member other =>
        List.mem_append_left _ (directed.localForeign held member other)
      subscriptions := directed.subscriptions
      cloud := ?_
      sent := fun entry published => (directed.sent entry published).mono _
      counted := ?_ }
  · intro entry member
    rcases List.mem_append.mp member with old | new
    · obtain ⟨other, ends, known⟩ := directed.cloud entry old
      exact ⟨other, ends, List.mem_append_left _ known⟩
    · obtain ⟨same, other, sub⟩ := copied entry new
      rw [same]
      refine ⟨other, sub, List.mem_append_right _ ?_⟩
      rw [other, if_neg Bool.false_ne_true]
      exact List.mem_map.mpr ⟨entry, new, by rw [same]⟩
  · dsimp only [World.deliverCloud]
    rw [List.length_append, List.length_append]
    cases other : parcel.own with
    | true =>
        have none : (world.subscriptions.filter
            (fun held => covers held.2 parcel.topic)).map (fun held => (held.1, parcel)) = [] := by
          rw [List.eq_nil_iff_forall_not_mem]
          intro copy member
          have foreign := (copied copy member).2.1
          rw [other] at foreign
          cases foreign
        rw [none, if_pos rfl, List.length_nil, List.length_nil]
        exact counted
    | false =>
        rw [if_neg Bool.false_ne_true]
        simp only [List.length_map]
        omega

/-- A hub with traced rows and calls, which has caused no more than it had open. -/
theorem Directed.withHub (directed : Directed stored clean world) {hub : Hub} {caused : Nat}
    (core : Sourced (Traced stored world.foreign) hub.core)
    (handling : forall thread, thread ∈ hub.handling ->
      Traced stored world.foreign .localToUpstream thread.topic thread.payload thread.qos)
    (fewer : caused + hub.handling.length ≤ world.caused + world.hub.handling.length) :
    Directed stored clean { world with hub := hub, caused := caused } := by
  have counted := directed.counted
  refine
    { core := core
      handling := handling
      session := directed.session
      localOwn := directed.localOwn
      localForeign := directed.localForeign
      subscriptions := directed.subscriptions
      cloud := directed.cloud
      sent := directed.sent
      counted := ?_ }
  dsimp only
  omega

theorem Directed.sameHub (directed : Directed stored clean world) {hub : Hub}
    (core : hub.core = world.hub.core) (handling : hub.handling = world.hub.handling) :
    Directed stored clean { world with hub := hub } := by
  refine directed.withHub ?_ ?_ ?_
  · rw [core]
    exact directed.core
  · rw [handling]
    exact directed.handling
  · rw [handling]

theorem outcome_call {loads : Loads} {thread : LocalThread} {bridge : MqttBridge}
    {later : LaterReads} {call : EnqueueCall}
    (found : Hub.outcome loads thread bridge later = .enqueued call) :
    call.direction = rowDirection .localToUpstream ∧ call.topic = thread.topic ∧
      call.payload = thread.payload ∧ call.qos = thread.qos := by
  have queued : enqueue loads later thread.deviceId thread.productId thread.topic thread.payload
      thread.qos = .enqueued call -> call.direction = rowDirection .localToUpstream ∧
        call.topic = thread.topic ∧ call.payload = thread.payload ∧ call.qos = thread.qos := by
    intro same
    rw [enqueue_none] at same
    split at same
    · cases same
      exact ⟨rfl, rfl, rfl, rfl⟩
    · cases same
  rw [Hub.outcome] at found
  split at found
  · cases found
  · simp only [handleLocalMessage, Bool.false_eq_true, if_false] at found
    split at found
    · exact queued found
    · split at found
      · cases found
      · cases found
      · cases found
      · exact queued found

theorem effects_le_one (outcome : LocalOutcome) : World.effects outcome ≤ 1 := by
  cases outcome with
  | answered topic payload => exact Nat.le_refl 1
  | enqueued call => exact Nat.le_refl 1
  | notDeviceTopic => exact Nat.zero_le 1
  | unknownDevice => exact Nat.zero_le 1
  | localOnly => exact Nat.zero_le 1
  | swallowed => exact Nat.zero_le 1
  | dropped => exact Nat.zero_le 1
  | raised => exact Nat.zero_le 1

/-- A call that is worked off causes one effect at most. -/
theorem Directed.handled (directed : Directed stored clean world) {settings : ReplaySettings}
    {loads : Loads} {thread : LocalThread} {bridge : MqttBridge} {later : LaterReads} {now : Rat}
    {hub : Hub}
    (moved : hubStep settings loads world.hub (.handle thread bridge later now) = some hub) :
    Directed stored clean
      { world with
        hub := hub
        caused := world.caused + World.effects (Hub.outcome loads thread bridge later) } := by
  rw [Bridge.hubStep] at moved
  split at moved
  · rename_i called
    cases moved
    refine directed.withHub ?_ ?_ ?_
    · dsimp only
      cases found : Hub.outcome loads thread bridge later with
      | enqueued call =>
          obtain ⟨direction, topic, payload, qos⟩ := outcome_call found
          refine directed.core.enqueue direction ?_ now
          rw [topic, payload, qos]
          exact directed.handling thread called
      | answered topic payload => exact directed.core
      | notDeviceTopic => exact directed.core
      | unknownDevice => exact directed.core
      | localOnly => exact directed.core
      | swallowed => exact directed.core
      | dropped => exact directed.core
      | raised => exact directed.core
    · exact fun other member => directed.handling other (List.mem_of_mem_erase member)
    · have few := effects_le_one (Hub.outcome loads thread bridge later)
      have present := List.length_pos_of_mem called
      dsimp only
      rw [List.length_erase_of_mem called]
      omega
  · cases moved

theorem Directed.answer (directed : Directed stored clean world)
    {covers : String -> String -> Bool} (alike : EndsAlike covers)
    (dumps : Dict String Json -> List UInt8) {outcome : LocalOutcome}
    (sub : forall topic payload, outcome = .answered topic payload -> EndsIn SUB_SUFFIX topic) :
    Directed stored clean (world.answer covers dumps outcome) := by
  cases outcome with
  | answered topic payload => exact directed.local alike fun _ => sub topic payload rfl
  | enqueued call => exact directed
  | notDeviceTopic => exact directed
  | unknownDevice => exact directed
  | localOnly => exact directed
  | swallowed => exact directed
  | dropped => exact directed
  | raised => exact directed

theorem Directed.publish (directed : Directed stored clean world)
    {covers : String -> String -> Bool} (alike : EndsAlike covers) {side : Side}
    {message : QueuedMessage} (ends : EndsIn (lastLevel side) message.topic) :
    Directed stored clean (world.publish covers message side) := by
  cases side with
  | localToUpstream => exact directed.cloudDelivery alike fun _ => ends
  | upstreamToLocal => exact directed.local alike fun _ => ends

theorem Directed.pumped (directed : Directed stored clean world)
    {covers : String -> String -> Bool} (alike : EndsAlike covers) {settings : ReplaySettings}
    {loads : Loads} {side : Side} {taken : PumpStep} {hub : Hub}
    (moved : hubStep settings loads world.hub (.pump side taken) = some hub) :
    Directed stored clean { world with hub := hub } ∧
      forall visit message, (world.hub.core.pump side).phase = .publishing visit message ->
        Directed stored clean
          (World.publish covers { world with hub := hub, sent := world.sent ++ [(side, message)] }
            message side) := by
  rw [Bridge.hubStep] at moved
  split at moved
  · rw [Option.map_eq_some_iff] at moved
    obtain ⟨core, stepped, rfl⟩ := moved
    have still : Directed stored clean { world with hub := { world.hub with core := core } } :=
      directed.withHub (directed.core.pump stepped) directed.handling (Nat.le_refl _)
    refine ⟨still, fun visit message publishing => ?_⟩
    have traced := directed.core.held side message (by rw [publishing]; rfl)
    have noted : Directed stored clean { world with
        hub := { world.hub with core := core }, sent := world.sent ++ [(side, message)] } :=
      { still with
        sent := by
          intro entry member
          rcases List.mem_append.mp member with old | new
          · exact directed.sent entry old
          · rw [List.mem_singleton.mp new]
            exact traced }
    exact noted.publish alike traced.1
  · cases moved

/-- The steps that concern the devices only. -/
theorem hubStep_devices {settings : ReplaySettings} {loads : Loads} {hub after : Hub}
    {action : HubAction} (moved : hubStep settings loads hub action = some after) :
    (after.core = hub.core ∧ after.handling = hub.handling) ∨ action.isReceipt = true ∨
      (exists thread bridge later now, action = .handle thread bridge later now) ∨
      (exists side taken, action = .pump side taken) ∨ action = .restart := by
  cases action with
  | receive topic payload qos => exact .inr (.inl rfl)
  | cloudMessage object topic payload qos now => exact .inr (.inl rfl)
  | handle thread bridge later now => exact .inr (.inr (.inl ⟨_, _, _, _, rfl⟩))
  | pump side taken => exact .inr (.inr (.inr (.inl ⟨_, _, rfl⟩)))
  | restart => exact .inr (.inr (.inr (.inr rfl)))
  | ensureDevice deviceId productId => cases moved; exact .inl ⟨rfl, rfl⟩
  | removeDevice deviceId => cases moved; exact .inl ⟨rfl, rfl⟩
  | stopManager => cases moved; exact .inl ⟨rfl, rfl⟩
  | stopUpstream object => cases moved; exact .inl ⟨rfl, rfl⟩
  | setReady object ready => cases moved; exact .inl ⟨rfl, rfl⟩
  | startUpstream object =>
      rw [hubStep, Option.bind_eq_some_iff] at moved
      obtain ⟨context, -, begun⟩ := moved
      split at begun
      · cases begun
      · cases begun
        exact .inl ⟨rfl, rfl⟩
  | listDevices =>
      rw [hubStep] at moved
      split at moved
      · cases moved
        exact .inl ⟨rfl, rfl⟩
      · cases moved
  | readClient =>
      rw [hubStep] at moved
      split at moved
      · rw [Option.map_eq_some_iff] at moved
        obtain ⟨context, -, rfl⟩ := moved
        exact .inl ⟨rfl, rfl⟩
      · cases moved
  | readReady =>
      rw [hubStep] at moved
      split at moved
      · rw [Option.map_eq_some_iff] at moved
        obtain ⟨context, -, rfl⟩ := moved
        exact .inl ⟨rfl, rfl⟩
      · cases moved

theorem Directed.hub (directed : Directed stored clean world)
    {covers : String -> String -> Bool} (alike : EndsAlike covers) {settings : ReplaySettings}
    {loads : Loads} {dumps : Dict String Json -> List UInt8} {action : HubAction} {hub : Hub}
    (moved : hubStep settings loads world.hub action = some hub)
    (inside : action.isReceipt = false) :
    Directed stored clean (world.afterHub covers loads dumps hub action) := by
  cases action with
  | handle thread bridge later now =>
      exact (directed.handled moved).answer alike dumps
        fun topic payload found => endsIn_of_answered found
  | pump side taken =>
      obtain ⟨still, published⟩ := directed.pumped alike moved
      cases taken with
      | publish outcome =>
          rw [World.afterHub]
          split
          · rename_i visit message publishing
            exact published visit message publishing
          · exact still
      | _ => exact still
  | restart =>
      cases moved
      refine directed.withHub directed.core.restart ?_ (Nat.le_add_right _ _)
      rintro thread ⟨⟩
  | _ =>
      rcases hubStep_devices moved with ⟨core, handling⟩ | receipt | ⟨_, _, _, _, impossible⟩ |
        ⟨_, _, impossible⟩ | impossible
      · exact directed.sameHub core handling
      · rw [receipt] at inside
        cases inside
      · cases impossible
      · cases impossible
      · cases impossible

/-! ## Steps of the world -/

theorem Directed.connectLocal (directed : Directed stored clean world) :
    Directed stored clean world.onLocalConnect where
  core := directed.core
  handling := directed.handling
  session := by
    intro isClean filter subscribed
    rcases List.mem_append.mp subscribed with old | new
    · exact directed.session isClean filter (List.mem_filter.mp (List.mem_of_mem_erase old)).1
    · rw [List.mem_singleton.mp new]
      exact endsIn_ANY_DEVICE_POST_FILTER
  localOwn := directed.localOwn
  localForeign := directed.localForeign
  subscriptions := directed.subscriptions
  cloud := directed.cloud
  sent := directed.sent
  counted := directed.counted

theorem Directed.connectUpstream (directed : Directed stored clean world)
    (context : BridgedContext) (client : Nat) :
    Directed stored clean (world.onUpstreamConnect context client) where
  core := directed.core
  handling := directed.handling
  session := directed.session
  localOwn := directed.localOwn
  localForeign := directed.localForeign
  subscriptions := by
    intro held subscribed
    rcases List.mem_append.mp subscribed with old | new
    · exact directed.subscriptions held old
    · obtain ⟨category, -, rfl⟩ := List.mem_map.mp new
      exact endsIn_subTopic _ _ _
  cloud := directed.cloud
  sent := directed.sent
  counted := directed.counted

/-- Fewer messages are held. -/
theorem Directed.fewer (directed : Directed stored clean world) {localHeld : List Parcel}
    {cloudHeld : List (Nat × Parcel)} (localLess : localHeld.Sublist world.localHeld)
    (cloudLess : cloudHeld.Sublist world.cloudHeld) :
    Directed stored clean { world with localHeld := localHeld, cloudHeld := cloudHeld } where
  core := directed.core
  handling := directed.handling
  session := directed.session
  localOwn := fun parcel held => directed.localOwn parcel (localLess.subset held)
  localForeign := fun parcel held => directed.localForeign parcel (localLess.subset held)
  subscriptions := directed.subscriptions
  cloud := fun entry held => directed.cloud entry (cloudLess.subset held)
  sent := directed.sent
  counted := by
    have counted := directed.counted
    have lessLocal := localLess.countP_le (p := fun parcel => !parcel.own)
    have lessCloud := cloudLess.length_le
    dsimp only
    omega

/-- Taking up a message of the local broker: one of its own is dropped, and one of others
becomes a call. -/
theorem Directed.receiveLocal (directed : Directed stored clean world)
    {settings : ReplaySettings} {loads : Loads} {parcel : Parcel} {rest : List Parcel} {hub : Hub}
    (holds : world.localHeld = parcel :: rest)
    (moved : hubStep settings loads world.hub
      (.receive parcel.topic parcel.payload parcel.qos) = some hub) :
    Directed stored clean { world with hub := hub, localHeld := rest } := by
  rw [hubStep, Option.map_eq_some_iff] at moved
  obtain ⟨context, routed, rfl⟩ := moved
  have post := endsIn_of_route routed
  have held : parcel ∈ world.localHeld := by rw [holds]; exact List.mem_cons_self
  have other : parcel.own = false := by
    by_contra own
    exact not_endsIn_both post (directed.localOwn parcel held (Bool.not_eq_false _ ▸ own)).1
  have less : rest.Sublist world.localHeld := by rw [holds]; exact List.sublist_cons_self _ _
  have still := directed.fewer less (List.Sublist.refl _)
  have counted := directed.counted
  rw [holds, List.countP_cons_of_pos (by rw [other]; rfl)] at counted
  refine
    { still with
      handling := ?_
      counted := ?_ }
  · intro thread called
    rcases List.mem_cons.mp called with rfl | old
    · exact ⟨post, .inr ⟨parcel, directed.localForeign parcel held other, other, rfl, rfl, rfl⟩⟩
    · exact directed.handling thread old
  · dsimp only
    rw [List.length_cons]
    omega

theorem Directed.receiveCloud (directed : Directed stored clean world)
    {settings : ReplaySettings} {loads : Loads} {index object client : Nat} {parcel : Parcel}
    {now : Rat} {hub : Hub} (holds : world.cloudHeld[index]? = some (client, parcel))
    (moved : hubStep settings loads world.hub
      (.cloudMessage object parcel.topic parcel.payload parcel.qos now) = some hub) :
    Directed stored clean
      { world with
        hub := hub, cloudHeld := world.cloudHeld.eraseIdx index, caused := world.caused + 1 } := by
  rw [hubStep, Option.map_eq_some_iff] at moved
  obtain ⟨context, -, rfl⟩ := moved
  obtain ⟨other, sub, known⟩ := directed.cloud _ (List.mem_of_getElem? holds)
  have inside := (List.getElem?_eq_some_iff.mp holds).1
  have still := directed.fewer (List.Sublist.refl _) (List.eraseIdx_sublist world.cloudHeld index)
  have traced : Traced stored world.foreign .upstreamToLocal parcel.topic parcel.payload
      parcel.qos := ⟨sub, .inr ⟨parcel, known, other, rfl, rfl, rfl⟩⟩
  have counted := directed.counted
  refine
    { still with
      core := directed.core.enqueue (show _ = rowDirection .upstreamToLocal from rfl) traced now
      counted := ?_ }
  dsimp only
  rw [List.length_eraseIdx_of_lt inside]
  omega

end Steps

section Runs

variable {stored : Side -> String -> List UInt8 -> Nat -> Prop} {clean : Prop}
  {covers : String -> String -> Bool} {settings : ReplaySettings} {loads : Loads}
  {dumps : Dict String Json -> List UInt8}

theorem Directed.step (alike : EndsAlike covers) {world after : World}
    (directed : Directed stored clean world) {action : WorldAction}
    (moved : (World.machine covers settings loads dumps).step world action = some after) :
    Directed stored clean after := by
  cases action with
  | connectLocal => cases moved; exact directed.connectLocal
  | connectUpstream object =>
      simp only [World.machine, Option.bind_eq_some_iff, Option.map_eq_some_iff] at moved
      obtain ⟨context, -, client, -, rfl⟩ := moved
      exact directed.connectUpstream context client
  | publishLocal topic payload qos => cases moved; exact directed.local alike (by rintro ⟨⟩)
  | publishCloud topic payload qos =>
      cases moved
      exact directed.cloudDelivery alike (by rintro ⟨⟩)
  | publishSoundSwitch deviceId productId payload =>
      cases moved
      exact directed.local alike fun _ => endsIn_subTopic _ _ _
  | receiveLocal =>
      simp only [World.machine] at moved
      split at moved
      · cases moved
      · rename_i parcel rest holds
        split at moved
        · cases moved
          refine directed.fewer ?_ (List.Sublist.refl _)
          rw [holds]
          exact List.sublist_cons_self _ _
        · rename_i hub taken
          cases moved
          exact directed.receiveLocal holds taken
  | receiveCloud index object suppressed now =>
      simp only [World.machine] at moved
      split at moved
      · rename_i client parcel context holds there
        split at moved
        · cases moved
          exact directed.fewer (List.Sublist.refl _) (List.eraseIdx_sublist _ _)
        · rw [Option.map_eq_some_iff] at moved
          obtain ⟨hub, taken, rfl⟩ := moved
          exact directed.receiveCloud holds taken
      · cases moved
  | loseLocal index =>
      cases moved
      exact directed.fewer (List.eraseIdx_sublist _ _) (List.Sublist.refl _)
  | loseCloud index =>
      cases moved
      exact directed.fewer (List.Sublist.refl _) (List.eraseIdx_sublist _ _)
  | hub action =>
      simp only [World.machine] at moved
      split at moved
      · cases moved
      · rename_i inside
        rw [Option.map_eq_some_iff] at moved
        obtain ⟨hub, taken, rfl⟩ := moved
        exact directed.hub alike taken (Bool.not_eq_true _ ▸ inside)

/-- The rows of the database, and the direction their topics belong to. -/
def storedRows (maxSize : Nat) (database : Database) (side : Side) (topic : String)
    (payload : List UInt8) (qos : Nat) : Prop :=
  exists row, row ∈ (Hub.start maxSize database).core.queue.pendingMessages.rows ∧
    row.2.direction = rowDirection side ∧ row.2.topic = topic ∧ row.2.payload = payload ∧
    row.2.qos = qos

/-- The rows that are there at the start travel in their direction. -/
def RowsDirected (maxSize : Nat) (database : Database) : Prop :=
  forall side row, row ∈ (Hub.start maxSize database).core.queue.pendingMessages.rows ->
    row.2.direction = rowDirection side -> EndsIn (lastLevel side) row.2.topic

theorem directed_start {maxSize : Nat} {database : Database}
    (rows : RowsDirected maxSize database) (session : List String) :
    Directed (storedRows maxSize database)
      (forall filter, filter ∈ session -> EndsIn POST_SUFFIX filter)
      (World.start maxSize database session) where
  core :=
    { rows := fun side row member direction =>
        ⟨rows side row member direction, .inl ⟨row, member, direction, rfl, rfl, rfl⟩⟩
      held := by
        intro side message holds
        cases side with
        | localToUpstream => cases holds
        | upstreamToLocal => cases holds }
  handling := by rintro thread ⟨⟩
  session := fun isClean => isClean
  localOwn := by rintro parcel ⟨⟩
  localForeign := by rintro parcel ⟨⟩
  subscriptions := by rintro held ⟨⟩
  cloud := by rintro entry ⟨⟩
  sent := by rintro entry ⟨⟩
  counted := Nat.le_refl 0

theorem directed_run (alike : EndsAlike covers) {maxSize : Nat} {database : Database}
    (rows : RowsDirected maxSize database) (session : List String) (actions : List WorldAction) :
    Directed (storedRows maxSize database)
      (forall filter, filter ∈ session -> EndsIn POST_SUFFIX filter)
      ((World.machine covers settings loads dumps).run
        (World.start maxSize database session) actions) :=
  Machine.run_invariant _ (Directed _ _) (fun _ _ _ directed moved => directed.step alike moved) _
    actions (directed_start rows session)

end Runs

/-! ## A broker -/

/-- The levels of a filter as a subscriber writes it. -/
def filterLevel (level : String) : TopicFilters.Level String :=
  if level = "+" then .anyOne else if level = "#" then .anyRest else .exactly level

/-- What brokers pass on: open levels at the start do not cover the topics of the broker
itself. -/
def brokerCovers (filter topic : String) : Bool :=
  TopicFilters.covers ((segments filter).map filterLevel) (segments topic) &&
    !(decide ((segments filter).head? ∈ [some "+", some "#"]) && topic.toList.head? == some '$')

theorem endsAlike_brokerCovers : EndsAlike brokerCovers := by
  intro filter topic level notOne notRest ends covered
  rw [brokerCovers, Bool.and_eq_true] at covered
  refine TopicFilters.getLast?_of_covers covered.1 ?_
  rw [EndsIn] at ends
  rw [List.getLast?_map, ends, Option.map_some, filterLevel, if_neg notOne, if_neg notRest]

/-! ## Results -/

/-- A database without rows. -/
def freshDatabase : Database := ⟨Columns.current, .empty 0, by rintro row ⟨⟩⟩

theorem rowsDirected_freshDatabase (maxSize : Nat) : RowsDirected maxSize freshDatabase := by
  rintro side row ⟨⟩

/-- A command of the cloud is published to a feeder, while the session still has the
subscription of an earlier version. -/
def oldSubscription : World :=
  (World.machine brokerCovers .default (fun _ => none) (fun _ => [])).run
    (.start 10 freshDatabase ["dl/PLAF203/AF1/#"])
    [.hub (.ensureDevice "AF1" "PLAF203"), .hub (.startUpstream 0), .connectUpstream 0,
      .publishCloud "dl/PLAF203/AF1/device/service/sub" [123, 125] 0, .receiveCloud 0 0 false 0,
      .hub (.pump .upstreamToLocal (.beginPass [⟨"AF1", 0, true⟩])),
      .hub (.pump .upstreamToLocal (.checkConnected true)), .hub (.pump .upstreamToLocal .peek),
      .hub (.pump .upstreamToLocal (.checkExpiry 0)),
      .hub (.pump .upstreamToLocal (.publish .confirmed))]

section Results

variable (covers : String -> String -> Bool) (settings : ReplaySettings) (loads : Loads)
  (dumps : Dict String Json -> List UInt8)

/-- The relay does not feed itself, whatever its session with the local broker still holds:
the cloud never passes on to it what it published, the local broker does so only for an old
subscription, and then the message is taken up for no device.  All that is ever queued or
answered goes back to a message of others, one for each that was passed on to the relay. -/
theorem relay_never_feeds_itself (alike : EndsAlike covers) (maxSize : Nat) (database : Database)
    (rows : RowsDirected maxSize database) (session : List String) (actions : List WorldAction) :
    let world := (World.machine covers settings loads dumps).run
      (World.start maxSize database session) actions
    (forall entry, entry ∈ world.cloudHeld -> entry.2.own = false) ∧
    (forall parcel, parcel ∈ world.localHeld -> parcel.own = true ->
      (forall hub : Hub, hub.route parcel.topic = none) ∧
      ¬ forall filter, filter ∈ session -> EndsIn POST_SUFFIX filter) ∧
    world.caused ≤ world.foreign.length := by
  intro world
  have directed : Directed (storedRows maxSize database)
      (forall filter, filter ∈ session -> EndsIn POST_SUFFIX filter) world :=
    directed_run alike rows session actions
  refine ⟨fun entry held => (directed.cloud entry held).1, fun parcel held own => ?_, ?_⟩
  · obtain ⟨sub, soiled⟩ := directed.localOwn parcel held own
    exact ⟨route_of_endsIn_sub sub, soiled⟩
  · have counted := directed.counted
    omega

/-- The relay gets its own message back, and it leads to nothing. -/
theorem own_message_of_old_subscription :
    (forall entry, entry ∈ oldSubscription.cloudHeld -> entry.2.own = false) ∧
    (forall parcel, parcel ∈ oldSubscription.localHeld -> parcel.own = true ->
      (forall hub : Hub, hub.route parcel.topic = none) ∧
      ¬ forall filter, filter ∈ ["dl/PLAF203/AF1/#"] -> EndsIn POST_SUFFIX filter) ∧
    oldSubscription.caused ≤ oldSubscription.foreign.length :=
  relay_never_feeds_itself brokerCovers .default (fun _ => none) (fun _ => [])
    endsAlike_brokerCovers 10 freshDatabase (rowsDirected_freshDatabase 10) _ _

/-- What a pump publishes has the topic, the bytes and the quality of service of a message
that the relay received in the same direction from others, or of a row it was started with. -/
theorem published_was_received (alike : EndsAlike covers) (maxSize : Nat) (database : Database)
    (rows : RowsDirected maxSize database) (session : List String) (actions : List WorldAction) :
    let world := (World.machine covers settings loads dumps).run
      (World.start maxSize database session) actions
    forall side message, (side, message) ∈ world.sent ->
      EndsIn (lastLevel side) message.topic ∧
      (storedRows maxSize database side message.topic message.payload message.qos ∨
        exists parcel, (side, parcel) ∈ world.foreign ∧ parcel.own = false ∧
          parcel.topic = message.topic ∧ parcel.payload = message.payload ∧
          parcel.qos = message.qos) := by
  intro world side message published
  exact (directed_run alike rows session actions).sent (side, message) published

theorem published_command_was_received :
    storedRows 10 freshDatabase .upstreamToLocal "dl/PLAF203/AF1/device/service/sub" [123, 125] 0 ∨
      exists parcel, (Side.upstreamToLocal, parcel) ∈ oldSubscription.foreign ∧
        parcel.own = false ∧ parcel.topic = "dl/PLAF203/AF1/device/service/sub" ∧
        parcel.payload = [123, 125] ∧ parcel.qos = 0 :=
  (published_was_received brokerCovers .default (fun _ => none) (fun _ => [])
    endsAlike_brokerCovers 10 freshDatabase (rowsDirected_freshDatabase 10) ["dl/PLAF203/AF1/#"] _
    .upstreamToLocal ⟨1, "dl/PLAF203/AF1/device/service/sub", [123, 125], 0, 0, none, false⟩
    (show _ ∈ oldSubscription.sent by decide +kernel)).2

end Results

end Bridge
end PetlibroRelay
