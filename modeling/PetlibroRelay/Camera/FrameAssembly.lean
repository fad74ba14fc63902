import Mathlib.Data.List.Induction
import PetlibroRelay.Camera.MediaReceiver
import PetlibroRelay.Foundations.Machine

namespace PetlibroRelay
namespace Camera

open Foundations

/-!
# Frames and the fragments they are built from

The receiver keeps its channels apart: a fragment changes the state of its own channel,
and of the others only what has been put together for too long is given up.  Here the
state of one channel is taken by itself, and `assemble` is shown to do to it what one
function of that state and the fragment says.

What is being put together on a channel is then traced back to the fragments that were
taken in for it, from the one that began it on.  Their number is kept in eight bits, so
it is known modulo 256 only.
-/

/-! ## One channel -/

/-- What the receiver keeps for one channel. -/
structure ChannelState where
  assembly : Option MediaAssembly := none
  last : Option UInt16 := none
  deriving DecidableEq, Repr

def MediaReceiver.channel (receiver : MediaReceiver) (channel : UInt8) : ChannelState where
  assembly := Dict.get? receiver.assemblies channel
  last := Dict.get? receiver.lastSubsequence channel

/-- The fragment is the last one of its frame. -/
def MediaFragment.ends (fragment : MediaFragment) : Bool :=
  decide (fragment.fragmentCount = 1) || fragment.isEndFragment

/-- What is being put together with one more fragment. -/
def MediaAssembly.grow (assembly : MediaAssembly) (fragment : MediaFragment) : MediaAssembly :=
  { assembly with
    seenSubsequences := fragment.subsequence :: assembly.seenSubsequences
    data := assembly.data ++ fragment.payload
    receivedFragments := assembly.receivedFragments + 1 }

namespace MediaAssembly

variable (assembly : MediaAssembly) (fragment : MediaFragment)

@[simp] theorem grow_frameNumber : (assembly.grow fragment).frameNumber = assembly.frameNumber := rfl

@[simp] theorem grow_expectedFragments :
    (assembly.grow fragment).expectedFragments = assembly.expectedFragments := rfl

@[simp] theorem grow_receivedFragments :
    (assembly.grow fragment).receivedFragments = assembly.receivedFragments + 1 := rfl

@[simp] theorem grow_startedAt : (assembly.grow fragment).startedAt = assembly.startedAt := rfl

@[simp] theorem grow_data :
    (assembly.grow fragment).data = assembly.data ++ fragment.payload := rfl

@[simp] theorem grow_seenSubsequences : (assembly.grow fragment).seenSubsequences =
    fragment.subsequence :: assembly.seenSubsequences := rfl

end MediaAssembly

/-- The fragment cannot belong to what is being put together. -/
def MediaAssembly.refuses (assembly : MediaAssembly) (fragment : MediaFragment) : Prop :=
  assembly.expectedFragments ≠ fragment.fragmentCount ∨
    MAX_MEDIA_FRAME_BYTES < assembly.data.length + fragment.payload.length

/-- Nothing of a frame has been put together yet. -/
def MediaFragment.anew (fragment : MediaFragment) (now : Int) : MediaAssembly where
  frameNumber := fragment.frameNumber
  expectedFragments := fragment.fragmentCount
  startedAt := now

def isExpired (assembly : MediaAssembly) (now : Int) : Bool :=
  decide (now - assembly.startedAt > MEDIA_ASSEMBLY_TIMEOUT)

namespace ChannelState

variable (state : ChannelState)

def expire (now : Int) : ChannelState :=
  { state with assembly := state.assembly.filter (fun assembly => !isExpired assembly now) }

def isDuplicate (subsequence : UInt16) : Bool :=
  match state.last with
  | none => false
  | some last =>
      decide (subsequence = last) ||
        (decide (subsequence < last) && decide (last - subsequence < 0x8000))

/-- What a fragment is put to, if its frame is in progress. -/
def joins (fragment : MediaFragment) (now : Int) : Option MediaAssembly :=
  (state.expire now).assembly.filter (fun assembly =>
    decide (assembly.frameNumber = fragment.frameNumber))

def assemblyFor (fragment : MediaFragment) (now : Int) : MediaAssembly :=
  (state.joins fragment now).getD (fragment.anew now)

end ChannelState

/-- All that a fragment can do to its channel. -/
inductive Takes (state : ChannelState) (fragment : MediaFragment) (now : Int) :
    ChannelState -> Except MediaError (Option Packet) -> Prop
  | duplicate (known : state.isDuplicate fragment.subsequence = true) :
      Takes state fragment now (state.expire now) (.ok none)
  | refused (fresh : state.isDuplicate fragment.subsequence = false)
      (refuses : (state.assemblyFor fragment now).refuses fragment) :
      Takes state fragment now ⟨none, state.last⟩
        (.error (.inconsistent fragment.channel fragment.frameNumber))
  | repeated (fresh : state.isDuplicate fragment.subsequence = false)
      (fits : ¬ (state.assemblyFor fragment now).refuses fragment)
      (seen : fragment.subsequence ∈ (state.assemblyFor fragment now).seenSubsequences) :
      Takes state fragment now ⟨some (state.assemblyFor fragment now), state.last⟩ (.ok none)
  | grown (fresh : state.isDuplicate fragment.subsequence = false)
      (fits : ¬ (state.assemblyFor fragment now).refuses fragment)
      (new : fragment.subsequence ∉ (state.assemblyFor fragment now).seenSubsequences)
      (goesOn : fragment.ends = false) :
      Takes state fragment now ⟨some ((state.assemblyFor fragment now).grow fragment), state.last⟩
        (.ok none)
  | incomplete (fresh : state.isDuplicate fragment.subsequence = false)
      (fits : ¬ (state.assemblyFor fragment now).refuses fragment)
      (new : fragment.subsequence ∉ (state.assemblyFor fragment now).seenSubsequences)
      (ends : fragment.ends = true)
      (missing : (state.assemblyFor fragment now).receivedFragments + 1 ≠ fragment.fragmentCount) :
      Takes state fragment now ⟨none, state.last⟩
        (.error (.incomplete fragment.channel fragment.frameNumber
          ((state.assemblyFor fragment now).receivedFragments + 1)
          (state.assemblyFor fragment now).expectedFragments))
  | complete (fresh : state.isDuplicate fragment.subsequence = false)
      (fits : ¬ (state.assemblyFor fragment now).refuses fragment)
      (new : fragment.subsequence ∉ (state.assemblyFor fragment now).seenSubsequences)
      (ends : fragment.ends = true)
      (all : (state.assemblyFor fragment now).receivedFragments + 1 = fragment.fragmentCount) :
      Takes state fragment now ⟨none, some fragment.subsequence⟩
        (.ok (some ((state.assemblyFor fragment now).data ++ fragment.payload)))

/-- What a fragment does is determined. -/
theorem Takes.unique {state after other : ChannelState} {fragment : MediaFragment} {now : Int}
    {result otherResult : Except MediaError (Option Packet)}
    (takes : Takes state fragment now after result)
    (takesAlso : Takes state fragment now other otherResult) :
    after = other ∧ result = otherResult := by
  cases takes <;> cases takesAlso <;> first
    | exact ⟨rfl, rfl⟩
    | contradiction
    | simp_all

/-! ## The receiver and its channels -/

namespace MediaReceiver

variable {receiver : MediaReceiver}

/-- Every channel has one entry. -/
def WellKept (receiver : MediaReceiver) : Prop :=
  (Dict.keys receiver.assemblies).Nodup

theorem channel_expire (kept : receiver.WellKept) (now : Int) (channel : UInt8) :
    (receiver.expire now).channel channel = (receiver.channel channel).expire now := by
  simp only [MediaReceiver.channel, ChannelState.expire, expire, isExpired]
  rw [Dict.get?_filter kept]

theorem wellKept_expire (kept : receiver.WellKept) (now : Int) :
    (receiver.expire now).WellKept :=
  (List.filter_sublist.map Prod.fst).nodup kept

theorem isDuplicate_expire (receiver : MediaReceiver) (now : Int) (channel : UInt8)
    (subsequence : UInt16) :
    (receiver.expire now).isDuplicate channel subsequence =
      (receiver.channel channel).isDuplicate subsequence := rfl

theorem assemblyFor_expire (kept : receiver.WellKept) (fragment : MediaFragment) (now : Int) :
    (receiver.expire now).assemblyFor fragment now =
      (receiver.channel fragment.channel).assemblyFor fragment now := by
  have found := congrArg ChannelState.assembly (channel_expire kept now fragment.channel)
  rw [assemblyFor, ChannelState.assemblyFor, ChannelState.joins, ← found]
  simp only [MediaReceiver.channel]
  cases Dict.get? (receiver.expire now).assemblies fragment.channel with
  | none => rfl
  | some assembly =>
      by_cases same : assembly.frameNumber = fragment.frameNumber
      · simp only [same, if_true, Option.filter_some, decide_true, Option.getD_some]
      · simp only [same, if_false, Option.filter_some, decide_false, Bool.false_eq_true,
          Option.getD_none]
        rfl

theorem channel_store (receiver : MediaReceiver) (own : UInt8) (assembly : MediaAssembly)
    (channel : UInt8) :
    (receiver.storeAssembly own assembly).channel channel =
      if channel = own then ⟨some assembly, (receiver.channel own).last⟩
      else receiver.channel channel := by
  simp only [MediaReceiver.channel, storeAssembly, Dict.get?_set]
  by_cases same : own = channel
  · rw [if_pos same, if_pos same.symm, same]
  · rw [if_neg same, if_neg (Ne.symm same)]

theorem channel_drop (receiver : MediaReceiver) (own channel : UInt8) :
    (receiver.dropAssembly own).channel channel =
      if channel = own then ⟨none, (receiver.channel own).last⟩ else receiver.channel channel := by
  simp only [MediaReceiver.channel, dropAssembly, Dict.get?_erase]
  by_cases same : own = channel
  · rw [if_pos same, if_pos same.symm, same]
  · rw [if_neg same, if_neg (Ne.symm same)]

/-- What one call of `assemble` does, channel by channel. -/
structure Assembles (receiver : MediaReceiver) (fragment : MediaFragment) (now : Int)
    (after : MediaReceiver) (result : Except MediaError (Option Packet)) : Prop where
  kept : after.WellKept
  own : Takes (receiver.channel fragment.channel) fragment now (after.channel fragment.channel)
    result
  others : forall channel, channel ≠ fragment.channel ->
    after.channel channel = (receiver.channel channel).expire now
  stats : after.stats = receiver.stats

/-- A call that stores something for the channel of the fragment. -/
theorem assembles_store (kept : receiver.WellKept) {fragment : MediaFragment} {now : Int}
    {assembly : MediaAssembly} {result : Except MediaError (Option Packet)}
    (own : Takes (receiver.channel fragment.channel) fragment now
      ⟨some assembly, (receiver.channel fragment.channel).last⟩ result) :
    Assembles receiver fragment now
      ((receiver.expire now).storeAssembly fragment.channel assembly) result where
  kept := Dict.nodup_keys_set _ _ _ (wellKept_expire kept now)
  own := by
    rw [channel_store, if_pos rfl]
    exact own
  others := by
    intro channel other
    rw [channel_store, if_neg other, channel_expire kept]
  stats := rfl

/-- A call that ends what is put together on the channel of the fragment. -/
theorem assembles_drop (kept : receiver.WellKept) {fragment : MediaFragment} {now : Int}
    {result : Except MediaError (Option Packet)}
    (own : Takes (receiver.channel fragment.channel) fragment now
      ⟨none, (receiver.channel fragment.channel).last⟩ result) :
    Assembles receiver fragment now ((receiver.expire now).dropAssembly fragment.channel)
      result where
  kept := (List.filter_sublist.map Prod.fst).nodup (wellKept_expire kept now)
  own := by
    rw [channel_drop, if_pos rfl]
    exact own
  others := by
    intro channel other
    rw [channel_drop, if_neg other, channel_expire kept]
  stats := rfl

theorem assembles_complete (kept : receiver.WellKept) {fragment : MediaFragment} {now : Int}
    {result : Except MediaError (Option Packet)}
    (own : Takes (receiver.channel fragment.channel) fragment now
      ⟨none, some fragment.subsequence⟩ result) :
    Assembles receiver fragment now
      { (receiver.expire now).dropAssembly fragment.channel with
        lastSubsequence := Dict.set (receiver.expire now).lastSubsequence fragment.channel
          fragment.subsequence } result where
  kept := (List.filter_sublist.map Prod.fst).nodup (wellKept_expire kept now)
  own := by
    have same := congrArg ChannelState.assembly
      (channel_drop (receiver.expire now) fragment.channel fragment.channel)
    rw [if_pos rfl] at same
    simp only [MediaReceiver.channel, Dict.get?_set_self] at same ⊢
    rw [same]
    exact own
  others := by
    intro channel other
    have same := channel_drop (receiver.expire now) fragment.channel channel
    rw [if_neg other, channel_expire kept] at same
    rw [← same]
    simp only [MediaReceiver.channel, Dict.get?_set_of_ne _ _ (Ne.symm other)]
    rfl
  stats := rfl

/-- `assemble` does to every channel what is said of one channel. -/
theorem assembles_assemble (kept : receiver.WellKept) (fragment : MediaFragment) (now : Int) :
    Assembles receiver fragment now (receiver.assemble fragment now).1
      (receiver.assemble fragment now).2 := by
  unfold assemble
  simp only [isDuplicate_expire, assemblyFor_expire kept]
  split
  · next known =>
      refine ⟨wellKept_expire kept now, ?_, fun channel _ => channel_expire kept now channel, rfl⟩
      rw [channel_expire kept]
      exact .duplicate known
  · next fresh =>
      have fresh := Bool.eq_false_iff.mpr fresh
      split
      · next refuses => exact assembles_drop kept (.refused fresh refuses)
      · next fits =>
          split
          · next seen => exact assembles_store kept (.repeated fresh fits seen)
          · next new =>
              have expected : ((receiver.channel fragment.channel).assemblyFor fragment
                  now).expectedFragments = fragment.fragmentCount :=
                Decidable.not_not.mp (fun other => fits (Or.inl other))
              split
              · next goesOn =>
                  refine assembles_store kept (.grown fresh fits new ?_)
                  rw [MediaFragment.ends, decide_eq_false goesOn.1, goesOn.2, Bool.or_false]
              · next last =>
                  have ends : fragment.ends = true := by
                    rw [MediaFragment.ends, Bool.or_eq_true, decide_eq_true_eq]
                    by_cases single : fragment.fragmentCount = 1
                    · exact Or.inl single
                    · exact Or.inr (Bool.not_eq_false _ |>.mp (fun goesOn => last ⟨single, goesOn⟩))
                  split
                  · next missing =>
                      rw [expected] at missing
                      exact assembles_drop kept (.incomplete fresh fits new ends missing)
                  · next all =>
                      rw [expected] at all
                      exact assembles_complete kept
                        (.complete fresh fits new ends (Decidable.not_not.mp all))

end MediaReceiver

/-! ## Runs -/

/-- A fragment and the time at which it is delivered. -/
structure Delivery where
  fragment : MediaFragment
  now : Int
  deriving DecidableEq, Repr

def assemblyMachine : Machine MediaReceiver Delivery where
  step receiver delivery := some (receiver.assemble delivery.fragment delivery.now).1

/-- What a receiver returns for a delivery. -/
def MediaReceiver.returns (receiver : MediaReceiver) (delivery : Delivery) :
    Except MediaError (Option Packet) :=
  (receiver.assemble delivery.fragment delivery.now).2

theorem assembles_next {receiver : MediaReceiver} (kept : receiver.WellKept)
    (delivery : Delivery) :
    receiver.Assembles delivery.fragment delivery.now (assemblyMachine.next receiver delivery)
      (receiver.returns delivery) :=
  MediaReceiver.assembles_assemble kept delivery.fragment delivery.now

theorem run_concat (receiver : MediaReceiver) (history : List Delivery) (delivery : Delivery) :
    assemblyMachine.run receiver (history ++ [delivery]) =
      assemblyMachine.next (assemblyMachine.run receiver history) delivery := by
  rw [Machine.run_append]
  rfl

theorem wellKept_run (history : List Delivery) : (assemblyMachine.run {} history).WellKept := by
  refine assemblyMachine.run_invariant MediaReceiver.WellKept ?_ {} history List.nodup_nil
  intro receiver delivery after kept moved
  cases moved
  exact (assembles_next kept delivery).kept

/-! ## Where a frame comes from -/

/-- What is put together consists of these fragments. -/
structure BuiltFrom (channel : UInt8) (assembly : MediaAssembly) (parts : List MediaFragment) :
    Prop where
  data : assembly.data = (parts.map MediaFragment.payload).flatten
  seen : assembly.seenSubsequences = (parts.map MediaFragment.subsequence).reverse
  distinct : (parts.map MediaFragment.subsequence).Nodup
  received : assembly.receivedFragments = UInt8.ofNat parts.length
  labels : forall part, part ∈ parts -> part.channel = channel ∧
    part.frameNumber = assembly.frameNumber ∧ part.fragmentCount = assembly.expectedFragments

/-- Nothing has been put together yet. -/
theorem builtFrom_anew (fragment : MediaFragment) (now : Int) :
    BuiltFrom fragment.channel (fragment.anew now) [] :=
  ⟨rfl, rfl, List.nodup_nil, rfl, List.forall_mem_nil _⟩

theorem BuiltFrom.grow {assembly : MediaAssembly} {parts : List MediaFragment}
    {fragment : MediaFragment} (built : BuiltFrom fragment.channel assembly parts)
    (number : fragment.frameNumber = assembly.frameNumber)
    (count : fragment.fragmentCount = assembly.expectedFragments)
    (new : fragment.subsequence ∉ assembly.seenSubsequences) :
    BuiltFrom fragment.channel (assembly.grow fragment) (parts ++ [fragment]) where
  data := by
    rw [MediaAssembly.grow_data, built.data, List.map_append, List.flatten_append]
    simp only [List.map_cons, List.map_nil, List.flatten_cons, List.flatten_nil, List.append_nil]
  seen := by
    rw [MediaAssembly.grow_seenSubsequences, built.seen, List.map_append, List.reverse_append]
    rfl
  distinct := by
    rw [List.map_append]
    refine List.nodup_append.mpr ⟨built.distinct, List.nodup_singleton _, ?_⟩
    intro first early second late same
    rw [List.mem_singleton.mp late] at same
    rw [built.seen, List.mem_reverse, ← same] at new
    exact new early
  received := by
    rw [MediaAssembly.grow_receivedFragments, built.received, List.length_append, List.length_singleton,
      UInt8.ofNat_add]
    rfl
  labels := by
    intro part member
    rcases List.mem_append.mp member with early | late
    · exact built.labels part early
    · rw [List.mem_singleton.mp late]
      exact ⟨rfl, number, count⟩

/-- The fragment begins a frame: none with its number is in progress. -/
def MediaReceiver.Begins (receiver : MediaReceiver) (delivery : Delivery) : Prop :=
  (receiver.channel delivery.fragment.channel).joins delivery.fragment delivery.now = none

/-- What is put together on a channel was begun by a delivery of the history, and consists
of its fragment and of fragments delivered after it. -/
def Traced (history : List Delivery) (channel : UInt8) (assembly : MediaAssembly) : Prop :=
  exists before start since parts, history = before ++ start :: since ∧
    (assemblyMachine.run {} before).Begins start ∧
    BuiltFrom channel assembly (start.fragment :: parts) ∧
    parts.Sublist (since.map Delivery.fragment)

theorem Traced.later {history : List Delivery} {channel : UInt8} {assembly : MediaAssembly}
    (traced : Traced history channel assembly) (delivery : Delivery) :
    Traced (history ++ [delivery]) channel assembly := by
  obtain ⟨before, start, since, parts, rfl, begins, built, within⟩ := traced
  refine ⟨before, start, since ++ [delivery], parts, ?_, begins, built, ?_⟩
  · rw [List.append_assoc, List.cons_append]
  · rw [List.map_append]
    exact within.trans (List.sublist_append_left _ _)

/-- Everything in progress can be traced. -/
def AllTraced (history : List Delivery) : Prop :=
  forall channel assembly, ((assemblyMachine.run {} history).channel channel).assembly =
    some assembly -> Traced history channel assembly

theorem ChannelState.assembly_of_expire {state : ChannelState} {now : Int}
    {assembly : MediaAssembly} (found : (state.expire now).assembly = some assembly) :
    state.assembly = some assembly :=
  (Option.filter_eq_some_iff.mp found).1

/-- What a fragment joins is in progress and has its number. -/
theorem ChannelState.joins_eq_some {state : ChannelState} {fragment : MediaFragment} {now : Int}
    {assembly : MediaAssembly} (joins : state.joins fragment now = some assembly) :
    state.assembly = some assembly ∧ isExpired assembly now = false ∧
      assembly.frameNumber = fragment.frameNumber := by
  obtain ⟨inTime, number⟩ := Option.filter_eq_some_iff.mp joins
  obtain ⟨found, early⟩ := Option.filter_eq_some_iff.mp inTime
  exact ⟨found, Bool.not_eq_true' _ |>.mp early, of_decide_eq_true number⟩

theorem ChannelState.assemblyFor_of_joins {state : ChannelState} {fragment : MediaFragment}
    {now : Int} {assembly : MediaAssembly} (joins : state.joins fragment now = some assembly) :
    state.assemblyFor fragment now = assembly := by
  rw [assemblyFor, joins, Option.getD_some]

theorem ChannelState.assemblyFor_of_begins {state : ChannelState} {fragment : MediaFragment}
    {now : Int} (begins : state.joins fragment now = none) :
    state.assemblyFor fragment now = fragment.anew now := by
  rw [assemblyFor, begins, Option.getD_none]

/-- A fragment that is taken in is traced with the ones before it. -/
theorem traced_grow {history : List Delivery} (all : AllTraced history) {delivery : Delivery}
    (fits : ¬ (((assemblyMachine.run {} history).channel delivery.fragment.channel).assemblyFor
      delivery.fragment delivery.now).refuses delivery.fragment)
    (new : delivery.fragment.subsequence ∉ (((assemblyMachine.run {} history).channel
      delivery.fragment.channel).assemblyFor delivery.fragment delivery.now).seenSubsequences) :
    Traced (history ++ [delivery]) delivery.fragment.channel
      ((((assemblyMachine.run {} history).channel delivery.fragment.channel).assemblyFor
        delivery.fragment delivery.now).grow delivery.fragment) := by
  have count := Decidable.not_not.mp (fun other => fits (Or.inl other))
  cases joins : ((assemblyMachine.run {} history).channel delivery.fragment.channel).joins
      delivery.fragment delivery.now with
  | none =>
      rw [ChannelState.assemblyFor_of_begins joins]
      refine ⟨history, delivery, [], [], rfl, joins, ?_, List.Sublist.refl _⟩
      exact (builtFrom_anew delivery.fragment delivery.now).grow rfl rfl List.not_mem_nil
  | some assembly =>
      rw [ChannelState.assemblyFor_of_joins joins] at new count ⊢
      obtain ⟨found, -, number⟩ := ChannelState.joins_eq_some joins
      obtain ⟨before, start, since, parts, rfl, begins, built, within⟩ := all _ _ found
      refine ⟨before, start, since ++ [delivery], parts ++ [delivery.fragment], ?_, begins, ?_, ?_⟩
      · rw [List.append_assoc, List.cons_append]
      · exact built.grow number.symm count.symm new
      · rw [List.map_append]
        exact within.append (List.Sublist.refl _)

theorem allTraced_concat {history : List Delivery} (all : AllTraced history)
    (delivery : Delivery) : AllTraced (history ++ [delivery]) := by
  intro channel assembly found
  rw [run_concat] at found
  have assembles := assembles_next (wellKept_run history) delivery
  by_cases own : channel = delivery.fragment.channel
  · rw [own] at found ⊢
    have takes := assembles.own
    revert takes found
    generalize (assemblyMachine.next (assemblyMachine.run {} history) delivery).channel
      delivery.fragment.channel = after
    generalize (assemblyMachine.run {} history).returns delivery = result
    intro found takes
    cases takes with
    | duplicate known =>
        exact (all _ _ (ChannelState.assembly_of_expire found)).later delivery
    | refused fresh refuses => cases found
    | repeated fresh fits seen =>
        cases joins : ((assemblyMachine.run {} history).channel delivery.fragment.channel).joins
            delivery.fragment delivery.now with
        | none =>
            rw [ChannelState.assemblyFor_of_begins joins] at seen
            cases seen
        | some own =>
            rw [ChannelState.assemblyFor_of_joins joins] at found
            cases found
            exact (all _ _ (ChannelState.joins_eq_some joins).1).later delivery
    | grown fresh fits new goesOn =>
        cases found
        exact traced_grow all fits new
    | incomplete fresh fits new ends missing => cases found
    | complete fresh fits new ends every => cases found
  · rw [assembles.others channel own] at found
    exact (all _ _ (ChannelState.assembly_of_expire found)).later delivery

theorem allTraced (history : List Delivery) : AllTraced history := by
  induction history using List.reverseRecOn with
  | nil => exact nofun
  | append_singleton history delivery inductionHypothesis =>
      exact allTraced_concat inductionHypothesis delivery

end Camera
end PetlibroRelay
