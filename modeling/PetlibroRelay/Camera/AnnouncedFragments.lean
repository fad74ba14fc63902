import PetlibroRelay.Camera.FrameAssembly

namespace PetlibroRelay
namespace Camera

open Foundations

/-!
# Complete frames and the number of their fragments

A frame is complete when its last fragment arrives and the number of fragments that were
taken in is the announced one.  The fragments are distinct, of one channel, frame and
announced number, and none is older than the one that began the frame.

The number is kept in eight bits and compared for equality.  After 256 fragments it
starts again, and a frame of 256 fragments too many passes for a complete one.
-/

/-! ## Completion -/

/-- What is known of a delivery that completes a frame. -/
structure Completes (receiver : MediaReceiver) (delivery : Delivery) (data : Packet) : Prop where
  fresh : (receiver.channel delivery.fragment.channel).isDuplicate
    delivery.fragment.subsequence = false
  fits : ¬ ((receiver.channel delivery.fragment.channel).assemblyFor delivery.fragment
    delivery.now).refuses delivery.fragment
  new : delivery.fragment.subsequence ∉ ((receiver.channel
    delivery.fragment.channel).assemblyFor delivery.fragment delivery.now).seenSubsequences
  ends : delivery.fragment.ends = true
  all : ((receiver.channel delivery.fragment.channel).assemblyFor delivery.fragment
    delivery.now).receivedFragments + 1 = delivery.fragment.fragmentCount
  data : data = ((receiver.channel delivery.fragment.channel).assemblyFor delivery.fragment
    delivery.now).data ++ delivery.fragment.payload
  after : (assemblyMachine.next receiver delivery).channel delivery.fragment.channel =
    ⟨none, some delivery.fragment.subsequence⟩

theorem completes_of_returns {receiver : MediaReceiver} (kept : receiver.WellKept)
    {delivery : Delivery} {data : Packet}
    (returned : receiver.returns delivery = .ok (some data)) :
    Completes receiver delivery data := by
  have takes := (assembles_next kept delivery).own
  rw [returned] at takes
  generalize channel : (assemblyMachine.next receiver delivery).channel
    delivery.fragment.channel = after at takes
  cases takes with
  | complete fresh fits new ends all => exact ⟨fresh, fits, new, ends, all, rfl, channel⟩

/-- The data of a complete frame is that of the fragments that were taken in since it was
begun, this one the last of them. -/
theorem parts_of_completes {history : List Delivery} {delivery : Delivery} {data : Packet}
    (completes : Completes (assemblyMachine.run {} history) delivery data) :
    exists before start since parts, history ++ [delivery] = before ++ start :: since ∧
      (assemblyMachine.run {} before).Begins start ∧
      parts.Sublist ((start :: since).map Delivery.fragment) ∧
      BuiltFrom delivery.fragment.channel
        ((((assemblyMachine.run {} history).channel delivery.fragment.channel).assemblyFor
          delivery.fragment delivery.now).grow delivery.fragment) parts := by
  obtain ⟨before, start, since, parts, same, begins, built, within⟩ :=
    traced_grow (allTraced history) completes.fits completes.new
  exact ⟨before, start, since, start.fragment :: parts, same, begins, within.cons_cons _, built⟩

/-! ## The announced number -/

/-- The last fragment of a frame finds 255 fragments or more, and with it their number is
the announced one modulo 256. -/
def MediaReceiver.roundsUp (receiver : MediaReceiver) (delivery : Delivery) : Bool :=
  delivery.fragment.ends &&
    ((receiver.channel delivery.fragment.channel).joins delivery.fragment delivery.now).any
      (fun assembly => decide (255 ≤ assembly.seenSubsequences.length) &&
        decide ((assembly.seenSubsequences.length + 1) % 256 =
          delivery.fragment.fragmentCount.toNat))

/-- The data is that of as many fragments as were announced, all distinct, of one channel,
frame and announced number, and delivered since the frame was begun. -/
def AsAnnounced (history : List Delivery) (delivery : Delivery) (data : Packet) : Prop :=
  exists (before : List Delivery) (start : Delivery) (since : List Delivery)
      (parts : List MediaFragment), history ++ [delivery] = before ++ start :: since ∧
    (assemblyMachine.run {} before).Begins start ∧
    parts.Sublist ((start :: since).map Delivery.fragment) ∧
    parts.length = delivery.fragment.fragmentCount.toNat ∧
    (parts.map MediaFragment.subsequence).Nodup ∧
    (forall part, part ∈ parts -> part.channel = delivery.fragment.channel ∧
      part.frameNumber = delivery.fragment.frameNumber ∧
      part.fragmentCount = delivery.fragment.fragmentCount) ∧
    data = (parts.map MediaFragment.payload).flatten

theorem assemblyFor_frameNumber (state : ChannelState) (fragment : MediaFragment) (now : Int) :
    (state.assemblyFor fragment now).frameNumber = fragment.frameNumber := by
  cases joins : state.joins fragment now with
  | none =>
      rw [ChannelState.assemblyFor_of_begins joins]
      rfl
  | some assembly =>
      rw [ChannelState.assemblyFor_of_joins joins]
      exact (ChannelState.joins_eq_some joins).2.2

/-- The fragments of a complete frame are as many as announced, modulo 256. -/
theorem length_mod_of_completes {receiver : MediaReceiver} {delivery : Delivery} {data : Packet}
    {parts : List MediaFragment} (completes : Completes receiver delivery data)
    (built : BuiltFrom delivery.fragment.channel
      (((receiver.channel delivery.fragment.channel).assemblyFor delivery.fragment
        delivery.now).grow delivery.fragment) parts) :
    parts.length % 256 = delivery.fragment.fragmentCount.toNat := by
  have received := built.received
  rw [MediaAssembly.grow_receivedFragments] at received
  rw [← completes.all, received, UInt8.toNat_ofNat']

/-- Where the number does not come round it is the announced one. -/
theorem length_of_completes {receiver : MediaReceiver} {delivery : Delivery} {data : Packet}
    {parts : List MediaFragment} (completes : Completes receiver delivery data)
    (straight : receiver.roundsUp delivery = false)
    (built : BuiltFrom delivery.fragment.channel
      (((receiver.channel delivery.fragment.channel).assemblyFor delivery.fragment
        delivery.now).grow delivery.fragment) parts) :
    parts.length = delivery.fragment.fragmentCount.toNat := by
  have remainder := length_mod_of_completes completes built
  have seen := congrArg List.length built.seen
  rw [List.length_reverse, List.length_map, MediaAssembly.grow_seenSubsequences,
    List.length_cons] at seen
  cases joins : (receiver.channel delivery.fragment.channel).joins delivery.fragment
      delivery.now with
  | none =>
      rw [ChannelState.assemblyFor_of_begins joins] at seen
      have one : parts.length = 1 := seen.symm
      rw [one] at remainder ⊢
      exact remainder
  | some assembly =>
      rw [ChannelState.assemblyFor_of_joins joins] at seen
      rw [MediaReceiver.roundsUp, completes.ends, joins, Bool.true_and, Option.any_some, seen,
        remainder, decide_eq_true rfl, Bool.and_true, decide_eq_false_iff_not] at straight
      rw [← remainder, Nat.mod_eq_of_lt (by omega)]

/-- In every run in which the number of fragments never comes round, every complete frame
has exactly the fragments that were announced for it. -/
theorem completed_frames_as_announced (deliveries : List Delivery)
    (straight : assemblyMachine.Meets (fun receiver delivery =>
      receiver.roundsUp delivery = false) {} deliveries) :
    forall history delivery data, history ++ [delivery] <+: deliveries ->
      (assemblyMachine.run {} history).returns delivery = .ok (some data) ->
      AsAnnounced history delivery data := by
  rintro history delivery data ⟨later, rfl⟩ returned
  have completes := completes_of_returns (wellKept_run history) returned
  obtain ⟨before, start, since, parts, same, begins, within, built⟩ :=
    parts_of_completes completes
  have straightHere : (assemblyMachine.run {} history).roundsUp delivery = false := by
    rw [List.append_assoc, Machine.meets_append] at straight
    exact straight.2.1
  refine ⟨before, start, since, parts, same, begins, within,
    length_of_completes completes straightHere built, built.distinct, ?_, ?_⟩
  · intro part member
    obtain ⟨channel, number, count⟩ := built.labels part member
    refine ⟨channel, number.trans (assemblyFor_frameNumber _ _ _), count.trans ?_⟩
    exact Decidable.not_not.mp (fun other => completes.fits (Or.inl other))
  · rw [completes.data, ← built.data]
    rfl

/-- One byte of a frame that announces two fragments. -/
def oneByte (subsequence : UInt16) (isEndFragment : Bool) : Delivery where
  fragment := {
    channelId := 0x0105
    channel := 0x05
    fragmentCount := 2
    payload := [0]
    subsequence := subsequence
    frameNumber := 1
    isEndFragment := isEndFragment }
  now := 0

/-- Fragments of one frame, none of them the last. -/
def manyBytes (number : Nat) : List Delivery :=
  (List.range number).map (fun place => oneByte (UInt16.ofNat place) false)

/-- What has been put together of them. -/
def bytesTogether (number : Nat) : MediaAssembly where
  frameNumber := 1
  expectedFragments := 2
  receivedFragments := UInt8.ofNat number
  startedAt := 0
  data := List.replicate number 0
  seenSubsequences := ((List.range number).map UInt16.ofNat).reverse

theorem ofNat_not_mem_seen {number : Nat} (small : number < 65536) :
    UInt16.ofNat number ∉ (bytesTogether number).seenSubsequences := by
  rw [bytesTogether, List.mem_reverse, List.mem_map]
  rintro ⟨earlier, member, same⟩
  have before := List.mem_range.mp member
  have value := congrArg UInt16.toNat same
  rw [UInt16.toNat_ofNat', UInt16.toNat_ofNat', Nat.mod_eq_of_lt (by omega),
    Nat.mod_eq_of_lt small] at value
  omega

theorem grow_bytesTogether (number : Nat) (isEndFragment : Bool) :
    (bytesTogether number).grow (oneByte (UInt16.ofNat number) isEndFragment).fragment =
      bytesTogether (number + 1) := by
  simp only [MediaAssembly.grow, bytesTogether, oneByte, List.range_succ, List.map_append,
    List.map_cons, List.map_nil, List.reverse_append, List.reverse_cons, List.reverse_nil,
    List.nil_append, List.cons_append, List.replicate_succ', UInt8.ofNat_add]
  rfl

/-- The fragments of such a frame find what was put together of the ones before. -/
theorem assemblyFor_bytes {state : ChannelState} {number : Nat} {isEndFragment : Bool}
    (found : state.assembly = if number = 0 then none else some (bytesTogether number)) :
    state.assemblyFor (oneByte (UInt16.ofNat number) isEndFragment).fragment 0 =
      bytesTogether number := by
  rw [ChannelState.assemblyFor, ChannelState.joins, ChannelState.expire, found]
  split
  · next none_ =>
      rw [none_]
      rfl
  · rfl

theorem fits_bytes {number : Nat} (small : number < 65536) (isEndFragment : Bool) :
    ¬ (bytesTogether number).refuses (oneByte (UInt16.ofNat number) isEndFragment).fragment := by
  rintro (other | long)
  · exact other rfl
  · rw [bytesTogether, List.length_replicate, oneByte, List.length_singleton,
      MAX_MEDIA_FRAME_BYTES] at long
    omega

theorem run_manyBytes (number : Nat) (small : number ≤ 65536) :
    (assemblyMachine.run {} (manyBytes number)).channel 0x05 =
      ⟨if number = 0 then none else some (bytesTogether number), none⟩ := by
  induction number with
  | zero => rfl
  | succ number inductionHypothesis =>
      have before := inductionHypothesis (Nat.le_of_succ_le small)
      have same := @assemblyFor_bytes _ _ false (congrArg ChannelState.assembly before)
      have takes := (assembles_next (wellKept_run (manyBytes number))
        (oneByte (UInt16.ofNat number) false)).own
      have grown : Takes ((assemblyMachine.run {} (manyBytes number)).channel 0x05)
          (oneByte (UInt16.ofNat number) false).fragment 0
          ⟨some (bytesTogether (number + 1)), none⟩ (.ok none) := by
        have step := @Takes.grown ((assemblyMachine.run {} (manyBytes number)).channel 0x05)
          (oneByte (UInt16.ofNat number) false).fragment 0
          (by rw [before]; rfl) (by rw [same]; exact fits_bytes small false)
          (by rw [same]; exact ofNat_not_mem_seen small) rfl
        rw [same, grow_bytesTogether, before] at step
        rw [before]
        exact step
      rw [manyBytes, List.range_succ, List.map_append, List.map_singleton, run_concat,
        if_neg (Nat.succ_ne_zero number)]
      exact (takes.unique grown).1

/-- The last of 258 fragments completes a frame that announces two. -/
theorem returns_manyBytes :
    (assemblyMachine.run {} (manyBytes 257)).returns (oneByte 257 true) =
      .ok (some (List.replicate 258 0)) := by
  have before := run_manyBytes 257 (by decide)
  have same := @assemblyFor_bytes _ 257 true (congrArg ChannelState.assembly before)
  have takes := (assembles_next (wellKept_run (manyBytes 257)) (oneByte 257 true)).own
  have complete : Takes ((assemblyMachine.run {} (manyBytes 257)).channel 0x05)
      (oneByte (UInt16.ofNat 257) true).fragment 0 ⟨none, some 257⟩
      (.ok (some ((bytesTogether 257).data ++ [0]))) := by
    have step := @Takes.complete ((assemblyMachine.run {} (manyBytes 257)).channel 0x05)
      (oneByte (UInt16.ofNat 257) true).fragment 0
      (by rw [before]; rfl) (by rw [same]; exact fits_bytes (by decide) true)
      (by rw [same]; exact ofNat_not_mem_seen (by decide)) rfl (by rw [same]; rfl)
    rw [same] at step
    exact step
  have data : (bytesTogether 257).data ++ [0] = List.replicate 258 0 :=
    (List.replicate_succ' : List.replicate (257 + 1) (0 : UInt8) = _).symm
  rw [(takes.unique complete).2, data]

theorem payload_of_mem_oneByte {deliveries : List Delivery} {number : Nat}
    {isEndFragment : Bool} (same : deliveries = manyBytes number ++ [oneByte 257 isEndFragment])
    {delivery : Delivery} (member : delivery ∈ deliveries) : delivery.fragment.payload = [0] := by
  rw [same, List.mem_append, List.mem_singleton] at member
  rcases member with early | last
  · obtain ⟨place, -, rfl⟩ := List.mem_map.mp early
    rfl
  · rw [last]
    rfl

/-- The frame has 258 fragments, not two. -/
theorem frame_of_too_many_fragments :
    (assemblyMachine.run {} (manyBytes 257)).returns (oneByte 257 true) =
        .ok (some (List.replicate 258 0)) ∧
      ¬ AsAnnounced (manyBytes 257) (oneByte 257 true) (List.replicate 258 0) := by
  refine ⟨returns_manyBytes, ?_⟩
  rintro ⟨before, start, since, parts, same, -, within, two, -, -, data⟩
  have bytes : forall part, part ∈ parts -> part.payload = [0] := by
    intro part member
    obtain ⟨delivery, delivered, rfl⟩ := List.mem_map.mp (within.subset member)
    refine payload_of_mem_oneByte rfl (?_ : delivery ∈ manyBytes 257 ++ [oneByte 257 true])
    rw [same]
    exact List.mem_append_right before delivered
  have two : parts.length = 2 := two
  match parts, two, bytes, data with
  | [first, second], _, bytes, data =>
      rw [List.map_cons, List.map_cons, bytes first List.mem_cons_self,
        bytes second (List.mem_cons_of_mem _ List.mem_cons_self)] at data
      have lengths := congrArg List.length data
      rw [List.length_replicate] at lengths
      cases lengths

/-- Two fragments complete a frame that announces two. -/
theorem frame_of_two_fragments :
    (assemblyMachine.run {} [oneByte 0 false]).returns (oneByte 1 true) = .ok (some [0, 0]) ∧
      AsAnnounced [oneByte 0 false] (oneByte 1 true) [0, 0] :=
  ⟨by decide, completed_frames_as_announced [oneByte 0 false, oneByte 1 true] (by decide)
    [oneByte 0 false] (oneByte 1 true) [0, 0] (List.prefix_refl _) (by decide)⟩

end Camera
end PetlibroRelay
