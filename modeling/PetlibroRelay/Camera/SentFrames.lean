import Mathlib.Data.List.Sort
import PetlibroRelay.Camera.AnnouncedFragments

namespace PetlibroRelay
namespace Camera

open Foundations

/-!
# Frames as the camera sends them

The camera cuts a frame into fragments with increasing numbers, each of which names the
frame and how many there are.  On the way they may be lost, repeated or exchanged.

The receiver appends what it takes in, whatever its number.  A frame whose fragments were
taken in with increasing numbers comes out as it was sent.  One whose fragments were
exchanged on the way is complete as well, and its data is not that of the frame.
-/

/-! ## Sent frames -/

/-- The fragment with the smaller number comes first. -/
def MediaFragment.Precedes (first second : MediaFragment) : Prop :=
  first.subsequence < second.subsequence

instance precedesDecidable : DecidableRel MediaFragment.Precedes :=
  fun first second => inferInstanceAs (Decidable (first.subsequence < second.subsequence))

instance precedesAntisymm : Std.Antisymm MediaFragment.Precedes where
  antisymm first second before after := by
    have forward : first.subsequence.toNat < second.subsequence.toNat := before
    have backward : second.subsequence.toNat < first.subsequence.toNat := after
    omega

/-- A frame cut into fragments. -/
structure SentFrame where
  channel : UInt8
  frameNumber : UInt32
  fragments : List MediaFragment
  increasing : fragments.Pairwise MediaFragment.Precedes
  labels : forall fragment, fragment ∈ fragments -> fragment.channel = channel ∧
    fragment.frameNumber = frameNumber ∧ fragment.fragmentCount.toNat = fragments.length

namespace SentFrame

variable (frame : SentFrame)

def data : Packet := (frame.fragments.map MediaFragment.payload).flatten

/-- The fragment carries the number of the frame on its channel. -/
def isOf (fragment : MediaFragment) : Bool :=
  decide (fragment.channel = frame.channel) && decide (fragment.frameNumber = frame.frameNumber)

/-- What is delivered under the number of the frame are fragments of the frame. -/
def Sends (deliveries : List Delivery) : Prop :=
  forall delivery, delivery ∈ deliveries -> frame.isOf delivery.fragment = true ->
    delivery.fragment ∈ frame.fragments

/-- A fragment of the frame that is new to what is put together has a greater number than
all the fragments in it. -/
def inOrder (receiver : MediaReceiver) (delivery : Delivery) : Bool :=
  !frame.isOf delivery.fragment ||
    ((receiver.channel delivery.fragment.channel).joins delivery.fragment delivery.now).all
      (fun assembly => decide (delivery.fragment.subsequence ∈ assembly.seenSubsequences) ||
        assembly.seenSubsequences.all (fun seen => decide (seen < delivery.fragment.subsequence)))

variable {frame}

theorem isOf_iff {fragment : MediaFragment} : frame.isOf fragment = true ↔
    fragment.channel = frame.channel ∧ fragment.frameNumber = frame.frameNumber := by
  rw [isOf, Bool.and_eq_true, decide_eq_true_eq, decide_eq_true_eq]

theorem length_lt {fragment : MediaFragment} (member : fragment ∈ frame.fragments) :
    frame.fragments.length < 256 := by
  rw [← (frame.labels fragment member).2.2]
  exact fragment.fragmentCount.toNat_lt

/-- Fragments of the frame with increasing numbers, as many as it has, are the frame. -/
theorem eq_of_increasing {parts : List MediaFragment}
    (within : forall part, part ∈ parts -> part ∈ frame.fragments)
    (increasing : parts.Pairwise MediaFragment.Precedes)
    (length : parts.length = frame.fragments.length) : parts = frame.fragments := by
  have distinct : parts.Nodup := by
    refine increasing.imp ?_
    rintro first second before rfl
    exact absurd before (Nat.lt_irrefl first.subsequence.toNat)
  have sublist : parts.Sublist frame.fragments :=
    List.sublist_of_subperm_of_pairwise (List.subperm_of_subset distinct within) increasing
      frame.increasing
  exact sublist.eq_of_length length

end SentFrame

/-! ## Fragments taken in with increasing numbers -/

/-- What is put together of the frame has increasing numbers, the newest at the front. -/
def Rising (frame : SentFrame) (receiver : MediaReceiver) : Prop :=
  receiver.WellKept ∧
    forall assembly, (receiver.channel frame.channel).assembly = some assembly ->
      assembly.frameNumber = frame.frameNumber ->
      assembly.seenSubsequences.Pairwise (fun newer older => older < newer)

theorem rising_initial (frame : SentFrame) : Rising frame {} :=
  ⟨List.nodup_nil, nofun⟩

/-- A fragment taken in in its order. -/
theorem rising_grow {frame : SentFrame} {receiver : MediaReceiver} {delivery : Delivery}
    (rising : Rising frame receiver) (order : frame.inOrder receiver delivery = true)
    (own : frame.isOf delivery.fragment = true)
    (new : delivery.fragment.subsequence ∉ ((receiver.channel
      delivery.fragment.channel).assemblyFor delivery.fragment delivery.now).seenSubsequences) :
    (((receiver.channel delivery.fragment.channel).assemblyFor delivery.fragment
      delivery.now).grow delivery.fragment).seenSubsequences.Pairwise
        (fun newer older => older < newer) := by
  obtain ⟨channel, number⟩ := SentFrame.isOf_iff.mp own
  rw [SentFrame.inOrder, own, Bool.not_true, Bool.false_or] at order
  cases joins : (receiver.channel delivery.fragment.channel).joins delivery.fragment
      delivery.now with
  | none =>
      rw [ChannelState.assemblyFor_of_begins joins]
      exact List.pairwise_singleton _ _
  | some assembly =>
      rw [ChannelState.assemblyFor_of_joins joins] at new ⊢
      obtain ⟨found, -, same⟩ := ChannelState.joins_eq_some joins
      rw [joins, Option.all_some, decide_eq_false new, Bool.false_or, List.all_eq_true] at order
      rw [MediaAssembly.grow_seenSubsequences]
      refine List.pairwise_cons.mpr ⟨?_, rising.2 assembly (channel ▸ found) (same.trans number)⟩
      intro seen member
      exact of_decide_eq_true (order seen member)

theorem rising_step {frame : SentFrame} {receiver : MediaReceiver} {delivery : Delivery}
    (rising : Rising frame receiver) (order : frame.inOrder receiver delivery = true) :
    Rising frame (assemblyMachine.next receiver delivery) := by
  have assembles := assembles_next rising.1 delivery
  refine ⟨assembles.kept, ?_⟩
  intro assembly found number
  by_cases own : frame.channel = delivery.fragment.channel
  · have takes := assembles.own
    rw [own] at found
    revert takes found
    generalize (assemblyMachine.next receiver delivery).channel delivery.fragment.channel = after
    generalize receiver.returns delivery = result
    intro found takes
    cases takes with
    | duplicate known =>
        exact rising.2 assembly (own ▸ ChannelState.assembly_of_expire found) number
    | refused fresh refuses => cases found
    | repeated fresh fits seen =>
        cases joins : (receiver.channel delivery.fragment.channel).joins delivery.fragment
            delivery.now with
        | none =>
            rw [ChannelState.assemblyFor_of_begins joins] at seen
            cases seen
        | some joined =>
            rw [ChannelState.assemblyFor_of_joins joins] at found
            cases found
            exact rising.2 _ (own ▸ (ChannelState.joins_eq_some joins).1) number
    | grown fresh fits new goesOn =>
        cases found
        rw [MediaAssembly.grow_frameNumber, assemblyFor_frameNumber] at number
        exact rising_grow rising order (SentFrame.isOf_iff.mpr ⟨own.symm, number⟩) new
    | incomplete fresh fits new ends missing => cases found
    | complete fresh fits new ends all => cases found
  · rw [assembles.others frame.channel own] at found
    exact rising.2 assembly (ChannelState.assembly_of_expire found) number

/-- In every run in which the fragments of a frame are taken in with increasing numbers,
the frame comes out as it was sent whenever it is complete. -/
theorem frames_in_order_unharmed (frame : SentFrame) (deliveries : List Delivery)
    (sends : frame.Sends deliveries)
    (order : assemblyMachine.Meets (fun receiver delivery =>
      frame.inOrder receiver delivery = true) {} deliveries) :
    forall history delivery data, history ++ [delivery] <+: deliveries ->
      frame.isOf delivery.fragment = true ->
      (assemblyMachine.run {} history).returns delivery = .ok (some data) ->
      data = frame.data := by
  rintro history delivery data ⟨later, rfl⟩ own returned
  rw [List.append_assoc, Machine.meets_append] at order
  have rising : Rising frame (assemblyMachine.run {} history) := by
    refine Machine.run_invariant_of_meets _ _ (Rising frame) ?_ {} history (rising_initial frame)
      order.1
    intro receiver step after holds condition moved
    cases moved
    exact rising_step holds condition
  have completes := completes_of_returns (wellKept_run history) returned
  obtain ⟨before, start, since, parts, same, begins, within, built⟩ :=
    parts_of_completes completes
  have members : forall part, part ∈ parts -> part ∈ frame.fragments := by
    intro part member
    obtain ⟨step, delivered, rfl⟩ := List.mem_map.mp (within.subset member)
    refine sends step (List.mem_append_left later ?_) ?_
    · rw [same]
      exact List.mem_append_right before delivered
    · obtain ⟨channel, number, -⟩ := built.labels step.fragment member
      rw [MediaAssembly.grow_frameNumber, assemblyFor_frameNumber] at number
      obtain ⟨ownChannel, ownNumber⟩ := SentFrame.isOf_iff.mp own
      exact SentFrame.isOf_iff.mpr ⟨channel.trans ownChannel, number.trans ownNumber⟩
  have increasing : parts.Pairwise MediaFragment.Precedes := by
    have seen := rising_grow rising order.2.1 own completes.new
    rw [built.seen, List.pairwise_reverse, List.pairwise_map] at seen
    exact seen
  have known : delivery.fragment ∈ frame.fragments :=
    sends delivery (List.mem_append_left later (List.mem_append_right history
      List.mem_cons_self)) own
  have length : parts.length = frame.fragments.length := by
    have remainder := length_mod_of_completes completes built
    have distinct : parts.Nodup := List.Nodup.of_map _ built.distinct
    have bounded : parts.length ≤ frame.fragments.length :=
      (List.subperm_of_subset distinct members).length_le
    have small := SentFrame.length_lt known
    rw [(frame.labels delivery.fragment known).2.2, Nat.mod_eq_of_lt (by omega)] at remainder
    exact remainder
  rw [completes.data, SentFrame.data, ← SentFrame.eq_of_increasing members increasing length,
    ← built.data]
  rfl

/-- One byte of a frame of three. -/
def byteOfThree (subsequence : UInt16) (byte : UInt8) (isEndFragment : Bool) : MediaFragment where
  channelId := 0x0105
  channel := 0x05
  fragmentCount := 3
  payload := [byte]
  subsequence := subsequence
  frameNumber := 1
  isEndFragment := isEndFragment

def threeBytes : SentFrame where
  channel := 0x05
  frameNumber := 1
  fragments := [byteOfThree 0 1 false, byteOfThree 1 2 false, byteOfThree 2 3 true]
  increasing := by decide
  labels := by decide

/-- The first two fragments are exchanged on the way. -/
theorem exchanged_fragments_corrupt_frame :
    let history : List Delivery := [⟨byteOfThree 1 2 false, 0⟩, ⟨byteOfThree 0 1 false, 0⟩]
    let delivery : Delivery := ⟨byteOfThree 2 3 true, 0⟩
    threeBytes.Sends (history ++ [delivery]) ∧ threeBytes.isOf delivery.fragment = true ∧
      (assemblyMachine.run {} history).returns delivery = .ok (some [2, 1, 3]) ∧
        [2, 1, 3] ≠ threeBytes.data := by
  unfold SentFrame.Sends
  decide

/-- The fragments arrive as they were sent, the second one twice. -/
theorem ordered_fragments_give_frame :
    let history : List Delivery :=
      [⟨byteOfThree 0 1 false, 0⟩, ⟨byteOfThree 1 2 false, 0⟩, ⟨byteOfThree 1 2 false, 0⟩]
    let delivery : Delivery := ⟨byteOfThree 2 3 true, 0⟩
    (assemblyMachine.run {} history).returns delivery = .ok (some [1, 2, 3]) ∧
      [1, 2, 3] = threeBytes.data := by
  intro history delivery
  refine ⟨by decide, ?_⟩
  exact frames_in_order_unharmed threeBytes (history ++ [delivery])
    (by unfold SentFrame.Sends; decide) (by decide) history delivery [1, 2, 3]
    (List.prefix_refl _) (by decide) (by decide)

end Camera
end PetlibroRelay
