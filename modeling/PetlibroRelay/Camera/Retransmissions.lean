import PetlibroRelay.Camera.Reassembly

namespace PetlibroRelay
namespace Camera

open Foundations

/-!
# Fragments of a finished frame

The camera numbers the fragments of a channel one after the other, modulo 2^16.  When a
frame is complete the number of its last fragment is kept, and a fragment with a number
up to it is taken for one that is known.

The numbers are compared as they are.  Of a frame whose numbers start again in the middle,
the fragments before that place have greater numbers than its last fragment.  Delivered
again they are not known, and what is in progress on the channel gives way to them.
-/

/-! ## Consecutive numbers -/

/-- A frame as part of a stream: its fragments are numbered one after the other, and the
last one only is marked as the end. -/
structure StreamFrame where
  channel : UInt8
  frameNumber : UInt32
  first : UInt16
  fragments : List MediaFragment
  numbered : forall place fragment, fragments[place]? = some fragment ->
    fragment.subsequence = first + UInt16.ofNat place
  labels : forall fragment, fragment ∈ fragments -> fragment.channel = channel ∧
    fragment.frameNumber = frameNumber ∧ fragment.fragmentCount.toNat = fragments.length
  marked : forall place fragment, fragments[place]? = some fragment ->
    fragment.isEndFragment = decide (place + 1 = fragments.length)

namespace StreamFrame

variable {frame : StreamFrame}

/-- A fragment that ends a frame is the last one of it. -/
theorem last_of_ends {place : Nat} {fragment : MediaFragment}
    (found : frame.fragments[place]? = some fragment) (ends : fragment.ends = true) :
    place + 1 = frame.fragments.length := by
  rw [MediaFragment.ends, Bool.or_eq_true, decide_eq_true_eq] at ends
  rcases ends with single | marked
  · have count := (frame.labels fragment (List.mem_of_getElem? found)).2.2
    have within := (List.getElem?_eq_some_iff.mp found).1
    rw [single] at count
    have one : (1 : UInt8).toNat = 1 := rfl
    omega
  · rw [frame.marked place fragment found, decide_eq_true_eq] at marked
    exact marked

/-- A fragment is a few numbers before the last one, modulo 2^16. -/
theorem distance_of_last {fragment last : MediaFragment} (member : fragment ∈ frame.fragments)
    (lastMember : last ∈ frame.fragments) (ends : last.ends = true) :
    last.subsequence - fragment.subsequence < 0x8000 := by
  obtain ⟨place, found⟩ := List.mem_iff_getElem?.mp member
  obtain ⟨end_, lastFound⟩ := List.mem_iff_getElem?.mp lastMember
  have final := last_of_ends lastFound ends
  have within := (List.getElem?_eq_some_iff.mp found).1
  have count := (frame.labels fragment member).2.2
  have small := fragment.fragmentCount.toNat_lt
  have apart : end_ = place + (end_ - place) := by omega
  have steps : last.subsequence = fragment.subsequence + UInt16.ofNat (end_ - place) := by
    rw [frame.numbered end_ last lastFound, frame.numbered place fragment found, UInt16.add_assoc,
      ← UInt16.ofNat_add, ← apart]
  have distance : last.subsequence - fragment.subsequence = UInt16.ofNat (end_ - place) := by
    rw [steps, UInt16.add_comm, UInt16.add_sub_cancel]
  rw [distance, UInt16.lt_iff_toNat_lt, UInt16.toNat_ofNat']
  have bound : (0x8000 : UInt16).toNat = 32768 := rfl
  omega

end StreamFrame

/-- A fragment of the frame is known if its number is not greater than the last one. -/
theorem isDuplicate_iff {frame : StreamFrame} {fragment last : MediaFragment}
    {state : ChannelState} (member : fragment ∈ frame.fragments)
    (lastMember : last ∈ frame.fragments) (ends : last.ends = true)
    (ended : state.last = some last.subsequence) :
    state.isDuplicate fragment.subsequence = true ↔ fragment.subsequence ≤ last.subsequence := by
  have near := StreamFrame.distance_of_last member lastMember ends
  simp only [ChannelState.isDuplicate, ended, decide_eq_true near, Bool.and_true, Bool.or_eq_true,
    decide_eq_true_eq]
  constructor
  · rintro (same | less)
    · exact UInt16.le_of_eq same
    · exact UInt16.le_of_lt less
  · intro atMost
    exact (UInt16.le_iff_lt_or_eq.mp atMost).symm

/-! ## Deliveries that change nothing -/

/-- The receiver is as it was: what it puts together, the last numbers it keeps and what it
has counted. -/
structure SameReceiver (before after : MediaReceiver) : Prop where
  channels : forall channel, after.channel channel = before.channel channel
  stats : after.stats = before.stats

/-- A delivery changes nothing and returns nothing.  In a packet it changes and returns
nothing either, whatever has been counted. -/
structure Inert (receiver : MediaReceiver) (delivery : Delivery) : Prop where
  same : SameReceiver receiver (assemblyMachine.next receiver delivery)
  nothing : receiver.returns delivery = .ok none
  packets : forall stats packet sessionId,
    decodeMediaFragment packet sessionId = .ok (some delivery.fragment) ->
    let counting : MediaReceiver := { receiver with stats := stats }
    SameReceiver counting (counting.handlePacket packet sessionId delivery.now).1 ∧
      (counting.handlePacket packet sessionId delivery.now).2 = .ok none ∧
      SameReceiver counting (counting.handleAudioPacket packet sessionId delivery.now).1 ∧
      (counting.handleAudioPacket packet sessionId delivery.now).2 = .ok none

/-- Nothing in progress has become too old. -/
def Settled (receiver : MediaReceiver) (now : Int) : Prop :=
  forall channel assembly, (receiver.channel channel).assembly = some assembly ->
    isExpired assembly now = false

/-- The fragment is in what is put together under the number of its frame. -/
def Holds (state : ChannelState) (fragment : MediaFragment) : Prop :=
  exists assembly, state.assembly = some assembly ∧ assembly.frameNumber = fragment.frameNumber ∧
    ¬ assembly.refuses fragment ∧ fragment.subsequence ∈ assembly.seenSubsequences

theorem ChannelState.expire_eq_self_iff (state : ChannelState) (now : Int) :
    state.expire now = state ↔
      forall assembly, state.assembly = some assembly -> isExpired assembly now = false := by
  obtain ⟨assembly, last⟩ := state
  cases assembly with
  | none => exact iff_of_true rfl (by rintro _ ⟨⟩)
  | some assembly =>
      simp only [ChannelState.expire, Option.filter_some]
      cases old : isExpired assembly now with
      | false =>
          refine iff_of_true rfl ?_
          rintro other ⟨⟩
          exact old
      | true =>
          refine iff_of_false (by rintro ⟨⟩) ?_
          intro young
          have young := young assembly rfl
          rw [old] at young
          cases young

/-- When the channel of a delivery is left as it is and nothing is returned. -/
theorem takes_nothing_iff {state after : ChannelState} {fragment : MediaFragment} {now : Int}
    {result : Except MediaError (Option Packet)} (takes : Takes state fragment now after result) :
    after = state ∧ result = .ok none ↔
      (forall assembly, state.assembly = some assembly -> isExpired assembly now = false) ∧
        (state.isDuplicate fragment.subsequence = true ∨ Holds state fragment) := by
  constructor
  · rintro ⟨same, nothing⟩
    cases takes with
    | duplicate known =>
        exact ⟨(state.expire_eq_self_iff now).mp same, Or.inl known⟩
    | refused fresh refuses => cases nothing
    | repeated fresh fits seen =>
        have stored := congrArg ChannelState.assembly same
        cases joins : state.joins fragment now with
        | none =>
            rw [ChannelState.assemblyFor_of_begins joins] at seen
            cases seen
        | some assembly =>
            rw [ChannelState.assemblyFor_of_joins joins] at seen fits
            obtain ⟨found, young, number⟩ := ChannelState.joins_eq_some joins
            refine ⟨?_, Or.inr ⟨assembly, found, number, fits, seen⟩⟩
            intro other otherFound
            rw [found] at otherFound
            cases otherFound
            exact young
    | grown fresh fits new goesOn =>
        -- A fragment that is added makes what is put together longer, or begins it now.
        have stored : some ((state.assemblyFor fragment now).grow fragment) = state.assembly :=
          congrArg ChannelState.assembly same
        cases joins : state.joins fragment now with
        | none =>
            rw [ChannelState.assemblyFor_of_begins joins] at stored
            refine absurd joins ?_
            rw [ChannelState.joins, ChannelState.expire, ← stored]
            simp [isExpired, MediaFragment.anew, MEDIA_ASSEMBLY_TIMEOUT]
        | some assembly =>
            rw [ChannelState.assemblyFor_of_joins joins, (ChannelState.joins_eq_some joins).1,
              Option.some_inj] at stored
            have longer := congrArg (fun assembly => assembly.seenSubsequences.length) stored
            exact absurd longer (Nat.succ_ne_self _)
    | incomplete fresh fits new ends missing => cases nothing
    | complete fresh fits new ends all => cases nothing
  · rintro ⟨young, known | ⟨assembly, found, number, fits, seen⟩⟩
    · obtain ⟨same, nothing⟩ := takes.unique (.duplicate known)
      exact ⟨same.trans ((state.expire_eq_self_iff now).mpr young), nothing⟩
    · cases known : state.isDuplicate fragment.subsequence with
      | true =>
          obtain ⟨same, nothing⟩ := takes.unique (.duplicate known)
          exact ⟨same.trans ((state.expire_eq_self_iff now).mpr young), nothing⟩
      | false =>
          have joins : state.joins fragment now = some assembly := by
            rw [ChannelState.joins, (state.expire_eq_self_iff now).mpr young, found,
              Option.filter_some, if_pos (decide_eq_true number)]
          have own := ChannelState.assemblyFor_of_joins joins
          obtain ⟨same, nothing⟩ := takes.unique
            (.repeated known (own.symm ▸ fits) (own.symm ▸ seen))
          rw [own, ← found] at same
          exact ⟨same, nothing⟩

theorem sameReceiver_refl (receiver : MediaReceiver) : SameReceiver receiver receiver :=
  ⟨fun _ => rfl, rfl⟩

/-- In a packet a delivery that changes nothing does so as well. -/
theorem packets_of_nothing {receiver : MediaReceiver} {delivery : Delivery}
    (same : SameReceiver receiver (assemblyMachine.next receiver delivery))
    (nothing : receiver.returns delivery = .ok none) (stats : MediaStats) {packet : Packet}
    {sessionId : SessionId}
    (decoded : decodeMediaFragment packet sessionId = .ok (some delivery.fragment)) :
    let counting : MediaReceiver := { receiver with stats := stats }
    SameReceiver counting (counting.handlePacket packet sessionId delivery.now).1 ∧
      (counting.handlePacket packet sessionId delivery.now).2 = .ok none ∧
      SameReceiver counting (counting.handleAudioPacket packet sessionId delivery.now).1 ∧
      (counting.handleAudioPacket packet sessionId delivery.now).2 = .ok none := by
  intro counting
  have assembled : counting.assemble delivery.fragment delivery.now =
      ({ assemblyMachine.next receiver delivery with stats := stats }, .ok none) := by
    rw [assemble_of_stats, ← nothing]
    rfl
  have counted : SameReceiver counting
      { assemblyMachine.next receiver delivery with stats := stats } :=
    ⟨same.channels, rfl⟩
  unfold MediaReceiver.handlePacket MediaReceiver.handleAudioPacket
  simp only [decoded, assembled]
  refine ⟨?_, ?_, ?_, ?_⟩
  · split
    · exact sameReceiver_refl counting
    · exact counted
  · split
    · rfl
    · rfl
  · split
    · exact sameReceiver_refl counting
    · exact counted
  · split
    · rfl
    · rfl

/-- When a delivery is inert. -/
theorem inert_iff {receiver : MediaReceiver} (kept : receiver.WellKept) (delivery : Delivery) :
    Inert receiver delivery ↔ Settled receiver delivery.now ∧
      ((receiver.channel delivery.fragment.channel).isDuplicate
          delivery.fragment.subsequence = true ∨
        Holds (receiver.channel delivery.fragment.channel) delivery.fragment) := by
  have assembles := assembles_next kept delivery
  have own := takes_nothing_iff assembles.own
  constructor
  · rintro ⟨⟨channels, -⟩, nothing, -⟩
    obtain ⟨young, known⟩ := own.mp ⟨channels _, nothing⟩
    refine ⟨?_, known⟩
    intro channel assembly found
    by_cases same : channel = delivery.fragment.channel
    · exact young assembly (same ▸ found)
    · have kept := channels channel
      rw [assembles.others channel same] at kept
      exact (ChannelState.expire_eq_self_iff _ _).mp kept assembly found
  · rintro ⟨settled, known⟩
    obtain ⟨ownSame, nothing⟩ := own.mpr ⟨settled _, known⟩
    have same : SameReceiver receiver (assemblyMachine.next receiver delivery) := by
      refine ⟨?_, assembles.stats⟩
      intro channel
      by_cases same : channel = delivery.fragment.channel
      · rw [same]
        exact ownSame
      · rw [assembles.others channel same]
        exact (ChannelState.expire_eq_self_iff _ _).mpr (settled channel)
    exact ⟨same, nothing, fun stats _ _ => packets_of_nothing same nothing stats⟩

/-! ## Retransmissions -/

/-- After a frame of the stream is complete, and before the next one of its channel is, a
fragment of it that is delivered again is inert exactly when nothing in progress is too old
and the number of the fragment is not greater than that of the last one, or the fragment
has been taken in again already. -/
theorem retransmission_inert_iff (frame : StreamFrame) (history : List Delivery)
    (final : Delivery) (data : Packet)
    (completed : (assemblyMachine.run {} history).returns final = .ok (some data))
    (finished : final.fragment ∈ frame.fragments) (later : List Delivery)
    (pending : CompletesNothing frame.channel (assemblyMachine.run {} (history ++ [final])) later)
    (delivery : Delivery) (again : delivery.fragment ∈ frame.fragments) :
    Inert (assemblyMachine.run {} (history ++ [final] ++ later)) delivery ↔
      Settled (assemblyMachine.run {} (history ++ [final] ++ later)) delivery.now ∧
      (delivery.fragment.subsequence ≤ final.fragment.subsequence ∨
        Holds ((assemblyMachine.run {} (history ++ [final] ++ later)).channel frame.channel)
          delivery.fragment) := by
  have completes := completes_of_returns (wellKept_run history) completed
  have ended : ((assemblyMachine.run {} (history ++ [final] ++ later)).channel
      frame.channel).last = some final.fragment.subsequence := by
    rw [Machine.run_append, last_of_run (wellKept_run _) pending, run_concat,
      ← (frame.labels final.fragment finished).1, completes.after]
  rw [inert_iff (wellKept_run _), (frame.labels delivery.fragment again).1,
    isDuplicate_iff again finished completes.ends ended]

/-- A fragment of a frame of two whose numbers start again in the middle. -/
def aroundTheEnd (subsequence : UInt16) (frameNumber : UInt32) (isEndFragment : Bool) :
    Delivery where
  fragment := {
    channelId := 0x0105
    channel := H264_MAIN_CHANNEL
    fragmentCount := 2
    payload := [0]
    subsequence := subsequence
    frameNumber := frameNumber
    isEndFragment := isEndFragment }
  now := 0

/-- A frame of two fragments from a number on. -/
def pairFrom (first : UInt16) : StreamFrame where
  channel := H264_MAIN_CHANNEL
  frameNumber := 1
  first := first
  fragments := [(aroundTheEnd first 1 false).fragment, (aroundTheEnd (first + 1) 1 true).fragment]
  numbered := by
    intro place fragment found
    match place, found with
    | 0, rfl => exact (UInt16.add_zero first).symm
    | 1, rfl => rfl
  labels := by
    intro fragment member
    rcases List.mem_pair.mp member with rfl | rfl
    · exact ⟨rfl, rfl, rfl⟩
    · exact ⟨rfl, rfl, rfl⟩
  marked := by
    intro place fragment found
    match place, found with
    | 0, rfl => rfl
    | 1, rfl => rfl

/-- The numbers of a frame start again in the middle.  Its first fragment, delivered once
more, takes the place of the next frame in progress. -/
theorem retransmission_displaces_next_frame :
    let history := [aroundTheEnd 0xFFFF 1 false]
    let final := aroundTheEnd 0 1 true
    let later := [aroundTheEnd 1 2 false]
    let receiver := assemblyMachine.run {} (history ++ [final] ++ later)
    let delivery := aroundTheEnd 0xFFFF 1 false
    (assemblyMachine.run {} history).returns final = .ok (some [0, 0]) ∧
      final.fragment ∈ (pairFrom 0xFFFF).fragments ∧
      CompletesNothing H264_MAIN_CHANNEL (assemblyMachine.run {} (history ++ [final])) later ∧
      delivery.fragment ∈ (pairFrom 0xFFFF).fragments ∧
      ((receiver.channel H264_MAIN_CHANNEL).assembly.map MediaAssembly.frameNumber,
        ((assemblyMachine.next receiver delivery).channel H264_MAIN_CHANNEL).assembly.map
          MediaAssembly.frameNumber) = (some 2, some 1) ∧
      ¬ Inert receiver delivery := by
  intro history final later receiver delivery
  refine ⟨by decide, by decide, ⟨?_, trivial⟩, by decide, by decide, ?_⟩
  · intro _ data
    have nothing : (assemblyMachine.run {} (history ++ [final])).returns
        (aroundTheEnd 1 2 false) = .ok none := by decide
    rw [nothing]
    rintro ⟨⟩
  · intro inert
    have same := congrArg ChannelState.assembly (inert.same.channels H264_MAIN_CHANNEL)
    have displaced : ((assemblyMachine.next receiver delivery).channel
        H264_MAIN_CHANNEL).assembly ≠ (receiver.channel H264_MAIN_CHANNEL).assembly := by decide
    exact displaced same

/-- A fragment of a frame without such a place is inert. -/
theorem retransmission_inert_without_wrap :
    Inert (assemblyMachine.run {} [aroundTheEnd 0 1 false, aroundTheEnd 1 1 true])
      (aroundTheEnd 0 1 false) := by
  refine (retransmission_inert_iff (pairFrom 0) [aroundTheEnd 0 1 false] (aroundTheEnd 1 1 true)
    [0, 0] (by decide) (by decide) [] trivial (aroundTheEnd 0 1 false) (by decide)).mpr ⟨?_, ?_⟩
  · rintro channel assembly found
    cases found
  · exact Or.inl (by decide)

end Camera
end PetlibroRelay
