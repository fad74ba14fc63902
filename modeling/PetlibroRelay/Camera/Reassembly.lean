import PetlibroRelay.Camera.NalDetection
import PetlibroRelay.Camera.SentFrames

namespace PetlibroRelay
namespace Camera

open Foundations

/-!
# Putting a frame together again

The fragments of a frame arrive in their order and within a second.  In between there may
be fragments of other channels, and fragments of the frame that have arrived already.
The frame is then returned once, with its last fragment, and its data is that of all its
fragments.

The receiver may have any history.  Only the channel of the frame matters: no frame with
its number is in progress there, and none of its fragments passes for one of an earlier
frame.
-/

/-! ## How a frame arrives -/

/-- The end of a frame is marked on its last fragment only, and there is room for the frame
and any fragment of it. -/
structure SentFrame.WellCut (frame : SentFrame) : Prop where
  nonempty : frame.fragments ≠ []
  marked : forall early last, frame.fragments = early ++ [last] ->
    last.isEndFragment = true ∧ forall fragment, fragment ∈ early -> fragment.isEndFragment = false
  fits : forall fragment, fragment ∈ frame.fragments ->
    frame.data.length + fragment.payload.length ≤ MAX_MEDIA_FRAME_BYTES

/-- A delivery comes in time while the frame is under way. -/
def InTime (start : Option Int) (rest : List MediaFragment) (now : Int) : Prop :=
  rest = [] ∨ forall begun, start = some begun -> now - begun ≤ MEDIA_ASSEMBLY_TIMEOUT

/-- The fragments still to come arrive in their order.  Fragments of other channels, and
fragments that have arrived already, may come in between. -/
inductive Carried (channel : UInt8) : Option Int -> List MediaFragment -> List MediaFragment ->
    List Delivery -> Prop
  | done {start : Option Int} {arrived : List MediaFragment} : Carried channel start arrived [] []
  | other {start : Option Int} {arrived rest : List MediaFragment} {delivery : Delivery}
      {later : List Delivery} (foreign : delivery.fragment.channel ≠ channel)
      (inTime : InTime start rest delivery.now) (carried : Carried channel start arrived rest later) :
      Carried channel start arrived rest (delivery :: later)
  | again {start : Option Int} {arrived rest : List MediaFragment} {delivery : Delivery}
      {later : List Delivery} (known : delivery.fragment ∈ arrived)
      (inTime : InTime start rest delivery.now) (carried : Carried channel start arrived rest later) :
      Carried channel start arrived rest (delivery :: later)
  | next {start : Option Int} {arrived rest : List MediaFragment} {delivery : Delivery}
      {later : List Delivery} (inTime : InTime start (delivery.fragment :: rest) delivery.now)
      (carried : Carried channel (start.or (some delivery.now)) (arrived ++ [delivery.fragment])
        rest later) :
      Carried channel start arrived (delivery.fragment :: rest) (delivery :: later)

/-- No delivery of the channel completes a frame. -/
def CompletesNothing (channel : UInt8) (receiver : MediaReceiver) (deliveries : List Delivery) : Prop :=
  assemblyMachine.Meets (fun receiver delivery => delivery.fragment.channel = channel ->
    forall data, receiver.returns delivery ≠ .ok (some data)) receiver deliveries

/-- One delivery of the channel completes a frame, the first one of its fragment. -/
def CompletesOnce (channel : UInt8) (last : MediaFragment) (data : Packet)
    (receiver : MediaReceiver) (deliveries : List Delivery) : Prop :=
  exists early final late, deliveries = early ++ final :: late ∧ final.fragment = last ∧
    (forall delivery, delivery ∈ early -> delivery.fragment ≠ last) ∧
    CompletesNothing channel receiver early ∧
    (assemblyMachine.run receiver early).returns final = .ok (some data) ∧
    CompletesNothing channel (assemblyMachine.run receiver (early ++ [final])) late

theorem CompletesOnce.after_quiet {channel : UInt8} {last : MediaFragment} {data : Packet}
    {receiver : MediaReceiver} {delivery : Delivery} {deliveries : List Delivery}
    (quiet : delivery.fragment.channel = channel ->
      forall data, receiver.returns delivery ≠ .ok (some data))
    (different : delivery.fragment ≠ last)
    (once : CompletesOnce channel last data (assemblyMachine.next receiver delivery) deliveries) :
    CompletesOnce channel last data receiver (delivery :: deliveries) := by
  obtain ⟨early, final, late, rfl, same, others, before, returned, after⟩ := once
  refine ⟨delivery :: early, final, late, rfl, same, ?_, ⟨quiet, before⟩, returned, after⟩
  intro other member
  rcases List.mem_cons.mp member with rfl | earlier
  · exact different
  · exact others other earlier

/-! ## While the frame is under way -/

/-- The frame has begun at a time, or not yet, and these of its fragments have arrived. -/
structure Underway (frame : SentFrame) (start : Option Int) (arrived : List MediaFragment)
    (receiver : MediaReceiver) : Prop where
  kept : receiver.WellKept
  fresh : forall fragment, fragment ∈ frame.fragments ->
    (receiver.channel frame.channel).isDuplicate fragment.subsequence = false
  waiting : start = none -> arrived = [] ∧
    forall assembly, (receiver.channel frame.channel).assembly = some assembly ->
      assembly.frameNumber ≠ frame.frameNumber
  begun : forall time, start = some time -> exists assembly,
    (receiver.channel frame.channel).assembly = some assembly ∧
      assembly.frameNumber = frame.frameNumber ∧
      assembly.expectedFragments.toNat = frame.fragments.length ∧
      assembly.startedAt = time ∧ BuiltFrom frame.channel assembly arrived

section Underway

variable {frame : SentFrame} {start : Option Int} {arrived : List MediaFragment}
  {receiver : MediaReceiver}

/-- In time nothing of the frame is given up. -/
theorem Underway.expire (underway : Underway frame start arrived receiver) {now : Int}
    (inTime : forall begun, start = some begun -> now - begun ≤ MEDIA_ASSEMBLY_TIMEOUT)
    {after : MediaReceiver} (kept : after.WellKept)
    (same : after.channel frame.channel = (receiver.channel frame.channel).expire now) :
    Underway frame start arrived after := by
  refine ⟨kept, ?_, ?_, ?_⟩
  · intro fragment member
    rw [same]
    exact underway.fresh fragment member
  · intro none_
    refine ⟨(underway.waiting none_).1, ?_⟩
    intro assembly found
    rw [same] at found
    exact (underway.waiting none_).2 assembly (ChannelState.assembly_of_expire found)
  · intro time some_
    obtain ⟨assembly, found, number, expected, started, built⟩ := underway.begun time some_
    refine ⟨assembly, ?_, number, expected, started, built⟩
    rw [same, ChannelState.expire, found, Option.filter_some, if_pos]
    rw [isExpired, started, Bool.not_eq_true', decide_eq_false_iff_not]
    exact Int.not_lt.mpr (inTime time some_)

/-- What a fragment of the frame is put to. -/
theorem Underway.assemblyFor (underway : Underway frame start arrived receiver) {now : Int}
    (inTime : forall begun, start = some begun -> now - begun ≤ MEDIA_ASSEMBLY_TIMEOUT)
    {fragment : MediaFragment} (member : fragment ∈ frame.fragments) :
    let assembly := (receiver.channel frame.channel).assemblyFor fragment now
    assembly.frameNumber = frame.frameNumber ∧
      assembly.expectedFragments = fragment.fragmentCount ∧
      assembly.startedAt = start.getD now ∧ BuiltFrom frame.channel assembly arrived := by
  obtain ⟨channel, number, count⟩ := frame.labels fragment member
  cases begins : start with
  | none =>
      obtain ⟨nothing, others⟩ := underway.waiting begins
      have joins : (receiver.channel frame.channel).joins fragment now = none := by
        refine Option.filter_eq_none_iff.mpr ?_
        intro assembly found same
        refine others assembly (ChannelState.assembly_of_expire found) ?_
        exact (of_decide_eq_true same).trans number
      rw [ChannelState.assemblyFor_of_begins joins, nothing, ← channel]
      exact ⟨number, rfl, rfl, builtFrom_anew fragment now⟩
  | some time =>
      obtain ⟨assembly, found, same, expected, started, built⟩ := underway.begun time begins
      have joins : (receiver.channel frame.channel).joins fragment now = some assembly := by
        refine Option.filter_eq_some_iff.mpr ⟨Option.filter_eq_some_iff.mpr ⟨found, ?_⟩, ?_⟩
        · rw [isExpired, started, Bool.not_eq_true', decide_eq_false_iff_not]
          exact Int.not_lt.mpr (inTime time begins)
        · exact decide_eq_true (same.trans number.symm)
      rw [ChannelState.assemblyFor_of_joins joins]
      refine ⟨same, UInt8.toNat_inj.mp (expected.trans count.symm), started, built⟩

/-- Part of a frame is not longer than the frame. -/
theorem length_payloads_le {parts rest whole : List MediaFragment} (split : whole = parts ++ rest) :
    (parts.map MediaFragment.payload).flatten.length ≤
      (whole.map MediaFragment.payload).flatten.length := by
  rw [split, List.map_append, List.flatten_append, List.length_append]
  exact Nat.le_add_right _ _

/-- There is room for every fragment of the frame. -/
theorem Underway.fits (underway : Underway frame start arrived receiver) (cut : frame.WellCut)
    {rest : List MediaFragment} (split : frame.fragments = arrived ++ rest) {now : Int}
    (inTime : forall begun, start = some begun -> now - begun ≤ MEDIA_ASSEMBLY_TIMEOUT)
    {fragment : MediaFragment} (member : fragment ∈ frame.fragments) :
    ¬ ((receiver.channel frame.channel).assemblyFor fragment now).refuses fragment := by
  obtain ⟨-, expected, -, built⟩ := underway.assemblyFor inTime member
  rintro (other | long)
  · exact other expected
  · have room := cut.fits fragment member
    have part := length_payloads_le split
    rw [built.data] at long
    rw [SentFrame.data] at room
    omega

/-- The channel goes on with these fragments of the frame. -/
theorem Underway.goesOn (underway : Underway frame start arrived receiver)
    {after : MediaReceiver} (kept : after.WellKept) {assembly : MediaAssembly}
    (own : after.channel frame.channel = ⟨some assembly, (receiver.channel frame.channel).last⟩)
    (number : assembly.frameNumber = frame.frameNumber)
    (expected : assembly.expectedFragments.toNat = frame.fragments.length)
    {present : List MediaFragment} (built : BuiltFrom frame.channel assembly present) :
    Underway frame (some assembly.startedAt) present after := by
  refine ⟨kept, ?_, nofun, ?_⟩
  · intro fragment member
    rw [own]
    exact underway.fresh fragment member
  · rintro time ⟨⟩
    rw [own]
    exact ⟨assembly, rfl, number, expected, rfl, built⟩

/-- What is delivered on another channel leaves the frame under way. -/
theorem Underway.other (underway : Underway frame start arrived receiver) {delivery : Delivery}
    (foreign : delivery.fragment.channel ≠ frame.channel)
    (inTime : forall begun, start = some begun -> delivery.now - begun ≤ MEDIA_ASSEMBLY_TIMEOUT) :
    Underway frame start arrived (assemblyMachine.next receiver delivery) := by
  have assembles := assembles_next underway.kept delivery
  exact underway.expire inTime assembles.kept (assembles.others frame.channel foreign.symm)

/-- A fragment that has arrived already changes nothing. -/
theorem Underway.again (underway : Underway frame start arrived receiver) (cut : frame.WellCut)
    {rest : List MediaFragment} (split : frame.fragments = arrived ++ rest) {delivery : Delivery}
    (known : delivery.fragment ∈ arrived)
    (inTime : forall begun, start = some begun -> delivery.now - begun ≤ MEDIA_ASSEMBLY_TIMEOUT) :
    Underway frame start arrived (assemblyMachine.next receiver delivery) ∧
      receiver.returns delivery = .ok none := by
  have member : delivery.fragment ∈ frame.fragments := split ▸ List.mem_append_left rest known
  have labels := frame.labels delivery.fragment member
  obtain ⟨number, expected, started, built⟩ := underway.assemblyFor inTime member
  have fits := underway.fits cut split inTime member
  have fresh := underway.fresh delivery.fragment member
  have assembles := assembles_next underway.kept delivery
  have own := assembles.own
  rw [labels.1] at own
  have repeated := Takes.repeated fresh fits (by
    rw [built.seen, List.mem_reverse]
    exact List.mem_map_of_mem known)
  obtain ⟨after, returned⟩ := own.unique repeated
  refine ⟨?_, returned⟩
  have goesOn := underway.goesOn assembles.kept after number
    (by rw [expected, labels.2.2]) built
  cases begins : start with
  | none =>
      rw [(underway.waiting begins).1] at known
      cases known
  | some time =>
      rw [started, begins] at goesOn
      exact goesOn

/-- The number of the next fragment is not among those that have arrived. -/
theorem Underway.next_not_seen {assembly : MediaAssembly} {fragment : MediaFragment}
    {rest : List MediaFragment} (split : frame.fragments = arrived ++ fragment :: rest)
    (built : BuiltFrom frame.channel assembly arrived) :
    fragment.subsequence ∉ assembly.seenSubsequences := by
  rw [built.seen, List.mem_reverse, List.mem_map]
  rintro ⟨earlier, member, same⟩
  have increasing := frame.increasing
  rw [split] at increasing
  have before : earlier.subsequence < fragment.subsequence :=
    (List.pairwise_append.mp increasing).2.2 earlier member fragment List.mem_cons_self
  rw [same] at before
  exact Nat.lt_irrefl fragment.subsequence.toNat before

theorem BuiltFrom.grow_labelled {channel : UInt8} {assembly : MediaAssembly}
    {parts : List MediaFragment} {fragment : MediaFragment}
    (built : BuiltFrom channel assembly parts) (own : fragment.channel = channel)
    (number : fragment.frameNumber = assembly.frameNumber)
    (count : fragment.fragmentCount = assembly.expectedFragments)
    (new : fragment.subsequence ∉ assembly.seenSubsequences) :
    BuiltFrom channel (assembly.grow fragment) (parts ++ [fragment]) := by
  subst own
  exact built.grow number count new

/-- The next fragment, with more to come, is added. -/
theorem Underway.next (underway : Underway frame start arrived receiver) (cut : frame.WellCut)
    {delivery : Delivery} {following : MediaFragment} {rest : List MediaFragment}
    (split : frame.fragments = arrived ++ delivery.fragment :: following :: rest)
    (inTime : forall begun, start = some begun -> delivery.now - begun ≤ MEDIA_ASSEMBLY_TIMEOUT) :
    Underway frame (start.or (some delivery.now)) (arrived ++ [delivery.fragment])
        (assemblyMachine.next receiver delivery) ∧
      receiver.returns delivery = .ok none := by
  have member : delivery.fragment ∈ frame.fragments :=
    split ▸ List.mem_append_right arrived List.mem_cons_self
  have labels := frame.labels delivery.fragment member
  obtain ⟨number, expected, started, built⟩ := underway.assemblyFor inTime member
  have new := Underway.next_not_seen split built
  have assembles := assembles_next underway.kept delivery
  have own := assembles.own
  rw [labels.1] at own
  have goesOn : delivery.fragment.ends = false := by
    rw [MediaFragment.ends, Bool.or_eq_false_iff, decide_eq_false_iff_not]
    refine ⟨?_, ?_⟩
    · intro single
      have length := congrArg List.length split
      rw [← labels.2.2, single, List.length_append, List.length_cons, List.length_cons] at length
      have one : (1 : UInt8).toNat = 1 := rfl
      omega
    · obtain ⟨early, last, ending⟩ := List.eq_nil_or_concat (following :: rest) |>.resolve_left
        (List.cons_ne_nil _ _)
      refine (cut.marked (arrived ++ delivery.fragment :: early) last ?_).2 delivery.fragment
        (List.mem_append_right arrived List.mem_cons_self)
      rw [split, ending, List.append_assoc, List.cons_append, List.concat_eq_append]
  obtain ⟨after, returned⟩ := own.unique (Takes.grown (underway.fresh delivery.fragment member)
    (underway.fits cut split inTime member) new goesOn)
  refine ⟨?_, returned⟩
  have grown := underway.goesOn assembles.kept after number (by
    rw [MediaAssembly.grow_expectedFragments, expected, labels.2.2])
    (built.grow_labelled labels.1 (labels.2.1.trans number.symm) expected.symm new)
  rw [MediaAssembly.grow_startedAt, started] at grown
  cases start with
  | none => exact grown
  | some time => exact grown

/-- The last fragment completes the frame. -/
theorem Underway.last (underway : Underway frame start arrived receiver) (cut : frame.WellCut)
    {delivery : Delivery} (split : frame.fragments = arrived ++ [delivery.fragment])
    (inTime : forall begun, start = some begun -> delivery.now - begun ≤ MEDIA_ASSEMBLY_TIMEOUT) :
    ((assemblyMachine.next receiver delivery).channel frame.channel).last =
        some delivery.fragment.subsequence ∧
      receiver.returns delivery = .ok (some frame.data) := by
  have member : delivery.fragment ∈ frame.fragments :=
    split ▸ List.mem_append_right arrived List.mem_cons_self
  have labels := frame.labels delivery.fragment member
  obtain ⟨number, expected, started, built⟩ := underway.assemblyFor inTime member
  have own := (assembles_next underway.kept delivery).own
  rw [labels.1] at own
  have ends : delivery.fragment.ends = true := by
    rw [MediaFragment.ends, (cut.marked arrived delivery.fragment split).1, Bool.or_true]
  have all : ((receiver.channel frame.channel).assemblyFor delivery.fragment
      delivery.now).receivedFragments + 1 = delivery.fragment.fragmentCount := by
    have count := labels.2.2
    rw [split, List.length_append, List.length_singleton] at count
    rw [built.received, ← UInt8.toNat_inj, count, UInt8.toNat_add, UInt8.toNat_ofNat']
    have small := delivery.fragment.fragmentCount.toNat_lt
    have one : (1 : UInt8).toNat = 1 := rfl
    omega
  obtain ⟨after, returned⟩ := own.unique (Takes.complete
    (underway.fresh delivery.fragment member) (underway.fits cut split inTime member)
    (Underway.next_not_seen split built) ends all)
  refine ⟨congrArg ChannelState.last after, ?_⟩
  rw [returned, built.data, SentFrame.data, split, List.map_append, List.flatten_append,
    List.map_singleton, List.flatten_singleton]

end Underway

/-! ## After the frame -/

/-- The last number of a channel stays while no frame of it is completed. -/
theorem last_of_next {receiver : MediaReceiver} (kept : receiver.WellKept) {channel : UInt8}
    {delivery : Delivery} (nothing : delivery.fragment.channel = channel ->
      forall data, receiver.returns delivery ≠ .ok (some data)) :
    ((assemblyMachine.next receiver delivery).channel channel).last =
      (receiver.channel channel).last := by
  have assembles := assembles_next kept delivery
  by_cases own : delivery.fragment.channel = channel
  · have takes := assembles.own
    have nothing := nothing own
    rw [own] at takes
    revert takes nothing
    generalize (assemblyMachine.next receiver delivery).channel channel = after
    generalize receiver.returns delivery = result
    intro takes nothing
    cases takes with
    | duplicate known => rfl
    | refused fresh refuses => rfl
    | repeated fresh fits seen => rfl
    | grown fresh fits new goesOn => rfl
    | incomplete fresh fits new ends missing => rfl
    | complete fresh fits new ends all => exact absurd rfl (nothing _)
  · rw [assembles.others channel (Ne.symm own)]
    rfl

theorem last_of_run {receiver : MediaReceiver} (kept : receiver.WellKept) {channel : UInt8}
    {deliveries : List Delivery} (nothing : CompletesNothing channel receiver deliveries) :
    ((assemblyMachine.run receiver deliveries).channel channel).last =
      (receiver.channel channel).last := by
  induction deliveries generalizing receiver with
  | nil => rfl
  | cons delivery later inductionHypothesis =>
      have kept_ := (assembles_next kept delivery).kept
      exact (inductionHypothesis kept_ nothing.2).trans (last_of_next kept nothing.1)

/-- The frame is complete: its last fragment is the last one of the channel. -/
structure Finished (frame : SentFrame) (last : MediaFragment) (receiver : MediaReceiver) :
    Prop where
  kept : receiver.WellKept
  ended : (receiver.channel frame.channel).last = some last.subsequence

section Finished

variable {frame : SentFrame} {early : List MediaFragment} {last : MediaFragment}
  {receiver : MediaReceiver}

/-- A fragment of a complete frame is its last one, and known, or is not marked as a last
one. -/
theorem Finished.ends_or_known (finished : Finished frame last receiver) (cut : frame.WellCut)
    (split : frame.fragments = early ++ [last]) {fragment : MediaFragment}
    (member : fragment ∈ frame.fragments) :
    fragment.ends = false ∨
      (receiver.channel frame.channel).isDuplicate fragment.subsequence = true := by
  have among := member
  rw [split, List.mem_append, List.mem_singleton] at among
  rcases among with before | rfl
  · refine Or.inl ?_
    rw [MediaFragment.ends, (cut.marked early last split).2 fragment before, Bool.or_false,
      decide_eq_false_iff_not]
    intro single
    have count := (frame.labels fragment member).2.2
    have some_ := List.length_pos_of_mem before
    rw [single, split, List.length_append, List.length_singleton] at count
    have one : (1 : UInt8).toNat = 1 := rfl
    omega
  · refine Or.inr ?_
    rw [ChannelState.isDuplicate, finished.ended]
    simp only [decide_true, Bool.true_or]

/-- Nothing completes a frame again. -/
theorem Finished.step (finished : Finished frame last receiver) (cut : frame.WellCut)
    (split : frame.fragments = early ++ [last]) {delivery : Delivery}
    (among : delivery.fragment.channel ≠ frame.channel ∨ delivery.fragment ∈ frame.fragments) :
    Finished frame last (assemblyMachine.next receiver delivery) ∧
      (delivery.fragment.channel = frame.channel ->
        forall data, receiver.returns delivery ≠ .ok (some data)) := by
  have nothing : delivery.fragment.channel = frame.channel ->
      forall data, receiver.returns delivery ≠ .ok (some data) := by
    intro own data returned
    have known := finished.ends_or_known cut split (among.resolve_left (not_not_intro own))
    have completes := completes_of_returns finished.kept returned
    rcases known with goesOn | duplicate
    · rw [completes.ends] at goesOn
      cases goesOn
    · have fresh := completes.fresh
      rw [own, duplicate] at fresh
      cases fresh
  refine ⟨⟨(assembles_next finished.kept delivery).kept, ?_⟩, nothing⟩
  rw [last_of_next finished.kept nothing]
  exact finished.ended

theorem Finished.completesNothing (finished : Finished frame last receiver) (cut : frame.WellCut)
    (split : frame.fragments = early ++ [last]) {start : Option Int} {deliveries : List Delivery}
    (carried : Carried frame.channel start frame.fragments [] deliveries) :
    CompletesNothing frame.channel receiver deliveries := by
  induction deliveries generalizing receiver with
  | nil => trivial
  | cons delivery later inductionHypothesis =>
      cases carried with
      | other foreign inTime carried =>
          obtain ⟨next, none_⟩ := finished.step cut split (Or.inl foreign)
          exact ⟨none_, inductionHypothesis next carried⟩
      | again known inTime carried =>
          obtain ⟨next, none_⟩ := finished.step cut split (Or.inr known)
          exact ⟨none_, inductionHypothesis next carried⟩

end Finished

/-! ## The whole frame -/

/-- While fragments are to come, time counts. -/
theorem InTime.of_cons {start : Option Int} {fragment : MediaFragment} {rest : List MediaFragment}
    {now : Int} (inTime : InTime start (fragment :: rest) now) :
    forall begun, start = some begun -> now - begun ≤ MEDIA_ASSEMBLY_TIMEOUT :=
  inTime.resolve_left (List.cons_ne_nil fragment rest)

/-- A fragment that comes before others of its frame is not its last one. -/
theorem SentFrame.ne_of_before {frame : SentFrame} {early late : List MediaFragment}
    (split : frame.fragments = early ++ late) {first second : MediaFragment}
    (before : first ∈ early) (after : second ∈ late) : first ≠ second := by
  rintro rfl
  have increasing := frame.increasing
  rw [split] at increasing
  exact Nat.lt_irrefl first.subsequence.toNat
    ((List.pairwise_append.mp increasing).2.2 first before first after)

/-- From any point of a frame on, the rest of it completes it once. -/
theorem completesOnce_of_underway {frame : SentFrame} (cut : frame.WellCut)
    {start : Option Int} {arrived rest : List MediaFragment} {last : MediaFragment}
    {deliveries : List Delivery} (split : frame.fragments = arrived ++ rest)
    (ending : rest.getLast? = some last)
    (carried : Carried frame.channel start arrived rest deliveries) {receiver : MediaReceiver}
    (underway : Underway frame start arrived receiver) :
    CompletesOnce frame.channel last frame.data receiver deliveries := by
  have lastOfRest : forall {rest : List MediaFragment}, rest.getLast? = some last -> last ∈ rest :=
    List.mem_of_getLast?
  induction carried generalizing receiver with
  | done => cases ending
  | @other start arrived rest delivery later foreign inTime carried inductionHypothesis =>
      obtain ⟨fragment, rest, rfl⟩ := List.exists_cons_of_ne_nil
        (List.ne_nil_of_mem (lastOfRest ending))
      have next := underway.other foreign inTime.of_cons
      refine CompletesOnce.after_quiet (fun own => absurd own foreign) ?_
        (inductionHypothesis split ending next)
      rintro rfl
      exact foreign (frame.labels _ (split ▸ List.mem_append_right _ (lastOfRest ending))).1
  | @again start arrived rest delivery later known inTime carried inductionHypothesis =>
      obtain ⟨fragment, rest, rfl⟩ := List.exists_cons_of_ne_nil
        (List.ne_nil_of_mem (lastOfRest ending))
      obtain ⟨next, returned⟩ := underway.again cut split known inTime.of_cons
      refine CompletesOnce.after_quiet ?_ (SentFrame.ne_of_before split known (lastOfRest ending))
        (inductionHypothesis split ending next)
      intro _ data some_
      rw [returned] at some_
      cases some_
  | @next start arrived rest delivery later inTime carried inductionHypothesis =>
      cases rest with
      | nil =>
          cases ending
          obtain ⟨ended, returned⟩ := underway.last cut split inTime.of_cons
          have finished : Finished frame delivery.fragment (assemblyMachine.next receiver delivery) :=
            ⟨(assembles_next underway.kept delivery).kept, ended⟩
          rw [← split] at carried
          exact ⟨[], delivery, later, rfl, rfl, List.forall_mem_nil _, trivial, returned,
            finished.completesNothing cut split carried⟩
      | cons following rest =>
          obtain ⟨next, returned⟩ := underway.next cut split inTime.of_cons
          have joined : frame.fragments = arrived ++ [delivery.fragment] ++ following :: rest := by
            rw [split, List.append_assoc, List.singleton_append]
          rw [List.getLast?_cons_cons] at ending
          refine CompletesOnce.after_quiet ?_ (SentFrame.ne_of_before joined
            (List.mem_append_right arrived List.mem_cons_self) (lastOfRest ending))
            (inductionHypothesis joined ending next)
          intro _ data some_
          rw [returned] at some_
          cases some_

/-! ## Video -/

/-- The data ends in a trailer with the marker of the codec. -/
def HasTrailer (data body : Packet) : Prop :=
  exists trailer : Packet, data = body ++ H264_CODEC_MARKER :: 0 :: trailer ∧ trailer.length = 14

theorem stripMediaMetadata_of_trailer {data body : Packet} (trailer : HasTrailer data body) :
    (stripMediaMetadata data).1 = body := by
  obtain ⟨rest, rfl, length⟩ := trailer
  have whole : (body ++ H264_CODEC_MARKER :: 0 :: rest).length - 16 = body.length := by
    rw [List.length_append, List.length_cons, List.length_cons, length]
    omega
  have long : 16 ≤ (body ++ H264_CODEC_MARKER :: 0 :: rest).length := by
    rw [List.length_append, List.length_cons, List.length_cons, length]
    omega
  rw [stripMediaMetadata, dif_pos long]
  simp only [whole]
  rw [if_pos, List.take_left]
  refine ⟨?_, ?_⟩
  · rw [List.getElem_append_right (Nat.le_refl _)]
    simp only [Nat.sub_self, List.getElem_cons_zero]
  · rw [List.getElem_append_right (Nat.le_add_right _ _)]
    simp only [Nat.add_sub_cancel_left, List.getElem_cons_succ, List.getElem_cons_zero]

/-- What `handlePacket` makes of a delivery that completes a frame, whatever the receiver
has counted so far.  It returns what holds a unit and refuses what holds none; a unit that is
lost at the end is left to the scan. -/
def HandlesAsVideo (receiver : MediaReceiver) (delivery : Delivery) (body : Packet) : Prop :=
  forall stats packet sessionId,
    decodeMediaFragment packet sessionId = .ok (some delivery.fragment) ->
    let returned := (({ receiver with stats := stats } : MediaReceiver).handlePacket packet
      sessionId delivery.now).2.map (Option.map VideoFrame.data)
    (returned = if containsH264NAL body then .ok (some body) else .error .noNAL) ∧
      (forall position header, UnitAt body position header -> ¬ LostAtEnd body (isWanted none) ->
        returned = .ok (some body)) ∧
      ((forall position header, ¬ UnitAt body position header) -> returned = .error .noNAL)

/-- What is counted does not matter for putting frames together. -/
theorem assemble_of_stats (receiver : MediaReceiver) (stats : MediaStats)
    (fragment : MediaFragment) (now : Int) :
    ({ receiver with stats := stats } : MediaReceiver).assemble fragment now =
      Prod.map (fun after => { after with stats := stats }) id (receiver.assemble fragment now) := by
  unfold MediaReceiver.assemble
  simp only [apply_ite (Prod.map (fun after : MediaReceiver => { after with stats := stats }) id)]
  rfl

/-- A video frame loses its trailer, and is refused if no unit is found in the rest. -/
theorem handlePacket_of_returns {receiver : MediaReceiver} {delivery : Delivery}
    {data body : Packet} (returned : receiver.returns delivery = .ok (some data))
    (video : delivery.fragment.channel = H264_MAIN_CHANNEL ∨
      delivery.fragment.channel = H264_SUB_CHANNEL)
    (trailer : HasTrailer data body) (stats : MediaStats) {packet : Packet}
    {sessionId : SessionId}
    (decoded : decodeMediaFragment packet sessionId = .ok (some delivery.fragment)) :
    (({ receiver with stats := stats } : MediaReceiver).handlePacket packet sessionId
        delivery.now).2.map (Option.map VideoFrame.data) =
      if containsH264NAL body then .ok (some body) else .error .noNAL := by
  have own : ¬ (delivery.fragment.channel ≠ H264_MAIN_CHANNEL ∧
      delivery.fragment.channel ≠ H264_SUB_CHANNEL) := by
    rintro ⟨notMain, notSub⟩
    exact video.elim notMain notSub
  have complete : (({ receiver with stats := stats } : MediaReceiver).assemble delivery.fragment
      delivery.now).2 = .ok (some data) := by
    rw [assemble_of_stats]
    exact returned
  unfold MediaReceiver.handlePacket
  rw [decoded]
  simp only [if_neg own]
  generalize ({ receiver with stats := stats } : MediaReceiver).assemble delivery.fragment
    delivery.now = outcome at complete
  obtain ⟨after, result⟩ := outcome
  subst complete
  simp only [stripMediaMetadata_of_trailer trailer]
  split
  · rfl
  · rfl

theorem handlesAsVideo_of_returns {receiver : MediaReceiver} {delivery : Delivery}
    {data body : Packet} (returned : receiver.returns delivery = .ok (some data))
    (video : delivery.fragment.channel = H264_MAIN_CHANNEL ∨
      delivery.fragment.channel = H264_SUB_CHANNEL)
    (trailer : HasTrailer data body) : HandlesAsVideo receiver delivery body := by
  intro stats packet sessionId decoded
  have scanned := handlePacket_of_returns returned video trailer stats decoded
  refine ⟨scanned, fun position header unit kept => ?_, fun nowhere => ?_⟩
  · rw [scanned, if_pos (containsH264NAL_of_unitAt unit kept)]
  · rw [scanned, containsH264NAL_eq_false nowhere, if_neg Bool.false_ne_true]

/-! ## Reassembly -/

/-- Whatever the receiver has been through, a frame whose fragments arrive in their order
and in time is put together once, at its last fragment, and its data is as it was sent.
For video `handlePacket` then takes the trailer off, and refuses what holds no unit. -/
theorem frame_put_together (history : List Delivery) (frame : SentFrame) (cut : frame.WellCut)
    (fresh : forall fragment, fragment ∈ frame.fragments ->
      ((assemblyMachine.run {} history).channel frame.channel).isDuplicate
        fragment.subsequence = false)
    (apart : forall assembly, ((assemblyMachine.run {} history).channel frame.channel).assembly =
      some assembly -> assembly.frameNumber ≠ frame.frameNumber)
    (deliveries : List Delivery)
    (carried : Carried frame.channel none [] frame.fragments deliveries) :
    exists last, frame.fragments.getLast? = some last ∧
      CompletesOnce frame.channel last frame.data (assemblyMachine.run {} history) deliveries ∧
      (frame.channel = H264_MAIN_CHANNEL ∨ frame.channel = H264_SUB_CHANNEL ->
        forall body, HasTrailer frame.data body ->
        forall early final, early ++ [final] <+: deliveries ->
          final.fragment.channel = frame.channel ->
          (assemblyMachine.run {} (history ++ early)).returns final = .ok (some frame.data) ->
          HandlesAsVideo (assemblyMachine.run {} (history ++ early)) final body) := by
  refine ⟨frame.fragments.getLast cut.nonempty, List.getLast?_eq_some_getLast cut.nonempty, ?_, ?_⟩
  · refine completesOnce_of_underway cut (List.nil_append _).symm
      (List.getLast?_eq_some_getLast cut.nonempty) carried ⟨wellKept_run history, fresh, ?_, nofun⟩
    intro _
    exact ⟨rfl, apart⟩
  · intro video body trailer early final _ own returned
    exact handlesAsVideo_of_returns returned (own ▸ video) trailer

/-- The packet a camera sends a fragment of its main channel in. -/
def mainChannelPacket (sessionId : SessionId) (fragment : MediaFragment) : Packet :=
  [0x04, 0x02, DEVICE_SESSION_MAGIC_VERSION, SESSION_FLAGS] ++
    putUint16 (UInt16.ofNat (48 + fragment.payload.length)) ++ [0, 0] ++
    putUint16 DEVICE_SESSION_OPCODE ++ putUint16 DEVICE_LOGIN_SUBTYPE ++ sessionID16 sessionId ++
    [0x0C, if fragment.isEndFragment then 1 else 0, LOGIN_COMMAND_VERSION, 0,
      0, 0, 0, 0, 0, 0, 0, 0, 0, 0, 0, 0] ++
    putUint16 fragment.channelId ++ putUint16 fragment.subsequence ++
    [fragment.fragmentCount, 0, 0, 0] ++ putUint16 (UInt16.ofNat fragment.payload.length) ++
    [0, 0, fragment.frameNumber.toUInt8, 0, 0, 0, 0, 0, 0, 0] ++ fragment.payload

def trailerBytes : Packet := [H264_CODEC_MARKER, 0, 0, 0, 0, 0, 0, 0, 0, 0, 0, 0, 0, 0, 0, 0]

/-- A fragment of the main channel. -/
def mainFragment (count : UInt8) (subsequence : UInt16) (payload : Packet)
    (isEndFragment : Bool) : MediaFragment where
  channelId := 0x0105
  channel := H264_MAIN_CHANNEL
  fragmentCount := count
  payload := payload
  subsequence := subsequence
  frameNumber := 7
  isEndFragment := isEndFragment

/-- A frame that consists of its trailer. -/
def trailerOnly : SentFrame where
  channel := H264_MAIN_CHANNEL
  frameNumber := 7
  fragments := [mainFragment 1 0 trailerBytes true]
  increasing := by decide
  labels := by decide

/-- A frame of one unit, its trailer in a fragment of its own. -/
def oneUnit : SentFrame where
  channel := H264_MAIN_CHANNEL
  frameNumber := 7
  fragments := [mainFragment 2 0 [0, 0, 1, 0x65, 0] false, mainFragment 2 1 trailerBytes true]
  increasing := by decide
  labels := by decide

theorem trailerOnly_wellCut : trailerOnly.WellCut where
  nonempty := List.cons_ne_nil _ _
  marked := by
    intro early last split
    match early, split with
    | [], split =>
        cases split
        exact ⟨rfl, List.forall_mem_nil _⟩
    | _ :: _ :: _, split => cases split
  fits := by decide

theorem oneUnit_wellCut : oneUnit.WellCut where
  nonempty := List.cons_ne_nil _ _
  marked := by
    intro early last split
    match early, split with
    | [first], split =>
        cases split
        exact ⟨rfl, by decide⟩
    | _ :: _ :: _ :: _, split => cases split
  fits := by decide

/-- A frame without a unit is complete, and `handlePacket` returns no data of it. -/
theorem trailer_only_frame_refused :
    let final : Delivery := ⟨mainFragment 1 0 trailerBytes true, 0⟩
    let packet := mainChannelPacket (Vector.replicate 8 0) final.fragment
    trailerOnly.WellCut ∧ Carried trailerOnly.channel none [] trailerOnly.fragments [final] ∧
      HasTrailer trailerOnly.data [] ∧
      decodeMediaFragment packet (Vector.replicate 8 0) = .ok (some final.fragment) ∧
      (MediaReceiver.returns {} final) = .ok (some trailerOnly.data) ∧
      (MediaReceiver.handlePacket {} packet (Vector.replicate 8 0) 0).2 = .error .noNAL := by
  intro final packet
  refine ⟨trailerOnly_wellCut, ?_, ⟨List.replicate 14 0, rfl, rfl⟩, by decide⟩
  refine @Carried.next _ none [] [] final [] (Or.inr ?_) .done
  rintro begun ⟨⟩

/-- The first fragment of the unit comes twice, and audio comes in between. -/
theorem one_unit_put_together :
    let first : Delivery := ⟨mainFragment 2 0 [0, 0, 1, 0x65, 0] false, 0⟩
    let sound : Delivery :=
      ⟨{ mainFragment 1 9 [1] true with channelId := 0x0103, channel := AAC_CHANNEL }, 1⟩
    let final : Delivery := ⟨mainFragment 2 1 trailerBytes true, MEDIA_ASSEMBLY_TIMEOUT⟩
    CompletesOnce H264_MAIN_CHANNEL final.fragment oneUnit.data {} [first, sound, first, final] ∧
      HandlesAsVideo (assemblyMachine.run {} [first, sound, first]) final [0, 0, 1, 0x65, 0] := by
  intro first sound final
  have started : forall now : Int, now ≤ MEDIA_ASSEMBLY_TIMEOUT ->
      forall begun, (none : Option Int).or (some 0) = some begun ->
        now - begun ≤ MEDIA_ASSEMBLY_TIMEOUT := by
    rintro now early begun ⟨⟩
    rw [Int.sub_zero]
    exact early
  have carried : Carried oneUnit.channel none [] oneUnit.fragments
      [first, sound, first, final] := by
    refine @Carried.next _ none [] [final.fragment] first _ (Or.inr ?_) ?_
    · rintro begun ⟨⟩
    refine .other (by decide) (Or.inr (started 1 (by decide))) ?_
    refine .again (by decide) (Or.inr (started 0 (by decide))) ?_
    exact @Carried.next _ _ _ [] final [] (Or.inr (started _ (Int.le_refl _))) .done
  obtain ⟨last, ending, once, video⟩ := frame_put_together [] oneUnit oneUnit_wellCut
    (by decide) nofun [first, sound, first, final] carried
  cases ending
  exact ⟨once, video (Or.inl rfl) [0, 0, 1, 0x65, 0] ⟨List.replicate 14 0, rfl, rfl⟩
    [first, sound, first] final (List.prefix_refl _) rfl (by decide)⟩

end Camera
end PetlibroRelay
