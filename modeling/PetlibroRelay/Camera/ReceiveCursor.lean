import Mathlib.Data.List.Induction
import PetlibroRelay.Camera.SessionPackets

namespace PetlibroRelay
namespace Camera

/-!
# The cursor of received commands

A session tells the device how many of its control replies have arrived.  The cursor
starts at a sentinel that the first counters packet sets, and the first reply after it
counts as the first one.

Whether a counters packet is the first one is read off a counter of sixteen bits.  The
counter comes round after 65536 packets, and the packet after that sets the sentinel
again, whatever has been received in between.
-/

/-! ## Calls -/

inductive Session25Call where
  | nextCounters (random : UInt16)
  | nextOutboundCommand
  | noteReceivedMedia (sequence : UInt16)
  | noteReceivedControlReply
  deriving DecidableEq, Repr

namespace Session25Call

def apply (state : Session25State) : Session25Call -> Session25State
  | .nextCounters random => (state.nextCounters random).2.2
  | .nextOutboundCommand => state.nextOutboundCommand.2
  | .noteReceivedMedia sequence => state.noteReceivedMedia sequence
  | .noteReceivedControlReply => state.noteReceivedControlReply

def isCounters : Session25Call -> Bool
  | .nextCounters _ => true
  | _ => false

def isReply : Session25Call -> Bool
  | .noteReceivedControlReply => true
  | _ => false

end Session25Call

/-- The counters of a session after some calls. -/
def session25After (calls : List Session25Call) : Session25State :=
  calls.foldl Session25Call.apply {}

theorem session25After_concat (calls : List Session25Call) (call : Session25Call) :
    session25After (calls ++ [call]) = call.apply (session25After calls) := by
  rw [session25After, List.foldl_append]
  rfl

/-! ## What has been sent and received -/

def countersSent (calls : List Session25Call) : Nat :=
  calls.countP Session25Call.isCounters

/-- The replies noted after the first counters packet. -/
def repliesSince (calls : List Session25Call) : Nat :=
  (calls.dropWhile (fun call => !call.isCounters)).countP Session25Call.isReply

/-- A reply has been noted after the first counters packet. -/
def acknowledged (calls : List Session25Call) : Bool :=
  decide (0 < repliesSince calls)

theorem countersSent_concat (calls : List Session25Call) (call : Session25Call) :
    countersSent (calls ++ [call]) = countersSent calls + if call.isCounters then 1 else 0 := by
  rw [countersSent, List.countP_append, List.countP_singleton]
  rfl

/-- A call counts as a reply only if a counters packet was sent before it. -/
theorem repliesSince_concat (calls : List Session25Call) (call : Session25Call) :
    repliesSince (calls ++ [call]) =
      repliesSince calls + if call.isReply ∧ 0 < countersSent calls then 1 else 0 := by
  induction calls with
  | nil => cases call <;> rfl
  | cons first rest inductionHypothesis =>
      rw [List.cons_append, repliesSince, repliesSince, countersSent, List.countP_cons,
        List.dropWhile_cons, List.dropWhile_cons]
      cases counters : first.isCounters with
      | true =>
          rw [Bool.not_true, if_neg Bool.false_ne_true, if_neg Bool.false_ne_true,
            ← List.cons_append, List.countP_append, List.countP_singleton, if_pos rfl]
          simp only [Nat.succ_pos, and_true]
      | false =>
          rw [Bool.not_false, if_pos rfl, if_pos rfl, if_neg Bool.false_ne_true]
          exact inductionHypothesis

theorem repliesSince_le (calls : List Session25Call) :
    repliesSince calls ≤ calls.countP Session25Call.isReply :=
  (List.dropWhile_sublist _).countP_le

theorem repliesSince_eq_zero {calls : List Session25Call} (none_ : ¬ 0 < countersSent calls) :
    repliesSince calls = 0 := by
  induction calls using List.reverseRecOn with
  | nil => rfl
  | append_singleton calls call inductionHypothesis =>
      rw [countersSent_concat] at none_
      have before : ¬ 0 < countersSent calls := by omega
      rw [repliesSince_concat, inductionHypothesis before, if_neg (fun both => before both.2)]

/-- The counter of counters packets knows their number modulo 65536. -/
theorem seqSendCnt_after (calls : List Session25Call) :
    (session25After calls).seqSendCnt = UInt16.ofNat (countersSent calls) := by
  induction calls using List.reverseRecOn with
  | nil => rfl
  | append_singleton calls call inductionHypothesis =>
      rw [session25After_concat, countersSent_concat]
      cases call with
      | nextCounters random =>
          rw [Session25Call.isCounters, if_pos rfl, UInt16.ofNat_add, ← inductionHypothesis]
          rfl
      | noteReceivedControlReply =>
          rw [Session25Call.apply, Session25State.noteReceivedControlReply]
          split <;> exact inductionHypothesis
      | nextOutboundCommand => exact inductionHypothesis
      | noteReceivedMedia sequence => exact inductionHypothesis

theorem seqSendCnt_eq_zero_iff (calls : List Session25Call) :
    (session25After calls).seqSendCnt = 0 ↔ countersSent calls % 65536 = 0 := by
  rw [seqSendCnt_after, ← UInt16.toNat_inj, UInt16.toNat_ofNat']
  rfl

/-! ## The cursor -/

theorem seqRecvCmd2_nextCounters (state : Session25State) (random : UInt16) :
    (state.nextCounters random).2.2.seqRecvCmd2 =
      if state.seqSendCnt = 0 then 0xFFFF else state.seqRecvCmd2 := by
  have first : state.seqSendCnt + 1 = 1 ↔ state.seqSendCnt = 0 := by
    constructor
    · intro one
      have value := congrArg UInt16.toNat one
      rw [UInt16.toNat_add] at value
      have small := state.seqSendCnt.toNat_lt
      have unit : (1 : UInt16).toNat = 1 := rfl
      exact UInt16.toNat_inj.mp (show state.seqSendCnt.toNat = 0 by omega)
    · intro zero
      rw [zero]
      rfl
  rw [Session25State.nextCounters]
  simp only [first]

/-- Calls that are neither a counters packet nor a reply leave the cursor alone. -/
theorem seqRecvCmd2_of_other {call : Session25Call} (noCounters : call.isCounters = false)
    (noReply : call.isReply = false) (state : Session25State) :
    (call.apply state).seqRecvCmd2 = state.seqRecvCmd2 := by
  cases call with
  | nextCounters random => cases noCounters
  | noteReceivedControlReply => cases noReply
  | nextOutboundCommand => rfl
  | noteReceivedMedia sequence => rfl

/-- Once a reply has been noted, no counters packet is sent whose number follows a
multiple of 65536. -/
def SparesCursor (calls : List Session25Call) : Prop :=
  forall early random, early ++ [.nextCounters random] <+: calls ->
    acknowledged early = true -> countersSent early % 65536 ≠ 0

/-- Once a reply has been noted, the cursor is not the sentinel and changes only with
a reply. -/
def CursorKept (calls : List Session25Call) : Prop :=
  forall early, early <+: calls -> acknowledged early = true ->
    (session25After early).seqRecvCmd2 ≠ 0xFFFF ∧
      forall call, early ++ [call] <+: calls -> call.isReply = false ->
        (session25After (early ++ [call])).seqRecvCmd2 = (session25After early).seqRecvCmd2

theorem SparesCursor.of_prefix {calls early : List Session25Call} (spares : SparesCursor calls)
    (within : early <+: calls) : SparesCursor early :=
  fun earlier random before => spares earlier random (before.trans within)

/-- What the cursor says: the sentinel while no reply has come since the first counters
packet, and then the number of replies. -/
structure CursorAt (calls : List Session25Call) : Prop where
  waiting : 0 < countersSent calls -> repliesSince calls = 0 ->
    (session25After calls).seqRecvCmd2 = 0xFFFF
  counting : 0 < repliesSince calls ->
    (session25After calls).seqRecvCmd2 = UInt16.ofNat (repliesSince calls)

/-- A number of replies that the cursor can tell from its sentinel. -/
theorem ofNat_ne_sentinel {number : Nat} (few : number ≤ 65533) :
    UInt16.ofNat number ≠ 0xFFFF := by
  intro same
  have value := congrArg UInt16.toNat same
  rw [UInt16.toNat_ofNat', Nat.mod_eq_of_lt (by omega)] at value
  have sentinel : (0xFFFF : UInt16).toNat = 65535 := rfl
  omega

theorem cursorAt_nextCounters {calls : List Session25Call} {random : UInt16}
    (at_ : CursorAt calls) (spares : SparesCursor (calls ++ [.nextCounters random])) :
    CursorAt (calls ++ [.nextCounters random]) := by
  have replies : repliesSince (calls ++ [.nextCounters random]) = repliesSince calls := by
    rw [repliesSince_concat, if_neg (by rintro ⟨⟨⟩, -⟩), Nat.add_zero]
  refine ⟨?_, ?_⟩
  · intro _ none_
    rw [replies] at none_
    rw [session25After_concat, Session25Call.apply, seqRecvCmd2_nextCounters]
    split
    · rfl
    · next later =>
        refine at_.waiting ?_ none_
        refine Nat.pos_of_ne_zero (fun zero => later ?_)
        rw [seqSendCnt_after, zero]
        rfl
  · intro some_
    rw [replies] at some_ ⊢
    have distinct := spares calls random (List.prefix_refl _) (decide_eq_true some_)
    rw [session25After_concat, Session25Call.apply, seqRecvCmd2_nextCounters,
      if_neg (fun zero => distinct ((seqSendCnt_eq_zero_iff calls).mp zero))]
    exact at_.counting some_

theorem cursorAt_reply {calls : List Session25Call} (at_ : CursorAt calls)
    (few : (calls ++ [Session25Call.noteReceivedControlReply]).countP Session25Call.isReply ≤ 65533) :
    CursorAt (calls ++ [.noteReceivedControlReply]) := by
  have sent : countersSent (calls ++ [.noteReceivedControlReply]) = countersSent calls := by
    rw [countersSent_concat]
    rfl
  rw [List.countP_append] at few
  have bounded : repliesSince calls ≤ 65533 :=
    Nat.le_trans (repliesSince_le calls) (Nat.le_of_add_right_le few)
  have replies := repliesSince_concat calls .noteReceivedControlReply
  by_cases started : 0 < countersSent calls
  · rw [if_pos ⟨rfl, started⟩] at replies
    refine ⟨fun _ none_ => absurd (replies.symm.trans none_) (Nat.succ_ne_zero _), fun _ => ?_⟩
    rw [session25After_concat, Session25Call.apply, replies,
      Session25State.noteReceivedControlReply]
    rcases Nat.eq_zero_or_pos (repliesSince calls) with none_ | some_
    · rw [if_pos (at_.waiting started none_), none_]
      rfl
    · rw [at_.counting some_, if_neg (ofNat_ne_sentinel bounded), UInt16.ofNat_add]
      rfl
  · rw [if_neg (fun both => started both.2), Nat.add_zero] at replies
    refine ⟨fun positive => absurd (sent ▸ positive) started, fun some_ => ?_⟩
    -- without a counters packet no reply has been counted
    rw [replies] at some_
    exact absurd some_ (Nat.not_lt.mpr (Nat.le_of_eq (repliesSince_eq_zero started)))

/-- While the cursor is spared it counts the replies. -/
theorem cursorAt_of_spares (calls : List Session25Call) (spares : SparesCursor calls)
    (few : calls.countP Session25Call.isReply ≤ 65533) : CursorAt calls := by
  induction calls using List.reverseRecOn with
  | nil => exact ⟨fun sent => absurd sent (Nat.lt_irrefl 0), fun some_ => absurd some_ (Nat.lt_irrefl 0)⟩
  | append_singleton calls call inductionHypothesis =>
      have fewer : calls.countP Session25Call.isReply ≤ 65533 :=
        Nat.le_trans (List.sublist_append_left calls [call]).countP_le few
      have at_ := inductionHypothesis (spares.of_prefix (List.prefix_append calls [call])) fewer
      cases kind : call.isCounters with
      | true =>
          cases call with
          | nextCounters random => exact cursorAt_nextCounters at_ spares
          | _ => cases kind
      | false =>
          cases reply : call.isReply with
          | true =>
              cases call with
              | noteReceivedControlReply => exact cursorAt_reply at_ few
              | _ => cases reply
          | false =>
              have sent : countersSent (calls ++ [call]) = countersSent calls := by
                rw [countersSent_concat, kind]
                rfl
              have replies : repliesSince (calls ++ [call]) = repliesSince calls := by
                rw [repliesSince_concat, reply, if_neg (fun both => Bool.false_ne_true both.1),
                  Nat.add_zero]
              have same : (session25After (calls ++ [call])).seqRecvCmd2 =
                  (session25After calls).seqRecvCmd2 := by
                rw [session25After_concat, seqRecvCmd2_of_other kind reply]
              refine ⟨?_, ?_⟩
              · rw [sent, replies, same]
                exact at_.waiting
              · rw [replies, same]
                exact at_.counting

/-- The counters packet after the counter has come round sets the sentinel. -/
theorem sentinel_of_round {calls : List Session25Call} (round : countersSent calls % 65536 = 0)
    (random : UInt16) :
    (session25After (calls ++ [.nextCounters random])).seqRecvCmd2 = 0xFFFF := by
  rw [session25After_concat, Session25Call.apply, seqRecvCmd2_nextCounters,
    if_pos ((seqSendCnt_eq_zero_iff calls).mpr round)]

/-- A counters packet changes nothing about what has been noted. -/
theorem acknowledged_nextCounters (calls : List Session25Call) (random : UInt16) :
    acknowledged (calls ++ [.nextCounters random]) = acknowledged calls := by
  rw [acknowledged, acknowledged, repliesSince_concat, if_neg (by rintro ⟨⟨⟩, -⟩), Nat.add_zero]

/-- The cursor keeps away from the sentinel, and changes with replies only, exactly if
no counters packet comes round once a reply has been noted. -/
theorem receive_cursor_kept_iff (calls : List Session25Call)
    (few : calls.countP Session25Call.isReply ≤ 65533) :
    CursorKept calls ↔ SparesCursor calls := by
  constructor
  · intro kept early random within noted round
    have again : acknowledged (early ++ [.nextCounters random]) = true :=
      (acknowledged_nextCounters early random).trans noted
    exact (kept _ within again).1 (sentinel_of_round round random)
  · intro spares early within noted
    have fewer : early.countP Session25Call.isReply ≤ 65533 :=
      Nat.le_trans within.sublist.countP_le few
    have some_ : 0 < repliesSince early := of_decide_eq_true noted
    have at_ := cursorAt_of_spares early (spares.of_prefix within) fewer
    refine ⟨?_, ?_⟩
    · rw [at_.counting some_]
      exact ofNat_ne_sentinel (Nat.le_trans (repliesSince_le early) fewer)
    · intro call next noReply
      rw [session25After_concat]
      cases kind : call.isCounters with
      | false => exact seqRecvCmd2_of_other kind noReply _
      | true =>
          cases call with
          | nextCounters random =>
              have distinct := spares early random next noted
              rw [Session25Call.apply, seqRecvCmd2_nextCounters,
                if_neg (fun zero => distinct ((seqSendCnt_eq_zero_iff early).mp zero))]
          | _ => cases kind

/-- A reply is noted after the first counters packet, and more of them are sent. -/
def longSession (more : Nat) : List Session25Call :=
  [.nextCounters 0, .noteReceivedControlReply] ++ List.replicate more (.nextCounters 0)

theorem acknowledged_longSession (more : Nat) : acknowledged (longSession more) = true := by
  rw [acknowledged, repliesSince, longSession, List.cons_append, List.dropWhile_cons]
  simp only [Session25Call.isCounters, Bool.not_true, Bool.false_eq_true, if_false,
    List.cons_append, List.nil_append, List.countP_cons, Session25Call.isReply]
  exact decide_eq_true (Nat.succ_pos _)

theorem countersSent_longSession (more : Nat) : countersSent (longSession more) = 1 + more := by
  rw [countersSent, longSession, List.countP_append, List.countP_replicate]
  rfl

theorem replies_longSession (more : Nat) :
    (longSession more).countP Session25Call.isReply = 1 := by
  rw [longSession, List.countP_append, List.countP_replicate]
  rfl

/-- After 65536 counters packets the next one sets the sentinel again. -/
theorem sentinel_returns_in_long_session :
    (longSession 65535 ++ [Session25Call.nextCounters 0]).countP Session25Call.isReply ≤ 65533 ∧
      ¬ CursorKept (longSession 65535 ++ [.nextCounters 0]) := by
  refine ⟨?_, ?_⟩
  · rw [List.countP_append, replies_longSession]
    decide
  · intro kept
    have again : acknowledged (longSession 65535 ++ [.nextCounters 0]) = true :=
      (acknowledged_nextCounters _ 0).trans (acknowledged_longSession 65535)
    have round : countersSent (longSession 65535) % 65536 = 0 := by
      rw [countersSent_longSession]
    exact (kept _ (List.prefix_refl _) again).1 (sentinel_of_round round 0)

/-- Two counters packets around a reply. -/
theorem receive_cursor_kept_in_short_session :
    let calls : List Session25Call := [.nextCounters 7, .noteReceivedControlReply, .nextCounters 8]
    acknowledged calls = true ∧ CursorKept calls := by
  refine ⟨by decide, (receive_cursor_kept_iff _ (by decide)).mpr ?_⟩
  intro early random within noted
  have short : (early ++ [Session25Call.nextCounters random]).length ≤ 3 := within.length_le
  rw [List.length_append, List.length_singleton] at short
  have sent : countersSent early ≤ 2 := 
    Nat.le_trans List.countP_le_length (Nat.le_of_succ_le_succ short)
  have positive : 0 < countersSent early := by
    refine Nat.pos_of_ne_zero (fun zero => ?_)
    have none_ := repliesSince_eq_zero (Nat.not_lt.mpr (Nat.le_of_eq zero))
    exact absurd (of_decide_eq_true noted) (Nat.not_lt.mpr (Nat.le_of_eq none_))
  rw [Nat.mod_eq_of_lt (by omega)]
  exact Nat.ne_of_gt positive

end Camera
end PetlibroRelay
