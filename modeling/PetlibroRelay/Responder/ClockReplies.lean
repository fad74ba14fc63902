import PetlibroRelay.Responder.DstSchedule
import PetlibroRelay.Responder.LocalReplies

namespace PetlibroRelay
namespace Responder

open Foundations
open Protocol
open Shadow
open Upstream

/-!
# The clock of a feeder

The answer to a clock request announces the offset of now and those after the next two
transitions, so that a feeder stays on local time without the cloud.  A feeder that goes
by the last announced transition that has come has the offset of its zone, until the zone
has changed three times or the search for transitions has ended.  Transitions are
announced in whole hours, so a change within an hour is followed a little late.
-/

/-! ## What a feeder reads -/

/-- One announced transition, in milliseconds. -/
def announced (reply : Dict String Json) (offsetName stampName : String) : Option (Int × Int) :=
  match Dict.get? reply offsetName, Dict.get? reply stampName with
  | some (.int offset), some (.int stamp) => some (stamp, offset)
  | _, _ => none

def transitionsOf (reply : Dict String Json) : List (Int × Int) :=
  (announced reply "nextDSTOffsetSeconds" "nextDSTTransitionTs").toList ++
    (announced reply "secondNextDSTOffsetSeconds" "secondNextDSTTransitionTs").toList

/-- The offset of a feeder that follows the reply. -/
def clockOffset (reply : Dict String Json) (stamp : Int) : Option Int :=
  match Dict.get? reply "timezoneOffsetSeconds" with
  | some (.int offset) => some (lookup offset (transitionsOf reply) stamp)
  | _ => none

/-- A transition as it is announced. -/
def inMilliseconds (transition : Int × Int) : Int × Int :=
  (transition.1 / MICROSECONDS_PER_MILLISECOND, transition.2)

theorem clockOffset_ntpSync (moment : Moment) {zone : Zone} {start : Int}
    (computed : moment.schedule = compute zone start)
    (bounded : (findTransitions zone start 2).length ≤ 2) (stamp : Int) :
    clockOffset (ntpSync moment) stamp =
      some (lookup (zone start) ((findTransitions zone start 2).map inMilliseconds) stamp) := by
  rw [clockOffset, transitionsOf, announced, announced, ntpSync, computed, compute]
  generalize findTransitions zone start 2 = transitions at bounded
  rcases transitions with _ | ⟨next, _ | ⟨secondNext, _ | ⟨third, more⟩⟩⟩
  · rfl
  · rfl
  · rfl
  · simp only [List.length_cons] at bounded
    omega

/-- A request for the clock is answered with nothing else. -/
theorem answer_ntp {responder : LocalResponder} {settings : LocalResponderSettings}
    {shadow : StateShadow} {moment : Moment} {deviceId productId replyTopic handled : String}
    {body reply : Dict String Json} {upstream : UpstreamState}
    (replied : (responder.answer settings shadow moment deviceId productId Command.NTP body
      upstream).1 = .respondLocal replyTopic reply handled) :
    reply = ntpSync moment := by
  have noAck : ¬ Command.NTP = Command.NTP_SYNC := by decide
  have noPlans : ¬ Command.NTP = Command.FEEDING_PLAN_SERVICE := by decide
  have noConfig : ¬ Command.NTP = Command.ATTR_GET_SERVICE := by decide
  simp only [LocalResponder.answer, LocalResponder.ackForLocalMessage, noAck, noPlans, noConfig,
    if_false, false_and, Bool.false_eq_true] at replied
  split at replied
  · split at replied
    · cases replied
    · split at replied
      · cases replied
        rfl
      · cases replied
  · split at replied
    · cases replied
    · cases replied

/-! ## Changes that are told in whole hours -/

section Zones

variable {zone : Zone} {start time : Int}

/-- The zone has changed at most twice since the start. -/
def BeforeThirdChange (zone : Zone) (start time : Int) : Prop :=
  forall first second third, ChangesAt zone first -> ChangesAt zone second ->
    ChangesAt zone third -> start < first -> first < second -> second < third -> time < third

theorem hourNotBefore_lt (instant : Int) : hourNotBefore instant < instant + HOUR := by
  simp only [hourNotBefore, HOUR]
  omega

theorem toldInTurn (spaced : ChangesSpaced zone DAY) {upTo : Int} {count : Nat}
    {changes : List Int} (first : FirstChanges zone start upTo count changes) :
    ToldInTurn hourNotBefore start changes where
  late := le_hourNotBefore
  ordered := by
    refine first.ordered.imp_of_mem fun {earlier later} listed listedToo before => ?_
    have apart := spaced _ _ (first.real _ listed) (first.real _ listedToo) before
    have soon := hourNotBefore_lt earlier
    have dayLength : DAY = 24 * 3600000000 := rfl
    have hourLength : HOUR = 3600000000 := rfl
    exact ⟨before, by omega⟩
  inside := fun change listed => (first.inside change listed).1

/-- Milliseconds tell instants apart from whole hours as microseconds do. -/
theorem lookup_inMilliseconds (otherwise : Int) (changes : List Int) (time : Int) :
    lookup otherwise ((changes.map (reported zone)).map inMilliseconds)
        (time / MICROSECONDS_PER_MILLISECOND) =
      lookup otherwise (changes.map (reported zone)) time := by
  induction changes generalizing otherwise with
  | nil => rfl
  | cons change changes inductionHypothesis =>
      have whole : hourNotBefore change / MICROSECONDS_PER_MILLISECOND ≤
          time / MICROSECONDS_PER_MILLISECOND ↔ hourNotBefore change ≤ time := by
        simp only [hourNotBefore, HOUR, MICROSECONDS_PER_MILLISECOND]
        omega
      rw [List.map_cons, List.map_cons, lookup, lookup, inductionHypothesis]
      exact if_congr whole rfl rfl

/-- Up to the third change and the end of the search all changes are among the first two. -/
theorem known_of_third {upTo : Int} {changes : List Int}
    (first : FirstChanges zone start upTo 2 changes) (within : time ≤ upTo)
    (third : BeforeThirdChange zone start time) {other : Int} (changed : ChangesAt zone other)
    (later : start < other) (sooner : other ≤ time) : other ∈ changes := by
  rcases first.complete other changed later (Int.le_trans sooner within) with listed | ⟨full, all⟩
  · exact listed
  · rcases List.length_eq_two.mp full with ⟨one, two, rfl⟩
    have order : one < two := List.rel_of_pairwise_cons first.ordered List.mem_cons_self
    have begun := (first.inside one List.mem_cons_self).1
    have last : two ∈ [one, two] := List.mem_cons_of_mem _ List.mem_cons_self
    have beyond := third one two other (first.real one List.mem_cons_self) (first.real two last)
      changed begun order (all two last)
    omega

end Zones

/-! ## The result -/

/-- A feeder that follows the answer to its clock request has the offset of its zone at every
instant up to the third change and the end of the search, and the one before a change from
the change to the next whole hour. -/
theorem clock_reply_follows_zone (zone : Zone) (spaced : ChangesSpaced zone DAY)
    (settings : LocalResponderSettings) (loads : Loads) (responder : LocalResponder)
    (shadow : StateShadow) (now : Rat) (freshMsgId : String) (start : Int)
    (deviceId topic : String) (payload : List UInt8) (upstream : UpstreamState)
    (asked : extractCommand loads payload = some Command.NTP)
    (replyTopic handled : String) (reply : Dict String Json)
    (replied : (responder.decide settings loads shadow ⟨now, freshMsgId, compute zone start⟩
      deviceId topic payload upstream).1 = .respondLocal replyTopic reply handled)
    (time : Int) (later : start ≤ time)
    (within : time ≤ wholeHour start + SEARCH_HORIZON_DAYS * DAY)
    (third : BeforeThirdChange zone start time) :
    ((forall change, ChangesAt zone change -> start < change -> change ≤ time ->
        hourNotBefore change ≤ time) ->
      clockOffset reply (time / MICROSECONDS_PER_MILLISECOND) = some (zone time)) ∧
    forall change, ChangesAt zone change -> start < change -> change ≤ time ->
      time < hourNotBefore change ->
        clockOffset reply (time / MICROSECONDS_PER_MILLISECOND) = some (zone (change - 1)) := by
  obtain ⟨body, productId, -, answered⟩ := answer_of_reply asked replied
  have reply_eq := answer_ntp answered
  obtain ⟨changes, first, found⟩ := @dayLoop_changes zone spaced 2 SEARCH_HORIZON_DAYS
    (wholeHour start) start [] (by simp only [wholeHour, HOUR]; omega)
    (by simp only [wholeHour, HOUR]; omega) (by simp only [wholeHour, HOUR]; omega) Nat.two_pos
  have transitions_eq : findTransitions zone start 2 = changes.map (reported zone) := found
  have told := toldInTurn spaced first
  have known : forall other, ChangesAt zone other -> start < other -> other ≤ time ->
      other ∈ changes :=
    fun _ changed later sooner => known_of_third first within third changed later sooner
  have offset_eq : clockOffset reply (time / MICROSECONDS_PER_MILLISECOND) =
      some (lookup (zone start) (changes.map (reported zone)) time) := by
    rw [reply_eq, clockOffset_ntpSync _ rfl
      (by rw [transitions_eq, List.length_map]; exact first.bounded), transitions_eq,
      lookup_inMilliseconds]
  rw [offset_eq]
  refine ⟨fun settled => congrArg some ?_, fun change changed after begun untold =>
    congrArg some ?_⟩
  · exact lookup_eq told later known fun change listed begun =>
      settled change (first.real change listed) (first.inside change listed).1 begun
  · exact lookup_untold told known (known change changed after begun) begun untold

/-- A feeder asks for the clock half an hour before the offset of its zone changes. -/
def askForClock : List UInt8 := [110]

def loadsClock : Loads := fun payload =>
  if payload = askForClock then some (.obj [("cmd", .str "NTP")]) else none

def springReply : Dict String Json :=
  ntpSync ⟨0, "m", compute springZone (-1800000000)⟩

theorem changesAt_springZone {moment : Int} (changes : ChangesAt springZone moment) :
    moment = 0 := by
  by_contra other
  apply changes
  by_cases early : moment < 0
  · rw [springZone, springZone, if_pos early, if_pos (by omega)]
  · rw [springZone, springZone, if_neg early, if_neg (by omega)]

/-- An hour later it is on summer time. -/
theorem clock_follows_spring_change : clockOffset springReply 1800000 = some 7200 :=
  (clock_reply_follows_zone springZone springZone_spaced
    { enabled := true, ntp := true, handledMsgIdTtlSeconds := 60 } loadsClock {} {} 0 "m"
    (-1800000000) "A" "dl/PLAF203/A/device/ntp/post" askForClock .disconnected (by decide +kernel)
    "dl/PLAF203/A/device/ntp/sub" "m" springReply (by decide +kernel) 1800000000 (by decide)
    (by decide) (by
      intro first second third changesFirst changesSecond _ _ before _
      have one := changesAt_springZone changesFirst
      have two := changesAt_springZone changesSecond
      omega)).1 (by
        intro change changed _ _
        rw [changesAt_springZone changed]
        decide)

end Responder
end PetlibroRelay
