import PetlibroRelay.Foundations.StepFunctions
import PetlibroRelay.Responder.LocalResponder

namespace PetlibroRelay
namespace Responder

open Foundations

/-!
# The daylight-saving schedule

The next changes of the offset of a time zone are looked for day by day, and within a
day hour by hour.  The days begin at the hour of the start, while the offset that is
compared with is that of the start itself.  When changes are at least a day apart
there is at most one between the two ends of each day, so that none is missed.

Instants are microseconds since the epoch, without an end of the calendar.
-/

/-- The offset of a time zone from UTC, in seconds, at each instant. -/
abbrev Zone := Int -> Int

def HOUR : Int := 3600000000
def HOURS_PER_DAY : Nat := 24
def DAY : Int := HOURS_PER_DAY * HOUR
def SEARCH_HORIZON_DAYS : Nat := 800
def MICROSECONDS_PER_MILLISECOND : Int := 1000

def offsetSecondsAt (zone : Zone) (moment : Int) : Int := zone moment

/-- The instant with its minutes, seconds and microseconds set to zero. -/
def wholeHour (instant : Int) : Int := instant - instant % HOUR

/-- The first hour of the day, after its beginning, with another offset. -/
def hourLoop (zone : Zone) (currentOffset : Int) : Nat -> Int -> Option Int
  | 0, _ => none
  | hours + 1, hour =>
      let nextHour := hour + HOUR
      if offsetSecondsAt zone nextHour ≠ currentOffset then some nextHour
      else hourLoop zone currentOffset hours nextHour

/-- The days that are left, with the offset so far and the transitions found. -/
def dayLoop (zone : Zone) (wanted : Nat) :
    Nat -> Int -> Int -> List (Int × Int) -> List (Int × Int)
  | 0, _, _, transitions => transitions
  | days + 1, day, currentOffset, transitions =>
      let nextDay := day + DAY
      if offsetSecondsAt zone nextDay ≠ currentOffset then
        let found := hourLoop zone currentOffset HOURS_PER_DAY day
        let transitions := transitions ++
          (found.map (fun nextHour => (nextHour, offsetSecondsAt zone nextHour))).toList
        let currentOffset := (found.map (offsetSecondsAt zone)).getD currentOffset
        if transitions.length = wanted then transitions
        else dayLoop zone wanted days nextDay currentOffset transitions
      else dayLoop zone wanted days nextDay currentOffset transitions

/-- The upcoming transitions after a start, at most as many as wanted. -/
def findTransitions (zone : Zone) (start : Int) (wanted : Nat) : List (Int × Int) :=
  dayLoop zone wanted SEARCH_HORIZON_DAYS (wholeHour start) (offsetSecondsAt zone start) []

/-- What the responder is given. -/
def compute (zone : Zone) (moment : Int) : DstSchedule :=
  let transitions := findTransitions zone moment 2
  let asMs := fun instant : Int => instant / MICROSECONDS_PER_MILLISECOND
  { offsetSeconds := offsetSecondsAt zone moment
    nextOffsetSeconds := transitions[0]?.map Prod.snd
    nextTransitionTsMs := transitions[0]?.map (fun transition => asMs transition.1)
    secondNextOffsetSeconds := transitions[1]?.map Prod.snd
    secondNextTransitionTsMs := transitions[1]?.map (fun transition => asMs transition.1) }

/-! ## One day -/

/-- The first whole hour that is not before an instant. -/
def hourNotBefore (instant : Int) : Int := -(-instant / HOUR) * HOUR

theorem hourNotBefore_eq {instant hour : Int} (whole : hour % HOUR = 0)
    (after : hour < instant) (before : instant ≤ hour + HOUR) :
    hourNotBefore instant = hour + HOUR := by
  simp only [hourNotBefore, HOUR] at *
  omega

/-- The search within a day finds the hour of the change. -/
theorem hourLoop_eq {zone : Zone} {currentOffset start change limit : Int}
    (before : forall time, start ≤ time -> time < change -> zone time = currentOffset)
    (after : forall time, change ≤ time -> time ≤ limit -> zone time ≠ currentOffset)
    {hours : Nat} {hour : Int} (whole : hour % HOUR = 0) (early : hour < change)
    (near : start < hour + HOUR) (reached : hour + hours * HOUR = limit) (inside : change ≤ limit) :
    hourLoop zone currentOffset hours hour = some (hourNotBefore change) := by
  induction hours generalizing hour with
  | zero =>
      rw [Int.natCast_zero, Int.zero_mul] at reached
      omega
  | succ hours inductionHypothesis =>
      have positive : (0 : Int) < HOUR := by decide
      rw [Int.natCast_succ, Int.add_mul, Int.one_mul] at reached
      have rest : 0 ≤ (hours : Int) * HOUR := Int.mul_nonneg (Int.natCast_nonneg _) (by decide)
      rw [hourLoop]
      by_cases found : change ≤ hour + HOUR
      · rw [hourNotBefore_eq whole early found]
        exact if_pos (after _ found (by omega))
      · have same : offsetSecondsAt zone (hour + HOUR) = currentOffset :=
          before _ (by omega) (by omega)
        refine (if_neg (not_not_intro same)).trans ?_
        apply inductionHypothesis
        · rw [Int.add_emod_right]
          exact whole
        · omega
        · omega
        · omega

theorem le_hourNotBefore (instant : Int) : instant ≤ hourNotBefore instant := by
  simp only [hourNotBefore, HOUR]
  omega

theorem hourNotBefore_le {instant limit : Int} (whole : limit % HOUR = 0)
    (inside : instant ≤ limit) : hourNotBefore instant ≤ limit := by
  simp only [hourNotBefore, HOUR] at *
  omega

/-- What is reported of a change: the first whole hour not before it, and the offset in force
from it on. -/
def reported (zone : Zone) (change : Int) : Int × Int := (hourNotBefore change, zone change)

/-! ## All days -/

/-- Every day adds the change it has, if it has one. -/
theorem dayLoop_changes {zone : Zone} (spaced : ChangesSpaced zone DAY) {wanted days : Nat}
    {day start : Int} {transitions : List (Int × Int)} (whole : day % HOUR = 0)
    (begun : day ≤ start) (near : start < day + HOUR) (room : transitions.length < wanted) :
    exists changes,
      FirstChanges zone start (day + days * DAY) (wanted - transitions.length) changes ∧
        dayLoop zone wanted days day (zone start) transitions =
          transitions ++ changes.map (reported zone) := by
  induction days generalizing day start transitions with
  | zero =>
      refine ⟨[], FirstChanges.of_interval_empty ?_, (List.append_nil _).symm⟩
      rw [Int.natCast_zero, Int.zero_mul, Int.add_zero]
      exact begun
  | succ days inductionHypothesis =>
      have dayLength : DAY = 24 * 3600000000 := rfl
      have hourLength : HOUR = 3600000000 := rfl
      have rest : 0 ≤ (days : Int) * DAY := Int.mul_nonneg (Int.natCast_nonneg _) (by decide)
      have short : day + DAY ≤ start + DAY := by omega
      have order : start ≤ day + DAY := by omega
      have wholeNext : (day + DAY) % HOUR = 0 := by
        rw [hourLength] at whole
        rw [dayLength, hourLength]
        omega
      have nearNext : day + DAY < day + DAY + HOUR := by omega
      have horizon : day + (days + 1 : Nat) * DAY = day + DAY + days * DAY := by
        rw [Int.natCast_succ, Int.add_mul, Int.one_mul]
        omega
      rw [horizon, dayLoop]
      by_cases same : zone (day + DAY) = zone start
      · obtain ⟨changes, first, result⟩ :=
          inductionHypothesis wholeNext (Int.le_refl _) nearNext room
        refine ⟨changes, first.skip order ?_, ?_⟩
        · intro time later sooner changesAt
          exact differs_of_change spaced short changesAt later sooner same
        · rw [same] at result
          exact (if_neg (not_not_intro same)).trans result
      · obtain ⟨change, changesAt, inside, before⟩ := exists_change order same
        obtain ⟨earlier, later⟩ := around_change spaced short changesAt inside before
        have differs : zone change ≠ zone start := by
          rw [← later (day + DAY) before (Int.le_refl _)]
          exact same
        have found : hourLoop zone (zone start) HOURS_PER_DAY day = some (hourNotBefore change) := by
          apply hourLoop_eq earlier _ whole (by omega) near rfl before
          intro time fromChange upTo
          rw [later time fromChange upTo]
          exact differs
        have inForce : zone (hourNotBefore change) = zone change :=
          later _ (le_hourNotBefore change) (hourNotBefore_le wholeNext before)
        have only : forall time, ChangesAt zone time -> start < time -> time ≤ day + DAY ->
            time = change :=
          fun time other after upTo =>
            change_unique spaced short other changesAt after inside upTo before
        simp only [offsetSecondsAt, if_pos same, found, Option.map_some, Option.toList_some,
          Option.getD_some, inForce, List.length_append, List.length_singleton]
        by_cases enough : transitions.length + 1 = wanted
        · rw [if_pos enough]
          refine ⟨[change], ?_, rfl⟩
          rw [show wanted - transitions.length = 0 + 1 by omega]
          exact FirstChanges.of_count_zero.cons changesAt inside before (by omega) only
        · rw [if_neg enough, ← later (day + DAY) before (Int.le_refl _)]
          have more : (transitions ++ [(hourNotBefore change, zone (day + DAY))]).length < wanted := by
            rw [List.length_append, List.length_singleton]
            omega
          obtain ⟨changes, first, result⟩ :=
            inductionHypothesis wholeNext (Int.le_refl _) nearNext more
          refine ⟨change :: changes, ?_, ?_⟩
          · rw [List.length_append, List.length_singleton] at first
            rw [show wanted - transitions.length = wanted - (transitions.length + 1) + 1 by omega]
            exact first.cons changesAt inside before (by omega) only
          · rw [result, List.append_assoc, List.map_cons, reported,
              later (day + DAY) before (Int.le_refl _)]
            rfl

/-- The transitions found are the first two changes after the start and within the horizon of
its hour, and the current offset is the one in force at the start. -/
theorem find_transitions_exact (zone : Zone) (spaced : ChangesSpaced zone DAY) (start : Int) :
    (exists changes,
      FirstChanges zone start (wholeHour start + SEARCH_HORIZON_DAYS * DAY) 2 changes ∧
        findTransitions zone start 2 = changes.map (reported zone)) ∧
      (compute zone start).offsetSeconds = zone start := by
  refine ⟨@dayLoop_changes zone spaced 2 SEARCH_HORIZON_DAYS (wholeHour start) start [] ?_ ?_ ?_
    Nat.two_pos, rfl⟩
  · simp only [wholeHour, HOUR]
    omega
  · simp only [wholeHour, HOUR]
    omega
  · simp only [wholeHour, HOUR]
    omega

/-- A zone with one change, at the epoch. -/
def springZone : Zone := fun moment => if moment < 0 then 3600 else 7200

theorem springZone_spaced : ChangesSpaced springZone DAY := by
  have epoch : forall moment, ChangesAt springZone moment -> moment = 0 := by
    intro moment changes
    by_contra other
    apply changes
    by_cases early : moment < 0
    · rw [springZone, springZone, if_pos early, if_pos (by omega)]
    · rw [springZone, springZone, if_neg early, if_neg (by omega)]
  intro first second changes changesToo less
  rw [epoch first changes, epoch second changesToo] at less
  exact absurd less (Int.lt_irrefl 0)

/-- Half an hour before the change, which is found. -/
theorem spring_change_found :
    (exists changes,
      FirstChanges springZone (-1800000000)
        (wholeHour (-1800000000) + SEARCH_HORIZON_DAYS * DAY) 2 changes ∧
          findTransitions springZone (-1800000000) 2 = changes.map (reported springZone)) ∧
      (compute springZone (-1800000000)).offsetSeconds = 3600 :=
  find_transitions_exact springZone springZone_spaced (-1800000000)

end Responder
end PetlibroRelay
