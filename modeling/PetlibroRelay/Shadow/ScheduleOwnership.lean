import Mathlib.Order.Lattice
import PetlibroRelay.Foundations.Machine
import PetlibroRelay.Shadow.StateShadow

namespace PetlibroRelay
namespace Shadow

open Foundations

/-!
# Who owns a row of the schedule

Two writers share the schedule table.  A cloud snapshot replaces the positive
identifiers of its device as a set; a snapshot the feeder confirmed replaces
everything its device has.  The owner of a row is the sign of its identifier,
whoever wrote it: that is what lets a later cloud snapshot replace its own rows
without deleting or resurrecting a local one.

The snapshots are arbitrary lists of plans.  They may be empty, repeat an
identifier, hold negative identifiers in a cloud push or positive ones in a
local snapshot, and hold plans without an integer identifier.
-/

/-- The two writers of the schedule table. -/
inductive ScheduleWrite where
  | updateCloud (deviceId : String) (plans : List Plan)
  | replaceLocal (deviceId : String) (plans : List Plan)
  deriving DecidableEq

/-- Any interleaving of the writers.  A write that raises is rolled back. -/
def scheduleWriters : Machine StateShadow ScheduleWrite where
  step shadow
    | .updateCloud deviceId plans => shadow.updateCloudSchedulePlans deviceId plans
    | .replaceLocal deviceId plans => shadow.replaceLocalSchedulePlans deviceId plans

/-- Every identifier that is an integer fits a column. -/
def PlansFit (plans : List Plan) : Prop :=
  forall plan, plan ∈ plans -> forall id, planId? plan = some id -> fitsInteger id = true

/-- The order in which a device's rows are listed. -/
def ListedInOrder (shadow : StateShadow) (deviceId : String) : Prop :=
  exists rows : List (Int × SchedulePlan),
    shadow.getSchedulePlans deviceId = rows.map Prod.snd ∧
      rows.Pairwise (fun first second => first.1 < second.1) ∧
      forall id row, (id, row) ∈ rows ↔ ((deviceId, id), row) ∈ shadow.schedulePlans.rows

/-- The rows of the table and the order they are read in. -/
structure ScheduleOwned (shadow : StateShadow) : Prop where
  unique : (Dict.keys shadow.schedulePlans.rows).Nodup
  nonzero : forall entry, entry ∈ shadow.schedulePlans.rows -> entry.1.2 ≠ 0
  source : forall entry, entry ∈ shadow.schedulePlans.rows ->
    (entry.2.source = .localEdit ↔ entry.1.2 < 0)
  keyed : forall entry, entry ∈ shadow.schedulePlans.rows ->
    planId? entry.2.plan = some entry.1.2
  ordered : forall deviceId, ListedInOrder shadow deviceId

/-! ## The order of the listing -/

/-- Sorting the device's rows by an identifier no two of them share gives a
strictly increasing list. -/
theorem listedInOrder (shadow : StateShadow) (deviceId : String) :
    ListedInOrder shadow deviceId := by
  let listed := Dict.forFirst shadow.schedulePlans.rows deviceId
  let sorted := listed.insertionSort (fun first second => first.1 ≤ second.1)
  have perm : sorted.Perm listed := List.perm_insertionSort _ _
  have distinct : (listed.map Prod.fst).Nodup := by
    have own : ((shadow.schedulePlans.rows.filter
        (fun entry => decide (entry.1.1 = deviceId))).map Prod.fst).Nodup :=
      (List.filter_sublist.map Prod.fst).nodup shadow.schedulePlans.unique
    simp only [listed, Dict.forFirst, List.map_map]
    refine List.Nodup.map_on ?_ (List.Nodup.of_map Prod.fst own)
    intro first firstMember second secondMember same
    have sameDevice : first.1.1 = second.1.1 :=
      (of_decide_eq_true (List.mem_filter.mp firstMember).2).trans
        (of_decide_eq_true (List.mem_filter.mp secondMember).2).symm
    exact List.inj_on_of_nodup_map own firstMember secondMember (Prod.ext sameDevice same)
  refine ⟨sorted, rfl, ?_, ?_⟩
  · have strict : sorted.Pairwise (fun first second => first.1 ≠ second.1) := by
      have nodup := (perm.map Prod.fst).nodup_iff.mpr distinct
      exact List.pairwise_map.mp nodup
    have weak : sorted.Pairwise (fun first second => first.1 ≤ second.1) :=
      List.pairwise_insertionSort _ _
    exact (weak.and strict).imp (fun both => lt_of_le_of_ne both.1 both.2)
  · intro id row
    rw [perm.mem_iff]
    simp only [listed, Dict.forFirst, List.mem_map, List.mem_filter, decide_eq_true_eq,
      Prod.mk.injEq]
    constructor
    · rintro ⟨⟨⟨device, own⟩, stored⟩, ⟨member, same⟩, rfl, rfl⟩
      exact same ▸ member
    · intro member
      exact ⟨((deviceId, id), row), ⟨member, rfl⟩, rfl, rfl⟩

/-! ## The source of a row -/

/-- The source recorded with a row is the one the sign of its identifier says. -/
def SourceFollowsSign (shadow : StateShadow) : Prop :=
  forall owner id row, Dict.get? shadow.schedulePlans.rows (owner, id) = some row ->
    (row.source = .localEdit ↔ id < 0)

theorem sourceFollowsSign_cloud {shadow after : StateShadow} {deviceId : String}
    {plans : List Plan} (follows : SourceFollowsSign shadow)
    (stored : shadow.updateCloudSchedulePlans deviceId plans = some after) :
    SourceFollowsSign after := by
  intro owner id row found
  rw [StateShadow.get?_updateCloud stored] at found
  split at found
  · next touched =>
      obtain ⟨plan, -, rfl⟩ := Option.map_eq_some_iff.mp found
      have notNegative : ¬ id < 0 := Int.not_lt.mpr (Int.le_of_lt touched.2)
      simp only [reduceCtorEq, notNegative]
  · exact follows owner id row found

theorem sourceFollowsSign_local {shadow after : StateShadow} {deviceId : String}
    {plans : List Plan} (follows : SourceFollowsSign shadow)
    (stored : shadow.replaceLocalSchedulePlans deviceId plans = some after) :
    SourceFollowsSign after := by
  intro owner id row found
  rw [StateShadow.get?_replaceLocal stored] at found
  split at found
  · obtain ⟨plan, -, rfl⟩ := Option.map_eq_some_iff.mp found
    by_cases negative : id < 0
    · simp only [negative, if_true]
    · simp only [negative, if_false, reduceCtorEq]
  · exact follows owner id row found

theorem scheduleOwned_of_source {shadow : StateShadow} (follows : SourceFollowsSign shadow) :
    ScheduleOwned shadow where
  unique := shadow.schedulePlans.unique
  nonzero := shadow.schedulePlans.nonzero
  source := by
    rintro ⟨⟨owner, id⟩, row⟩ member
    exact follows owner id row
      (Dict.get?_eq_some_of_mem shadow.schedulePlans.unique member)
  keyed := shadow.schedulePlans.keyed
  ordered := listedInOrder shadow

theorem scheduleOwned_reached (writes : List ScheduleWrite) :
    ScheduleOwned (scheduleWriters.run {} writes) := by
  apply scheduleOwned_of_source
  apply scheduleWriters.run_invariant SourceFollowsSign
  · intro shadow write after follows stored
    cases write with
    | updateCloud deviceId plans => exact sourceFollowsSign_cloud follows stored
    | replaceLocal deviceId plans => exact sourceFollowsSign_local follows stored
  · intro owner id row found
    cases found

/-! ## What the two writers do -/

/-- A cloud snapshot leaves the rows of other devices and the negative rows
alone, and its positive plans are all the positive rows the device has. -/
structure CloudUpdated (before after : StateShadow) (deviceId : String) (plans : List Plan) :
    Prop where
  others : forall owner id, owner ≠ deviceId ->
    Dict.get? after.schedulePlans.rows (owner, id) =
      Dict.get? before.schedulePlans.rows (owner, id)
  negative : forall id, id < 0 ->
    Dict.get? after.schedulePlans.rows (deviceId, id) =
      Dict.get? before.schedulePlans.rows (deviceId, id)
  positive : forall id, 0 < id ->
    Dict.get? after.schedulePlans.rows (deviceId, id) =
      (lastWhere (fun plan => decide (planId? plan = some id)) plans).map
        (fun plan => ⟨plan, .cloud⟩)

/-- A local snapshot leaves the rows of other devices alone, and its non-zero
plans are all the rows the device has. -/
structure LocallyReplaced (before after : StateShadow) (deviceId : String)
    (plans : List Plan) : Prop where
  others : forall owner id, owner ≠ deviceId ->
    Dict.get? after.schedulePlans.rows (owner, id) =
      Dict.get? before.schedulePlans.rows (owner, id)
  own : forall id, id ≠ 0 ->
    Dict.get? after.schedulePlans.rows (deviceId, id) =
      (lastWhere (fun plan => decide (planId? plan = some id)) plans).map
        (fun plan => ⟨plan, if id < 0 then .localEdit else .cloud⟩)

/-- Identifiers that fit are all accepted. -/
theorem acceptedIds_fit {plans : List Plan} (fit : PlansFit plans) (accepted : Int -> Bool) :
    (StateShadow.acceptedIds plans accepted).all fitsInteger = true := by
  rw [List.all_eq_true]
  intro id listed
  obtain ⟨plan, member, known⟩ := List.mem_filterMap.mp (List.mem_filter.mp listed).1
  exact fit plan member id known

theorem updateCloud_effect (shadow : StateShadow) (deviceId : String) {plans : List Plan}
    (fit : PlansFit plans) :
    exists after, shadow.updateCloudSchedulePlans deviceId plans = some after ∧
      CloudUpdated shadow after deviceId plans := by
  have stored := fun after : StateShadow => @StateShadow.get?_updateCloud shadow after deviceId plans
  rw [StateShadow.updateCloudSchedulePlans] at stored ⊢
  simp only [acceptedIds_fit fit, if_true] at stored ⊢
  refine ⟨_, rfl, ?_, ?_, ?_⟩
  · intro owner id other
    rw [stored _ rfl, if_neg (fun both => other both.1)]
  · intro id negative
    rw [stored _ rfl, if_neg (fun both => Int.lt_asymm both.2 negative)]
  · intro id positive
    rw [stored _ rfl, if_pos ⟨rfl, positive⟩, StateShadow.snapshotRow,
      if_neg (Int.ne_of_gt positive)]

theorem replaceLocal_effect (shadow : StateShadow) (deviceId : String) {plans : List Plan}
    (fit : PlansFit plans) :
    exists after, shadow.replaceLocalSchedulePlans deviceId plans = some after ∧
      LocallyReplaced shadow after deviceId plans := by
  have stored := fun after : StateShadow =>
    @StateShadow.get?_replaceLocal shadow after deviceId plans
  rw [StateShadow.replaceLocalSchedulePlans] at stored ⊢
  simp only [acceptedIds_fit fit, if_true] at stored ⊢
  refine ⟨_, rfl, ?_, ?_⟩
  · intro owner id other
    rw [stored _ rfl, if_neg other]
  · intro id nonzero
    rw [stored _ rfl, if_pos rfl, StateShadow.snapshotRow, if_neg nonzero]

/-- In every reachable table the rows are owned by the sign of their
identifier and listed in order, and from there both writers do what their
snapshot says. -/
theorem schedule_ownership (writes : List ScheduleWrite) :
    ScheduleOwned (scheduleWriters.run {} writes) ∧
      forall deviceId plans, PlansFit plans ->
        (exists after,
          (scheduleWriters.run {} writes).updateCloudSchedulePlans deviceId plans = some after ∧
            CloudUpdated (scheduleWriters.run {} writes) after deviceId plans) ∧
        (exists after,
          (scheduleWriters.run {} writes).replaceLocalSchedulePlans deviceId plans = some after ∧
            LocallyReplaced (scheduleWriters.run {} writes) after deviceId plans) :=
  ⟨scheduleOwned_reached writes, fun deviceId _ fit =>
    ⟨updateCloud_effect _ deviceId fit, replaceLocal_effect _ deviceId fit⟩⟩

/-- A cloud push that repeats an identifier and carries a foreign local one. -/
theorem cloud_push_with_foreign_local_id :
    PlansFit [[("planId", .int 5)], [("planId", .int (-1))], [("planId", .int 5)]] ∧
      exists after,
        (scheduleWriters.run {} [.replaceLocal "feeder" [[("planId", .int (-1))],
            [("planId", .int 7)]]]).updateCloudSchedulePlans "feeder"
          [[("planId", .int 5)], [("planId", .int (-1))], [("planId", .int 5)]] = some after ∧
        CloudUpdated
          (scheduleWriters.run {} [.replaceLocal "feeder" [[("planId", .int (-1))],
            [("planId", .int 7)]]]) after "feeder"
          [[("planId", .int 5)], [("planId", .int (-1))], [("planId", .int 5)]] := by
  have fit :
      PlansFit [[("planId", .int 5)], [("planId", .int (-1))], [("planId", .int 5)]] := by
    intro plan member id known
    simp only [List.mem_cons, List.not_mem_nil, or_false] at member
    rcases member with rfl | rfl | rfl <;> cases known <;> decide
  exact ⟨fit, ((schedule_ownership _).2 "feeder" _ fit).1⟩

end Shadow
end PetlibroRelay
