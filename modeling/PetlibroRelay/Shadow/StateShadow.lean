import Mathlib.Algebra.Group.Int.Defs
import Mathlib.Data.List.Sort
import PetlibroRelay.Foundations.Json

namespace PetlibroRelay
namespace Shadow

open Foundations

/-!
# The state shadow

What the relay remembers about each device: reported facts, settings the cloud
pushed, settings the feeder confirmed, the last complete plan set of the cloud
and the editable schedule.  Every method runs under one lock and one
transaction, so each is an atomic function on the tables.  Values survive the
JSON columns unchanged, and update times are left out.

An integer beyond 64 bits cannot be bound to a column.  The statement raises and
the transaction is rolled back, which is `none` here.
-/

/-- One feeding plan, with the fields it was received or requested with. -/
abbrev Plan := Dict String Json

/-- The plan identifier, where booleans count as integers. -/
def planId? (plan : Plan) : Option Int :=
  (Dict.get? plan "planId").bind Json.int?

inductive PlanSource where
  | cloud
  | localEdit
  deriving DecidableEq, Repr

/-- One editable feeding plan and its source. -/
structure SchedulePlan where
  plan : Plan
  source : PlanSource
  deriving DecidableEq

/-- The table `schedule_plans`.  A row is stored under the identifier of its own
plan, and never under zero. -/
structure ScheduleTable where
  rows : Dict (String × Int) SchedulePlan
  unique : (Dict.keys rows).Nodup
  keyed : forall entry, entry ∈ rows -> planId? entry.2.plan = some entry.1.2
  nonzero : forall entry, entry ∈ rows -> entry.1.2 ≠ 0

namespace ScheduleTable

def empty : ScheduleTable where
  rows := []
  unique := List.nodup_nil
  keyed := fun _ member => nomatch member
  nonzero := fun _ member => nomatch member

/-- The values of the upserts for plans with accepted identifiers. -/
def entries (deviceId : String) (plans : List Plan) (accepted : Int -> Bool)
    (source : Int -> PlanSource) : Dict (String × Int) SchedulePlan :=
  plans.filterMap (fun plan =>
    match planId? plan with
    | none => none
    | some id => if accepted id then some ((deviceId, id), ⟨plan, source id⟩) else none)

theorem mem_entries {deviceId : String} {plans : List Plan} {accepted : Int -> Bool}
    {source : Int -> PlanSource} {entry : (String × Int) × SchedulePlan}
    (member : entry ∈ entries deviceId plans accepted source) :
    entry.1.1 = deviceId ∧ planId? entry.2.plan = some entry.1.2 ∧
      accepted entry.1.2 = true := by
  rcases List.mem_filterMap.mp member with ⟨plan, _, made⟩
  cases known : planId? plan with
  | none => rw [known] at made; cases made
  | some id =>
      rw [known] at made
      by_cases chosen : accepted id = true
      · simp only [if_pos chosen, Option.some.injEq] at made
        subst entry
        exact ⟨rfl, known, chosen⟩
      · simp only [if_neg chosen, reduceCtorEq] at made

/-- The upsert that decides a key is that of the last plan with its identifier. -/
theorem lastWhere_entries (deviceId : String) (plans : List Plan) (accepted : Int -> Bool)
    (source : Int -> PlanSource) (owner : String) (id : Int) :
    lastWhere (fun entry => decide (entry.1 = (owner, id)))
        (entries deviceId plans accepted source) =
      if owner = deviceId ∧ accepted id = true then
        (lastWhere (fun plan => decide (planId? plan = some id)) plans).map
          (fun plan => ((deviceId, id), ⟨plan, source id⟩))
      else none := by
  induction plans using List.reverseRecOn with
  | nil => simp only [entries, List.filterMap_nil, lastWhere_nil, Option.map_none, ite_self]
  | append_singleton earlier plan inductionHypothesis =>
      rw [entries, List.filterMap_append, ← entries, List.filterMap_cons, List.filterMap_nil,
        lastWhere_concat]
      cases known : planId? plan with
      | none =>
          simp only [List.append_nil, inductionHypothesis, reduceCtorEq, decide_false,
            Bool.false_eq_true, if_false]
      | some own =>
          simp only [Option.some.injEq]
          by_cases chosen : accepted own = true
          · rw [if_pos chosen]
            simp only [lastWhere_concat, inductionHypothesis, Prod.mk.injEq, Bool.decide_and,
              Bool.and_eq_true, decide_eq_true_eq]
            by_cases sameId : own = id
            · subst own
              by_cases sameOwner : deviceId = owner
              · subst owner
                simp only [true_and, if_true, chosen, Option.map_some]
              · have other : ¬ (owner = deviceId) := fun equal => sameOwner equal.symm
                simp only [sameOwner, other, false_and, if_false]
            · simp only [sameId, and_false, if_false]
          · rw [if_neg chosen, List.append_nil, inductionHypothesis]
            by_cases sameId : own = id
            · subst own
              simp only [chosen, Bool.false_eq_true, and_false, if_false]
            · simp only [sameId, decide_false, Bool.false_eq_true, if_false]

/-- Delete rows by key, then upsert the accepted plans. -/
def rewrite (table : ScheduleTable) (kept : String × Int -> Bool) (deviceId : String)
    (plans : List Plan) (accepted : Int -> Bool) (source : Int -> PlanSource)
    (excludesZero : accepted 0 = false) : ScheduleTable where
  rows := Dict.update (table.rows.filter (fun entry => kept entry.1))
    (entries deviceId plans accepted source)
  unique := Dict.nodup_keys_update _ _
    ((List.filter_sublist.map Prod.fst).nodup table.unique)
  keyed := by
    intro entry member
    rcases Dict.mem_update member with old | new
    · exact table.keyed entry (List.mem_filter.mp old).1
    · exact (mem_entries new).2.1
  nonzero := by
    intro entry member
    rcases Dict.mem_update member with old | new
    · exact table.nonzero entry (List.mem_filter.mp old).1
    · intro zero
      have chosen := (mem_entries new).2.2
      rw [zero, excludesZero] at chosen
      cases chosen

/-- The plan stored under a key. -/
def row (table : ScheduleTable) (deviceId : String) (id : Int) : Option Plan :=
  (Dict.get? table.rows (deviceId, id)).map SchedulePlan.plan

/-- A row after deletions and upserts. -/
theorem get?_rewrite (table : ScheduleTable) (kept : String × Int -> Bool) (deviceId : String)
    (plans : List Plan) (accepted : Int -> Bool) (source : Int -> PlanSource)
    (excludesZero : accepted 0 = false) (owner : String) (id : Int) :
    Dict.get? (table.rewrite kept deviceId plans accepted source excludesZero).rows (owner, id) =
      (if owner = deviceId ∧ accepted id = true then
          (lastWhere (fun plan => decide (planId? plan = some id)) plans).map
            (fun plan => ⟨plan, source id⟩)
        else none).or
        (if kept (owner, id) then Dict.get? table.rows (owner, id) else none) := by
  rw [rewrite, Dict.get?_update, lastWhere_entries, Dict.get?_filter_keys]
  by_cases touched : owner = deviceId ∧ accepted id = true
  · rw [if_pos touched, if_pos touched, Option.map_map]
    rfl
  · rw [if_neg touched, if_neg touched, Option.map_none]

/-- A rewrite for one device leaves the rows of another as they are. -/
theorem forFirst_rewrite_of_ne (table : ScheduleTable) {kept : String × Int -> Bool}
    {deviceId owner : String} (plans : List Plan) (accepted : Int -> Bool)
    (source : Int -> PlanSource) (excludesZero : accepted 0 = false)
    (keeps : forall key, key.1 = owner -> kept key = true) (other : owner ≠ deviceId) :
    Dict.forFirst (table.rewrite kept deviceId plans accepted source excludesZero).rows owner =
      Dict.forFirst table.rows owner := by
  rw [rewrite, Dict.forFirst_update_of_foreign, Dict.forFirst_filter_of_kept]
  · exact fun entry own => keeps entry.1 own
  · intro entry member same
    exact other (same.symm.trans (mem_entries member).1)

end ScheduleTable

/-- The tables of the shadow, keyed by device. -/
structure StateShadow where
  deviceReported : Dict (String × String) Json := []
  cloudDesired : Dict (String × String) Json := []
  localConfirmed : Dict (String × String) Json := []
  feedingPlans : Dict String (List Plan) := []
  schedulePlans : ScheduleTable := .empty
  rawMessages : Dict (String × String) (List UInt8 × Option String) := []
  cameraUids : Dict String (String × Option String) := []

/-- Whether an integer fits a column. -/
def fitsInteger (value : Int) : Bool :=
  decide (-(2 ^ 63) ≤ value) && decide (value < 2 ^ 63)

namespace StateShadow

/-! ## Writes -/

/-- Archive the latest raw payload seen on a topic. -/
def recordRaw (shadow : StateShadow) (deviceId topic : String) (payload : List UInt8)
    (command : Option String) : StateShadow :=
  { shadow with rawMessages := Dict.set shadow.rawMessages (deviceId, topic) (payload, command) }

/-- Persist a camera identifier.  A missing address keeps the known one. -/
def recordCameraUid (shadow : StateShadow) (deviceId uid : String)
    (feederIp : Option String := none) : StateShadow :=
  let known := (Dict.get? shadow.cameraUids deviceId).bind Prod.snd
  { shadow with cameraUids := Dict.set shadow.cameraUids deviceId (uid, feederIp.or known) }

/-- The upserts of a key-value table for one device. -/
def updateKv (table : Dict (String × String) Json) (deviceId : String)
    (values : Dict String Json) : Dict (String × String) Json :=
  Dict.update table (values.map (fun entry => ((deviceId, entry.1), entry.2)))

/-- A key-value table after the upserts of settings with one value each. -/
theorem get?_updateKv (table : Dict (String × String) Json) (deviceId : String)
    (values : Dict String Json) (unique : (Dict.keys values).Nodup) (owner key : String) :
    Dict.get? (updateKv table deviceId values) (owner, key) =
      if owner = deviceId then (Dict.get? values key).or (Dict.get? table (owner, key))
      else Dict.get? table (owner, key) := by
  rw [updateKv, Dict.get?_update, lastWhere_map]
  by_cases own : owner = deviceId
  · subst owner
    have same : lastWhere (fun entry : String × Json =>
        decide ((deviceId, entry.1) = (deviceId, key))) values =
          lastWhere (fun entry => decide (entry.1 = key)) values := by
      apply lastWhere_congr
      intro entry _
      simp only [Prod.mk.injEq, true_and]
    rw [same, if_pos rfl, ← Dict.lastWhere_key values unique key, Option.map_map]
    rfl
  · have untouched : lastWhere (fun entry : String × Json =>
        decide ((deviceId, entry.1) = (owner, key))) values = none := by
      rw [lastWhere_eq_none_iff]
      intro entry _ same
      exact own (congrArg Prod.fst (of_decide_eq_true same)).symm
    rw [untouched, if_neg own]
    rfl

/-- What one device has in a key-value table after the upserts of another or of
itself. -/
theorem forFirst_updateKv (table : Dict (String × String) Json) (deviceId : String)
    (values : Dict String Json) (owner : String) :
    Dict.forFirst (updateKv table deviceId values) owner =
      if deviceId = owner then Dict.update (Dict.forFirst table owner) values
      else Dict.forFirst table owner := by
  induction values generalizing table with
  | nil => exact (ite_self _).symm
  | cons entry rest inductionHypothesis =>
      refine (inductionHypothesis (Dict.set table (deviceId, entry.1) entry.2)).trans ?_
      rw [Dict.forFirst_set]
      by_cases same : deviceId = owner
      · rw [if_pos same, if_pos same, if_pos same]
        rfl
      · rw [if_neg same, if_neg same, if_neg same]

def updateReported (shadow : StateShadow) (deviceId : String) (values : Dict String Json) :
    StateShadow :=
  { shadow with deviceReported := updateKv shadow.deviceReported deviceId values }

def updateDesired (shadow : StateShadow) (deviceId : String) (values : Dict String Json) :
    StateShadow :=
  { shadow with cloudDesired := updateKv shadow.cloudDesired deviceId values }

/-- Record settings the physical feeder acknowledged. -/
def updateLocalConfirmed (shadow : StateShadow) (deviceId : String)
    (values : Dict String Json) : StateShadow :=
  { shadow with localConfirmed := updateKv shadow.localConfirmed deviceId values }

/-- Replace the stored plan set with a complete one from the cloud. -/
def updateFeedingPlans (shadow : StateShadow) (deviceId : String) (plans : List Plan) :
    StateShadow :=
  { shadow with feedingPlans := Dict.set shadow.feedingPlans deviceId plans }

/-- The identifiers of the plans that are integers accepted by the predicate. -/
def acceptedIds (plans : List Plan) (accepted : Int -> Bool) : List Int :=
  (plans.filterMap planId?).filter accepted

def isCloudId (id : Int) : Bool := decide (0 < id)

def isPersistedId (id : Int) : Bool := decide (id ≠ 0)

/-- Merge a complete cloud snapshot: positive identifiers are replaced as a set,
and the others are left alone. -/
def updateCloudSchedulePlans (shadow : StateShadow) (deviceId : String) (plans : List Plan) :
    Option StateShadow :=
  let cloudIds := acceptedIds plans isCloudId
  if cloudIds.all fitsInteger then
    some { shadow with
      schedulePlans := shadow.schedulePlans.rewrite
        (fun key => !(decide (key.1 = deviceId) && isCloudId key.2 && !decide (key.2 ∈ cloudIds)))
        deviceId plans isCloudId (fun _ => .cloud) (by decide) }
  else none

/-- Persist a snapshot the feeder confirmed.  The owner of a plan follows from
the sign of its identifier. -/
def replaceLocalSchedulePlans (shadow : StateShadow) (deviceId : String) (plans : List Plan) :
    Option StateShadow :=
  if (acceptedIds plans isPersistedId).all fitsInteger then
    some { shadow with
      schedulePlans := shadow.schedulePlans.rewrite (fun key => !decide (key.1 = deviceId))
        deviceId plans isPersistedId (fun id => if id < 0 then .localEdit else .cloud) (by decide) }
  else none

/-! ## Reads -/

def getDesired (shadow : StateShadow) (deviceId : String) : Dict String Json :=
  Dict.forFirst shadow.cloudDesired deviceId

def getLocalConfirmed (shadow : StateShadow) (deviceId : String) : Dict String Json :=
  Dict.forFirst shadow.localConfirmed deviceId

def getFeedingPlans (shadow : StateShadow) (deviceId : String) : Option (List Plan) :=
  Dict.get? shadow.feedingPlans deviceId

/-- The editable schedule of a device, ordered by identifier. -/
def getSchedulePlans (shadow : StateShadow) (deviceId : String) : List SchedulePlan :=
  ((Dict.forFirst shadow.schedulePlans.rows deviceId).insertionSort
    (fun first second => first.1 ≤ second.1)).map Prod.snd

/-! ## What the schedule holds -/

/-- The plan the schedule stores under an identifier. -/
def planRow (shadow : StateShadow) (deviceId : String) (id : Int) : Option Plan :=
  shadow.schedulePlans.row deviceId id

/-- The plan a persisted snapshot stores under an identifier: the last one that
carries it, and none under zero. -/
def snapshotRow (plans : List Plan) (id : Int) : Option Plan :=
  if id = 0 then none else lastWhere (fun plan => decide (planId? plan = some id)) plans

/-- The rows after a local snapshot: the device has exactly the snapshot's. -/
theorem get?_replaceLocal {shadow after : StateShadow} {deviceId : String} {plans : List Plan}
    (stored : shadow.replaceLocalSchedulePlans deviceId plans = some after)
    (owner : String) (id : Int) :
    Dict.get? after.schedulePlans.rows (owner, id) =
      if owner = deviceId then
        (snapshotRow plans id).map
          (fun plan => ⟨plan, if id < 0 then .localEdit else .cloud⟩)
      else Dict.get? shadow.schedulePlans.rows (owner, id) := by
  simp only [replaceLocalSchedulePlans] at stored
  split at stored
  · cases stored
    refine (ScheduleTable.get?_rewrite _ _ _ _ _ _ _ _ _).trans ?_
    rw [snapshotRow]
    by_cases same : owner = deviceId
    · by_cases zero : id = 0
      · simp [same, zero, isPersistedId]
      · simp [same, zero, isPersistedId]
    · simp [same]
  · cases stored

/-- The rows after a cloud snapshot: the positive rows of the device are the
snapshot's, and every other row is as before. -/
theorem get?_updateCloud {shadow after : StateShadow} {deviceId : String} {plans : List Plan}
    (stored : shadow.updateCloudSchedulePlans deviceId plans = some after)
    (owner : String) (id : Int) :
    Dict.get? after.schedulePlans.rows (owner, id) =
      if owner = deviceId ∧ 0 < id then (snapshotRow plans id).map (fun plan => ⟨plan, .cloud⟩)
      else Dict.get? shadow.schedulePlans.rows (owner, id) := by
  simp only [updateCloudSchedulePlans] at stored
  split at stored
  · cases stored
    refine (ScheduleTable.get?_rewrite _ _ _ _ _ _ _ _ _).trans ?_
    by_cases touched : owner = deviceId ∧ 0 < id
    · rcases touched with ⟨same, positive⟩
      have nonzero : id ≠ 0 := Int.ne_of_gt positive
      simp only [same, positive, isCloudId, and_self, decide_true, if_true, snapshotRow,
        if_neg nonzero, Bool.and_self, Bool.true_and, Bool.not_not]
      cases found : lastWhere (fun plan => decide (planId? plan = some id)) plans with
      | some plan => rw [Option.map_some, Option.some_or]
      | none =>
          rw [Option.map_none, Option.none_or, if_neg]
          intro listed
          simp only [acceptedIds, decide_eq_true_eq, List.mem_filter, List.mem_filterMap] at listed
          rcases listed.1 with ⟨plan, member, known⟩
          exact (lastWhere_eq_none_iff _ _).mp found plan member (decide_eq_true known)
    · rw [if_neg touched]
      have untouched : ¬ (owner = deviceId ∧ isCloudId id = true) := by
        simpa only [isCloudId, decide_eq_true_eq] using touched
      rw [if_neg untouched, Option.none_or, if_pos]
      simp only [Bool.not_eq_true', Bool.and_eq_false_iff, decide_eq_false_iff_not]
      by_cases same : owner = deviceId
      · have small : isCloudId id = false := by
          apply Bool.eq_false_iff.mpr
          intro positive
          exact untouched ⟨same, positive⟩
        exact Or.inl (Or.inr small)
      · exact Or.inl (Or.inl same)
  · cases stored

theorem planRow_replace {shadow after : StateShadow} {deviceId : String} {plans : List Plan}
    (stored : shadow.replaceLocalSchedulePlans deviceId plans = some after)
    (owner : String) (id : Int) :
    after.planRow owner id =
      if owner = deviceId then snapshotRow plans id else shadow.planRow owner id := by
  rw [planRow, ScheduleTable.row, get?_replaceLocal stored]
  split
  · rw [Option.map_map]
    exact Option.map_id_apply
  · rfl

theorem planRow_cloud {shadow after : StateShadow} {deviceId : String} {plans : List Plan}
    (stored : shadow.updateCloudSchedulePlans deviceId plans = some after)
    (owner : String) (id : Int) :
    after.planRow owner id =
      if owner = deviceId ∧ 0 < id then snapshotRow plans id else shadow.planRow owner id := by
  rw [planRow, ScheduleTable.row, get?_updateCloud stored]
  split
  · rw [Option.map_map]
    exact Option.map_id_apply
  · rfl

theorem localConfirmed_replace {shadow after : StateShadow} {deviceId : String}
    {plans : List Plan} (stored : shadow.replaceLocalSchedulePlans deviceId plans = some after) :
    after.localConfirmed = shadow.localConfirmed := by
  simp only [replaceLocalSchedulePlans] at stored
  split at stored
  · cases stored
    rfl
  · cases stored

theorem localConfirmed_cloud {shadow after : StateShadow} {deviceId : String} {plans : List Plan}
    (stored : shadow.updateCloudSchedulePlans deviceId plans = some after) :
    after.localConfirmed = shadow.localConfirmed := by
  simp only [updateCloudSchedulePlans] at stored
  split at stored
  · cases stored
    rfl
  · cases stored

/-- A rewrite of one schedule leaves the plans of another device as they are. -/
theorem plans_rewrite_of_ne (shadow : StateShadow) {kept : String × Int -> Bool}
    {deviceId owner : String} (plans : List Plan) (accepted : Int -> Bool)
    (source : Int -> PlanSource) (excludesZero : accepted 0 = false)
    (keeps : forall key, key.1 = owner -> kept key = true) (other : owner ≠ deviceId) :
    getSchedulePlans { shadow with
        schedulePlans :=
          shadow.schedulePlans.rewrite kept deviceId plans accepted source excludesZero } owner =
      shadow.getSchedulePlans owner := by
  rw [getSchedulePlans, getSchedulePlans, ScheduleTable.forFirst_rewrite_of_ne _ _ _ _ _ keeps other]

/-- A local snapshot concerns the schedule of its own device only. -/
theorem plans_replace_of_ne {shadow after : StateShadow} {deviceId owner : String}
    {plans : List Plan} (stored : shadow.replaceLocalSchedulePlans deviceId plans = some after)
    (other : owner ≠ deviceId) :
    after.getSchedulePlans owner = shadow.getSchedulePlans owner ∧
      after.getFeedingPlans owner = shadow.getFeedingPlans owner := by
  simp only [replaceLocalSchedulePlans] at stored
  split at stored
  · cases stored
    refine ⟨plans_rewrite_of_ne _ _ _ _ _ ?_ other, rfl⟩
    intro key own
    rw [own, decide_eq_false other]
    rfl
  · cases stored

/-- So does a cloud snapshot. -/
theorem plans_cloud_of_ne {shadow after : StateShadow} {deviceId owner : String}
    {plans : List Plan} (stored : shadow.updateCloudSchedulePlans deviceId plans = some after)
    (other : owner ≠ deviceId) :
    after.getSchedulePlans owner = shadow.getSchedulePlans owner ∧
      after.getFeedingPlans owner = shadow.getFeedingPlans owner := by
  simp only [updateCloudSchedulePlans] at stored
  split at stored
  · cases stored
    refine ⟨plans_rewrite_of_ne _ _ _ _ _ ?_ other, rfl⟩
    intro key own
    rw [own, decide_eq_false other]
    rfl
  · cases stored

/-- The plans read are the plans of the device's rows. -/
theorem mem_getSchedulePlans (shadow : StateShadow) (deviceId : String) (plan : Plan) :
    plan ∈ (shadow.getSchedulePlans deviceId).map SchedulePlan.plan ↔
      exists own entry, ((deviceId, own), entry) ∈ shadow.schedulePlans.rows ∧
        entry.plan = plan := by
  have sorted := List.perm_insertionSort
    (fun first second : Int × SchedulePlan => first.1 ≤ second.1)
    (Dict.forFirst shadow.schedulePlans.rows deviceId)
  simp only [getSchedulePlans, List.map_map, List.mem_map, Function.comp_apply, sorted.mem_iff]
  simp only [Dict.forFirst, List.mem_map, List.mem_filter, decide_eq_true_eq]
  constructor
  · rintro ⟨_, ⟨entry, ⟨member, same⟩, rfl⟩, rfl⟩
    exact ⟨entry.1.2, entry.2, by rw [← same]; exact member, rfl⟩
  · rintro ⟨own, entry, member, rfl⟩
    exact ⟨(own, entry), ⟨((deviceId, own), entry), ⟨member, rfl⟩, rfl⟩, rfl⟩

/-- A plan that was read has the identifier of its row. -/
theorem planRow_of_mem {shadow : StateShadow} {deviceId : String} {plan : Plan}
    (member : plan ∈ (shadow.getSchedulePlans deviceId).map SchedulePlan.plan) :
    exists id, planId? plan = some id ∧ shadow.planRow deviceId id = some plan := by
  rcases (mem_getSchedulePlans shadow deviceId plan).mp member with ⟨id, entry, inTable, same⟩
  refine ⟨id, ?_, ?_⟩
  · rw [← same]
    exact shadow.schedulePlans.keyed _ inTable
  · rw [planRow, ScheduleTable.row,
      Dict.get?_eq_some_of_mem shadow.schedulePlans.unique inTable, Option.map_some, same]

/-- Reading the schedule and storing what was read gives the rows back. -/
theorem snapshotRow_getSchedulePlans (shadow : StateShadow) (deviceId : String) (id : Int) :
    snapshotRow ((shadow.getSchedulePlans deviceId).map SchedulePlan.plan) id =
      shadow.planRow deviceId id := by
  have listed := mem_getSchedulePlans shadow deviceId
  rw [snapshotRow, planRow, ScheduleTable.row]
  cases stored : Dict.get? shadow.schedulePlans.rows (deviceId, id) with
  | none =>
      rw [Option.map_none]
      split
      · rfl
      · rw [lastWhere_eq_none_iff]
        intro plan member same
        rcases (listed plan).mp member with ⟨own, entry, inTable, rfl⟩
        have known := shadow.schedulePlans.keyed _ inTable
        rw [of_decide_eq_true same] at known
        cases known
        exact (Dict.get?_eq_none_iff _ _).mp stored (List.mem_map_of_mem inTable)
  | some entry =>
      have inTable := Dict.mem_of_get?_eq_some stored
      rw [if_neg (shadow.schedulePlans.nonzero _ inTable), Option.map_some]
      apply lastWhere_of_unique
      · exact (listed entry.plan).mpr ⟨id, entry, inTable, rfl⟩
      · exact decide_eq_true (shadow.schedulePlans.keyed _ inTable)
      · intro other member same
        rcases (listed other).mp member with ⟨own, otherEntry, otherInTable, rfl⟩
        have known := shadow.schedulePlans.keyed _ otherInTable
        rw [of_decide_eq_true same] at known
        cases known
        have equal := (Dict.get?_eq_some_of_mem shadow.schedulePlans.unique otherInTable).symm.trans
          stored
        rw [Option.some.inj equal]

end StateShadow
end Shadow
end PetlibroRelay
