import PetlibroRelay.Foundations.RelatedRows
import PetlibroRelay.Dashboard.ShadowView

namespace PetlibroRelay
namespace Dashboard

open Foundations
open Shadow

/-!
# What the dashboard state reveals

Two shadows that differ only in what stands under sensitive keys have snapshots that
agree outside these keys, and so the same redacted state, as long as no sensitive
key is the key of a row.  A row becomes an object whose fields are its key, its value
and its time.  The redaction then meets the value under the key `value`, and
whatever a sensitive row holds is shown.
-/

/-! ## Shadows that differ in secrets -/

/-- Two payloads are equal, or documents that agree outside sensitive keys. -/
def PayloadsAgree (loads : List UInt8 -> Option Json) (first second : List UInt8) : Prop :=
  first = second ∨ exists decodedFirst decodedSecond, loads first = some decodedFirst ∧
    loads second = some decodedSecond ∧
      Json.AgreesOutside isSensitiveKey decodedFirst decodedSecond

/-- Values of two rows with the same key. -/
def ValuesAgree (key : String × String) (first second : Json) : Prop :=
  isSensitiveKey key.2 = true ∨ Json.AgreesOutside isSensitiveKey first second

/-- Two shadows differ only in what stands under sensitive keys: as keys of rows, or of
objects at any depth of values, plans and raw payloads. -/
structure DifferInSecrets (loads : List UInt8 -> Option Json) (first second : StateShadow) :
    Prop where
  deviceReported : Dict.RowsRelated ValuesAgree first.deviceReported second.deviceReported
  cloudDesired : Dict.RowsRelated ValuesAgree first.cloudDesired second.cloudDesired
  localConfirmed : Dict.RowsRelated ValuesAgree first.localConfirmed second.localConfirmed
  feedingPlans : Dict.RowsRelated (fun _ => List.Forall₂ (Json.FieldsAgree isSensitiveKey))
    first.feedingPlans second.feedingPlans
  schedulePlans : Dict.RowsRelated (fun _ (planFirst planSecond : SchedulePlan) =>
      planFirst.source = planSecond.source ∧
        Json.FieldsAgree isSensitiveKey planFirst.plan planSecond.plan)
    first.schedulePlans.rows second.schedulePlans.rows
  rawMessages : Dict.RowsRelated (fun _ (rawFirst rawSecond : List UInt8 × Option String) =>
      rawFirst.2 = rawSecond.2 ∧ PayloadsAgree loads rawFirst.1 rawSecond.1)
    first.rawMessages second.rawMessages
  cameraUids : first.cameraUids = second.cameraUids

/-- No value of the device is stored under a sensitive key. -/
def NoSensitiveRow (shadow : StateShadow) (deviceId : String) : Prop :=
  forall table, table ∈ [shadow.deviceReported, shadow.cloudDesired, shadow.localConfirmed] ->
    forall row, row ∈ table -> row.1.1 = deviceId -> isSensitiveKey row.1.2 = false

/-! ## Agreement of the snapshots -/

theorem rowsByKey_related {κ ν : Type} [DecidableEq κ] [LE κ] [DecidableLE κ]
    {related : String × κ -> ν -> ν -> Prop} {first second : Dict (String × κ) ν}
    (rows : Dict.RowsRelated related first second) (deviceId : String) :
    Dict.RowsRelated (fun key => related (deviceId, key)) (rowsByKey first deviceId)
      (rowsByKey second deviceId) := by
  apply forall₂_insertionSort _ _ _ (rows.forFirst deviceId)
  intro a b c d same other
  rw [same.1, other.1]

theorem mem_rowsByKey {κ ν : Type} [DecidableEq κ] [LE κ] [DecidableLE κ]
    {table : Dict (String × κ) ν} {deviceId : String} {row : κ × ν} :
    row ∈ rowsByKey table deviceId ↔ ((deviceId, row.1), row.2) ∈ table := by
  rw [rowsByKey, List.mem_insertionSort, Dict.forFirst, List.mem_map]
  constructor
  · rintro ⟨entry, member, rfl⟩
    rw [List.mem_filter, decide_eq_true_eq] at member
    rw [← member.2]
    exact member.1
  · intro member
    exact ⟨_, List.mem_filter.mpr ⟨member, decide_eq_true rfl⟩, rfl⟩

theorem items_agree {α : Type} {related : α -> α -> Prop} {view : α -> Json}
    {first second : List α} (rows : List.Forall₂ related first second)
    (agree : forall a b, related a b -> Json.AgreesOutside isSensitiveKey (view a) (view b)) :
    Json.AgreesOutside isSensitiveKey (.arr (first.map view)) (.arr (second.map view)) := by
  refine .arr (.of_forall₂ ?_)
  rw [List.forall₂_map_left_iff, List.forall₂_map_right_iff]
  exact rows.imp agree

/-- The rows of a table without sensitive keys. -/
theorem values_agree {first second : Dict (String × String) Json}
    (rows : Dict.RowsRelated ValuesAgree first second) {deviceId : String}
    (shown : forall row, row ∈ first -> row.1.1 = deviceId -> isSensitiveKey row.1.2 = false)
    (updatedAt : String × String -> Rat) :
    Json.AgreesOutside isSensitiveKey
      (.arr ((rowsByKey first deviceId).map (valueRow updatedAt deviceId)))
      (.arr ((rowsByKey second deviceId).map (valueRow updatedAt deviceId))) := by
  have visible : forall row, row ∈ rowsByKey first deviceId -> isSensitiveKey row.1 = false :=
    fun row member => shown ((deviceId, row.1), row.2) (mem_rowsByKey.mp member) rfl
  apply items_agree ((List.forall₂_and_left _ _).mpr ⟨visible, rowsByKey_related rows deviceId⟩)
  rintro ⟨key, value⟩ ⟨_, other⟩ ⟨plain, rfl, hidden | agree⟩
  · rw [plain] at hidden
    cases hidden
  · exact .obj (.keep _ (.same _) (.keep _ agree (.same _)))

theorem decodeRawPayload_agree {loads : List UInt8 -> Option Json} {first second : List UInt8}
    (payloads : PayloadsAgree loads first second) :
    Json.AgreesOutside isSensitiveKey (decodeRawPayload loads first)
      (decodeRawPayload loads second) := by
  rcases payloads with rfl | ⟨decodedFirst, decodedSecond, readFirst, readSecond, agree⟩
  · exact .same _
  · rw [decodeRawPayload, decodeRawPayload, readFirst, readSecond]
    exact agree.redacted isRawIdentityKey

variable {loads : List UInt8 -> Option Json} {first second : StateShadow}
  {stamps : ShadowStamps} {deviceId : String} {rawLimit : Int}

theorem planSet_agree (differ : DifferInSecrets loads first second) :
    Json.AgreesOutside isSensitiveKey (planSet first stamps deviceId)
      (planSet second stamps deviceId) := by
  have plans := differ.feedingPlans.get? deviceId
  rw [planSet, planSet, StateShadow.getFeedingPlans, StateShadow.getFeedingPlans]
  revert plans
  cases Dict.get? first.feedingPlans deviceId <;> cases Dict.get? second.feedingPlans deviceId <;>
    intro plans <;> cases plans
  · exact .same _
  · next related => exact .obj (.keep _ (items_agree related (fun _ _ => .obj)) (.same _))

theorem schedule_agree (differ : DifferInSecrets loads first second) :
    Json.AgreesOutside isSensitiveKey
      (.arr ((rowsByKey first.schedulePlans.rows deviceId).map
        (planRow stamps.schedulePlans deviceId)))
      (.arr ((rowsByKey second.schedulePlans.rows deviceId).map
        (planRow stamps.schedulePlans deviceId))) := by
  apply items_agree (rowsByKey_related differ.schedulePlans deviceId)
  rintro ⟨id, ⟨plan, source⟩⟩ ⟨_, ⟨other, _⟩⟩ ⟨rfl, rfl, agree⟩
  exact .obj (.keep _ (.obj agree) (.same _))

theorem raw_agree (differ : DifferInSecrets loads first second) :
    Json.AgreesOutside isSensitiveKey
      (.arr ((newestRaw first stamps deviceId rawLimit).map
        (rawRow loads stamps.rawMessages deviceId)))
      (.arr ((newestRaw second stamps deviceId rawLimit).map
        (rawRow loads stamps.rawMessages deviceId))) := by
  have sorted := forall₂_insertionSort
    (fun a b => stamps.rawMessages (deviceId, b.1) ≤ stamps.rawMessages (deviceId, a.1))
    (fun a b => stamps.rawMessages (deviceId, b.1) ≤ stamps.rawMessages (deviceId, a.1))
    (fun a b c d same other => by rw [same.1, other.1]) (differ.rawMessages.forFirst deviceId)
  apply items_agree (List.forall₂_take _ sorted)
  rintro ⟨topic, ⟨payload, command⟩⟩ ⟨_, ⟨other, _⟩⟩ ⟨rfl, rfl, agree⟩
  exact .obj (.keep _ (.same _) (.keep _ (.same _)
    (.keep _ (decodeRawPayload_agree agree) (.same _))))

theorem isSome_eq_of_rel {α β : Type} {related : α -> β -> Prop} :
    {first : Option α} -> {second : Option β} -> Option.Rel related first second ->
      first.isSome = second.isSome
  | _, _, .none => rfl
  | _, _, .some _ => rfl

theorem rowCounts_eq (differ : DifferInSecrets loads first second) :
    rowCounts first deviceId = rowCounts second deviceId := by
  have known : (first.getFeedingPlans deviceId).isSome = (second.getFeedingPlans deviceId).isSome :=
    isSome_eq_of_rel (differ.feedingPlans.get? deviceId)
  rw [rowCounts, rowCounts, known,
    (rowsByKey_related differ.deviceReported deviceId).length_eq,
    (rowsByKey_related differ.cloudDesired deviceId).length_eq,
    (rowsByKey_related differ.localConfirmed deviceId).length_eq,
    (differ.rawMessages.forFirst deviceId).length_eq]

/-- The snapshots agree outside sensitive keys. -/
theorem dashboardSnapshot_agree (differ : DifferInSecrets loads first second)
    (shown : NoSensitiveRow first deviceId) :
    Json.AgreesOutside isSensitiveKey (dashboardSnapshot loads first stamps deviceId rawLimit)
      (dashboardSnapshot loads second stamps deviceId rawLimit) := by
  simp only [NoSensitiveRow, List.forall_mem_cons] at shown
  rw [dashboardSnapshot, dashboardSnapshot, rowCounts_eq differ]
  exact .obj (.keep _ (.same _)
    (.keep _ (values_agree differ.deviceReported shown.1 _)
    (.keep _ (values_agree differ.cloudDesired shown.2.1 _)
    (.keep _ (values_agree differ.localConfirmed shown.2.2.1 _)
    (.keep _ (planSet_agree differ) (.keep _ (schedule_agree differ)
    (.keep _ (raw_agree differ) (.same _))))))))

/-! ## Rows under sensitive keys -/

/-- The table with another value under one key. -/
def replaceUnder (key : String × String) (value : Json) (table : Dict (String × String) Json) :
    Dict (String × String) Json :=
  table.map (fun row => (row.1, if row.1 = key then value else row.2))

theorem replaceUnder_related {key : String × String} (sensitive : isSensitiveKey key.2 = true)
    (value : Json) (table : Dict (String × String) Json) :
    Dict.RowsRelated ValuesAgree table (replaceUnder key value table) := by
  rw [Dict.RowsRelated, replaceUnder, List.forall₂_map_right_iff, List.forall₂_same]
  intro row _
  refine ⟨rfl, ?_⟩
  dsimp only
  split
  · next same => exact Or.inl (same ▸ sensitive)
  · exact Or.inr (.same _)

theorem rowsByKey_replaceUnder (deviceId key : String) (value : Json)
    (table : Dict (String × String) Json) :
    rowsByKey (replaceUnder (deviceId, key) value table) deviceId =
      (rowsByKey table deviceId).map (fun row => (row.1, if row.1 = key then value else row.2)) := by
  have rows : Dict.forFirst (replaceUnder (deviceId, key) value table) deviceId =
      (Dict.forFirst table deviceId).map
        (fun row => (row.1, if row.1 = key then value else row.2)) := by
    rw [Dict.forFirst, Dict.forFirst, replaceUnder, List.filter_map, List.map_map, List.map_map]
    apply List.map_congr_left
    intro row member
    have own : row.1.1 = deviceId := of_decide_eq_true (List.mem_filter.mp member).2
    simp only [Function.comp_apply, true_and, Prod.ext_iff, own]
  rw [rowsByKey, rowsByKey, rows]
  symm
  apply List.map_insertionSort
  exact fun _ _ _ _ => Iff.rfl

variable {isAlnum : Char -> Bool}

theorem sanitizeValue_valueRow (updatedAt : String × String -> Rat) (row : String × Json) :
    sanitizeValue isAlnum (valueRow updatedAt deviceId row) =
      .obj [("key", sanitizeValue isAlnum (.str row.1)), ("value", sanitizeValue isAlnum row.2),
        ("updated_at", timeOrNull (updatedAt (deviceId, row.1)))] := by
  rw [sanitizeValue, valueRow, Json.redact_obj_of_shown]
  · simp only [List.map_cons, List.map_nil, timeOrNull, Json.redact]
  · exact (by decide +kernel : forall key, key ∈ ["key", "value", "updated_at"] ->
      isSensitiveKey key = false)

/-- If the shown rows are the same after a value has been replaced, what is shown of the
value is what is shown of its replacement. -/
theorem shown_of_rows_eq {table : Dict (String × String) Json} {key : String} {old : Json}
    (stored : ((deviceId, key), old) ∈ table) (value : Json) (updatedAt : String × String -> Rat)
    (same : ((rowsByKey table deviceId).map (valueRow updatedAt deviceId)).map
        (sanitizeValue isAlnum) =
      ((rowsByKey (replaceUnder (deviceId, key) value table) deviceId).map
        (valueRow updatedAt deviceId)).map (sanitizeValue isAlnum)) :
    sanitizeValue isAlnum old = sanitizeValue isAlnum value := by
  rw [rowsByKey_replaceUnder, List.map_map, List.map_map, List.map_map, List.map_inj_left] at same
  have row := same (key, old) (mem_rowsByKey.mpr stored)
  simp only [Function.comp_apply, sanitizeValue_valueRow, if_true, Json.obj.injEq,
    List.cons.injEq, Prod.mk.injEq, true_and, and_true] at row
  exact row

/-- The state, field by field. -/
theorem state_eq (shadow : StateShadow) :
    DashboardContext.state isAlnum loads shadow stamps deviceId rawLimit =
      .obj [("device_id", sanitizeValue isAlnum (.str deviceId)),
        ("reported", .arr (((rowsByKey shadow.deviceReported deviceId).map
          (valueRow stamps.deviceReported deviceId)).map (sanitizeValue isAlnum))),
        ("desired", .arr (((rowsByKey shadow.cloudDesired deviceId).map
          (valueRow stamps.cloudDesired deviceId)).map (sanitizeValue isAlnum))),
        ("local_confirmed", .arr (((rowsByKey shadow.localConfirmed deviceId).map
          (valueRow stamps.localConfirmed deviceId)).map (sanitizeValue isAlnum))),
        ("feeding_plans", sanitizeValue isAlnum (planSet shadow stamps deviceId)),
        ("schedule_plans", .arr (((rowsByKey shadow.schedulePlans.rows deviceId).map
          (planRow stamps.schedulePlans deviceId)).map (sanitizeValue isAlnum))),
        ("raw_messages", .arr (((newestRaw shadow stamps deviceId rawLimit).map
          (rawRow loads stamps.rawMessages deviceId)).map (sanitizeValue isAlnum))),
        ("counts", sanitizeValue isAlnum (rowCounts shadow deviceId))] := by
  rw [DashboardContext.state, sanitizeValue, dashboardSnapshot, Json.redact_obj_of_shown]
  · simp only [List.map_cons, List.map_nil, Json.redact, Json.redactItems_eq_map]
  · exact (by decide +kernel : forall key, key ∈ ["device_id", "reported", "desired",
      "local_confirmed", "feeding_plans", "schedule_plans", "raw_messages", "counts"] ->
        isSensitiveKey key = false)

theorem DifferInSecrets.refl (loads : List UInt8 -> Option Json) (shadow : StateShadow) :
    DifferInSecrets loads shadow shadow where
  deviceReported := List.forall₂_same.mpr (fun _ _ => ⟨rfl, Or.inr (.same _)⟩)
  cloudDesired := List.forall₂_same.mpr (fun _ _ => ⟨rfl, Or.inr (.same _)⟩)
  localConfirmed := List.forall₂_same.mpr (fun _ _ => ⟨rfl, Or.inr (.same _)⟩)
  feedingPlans := List.forall₂_same.mpr
    (fun _ _ => ⟨rfl, List.forall₂_same.mpr (fun _ _ => .same _)⟩)
  schedulePlans := List.forall₂_same.mpr (fun _ _ => ⟨rfl, rfl, .same _⟩)
  rawMessages := List.forall₂_same.mpr (fun _ _ => ⟨rfl, rfl, Or.inl rfl⟩)
  cameraUids := rfl

/-- The shadow with another value under one key of its tables of values. -/
def withValue (shadow : StateShadow) (key : String × String) (value : Json) : StateShadow :=
  { shadow with
    deviceReported := replaceUnder key value shadow.deviceReported
    cloudDesired := replaceUnder key value shadow.cloudDesired
    localConfirmed := replaceUnder key value shadow.localConfirmed }

theorem differ_withValue (shadow : StateShadow) {key : String × String}
    (sensitive : isSensitiveKey key.2 = true) (value : Json) :
    DifferInSecrets loads shadow (withValue shadow key value) :=
  { DifferInSecrets.refl loads shadow with
    deviceReported := replaceUnder_related sensitive value _
    cloudDesired := replaceUnder_related sensitive value _
    localConfirmed := replaceUnder_related sensitive value _ }

/-- If the state does not depend on what stands under a key, it shows each value under the
key as it shows the replacement. -/
theorem shown_of_state_eq {shadow : StateShadow} {key : String} {old value : Json}
    {table : Dict (String × String) Json}
    (listed : table ∈ [shadow.deviceReported, shadow.cloudDesired, shadow.localConfirmed])
    (stored : ((deviceId, key), old) ∈ table)
    (same : DashboardContext.state isAlnum loads (withValue shadow (deviceId, key) value) stamps
        deviceId rawLimit =
      DashboardContext.state isAlnum loads shadow stamps deviceId rawLimit) :
    sanitizeValue isAlnum old = sanitizeValue isAlnum value := by
  rw [state_eq, state_eq] at same
  simp only [Json.obj.injEq, List.cons.injEq, Prod.mk.injEq, true_and, Json.arr.injEq,
    withValue] at same
  obtain ⟨reported, desired, confirmed, -⟩ := same
  simp only [List.mem_cons, List.not_mem_nil, or_false] at listed
  rcases listed with rfl | rfl | rfl
  · exact shown_of_rows_eq stored value _ reported.symm
  · exact shown_of_rows_eq stored value _ desired.symm
  · exact shown_of_rows_eq stored value _ confirmed.symm

/-! ## Non-interference -/

/-- The state of a device depends on nothing that stands under sensitive keys exactly when no
value of the device is stored under a sensitive key. -/
theorem state_hides_secrets_iff (isAlnum : Char -> Bool) (loads : List UInt8 -> Option Json)
    (shadow : StateShadow) (stamps : ShadowStamps) (deviceId : String) (rawLimit : Int) :
    (forall other, DifferInSecrets loads shadow other ->
        DashboardContext.state isAlnum loads other stamps deviceId rawLimit =
          DashboardContext.state isAlnum loads shadow stamps deviceId rawLimit) ↔
      NoSensitiveRow shadow deviceId := by
  constructor
  · rintro hides table listed ⟨⟨_, key⟩, old⟩ stored rfl
    by_contra sensitive
    rw [Bool.not_eq_false] at sensitive
    have shows : forall value, sanitizeValue isAlnum old = sanitizeValue isAlnum value :=
      fun value => shown_of_state_eq listed stored (hides _ (differ_withValue shadow sensitive value))
    have different := (shows .null).symm.trans (shows (.bool true))
    simp only [sanitizeValue, Json.redact, reduceCtorEq] at different
  · intro shown other differ
    exact (dashboardSnapshot_agree differ shown).redact_eq.symm

/-- A shadow with one setting of the cloud. -/
def shadowWith (key : String) (value : Json) : StateShadow :=
  { cloudDesired := [(("feeder", key), value)] }

/-- A password that the cloud pushed as a setting is shown. -/
theorem pushed_password_shown :
    ¬ forall (isAlnum : Char -> Bool) (loads : List UInt8 -> Option Json)
        (first second : StateShadow) (stamps : ShadowStamps) (deviceId : String) (rawLimit : Int),
      DifferInSecrets loads first second ->
        DashboardContext.state isAlnum loads first stamps deviceId rawLimit =
          DashboardContext.state isAlnum loads second stamps deviceId rawLimit := by
  intro hides
  have sensitive : isSensitiveKey "mqttPassword" = true := by decide +kernel
  have differ := @differ_withValue (fun _ => none) (shadowWith "mqttPassword" (.str "hunter2"))
    ("feeder", "mqttPassword") sensitive (.str "swordfish")
  have same := hides Char.isAlphanum _ _ _ {} "feeder" 100 differ
  exact absurd same (by decide +kernel)

end Dashboard
end PetlibroRelay
