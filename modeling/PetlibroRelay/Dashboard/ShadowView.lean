import PetlibroRelay.Foundations.Utf8
import PetlibroRelay.Shadow.StateShadow
import PetlibroRelay.Dashboard.Sanitizer

namespace PetlibroRelay
namespace Dashboard

open Foundations
open Shadow

/-!
# The dashboard's view of the shadow

One device's rows with their update times, and previews of its raw messages, as
they are redacted before they leave the process.  The decoder of JSON documents is
a parameter.
-/

/-- When the rows of the shadow were updated, and the message each plan set came with. -/
structure ShadowStamps where
  deviceReported : String × String -> Rat := fun _ => 0
  cloudDesired : String × String -> Rat := fun _ => 0
  localConfirmed : String × String -> Rat := fun _ => 0
  feedingPlans : String -> Rat := fun _ => 0
  sourceMsgId : String -> Option String := fun _ => none
  schedulePlans : String × Int -> Rat := fun _ => 0
  rawMessages : String × String -> Rat := fun _ => 0

def textOrNull : Option String -> Json
  | none => .null
  | some text => .str text

def timeOrNull : Option Rat -> Json
  | none => .null
  | some time => .float (.finite time)

def PlanSource.text : PlanSource -> String
  | .cloud => "cloud"
  | .localEdit => "local"

/-! ## Raw previews -/

def RAW_IDENTITY_KEYWORDS : List String := ["uid", "uuid", "tutk", "kalay", "username"]

def isRawIdentityKey (key : String) : Bool := hasFragment RAW_IDENTITY_KEYWORDS (lower key)

/-- Remove camera and identity values from raw-message previews. -/
def redactRawIdentity : Json -> Json :=
  Json.redact isRawIdentityKey (.str "<redacted>") (fun value => value)

/-- Decode raw traffic while keeping learned camera identifiers internal. -/
def decodeRawPayload (loads : List UInt8 -> Option Json) (payload : List UInt8) : Json :=
  match loads payload with
  | none => .str (Utf8.decode payload)
  | some decoded => redactRawIdentity decoded

/-- Each of the three redactions hides all that stands under the keys it looks for and keeps
the keys, lengths and leaves of the rest.  The two that leave texts alone change nothing
when they are applied again. -/
theorem redactions_hide_and_keep (isAlnum : Char -> Bool) :
    Json.Sanitizes isSensitiveKey (sanitizeValue isAlnum) ∧
      Json.Sanitizes isUpstreamServiceSensitiveKey sanitizeUpstreamServicePayload ∧
      Json.Sanitizes isRawIdentityKey redactRawIdentity ∧
      (forall value, sanitizeUpstreamServicePayload (sanitizeUpstreamServicePayload value) =
        sanitizeUpstreamServicePayload value) ∧
      forall value, redactRawIdentity (redactRawIdentity value) = redactRawIdentity value := by
  refine ⟨?_, ?_, ?_, ?_, ?_⟩
  · exact Json.sanitizes_redact isSensitiveKey _ _
  · exact Json.sanitizes_redact isUpstreamServiceSensitiveKey _ _
  · exact Json.sanitizes_redact isRawIdentityKey _ _
  · exact Json.redact_redact (fun _ => rfl)
  · exact Json.redact_redact (fun _ => rfl)

/-! ## The snapshot -/

/-- The rows of a device in a table of values, ordered by key. -/
def rowsByKey {κ ν : Type} [LE κ] [DecidableLE κ] (table : Dict (String × κ) ν)
    (deviceId : String) : List (κ × ν) :=
  (Dict.forFirst table deviceId).insertionSort (fun first second => first.1 ≤ second.1)

def valueRow (updatedAt : String × String -> Rat) (deviceId : String) (row : String × Json) :
    Json :=
  .obj [("key", .str row.1), ("value", row.2),
    ("updated_at", timeOrNull (updatedAt (deviceId, row.1)))]

def planRow (updatedAt : String × Int -> Rat) (deviceId : String) (row : Int × SchedulePlan) :
    Json :=
  .obj [("plan", .obj row.2.plan), ("source", .str (PlanSource.text row.2.source)),
    ("updated_at", timeOrNull (updatedAt (deviceId, row.1)))]

def rawRow (loads : List UInt8 -> Option Json) (updatedAt : String × String -> Rat)
    (deviceId : String) (row : String × (List UInt8 × Option String)) : Json :=
  .obj [("topic", .str row.1), ("cmd", textOrNull row.2.2),
    ("payload", decodeRawPayload loads row.2.1),
    ("updated_at", timeOrNull (updatedAt (deviceId, row.1)))]

/-- The newest raw messages of a device, at most the limit. -/
def newestRaw (shadow : StateShadow) (stamps : ShadowStamps) (deviceId : String)
    (rawLimit : Int) : List (String × (List UInt8 × Option String)) :=
  ((Dict.forFirst shadow.rawMessages deviceId).insertionSort (fun first second =>
    stamps.rawMessages (deviceId, second.1) ≤ stamps.rawMessages (deviceId, first.1))).take
      (max 1 (min rawLimit 500)).toNat

def planSet (shadow : StateShadow) (stamps : ShadowStamps) (deviceId : String) : Json :=
  let plans := shadow.getFeedingPlans deviceId
  .obj [("plans", .arr ((plans.getD []).map .obj)),
    ("source_msg_id", textOrNull (plans.bind (fun _ => stamps.sourceMsgId deviceId))),
    ("updated_at", timeOrNull (plans.map (fun _ => stamps.feedingPlans deviceId))),
    ("complete", .bool plans.isSome)]

def rowCounts (shadow : StateShadow) (deviceId : String) : Json :=
  .obj [("reported", .int (rowsByKey shadow.deviceReported deviceId).length),
    ("desired", .int (rowsByKey shadow.cloudDesired deviceId).length),
    ("local_confirmed", .int (rowsByKey shadow.localConfirmed deviceId).length),
    ("raw_messages", .int (Dict.forFirst shadow.rawMessages deviceId).length),
    ("feeding_plan_cached", .bool (shadow.getFeedingPlans deviceId).isSome)]

/-- Bounded state with timestamps and safe raw previews. -/
def dashboardSnapshot (loads : List UInt8 -> Option Json) (shadow : StateShadow)
    (stamps : ShadowStamps) (deviceId : String) (rawLimit : Int := 100) : Json :=
  .obj [("device_id", .str deviceId),
    ("reported", .arr ((rowsByKey shadow.deviceReported deviceId).map
      (valueRow stamps.deviceReported deviceId))),
    ("desired", .arr ((rowsByKey shadow.cloudDesired deviceId).map
      (valueRow stamps.cloudDesired deviceId))),
    ("local_confirmed", .arr ((rowsByKey shadow.localConfirmed deviceId).map
      (valueRow stamps.localConfirmed deviceId))),
    ("feeding_plans", planSet shadow stamps deviceId),
    ("schedule_plans", .arr ((rowsByKey shadow.schedulePlans.rows deviceId).map
      (planRow stamps.schedulePlans deviceId))),
    ("raw_messages", .arr ((newestRaw shadow stamps deviceId rawLimit).map
      (rawRow loads stamps.rawMessages deviceId))),
    ("counts", rowCounts shadow deviceId)]

/-- One device's shadow, as the dashboard returns it. -/
def DashboardContext.state (isAlnum : Char -> Bool) (loads : List UInt8 -> Option Json)
    (shadow : StateShadow) (stamps : ShadowStamps) (deviceId : String) (rawLimit : Int) : Json :=
  sanitizeValue isAlnum (dashboardSnapshot loads shadow stamps deviceId rawLimit)

end Dashboard
end PetlibroRelay
