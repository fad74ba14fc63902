import PetlibroRelay.Control.Schedules

namespace PetlibroRelay
namespace Control

open Foundations
open Shadow

/-!
# Setting groups

A settings call names a group and some of its fields.  The values it submits are
the fields of the group as they are known, overwritten by the requested ones,
with the UTC counterparts of the local times and the durations filled in.

The offset of the configured time zone depends on the day, so the conversion to
UTC is an input.
-/

/-- Settings by name, each with one value. -/
structure Settings where
  entries : Dict String Json
  unique : (Dict.keys entries).Nodup

namespace Settings

def empty : Settings := ⟨[], List.nodup_nil⟩

def get? (settings : Settings) (key : String) : Option Json :=
  Dict.get? settings.entries key

def set (settings : Settings) (key : String) (value : Json) : Settings :=
  ⟨Dict.set settings.entries key value, Dict.nodup_keys_set _ _ _ settings.unique⟩

def update (settings : Settings) (updates : Dict String Json) : Settings :=
  ⟨Dict.update settings.entries updates, Dict.nodup_keys_update _ _ settings.unique⟩

/-- The settings with allowed names. -/
def restrict (settings : Settings) (allowed : List String) : Settings :=
  ⟨settings.entries.filter (fun entry => decide (entry.1 ∈ allowed)),
    (List.filter_sublist.map Prod.fst).nodup settings.unique⟩

end Settings

def GROUP_FIELDS : Dict String (List String) :=
  [("motion",
      ["motionDetectionSwitch", "motionDetectionAgingType", "motionDetectionStartTime",
        "motionDetectionEndTime", "motionDetectionStartTimeUtc", "motionDetectionEndTimeUtc",
        "motionDetectionSensitivity", "motionDetectionRange"]),
    ("sound_detection",
      ["soundDetectionSwitch", "soundDetectionAgingType", "soundDetectionStartTime",
        "soundDetectionEndTime", "soundDetectionStartTimeUtc", "soundDetectionEndTimeUtc",
        "soundDetectionSensitivity"]),
    ("sound",
      ["soundSwitch", "soundAgingType", "soundStartTime", "soundEndTime", "soundStartTimeUtc",
        "soundEndTimeUtc", "soundTimes", "volume"]),
    ("light",
      ["lightSwitch", "lightAgingType", "lightingStartTime", "lightingEndTime",
        "lightingStartTimeUtc", "lightingEndTimeUtc", "lightingTimes", "filterLedSwitch"]),
    ("camera",
      ["cameraSwitch", "cameraAgingType", "cameraStartTime", "cameraEndTime",
        "cameraStartTimeUtc", "cameraEndTimeUtc", "resolution", "nightVision"]),
    ("video",
      ["videoRecordSwitch", "videoRecordMode", "videoRecordAgingType", "videoRecordStartTime",
        "videoRecordEndTime", "videoRecordStartTimeUtc", "videoRecordEndTimeUtc",
        "videoWatermarkSwitch"]),
    ("feeding_video",
      ["feedingVideoSwitch", "enableVideoStartFeedingPlan", "beforeFeedingPlanTime",
        "automaticRecording", "enableVideoAfterManualFeeding", "afterManualFeedingTime"]),
    ("bowl", ["bowlMode"])]

/-- Each local time with the name of its UTC counterpart. -/
def TIME_PAIRS : List (String × String) :=
  [("motionDetectionStartTime", "motionDetectionStartTimeUtc"),
    ("motionDetectionEndTime", "motionDetectionEndTimeUtc"),
    ("soundDetectionStartTime", "soundDetectionStartTimeUtc"),
    ("soundDetectionEndTime", "soundDetectionEndTimeUtc"),
    ("soundStartTime", "soundStartTimeUtc"),
    ("soundEndTime", "soundEndTimeUtc"),
    ("lightingStartTime", "lightingStartTimeUtc"),
    ("lightingEndTime", "lightingEndTimeUtc"),
    ("cameraStartTime", "cameraStartTimeUtc"),
    ("cameraEndTime", "cameraEndTimeUtc"),
    ("videoRecordStartTime", "videoRecordStartTimeUtc"),
    ("videoRecordEndTime", "videoRecordEndTimeUtc")]

/-- A start, an end and the name of the duration between them. -/
def DURATIONS : List (String × String × String) :=
  [("soundStartTime", "soundEndTime", "soundTimes"),
    ("lightingStartTime", "lightingEndTime", "lightingTimes")]

/-- Add the UTC counterparts of known local times. -/
def populateTimeFields (toUtc : LocalTime -> String) (values : Settings) :
    Except ControlError Settings :=
  TIME_PAIRS.foldlM (fun values pair =>
    match (values.get? pair.1).bind Json.str? with
    | none => .ok values
    | some text => do
        let time ← parseTime text
        return values.set pair.2 (.str (toUtc time))) values

/-- Add the minute differences, which may be negative. -/
def populateDurationFields (values : Settings) : Except ControlError Settings :=
  DURATIONS.foldlM (fun values names =>
    match (values.get? names.1).bind Json.str?, (values.get? names.2.1).bind Json.str? with
    | some start, some stop => do
        let last ← minutes stop
        let first ← minutes start
        return values.set names.2.2 (.int (last - first))
    | _, _ => .ok values) values

/-- The fields of a group, if the requested ones are among them. -/
def allowedFields (groupName : String) (updates : Dict String Json) :
    Except ControlError (List String) :=
  match Dict.get? GROUP_FIELDS groupName with
  | none => .error .raised
  | some allowed =>
      if updates.isEmpty || (Dict.keys updates).any (fun key => decide (key ∉ allowed)) then
        .error (.stateUnavailable "Unsupported control fields")
      else .ok allowed

/-- The values a settings call submits. -/
def groupValues (toUtc : LocalTime -> String) (known : Settings) (updates : Dict String Json) :
    Except ControlError Settings := do
  let values ← populateTimeFields toUtc (known.update updates)
  populateDurationFields values

end Control
end PetlibroRelay
