import Mathlib.Algebra.Order.Field.Rat
import Mathlib.Data.List.Sort
import Mathlib.Data.String.Basic
import PetlibroRelay.Foundations.Json
import PetlibroRelay.Protocol.Topics

namespace PetlibroRelay
namespace Protocol

open Foundations

/-!
# Replay policies

Whether a message may enter the durable queue, how long it stays deliverable,
and which older pending messages it supersedes.  Everything is decided from the
direction and the decoded payload.

The decoder is a parameter, `none` where the source catches a decoding error.
Nothing here depends on how it reads bytes, only on the value it returns.  The
errors that are not caught are a parameter of the functions they can end.
-/

/-- The decoder of message payloads. -/
abbrev Loads := List UInt8 -> Option Json

/-- What raises an error that no caller catches.  The decoder refuses a payload that is
nested too deeply or has an integer of too many digits, one it still reads can be nested
too deeply to be logged, a text with an unpaired surrogate cannot be bound to a column,
and the file of the state cache may not be written.  By default nothing raises. -/
structure Faults where
  refuses : List UInt8 -> Bool := fun _ => false
  unloggable : List UInt8 -> Bool := fun _ => false
  unencodable : String -> Bool := fun _ => false
  cacheFails : Bool := false

def NEVER_REPLAY_GRACE_SECONDS : Rat := 5
def MANUAL_FEED_TTL_SECONDS : Rat := 60
def DURABLE_EVENT_TTL_SECONDS : Rat := 24 * 60 * 60

/-- How a message is treated if it could not be delivered immediately. -/
structure ReplayPolicy where
  maxAgeSeconds : Option Rat := none
  coalesce : Bool := false
  dropWhenDestinationOffline : Bool := false
  deriving DecidableEq, Repr

def DURABLE_FIFO : ReplayPolicy := {}
def NEVER_REPLAY : ReplayPolicy := { maxAgeSeconds := some NEVER_REPLAY_GRACE_SECONDS }
def LATEST_WINS : ReplayPolicy := { coalesce := true }
def MANUAL_FEED : ReplayPolicy := { maxAgeSeconds := some MANUAL_FEED_TTL_SECONDS }
def DURABLE_EVENT : ReplayPolicy := { maxAgeSeconds := some DURABLE_EVENT_TTL_SECONDS }
def EPHEMERAL_DEVICE_REPORT : ReplayPolicy :=
  { maxAgeSeconds := some NEVER_REPLAY_GRACE_SECONDS, dropWhenDestinationOffline := true }

def CLOUD_TO_DEVICE_POLICIES : Dict String ReplayPolicy :=
  [("NTP", NEVER_REPLAY), ("NTP_SYNC", NEVER_REPLAY),
    ("DEVICE_REBOOT", NEVER_REPLAY), ("RESET", NEVER_REPLAY), ("RESTORE", NEVER_REPLAY),
    ("OTA_UPGRADE", NEVER_REPLAY), ("OTA_INFORM", NEVER_REPLAY), ("OTA_PROGRESS", NEVER_REPLAY),
    ("UNBIND", NEVER_REPLAY), ("BINDING", NEVER_REPLAY), ("WIFI_CHANGE_SERVICE", NEVER_REPLAY),
    ("WIFI_RECONNECT_SERVICE", NEVER_REPLAY), ("INITIALIZE_SD_CARD_SERVICE", NEVER_REPLAY),
    ("MANUAL_FEEDING_SERVICE", MANUAL_FEED),
    ("ATTR_SET_SERVICE", LATEST_WINS), ("ATTR_GET_SERVICE", LATEST_WINS),
    ("ATTR_PUSH_EVENT", LATEST_WINS), ("FEEDING_PLAN_SERVICE", LATEST_WINS),
    ("DEVICE_FEEDING_PLAN_SERVICE", LATEST_WINS), ("GET_FEEDING_PLAN_EVENT", LATEST_WINS),
    ("DEVICE_CONFIG_SYNC", LATEST_WINS), ("SERVER_CONFIG_PUSH", LATEST_WINS),
    ("GET_CONFIG", LATEST_WINS), ("DEVICE_PROPERTIES_SERVICE", LATEST_WINS),
    ("DEVICE_INFO_SERVICE", LATEST_WINS), ("TUTK_CONTRACT_SERVICE", LATEST_WINS)]

def DEVICE_TO_CLOUD_POLICIES : Dict String ReplayPolicy :=
  [("HEARTBEAT", EPHEMERAL_DEVICE_REPORT), ("NTP", EPHEMERAL_DEVICE_REPORT),
    ("GRAIN_OUTPUT_EVENT", DURABLE_EVENT), ("ERROR_EVENT", DURABLE_EVENT),
    ("DETECTION_EVENT", DURABLE_EVENT), ("DEVICE_START_EVENT", DURABLE_EVENT),
    ("DEVICE_LOG_REPORT_EVENT", DURABLE_EVENT),
    ("ATTR_SET_SERVICE", LATEST_WINS), ("ATTR_GET_SERVICE", LATEST_WINS),
    ("FEEDING_PLAN_SERVICE", LATEST_WINS), ("DEVICE_FEEDING_PLAN_SERVICE", LATEST_WINS),
    ("DEVICE_CONFIG_SYNC", LATEST_WINS), ("SERVER_CONFIG_PUSH", LATEST_WINS),
    ("GET_CONFIG", LATEST_WINS), ("DEVICE_PROPERTIES_SERVICE", LATEST_WINS),
    ("DEVICE_INFO_SERVICE", LATEST_WINS)]

/-- The decoded object of a payload, if it is one. -/
def decodedObject (loads : Loads) (payload : List UInt8) : Option (Dict String Json) :=
  (loads payload).bind Json.fields?

/-- The `cmd` field of a payload, if it is an object with a textual one. -/
def extractCommand (loads : Loads) (payload : List UInt8) : Option String :=
  (decodedObject loads payload).bind
    (fun body => (Dict.get? body "cmd").bind Json.str?)

/-- Whether a message can be decoded, and its command bound to a column. -/
def Faults.archives (faults : Faults) (loads : Loads) (payload : List UInt8) : Bool :=
  !faults.refuses payload &&
    (extractCommand loads payload).all (fun command => !faults.unencodable command)

@[simp]
theorem Faults.archives_none (loads : Loads) (payload : List UInt8) :
    Faults.archives {} loads payload = true := by
  rw [Faults.archives]
  cases extractCommand loads payload with
  | none => rfl
  | some command => rfl

/-- The replay policy of a message.  Unknown commands keep durable order. -/
def policyFor (isCloudToDevice : Bool) : Option String -> ReplayPolicy
  | none => DURABLE_FIFO
  | some command =>
      (Dict.get? (if isCloudToDevice then CLOUD_TO_DEVICE_POLICIES else DEVICE_TO_CLOUD_POLICIES)
        command).getD DURABLE_FIFO

/-- Whether a message may enter the durable queue. -/
def shouldEnqueue (policy : ReplayPolicy) (destinationOnline : Bool) : Bool :=
  destinationOnline || !policy.dropWhenDestinationOffline

def ATTR_SET_ENVELOPE_FIELDS : List String := ["cmd", "code", "msgId", "ts"]

/-- The setting fields of an `ATTR_SET_SERVICE` payload in sorted order, without
the protocol envelope. -/
def attrSetSettingFields (loads : Loads) (payload : List UInt8) : List String :=
  match decodedObject loads payload with
  | none => []
  | some body =>
      ((Dict.keys body).filter (fun field => field ∉ ATTR_SET_ENVELOPE_FIELDS)).insertionSort
        (· ≤ ·)

/-- Whether the key of a message can be bound to its column.  All but the setting fields in
it is plain text. -/
def Faults.bindsKey (faults : Faults) (loads : Loads) (payload : List UInt8) : Bool :=
  if extractCommand loads payload = some Command.ATTR_SET_SERVICE then
    (attrSetSettingFields loads payload).all (fun field => !faults.unencodable field)
  else true

@[simp]
theorem Faults.bindsKey_none (loads : Loads) (payload : List UInt8) :
    Faults.bindsKey {} loads payload = true := by
  rw [Faults.bindsKey]
  split
  · exact List.all_eq_true.mpr (fun _ _ => rfl)
  · rfl

/-- The key under which a message supersedes older pending ones. -/
def coalesceKeyFor (loads : Loads) (topic : String) (command : Option String)
    (policy : ReplayPolicy) (payload : List UInt8) : Option String :=
  match command with
  | none => none
  | some name =>
      if policy.coalesce then
        if name = Command.ATTR_SET_SERVICE then
          match attrSetSettingFields loads payload with
          | [] => none
          | field :: rest =>
              some (topic ++ "|" ++ name ++ "|" ++ ",".intercalate (field :: rest))
        else some (topic ++ "|" ++ name)
      else none

/-! ## What a key says -/

/-- Names without commas can be read back from their list. -/
theorem intercalate_comma_inj {first second : List String} (firstSome : first ≠ [])
    (secondSome : second ≠ []) (firstPlain : forall name, name ∈ first -> ',' ∉ name.toList)
    (secondPlain : forall name, name ∈ second -> ',' ∉ name.toList)
    (same : ",".intercalate first = ",".intercalate second) : first = second := by
  have split : forall names : List String, names ≠ [] ->
      (forall name, name ∈ names -> ',' ∉ name.toList) ->
      (",".intercalate names).toList.splitOn ',' = names.map String.toList := by
    intro names present plain
    rw [String.toList_intercalate]
    refine List.splitOn_intercalate ',' ?_ ?_
    · intro characters member
      obtain ⟨name, inside, rfl⟩ := List.mem_map.mp member
      exact plain name inside
    · exact fun empty => present (List.map_eq_nil_iff.mp empty)
  have parts := congrArg (fun text : String => text.toList.splitOn ',') same
  rw [split first firstSome firstPlain, split second secondSome secondPlain] at parts
  exact List.map_injective_iff.mpr (fun _ _ => String.toList_inj.mp) parts

/-- Two settings commands on topics of one device that have the same key have the
same setting fields, unless a field name has a comma. -/
theorem same_fields_of_coalesceKey {loads : Loads} {deviceId key : String}
    {category product otherCategory otherProduct : String} {payload other : List UInt8}
    (categorySingle : segments category = [category]) (productSingle : segments product = [product])
    (otherCategorySingle : segments otherCategory = [otherCategory])
    (otherProductSingle : segments otherProduct = [otherProduct])
    (plain : forall name, name ∈ attrSetSettingFields loads payload -> ',' ∉ name.toList)
    (otherPlain : forall name, name ∈ attrSetSettingFields loads other -> ',' ∉ name.toList)
    (keyed : coalesceKeyFor loads (subTopic deviceId category product)
      (some Command.ATTR_SET_SERVICE) LATEST_WINS payload = some key)
    (otherKeyed : coalesceKeyFor loads (subTopic deviceId otherCategory otherProduct)
      (some Command.ATTR_SET_SERVICE) LATEST_WINS other = some key) :
    attrSetSettingFields loads payload = attrSetSettingFields loads other := by
  have shape : forall (topic : String) (payload : List UInt8),
      coalesceKeyFor loads topic (some Command.ATTR_SET_SERVICE) LATEST_WINS payload = some key ->
      attrSetSettingFields loads payload ≠ [] ∧
        key = topic ++ ("|" ++ Command.ATTR_SET_SERVICE ++ "|" ++
          ",".intercalate (attrSetSettingFields loads payload)) := by
    intro topic payload keyed
    simp only [coalesceKeyFor, LATEST_WINS, if_true] at keyed
    split at keyed
    · cases keyed
    · next field rest fields =>
        rw [fields]
        refine ⟨List.cons_ne_nil _ _, ?_⟩
        rw [← Option.some.inj keyed]
        simp only [String.append_assoc]
  obtain ⟨present, written⟩ := shape _ _ keyed
  obtain ⟨otherPresent, otherWritten⟩ := shape _ _ otherKeyed
  have ends := (subTopic_append_inj categorySingle productSingle otherCategorySingle
    otherProductSingle (written.symm.trans otherWritten)).2.2
  exact intercalate_comma_inj present otherPresent plain otherPlain
    ((String.append_right_inj _).mp ends)

end Protocol
end PetlibroRelay
