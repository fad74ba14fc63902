import PetlibroRelay.Upstream.DeviceContext

namespace PetlibroRelay
namespace Upstream

open Foundations
open Protocol

/-!
# What coalesce keys tell apart

A key is the topic, the command and, for settings, the names of the setting fields, with
separators between them.  A topic that parses ends in a fixed word and a command that
coalesces is a fixed word, so neither can run into what follows it.  The names of the
fields are joined by commas as they are, and a name may have commas of its own.
-/

/-! ## The names of the fields -/

/-- The name of a setting in a payload: a key of the object, and none of the envelope. -/
def IsSettingField (loads : Loads) (payload : List UInt8) (name : String) : Prop :=
  exists body, decodedObject loads payload = some body ∧ name ∈ Dict.keys body ∧
    name ∉ ATTR_SET_ENVELOPE_FIELDS

theorem mem_attrSetSettingFields {loads : Loads} {payload : List UInt8} {name : String} :
    name ∈ attrSetSettingFields loads payload ↔ IsSettingField loads payload name := by
  rw [attrSetSettingFields, IsSettingField]
  cases decodedObject loads payload with
  | none =>
      constructor
      · exact fun member => absurd member List.not_mem_nil
      · rintro ⟨body, decoded, -⟩
        cases decoded
  | some body =>
      simp only [List.mem_insertionSort, List.mem_filter, decide_eq_true_eq, Option.some.injEq,
        exists_eq_left']

theorem exists_isSettingField_iff {loads : Loads} {payload : List UInt8} :
    (exists name, IsSettingField loads payload name) ↔ attrSetSettingFields loads payload ≠ [] := by
  constructor
  · rintro ⟨name, setting⟩
    exact List.ne_nil_of_mem (mem_attrSetSettingFields.mpr setting)
  · intro some
    obtain ⟨name, member⟩ := List.exists_mem_of_ne_nil _ some
    exact ⟨name, mem_attrSetSettingFields.mp member⟩

/-- The decoder keeps one value for each key of an object. -/
def DistinctKeys (loads : Loads) : Prop :=
  forall payload body, decodedObject loads payload = some body -> (Dict.keys body).Nodup

/-- The sorted names are determined by which names there are. -/
theorem attrSetSettingFields_eq_iff {loads : Loads} (distinct : DistinctKeys loads)
    (first second : List UInt8) :
    attrSetSettingFields loads first = attrSetSettingFields loads second ↔
      forall name, IsSettingField loads first name ↔ IsSettingField loads second name := by
  have unique : forall payload, (attrSetSettingFields loads payload).Nodup := by
    intro payload
    rw [attrSetSettingFields]
    cases decoded : decodedObject loads payload with
    | none => exact List.nodup_nil
    | some body =>
        exact (List.perm_insertionSort _ _).nodup_iff.mpr
          ((distinct payload body decoded).filter _)
  have sorted : forall payload, (attrSetSettingFields loads payload).Pairwise (· ≤ ·) := by
    intro payload
    rw [attrSetSettingFields]
    cases decodedObject loads payload with
    | none => exact List.Pairwise.nil
    | some body => exact List.pairwise_insertionSort _ _
  constructor
  · intro same name
    rw [← mem_attrSetSettingFields, ← mem_attrSetSettingFields, same]
  · intro same
    refine List.Perm.eq_of_pairwise' (sorted first) (sorted second) ?_
    rw [List.perm_ext_iff_of_nodup (unique first) (unique second)]
    intro name
    rw [mem_attrSetSettingFields, mem_attrSetSettingFields, same]

/-- The pieces of all the names, cut at their commas. -/
def commaPieces (names : List String) : List (List Char) :=
  names.flatMap (fun name => name.toList.splitOn ',')

theorem commaPieces_eq_nil_iff {names : List String} : commaPieces names = [] ↔ names = [] := by
  cases names with
  | nil => exact iff_of_true rfl rfl
  | cons first rest =>
      refine iff_of_false ?_ (List.cons_ne_nil first rest)
      intro none
      exact List.splitOn_ne_nil ',' first.toList (List.append_eq_nil_iff.mp none).1

theorem splitOn_intercalate_comma {names : List String} (present : names ≠ []) :
    (",".intercalate names).toList.splitOn ',' = commaPieces names := by
  rw [String.toList_intercalate]
  induction names with
  | nil => exact absurd rfl present
  | cons first rest inductionHypothesis =>
      cases rest with
      | nil => rw [List.map_singleton, List.intercalate_singleton, commaPieces, List.flatMap_singleton]
      | cons second others =>
          have later := inductionHypothesis (List.cons_ne_nil second others)
          rw [List.map_cons, List.map_cons, List.intercalate_cons_cons, ← List.map_cons]
          have joined : first.toList ++ ",".toList ++
              ",".toList.intercalate ((second :: others).map String.toList) =
                first.toList ++ ',' :: ",".toList.intercalate ((second :: others).map String.toList) := by
            rw [List.append_assoc]
            rfl
          rw [joined, List.splitOn_append_cons_self, later, commaPieces, commaPieces,
            List.flatMap_cons (x := first)]

/-- Joined names are the same exactly if they have the same pieces. -/
theorem intercalate_comma_eq_iff {first second : List String} (firstSome : first ≠ [])
    (secondSome : second ≠ []) :
    ",".intercalate first = ",".intercalate second ↔ commaPieces first = commaPieces second := by
  rw [← splitOn_intercalate_comma firstSome, ← splitOn_intercalate_comma secondSome]
  constructor
  · exact fun same => congrArg (fun text : String => text.toList.splitOn ',') same
  · intro same
    have joined := congrArg [','].intercalate same
    rw [List.intercalate_splitOn, List.intercalate_splitOn] at joined
    exact String.toList_inj.mp joined

/-! ## The parts of a key -/

/-- Two topics that parse are the same if they are with a bar and something behind it. -/
theorem topic_bar_inj {first second rest otherRest : String} {address other : TopicAddress}
    (parsed : parseTopic first = some address) (otherParsed : parseTopic second = some other)
    (same : first ++ ("|" ++ rest) = second ++ ("|" ++ otherRest)) :
    first = second ∧ rest = otherRest := by
  have fits := parseTopic_eq_some_iff_fits.mp parsed
  have otherFits := parseTopic_eq_some_iff_fits.mp otherParsed
  have parts : forall {topic rest : String} {address : TopicAddress}, address.Fits topic ->
      segments (topic ++ ("|" ++ rest)) =
        TOPIC_ROOT :: address.productId :: address.deviceId :: DEVICE_SEGMENT ::
          address.category :: segments (address.direction ++ ("|" ++ rest)) := by
    intro topic rest address fits
    rw [← fits.written, String.append_assoc, segments_written,
      segments_eq_singleton_iff.mpr fits.product.2, segments_eq_singleton_iff.mpr fits.device.2,
      segments_eq_singleton_iff.mpr fits.category.2]
    rfl
  have split := congrArg segments same
  rw [parts fits, parts otherFits] at split
  simp only [List.cons.injEq, true_and] at split
  obtain ⟨product, device, category, ends⟩ := split
  have endings := eq_of_segments_eq ends
  -- The directions differ in their first letter.
  have directions : address.direction = other.direction := by
    have heads := congrArg (fun text : String => text.toList.head?) endings
    rcases fits.direction with post | sub
    · rcases otherFits.direction with otherPost | otherSub
      · rw [post, otherPost]
      · rw [post, otherSub] at heads
        simp [POST_SUFFIX, SUB_SUFFIX] at heads
    · rcases otherFits.direction with otherPost | otherSub
      · rw [sub, otherPost] at heads
        simp [POST_SUFFIX, SUB_SUFFIX] at heads
      · rw [sub, otherSub]
  have topics : first = second := by
    rw [← fits.written, ← otherFits.written, TopicAddress.topicPrefix, TopicAddress.topicPrefix,
      product, device, category, directions]
  rw [topics, String.append_right_inj, String.append_right_inj] at same
  exact ⟨topics, same⟩

/-- No command that coalesces has a bar in its name. -/
theorem bar_notMem_of_coalesce {isCloudToDevice : Bool} {command : String}
    (coalesces : (policyFor isCloudToDevice (some command)).coalesce = true) :
    '|' ∉ command.toList := by
  have plain : forall table, table ∈ [CLOUD_TO_DEVICE_POLICIES, DEVICE_TO_CLOUD_POLICIES] ->
      forall entry, entry ∈ table -> '|' ∉ entry.1.toList := by
    decide +kernel
  simp only [policyFor] at coalesces
  cases found : Dict.get? (if isCloudToDevice then CLOUD_TO_DEVICE_POLICIES
      else DEVICE_TO_CLOUD_POLICIES) command with
  | none =>
      rw [found, Option.getD_none] at coalesces
      cases coalesces
  | some policy =>
      have member := Dict.mem_of_get?_eq_some found
      cases isCloudToDevice with
      | true => exact plain _ List.mem_cons_self _ member
      | false => exact plain _ (List.mem_cons_of_mem _ List.mem_cons_self) _ member

/-- What stands behind the topic and the bar in a key. -/
def keySuffix (loads : Loads) (command : String) (payload : List UInt8) : String :=
  if command = Command.ATTR_SET_SERVICE then
    command ++ ("|" ++ ",".intercalate (attrSetSettingFields loads payload))
  else command

/-- When a message has a key, and which. -/
theorem coalesceKeyFor_eq_some_iff {loads : Loads} {topic key : String} {command : Option String}
    {policy : ReplayPolicy} {payload : List UInt8} :
    coalesceKeyFor loads topic command policy payload = some key ↔
      exists name, command = some name ∧ policy.coalesce = true ∧
        (name = Command.ATTR_SET_SERVICE -> attrSetSettingFields loads payload ≠ []) ∧
        key = topic ++ ("|" ++ keySuffix loads name payload) := by
  cases command with
  | none =>
      constructor
      · exact nofun
      · rintro ⟨name, missing, -⟩
        cases missing
  | some command =>
      rw [coalesceKeyFor]
      simp only [Option.some.injEq, exists_eq_left']
      cases coalesces : policy.coalesce with
      | false => simp only [Bool.false_eq_true, if_false, reduceCtorEq, false_and]
      | true =>
          simp only [if_true, true_and]
          by_cases settings : command = Command.ATTR_SET_SERVICE
          · simp only [keySuffix, settings, true_implies, if_true]
            cases fields : attrSetSettingFields loads payload with
            | nil => simp only [reduceCtorEq, ne_eq, not_true_eq_false, false_and]
            | cons field rest =>
                simp only [Option.some.injEq, ne_eq, reduceCtorEq, not_false_eq_true, true_and,
                  String.append_assoc]
                exact eq_comm
          · simp only [keySuffix, settings, false_implies, true_and, if_false, Option.some.injEq,
              String.append_assoc]
            exact eq_comm

/-- The suffixes of two commands that coalesce tell them apart, but for the names of the
setting fields. -/
theorem keySuffix_eq_iff {loads : Loads} {isCloudToDevice : Bool} {first second : String}
    (coalesces : (policyFor isCloudToDevice (some first)).coalesce = true)
    (otherCoalesces : (policyFor isCloudToDevice (some second)).coalesce = true)
    (payload other : List UInt8) :
    keySuffix loads first payload = keySuffix loads second other ↔
      first = second ∧ (first = Command.ATTR_SET_SERVICE ->
        ",".intercalate (attrSetSettingFields loads payload) =
          ",".intercalate (attrSetSettingFields loads other)) := by
  have barred : forall fields : String,
      '|' ∈ (Command.ATTR_SET_SERVICE ++ ("|" ++ fields)).toList := by
    intro fields
    rw [String.toList_append, String.toList_append]
    exact List.mem_append_right _ (List.mem_append_left _ List.mem_cons_self)
  have plain := bar_notMem_of_coalesce coalesces
  have otherPlain := bar_notMem_of_coalesce otherCoalesces
  rw [keySuffix, keySuffix]
  by_cases settings : first = Command.ATTR_SET_SERVICE
  · rw [if_pos settings]
    by_cases otherSettings : second = Command.ATTR_SET_SERVICE
    · rw [if_pos otherSettings, settings, otherSettings, String.append_right_inj,
        String.append_right_inj]
      exact ⟨fun same => ⟨rfl, fun _ => same⟩, fun same => same.2 rfl⟩
    · rw [if_neg otherSettings]
      constructor
      · intro same
        rw [← same, settings] at otherPlain
        exact absurd (barred _) otherPlain
      · rintro ⟨same, -⟩
        exact absurd (same.symm.trans settings) otherSettings
  · rw [if_neg settings]
    by_cases otherSettings : second = Command.ATTR_SET_SERVICE
    · rw [if_pos otherSettings]
      constructor
      · intro same
        rw [same, otherSettings] at plain
        exact absurd (barred _) plain
      · rintro ⟨same, -⟩
        exact absurd (same.trans otherSettings) settings
    · rw [if_neg otherSettings]
      exact ⟨fun same => ⟨same, fun own => absurd own settings⟩, fun same => same.1⟩

/-! ## Messages of one device and direction -/

/-- The key of a message, as `_enqueue` computes it. -/
def EnqueueThread.coalesceKey (loads : Loads) (message : EnqueueThread) : Option String :=
  (enqueueCall loads message (message.isLive.getD false)).coalesceKey

/-- Two messages have one key. -/
def SameKey (loads : Loads) (first second : EnqueueThread) : Prop :=
  exists key, first.coalesceKey loads = some key ∧ second.coalesceKey loads = some key

/-- Two messages say the same thing: a command that coalesces, on one topic, and where it
sets attributes, the same ones and at least one. -/
def Supersede (loads : Loads) (first second : EnqueueThread) : Prop :=
  first.topic = second.topic ∧ exists command,
    extractCommand loads first.payload = some command ∧
    extractCommand loads second.payload = some command ∧
    (policyFor first.isCloudToDevice (some command)).coalesce = true ∧
    (command = Command.ATTR_SET_SERVICE ->
      (exists name, IsSettingField loads first.payload name) ∧
      forall name, IsSettingField loads first.payload name ↔
        IsSettingField loads second.payload name)

/-- Two settings commands on one topic whose fields have different names, which cut at
commas give the same pieces. -/
def CommasConfuse (loads : Loads) (first second : EnqueueThread) : Prop :=
  first.topic = second.topic ∧
    extractCommand loads first.payload = some Command.ATTR_SET_SERVICE ∧
    extractCommand loads second.payload = some Command.ATTR_SET_SERVICE ∧
    attrSetSettingFields loads first.payload ≠ attrSetSettingFields loads second.payload ∧
    commaPieces (attrSetSettingFields loads first.payload) =
      commaPieces (attrSetSettingFields loads second.payload)

section Messages

variable {loads : Loads} {first second : EnqueueThread} {address other : TopicAddress}

/-- Two messages on topics that parse have one key exactly if they agree in all that the key
is made of. -/
theorem sameKey_iff (direction : first.isCloudToDevice = second.isCloudToDevice)
    (parsed : parseTopic first.topic = some address)
    (otherParsed : parseTopic second.topic = some other) :
    SameKey loads first second ↔ first.topic = second.topic ∧ exists command,
      extractCommand loads first.payload = some command ∧
      extractCommand loads second.payload = some command ∧
      (policyFor first.isCloudToDevice (some command)).coalesce = true ∧
      (command = Command.ATTR_SET_SERVICE ->
        attrSetSettingFields loads first.payload ≠ [] ∧
        attrSetSettingFields loads second.payload ≠ [] ∧
        commaPieces (attrSetSettingFields loads first.payload) =
          commaPieces (attrSetSettingFields loads second.payload)) := by
  constructor
  · rintro ⟨key, keyed, otherKeyed⟩
    obtain ⟨command, extracted, coalesces, present, written⟩ := coalesceKeyFor_eq_some_iff.mp keyed
    obtain ⟨otherCommand, otherExtracted, otherCoalesces, otherPresent, otherWritten⟩ :=
      coalesceKeyFor_eq_some_iff.mp otherKeyed
    obtain ⟨topics, suffixes⟩ := topic_bar_inj parsed otherParsed (written.symm.trans otherWritten)
    rw [extracted] at coalesces
    rw [otherExtracted, ← direction] at otherCoalesces
    obtain ⟨commands, names⟩ := (keySuffix_eq_iff coalesces otherCoalesces _ _).mp suffixes
    refine ⟨topics, command, extracted, commands ▸ otherExtracted, coalesces, ?_⟩
    intro settings
    have firstSome := present settings
    have secondSome := otherPresent (commands.symm.trans settings)
    exact ⟨firstSome, secondSome, (intercalate_comma_eq_iff firstSome secondSome).mp (names settings)⟩
  · rintro ⟨topics, command, extracted, otherExtracted, coalesces, fields⟩
    have otherCoalesces : (policyFor second.isCloudToDevice (some command)).coalesce = true :=
      direction ▸ coalesces
    refine ⟨first.topic ++ ("|" ++ keySuffix loads command first.payload), ?_, ?_⟩
    · refine coalesceKeyFor_eq_some_iff.mpr ⟨command, extracted, ?_, fun own => (fields own).1, rfl⟩
      rw [extracted]
      exact coalesces
    · refine coalesceKeyFor_eq_some_iff.mpr
        ⟨command, otherExtracted, ?_, fun own => (fields own).2.1, ?_⟩
      · rw [otherExtracted]
        exact otherCoalesces
      · have suffixes : keySuffix loads command first.payload =
            keySuffix loads command second.payload :=
          (keySuffix_eq_iff coalesces coalesces _ _).mpr ⟨rfl, fun own =>
            (intercalate_comma_eq_iff (fields own).1 (fields own).2.1).mpr (fields own).2.2⟩
        rw [topics, suffixes]

/-- Among messages of one device and direction, the keys are exact for two of them unless
commas in the names of their fields confuse them. -/
theorem coalesce_keys_exact_iff (distinct : DistinctKeys loads)
    (direction : first.isCloudToDevice = second.isCloudToDevice)
    (parsed : parseTopic first.topic = some address)
    (otherParsed : parseTopic second.topic = some other) :
    (SameKey loads first second ↔ Supersede loads first second) ↔
      ¬ CommasConfuse loads first second := by
  have same_iff := attrSetSettingFields_eq_iff distinct first.payload second.payload
  rw [sameKey_iff direction parsed otherParsed, Supersede]
  constructor
  · -- Confused messages have fields, so they have one key, and would have the same fields.
    rintro agree ⟨topics, extracted, otherExtracted, different, pieces⟩
    have coalesces : (policyFor first.isCloudToDevice (some Command.ATTR_SET_SERVICE)).coalesce =
        true := by
      cases first.isCloudToDevice <;> decide
    have firstSome : attrSetSettingFields loads first.payload ≠ [] := by
      intro none
      rw [none, commaPieces_eq_nil_iff.mpr rfl, eq_comm, commaPieces_eq_nil_iff] at pieces
      exact different (none.trans pieces.symm)
    have secondSome : attrSetSettingFields loads second.payload ≠ [] := by
      intro none
      rw [none, commaPieces_eq_nil_iff.mpr rfl, commaPieces_eq_nil_iff] at pieces
      exact different (pieces.trans none.symm)
    obtain ⟨-, command, known, -, -, fields⟩ := agree.mp ⟨topics, Command.ATTR_SET_SERVICE,
      extracted, otherExtracted, coalesces, fun _ => ⟨firstSome, secondSome, pieces⟩⟩
    rw [extracted, Option.some.injEq] at known
    exact different (same_iff.mpr (fields known.symm).2)
  · intro clear
    constructor
    · rintro ⟨topics, command, extracted, otherExtracted, coalesces, fields⟩
      refine ⟨topics, command, extracted, otherExtracted, coalesces, ?_⟩
      intro settings
      obtain ⟨firstSome, -, pieces⟩ := fields settings
      subst settings
      refine ⟨exists_isSettingField_iff.mpr firstSome, same_iff.mp ?_⟩
      by_contra different
      exact clear ⟨topics, extracted, otherExtracted, different, pieces⟩
    · rintro ⟨topics, command, extracted, otherExtracted, coalesces, fields⟩
      refine ⟨topics, command, extracted, otherExtracted, coalesces, ?_⟩
      intro settings
      have firstSome := exists_isSettingField_iff.mp (fields settings).1
      have same := same_iff.mpr (fields settings).2
      rw [← same]
      exact ⟨firstSome, firstSome, rfl⟩

end Messages

/-! ## A comma in a name -/

/-- A report of two settings. -/
def lightAndVolume : List UInt8 :=
  utf8 "\x7b\"cmd\":\"ATTR_SET_SERVICE\",\"light\":1,\"volume\":2\x7d"

/-- A report of one setting, which has a comma in its name. -/
def commaName : List UInt8 :=
  utf8 "\x7b\"cmd\":\"ATTR_SET_SERVICE\",\"light,volume\":3\x7d"

/-- A report of one of the two settings. -/
def lightOnly : List UInt8 :=
  utf8 "\x7b\"cmd\":\"ATTR_SET_SERVICE\",\"light\":0\x7d"

/-- The decoder, as far as these payloads are concerned. -/
def loadsNames : Loads := fun payload =>
  if payload = lightAndVolume then
    some (.obj [("cmd", .str "ATTR_SET_SERVICE"), ("light", .int 1), ("volume", .int 2)])
  else if payload = commaName then
    some (.obj [("cmd", .str "ATTR_SET_SERVICE"), ("light,volume", .int 3)])
  else if payload = lightOnly then
    some (.obj [("cmd", .str "ATTR_SET_SERVICE"), ("light", .int 0)])
  else none

theorem distinctKeys_loadsNames : DistinctKeys loadsNames := by
  intro payload body decoded
  rw [decodedObject, loadsNames] at decoded
  split at decoded
  · cases decoded
    decide
  · split at decoded
    · cases decoded
      decide
    · split at decoded
      · cases decoded
        decide
      · cases decoded

/-- A report of device `A`. -/
def settingsReport (payload : List UInt8) : EnqueueThread where
  deviceId := "A"
  productId := PRODUCT_ID
  isCloudToDevice := false
  topic := "dl/PLAF203/A/device/service/post"
  payload := payload
  qos := 0

/-- Reports of different settings without commas in their names have different keys. -/
theorem keys_exact_without_commas :
    SameKey loadsNames (settingsReport lightAndVolume) (settingsReport lightOnly) ↔
      Supersede loadsNames (settingsReport lightAndVolume) (settingsReport lightOnly) := by
  have parsed : parseTopic "dl/PLAF203/A/device/service/post" =
      some ⟨"PLAF203", "A", "service", "post"⟩ := by
    decide
  have direction : (settingsReport lightAndVolume).isCloudToDevice =
      (settingsReport lightOnly).isCloudToDevice := by
    simp only [settingsReport]
  refine (@coalesce_keys_exact_iff loadsNames (settingsReport lightAndVolume)
    (settingsReport lightOnly) _ _ distinctKeys_loadsNames direction parsed parsed).mpr ?_
  rw [CommasConfuse]
  decide +kernel

/-- A name with a comma takes the key of two names. -/
theorem comma_in_name_confuses :
    SameKey loadsNames (settingsReport lightAndVolume) (settingsReport commaName) ∧
      ¬ Supersede loadsNames (settingsReport lightAndVolume) (settingsReport commaName) := by
  refine ⟨⟨"dl/PLAF203/A/device/service/post|ATTR_SET_SERVICE|light,volume", by decide +kernel,
    by decide +kernel⟩, ?_⟩
  rintro ⟨-, command, extracted, -, -, fields⟩
  have settings : extractCommand loadsNames (settingsReport lightAndVolume).payload =
      some Command.ATTR_SET_SERVICE := by
    decide +kernel
  rw [settings, Option.some.injEq] at extracted
  have names := (fields extracted.symm).2 "light"
  rw [← mem_attrSetSettingFields, ← mem_attrSetSettingFields] at names
  have listed : "light" ∈ attrSetSettingFields loadsNames (settingsReport lightAndVolume).payload := by
    decide +kernel
  exact absurd (names.mp listed) (by decide +kernel)

end Upstream
end PetlibroRelay
