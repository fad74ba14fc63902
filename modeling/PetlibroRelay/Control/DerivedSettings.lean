import PetlibroRelay.Control.Controller
import PetlibroRelay.Foundations.DerivedFields

namespace PetlibroRelay
namespace Control

open Foundations
open Protocol
open Shadow

/-!
# Settings that are derived from others

The UTC counterparts and the durations are computed fields: their sources are local
times, which are never computed.  Every group that has a local time also has what is
computed from it, so a call that starts within its group stays there.
-/

/-- The fields of settings. -/
def settingsFields : Fields Settings String Json where
  read := Settings.get?
  write := Settings.set
  read_write := fun settings => Dict.get?_set settings.entries

/-- The text a field has. -/
def textOf (field : String -> Option Json) (name : String) : Option String :=
  (field name).bind Json.str?

/-- The UTC counterpart of a local time. -/
def timeRule (toUtc : LocalTime -> String) (pair : String × String) :
    DerivedField String Json ControlError where
  target := pair.2
  sources := [pair.1]
  outcome := fun field =>
    match textOf field pair.1 with
    | none => .ok none
    | some text => do
        let time ← parseTime text
        return some (.str (toUtc time))
  reads := by
    intro first second same
    rw [textOf, textOf, same pair.1 List.mem_cons_self]

/-- The minutes from a start to an end. -/
def durationRule (names : String × String × String) : DerivedField String Json ControlError where
  target := names.2.2
  sources := [names.1, names.2.1]
  outcome := fun field =>
    match textOf field names.1, textOf field names.2.1 with
    | some start, some stop => do
        let last ← minutes stop
        let first ← minutes start
        return some (.int (last - first))
    | _, _ => .ok none
  reads := by
    intro first second same
    rw [textOf, textOf, textOf, textOf, same names.1 List.mem_cons_self,
      same names.2.1 (List.mem_cons_of_mem _ List.mem_cons_self)]

def settingsRules (toUtc : LocalTime -> String) : List (DerivedField String Json ControlError) :=
  TIME_PAIRS.map (timeRule toUtc) ++ DURATIONS.map durationRule

/-- Each derived field with its sources. -/
def DERIVATIONS : List (String × List String) :=
  TIME_PAIRS.map (fun pair => (pair.2, [pair.1])) ++
    DURATIONS.map (fun names => (names.2.2, [names.1, names.2.1]))

/-- Whether a field is computed when a call starts from these settings. -/
def derives (starting : Settings) (key : String) : Bool :=
  DERIVATIONS.any (fun derivation => decide (derivation.1 = key) &&
    derivation.2.all (fun source => (textOf starting.get? source).isSome))

/-! ## The rules of the source -/

theorem populateTimeFields_eq (toUtc : LocalTime -> String) (values : Settings) :
    populateTimeFields toUtc values =
      settingsFields.deriveAll (TIME_PAIRS.map (timeRule toUtc)) values := by
  rw [populateTimeFields, Fields.deriveAll, List.foldlM_map]
  congr 1
  funext settings pair
  simp only [Fields.derive, timeRule, textOf, settingsFields]
  cases (settings.get? pair.1).bind Json.str? with
  | none => rfl
  | some text =>
      dsimp only
      cases parseTime text <;> rfl

theorem populateDurationFields_eq (values : Settings) :
    populateDurationFields values = settingsFields.deriveAll (DURATIONS.map durationRule) values := by
  rw [populateDurationFields, Fields.deriveAll, List.foldlM_map]
  congr 1
  funext settings names
  simp only [Fields.derive, durationRule, textOf, settingsFields]
  cases (settings.get? names.1).bind Json.str? with
  | none => rfl
  | some start =>
      cases (settings.get? names.2.1).bind Json.str? with
      | none => rfl
      | some stop =>
          dsimp only
          cases minutes stop with
          | error problem => rfl
          | ok last => cases minutes start <;> rfl

/-- The two passes are one. -/
theorem groupValues_eq (toUtc : LocalTime -> String) (known : Settings)
    (updates : Dict String Json) :
    groupValues toUtc known updates =
      settingsFields.deriveAll (settingsRules toUtc) (known.update updates) := by
  rw [groupValues, settingsRules, Fields.deriveAll, List.foldlM_append, populateTimeFields_eq]
  congr 1
  funext values
  exact populateDurationFields_eq values

theorem mem_derivations {toUtc : LocalTime -> String} {rule : DerivedField String Json ControlError}
    (member : rule ∈ settingsRules toUtc) : (rule.target, rule.sources) ∈ DERIVATIONS := by
  have names : (settingsRules toUtc).map (fun rule => (rule.target, rule.sources)) =
      DERIVATIONS := rfl
  rw [← names]
  exact List.mem_map_of_mem member

theorem separate_settingsRules (toUtc : LocalTime -> String) : Separate (settingsRules toUtc) := by
  have apart : forall derivation, derivation ∈ DERIVATIONS -> forall other, other ∈ DERIVATIONS ->
      derivation.1 ∉ other.2 := by
    decide +kernel
  intro rule member other otherMember
  exact apart _ (mem_derivations member) _ (mem_derivations otherMember)

/-- A rule applies only where all its sources are texts. -/
theorem texts_of_applies {toUtc : LocalTime -> String}
    {rule : DerivedField String Json ControlError} (member : rule ∈ settingsRules toUtc)
    {field : String -> Option Json} {value : Json} (applies : rule.outcome field = .ok (some value)) :
    rule.sources.all (fun source => (textOf field source).isSome) = true := by
  rcases List.mem_append.mp member with ofTime | ofDuration
  · obtain ⟨pair, _, rfl⟩ := List.mem_map.mp ofTime
    simp only [timeRule] at applies ⊢
    cases known : textOf field pair.1 with
    | none =>
        rw [known] at applies
        cases applies
    | some text => rw [List.all_cons, known]; rfl
  · obtain ⟨names, _, rfl⟩ := List.mem_map.mp ofDuration
    simp only [durationRule] at applies ⊢
    cases start : textOf field names.1 with
    | none =>
        rw [start] at applies
        cases applies
    | some first =>
        cases stop : textOf field names.2.1 with
        | none =>
            rw [start, stop] at applies
            cases applies
        | some last => rw [List.all_cons, List.all_cons, start, stop]; rfl

theorem derives_of_applies {toUtc : LocalTime -> String}
    {rule : DerivedField String Json ControlError} (member : rule ∈ settingsRules toUtc)
    {starting : Settings} {value : Json}
    (applies : rule.outcome starting.get? = .ok (some value)) :
    derives starting rule.target = true := by
  rw [derives, List.any_eq_true]
  refine ⟨_, mem_derivations member, ?_⟩
  rw [Bool.and_eq_true, decide_eq_true_eq]
  exact ⟨rfl, texts_of_applies member applies⟩

/-! ## The values of a call -/

/-- A group with a source of a derived field has the derived field. -/
theorem target_allowed {group : String × List String} (known : group ∈ GROUP_FIELDS)
    {derivation : String × List String} (member : derivation ∈ DERIVATIONS)
    (sources : forall source, source ∈ derivation.2 -> source ∈ group.2) :
    derivation.1 ∈ group.2 := by
  have closed : forall group, group ∈ GROUP_FIELDS ->
      forall derivation, derivation ∈ DERIVATIONS ->
        derivation.2.all (fun source => decide (source ∈ group.2)) = true ->
          derivation.1 ∈ group.2 := by
    decide +kernel
  refine closed group known derivation member (List.all_eq_true.mpr ?_)
  exact fun source isSource => decide_eq_true (sources source isSource)

/-- What a call submits, compared with what it starts from. -/
theorem groupValues_spec {toUtc : LocalTime -> String} {known : Settings}
    {updates : Dict String Json} {values : Settings}
    (done : groupValues toUtc known updates = .ok values) :
    (forall pair text, pair ∈ TIME_PAIRS ->
        (known.update updates).get? pair.1 = some (.str text) ->
          exists time, parseTime text = .ok time) ∧
      (forall key, derives (known.update updates) key = false ->
        values.get? key = (known.update updates).get? key) ∧
      (forall group, group ∈ GROUP_FIELDS ->
        (forall key, (known.update updates).get? key ≠ none -> key ∈ group.2) ->
          forall key, values.get? key ≠ none -> key ∈ group.2) := by
  rw [groupValues_eq] at done
  obtain ⟨computed, kept⟩ := Fields.deriveAll_spec (separate_settingsRules toUtc) done
  refine ⟨?_, ?_, ?_⟩
  · intro pair text member isText
    obtain ⟨value, outcome⟩ := computed (timeRule toUtc pair)
      (List.mem_append_left _ (List.mem_map_of_mem member))
    have text : textOf (known.update updates).get? pair.1 = some text := by
      rw [textOf, isText]
      rfl
    simp only [timeRule, settingsFields, text] at outcome
    obtain ⟨time, parsed, _⟩ := bind_ok outcome
    exact ⟨time, parsed⟩
  · intro key free
    rcases kept key with same | ⟨rule, value, member, target, applies, _⟩
    · exact same
    · have computedField := derives_of_applies member applies
      rw [target, free] at computedField
      cases computedField
  · intro group isGroup within key present
    rcases kept key with same | ⟨rule, value, member, target, applies, _⟩
    · exact within key (fun absent => present (Eq.trans same absent))
    · rw [← target]
      refine target_allowed isGroup (mem_derivations member) ?_
      intro source isSource
      have text : (textOf (known.update updates).get? source).isSome = true :=
        List.all_eq_true.mp (texts_of_applies member applies) source isSource
      apply within
      intro absent
      rw [textOf, absent] at text
      cases text

/-! ## The published object -/

/-- The fields of every command that are not settings. -/
def COMMAND_FIELDS : List String := ["cmd", "ts", "msgId"]

/-- The object a registered call publishes. -/
def Registration.published (registration : Registration) : Dict String Json :=
  Dict.set registration.submission.payload "msgId" (.str registration.msgId)

/-- The settings in it. -/
def Registration.publishedSettings (registration : Registration) : Dict String Json :=
  registration.published.filter (fun entry => decide (entry.1 ∉ COMMAND_FIELDS))

/-- What a call knows of its group: nothing but the request, or the effective settings, where
confirmed values come before desired ones. -/
def knownSettings (minimal : Bool) (allowed : List String)
    (desired confirmed updates : Dict String Json) : Settings :=
  if minimal then Settings.empty.update updates
  else ((Settings.empty.update desired).update confirmed).restrict allowed

/-- The settings a call starts from, before anything is derived. -/
def startingSettings (minimal : Bool) (allowed : List String)
    (desired confirmed updates : Dict String Json) : Settings :=
  (knownSettings minimal allowed desired confirmed updates).update updates

theorem envelope_apart {group : String × List String} (known : group ∈ GROUP_FIELDS) :
    forall key, key ∈ group.2 -> key ∉ COMMAND_FIELDS := by
  have apart : forall group, group ∈ GROUP_FIELDS -> forall key, key ∈ group.2 ->
      key ∉ COMMAND_FIELDS := by
    decide +kernel
  exact apart group known

/-- Settings outside the envelope stand between its fields. -/
theorem published_eq {registration : Registration} {values : Settings} {command : Json} {ts : Json}
    (built : registration.submission.payload =
      Dict.update [("cmd", command), ("ts", ts)] values.entries)
    (outside : forall key, key ∈ Dict.keys values.entries -> key ∉ COMMAND_FIELDS) :
    registration.published =
      [("cmd", command), ("ts", ts)] ++ values.entries ++ [("msgId", .str registration.msgId)] := by
  have fresh : forall key, key ∈ Dict.keys values.entries ->
      key ∉ Dict.keys [("cmd", command), ("ts", ts)] := by
    intro key member envelope
    apply outside key member
    rcases List.mem_cons.mp envelope with same | envelope
    · rw [same]
      exact List.mem_cons_self
    · rw [List.mem_singleton.mp envelope]
      exact List.mem_cons_of_mem _ List.mem_cons_self
  rw [Registration.published, built, Dict.update_of_fresh values.unique fresh]
  apply Dict.set_of_not_mem
  rw [Dict.keys, List.map_append, List.mem_append, not_or]
  refine ⟨?_, fun member => outside "msgId" member (by decide)⟩
  simp only [List.map_cons, List.map_nil, List.mem_cons, List.not_mem_nil, or_false]
  decide

theorem publishedSettings_eq {registration : Registration} {values : Settings} {command : Json}
    {ts : Json}
    (published : registration.published =
      [("cmd", command), ("ts", ts)] ++ values.entries ++ [("msgId", .str registration.msgId)])
    (outside : forall key, key ∈ Dict.keys values.entries -> key ∉ COMMAND_FIELDS) :
    registration.publishedSettings = values.entries := by
  have kept : values.entries.filter (fun entry => decide (entry.1 ∉ COMMAND_FIELDS)) =
      values.entries := by
    apply List.filter_eq_self.mpr
    intro entry member
    exact decide_eq_true (outside entry.1 (List.mem_map_of_mem member))
  rw [Registration.publishedSettings, published, List.filter_append, List.filter_append, kept]
  exact List.append_nil _

/-- The confirmed settings of a device have become those of a published object, where it has
one, and no others have changed. -/
def Confirms (before after : StateShadow) (deviceId : String) (published : Dict String Json) :
    Prop :=
  forall owner key, Dict.get? after.localConfirmed (owner, key) =
    if owner = deviceId ∧ key ∉ COMMAND_FIELDS then
      (Dict.get? published key).or (Dict.get? before.localConfirmed (owner, key))
    else Dict.get? before.localConfirmed (owner, key)

theorem confirms_publishedSettings (shadow : StateShadow) (deviceId : String)
    {registration : Registration}
    (unique : (Dict.keys registration.publishedSettings).Nodup) :
    Confirms shadow (shadow.updateLocalConfirmed deviceId registration.publishedSettings) deviceId
      registration.published := by
  intro owner key
  refine (StateShadow.get?_updateKv _ _ _ unique owner key).trans ?_
  have setting : Dict.get? registration.publishedSettings key =
      if key ∉ COMMAND_FIELDS then Dict.get? registration.published key else none :=
    (Dict.get?_filter_keys registration.published (fun name => decide (name ∉ COMMAND_FIELDS))
      key).trans (if_congr decide_eq_true_iff rfl rfl)
  rw [setting]
  by_cases own : owner = deviceId
  · by_cases envelope : key ∈ COMMAND_FIELDS
    · rw [if_pos own, if_neg (not_not.mpr envelope), if_neg (fun both => both.2 envelope)]
      exact Option.none_or
    · rw [if_pos own, if_pos envelope, if_pos ⟨own, envelope⟩]
  · rw [if_neg own, if_neg (fun both => own both.1)]

/-- What a registered call that stays inside its group publishes. -/
structure StaysInGroup (allowed : List String) (updates : Dict String Json) (starting : Settings)
    (registration : Registration) : Prop where
  requested : updates ≠ [] ∧ forall key, key ∈ Dict.keys updates -> key ∈ allowed
  times : forall pair text, pair ∈ TIME_PAIRS -> starting.get? pair.1 = some (.str text) ->
    exists time, parseTime text = .ok time
  names : forall key, key ∈ Dict.keys registration.published ->
    key ∈ COMMAND_FIELDS ∨ key ∈ allowed
  command : Dict.get? registration.published "cmd" = some (.str Command.ATTR_SET_SERVICE)
  ts : exists stamp : Int, Dict.get? registration.published "ts" = some (.int stamp)
  msgId : Dict.get? registration.published "msgId" = some (.str registration.msgId)
  values : forall key value, Dict.get? (Dict.update [] updates) key = some value ->
    derives starting key = false -> Dict.get? registration.published key = some value
  stores : forall shadow deviceId, registration.submission.persistence.write shadow deviceId =
    some (shadow.updateLocalConfirmed deviceId registration.publishedSettings)
  confirms : forall shadow deviceId, Confirms shadow
    (shadow.updateLocalConfirmed deviceId registration.publishedSettings) deviceId
    registration.published

theorem allowedFields_ok {groupName : String} {updates : Dict String Json} {allowed : List String}
    (permitted : allowedFields groupName updates = .ok allowed) :
    Dict.get? GROUP_FIELDS groupName = some allowed ∧ updates ≠ [] ∧
      forall key, key ∈ Dict.keys updates -> key ∈ allowed := by
  unfold allowedFields at permitted
  split at permitted
  · cases permitted
  · next known =>
      split at permitted
      · cases permitted
      · next fine =>
          cases permitted
          rw [Bool.or_eq_true, not_or, List.isEmpty_iff, List.any_eq_true] at fine
          refine ⟨known, fine.1, fun key member => ?_⟩
          by_contra outside
          exact fine.2 ⟨key, member, decide_eq_true outside⟩

theorem mem_keys_of_update {updates : Dict String Json} {key : String}
    (present : Dict.get? (Dict.update [] updates) key ≠ none) : key ∈ Dict.keys updates := by
  obtain ⟨value, found⟩ := Option.ne_none_iff_exists'.mp present
  rcases Dict.mem_update (Dict.mem_of_get?_eq_some found) with impossible | member
  · cases impossible
  · exact List.mem_map_of_mem member

/-- A call starts within its group, and every requested value is there. -/
theorem startingSettings_spec {minimal : Bool} {allowed : List String}
    {desired confirmed updates : Dict String Json}
    (requested : forall key, key ∈ Dict.keys updates -> key ∈ allowed) :
    (forall key, (startingSettings minimal allowed desired confirmed updates).get? key ≠ none ->
        key ∈ allowed) ∧
      forall key value, Dict.get? (Dict.update [] updates) key = some value ->
        (startingSettings minimal allowed desired confirmed updates).get? key = some value := by
  have either := fun key => Dict.get?_update_or
    (knownSettings minimal allowed desired confirmed updates).entries updates key
  constructor
  · intro key present
    by_cases asked : Dict.get? (Dict.update [] updates) key = none
    · have known : Dict.get? (knownSettings minimal allowed desired confirmed updates).entries key ≠
          none := by
        intro absent
        refine present ((either key).trans ?_)
        rw [asked, absent]
        rfl
      cases minimal with
      | true => exact requested key (mem_keys_of_update known)
      | false =>
          obtain ⟨value, found⟩ := Option.ne_none_iff_exists'.mp known
          exact of_decide_eq_true (List.mem_filter.mp (Dict.mem_of_get?_eq_some found)).2
    · exact requested key (mem_keys_of_update asked)
  · intro key value found
    refine (either key).trans ?_
    rw [found]
    rfl

/-- What is submitted stays in the group. -/
theorem staysInGroup {clock : Clock} {groupName : String} {minimal : Bool} {allowed : List String}
    {desired confirmed updates : Dict String Json} {registration : Registration}
    (permitted : allowedFields groupName updates = .ok allowed)
    (built : settingsSubmission clock (knownSettings minimal allowed desired confirmed updates)
      updates = .ok registration.submission) :
    StaysInGroup allowed updates (startingSettings minimal allowed desired confirmed updates)
      registration := by
  obtain ⟨known, nonempty, requested⟩ := allowedFields_ok permitted
  have isGroup : (groupName, allowed) ∈ GROUP_FIELDS := Dict.mem_of_get?_eq_some known
  obtain ⟨values, done, same⟩ := bind_ok built
  have submission := Except.ok.inj same
  obtain ⟨times, kept, within⟩ := groupValues_spec done
  obtain ⟨startsWithin, asked⟩ :=
    @startingSettings_spec minimal allowed desired confirmed updates requested
  have inside : forall key, key ∈ Dict.keys values.entries -> key ∈ allowed := by
    intro key member
    apply within _ isGroup startsWithin key
    exact fun absent => (Dict.get?_eq_none_iff _ _).mp absent member
  have outside : forall key, key ∈ Dict.keys values.entries -> key ∉ COMMAND_FIELDS :=
    fun key member => envelope_apart isGroup key (inside key member)
  have payload : registration.submission.payload = Dict.update
      [("cmd", .str Command.ATTR_SET_SERVICE), ("ts", .int clock.timestampMs)] values.entries := by
    rw [← submission]
  have published := published_eq payload outside
  constructor
  · exact ⟨nonempty, requested⟩
  · exact times
  · intro key member
    rw [published, Dict.keys, List.map_append, List.map_append, List.mem_append,
      List.mem_append] at member
    rcases member with (envelope | member) | last
    · have first : ["cmd", "ts"] ⊆ COMMAND_FIELDS := by decide
      exact Or.inl (first envelope)
    · exact Or.inr (inside key member)
    · have first : ["msgId"] ⊆ COMMAND_FIELDS := by decide
      exact Or.inl (first last)
  · rw [published]
    rfl
  · rw [published]
    exact ⟨clock.timestampMs, rfl⟩
  · exact Dict.get?_set_self _ _ _
  · intro key value found free
    have present : Dict.get? values.entries key = some value :=
      (kept key free).trans (asked key value found)
    have apart : "msgId" ≠ key := by
      rintro rfl
      refine outside "msgId" ?_ (by decide)
      exact List.mem_map_of_mem (Dict.mem_of_get?_eq_some present)
    rw [Registration.published, Dict.get?_set_of_ne _ _ apart, payload, Dict.get?_update,
      Dict.lastWhere_key _ values.unique key, present]
    rfl
  · intro shadow deviceId
    rw [publishedSettings_eq published outside, ← submission]
    rfl
  · intro shadow deviceId
    apply confirms_publishedSettings
    rw [publishedSettings_eq published outside]
    exact values.unique

end Control
end PetlibroRelay
