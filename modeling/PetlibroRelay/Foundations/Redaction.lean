import Mathlib.Data.List.Forall2
import PetlibroRelay.Foundations.Json

namespace PetlibroRelay
namespace Foundations

/-!
# Redaction by key

A redaction replaces what stands under hidden keys, at any depth of a value, and
rewrites the texts that are left.  Two values that agree outside the hidden keys
have one redaction, whatever another redaction has made of both before.
-/

namespace Json

/-! ## Agreement outside hidden keys -/

mutual

/-- Two values are equal except for what stands under hidden keys. -/
inductive AgreesOutside (hidden : String -> Bool) : Json -> Json -> Prop where
  | same (value : Json) : AgreesOutside hidden value value
  | arr {first second : List Json} : ItemsAgree hidden first second ->
      AgreesOutside hidden (.arr first) (.arr second)
  | obj {first second : List (String × Json)} : FieldsAgree hidden first second ->
      AgreesOutside hidden (.obj first) (.obj second)

inductive ItemsAgree (hidden : String -> Bool) : List Json -> List Json -> Prop where
  | nil : ItemsAgree hidden [] []
  | cons {first second : Json} {restFirst restSecond : List Json} :
      AgreesOutside hidden first second -> ItemsAgree hidden restFirst restSecond ->
        ItemsAgree hidden (first :: restFirst) (second :: restSecond)

inductive FieldsAgree (hidden : String -> Bool) :
    List (String × Json) -> List (String × Json) -> Prop where
  | nil : FieldsAgree hidden [] []
  | hide {key : String} (first second : Json) {restFirst restSecond : List (String × Json)} :
      hidden key = true -> FieldsAgree hidden restFirst restSecond ->
        FieldsAgree hidden ((key, first) :: restFirst) ((key, second) :: restSecond)
  | keep (key : String) {first second : Json} {restFirst restSecond : List (String × Json)} :
      AgreesOutside hidden first second -> FieldsAgree hidden restFirst restSecond ->
        FieldsAgree hidden ((key, first) :: restFirst) ((key, second) :: restSecond)

end

theorem FieldsAgree.same {hidden : String -> Bool} (fields : List (String × Json)) :
    FieldsAgree hidden fields fields := by
  induction fields with
  | nil => exact .nil
  | cons field rest inductionHypothesis =>
      exact .keep field.1 (.same field.2) inductionHypothesis

theorem ItemsAgree.of_forall₂ {hidden : String -> Bool} {first second : List Json}
    (items : List.Forall₂ (AgreesOutside hidden) first second) : ItemsAgree hidden first second := by
  induction items with
  | nil => exact .nil
  | cons item _ inductionHypothesis => exact .cons item inductionHypothesis

/-! ## Redaction -/

section Redaction

variable (hidden : String -> Bool) (mark : Json) (text : String -> String)

mutual

/-- The value with a mark under every hidden key, and its texts rewritten. -/
def redact : Json -> Json
  | .str value => .str (text value)
  | .arr items => .arr (redactItems items)
  | .obj fields => .obj (redactFields fields)
  | .null => .null
  | .bool value => .bool value
  | .int value => .int value
  | .float value => .float value

def redactItems : List Json -> List Json
  | [] => []
  | item :: rest => redact item :: redactItems rest

def redactFields : List (String × Json) -> List (String × Json)
  | [] => []
  | (key, value) :: rest =>
      (key, if hidden key then mark else redact value) :: redactFields rest

end

theorem redactItems_eq_map (items : List Json) :
    redactItems hidden mark text items = items.map (redact hidden mark text) := by
  induction items with
  | nil => rw [redactItems, List.map_nil]
  | cons item rest inductionHypothesis =>
      rw [redactItems, inductionHypothesis, List.map_cons]

theorem redactFields_of_shown (fields : List (String × Json))
    (shown : forall key, key ∈ fields.map Prod.fst -> hidden key = false) :
    redactFields hidden mark text fields =
      fields.map (fun field => (field.1, redact hidden mark text field.2)) := by
  induction fields with
  | nil => rw [redactFields, List.map_nil]
  | cons field rest inductionHypothesis =>
      rw [List.map_cons, List.forall_mem_cons] at shown
      rw [redactFields, if_neg (by rw [shown.1]; decide), inductionHypothesis shown.2,
        List.map_cons]

/-- An object without hidden keys is redacted field by field. -/
theorem redact_obj_of_shown (fields : List (String × Json))
    (shown : forall key, key ∈ fields.map Prod.fst -> hidden key = false) :
    redact hidden mark text (.obj fields) =
      .obj (fields.map (fun field => (field.1, redact hidden mark text field.2))) := by
  rw [redact, redactFields_of_shown hidden mark text fields shown]

end Redaction

variable {hidden : String -> Bool} {mark : Json} {text : String -> String}

mutual

/-- What the hidden keys hold does not reach the redaction. -/
theorem AgreesOutside.redact_eq : {first second : Json} -> AgreesOutside hidden first second ->
    redact hidden mark text first = redact hidden mark text second
  | _, _, .same _ => rfl
  | _, _, .arr items => by
      rw [redact, redact, items.redact_eq]
  | _, _, .obj fields => by
      rw [redact, redact, fields.redact_eq]

theorem ItemsAgree.redact_eq : {first second : List Json} -> ItemsAgree hidden first second ->
    redactItems hidden mark text first = redactItems hidden mark text second
  | _, _, .nil => rfl
  | _, _, .cons item rest => by
      rw [redactItems, redactItems, item.redact_eq, rest.redact_eq]

theorem FieldsAgree.redact_eq : {first second : List (String × Json)} ->
    FieldsAgree hidden first second ->
      redactFields hidden mark text first = redactFields hidden mark text second
  | _, _, .nil => rfl
  | _, _, .hide _ _ concealed rest => by
      rw [redactFields, redactFields, if_pos concealed, if_pos concealed, rest.redact_eq]
  | _, _, .keep _ value rest => by
      rw [redactFields, redactFields, value.redact_eq, rest.redact_eq]

end

mutual

/-- Another redaction of both values keeps their agreement. -/
theorem AgreesOutside.redacted (other : String -> Bool) : {first second : Json} ->
    AgreesOutside hidden first second ->
      AgreesOutside hidden (redact other mark text first) (redact other mark text second)
  | _, _, .same _ => .same _
  | _, _, .arr items => by
      rw [redact, redact]
      exact .arr (items.redacted other)
  | _, _, .obj fields => by
      rw [redact, redact]
      exact .obj (fields.redacted other)

theorem ItemsAgree.redacted (other : String -> Bool) : {first second : List Json} ->
    ItemsAgree hidden first second ->
      ItemsAgree hidden (redactItems other mark text first) (redactItems other mark text second)
  | _, _, .nil => .nil
  | _, _, .cons item rest => by
      rw [redactItems, redactItems]
      exact .cons (item.redacted other) (rest.redacted other)

theorem FieldsAgree.redacted (other : String -> Bool) : {first second : List (String × Json)} ->
    FieldsAgree hidden first second ->
      FieldsAgree hidden (redactFields other mark text first)
        (redactFields other mark text second)
  | _, _, .nil => .nil
  | _, _, .hide _ _ concealed rest => by
      rw [redactFields, redactFields]
      exact .hide _ _ concealed (rest.redacted other)
  | _, _, .keep key value rest => by
      rw [redactFields, redactFields]
      cases other key with
      | true => exact .keep key (.same _) (rest.redacted other)
      | false => exact .keep key (value.redacted other) (rest.redacted other)

end

/-! ## What a redaction keeps -/

/-- A step from a value to one that it holds. -/
inductive Step where
  | field (key : String)
  | item (index : Nat)
  deriving DecidableEq, Repr

/-- The step does not pass under a hidden key. -/
def Step.isShown (hidden : String -> Bool) : Step -> Bool
  | .field key => !hidden key
  | .item _ => true

/-- What a step leads to, if the value has a place for it. -/
def enter (value : Json) : Step -> Option Json
  | .field key => value.fields?.bind (fun fields => Dict.get? fields key)
  | .item index => value.items?.bind (fun items => items[index]?)

/-- What stands at the end of a path, if it leads anywhere. -/
def at? : List Step -> Json -> Option Json
  | [], value => some value
  | step :: rest, value => (value.enter step).bind (at? rest)

/-- A value without what its parts are: the keys of an object, the length of an array,
and a leaf that is no text as it is. -/
inductive Outline where
  | keys (names : List String)
  | items (length : Nat)
  | text
  | leaf (value : Json)

def outline : Json -> Outline
  | .obj fields => .keys (Dict.keys fields)
  | .arr items => .items items.length
  | .str _ => .text
  | value => .leaf value

theorem keys_redactFields (fields : List (String × Json)) :
    Dict.keys (redactFields hidden mark text fields) = Dict.keys fields := by
  induction fields with
  | nil => rw [redactFields]
  | cons field rest inductionHypothesis =>
      rw [Dict.keys, Dict.keys] at inductionHypothesis
      rw [redactFields, Dict.keys, Dict.keys, List.map_cons, List.map_cons, inductionHypothesis]

theorem outline_redact (value : Json) :
    outline (redact hidden mark text value) = outline value := by
  cases value with
  | obj fields => rw [redact, outline, outline, keys_redactFields]
  | arr items => rw [redact, outline, outline, redactItems_eq_map, List.length_map]
  | str value => rw [redact, outline, outline]
  | null => rw [redact]
  | bool value => rw [redact]
  | int value => rw [redact]
  | float value => rw [redact]

theorem get?_redactFields {key : String} (shown : hidden key = false)
    (fields : List (String × Json)) :
    Dict.get? (redactFields hidden mark text fields) key =
      (Dict.get? fields key).map (redact hidden mark text) := by
  induction fields with
  | nil => rw [redactFields, Dict.get?_nil, Option.map_none]
  | cons field rest inductionHypothesis =>
      obtain ⟨first, value⟩ := field
      rw [redactFields, Dict.get?_cons, Dict.get?_cons]
      by_cases own : first = key
      · rw [if_pos own, if_pos own, own, shown, Option.map_some]
        rfl
      · rw [if_neg own, if_neg own, inductionHypothesis]

theorem enter_redact {step : Step} (shown : step.isShown hidden = true) (value : Json) :
    (redact hidden mark text value).enter step =
      (value.enter step).map (redact hidden mark text) := by
  cases step with
  | field key =>
      have visible : hidden key = false := (Bool.not_eq_true' _).mp shown
      cases value with
      | obj fields => exact get?_redactFields visible fields
      | _ => rfl
  | item index =>
      cases value with
      | arr items =>
          have listed : (redact hidden mark text (.arr items)).enter (.item index) =
              (redactItems hidden mark text items)[index]? := rfl
          rw [listed, redactItems_eq_map, List.getElem?_map]
          rfl
      | _ => rfl

/-- A path that passes under no hidden key leads to the redaction of what it led to. -/
theorem at?_redact (path : List Step)
    (shown : forall step, step ∈ path -> step.isShown hidden = true) (value : Json) :
    at? path (redact hidden mark text value) =
      (at? path value).map (redact hidden mark text) := by
  induction path generalizing value with
  | nil => rfl
  | cons step rest inductionHypothesis =>
      rw [List.forall_mem_cons] at shown
      rw [at?, at?, enter_redact shown.1, Option.bind_map, Option.map_bind]
      congr 1
      funext entered
      exact inductionHypothesis shown.2 entered

theorem get?_redactFields_hidden {key : String} (concealed : hidden key = true)
    (fields : List (String × Json)) {value : Json}
    (stands : Dict.get? (redactFields hidden mark text fields) key = some value) :
    value = mark := by
  induction fields with
  | nil => rw [redactFields, Dict.get?_nil] at stands; cases stands
  | cons field rest inductionHypothesis =>
      obtain ⟨first, held⟩ := field
      rw [redactFields, Dict.get?_cons] at stands
      by_cases own : first = key
      · rw [if_pos own, own, concealed, if_pos rfl, Option.some_inj] at stands
        exact stands.symm
      · rw [if_neg own] at stands
        exact inductionHypothesis stands

/-- Every text in a redaction is the mark or was rewritten. -/
theorem text_of_at?_redact {sign : String} (path : List Step) (value : Json) {found : String}
    (leads : at? path (redact hidden (.str sign) text value) = some (.str found)) :
    found = sign ∨ exists original, found = text original := by
  induction path generalizing value with
  | nil =>
      rw [at?, Option.some_inj] at leads
      cases value with
      | str original =>
          rw [redact, Json.str.injEq] at leads
          exact .inr ⟨original, leads.symm⟩
      | _ => rw [redact] at leads; cases leads
  | cons step rest inductionHypothesis =>
      rw [at?, Option.bind_eq_some_iff] at leads
      obtain ⟨entered, enters, leads⟩ := leads
      cases shown : step.isShown hidden with
      | true =>
          rw [enter_redact shown, Option.map_eq_some_iff] at enters
          obtain ⟨held, -, rfl⟩ := enters
          exact inductionHypothesis held leads
      | false =>
          cases step with
          | item index => cases shown
          | field key =>
              have concealed : hidden key = true := (Bool.not_eq_false' _).mp shown
              cases value with
              | obj fields =>
                  have isMark := get?_redactFields_hidden concealed fields enters
                  subst isMark
                  cases rest with
                  | nil => cases leads; exact .inl rfl
                  | cons next rest => cases next <;> cases leads
              | _ => rw [redact] at enters; cases enters

mutual

/-- A second redaction finds nothing to do, if rewriting texts a second time does not
change them either. -/
theorem redact_redact (stable : forall value, text (text value) = text value) : (value : Json) ->
    redact hidden mark text (redact hidden mark text value) = redact hidden mark text value
  | .str value => by rw [redact, redact, stable]
  | .arr items => by rw [redact, redact, redactItems_redactItems stable items]
  | .obj fields => by rw [redact, redact, redactFields_redactFields stable fields]
  | .null => by rw [redact, redact]
  | .bool _ => by rw [redact, redact]
  | .int _ => by rw [redact, redact]
  | .float _ => by rw [redact, redact]

theorem redactItems_redactItems (stable : forall value, text (text value) = text value) :
    (items : List Json) -> redactItems hidden mark text (redactItems hidden mark text items) =
      redactItems hidden mark text items
  | [] => by rw [redactItems, redactItems]
  | item :: rest => by
      rw [redactItems, redactItems, redact_redact stable item, redactItems_redactItems stable rest]

theorem redactFields_redactFields (stable : forall value, text (text value) = text value) :
    (fields : List (String × Json)) ->
      redactFields hidden mark text (redactFields hidden mark text fields) =
        redactFields hidden mark text fields
  | [] => by rw [redactFields, redactFields]
  | (key, value) :: rest => by
      rw [redactFields, redactFields, redactFields_redactFields stable rest]
      cases concealed : hidden key with
      | true => rfl
      | false => simp only [Bool.false_eq_true, if_false, redact_redact stable value]

end

/-- What is left of a value does not depend on what its hidden keys hold, and has all its
keys, lengths and leaves but for the texts. -/
structure Sanitizes (hidden : String -> Bool) (sanitize : Json -> Json) : Prop where
  hides : forall first second, AgreesOutside hidden first second ->
    sanitize first = sanitize second
  keeps : forall path value, (forall step, step ∈ path -> step.isShown hidden = true) ->
    (at? path (sanitize value)).map outline = (at? path value).map outline

theorem sanitizes_redact (hidden : String -> Bool) (mark : Json) (text : String -> String) :
    Sanitizes hidden (redact hidden mark text) where
  hides := fun _ _ agree => agree.redact_eq
  keeps := by
    intro path value shown
    rw [at?_redact path shown, Option.map_map]
    congr 1
    funext found
    exact outline_redact found

end Json
end Foundations
end PetlibroRelay
