import Mathlib
import PetlibroRelay.Dashboard.Sanitizer

namespace PetlibroRelay
namespace Dashboard

open Foundations

/-!
# Texts after redaction

A sanitized text is sanitized again when it is shown: the log handler and the event
timeline do it when they store a text, the web context once more before it answers.
Every field that is left must therefore be in its redacted form, for all three
expressions, although each of them rewrites what the one before it has left.

The argument is about any two expressions with plain names.  A rewriting copies
letters and replaces fields; a field that stands in the result was a field of the
original in its redacted form, or ends in one that was put there.
-/

def redactedLetters : List Char := REDACTED_VALUE.toList

/-! ## Letters of names -/

/-- The letters that may stand in the name of a field. -/
def IsFieldLetter (letter : Char) : Prop :=
  isValueLetter letter = true ∧ letter ≠ '=' ∧ letter ≠ ':'

/-- No value goes on at the start of the text. -/
def EndsValue (text : List Char) : Prop :=
  forall letter, letter ∈ text.head? -> isValueLetter letter = false

/-- The name and the text differ at a letter that both have. -/
def partsFrom : List Char -> List Char -> Bool
  | expected :: name, letter :: text => !matchesLetter expected letter || partsFrom name text
  | _, _ => false

/-- Names of lower-case letters, none of which can begin in the redacted value. -/
structure FieldPattern.Plain (pattern : FieldPattern) : Prop where
  lettered : forall name, name ∈ pattern.names -> name.1.toList ≠ [] ∧
    forall letter, letter ∈ name.1.toList -> 97 ≤ letter.toNat ∧ letter.toNat ≤ 122
  parts : forall name, name ∈ pattern.names ->
    forall stretch, stretch ∈ redactedLetters.tails -> stretch ≠ [] ->
      partsFrom name.1.toList stretch = true

def fieldPatterns : List FieldPattern :=
  [PASSWORD_FIELD_PATTERN, TOKEN_FIELD_PATTERN, IDENTITY_FIELD_PATTERN]

theorem plain_of_mem_fieldPatterns {pattern : FieldPattern} (listed : pattern ∈ fieldPatterns) :
    pattern.Plain := by
  have lettered : forall pattern, pattern ∈ fieldPatterns -> forall name, name ∈ pattern.names ->
      name.1.toList ≠ [] ∧
        name.1.toList.all (fun letter => 97 ≤ letter.toNat ∧ letter.toNat ≤ 122) = true := by
    decide +kernel
  have parts : forall pattern, pattern ∈ fieldPatterns -> forall name, name ∈ pattern.names ->
      forall stretch, stretch ∈ redactedLetters.tails -> stretch ≠ [] ->
        partsFrom name.1.toList stretch = true := by
    decide +kernel
  refine ⟨fun name named => ?_, fun name named => parts pattern listed name named⟩
  obtain ⟨named, letters⟩ := lettered pattern listed name named
  exact ⟨named, fun letter inside => of_decide_eq_true (List.all_eq_true.mp letters letter inside)⟩

theorem isFieldLetter_of_range {letter : Char}
    (range : 65 ≤ letter.toNat ∧ letter.toNat ≤ 90 ∨ 97 ≤ letter.toNat ∧ letter.toNat ≤ 122 ∨
      48 ≤ letter.toNat ∧ letter.toNat ≤ 57 ∨ letter.toNat = 95) : IsFieldLetter letter := by
  have differs : forall other : Char, letter.toNat ≠ other.toNat -> letter ≠ other :=
    fun other different equal => different (by rw [equal])
  have equals : '='.toNat = 61 ∧ ':'.toNat = 58 ∧ ','.toNat = 44 ∧ '}'.toNat = 125 ∧
    ']'.toNat = 93 := by decide
  refine ⟨?_, differs _ (by omega), differs _ (by omega)⟩
  have comma := differs ',' (by omega)
  have brace := differs '}' (by omega)
  have bracket := differs ']' (by omega)
  have solid : isSpace letter = false := by
    simp only [isSpace, Bool.or_eq_false_iff, decide_eq_false_iff_not, List.mem_cons,
      List.not_mem_nil, or_false]
    omega
  simp [isValueLetter, solid, comma, brace, bracket]

theorem isFieldLetter_of_caseVariant {pair : Char × Char} (listed : pair ∈ caseVariants) :
    IsFieldLetter pair.2 := by
  have checked : forall pair, pair ∈ caseVariants ->
      isValueLetter pair.2 = true ∧ pair.2 ≠ '=' ∧ pair.2 ≠ ':' := by
    decide +kernel
  exact checked pair listed

theorem isFieldLetter_of_matchesLetter {expected letter : Char}
    (lower : 97 ≤ expected.toNat ∧ expected.toNat ≤ 122)
    (matched : matchesLetter expected letter = true) : IsFieldLetter letter := by
  rw [matchesLetter, Bool.or_eq_true, decide_eq_true_iff, decide_eq_true_iff] at matched
  rcases matched with folded | variant
  · refine isFieldLetter_of_range ?_
    by_cases upper : 65 ≤ letter.toNat ∧ letter.toNat ≤ 90
    · exact .inl upper
    · have same : letter.toLower = letter := by
        simp only [Char.toLower, Char.toNat] at upper ⊢
        rw [dif_neg]
        simpa [UInt32.le_iff_toNat_le] using upper
      rw [same] at folded
      exact .inr (.inl (folded ▸ lower))
  · exact isFieldLetter_of_caseVariant variant

theorem isFieldLetter_of_isNameLetter {letter : Char} (named : isNameLetter letter = true) :
    IsFieldLetter letter := by
  simp only [isNameLetter, Bool.or_eq_true, decide_eq_true_iff, List.any_eq_true,
    beq_iff_eq] at named
  rcases named with (alphanumeric | underscore) | ⟨pair, listed, rfl⟩
  · refine isFieldLetter_of_range ?_
    simp only [Char.isAlphanum, Char.isAlpha, Char.isUpper, Char.isLower, Char.isDigit,
      Bool.or_eq_true, Bool.and_eq_true, decide_eq_true_iff, ge_iff_le,
      UInt32.le_iff_toNat_le] at alphanumeric
    simp only [Char.toNat]
    rcases alphanumeric with (upper | lower) | digit
    · exact .inl upper
    · exact .inr (.inl lower)
    · exact .inr (.inr (.inl digit))
  · subst underscore
    exact isFieldLetter_of_range (by decide)
  · exact isFieldLetter_of_caseVariant listed

theorem startsWithName_of_partsFrom {name text : List Char} (parts : partsFrom name text = true)
    (more : List Char) : startsWithName name (text ++ more) = false := by
  induction name generalizing text with
  | nil => cases parts
  | cons expected name inductionHypothesis =>
      cases text with
      | nil => cases parts
      | cons letter text =>
          rw [partsFrom, Bool.or_eq_true, Bool.not_eq_true'] at parts
          rw [List.cons_append, startsWithName, Bool.and_eq_false_iff]
          exact parts.imp id inductionHypothesis

theorem length_le_of_startsWithName {name text : List Char}
    (starts : startsWithName name text = true) : name.length ≤ text.length := by
  induction name generalizing text with
  | nil => exact Nat.zero_le _
  | cons expected name inductionHypothesis =>
      cases text with
      | nil => cases starts
      | cons letter text =>
          rw [startsWithName, Bool.and_eq_true] at starts
          exact Nat.succ_le_succ (inductionHypothesis starts.2)

theorem takeWhile_isNameLetter_stop {letters more : List Char} {stop : Char}
    (stops : ¬ IsFieldLetter stop) :
    (letters ++ stop :: more).takeWhile isNameLetter = letters.takeWhile isNameLetter := by
  have ended : isNameLetter stop = false := by
    by_contra named
    exact stops (isFieldLetter_of_isNameLetter (Bool.not_eq_false _ ▸ named))
  rw [List.takeWhile_append]
  split
  · rename_i whole
    rw [List.takeWhile_cons_of_neg (by simp [ended]), List.append_nil]
    exact ((List.takeWhile_prefix _).eq_of_length whole).symm
  · rfl

section Names

variable {name : String × Bool}
  (lettered : forall letter, letter ∈ name.1.toList -> 97 ≤ letter.toNat ∧ letter.toNat ≤ 122)

include lettered

theorem isFieldLetter_of_startsWithName {text : List Char}
    (starts : startsWithName name.1.toList text = true) :
    forall letter, letter ∈ text.take name.1.toList.length -> IsFieldLetter letter := by
  generalize name.1.toList = letters at lettered starts
  induction letters generalizing text with
  | nil => simp
  | cons expected letters inductionHypothesis =>
      cases text with
      | nil => simp
      | cons first text =>
          rw [startsWithName, Bool.and_eq_true] at starts
          rw [List.forall_mem_cons] at lettered
          rw [List.length_cons, List.take_succ_cons, List.forall_mem_cons]
          exact ⟨isFieldLetter_of_matchesLetter lettered.1 starts.1,
            inductionHypothesis lettered.2 starts.2⟩

/-- What follows the letter after a name does not matter. -/
theorem startsWithName_congr {letters : List Char} {stop : Char}
    (stops : ¬ IsFieldLetter stop) (first second : List Char) :
    startsWithName name.1.toList (letters ++ stop :: first) =
      startsWithName name.1.toList (letters ++ stop :: second) := by
  generalize name.1.toList = expecteds at lettered
  induction expecteds generalizing letters with
  | nil => rw [startsWithName, startsWithName]
  | cons expected expecteds inductionHypothesis =>
      rw [List.forall_mem_cons] at lettered
      cases letters with
      | nil =>
          have differs : matchesLetter expected stop = false := by
            by_contra matched
            exact stops (isFieldLetter_of_matchesLetter lettered.1
              (Bool.not_eq_false _ ▸ matched))
          rw [List.nil_append, List.nil_append, startsWithName, startsWithName, differs,
            Bool.false_and, Bool.false_and]
      | cons letter letters =>
          rw [List.cons_append, List.cons_append, startsWithName, startsWithName,
            inductionHypothesis lettered.2]

theorem length_le_of_startsWithName_stop {letters more : List Char} {stop : Char}
    (stops : ¬ IsFieldLetter stop)
    (starts : startsWithName name.1.toList (letters ++ stop :: more) = true) :
    name.1.toList.length ≤ letters.length := by
  by_contra longer
  rw [Nat.not_le] at longer
  refine stops (isFieldLetter_of_startsWithName lettered starts stop ?_)
  rw [List.take_append, List.mem_append]
  refine .inr ?_
  obtain ⟨extra, long⟩ : exists extra, name.1.toList.length - letters.length = extra + 1 :=
    ⟨name.1.toList.length - letters.length - 1, by omega⟩
  rw [long, List.take_succ_cons]
  exact List.mem_cons_self

theorem nameLength_congr {letters : List Char} {stop : Char} (stops : ¬ IsFieldLetter stop)
    (first second : List Char) :
    nameLength (letters ++ stop :: first) name = nameLength (letters ++ stop :: second) name := by
  rw [nameLength, nameLength, startsWithName_congr lettered stops first second]
  split
  · rename_i starts
    have inside : name.1.length ≤ letters.length := by
      rw [← String.length_toList]
      exact length_le_of_startsWithName_stop lettered stops starts
    rw [List.drop_append_of_le_length inside, List.drop_append_of_le_length inside,
      takeWhile_isNameLetter_stop stops, takeWhile_isNameLetter_stop stops]
  · rfl

/-- A name that is found has letters of names only, and begins with the expected ones. -/
theorem nameLength_eq_some {text : List Char} {length : Nat}
    (found : nameLength text name = some length) :
    length ≤ text.length ∧ startsWithName name.1.toList text = true ∧ name.1.length ≤ length ∧
      forall letter, letter ∈ text.take length -> IsFieldLetter letter := by
  rw [nameLength] at found
  split at found
  · rename_i starts
    have fits := length_le_of_startsWithName starts
    rw [String.length_toList] at fits
    have named : forall letter, letter ∈ text.take name.1.length -> IsFieldLetter letter := by
      rw [← String.length_toList]
      exact isFieldLetter_of_startsWithName lettered starts
    cases flagged : name.2 with
    | false =>
        rw [flagged, if_neg Bool.false_ne_true, Nat.add_zero, Option.some_inj] at found
        subst found
        exact ⟨fits, starts, le_refl _, named⟩
    | true =>
        rw [flagged, if_pos rfl, Option.some_inj] at found
        subst found
        have flag := List.takeWhile_prefix (p := isNameLetter) (l := text.drop name.1.length)
        have flagFits := flag.length_le
        rw [List.length_drop] at flagFits
        refine ⟨by omega, starts, Nat.le_add_right _ _, fun letter stands => ?_⟩
        rw [List.take_add, List.mem_append, List.prefix_iff_eq_take.mp flag |>.symm] at stands
        exact stands.elim (named letter)
          (fun flagLetter => isFieldLetter_of_isNameLetter (List.mem_takeWhile_imp flagLetter))
  · cases found

end Names

/-! ## Fields -/

/-- A field at the start of the text, in its parts. -/
structure FieldAt (pattern : FieldPattern) (text name gap : List Char) (separator : Char)
    (gap' value rest : List Char) : Prop where
  text_eq : text = name ++ (gap ++ separator :: (gap' ++ (value ++ rest)))
  found : pattern.names.findSome? (nameLength text) = some name.length
  blank : forall letter, letter ∈ gap -> isSpace letter = true
  separates : separator = '=' ∨ separator = ':'
  blank' : forall letter, letter ∈ gap' -> isSpace letter = true
  valued : value ≠ []
  solid : forall letter, letter ∈ value -> isValueLetter letter = true
  ends : EndsValue rest

theorem isSpace_of_separator {separator : Char} (separates : separator = '=' ∨ separator = ':') :
    isSpace separator = false := by
  rcases separates with rfl | rfl
  · decide
  · decide

theorem isSpace_of_isValueLetter {letter : Char} (solid : isValueLetter letter = true) :
    isSpace letter = false := by
  rw [isValueLetter, Bool.not_eq_true', Bool.or_eq_false_iff] at solid
  exact solid.1

theorem not_isFieldLetter_of_isSpace {letter : Char} (blank : isSpace letter = true) :
    ¬ IsFieldLetter letter := by
  intro named
  rw [isSpace_of_isValueLetter named.1] at blank
  cases blank

theorem not_isFieldLetter_of_separator {separator : Char}
    (separates : separator = '=' ∨ separator = ':') : ¬ IsFieldLetter separator :=
  fun named => separates.elim named.2.1 named.2.2

theorem dropWhile_append_stop {α : Type} {holds : α -> Bool} {run rest : List α}
    (all : forall item, item ∈ run -> holds item = true)
    (stops : forall item, item ∈ rest.head? -> holds item = false) :
    (run ++ rest).dropWhile holds = rest := by
  rw [List.dropWhile_append_of_pos all]
  cases rest with
  | nil => rfl
  | cons item rest => rw [List.dropWhile_cons_of_neg (by simp [stops item rfl])]

theorem takeWhile_append_stop {α : Type} {holds : α -> Bool} {run rest : List α}
    (all : forall item, item ∈ run -> holds item = true)
    (stops : forall item, item ∈ rest.head? -> holds item = false) :
    (run ++ rest).takeWhile holds = run := by
  rw [List.takeWhile_append_of_pos all]
  cases rest with
  | nil => exact List.append_nil run
  | cons item rest => rw [List.takeWhile_cons_of_neg (by simp [stops item rfl]), List.append_nil]

theorem head?_dropWhile_stop {α : Type} (holds : α -> Bool) (items : List α) :
    forall item, item ∈ (items.dropWhile holds).head? -> holds item = false := by
  intro item first
  have stopped := List.head?_dropWhile_not holds items
  rw [Option.mem_def.mp first] at stopped
  simpa using stopped

section Matches

variable {isAlnum : Char -> Bool} {pattern : FieldPattern} {previous : Option Char}

/-- A match is a field at the start of the text, where the boundary allows one. -/
theorem matchField_eq_some (plain : pattern.Plain) {text replacement : List Char} {length : Nat}
    (matched : matchField isAlnum pattern previous text = some (replacement, length)) :
    (pattern.boundary && previous.any (isWordLetter isAlnum)) = false ∧
      exists name gap separator gap' value rest,
        FieldAt pattern text name gap separator gap' value rest ∧
        replacement = name ++ separator :: redactedLetters ∧
        length = (name ++ (gap ++ separator :: (gap' ++ value))).length := by
  rw [matchField] at matched
  split at matched
  · cases matched
  · rename_i allowed
    refine ⟨Bool.eq_false_iff.mpr allowed, ?_⟩
    split at matched
    · cases matched
    · rename_i taken found
      obtain ⟨name, listed, foundName⟩ := List.exists_of_findSome?_eq_some found
      have fits := (nameLength_eq_some (plain.lettered name listed).2 foundName).1
      have takenLength : (text.take taken).length = taken := List.length_take_of_le fits
      split at matched
      · cases matched
      · rename_i separator after atSeparator
        dsimp only at matched
        split at matched
        · rename_i valued
          rw [Option.some_inj, Prod.mk.injEq] at matched
          have text_eq : text = text.take taken ++
              ((text.drop taken).takeWhile isSpace ++ separator :: (after.takeWhile isSpace ++
                ((after.dropWhile isSpace).takeWhile isValueLetter ++
                  (after.dropWhile isSpace).dropWhile isValueLetter))) := by
            rw [List.takeWhile_append_dropWhile, List.takeWhile_append_dropWhile, ← atSeparator,
              List.takeWhile_append_dropWhile, List.take_append_drop]
          refine ⟨text.take taken, (text.drop taken).takeWhile isSpace, separator,
            after.takeWhile isSpace, (after.dropWhile isSpace).takeWhile isValueLetter,
            (after.dropWhile isSpace).dropWhile isValueLetter,
            ⟨text_eq, takenLength.symm ▸ found, fun _ => List.mem_takeWhile_imp, valued.1,
              fun _ => List.mem_takeWhile_imp, valued.2, fun _ => List.mem_takeWhile_imp,
              head?_dropWhile_stop _ _⟩, matched.1.symm, ?_⟩
          have whole := congrArg List.length text_eq
          rw [← matched.2]
          simp only [List.length_append, List.length_cons] at whole ⊢
          omega
        · cases matched

theorem matchField_of_fieldAt {text name gap gap' value rest : List Char} {separator : Char}
    (allowed : (pattern.boundary && previous.any (isWordLetter isAlnum)) = false)
    (field : FieldAt pattern text name gap separator gap' value rest) :
    matchField isAlnum pattern previous text = some (name ++ separator :: redactedLetters,
      (name ++ (gap ++ separator :: (gap' ++ value))).length) := by
  obtain ⟨text_eq, found, blank, separates, blank', valued, solid, ends⟩ := field
  have named : text.take name.length = name := by rw [text_eq, List.take_left]
  have afterName : text.drop name.length = gap ++ separator :: (gap' ++ (value ++ rest)) := by
    rw [text_eq, List.drop_left]
  have atSeparator : (text.drop name.length).dropWhile isSpace =
      separator :: (gap' ++ (value ++ rest)) := by
    rw [afterName]
    refine dropWhile_append_stop blank fun letter first => ?_
    cases first
    exact isSpace_of_separator separates
  have atValue : (gap' ++ (value ++ rest)).dropWhile isSpace = value ++ rest := by
    refine dropWhile_append_stop blank' fun letter first => ?_
    cases value with
    | nil => exact absurd rfl valued
    | cons head value =>
        cases first
        exact isSpace_of_isValueLetter (solid _ List.mem_cons_self)
  have value_eq := takeWhile_append_stop solid ends
  have rest_eq := dropWhile_append_stop solid ends
  rw [matchField, allowed, if_neg Bool.false_ne_true, found]
  simp only [atSeparator, atValue, value_eq, rest_eq, named]
  rw [if_pos ⟨separates, valued⟩, text_eq]
  simp only [List.length_append, List.length_cons, redactedLetters]
  congr 2
  omega

end Matches

/-! ## Rewriting a text -/

theorem FieldAt.named {pattern : FieldPattern} (plain : pattern.Plain)
    {text name gap gap' value rest : List Char} {separator : Char}
    (field : FieldAt pattern text name gap separator gap' value rest) :
    name ≠ [] ∧ (forall letter, letter ∈ name -> IsFieldLetter letter) ∧
      exists listed, listed ∈ pattern.names ∧ startsWithName listed.1.toList text = true := by
  obtain ⟨listed, listedNamed, foundName⟩ := List.exists_of_findSome?_eq_some field.found
  obtain ⟨fits, starts, longer, letters⟩ :=
    nameLength_eq_some (plain.lettered listed listedNamed).2 foundName
  refine ⟨?_, ?_, listed, listedNamed, starts⟩
  · rintro rfl
    refine (plain.lettered listed listedNamed).1 (List.eq_nil_of_length_eq_zero ?_)
    rw [String.length_toList]
    exact Nat.le_zero.mp longer
  · rw [field.text_eq, List.take_left] at letters
    exact letters

/-- A field at the start of the text, if there is one, is in its redacted form. -/
def Settled (isAlnum : Char -> Bool) (pattern : FieldPattern) (previous : Option Char)
    (text : List Char) : Prop :=
  forall replacement length,
    matchField isAlnum pattern previous text = some (replacement, length) ->
      replacement = text.take length

/-- The letter before the rest when some letters have been passed over. -/
def passed : Nat -> Option Char -> List Char -> Option Char
  | 0, previous, _ => previous
  | _ + 1, previous, [] => previous
  | count + 1, _, letter :: rest => passed count (some letter) rest

/-- Every field of the text is in its redacted form, wherever it begins. -/
def Redacted (isAlnum : Char -> Bool) (pattern : FieldPattern) (previous : Option Char)
    (text : List Char) : Prop :=
  forall count, count < text.length ->
    Settled isAlnum pattern (passed count previous text) (text.drop count)

theorem redacted_nil (isAlnum : Char -> Bool) (pattern : FieldPattern) (previous : Option Char) :
    Redacted isAlnum pattern previous [] := by
  rintro count ⟨⟩

theorem redacted_cons {isAlnum : Char -> Bool} {pattern : FieldPattern} {previous : Option Char}
    {letter : Char} {rest : List Char} :
    Redacted isAlnum pattern previous (letter :: rest) ↔
      Settled isAlnum pattern previous (letter :: rest) ∧
        Redacted isAlnum pattern (some letter) rest := by
  constructor
  · intro redacted
    exact ⟨redacted 0 (Nat.succ_pos _),
      fun count inside => redacted (count + 1) (Nat.succ_lt_succ inside)⟩
  · rintro ⟨settled, later⟩ count inside
    cases count with
    | zero => exact settled
    | succ count => exact later count (Nat.lt_of_succ_lt_succ inside)

/-- A text and what becomes of it when letters are copied and fields of one expression are
replaced.  Where a letter is copied, the other expression finds redacted fields only. -/
inductive Rewritten (isAlnum : Char -> Bool) (pattern replaced : FieldPattern) :
    Option Char -> List Char -> List Char -> Prop where
  | done (previous : Option Char) : Rewritten isAlnum pattern replaced previous [] []
  | copy {previous : Option Char} {letter : Char} {text output : List Char}
      (settled : Settled isAlnum pattern previous (letter :: text))
      (later : Rewritten isAlnum pattern replaced (some letter) text output) :
      Rewritten isAlnum pattern replaced previous (letter :: text) (letter :: output)
  | field {previous after : Option Char} {text name gap gap' value rest output : List Char}
      {separator : Char} (field : FieldAt replaced text name gap separator gap' value rest)
      (later : Rewritten isAlnum pattern replaced after rest output) :
      Rewritten isAlnum pattern replaced previous text
        (name ++ separator :: (redactedLetters ++ output))

section Settling

variable {isAlnum : Char -> Bool} {pattern replaced : FieldPattern} {previous : Option Char}

theorem EndsValue.settled (plain : pattern.Plain) {text : List Char} (ends : EndsValue text) :
    Settled isAlnum pattern previous text := by
  intro replacement length matched
  obtain ⟨-, name, gap, separator, gap', value, rest, field, -⟩ :=
    matchField_eq_some plain matched
  obtain ⟨named, letters, -⟩ := field.named plain
  obtain ⟨first, name, rfl⟩ := List.exists_cons_of_ne_nil named
  have solid := (letters first List.mem_cons_self).1
  rw [ends first (by rw [field.text_eq]; rfl)] at solid
  cases solid

theorem redactedLetters_solid :
    forall letter, letter ∈ redactedLetters -> isValueLetter letter = true :=
  List.all_eq_true.mp (by decide +kernel)

theorem exists_cons_redactedLetters :
    exists rest, redactedLetters = '<' :: rest :=
  ⟨"redacted>".toList, by decide +kernel⟩

/-- Blanks and a value that spell the redacted value are no blanks and that value. -/
theorem blank_append_eq_redacted {gap value : List Char}
    (blank : forall letter, letter ∈ gap -> isSpace letter = true)
    (spelled : gap ++ value = redactedLetters) : gap = [] ∧ value = redactedLetters := by
  cases gap with
  | nil => exact ⟨rfl, spelled⟩
  | cons letter gap =>
      have solid := redactedLetters_solid letter (spelled ▸ List.mem_cons_self)
      have blankLetter := blank letter List.mem_cons_self
      rw [isSpace_of_isValueLetter solid] at blankLetter
      cases blankLetter

/-- A separator and the redacted value after blanks: there were no blanks. -/
theorem separated_eq_redacted {gap gap' value : List Char} {separator separator' : Char}
    (blank : forall letter, letter ∈ gap -> isSpace letter = true)
    (separates : separator' = '=' ∨ separator' = ':')
    (blank' : forall letter, letter ∈ gap' -> isSpace letter = true)
    (spelled : gap ++ separator :: (gap' ++ value) = separator' :: redactedLetters) :
    gap = [] ∧ separator = separator' ∧ gap' = [] ∧ value = redactedLetters := by
  cases gap with
  | nil =>
      rw [List.nil_append, List.cons.injEq] at spelled
      exact ⟨rfl, spelled.1, blank_append_eq_redacted blank' spelled.2⟩
  | cons letter gap =>
      rw [List.cons_append, List.cons.injEq] at spelled
      have blankLetter := blank letter List.mem_cons_self
      rw [spelled.1, isSpace_of_separator separates] at blankLetter
      cases blankLetter

theorem FieldAt.take {text name gap gap' value rest : List Char} {separator : Char}
    (field : FieldAt pattern text name gap separator gap' value rest) :
    text.take (name ++ (gap ++ separator :: (gap' ++ value))).length =
      name ++ (gap ++ separator :: (gap' ++ value)) := by
  have regrouped : text = (name ++ (gap ++ separator :: (gap' ++ value))) ++ rest := by
    rw [field.text_eq]
    simp
  rw [regrouped, List.take_left]

theorem settled_iff (plain : pattern.Plain) (text : List Char) :
    Settled isAlnum pattern previous text ↔
      ((pattern.boundary && previous.any (isWordLetter isAlnum)) = false ->
        forall name gap separator gap' value rest,
          FieldAt pattern text name gap separator gap' value rest ->
            gap = [] ∧ gap' = [] ∧ value = redactedLetters) := by
  constructor
  · intro settled allowed name gap separator gap' value rest field
    have redacted := settled _ _ (matchField_of_fieldAt allowed field)
    rw [field.take, List.append_cancel_left_eq] at redacted
    obtain ⟨noGap, -, noGap', value_eq⟩ :=
      separated_eq_redacted field.blank field.separates field.blank' redacted.symm
    exact ⟨noGap, noGap', value_eq⟩
  · intro redacted replacement length matched
    obtain ⟨allowed, name, gap, separator, gap', value, rest, field, rfl, rfl⟩ :=
      matchField_eq_some plain matched
    obtain ⟨rfl, rfl, rfl⟩ := redacted allowed name gap separator gap' value rest field
    exact field.take.symm

/-- Two runs of letters before what can be no such letter are one run. -/
theorem run_eq {α : Type} {holds : α -> Prop} {run run' : List α} {stop stop' : α}
    {rest rest' : List α} (all : forall item, item ∈ run -> holds item)
    (all' : forall item, item ∈ run' -> holds item) (stops : ¬ holds stop)
    (stops' : ¬ holds stop') (same : run ++ stop :: rest = run' ++ stop' :: rest') :
    run = run' ∧ stop :: rest = stop' :: rest' := by
  induction run generalizing run' with
  | nil =>
      cases run' with
      | nil => exact ⟨rfl, same⟩
      | cons item run' =>
          rw [List.nil_append, List.cons_append, List.cons.injEq] at same
          exact absurd (all' item List.mem_cons_self) (same.1 ▸ stops)
  | cons item run inductionHypothesis =>
      rw [List.forall_mem_cons] at all
      cases run' with
      | nil =>
          rw [List.nil_append, List.cons_append, List.cons.injEq] at same
          exact absurd all.1 (same.1 ▸ stops')
      | cons item' run' =>
          rw [List.forall_mem_cons] at all'
          rw [List.cons_append, List.cons_append, List.cons.injEq] at same
          obtain ⟨equal, later⟩ := inductionHypothesis all.2 all'.2 same.2
          exact ⟨by rw [same.1, equal], later⟩

/-- A field whose name ends where a redacted field has its separator is that field. -/
theorem settled_of_letters (plain : pattern.Plain) {letters rest : List Char} {separator : Char}
    (named : forall letter, letter ∈ letters -> IsFieldLetter letter)
    (separates : separator = '=' ∨ separator = ':') (ends : EndsValue rest) :
    Settled isAlnum pattern previous (letters ++ separator :: (redactedLetters ++ rest)) := by
  refine (settled_iff plain _).mpr fun _ name gap separator' gap' value rest' field => ?_
  obtain ⟨-, nameLetters, -⟩ := field.named plain
  obtain ⟨stop, more, begins, stops⟩ : exists stop more,
      gap ++ separator' :: (gap' ++ (value ++ rest')) = stop :: more ∧ ¬ IsFieldLetter stop := by
    cases gap with
    | nil => exact ⟨_, _, rfl, not_isFieldLetter_of_separator field.separates⟩
    | cons letter gap =>
        exact ⟨_, _, rfl, not_isFieldLetter_of_isSpace (field.blank letter List.mem_cons_self)⟩
  have text_eq := field.text_eq
  rw [begins] at text_eq
  obtain ⟨rfl, after⟩ := run_eq named nameLetters (not_isFieldLetter_of_separator separates)
    stops text_eq
  rw [← begins] at after
  cases gap with
  | cons letter gap =>
      rw [List.cons_append, List.cons.injEq] at after
      have blankLetter := field.blank letter List.mem_cons_self
      rw [← after.1, isSpace_of_separator separates] at blankLetter
      cases blankLetter
  | nil =>
      rw [List.nil_append, List.cons.injEq] at after
      cases gap' with
      | cons letter gap' =>
          obtain ⟨tail, redacted_eq⟩ := exists_cons_redactedLetters
          rw [redacted_eq, List.cons_append, List.cons_append, List.cons.injEq] at after
          have blankLetter := field.blank' letter List.mem_cons_self
          rw [← after.2.1] at blankLetter
          exact absurd blankLetter (by decide)
      | nil =>
          have run := congrArg (List.takeWhile isValueLetter) after.2
          rw [takeWhile_append_stop redactedLetters_solid ends, List.nil_append,
            takeWhile_append_stop field.solid field.ends] at run
          exact ⟨rfl, rfl, run.symm⟩

end Settling

/-! ## What stands in a rewritten text -/

section Rewriting

variable {isAlnum : Char -> Bool} {pattern replaced : FieldPattern} {previous : Option Char}

theorem Rewritten.endsValue (plain : replaced.Plain) {text output : List Char}
    (rewritten : Rewritten isAlnum pattern replaced previous text output) :
    EndsValue output ↔ EndsValue text := by
  cases rewritten with
  | done => rfl
  | copy => rfl
  | field field =>
      obtain ⟨named, letters, -⟩ := field.named plain
      obtain ⟨first, name, rfl⟩ := List.exists_cons_of_ne_nil named
      rw [field.text_eq]
      rfl

/-- A stretch at the start of the result was copied, or a field was put there that begins
inside it. -/
theorem Rewritten.split (plain : replaced.Plain) {stretch after text : List Char}
    (rewritten : Rewritten isAlnum pattern replaced previous text (stretch ++ after)) :
    (exists left later, text = stretch ++ later ∧
        (stretch ≠ [] -> Settled isAlnum pattern previous text) ∧
        Rewritten isAlnum pattern replaced left later after) ∨
      exists before inside name separator rest, stretch = before ++ inside ∧ inside ≠ [] ∧
        inside ++ after = name ++ separator :: (redactedLetters ++ rest) ∧ name ≠ [] ∧
        (forall letter, letter ∈ name -> IsFieldLetter letter) ∧
        (separator = '=' ∨ separator = ':') ∧ EndsValue rest := by
  induction stretch generalizing previous text with
  | nil => exact .inl ⟨previous, text, rfl, fun filled => absurd rfl filled, rewritten⟩
  | cons letter stretch inductionHypothesis =>
      generalize whole : letter :: stretch ++ after = output at rewritten
      cases rewritten with
      | done => cases whole
      | copy settled later =>
          rw [List.cons_append, List.cons.injEq] at whole
          obtain ⟨rfl, rfl⟩ := whole
          rcases inductionHypothesis later with copied | ⟨before, inside, parts⟩
          · obtain ⟨left, remaining, rfl, -, later⟩ := copied
            exact .inl ⟨left, remaining, rfl, fun _ => settled, later⟩
          · refine .inr ⟨letter :: before, inside, ?_⟩
            simpa using parts
      | field field later =>
          obtain ⟨named, letters, -⟩ := field.named plain
          exact .inr ⟨[], letter :: stretch, _, _, _, rfl, List.cons_ne_nil _ _, whole, named,
            letters, field.separates, (later.endsValue plain).mpr field.ends⟩

/-- No field begins inside a redacted value, so that it is copied as a whole. -/
theorem Rewritten.redacted_kept (plain : replaced.Plain) {stretch text output : List Char}
    (suffix : stretch <:+ redactedLetters)
    (rewritten : Rewritten isAlnum pattern replaced previous (stretch ++ text) output) :
    exists left later, output = stretch ++ later ∧
      Rewritten isAlnum pattern replaced left text later := by
  induction stretch generalizing previous output with
  | nil => exact ⟨previous, output, rfl, rewritten⟩
  | cons letter stretch inductionHypothesis =>
      generalize whole : letter :: stretch ++ text = original at rewritten
      cases rewritten with
      | done => cases whole
      | copy settled later =>
          rw [List.cons_append, List.cons.injEq] at whole
          obtain ⟨rfl, rfl⟩ := whole
          obtain ⟨left, remaining, rfl, kept⟩ :=
            inductionHypothesis ((List.suffix_cons letter stretch).trans suffix) later
          exact ⟨left, remaining, rfl, kept⟩
      | field field later =>
          obtain ⟨-, -, listed, listedNamed, starts⟩ := field.named plain
          have parts := plain.parts listed listedNamed (letter :: stretch)
            ((List.mem_tails _ _).mpr suffix) (List.cons_ne_nil _ _)
          rw [← whole, startsWithName_of_partsFrom parts] at starts
          cases starts

theorem findSome?_nameLength_congr (plain : pattern.Plain) {letters : List Char} {stop : Char}
    (stops : ¬ IsFieldLetter stop) (first second : List Char) :
    pattern.names.findSome? (nameLength (letters ++ stop :: first)) =
      pattern.names.findSome? (nameLength (letters ++ stop :: second)) := by
  have same : forall name, name ∈ pattern.names ->
      nameLength (letters ++ stop :: first) name = nameLength (letters ++ stop :: second) name :=
    fun name listed => nameLength_congr (plain.lettered name listed).2 stops first second
  generalize pattern.names = names at same
  induction names with
  | nil => rfl
  | cons name names inductionHypothesis =>
      rw [List.forall_mem_cons] at same
      rw [List.findSome?_cons, List.findSome?_cons, same.1, inductionHypothesis same.2]

/-- What stands between a name and a value has no letters of names. -/
theorem FieldAt.between {text name gap gap' value rest : List Char} {separator : Char}
    (field : FieldAt pattern text name gap separator gap' value rest) :
    forall letter, letter ∈ gap ++ separator :: gap' -> ¬ IsFieldLetter letter := by
  intro letter stands
  rcases List.mem_append.mp stands with inGap | inRest
  · exact not_isFieldLetter_of_isSpace (field.blank letter inGap)
  · rcases List.mem_cons.mp inRest with rfl | inGap'
    · exact not_isFieldLetter_of_separator field.separates
    · exact not_isFieldLetter_of_isSpace (field.blank' letter inGap')

/-- The same name, with the same letters up to the value, begins a field in front of any
text that begins with a value. -/
theorem FieldAt.transfer (plain : pattern.Plain)
    {text name gap gap' value rest later : List Char} {separator : Char}
    (field : FieldAt pattern text name gap separator gap' value rest)
    (goesOn : ¬ EndsValue later) :
    FieldAt pattern (name ++ ((gap ++ separator :: gap') ++ later)) name gap separator gap'
      (later.takeWhile isValueLetter) (later.dropWhile isValueLetter) where
  text_eq := by simp [List.takeWhile_append_dropWhile]
  found := by
    have regrouped : text = name ++ ((gap ++ separator :: gap') ++ (value ++ rest)) := by
      rw [field.text_eq]
      simp
    obtain ⟨stop, more, between_eq⟩ : exists stop more,
        gap ++ separator :: gap' = stop :: more :=
      List.exists_cons_of_ne_nil (by simp)
    have stops := field.between stop (between_eq ▸ List.mem_cons_self)
    rw [← field.found, regrouped, between_eq]
    exact findSome?_nameLength_congr plain stops _ _
  blank := field.blank
  separates := field.separates
  blank' := field.blank'
  valued := by
    intro empty
    refine goesOn fun letter first => ?_
    cases later with
    | nil => cases first
    | cons head later =>
        cases first
        by_contra solid
        rw [List.takeWhile_cons_of_pos (Bool.not_eq_false _ ▸ solid)] at empty
        cases empty
  solid := fun _ => List.mem_takeWhile_imp
  ends := head?_dropWhile_stop _ _

theorem FieldAt.not_endsValue {text name gap gap' value rest : List Char} {separator : Char}
    (field : FieldAt pattern text name gap separator gap' value rest) :
    ¬ EndsValue (value ++ rest) := by
  obtain ⟨head, tail, rfl⟩ := List.exists_cons_of_ne_nil field.valued
  intro ends
  have solid := field.solid head List.mem_cons_self
  rw [ends head rfl] at solid
  cases solid

/-- A field that stands in the result is in its redacted form. -/
theorem Rewritten.settled (plain : pattern.Plain) (plain' : replaced.Plain)
    {text output : List Char}
    (rewritten : Rewritten isAlnum pattern replaced previous text output) :
    Settled isAlnum pattern previous output := by
  refine (settled_iff plain _).mpr fun allowed name gap separator gap' value rest field => ?_
  obtain ⟨named, nameLetters, -⟩ := field.named plain
  have whole := field.text_eq
  have regrouped : gap ++ separator :: (gap' ++ (value ++ rest)) =
      (gap ++ separator :: gap') ++ (value ++ rest) := by simp
  rw [whole] at rewritten
  rcases rewritten.split plain' with ⟨left, later, rfl, settled, copied⟩ |
    ⟨before, inside, other, separator', rest', rfl, -, spelled, -, letters, separates, ends⟩
  · -- The name was copied, and so was what stands before the value.
    rw [regrouped] at copied
    rcases copied.split plain' with ⟨left', later', rfl, -, copied'⟩ |
      ⟨before, inside, other, separator', rest', between_eq, filled, spelled, otherNamed, letters, -⟩
    · have goesOn := (not_congr (copied'.endsValue plain')).mp field.not_endsValue
      obtain ⟨noGap, noGap', redacted⟩ := (settled_iff plain _).mp (settled named) allowed
        name gap separator gap' _ _ (field.transfer plain goesOn)
      refine ⟨noGap, noGap', ?_⟩
      rw [← List.takeWhile_append_dropWhile (p := isValueLetter) (l := later'), redacted]
        at copied'
      obtain ⟨left'', later'', value_eq, kept⟩ :=
        copied'.redacted_kept plain' (List.suffix_refl _)
      have ends := (kept.endsValue plain').mpr (head?_dropWhile_stop _ _)
      have run := congrArg (List.takeWhile isValueLetter) value_eq
      rwa [takeWhile_append_stop field.solid field.ends,
        takeWhile_append_stop redactedLetters_solid ends] at run
    · -- No field begins where there are no letters of names.
      obtain ⟨first, inside, rfl⟩ := List.exists_cons_of_ne_nil filled
      obtain ⟨first', other, rfl⟩ := List.exists_cons_of_ne_nil otherNamed
      rw [List.cons_append, List.cons_append, List.cons.injEq] at spelled
      have apart := field.between first (by rw [between_eq]; simp)
      exact absurd (spelled.1 ▸ letters first' List.mem_cons_self) apart
  · -- The name goes on into a field that was put there.
    have named' : forall letter, letter ∈ before ++ other -> IsFieldLetter letter := by
      intro letter stands
      rcases List.mem_append.mp stands with inBefore | inOther
      · exact nameLetters letter (List.mem_append_left _ inBefore)
      · exact letters letter inOther
    have output_eq : output = (before ++ other) ++ separator' :: (redactedLetters ++ rest') := by
      rw [whole, List.append_assoc, spelled, List.append_assoc]
    have settled : Settled isAlnum pattern previous output := by
      rw [output_eq]
      exact settled_of_letters plain named' separates ends
    exact (settled_iff plain _).mp settled allowed _ _ _ _ _ _ field

/-- Where no value goes on, what stands before does not matter. -/
theorem Redacted.of_endsValue (plain : pattern.Plain) {other : Option Char} {text : List Char}
    (ends : EndsValue text) (redacted : Redacted isAlnum pattern previous text) :
    Redacted isAlnum pattern other text := by
  cases text with
  | nil => exact redacted_nil _ _ _
  | cons letter rest =>
      exact redacted_cons.mpr ⟨ends.settled plain, (redacted_cons.mp redacted).2⟩

theorem redacted_redactedLetters (plain : pattern.Plain) {stretch rest : List Char}
    (suffix : stretch <:+ redactedLetters) (ends : EndsValue rest) {other : Option Char}
    (redacted : Redacted isAlnum pattern other rest) :
    Redacted isAlnum pattern previous (stretch ++ rest) := by
  induction stretch generalizing previous with
  | nil => exact redacted.of_endsValue plain ends
  | cons letter stretch inductionHypothesis =>
      refine redacted_cons.mpr
        ⟨(settled_iff plain _).mpr fun _ name gap separator gap' value rest' field => ?_,
          inductionHypothesis ((List.suffix_cons letter stretch).trans suffix)⟩
      obtain ⟨-, -, listed, listedNamed, starts⟩ := field.named plain
      have parts := plain.parts listed listedNamed (letter :: stretch)
        ((List.mem_tails _ _).mpr suffix) (List.cons_ne_nil _ _)
      have differs := startsWithName_of_partsFrom parts rest
      rw [List.cons_append] at differs
      exact absurd (differs.symm.trans starts) Bool.false_ne_true

theorem redacted_field (plain : pattern.Plain) {letters rest : List Char} {separator : Char}
    (named : forall letter, letter ∈ letters -> IsFieldLetter letter)
    (separates : separator = '=' ∨ separator = ':') (ends : EndsValue rest) {other : Option Char}
    (redacted : Redacted isAlnum pattern other rest) :
    Redacted isAlnum pattern previous (letters ++ separator :: (redactedLetters ++ rest)) := by
  induction letters generalizing previous with
  | nil =>
      exact redacted_cons.mpr ⟨settled_of_letters plain named separates ends,
        redacted_redactedLetters plain (List.suffix_refl _) ends redacted⟩
  | cons letter letters inductionHypothesis =>
      exact redacted_cons.mpr ⟨settled_of_letters plain named separates ends,
        inductionHypothesis (List.forall_mem_cons.mp named).2⟩

theorem Rewritten.redacted (plain : pattern.Plain) (plain' : replaced.Plain)
    {text output : List Char}
    (rewritten : Rewritten isAlnum pattern replaced previous text output) :
    Redacted isAlnum pattern previous output := by
  induction rewritten with
  | done => exact redacted_nil _ _ _
  | copy settled later inductionHypothesis =>
      exact redacted_cons.mpr
        ⟨(Rewritten.copy settled later).settled plain plain', inductionHypothesis⟩
  | field field later inductionHypothesis =>
      obtain ⟨-, letters, -⟩ := field.named plain'
      exact redacted_field plain letters field.separates
        ((later.endsValue plain').mpr field.ends) inductionHypothesis

/-! ## The substitution is such a rewriting -/

theorem substitute_passed (count : Nat) (text : List Char) :
    substitute isAlnum pattern count previous text =
      substitute isAlnum pattern 0 (passed count previous text) (text.drop count) := by
  induction text generalizing count previous with
  | nil => rw [List.drop_nil, substitute, substitute]
  | cons letter rest inductionHypothesis =>
      cases count with
      | zero => rw [passed, List.drop_zero]
      | succ count => rw [substitute, List.drop_succ_cons, passed, inductionHypothesis]

theorem Redacted.drop {text : List Char} (redacted : Redacted isAlnum pattern previous text)
    (count : Nat) :
    Redacted isAlnum pattern (passed count previous text) (text.drop count) := by
  induction text generalizing count previous with
  | nil => rw [List.drop_nil]; exact redacted_nil _ _ _
  | cons letter rest inductionHypothesis =>
      cases count with
      | zero => rwa [passed, List.drop_zero]
      | succ count => exact inductionHypothesis (redacted_cons.mp redacted).2 count

/-- What is after the field when its letters have been passed over, the first already. -/
theorem FieldAt.drop {first : Char} {text name gap gap' value rest : List Char} {separator : Char}
    (plain : pattern.Plain)
    (field : FieldAt pattern (first :: text) name gap separator gap' value rest) :
    text.drop ((name ++ (gap ++ separator :: (gap' ++ value))).length - 1) = rest ∧
      rest.length ≤ text.length := by
  obtain ⟨named, -⟩ := field.named plain
  obtain ⟨first', name, rfl⟩ := List.exists_cons_of_ne_nil named
  have text_eq : text = (name ++ (gap ++ separator :: (gap' ++ value))) ++ rest := by
    have whole := field.text_eq
    rw [List.cons_append, List.cons.injEq] at whole
    rw [whole.2]
    simp
  rw [List.cons_append, List.length_cons, Nat.add_sub_cancel]
  refine ⟨by rw [text_eq, List.drop_left], ?_⟩
  rw [text_eq, List.length_append]
  exact Nat.le_add_left _ _

theorem rewritten_substitute (plain' : replaced.Plain) (text : List Char)
    (before : pattern = replaced ∨ Redacted isAlnum pattern previous text) :
    Rewritten isAlnum pattern replaced previous text
      (substitute isAlnum replaced 0 previous text) := by
  induction length_eq : text.length using Nat.strong_induction_on generalizing previous text with
  | _ length inductionHypothesis =>
      subst length_eq
      cases text with
      | nil => exact .done previous
      | cons letter rest =>
          rw [substitute]
          cases matched : matchField isAlnum replaced previous (letter :: rest) with
          | none =>
              refine .copy ?_ (inductionHypothesis rest.length (Nat.lt_succ_self _) rest
                (before.imp id fun redacted => (redacted_cons.mp redacted).2) rfl)
              rcases before with rfl | redacted
              · intro replacement length found
                rw [matched] at found
                cases found
              · exact (redacted_cons.mp redacted).1
          | some found =>
              obtain ⟨replacement, length⟩ := found
              obtain ⟨-, name, gap, separator, gap', value, after, field, rfl, rfl⟩ :=
                matchField_eq_some plain' matched
              obtain ⟨drop_eq, shorter⟩ := field.drop plain'
              dsimp only
              rw [substitute_passed, drop_eq, List.append_assoc, List.cons_append]
              refine .field field (inductionHypothesis after.length (Nat.lt_succ_of_le shorter)
                after (before.imp id fun redacted => ?_) rfl)
              rw [← drop_eq]
              exact (redacted_cons.mp redacted).2.drop _

/-- A text whose fields are redacted is left as it is. -/
theorem Redacted.substitute_eq (plain : pattern.Plain) {text : List Char}
    (redacted : Redacted isAlnum pattern previous text) :
    substitute isAlnum pattern 0 previous text = text := by
  induction length_eq : text.length using Nat.strong_induction_on generalizing previous text with
  | _ length inductionHypothesis =>
      subst length_eq
      cases text with
      | nil => rfl
      | cons letter rest =>
          rw [substitute]
          cases matched : matchField isAlnum pattern previous (letter :: rest) with
          | none =>
              dsimp only
              rw [inductionHypothesis rest.length (Nat.lt_succ_self _) (redacted_cons.mp redacted).2 rfl]
          | some found =>
              obtain ⟨replacement, length⟩ := found
              have replacement_eq := (redacted_cons.mp redacted).1 _ _ matched
              obtain ⟨-, name, gap, separator, gap', value, after, field, -, rfl⟩ :=
                matchField_eq_some plain matched
              obtain ⟨drop_eq, shorter⟩ := field.drop plain
              have later := (redacted_cons.mp redacted).2.drop
                ((name ++ (gap ++ separator :: (gap' ++ value))).length - 1)
              rw [drop_eq] at later
              dsimp only
              rw [substitute_passed, drop_eq,
                inductionHypothesis after.length (Nat.lt_succ_of_le shorter) later rfl,
                replacement_eq, field.take, field.text_eq]
              simp

end Rewriting

section Sanitized

variable (isAlnum : Char -> Bool)

/-- What one of the three expressions leaves, and what another one leaves of that. -/
theorem FieldPattern.redacted_sub {pattern replaced : FieldPattern}
    (listed : pattern ∈ fieldPatterns) (listed' : replaced ∈ fieldPatterns) {message : String}
    (before : pattern = replaced ∨ Redacted isAlnum pattern none message.toList) :
    Redacted isAlnum pattern none (replaced.sub isAlnum message).toList := by
  have plain := plain_of_mem_fieldPatterns listed
  have plain' := plain_of_mem_fieldPatterns listed'
  rw [FieldPattern.sub, String.toList_ofList]
  exact (rewritten_substitute plain' message.toList before).redacted plain plain'

theorem FieldPattern.sub_of_redacted {pattern : FieldPattern} (listed : pattern ∈ fieldPatterns)
    {message : String} (redacted : Redacted isAlnum pattern none message.toList) :
    pattern.sub isAlnum message = message := by
  rw [FieldPattern.sub, redacted.substitute_eq (plain_of_mem_fieldPatterns listed),
    String.ofList_toList]

theorem sanitizeText_eq (message : String) :
    sanitizeText isAlnum message = IDENTITY_FIELD_PATTERN.sub isAlnum
      (TOKEN_FIELD_PATTERN.sub isAlnum (PASSWORD_FIELD_PATTERN.sub isAlnum message)) :=
  rfl

theorem redacted_sanitizeText (message : String) {pattern : FieldPattern}
    (listed : pattern ∈ fieldPatterns) :
    Redacted isAlnum pattern none (sanitizeText isAlnum message).toList := by
  have password : PASSWORD_FIELD_PATTERN ∈ fieldPatterns := List.mem_cons_self
  have token : TOKEN_FIELD_PATTERN ∈ fieldPatterns := List.mem_cons_of_mem _ List.mem_cons_self
  have identity : IDENTITY_FIELD_PATTERN ∈ fieldPatterns :=
    List.mem_cons_of_mem _ (List.mem_cons_of_mem _ List.mem_cons_self)
  have patterns : pattern = PASSWORD_FIELD_PATTERN ∨ pattern = TOKEN_FIELD_PATTERN ∨
      pattern = IDENTITY_FIELD_PATTERN := by
    simpa only [fieldPatterns, List.mem_cons, List.not_mem_nil, or_false] using listed
  rw [sanitizeText_eq]
  refine FieldPattern.redacted_sub isAlnum listed identity ?_
  rcases patterns with isPassword | isToken | isIdentity
  · exact .inr (FieldPattern.redacted_sub isAlnum listed token (.inr
      (FieldPattern.redacted_sub isAlnum listed password (.inl isPassword))))
  · exact .inr (FieldPattern.redacted_sub isAlnum listed token (.inl isToken))
  · exact .inl isIdentity

theorem sanitizeText_of_redacted {message : String}
    (redacted : forall pattern, pattern ∈ fieldPatterns ->
      Redacted isAlnum pattern none message.toList) :
    sanitizeText isAlnum message = message := by
  have unchanged : forall pattern, pattern ∈ fieldPatterns ->
      pattern.sub isAlnum message = message :=
    fun pattern listed => FieldPattern.sub_of_redacted isAlnum listed (redacted pattern listed)
  rw [sanitizeText_eq, unchanged _ List.mem_cons_self,
    unchanged _ (List.mem_cons_of_mem _ List.mem_cons_self),
    unchanged _ (List.mem_cons_of_mem _ (List.mem_cons_of_mem _ List.mem_cons_self))]

theorem sanitizeText_sanitizeText (message : String) :
    sanitizeText isAlnum (sanitizeText isAlnum message) = sanitizeText isAlnum message :=
  sanitizeText_of_redacted isAlnum fun _ => redacted_sanitizeText isAlnum message

theorem redacted_REDACTED_VALUE {pattern : FieldPattern} (listed : pattern ∈ fieldPatterns) :
    Redacted isAlnum pattern none REDACTED_VALUE.toList := by
  have nothing : EndsValue [] := by rintro letter ⟨⟩
  have alone : Redacted isAlnum pattern none (redactedLetters ++ []) :=
    redacted_redactedLetters (plain_of_mem_fieldPatterns listed)
      (List.suffix_refl redactedLetters) nothing (redacted_nil isAlnum pattern none)
  rwa [List.append_nil] at alone

/-- In every text of a sanitized value, whatever the value was and wherever in it the text
stands, each field that one of the expressions finds is in its redacted form.  Sanitizing
the value once more does not change it. -/
theorem sanitizeValue_redacted (value : Json) :
    (forall path message, Json.at? path (sanitizeValue isAlnum value) = some (.str message) ->
      forall pattern, pattern ∈ fieldPatterns -> Redacted isAlnum pattern none message.toList) ∧
    sanitizeValue isAlnum (sanitizeValue isAlnum value) = sanitizeValue isAlnum value := by
  refine ⟨fun path message leads pattern listed => ?_,
    Json.redact_redact (sanitizeText_sanitizeText isAlnum) value⟩
  rcases Json.text_of_at?_redact path value leads with rfl | ⟨original, rfl⟩
  · exact redacted_REDACTED_VALUE isAlnum listed
  · exact redacted_sanitizeText isAlnum original listed

end Sanitized

end Dashboard
end PetlibroRelay
