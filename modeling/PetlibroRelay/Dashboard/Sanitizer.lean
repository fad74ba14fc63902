import Mathlib.Data.List.Infix
import PetlibroRelay.Foundations.Redaction

namespace PetlibroRelay
namespace Dashboard

open Foundations

/-!
# Central redaction

Values that must never leave the process are redacted before a response is sent:
what stands under keys that may carry a secret, and fields that look like secrets
inside texts.

The three expressions for fields in texts have one shape, and none of their parts
can begin where the part before it could have gone on.  A match is therefore
found without backtracking.  Which characters are letters or digits, in all
scripts, is a parameter.
-/

def REDACTED_VALUE : String := "<redacted>"

/-! ## Keys -/

/-- The lower case of a letter, where it has an ASCII letter.  No other letter can stand
in the names that keys are compared with. -/
def lowerLetter (letter : Char) : List Char :=
  if letter = Char.ofNat 0x212A then ['k']
  else if letter = Char.ofNat 0x130 then ['i', Char.ofNat 0x307]
  else [letter.toLower]

def lower (key : String) : List Char := key.toList.flatMap lowerLetter

/-- Whether one of the fragments stands in the text. -/
def hasFragment (fragments : List String) (text : List Char) : Bool :=
  fragments.any (fun fragment => decide (fragment.toList <:+: text))

/-- Whether a JSON property name may carry a secret. -/
def isSensitiveKey (key : String) : Bool :=
  let normalized := lower key
  ["username", "user", "uuid", "uid", "mqttaddr", "httpsaddr", "internalurl"].any
      (fun name => decide (normalized = name.toList)) ||
    hasFragment ["password", "secret", "authorization", "token", "credential", "tutk", "kalay"]
      normalized

/-- Whether a field of a diagnostic service payload must be redacted. -/
def isUpstreamServiceSensitiveKey (key : String) : Bool :=
  let normalized := lower key
  ["username", "user"].any (fun name => decide (normalized = name.toList)) ||
    hasFragment ["password", "secret", "authorization", "token", "credential", "tutk", "kalay"]
      normalized

/-- Redact sensitive values at any depth of a service payload that is logged. -/
def sanitizeUpstreamServicePayload : Json -> Json :=
  Json.redact isUpstreamServiceSensitiveKey (.str REDACTED_VALUE) (fun value => value)

/-! ## Fields in texts -/

/-- An expression for a field: one of the names, a separator, and a value that is not
blank.  With a boundary, no word may end where the name begins.  A name with a flag is
followed by any letters, digits and underscores. -/
structure FieldPattern where
  boundary : Bool
  names : List (String × Bool)

def PASSWORD_FIELD_PATTERN : FieldPattern := ⟨false, [("password", false), ("secret", false)]⟩

def TOKEN_FIELD_PATTERN : FieldPattern := ⟨false, [("authorization", false), ("token", false)]⟩

def IDENTITY_FIELD_PATTERN : FieldPattern :=
  ⟨true, [("uuid", false), ("uid", false), ("tutk", true), ("kalay", true)]⟩

/-- The letters beside the ASCII ones that match an ASCII letter when case is ignored. -/
def caseVariants : List (Char × Char) :=
  [('k', Char.ofNat 0x212A), ('s', Char.ofNat 0x17F), ('i', Char.ofNat 0x130),
    ('i', Char.ofNat 0x131)]

def matchesLetter (expected letter : Char) : Bool :=
  decide (letter.toLower = expected) || decide ((expected, letter) ∈ caseVariants)

def isNameLetter (letter : Char) : Bool :=
  letter.isAlphanum || decide (letter = '_') || caseVariants.any (fun pair => letter == pair.2)

def isSpace (letter : Char) : Bool :=
  let code := letter.toNat
  decide (0x09 ≤ code ∧ code ≤ 0x0D) || decide (0x1C ≤ code ∧ code ≤ 0x20) ||
    decide (0x2000 ≤ code ∧ code ≤ 0x200A) ||
      decide (code ∈ [0x85, 0xA0, 0x1680, 0x2028, 0x2029, 0x202F, 0x205F, 0x3000])

def isValueLetter (letter : Char) : Bool :=
  !(isSpace letter || decide (letter ∈ [',', '}', ']']))

def startsWithName : List Char -> List Char -> Bool
  | [], _ => true
  | _ :: _, [] => false
  | expected :: name, letter :: text => matchesLetter expected letter && startsWithName name text

/-- The length of a name at the start of the text. -/
def nameLength (text : List Char) (name : String × Bool) : Option Nat :=
  if startsWithName name.1.toList text then
    some (name.1.length +
      if name.2 then ((text.drop name.1.length).takeWhile isNameLetter).length else 0)
  else none

section Texts

variable (isAlnum : Char -> Bool)

def isWordLetter (letter : Char) : Bool := isAlnum letter || decide (letter = '_')

/-- A field at the start of the text: what replaces it, and its length. -/
def matchField (pattern : FieldPattern) (previous : Option Char) (text : List Char) :
    Option (List Char × Nat) :=
  if pattern.boundary && previous.any (isWordLetter isAlnum) then none
  else
    match pattern.names.findSome? (nameLength text) with
    | none => none
    | some length =>
        match (text.drop length).dropWhile isSpace with
        | [] => none
        | separator :: afterSeparator =>
            let value := afterSeparator.dropWhile isSpace
            if (separator = '=' ∨ separator = ':') ∧ value.takeWhile isValueLetter ≠ [] then
              some (text.take length ++ separator :: REDACTED_VALUE.toList,
                text.length - (value.dropWhile isValueLetter).length)
            else none

/-- The text with its fields redacted, from the left.  The number counts the characters of
a field that are still to be passed over. -/
def substitute (pattern : FieldPattern) : Nat -> Option Char -> List Char -> List Char
  | _, _, [] => []
  | skipped + 1, _, letter :: rest => substitute pattern skipped (some letter) rest
  | 0, previous, letter :: rest =>
      match matchField isAlnum pattern previous (letter :: rest) with
      | some (replacement, length) =>
          replacement ++ substitute pattern (length - 1) (some letter) rest
      | none => letter :: substitute pattern 0 (some letter) rest

def FieldPattern.sub (pattern : FieldPattern) (message : String) : String :=
  String.ofList (substitute isAlnum pattern 0 none message.toList)

/-- Redact credentials and secret-looking fields from a log or response text. -/
def sanitizeText (message : String) (secrets : List String := []) : String :=
  let sanitized := PASSWORD_FIELD_PATTERN.sub isAlnum message
  let sanitized := TOKEN_FIELD_PATTERN.sub isAlnum sanitized
  let sanitized := IDENTITY_FIELD_PATTERN.sub isAlnum sanitized
  secrets.foldl
    (fun sanitized secret =>
      if secret = "" then sanitized else sanitized.replace secret REDACTED_VALUE)
    sanitized

/-- Redact sensitive mapping keys at any depth. -/
def sanitizeValue : Json -> Json :=
  Json.redact isSensitiveKey (.str REDACTED_VALUE) (fun value => sanitizeText isAlnum value)

end Texts

example : sanitizeText Char.isAlphanum "Password : hunter2, guid=1 uid= 2" =
    "Password:<redacted>, guid=1 uid=<redacted>" := by
  decide +kernel

end Dashboard
end PetlibroRelay
