import Mathlib.Data.Rat.Defs
import PetlibroRelay.Foundations.Dict

namespace PetlibroRelay
namespace Foundations

/-!
# Decoded JSON values

The values a JSON decoder returns in a language where a boolean is an integer
and where numbers compare by value across their types.  Decoding itself is not
part of this file: programs receive a decoder as a function from bytes to an
optional value.

A finite floating-point number is its exact rational value.  A text with an
unpaired surrogate is a text like any other.  It differs in that it has no UTF-8
encoding, and a program for which this matters receives the texts that have none
as a predicate.
-/

/-- A floating-point number, up to the sign of zero. -/
inductive PyFloat where
  | finite (value : Rat)
  | infinity (negative : Bool)
  | nan
  deriving DecidableEq, Repr

/-- A decoded value.  Objects keep the order of their fields. -/
inductive Json where
  | null
  | bool (value : Bool)
  | int (value : Int)
  | float (value : PyFloat)
  | str (value : String)
  | arr (items : List Json)
  | obj (fields : List (String × Json))

/-- The UTF-8 encoding of a text. -/
def utf8 (text : String) : List UInt8 :=
  text.toList.flatMap String.utf8EncodeChar

namespace Json

/-! ## Decidable equality

The deriving handler does not treat nested lists, so structural equality is
written out and shown to decide equality. -/

mutual

/-- Structural equality of values. -/
def beq : Json -> Json -> Bool
  | .null, .null => true
  | .bool first, .bool second => first == second
  | .int first, .int second => first == second
  | .float first, .float second => decide (first = second)
  | .str first, .str second => first == second
  | .arr first, .arr second => beqItems first second
  | .obj first, .obj second => beqFields first second
  | _, _ => false

/-- Structural equality of arrays. -/
def beqItems : List Json -> List Json -> Bool
  | [], [] => true
  | first :: restFirst, second :: restSecond => beq first second && beqItems restFirst restSecond
  | _, _ => false

/-- Structural equality of objects, field order included. -/
def beqFields : List (String × Json) -> List (String × Json) -> Bool
  | [], [] => true
  | (keyFirst, first) :: restFirst, (keySecond, second) :: restSecond =>
      keyFirst == keySecond && beq first second && beqFields restFirst restSecond
  | _, _ => false

end

mutual

theorem eq_of_beq : (first second : Json) -> beq first second = true -> first = second
  | .null, second, same => by cases second <;> simp_all [beq]
  | .bool _, second, same => by cases second <;> simp_all [beq]
  | .int _, second, same => by cases second <;> simp_all [beq]
  | .float _, second, same => by cases second <;> simp_all [beq]
  | .str _, second, same => by cases second <;> simp_all [beq]
  | .arr first, .arr second, same => by
      rw [beq] at same
      rw [eq_of_beqItems first second same]
  | .obj first, .obj second, same => by
      rw [beq] at same
      rw [eq_of_beqFields first second same]
  | .arr _, .null, same => by simp [beq] at same
  | .arr _, .bool _, same => by simp [beq] at same
  | .arr _, .int _, same => by simp [beq] at same
  | .arr _, .float _, same => by simp [beq] at same
  | .arr _, .str _, same => by simp [beq] at same
  | .arr _, .obj _, same => by simp [beq] at same
  | .obj _, .null, same => by simp [beq] at same
  | .obj _, .bool _, same => by simp [beq] at same
  | .obj _, .int _, same => by simp [beq] at same
  | .obj _, .float _, same => by simp [beq] at same
  | .obj _, .str _, same => by simp [beq] at same
  | .obj _, .arr _, same => by simp [beq] at same

theorem eq_of_beqItems : (first second : List Json) -> beqItems first second = true ->
    first = second
  | [], [], _ => rfl
  | [], _ :: _, same => by simp [beqItems] at same
  | _ :: _, [], same => by simp [beqItems] at same
  | first :: restFirst, second :: restSecond, same => by
      rw [beqItems, Bool.and_eq_true] at same
      rw [eq_of_beq first second same.1, eq_of_beqItems restFirst restSecond same.2]

theorem eq_of_beqFields : (first second : List (String × Json)) ->
    beqFields first second = true -> first = second
  | [], [], _ => rfl
  | [], _ :: _, same => by simp [beqFields] at same
  | _ :: _, [], same => by simp [beqFields] at same
  | (keyFirst, first) :: restFirst, (keySecond, second) :: restSecond, same => by
      rw [beqFields, Bool.and_eq_true, Bool.and_eq_true, beq_iff_eq] at same
      rw [same.1.1, eq_of_beq first second same.1.2,
        eq_of_beqFields restFirst restSecond same.2]

end

mutual

theorem beq_self : (value : Json) -> beq value value = true
  | .null => by rw [beq]
  | .bool _ => by rw [beq, beq_iff_eq]
  | .int _ => by rw [beq, beq_iff_eq]
  | .float _ => by rw [beq, decide_eq_true_eq]
  | .str _ => by rw [beq, beq_iff_eq]
  | .arr items => by
      rw [beq]
      exact beqItems_self items
  | .obj fields => by
      rw [beq]
      exact beqFields_self fields

theorem beqItems_self : (items : List Json) -> beqItems items items = true
  | [] => by rw [beqItems]
  | item :: rest => by rw [beqItems, beq_self item, beqItems_self rest, Bool.and_self]

theorem beqFields_self : (fields : List (String × Json)) -> beqFields fields fields = true
  | [] => by rw [beqFields]
  | (key, value) :: rest => by
      rw [beqFields, beq_self value, beqFields_self rest, Bool.and_true, Bool.and_true,
        beq_iff_eq]

end

instance decidableEq : DecidableEq Json := fun first second =>
  decidable_of_iff (beq first second = true)
    ⟨eq_of_beq first second, fun same => same ▸ beq_self first⟩

/-! ## Reading values -/

/-- The entries of an object. -/
def fields? : Json -> Option (List (String × Json))
  | .obj fields => some fields
  | _ => none

/-- The items of an array. -/
def items? : Json -> Option (List Json)
  | .arr items => some items
  | _ => none

/-- The text of a string. -/
def str? : Json -> Option String
  | .str value => some value
  | _ => none

/-- The value as an integer, where booleans count as integers. -/
def int? : Json -> Option Int
  | .bool value => some (if value then 1 else 0)
  | .int value => some value
  | _ => none

/-- Whether the value is exactly an integer. -/
def isInt : Json -> Bool
  | .int _ => true
  | _ => false

/-- Numeric equality with an integer, across booleans and floats. -/
def eqInt (value : Json) (number : Int) : Bool :=
  match value with
  | .bool flag => decide ((if flag then 1 else 0) = number)
  | .int own => decide (own = number)
  | .float (.finite own) => decide (own = number)
  | _ => false

/-- Truth value. -/
def truthy : Json -> Bool
  | .null => false
  | .bool value => value
  | .int value => decide (value ≠ 0)
  | .float (.finite value) => decide (value ≠ 0)
  | .float _ => true
  | .str value => decide (value ≠ "")
  | .arr items => !items.isEmpty
  | .obj fields => !fields.isEmpty

theorem eq_of_eqInt {value number : Int} (same : (Json.int value).eqInt number = true) :
    value = number :=
  of_decide_eq_true same

end Json
end Foundations
end PetlibroRelay
