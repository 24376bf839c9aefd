import RipDvd.Evidence
import Mathlib.Data.List.Sort

namespace RipDvd
set_option autoImplicit true

/-- A JSON value as a parser returns it; the numbers of the helper protocols are integers. -/
inductive Json where
  | null
  | boolean (value : Bool)
  | number (value : Int)
  | string (value : String)
  | array (items : List Json)
  | object (fields : List (String × Json))

namespace Json

/-- A property of an object; none is `undefined`. -/
def get (value : Json) (key : String) : Option Json :=
  match value with
  | object fields => fields.lookup key
  | _ => none

def keys : Json → List String
  | object fields => fields.map Prod.fst
  | _ => []

/-- The object without one of its properties. -/
def erase (value : Json) (key : String) : Json :=
  match value with
  | object fields => object (fields.filter fun field => field.1 ≠ key)
  | other => other

/-- The object with a property more. -/
def insert (value : Json) (key : String) (property : Json) : Json :=
  match value with
  | object fields => object (fields ++ [(key, property)])
  | other => other

def isString (value : Option Json) (text : String) : Bool :=
  match value with
  | some (string s) => s = text
  | _ => false

def stringValue : Option Json → Option String
  | some (string s) => some s
  | _ => none

def booleanValue : Option Json → Option Bool
  | some (boolean b) => some b
  | _ => none

def arrayValue : Option Json → Option (List Json)
  | some (array items) => some items
  | _ => none

def isNumber (value : Option Json) (n : Nat) : Bool :=
  match value with
  | some (number m) => m = n
  | _ => false

/-- `isSafeNonNegativeInteger`, with the number it found. -/
def safeNonNegativeInteger (value : Option Json) : Option Nat :=
  match value with
  | some (number n) => if 0 ≤ n ∧ n ≤ maxSafeInteger then some n.toNat else none
  | _ => none

/-- `isOptionalBoundedInteger`, with the number or the null it found. -/
def optionalBoundedInteger (value : Option Json) (maximum : Nat) : Option (Option Nat) :=
  match value with
  | some null => some none
  | _ =>
    match safeNonNegativeInteger value with
    | some n => if n ≤ maximum then some (some n) else none
    | none => none

/-- `format_optional_u64`: a number, or null when it is absent. -/
def formatOptional : Option Nat → Json
  | some n => number n
  | none => null

@[simp] theorem isString_string (s text : String) :
    isString (some (string s)) text = decide (s = text) := rfl

@[simp] theorem isString_none (text : String) : isString none text = false := rfl

@[simp] theorem isNumber_number (m n : Nat) :
    isNumber (some (number m)) n = decide (m = n) := by
  simp only [isNumber, decide_eq_decide]
  omega

theorem safeNonNegativeInteger_number (h : n ≤ maxSafeInteger) :
    safeNonNegativeInteger (some (number n)) = some n := by
  have hn : (n : Int) ≤ maxSafeInteger := by omega
  simp [safeNonNegativeInteger, hn]

theorem optionalBoundedInteger_formatOptional {value : Option Nat} {maximum : Nat}
    (hmax : maximum ≤ maxSafeInteger) (h : ∀ n ∈ value, n ≤ maximum) :
    optionalBoundedInteger (some (formatOptional value)) maximum = some value := by
  cases value with
  | none => rfl
  | some n =>
    have hn : n ≤ maximum := h n rfl
    have hs := safeNonNegativeInteger_number (hn.trans hmax)
    simp [optionalBoundedInteger, formatOptional, hs, hn]

end Json

end RipDvd
