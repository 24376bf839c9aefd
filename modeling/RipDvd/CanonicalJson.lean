import RipDvd.Json
import Mathlib.Algebra.Order.BigOperators.Group.List
import Mathlib.Algebra.Order.Group.Nat
import Mathlib.Algebra.GroupWithZero.Nat

namespace RipDvd
set_option autoImplicit true

namespace Json

/-- A character of a JSON string. -/
def escapeCharacter (c : Char) : String :=
  if c.toNat = 0x22 then "\\\""
  else if c.toNat = 0x5c then "\\\\"
  else if c.toNat = 0x08 then "\\b"
  else if c.toNat = 0x09 then "\\t"
  else if c.toNat = 0x0a then "\\n"
  else if c.toNat = 0x0c then "\\f"
  else if c.toNat = 0x0d then "\\r"
  else if c.toNat < 0x20 then
    "\\u00" ++ toString (c.toNat / 16) ++
      String.singleton ("0123456789abcdef".toList.getD (c.toNat % 16) '0')
  else String.singleton c

/-- Texts with a comma between each two. -/
def commaSeparated : List String → String
  | [] => ""
  | [text] => text
  | text :: texts => text ++ "," ++ commaSeparated texts

def quote (s : String) : String := "\"" ++ String.join (s.toList.map escapeCharacter) ++ "\""

mutual

/-- `JSON.stringify`. -/
def stringify : Json → String
  | null => "null"
  | boolean value => if value then "true" else "false"
  | number value => toString value
  | string value => quote value
  | array items => "[" ++ commaSeparated (stringifyItems items) ++ "]"
  | object fields => "\x7b" ++ commaSeparated (stringifyFields fields) ++ "\x7d"

def stringifyItems : List Json → List String
  | [] => []
  | item :: items => item.stringify :: stringifyItems items

def stringifyFields : List (String × Json) → List String
  | [] => []
  | (key, value) :: fields => (quote key ++ ":" ++ value.stringify) :: stringifyFields fields

end

mutual

/-- The value with the fields of all its objects in the order of their keys. -/
def sortKeys : Json → Json
  | array items => array (sortItems items)
  | object fields => object ((sortFields fields).insertionSort fun a b => a.1 ≤ b.1)
  | other => other

def sortItems : List Json → List Json
  | [] => []
  | item :: items => item.sortKeys :: sortItems items

def sortFields : List (String × Json) → List (String × Json)
  | [] => []
  | (key, value) :: fields => (key, value.sortKeys) :: sortFields fields

end

def canonicalJson (value : Json) : String := value.sortKeys.stringify

/-- The bytes of a value's canonical text. -/
def canonicalSize (value : Json) : Nat := value.canonicalJson.utf8ByteSize

theorem sum_le_commaSeparated (texts : List String) :
    (texts.map String.utf8ByteSize).sum ≤ (commaSeparated texts).utf8ByteSize := by
  induction texts with
  | nil => simp [commaSeparated]
  | cons text texts ih =>
    cases texts with
    | nil => simp [commaSeparated]
    | cons next texts =>
      rw [List.map_cons, List.sum_cons, commaSeparated, String.utf8ByteSize_append,
        String.utf8ByteSize_append]
      · omega
      · exact fun h => nomatch h

theorem stringifyItems_eq (items : List Json) : stringifyItems items = items.map stringify := by
  induction items with
  | nil => rfl
  | cons item items ih => rw [stringifyItems, ih, List.map_cons]

theorem stringifyFields_eq (fields : List (String × Json)) :
    stringifyFields fields = fields.map fun field => quote field.1 ++ ":" ++ field.2.stringify := by
  induction fields with
  | nil => rfl
  | cons field fields ih =>
    cases field
    rw [stringifyFields, ih, List.map_cons]

theorem sortItems_eq (items : List Json) : sortItems items = items.map sortKeys := by
  induction items with
  | nil => rfl
  | cons item items ih => rw [sortItems, ih, List.map_cons]

theorem sortFields_eq (fields : List (String × Json)) :
    sortFields fields = fields.map fun field => (field.1, field.2.sortKeys) := by
  induction fields with
  | nil => rfl
  | cons field fields ih =>
    cases field
    rw [sortFields, ih, List.map_cons]

/-- The texts of an array's items are part of its text. -/
theorem canonicalSize_array (items : List Json) :
    (items.map canonicalSize).sum ≤ (array items).canonicalSize := by
  have hsum := sum_le_commaSeparated (items.map fun item => item.sortKeys.stringify)
  rw [List.map_map] at hsum
  rw [canonicalSize, canonicalJson, sortKeys, stringify, sortItems_eq, stringifyItems_eq,
    List.map_map, String.utf8ByteSize_append, String.utf8ByteSize_append]
  exact hsum.trans (by simp only [Function.comp_def]; omega)

/-- The keys and the texts of an object's fields are part of its text. -/
theorem canonicalSize_object (fields : List (String × Json)) :
    (fields.map fun field => (quote field.1).utf8ByteSize + 1 + field.2.canonicalSize).sum ≤
      (object fields).canonicalSize := by
  have hperm := List.perm_insertionSort (fun a b : String × Json => a.1 ≤ b.1)
    (fields.map fun field => (field.1, field.2.sortKeys))
  have hsum := sum_le_commaSeparated (((fields.map fun field =>
    (field.1, field.2.sortKeys)).insertionSort fun a b => a.1 ≤ b.1).map fun field =>
      quote field.1 ++ ":" ++ field.2.stringify)
  rw [List.map_map, (hperm.map _).sum_eq, List.map_map] at hsum
  rw [canonicalSize, canonicalJson, sortKeys, stringify, sortFields_eq, stringifyFields_eq,
    String.utf8ByteSize_append, String.utf8ByteSize_append]
  refine le_trans (le_of_eq ?_) (hsum.trans (by omega))
  congr 1
  apply List.map_congr_left
  intro field _
  simp only [Function.comp_apply, String.utf8ByteSize_append, canonicalSize, canonicalJson]
  rfl

/-- The text of a field's value is part of the object's text. -/
theorem canonicalSize_field {fields : List (String × Json)} (h : (key, value) ∈ fields) :
    value.canonicalSize ≤ (object fields).canonicalSize := by
  have hmem := List.le_sum_of_mem (List.mem_map_of_mem (f := fun field : String × Json =>
    (quote field.1).utf8ByteSize + 1 + field.2.canonicalSize) h)
  have hobject := canonicalSize_object fields
  simp only at hmem
  omega

end Json

end RipDvd
