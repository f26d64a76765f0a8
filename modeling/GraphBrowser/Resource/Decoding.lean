import GraphBrowser.Json.Printer
import GraphBrowser.Text.Quoted

/-!
# Decoding of records

The bodies that the store sends are records: objects with certain fields, or arrays of the values of
these fields.

## Main definitions

* `DecodingError` — why a value is not what was expected, and its wording
* `Decode.string`, `Decode.members` — the value as a string or as the members of an object
* `Decode.optional`, `Decode.required` — a field of an object

## Design notes

**Fields that are present are checked in the order of their names, then missing ones are reported in
the order of the record.** A reader of a record states both orders by the order of its steps.
-/

namespace GraphBrowser

/-- Why a value cannot be decoded. -/
inductive DecodingError where
  /-- A value of the wrong type. -/
  | invalidType (found : Json) (expected : String)
  /-- An object without a field. -/
  | missingField (name : String)
  /-- An array with so many elements that is too short for a record. -/
  | tooShort (length : Nat) (record : String)
  /-- An array with more elements than the record has fields. -/
  | tooLong (length : Nat)

namespace DecodingError

/-- What a value is called in a message: its type, and its own text if that is one token. -/
def describe : Json → String
  | .null => "null"
  | .bool b => "boolean `" ++ (Json.bool b).text ++ "`"
  | .number (.integer n) => "integer `" ++ toString n ++ "`"
  | .number (.double x) => "floating point `" ++ x.text ++ "`"
  | .string s => "string " ++ quoted s
  | .array _ => "sequence"
  | .object _ => "map"

/-- The wording of an error. -/
def message : DecodingError → String
  | .invalidType found expected =>
    "invalid type: " ++ describe found ++ ", expected " ++ expected
  | .missingField name => "missing field `" ++ name ++ "`"
  | .tooShort length record => "invalid length " ++ toString length ++ ", expected " ++ record
  | .tooLong length =>
    "invalid length " ++ toString length ++ ", expected fewer elements in array"

end DecodingError

namespace Decode

/-- The value as a string. -/
def string : Json → Except DecodingError String
  | .string s => .ok s
  | found => .error (.invalidType found "a string")

/-- The value as the members of an object. -/
def members : Json → Except DecodingError (List (String × Json))
  | .object members => .ok members
  | found => .error (.invalidType found "a map")

/-- The value as the elements of an array. -/
def elements : Json → Except DecodingError (List Json)
  | .array elements => .ok elements
  | found => .error (.invalidType found "a sequence")

/-- The field of an object, decoded if it is present. -/
def optional {α : Type} (decode : Json → Except DecodingError α) (name : String)
    (members : List (String × Json)) : Except DecodingError (Option α) :=
  match members.lookup name with
  | none => .ok none
  | some value => (decode value).map some

/-- The field of an object that may not be absent. -/
def required {α : Type} (name : String) : Option α → Except DecodingError α
  | none => .error (.missingField name)
  | some value => .ok value

end Decode

end GraphBrowser
