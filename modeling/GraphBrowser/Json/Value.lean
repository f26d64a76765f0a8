import GraphBrowser.Decimal.Shortest
import GraphBrowser.Json.Members

/-!
# JSON values

What the store sends and what the browser reports about itself.

## Main definitions

* `Number` — an exact integer or a double
* `Json` — a value
* `Json.ofMembers` — the object with given members

## Design notes

**An integer stays exact as long as 64 bits hold it**, with or without a sign; every other number is
a double. **An object is the list of its members as they are written.** Objects that come from the
store are sorted by `Json.ofMembers`; those that the browser writes keep the order of the fields of
what they describe.
-/

namespace GraphBrowser

/-- A number of a JSON text. -/
inductive Number where
  /-- An integer that fits into 64 bits. -/
  | integer (value : Int)
  /-- Any other number, rounded. -/
  | double (value : Binary64)
deriving Repr, DecidableEq

/-- A JSON value. -/
inductive Json where
  /-- The value `null`. -/
  | null
  /-- A truth value. -/
  | bool (value : Bool)
  /-- A number. -/
  | number (value : Number)
  /-- A string. -/
  | string (value : String)
  /-- An array with its elements in order. -/
  | array (elements : List Json)
  /-- An object with its members as they are written. -/
  | object (members : List (String × Json))

namespace Json

/-- The object with the given members, sorted by key, the last of equal keys. -/
def ofMembers (given : List (String × Json)) : Json :=
  .object (Members.ofList given)

/-- A natural number as a value. -/
def natural (n : Nat) : Json :=
  .number (.integer n)

/-- The value or `null`. -/
def ofOption {α : Type} (encode : α → Json) : Option α → Json
  | none => .null
  | some a => encode a

end Json

end GraphBrowser
