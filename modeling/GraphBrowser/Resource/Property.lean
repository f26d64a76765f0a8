import GraphBrowser.Json.Printer

/-!
# Properties of a node

A property has a name and a value. Texts, numbers and truth values are shown as such; anything else
is shown by its JSON text.

## Main definitions

* `PropertyValue` — what a property may hold
* `PropertyValue.display` — the text that is shown for a value
* `Properties` — properties in order

## Design notes

**Properties are a list and not a set of members**: they are shown in the order in which they were
added, and a lookup finds the first entry of a name.
-/

namespace GraphBrowser

/-- The value of a property. -/
inductive PropertyValue where
  /-- A text. -/
  | text (value : String)
  /-- A number. -/
  | number (value : Number)
  /-- A truth value. -/
  | bool (value : Bool)
  /-- The JSON text of a list, an object or `null`. -/
  | unsupported (raw : String)
deriving Repr, DecidableEq

namespace PropertyValue

/-- The property value for a JSON value. -/
def ofJson : Json → PropertyValue
  | .string s => .text s
  | .number n => .number n
  | .bool b => .bool b
  | .null => .unsupported Json.null.text
  | .array elements => .unsupported (Json.array elements).text
  | .object members => .unsupported (Json.object members).text

/-- Whether the value is shown as it is. -/
def isScalar : PropertyValue → Bool
  | .text _ => true
  | .number _ => true
  | .bool _ => true
  | .unsupported _ => false

/-- The text that is shown for a value. -/
def display : PropertyValue → String
  | .text s => s
  | .number n => n.text
  | .bool b => (Json.bool b).text
  | .unsupported raw => raw

/-- The value in a report: an unsupported one is the string of its text. -/
def toJson : PropertyValue → Json
  | .text s => .string s
  | .number n => .number n
  | .bool b => .bool b
  | .unsupported raw => .string raw

end PropertyValue

/-- Named values in the order in which they are shown. -/
structure Properties where
  /-- The names and values. -/
  entries : List (String × PropertyValue) := []
deriving Repr, DecidableEq

namespace Properties

/-- The properties for the members of an object. -/
def ofMembers (members : List (String × Json)) : Properties :=
  ⟨members.map fun member => (member.1, .ofJson member.2)⟩

/-- The properties with one more at the end. -/
def add (properties : Properties) (name : String) (value : PropertyValue) : Properties :=
  ⟨properties.entries ++ [(name, value)]⟩

/-- The value of the first entry with a name. -/
def get? (properties : Properties) (name : String) : Option PropertyValue :=
  (properties.entries.find? (·.1 == name)).map (·.2)

/-- The number of entries. -/
def size (properties : Properties) : Nat :=
  properties.entries.length

/-- Whether there is no entry. -/
def isEmpty (properties : Properties) : Bool :=
  properties.entries.isEmpty

/-- The properties in a report: the list of pairs of name and value. -/
def toJson (properties : Properties) : Json :=
  .object [("entries",
    .array (properties.entries.map fun entry => .array [.string entry.1, entry.2.toJson]))]

end Properties

end GraphBrowser
