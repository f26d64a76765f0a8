import GraphBrowser.Failure
import GraphBrowser.Resource.Address
import GraphBrowser.Resource.Decoding
import GraphBrowser.Resource.Property

/-!
# Nodes

A node of the store as it is fetched from its address: its properties and where its relationships
are found.

## Main definitions

* `NodeRecord` — the part of the body that is shown
* `Node` — a body together with the address that it was fetched from
* `Node.ofJson` — the node for a fetched body

## Design notes

The id of a node comes from its address and never from its body. The address of the relationships is
kept as it was sent.
-/

namespace GraphBrowser

/-- What the body of a node holds. -/
structure NodeRecord where
  /-- The members of the object `data`. -/
  data : List (String × Json)
  /-- The address of the list of relationships. -/
  allRelationships : String

namespace NodeRecord

/-- What the record is called in a message. -/
def recordName : String := "struct NodeBody"

/-- The record with its number of fields. -/
def recordLength : String := recordName ++ " with 2 elements"

/-- The body from the members of an object. -/
def ofMembers (members : List (String × Json)) : Except DecodingError NodeRecord := do
  let allRelationships ← Decode.optional Decode.string "all_relationships" members
  let data ← Decode.optional Decode.members "data" members
  let data ← Decode.required "data" data
  let allRelationships ← Decode.required "all_relationships" allRelationships
  return ⟨data, allRelationships⟩

/-- The body from the values of its fields. -/
def ofElements : List Json → Except DecodingError NodeRecord
  | [] => .error (.tooShort 0 recordLength)
  | [data] => do
    let _ ← Decode.members data
    .error (.tooShort 1 recordLength)
  | data :: allRelationships :: more => do
    let data ← Decode.members data
    let allRelationships ← Decode.string allRelationships
    if more.isEmpty then return ⟨data, allRelationships⟩
    else .error (.tooLong (more.length + 2))

/-- The body from a JSON value. -/
def ofJson : Json → Except DecodingError NodeRecord
  | .object members => ofMembers members
  | .array elements => ofElements elements
  | found => .error (.invalidType found recordName)

end NodeRecord

/-- A node of the store. -/
structure Node where
  /-- The address that the node was fetched from. -/
  url : String
  /-- The id in that address. -/
  id : String
  /-- The properties in the order of the body. -/
  properties : Properties
  /-- The address of the list of relationships. -/
  allRelationships : String
deriving Repr, DecidableEq

namespace Node

/-- The node for the body that was fetched from an address. -/
def ofJson (url : String) (body : Json) : Except Failure Node :=
  match NodeRecord.ofJson body with
  | .ok body => .ok ⟨url, resourceId url, .ofMembers body.data, body.allRelationships⟩
  | .error e => .error (.malformed url e.message)

/-- The node in a report. -/
def toJson (node : Node) : Json :=
  .object [("url", .string node.url), ("id", .string node.id),
    ("properties", node.properties.toJson), ("all_relationships", .string node.allRelationships)]

end Node

end GraphBrowser
