import GraphBrowser.Failure
import GraphBrowser.Resource.Address
import GraphBrowser.Resource.Decoding

/-!
# Relationships

A relationship of the store leads from one node to another and has a type.

## Main definitions

* `Relationship` — the addresses of its two ends and its type
* `Relationship.listOfJson` — the relationships for a fetched body
-/

namespace GraphBrowser

/-- A relationship between two nodes, which are known by their addresses. -/
structure Relationship where
  /-- The address of the node that the relationship starts from. -/
  start : String
  /-- The address of the node that the relationship leads to. -/
  finish : String
  /-- The type of the relationship. -/
  relType : String
deriving Repr, DecidableEq

namespace Relationship

/-- The id of the node that the relationship starts from. -/
def startId (r : Relationship) : String := resourceId r.start

/-- The id of the node that the relationship leads to. -/
def finishId (r : Relationship) : String := resourceId r.finish

/-- What the record is called in a message. -/
def recordName : String := "struct RelationshipResource"

/-- The record with its number of fields. -/
def recordLength : String := recordName ++ " with 3 elements"

/-- A relationship from the members of an object. -/
def ofMembers (members : List (String × Json)) : Except DecodingError Relationship := do
  let finish ← Decode.optional Decode.string "end" members
  let start ← Decode.optional Decode.string "start" members
  let relType ← Decode.optional Decode.string "type" members
  let start ← Decode.required "start" start
  let finish ← Decode.required "end" finish
  let relType ← Decode.required "type" relType
  return ⟨start, finish, relType⟩

/-- A relationship from the values of its fields. -/
def ofElements : List Json → Except DecodingError Relationship
  | [] => .error (.tooShort 0 recordLength)
  | [start] => do
    let _ ← Decode.string start
    .error (.tooShort 1 recordLength)
  | [start, finish] => do
    let _ ← Decode.string start
    let _ ← Decode.string finish
    .error (.tooShort 2 recordLength)
  | start :: finish :: relType :: more => do
    let start ← Decode.string start
    let finish ← Decode.string finish
    let relType ← Decode.string relType
    if more.isEmpty then return ⟨start, finish, relType⟩
    else .error (.tooLong (more.length + 3))

/-- A relationship from a JSON value. -/
def ofJson : Json → Except DecodingError Relationship
  | .object members => ofMembers members
  | .array elements => ofElements elements
  | found => .error (.invalidType found recordName)

/-- The relationships from the elements of an array, in order, or the first error. -/
def ofJsonList : List Json → Except DecodingError (List Relationship)
  | [] => .ok []
  | element :: more => do
    let relationship ← ofJson element
    let relationships ← ofJsonList more
    return relationship :: relationships

/-- The relationships for the body that was fetched from an address. -/
def listOfJson (url : String) (body : Json) : Except Failure (List Relationship) :=
  match Decode.elements body >>= ofJsonList with
  | .ok relationships => .ok relationships
  | .error e => .error (.malformed url e.message)

/-- The relationship in a report. -/
def toJson (r : Relationship) : Json :=
  .object [("start", .string r.start), ("end", .string r.finish), ("type", .string r.relType)]

end Relationship

end GraphBrowser
