import GraphBrowser.Resource.Relationship
import GraphBrowser.View.Surface

/-!
# Relationships and their links

The table that shows the relationships of a node, and the links that it offers: the nodes at the
other ends to navigate to, and in an expanding table a node to expand below each row.

## Main definitions

* `Link` — what happens on a click
* `Relationship.row`, `Relationship.links` — one relationship as a row, and the links in it
* `LinkedTable` — a table with its links, and `LinkedTable.ofRelationships`, which makes both
* `RelationshipTable.links` — the links that can be read off a table

## Design notes

**Rows and links are made side by side from the relationships**, so that rendering never looks at
what it has rendered. That the links are those of the table is a fact about it, for which the table
is read back by `RelationshipTable.links`.

An end is the node that is shown if the id in its address is the current one. An expand control
leads to the other end; if the relationship starts elsewhere it leads to the start.
-/

namespace GraphBrowser

/-- What a link does. -/
inductive LinkAction where
  /-- The view is replaced by the target. -/
  | navigate
  /-- The target is shown below the row. -/
  | expand
deriving Repr, DecidableEq

/-- Where in its row a link stands. -/
inductive LinkPlace where
  /-- At the node that the relationship starts from. -/
  | start
  /-- At the node that the relationship leads to. -/
  | finish
  /-- At the expand control. -/
  | expand
deriving Repr, DecidableEq

/-- A link of a relationship table. -/
structure Link where
  /-- The row, counted from zero. -/
  row : Nat
  /-- The place in the row. -/
  place : LinkPlace
  /-- The address that the link leads to. -/
  target : String
  /-- What the link does. -/
  action : LinkAction
deriving Repr, DecidableEq

/-- One end of a relationship as it is shown to the reader of the current node. -/
def Endpoint.ofUrl (mode : TableMode) (currentId url : String) : Endpoint :=
  if resourceId url = currentId then .thisNode mode.ownLabel else .link (resourceId url) url

namespace Relationship

/-- The address that the expand control leads to. -/
def expandTarget (currentId : String) (r : Relationship) : String :=
  if r.startId = currentId then r.finish else r.start

/-- The relationship as a row. -/
def row (mode : TableMode) (currentId : String) (r : Relationship) : RelationshipRow where
  start := .ofUrl mode currentId r.start
  relType := r.relType
  finish := .ofUrl mode currentId r.finish
  expand :=
    match mode with
    | .plain => none
    | .expanding => some ⟨r.expandTarget currentId, []⟩

/-- The links of the relationship in a given row. -/
def links (mode : TableMode) (currentId : String) (row : Nat) (r : Relationship) : List Link :=
  (if r.startId = currentId then [] else [⟨row, .start, r.start, .navigate⟩]) ++
  (if r.finishId = currentId then [] else [⟨row, .finish, r.finish, .navigate⟩]) ++
  match mode with
  | .plain => []
  | .expanding => [⟨row, .expand, r.expandTarget currentId, .expand⟩]

/-- The links of relationships in consecutive rows. -/
def linksFrom (mode : TableMode) (currentId : String) : Nat → List Relationship → List Link
  | _, [] => []
  | row, r :: rest => r.links mode currentId row ++ linksFrom mode currentId (row + 1) rest

@[simp] theorem linksFrom_nil (mode : TableMode) (currentId : String) (row : Nat) :
    linksFrom mode currentId row [] = [] := rfl

@[simp] theorem linksFrom_cons (mode : TableMode) (currentId : String) (row : Nat)
    (r : Relationship) (rest : List Relationship) :
    linksFrom mode currentId row (r :: rest) =
      r.links mode currentId row ++ linksFrom mode currentId (row + 1) rest := rfl

end Relationship

/-- A table of relationships together with its links. -/
structure LinkedTable where
  /-- The table. -/
  table : RelationshipTable
  /-- The links from top to bottom and from left to right. -/
  links : List Link

/-- The table and the links for the relationships of a node. Blanks around its id are ignored. -/
def LinkedTable.ofRelationships (relationships : List Relationship) (currentId : String)
    (mode : TableMode) : LinkedTable where
  table := ⟨mode, relationships.map (·.row mode (trimmed currentId))⟩
  links := Relationship.linksFrom mode (trimmed currentId) 0 relationships

/-- The blocks that show a table of relationships: a heading with their number, and the table. -/
def RelationshipTable.blocks (table : RelationshipTable) : List Block :=
  [.heading ("Relationships (" ++ toString table.rows.length ++ ")"), .relationships table]

/-! ### The links of a table -/

/-- The link of an end, if it has one. -/
def Endpoint.links (row : Nat) (place : LinkPlace) : Endpoint → List Link
  | .thisNode _ => []
  | .link _ url => [⟨row, place, url, .navigate⟩]

/-- The links in a row, from left to right. -/
def RelationshipRow.links (index : Nat) (row : RelationshipRow) : List Link :=
  row.start.links index .start ++ row.finish.links index .finish ++
  match row.expand with
  | none => []
  | some control => [⟨index, .expand, control.target, .expand⟩]

/-- The links in consecutive rows. -/
def RelationshipRow.linksFrom : Nat → List RelationshipRow → List Link
  | _, [] => []
  | index, row :: rest => row.links index ++ linksFrom (index + 1) rest

/-- The links in a table, from top to bottom. -/
def RelationshipTable.links (table : RelationshipTable) : List Link :=
  RelationshipRow.linksFrom 0 table.rows

end GraphBrowser
