/-!
# Surfaces

What is on display: headings, tables of properties and tables of relationships, one below the other.
A row of a relationship table may hold a container with blocks of its own.

## Main definitions

* `Block`, `RelationshipTable`, `RelationshipRow`, `Expander` — the blocks of a surface
* `Surface` — the blocks in the order in which they were appended
* `Surface.lastTable?` — the relationship table that was appended last
* `Surface.container?`, `Surface.updateContainer?` — the container of a row of that table

## Design notes

**One search finds the last relationship table**, `splitLastTable?`, which also gives what stands
before and after it. Reading and changing a container both go through it. A row without an expand
control has no container, and earlier tables are out of reach.
-/

namespace GraphBrowser

/-- How relationship tables are rendered. -/
inductive TableMode where
  /-- The ends of a relationship are links, and that is all. -/
  | plain
  /-- Each row has an expand control and a container as well. -/
  | expanding
deriving Repr, DecidableEq

namespace TableMode

/-- What stands in place of a link to the node that is shown. -/
def ownLabel : TableMode → String
  | .plain => "this node"
  | .expanding => "thisNode"

/-- The headers of a relationship table. -/
def headers : TableMode → List String
  | .plain => ["Start", "Type", "End"]
  | .expanding => ["Start", "Type", "End", ""]

end TableMode

/-- One property as it is shown. -/
structure PropertyRow where
  /-- The name of the property. -/
  name : String
  /-- The text that is shown for its value. -/
  value : String
deriving Repr, DecidableEq

/-- A table of properties. -/
structure PropertyTable where
  /-- The rows from top to bottom. -/
  rows : List PropertyRow := []
deriving Repr, DecidableEq

/-- One end of a relationship as it is shown. -/
inductive Endpoint where
  /-- The node that is shown itself. -/
  | thisNode (label : String)
  /-- Another node, with a link to it. -/
  | link (id url : String)
deriving Repr, DecidableEq

mutual

/-- A block of a surface. -/
inductive Block where
  /-- A heading. -/
  | heading (text : String)
  /-- A table of properties. -/
  | properties (table : PropertyTable)
  /-- A table of relationships. -/
  | relationships (table : RelationshipTable)

/-- A table of relationships. -/
structure RelationshipTable where
  /-- How the table was rendered. -/
  mode : TableMode
  /-- The rows from top to bottom. -/
  rows : List RelationshipRow

/-- One relationship as it is shown. -/
structure RelationshipRow where
  /-- The node that the relationship starts from. -/
  start : Endpoint
  /-- The type of the relationship. -/
  relType : String
  /-- The node that the relationship leads to. -/
  finish : Endpoint
  /-- The means to expand the row, if there are any. -/
  expand : Option Expander

/-- The means to show a node below a relationship. -/
structure Expander where
  /-- The address of that node. -/
  target : String
  /-- The blocks that are shown there. -/
  container : List Block

end

instance : Inhabited Block := ⟨.heading ""⟩

/-- The region of the page that shows nodes. -/
structure Surface where
  /-- The blocks in the order in which they were appended. -/
  blocks : List Block := []

namespace Block

/-- The last relationship table among blocks, with the blocks before and after it. -/
def splitLastTable? : List Block → Option (List Block × RelationshipTable × List Block)
  | [] => none
  | block :: rest =>
    match splitLastTable? rest with
    | some (before, table, after) => some (block :: before, table, after)
    | none =>
      match block with
      | .relationships table => some ([], table, rest)
      | .heading _ => none
      | .properties _ => none

@[simp] theorem splitLastTable?_nil : splitLastTable? [] = none := rfl

end Block

namespace RelationshipTable

/-- The container of a row. -/
def container? (table : RelationshipTable) (row : Nat) : Option (List Block) :=
  (table.rows[row]?.bind (·.expand)).map (·.container)

/-- The table with other blocks in the container of a row. -/
def updateContainer? (table : RelationshipTable) (row : Nat)
    (change : List Block → List Block) : Option RelationshipTable :=
  match table.rows[row]? with
  | some ⟨start, relType, finish, some ⟨target, container⟩⟩ =>
    some ⟨table.mode,
      table.rows.set row ⟨start, relType, finish, some ⟨target, change container⟩⟩⟩
  | some ⟨_, _, _, none⟩ => none
  | none => none

end RelationshipTable

namespace Surface

/-- A surface that shows nothing. -/
def empty : Surface := ⟨[]⟩

/-- The surface with further blocks at its end. -/
def append (surface : Surface) (blocks : List Block) : Surface :=
  ⟨surface.blocks ++ blocks⟩

@[simp] theorem blocks_append (surface : Surface) (blocks : List Block) :
    (surface.append blocks).blocks = surface.blocks ++ blocks := rfl

/-- Whether the surface shows nothing. -/
def isEmpty (surface : Surface) : Bool := surface.blocks.isEmpty

/-- The relationship table that was appended last. -/
def lastTable? (surface : Surface) : Option RelationshipTable :=
  (Block.splitLastTable? surface.blocks).map (·.2.1)

/-- The property tables from top to bottom. -/
def propertyTables (surface : Surface) : List PropertyTable :=
  surface.blocks.filterMap fun
    | .properties table => some table
    | .heading _ => none
    | .relationships _ => none

/-- The container of a row of the last relationship table. -/
def container? (surface : Surface) (row : Nat) : Option (List Block) :=
  surface.lastTable?.bind (·.container? row)

/-- The surface with other blocks in the container of a row of the last relationship table. -/
def updateContainer? (surface : Surface) (row : Nat) (change : List Block → List Block) :
    Option Surface :=
  match Block.splitLastTable? surface.blocks with
  | none => none
  | some (before, table, after) =>
    (table.updateContainer? row change).map fun table =>
      ⟨before ++ .relationships table :: after⟩

end Surface

end GraphBrowser
