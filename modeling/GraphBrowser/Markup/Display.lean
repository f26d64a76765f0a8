import GraphBrowser.Markup.LinkTargets
import GraphBrowser.Markup.Piece
import GraphBrowser.View.Surface

/-!
# Surfaces as markup

The pieces that a surface is written as.

## Main definitions

* `PropertyTable.pieces`, `RelationshipTable.pieces`, `Block.pieces` — the pieces of a block
* `Surface.pieces`, `Surface.html` — the pieces of a surface, and its text

## Design notes

Blocks and rows refer to each other through the containers, so that their pieces are defined
together, by recursion on what is shown. The rows of a table are numbered from zero.
-/

namespace GraphBrowser

/-- The pieces of a row of properties. -/
def PropertyRow.pieces (row : PropertyRow) : List Piece :=
  [.markup "<tr><td>", .slot row.name, .markup "</td><td>", .slot row.value,
   .markup "</td></tr>\n"]

/-- The pieces of a table of properties. -/
def PropertyTable.pieces (table : PropertyTable) : List Piece :=
  .markup "<table class='properties'>\n<tr><th>Name</th><th>Value</th></tr>\n" ::
    (table.rows.flatMap PropertyRow.pieces ++ [.markup "</table>\n"])

/-- The pieces of one end of a relationship. -/
def Endpoint.pieces (targets : LinkTargets) : Endpoint → List Piece
  | .thisNode label => [.slot label]
  | .link id url =>
    [.markup "<a class='nodeLink' href='", .slot (targets.node url), .markup "'>", .slot id,
     .markup "</a>"]

/-- The pieces of the header row of a relationship table, the table's own tag included. -/
def TableMode.headerPieces (mode : TableMode) : List Piece :=
  .markup "<table class='relationships'>\n<tr>" ::
    (mode.headers.map (fun header => .markup ("<th>" ++ header ++ "</th>")) ++
      [.markup "</tr>\n"])

/-- The pieces of a row up to its end node. -/
def RelationshipRow.leadPieces (targets : LinkTargets) (start : Endpoint) (relType : String)
    (finish : Endpoint) : List Piece :=
  .markup "<tr><td>" ::
    (start.pieces targets ++ .markup "</td><td>" :: .slot relType :: .markup "</td><td>" ::
      (finish.pieces targets ++ [.markup "</td>"]))

/-- The pieces of an expand control up to its container. -/
def Expander.leadPieces (targets : LinkTargets) (row : Nat) (target : String) : List Piece :=
  [.markup "<td><a class='inlineExpandingNodeLink' href='", .slot (targets.expand row target),
   .markup "'>+ expand</a><div class='inlineNode'>"]

mutual

/-- The pieces of a block. -/
def Block.pieces (targets : LinkTargets) : Block → List Piece
  | .heading text => [.markup "<h2>", .slot text, .markup "</h2>\n"]
  | .properties table => table.pieces
  | .relationships ⟨mode, rows⟩ =>
    mode.headerPieces ++ RelationshipRow.allPieces targets 0 rows ++ [.markup "</table>\n"]

/-- The pieces of the rows of a relationship table, from the given number on. -/
def RelationshipRow.allPieces (targets : LinkTargets) : Nat → List RelationshipRow → List Piece
  | _, [] => []
  | index, ⟨start, relType, finish, none⟩ :: rest =>
    RelationshipRow.leadPieces targets start relType finish ++ .markup "</tr>\n" ::
      RelationshipRow.allPieces targets (index + 1) rest
  | index, ⟨start, relType, finish, some ⟨target, container⟩⟩ :: rest =>
    RelationshipRow.leadPieces targets start relType finish ++
      (Expander.leadPieces targets index target ++
        (Block.allPieces targets container ++ .markup "</div></td>" :: .markup "</tr>\n" ::
          RelationshipRow.allPieces targets (index + 1) rest))

/-- The pieces of consecutive blocks. -/
def Block.allPieces (targets : LinkTargets) : List Block → List Piece
  | [] => []
  | block :: rest => block.pieces targets ++ Block.allPieces targets rest

end

/-- The text of consecutive blocks. -/
def Block.html (targets : LinkTargets) (blocks : List Block) : String :=
  Piece.html (Block.allPieces targets blocks)

namespace Surface

/-- The pieces of a surface. -/
def pieces (targets : LinkTargets) (surface : Surface) : List Piece :=
  Block.allPieces targets surface.blocks

/-- The text of a surface. -/
def html (targets : LinkTargets) (surface : Surface) : String :=
  Piece.html (surface.pieces targets)

end Surface

end GraphBrowser
