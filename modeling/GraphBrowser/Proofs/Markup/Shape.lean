import GraphBrowser.Markup.Page
import GraphBrowser.Proofs.Text.Escaped

/-!
# The markup of a page

What the store and the reader supply are texts. They are written into the slots between the markup
of a page, and only the shape of what is shown chooses this markup.

## Main definitions

* `Piece.blank` — a piece of markup, or a slot without its text
* `Block.shape`, `Surface.shape` — what is shown, without its texts

## Main statements

* `Block.blank_allPieces` — **the markup of blocks is that of their shape**
* `Piece.filter_isDelimiter_allChars` — no slot adds a delimiter to a page
* `Page.markup_eq_of_shape_eq` — pages of the same shape have the same markup

## Design notes

**A shape is a surface again**, one whose texts are empty. So what is to be shown of two surfaces is
shown of each of them by itself, and pieces need no second definition.
-/

namespace GraphBrowser

/-! ### Pieces without texts -/

namespace Piece

/-- A piece of markup as it is, or a slot without its text. -/
def blank : Piece → Piece
  | .markup source => .markup source
  | .slot _ => .slot ""

/-- **No slot adds a delimiter.** -/
theorem isDelimiter_of_mem_chars_slot {text : String} {c : Char} (h : c ∈ (slot text).chars) :
    Text.isDelimiter c = false :=
  Text.isDelimiter_of_mem_escape h

/-- The delimiters of a piece are those of its markup. -/
theorem filter_isDelimiter_chars (piece : Piece) :
    piece.chars.filter Text.isDelimiter = piece.blank.chars.filter Text.isDelimiter := by
  cases piece with
  | markup source => rfl
  | slot text =>
      have hnone : (slot text).chars.filter Text.isDelimiter = [] := by
        rw [List.filter_eq_nil_iff]
        intro c hmem
        rw [isDelimiter_of_mem_chars_slot hmem]
        exact Bool.false_ne_true
      rw [hnone]
      rfl

/-- **The delimiters of consecutive pieces are those of their markup.** -/
theorem filter_isDelimiter_allChars (pieces : List Piece) :
    (allChars pieces).filter Text.isDelimiter =
      (allChars (pieces.map blank)).filter Text.isDelimiter := by
  induction pieces with
  | nil => rfl
  | cons piece pieces ih =>
      rw [List.map_cons, allChars_cons, allChars_cons, List.filter_append, List.filter_append, ih,
        filter_isDelimiter_chars]

end Piece

/-! ### Shapes -/

/-- A row of properties without its texts. -/
def PropertyRow.shape (_ : PropertyRow) : PropertyRow := ⟨"", ""⟩

/-- A table of properties without its texts. -/
def PropertyTable.shape (table : PropertyTable) : PropertyTable :=
  ⟨table.rows.map PropertyRow.shape⟩

/-- One end of a relationship without its texts. -/
def Endpoint.shape : Endpoint → Endpoint
  | .thisNode _ => .thisNode ""
  | .link _ _ => .link "" ""

mutual

/-- A block without its texts. -/
def Block.shape : Block → Block
  | .heading _ => .heading ""
  | .properties table => .properties table.shape
  | .relationships ⟨mode, rows⟩ => .relationships ⟨mode, RelationshipRow.allShapes rows⟩

/-- The rows of a relationship table without their texts. -/
def RelationshipRow.allShapes : List RelationshipRow → List RelationshipRow
  | [] => []
  | ⟨start, _, finish, none⟩ :: rest =>
    ⟨start.shape, "", finish.shape, none⟩ :: RelationshipRow.allShapes rest
  | ⟨start, _, finish, some ⟨_, container⟩⟩ :: rest =>
    ⟨start.shape, "", finish.shape, some ⟨"", Block.allShapes container⟩⟩ ::
      RelationshipRow.allShapes rest

/-- Consecutive blocks without their texts. -/
def Block.allShapes : List Block → List Block
  | [] => []
  | block :: rest => block.shape :: Block.allShapes rest

end

/-- A surface without its texts. -/
def Surface.shape (surface : Surface) : Surface := ⟨Block.allShapes surface.blocks⟩

/-! ### The markup of a surface -/

/-- The markup of a table of properties is that of its shape. -/
theorem PropertyTable.blank_pieces (table : PropertyTable) :
    table.pieces.map Piece.blank = table.shape.pieces.map Piece.blank := by
  simp only [pieces, shape, List.map_cons, List.map_append, List.map_flatMap, List.flatMap_map]
  rfl

section

variable (targets targets' : LinkTargets)

/-- The markup of one end of a relationship is that of its shape. -/
theorem Endpoint.blank_pieces (endpoint : Endpoint) :
    (endpoint.pieces targets).map Piece.blank =
      (endpoint.shape.pieces targets').map Piece.blank := by
  cases endpoint <;> rfl

/-- So is the markup of a row up to its end node. -/
theorem RelationshipRow.blank_leadPieces (start : Endpoint) (relType : String) (finish : Endpoint) :
    (leadPieces targets start relType finish).map Piece.blank =
      (leadPieces targets' start.shape "" finish.shape).map Piece.blank := by
  simp only [leadPieces, List.map_cons, List.map_append, start.blank_pieces targets targets',
    finish.blank_pieces targets targets']
  rfl

/-- The markup of an expand control does not depend on where it leads. -/
theorem Expander.blank_leadPieces (row row' : Nat) (target target' : String) :
    (leadPieces targets row target).map Piece.blank =
      (leadPieces targets' row' target').map Piece.blank :=
  rfl

mutual

/-- The markup of a block is that of its shape. -/
theorem Block.blank_pieces : ∀ block : Block,
    (block.pieces targets).map Piece.blank = (block.shape.pieces targets').map Piece.blank
  | .heading _ => rfl
  | .properties table => table.blank_pieces
  | .relationships ⟨mode, rows⟩ => by
      simp only [Block.pieces, Block.shape, List.map_append,
        RelationshipRow.blank_allPieces rows 0]

/-- The markup of the rows of a relationship table is that of their shapes. -/
theorem RelationshipRow.blank_allPieces : ∀ (rows : List RelationshipRow) (index : Nat),
    (RelationshipRow.allPieces targets index rows).map Piece.blank =
      (RelationshipRow.allPieces targets' index (RelationshipRow.allShapes rows)).map Piece.blank
  | [], _ => rfl
  | ⟨start, relType, finish, none⟩ :: rest, index => by
      simp only [RelationshipRow.allPieces, RelationshipRow.allShapes, List.map_append,
        List.map_cons, RelationshipRow.blank_leadPieces targets targets' start,
        RelationshipRow.blank_allPieces rest (index + 1)]
  | ⟨start, relType, finish, some ⟨target, container⟩⟩ :: rest, index => by
      simp only [RelationshipRow.allPieces, RelationshipRow.allShapes, List.map_append,
        List.map_cons, RelationshipRow.blank_leadPieces targets targets' start,
        Expander.blank_leadPieces targets targets' index index target "",
        Block.blank_allPieces container, RelationshipRow.blank_allPieces rest (index + 1)]

/-- **The markup of consecutive blocks is that of their shapes.** -/
theorem Block.blank_allPieces : ∀ blocks : List Block,
    (Block.allPieces targets blocks).map Piece.blank =
      (Block.allPieces targets' (Block.allShapes blocks)).map Piece.blank
  | [] => rfl
  | block :: rest => by
      simp only [Block.allPieces, Block.allShapes, List.map_append, Block.blank_pieces block,
        Block.blank_allPieces rest]

end

/-- **The markup of a surface is that of its shape**, wherever its links lead. -/
theorem Surface.blank_pieces (surface : Surface) :
    (surface.pieces targets).map Piece.blank =
      (surface.shape.pieces targets').map Piece.blank :=
  Block.blank_allPieces targets targets' surface.blocks

end

/-! ### The markup of a page -/

namespace Page

/-- The markup of the controls does not depend on what is typed into them. -/
theorem blank_controlsPieces (controls controls' : Controls) :
    (controlsPieces controls).map Piece.blank = (controlsPieces controls').map Piece.blank := rfl

/-- The markup of alerts depends on their number only. -/
theorem blank_alertPieces {alerts alerts' : List Alert} (h : alerts.length = alerts'.length) :
    (alerts.flatMap alertPieces).map Piece.blank =
      (alerts'.flatMap alertPieces).map Piece.blank := by
  induction alerts generalizing alerts' with
  | nil => rw [List.length_eq_zero_iff.mp h.symm]
  | cons alert alerts ih =>
      cases alerts' with
      | nil => cases h
      | cons alert' alerts' =>
          rw [List.flatMap_cons, List.flatMap_cons, List.map_append, List.map_append,
            ih (Nat.succ.inj h)]
          rfl

/-- **Texts cannot change the markup of a page.**  Let two pages have as many alerts as each other
and surfaces that differ in their texts at most. Then they consist of the same markup and differ in
what is written into its slots. What is written there has no delimiter, so that the delimiters of
the pages are the same, in the same order. This holds whether links lead to the store or to the
host. -/
theorem markup_eq_of_shape_eq (targets : LinkTargets) (controls controls' : Controls)
    (alerts alerts' : List Alert) (surface surface' : Surface)
    (halerts : alerts.length = alerts'.length) (hshape : surface.shape = surface'.shape) :
    let page := pieces controls alerts (surface.pieces targets)
    let page' := pieces controls' alerts' (surface'.pieces targets)
    page.map Piece.blank = page'.map Piece.blank ∧
    (∀ text, .slot text ∈ page ++ page' →
      ∀ c ∈ (Piece.slot text).chars, c ∉ ['<', '>', '\'', '"']) ∧
    (Piece.html page).toList.filter Text.isDelimiter =
      (Piece.html page').toList.filter Text.isDelimiter := by
  intro page page'
  have hsurface : (surface.pieces targets).map Piece.blank =
      (surface'.pieces targets).map Piece.blank := by
    rw [surface.blank_pieces targets targets, hshape, ← surface'.blank_pieces targets targets]
  have hpieces : page.map Piece.blank = page'.map Piece.blank := by
    simp only [page, page', pieces, List.map_cons, List.map_append,
      blank_controlsPieces controls controls', blank_alertPieces halerts, hsurface]
  refine ⟨hpieces, ?_, ?_⟩
  · intro text _ c hmem hdelimiter
    have hnot : Text.isDelimiter c = false := Piece.isDelimiter_of_mem_chars_slot hmem
    rw [Text.isDelimiter, ← Bool.not_eq_true, List.contains_iff_mem] at hnot
    exact hnot hdelimiter
  · rw [Piece.toList_html, Piece.toList_html, Piece.filter_isDelimiter_allChars, hpieces,
      ← Piece.filter_isDelimiter_allChars]

/-- A name and a text that would add a script to a page, in all the places that there are for texts.
The text reaches the page, but not its markup. -/
theorem markup_of_hostile_text :
    let surface (text : String) : Surface := ⟨[.heading text, .properties ⟨[⟨text, text⟩]⟩,
      .relationships ⟨.expanding, [⟨.thisNode text, text, .link text text,
        some ⟨text, [.heading text, .properties ⟨[⟨text, text⟩]⟩]⟩⟩]⟩]⟩
    let page (text : String) : List Piece :=
      pieces ⟨text⟩ [⟨text, none⟩] ((surface text).pieces .hosted)
    let hostile := "'/><script>alert(\"&\")</script>"
    (surface "Ada").shape = (surface hostile).shape ∧
    .slot hostile ∈ page hostile ∧
    (∀ c ∈ (Piece.slot hostile).chars, c ∉ ['<', '>', '\'', '"']) ∧
    (page "Ada").map Piece.blank = (page hostile).map Piece.blank ∧
    (Piece.html (page "Ada")).toList.filter Text.isDelimiter =
      (Piece.html (page hostile)).toList.filter Text.isDelimiter := by
  intro surface page hostile
  have hshape : (surface "Ada").shape = (surface hostile).shape := rfl
  have hreaches : .slot hostile ∈ page hostile := by simp [page, pieces, controlsPieces]
  obtain ⟨hmarkup, hslots, hdelimiters⟩ := markup_eq_of_shape_eq .hosted ⟨"Ada"⟩ ⟨hostile⟩
    [⟨"Ada", none⟩] [⟨hostile, none⟩] (surface "Ada") (surface hostile) rfl hshape
  refine ⟨hshape, hreaches, hslots hostile (List.mem_append_right _ hreaches), ?_, ?_⟩
  · with_reducible exact hmarkup
  · with_reducible exact hdelimiters

end Page

end GraphBrowser
