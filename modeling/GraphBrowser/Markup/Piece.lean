import GraphBrowser.Text.Escaped

/-!
# Pieces of a page

A page is a sequence of fixed markup with slots for text between it.

## Main definitions

* `Piece` — a piece of markup or a slot
* `Piece.chars`, `Piece.html` — the pieces written out

## Design notes

**Text only ever reaches a page through a slot, and a slot is escaped when it is written.** What the
store or the reader supplies cannot add markup, because nothing else but the shape of what is shown
chooses the markup pieces.
-/

namespace GraphBrowser

/-- A piece of a page. -/
inductive Piece where
  /-- Markup, which is written as it is. -/
  | markup (source : String)
  /-- A text, which is escaped. -/
  | slot (text : String)
deriving Repr, DecidableEq

namespace Piece

/-- The characters of a piece. -/
def chars : Piece → List Char
  | .markup source => source.toList
  | .slot text => Text.escape text.toList

/-- The characters of consecutive pieces. -/
def allChars : List Piece → List Char
  | [] => []
  | piece :: rest => piece.chars ++ allChars rest

@[simp] theorem allChars_nil : allChars [] = [] := rfl

@[simp] theorem allChars_cons (piece : Piece) (rest : List Piece) :
    allChars (piece :: rest) = piece.chars ++ allChars rest := rfl

@[simp] theorem allChars_append (pieces rest : List Piece) :
    allChars (pieces ++ rest) = allChars pieces ++ allChars rest := by
  induction pieces with
  | nil => rfl
  | cons piece pieces ih => simp [ih]

/-- The text of consecutive pieces. -/
def html (pieces : List Piece) : String := String.ofList (allChars pieces)

/-- As a list of characters, the text is what the pieces are written as. -/
@[simp] theorem toList_html (pieces : List Piece) : (html pieces).toList = allChars pieces := by
  simp [html]

end Piece

end GraphBrowser
