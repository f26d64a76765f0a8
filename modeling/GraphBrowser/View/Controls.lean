import GraphBrowser.Resource.Address

/-!
# Controls

The form above the nodes: one input for the id of the node to go to.

## Main definitions

* `Controls` — the text in the input
* `Controls.showId` — the id of the node that is shown, written into the input
* `Controls.submit`, `Controls.press?` — the address that is gone to

## Design notes

The input does not own what it shows. The id of the node that is shown is written into it when the
load begins, and an input that already holds the id is left alone.
-/

namespace GraphBrowser

/-- A key that is pressed in the input. -/
inductive Key where
  /-- The key that submits the form. -/
  | enter
  /-- A key that types a character. -/
  | char (value : Char)
  /-- Any other key. -/
  | other
deriving Repr, DecidableEq

/-- The form above the nodes. -/
structure Controls where
  /-- The text in the input. -/
  input : String := "node id"
deriving Repr, DecidableEq

namespace Controls

/-- The caption of the form. -/
def label : String := "View node"

/-- The caption of its button. -/
def buttonCaption : String := "Go"

/-- The input with another text. -/
def withInput (_controls : Controls) (text : String) : Controls := ⟨text⟩

/-- The input with the id that is shown, and whether it had to be changed for that. -/
def showId (controls : Controls) (id : String) : Controls × Bool :=
  if controls.input = id then (controls, false) else (⟨id⟩, true)

/-- Whatever it held, the input holds the id that is shown. -/
@[simp] theorem input_showId (controls : Controls) (id : String) :
    (controls.showId id).1.input = id := by
  unfold showId
  split
  · assumption
  · rfl

/-- The id that is typed: the input without the blanks around it. -/
def id (controls : Controls) : String := trimmed controls.input

/-- The address of the node with the typed id. -/
def submit (controls : Controls) (baseUrl : String) : String := nodeAddress baseUrl controls.id

/-- The address that a key goes to, if it is the one that submits. -/
def press? (controls : Controls) (key : Key) (baseUrl : String) : Option String :=
  match key with
  | .enter => some (controls.submit baseUrl)
  | .char _ => none
  | .other => none

end Controls

end GraphBrowser
