import GraphBrowser.Config
import GraphBrowser.Navigation.LoadCounter
import GraphBrowser.View.Alert
import GraphBrowser.View.Controls
import GraphBrowser.View.CurrentNode
import GraphBrowser.View.Links
import GraphBrowser.View.Properties

/-!
# The state of the browser

All that the browser remembers between two events.

## Main definitions

* `Expansions` — which expansion of a row was started last
* `BrowserState` — the whole state
* `BrowserState.beginLoad`, `BrowserState.clearView` — what happens when a load starts
* `BrowserState.showProperties`, `BrowserState.showRelationships` — what happens when it goes on
* `BrowserState.endLoadWith` — what happens when it fails
-/

namespace GraphBrowser

/-- The tokens of the expansions that were started last, by row. -/
structure Expansions where
  /-- Rows and tokens, at most one token for each row. -/
  tokens : List (Nat × Nat) := []
deriving Repr, DecidableEq

namespace Expansions

/-- No expansion was started. -/
def empty : Expansions := ⟨[]⟩

/-- The token of the last expansion of a row. -/
def token? (expansions : Expansions) (row : Nat) : Option Nat :=
  expansions.tokens.lookup row

/-- The expansions with a new last one for a row. -/
def insert (expansions : Expansions) (row token : Nat) : Expansions :=
  ⟨(row, token) :: expansions.tokens.filter (·.1 != row)⟩

@[simp] theorem token?_empty (row : Nat) : empty.token? row = none := rfl

@[simp] theorem token?_insert_self (expansions : Expansions) (row token : Nat) :
    (expansions.insert row token).token? row = some token := by
  simp [insert, token?]

/-- The other rows keep their tokens. -/
theorem token?_insert_of_ne (expansions : Expansions) {row other : Nat} (token : Nat)
    (h : other ≠ row) : (expansions.insert row token).token? other = expansions.token? other := by
  obtain ⟨tokens⟩ := expansions
  have hne : (other == row) = false := by simp [h]
  simp only [insert, token?, List.lookup_cons, hne]
  induction tokens with
  | nil => rfl
  | cons entry rest ih =>
    obtain ⟨r, t⟩ := entry
    by_cases he : r = row
    · subst he
      rw [List.filter_cons_of_neg (by simp), ih, List.lookup_cons, hne]
    · rw [List.filter_cons_of_pos (by simpa using he), List.lookup_cons, List.lookup_cons, ih]

end Expansions

/-- What the browser remembers. -/
structure BrowserState where
  /-- The node that is shown. -/
  current : CurrentNode := {}
  /-- The form above the nodes. -/
  controls : Controls := {}
  /-- What is on display. -/
  surface : Surface := {}
  /-- The links of the relationship table that was rendered last. -/
  links : List Link := []
  /-- The last expansion of each row. -/
  expansions : Expansions := {}
  /-- The token of the expansion that was started last, zero before the first. -/
  lastExpansion : Nat := 0
  /-- Whether the load that was started last has not ended. -/
  loading : Bool := false
  /-- The token of the load that was started last. -/
  loads : LoadCounter := {}
  /-- The failures that the reader has not been told about. -/
  alerts : AlertQueue := {}

namespace BrowserState

/-- The state before the first event. -/
def initial : BrowserState := {}

/-- The state with a new token for a load. -/
def advance (s : BrowserState) : BrowserState :=
  { s with loads := s.loads.advance }

/-- The state with nothing on display. -/
def clearView (s : BrowserState) : BrowserState :=
  { s with surface := .empty, links := [], expansions := .empty }

/-- The state once the node with an id is being loaded: the id is current and in the controls, and
its heading is on display. -/
def beginLoad (s : BrowserState) (id : String) : BrowserState :=
  { s with
    current := (s.current.set id).1
    controls := (s.controls.showId id).1
    surface := s.surface.append [nodeTitle id]
    loading := true }

/-- The state once the properties of the node that is being loaded are known. -/
def showProperties (s : BrowserState) (properties : Properties) : BrowserState :=
  { s with surface := s.surface.append properties.blocks }

/-- The state once the relationships of the node that is being loaded are known; that ends the
load. -/
def showRelationships (s : BrowserState) (rendered : LinkedTable) : BrowserState :=
  { s with
    surface := s.surface.append rendered.table.blocks
    links := rendered.links
    expansions := .empty
    loading := false }

/-- The state with one more failure to tell about. -/
def alert (s : BrowserState) (failure : Failure) : BrowserState :=
  { s with alerts := s.alerts.add failure }

/-- The state once the load has failed. -/
def endLoadWith (s : BrowserState) (failure : Failure) : BrowserState :=
  { s with loading := false }.alert failure

/-- The address that the expand control of a row leads to. -/
def expandTarget? (s : BrowserState) (row : Nat) : Option String :=
  (s.links.find? fun link => link.row == row && link.action == .expand).map (·.target)

end BrowserState

end GraphBrowser
