import GraphBrowser.Text.Blank

/-!
# The current node

The id of the node that is shown. It decides which end of a relationship is the node itself.

## Main definitions

* `CurrentNode` — the memory of the id
* `CurrentNode.set`, `CurrentNode.isCurrent` — changing it, and comparing another id with it
-/

namespace GraphBrowser

/-- The id of the node that is shown, without blanks around it. -/
structure CurrentNode where
  /-- The id, if a node has been shown at all. -/
  id : Option String := none
deriving Repr, DecidableEq

namespace CurrentNode

/-- The memory with another id, and whether that changed anything. -/
def set (current : CurrentNode) (id : String) : CurrentNode × Bool :=
  if current.id = some (trimmed id) then (current, false) else (⟨some (trimmed id)⟩, true)

/-- Whatever was shown, the id is current once it is set. -/
@[simp] theorem id_set (current : CurrentNode) (id : String) :
    (current.set id).1.id = some (trimmed id) := by
  unfold set
  split
  · assumption
  · rfl

/-- Whether the id is that of the node that is shown. -/
def isCurrent (current : CurrentNode) (id : String) : Bool :=
  current.id == some (trimmed id)

end CurrentNode

end GraphBrowser
