import GraphBrowser.Resource.Property
import GraphBrowser.View.Surface

/-!
# Properties on display

The blocks that show a node and its properties.

## Main definitions

* `nodeTitle` — the heading above a node
* `Properties.table`, `Properties.blocks` — the table of properties, and the heading with it
-/

namespace GraphBrowser

/-- The heading above the properties of a node. -/
def nodeTitle (id : String) : Block := .heading ("Node " ++ id)

namespace Properties

/-- The table of the properties, one row for each in order. -/
def table (properties : Properties) : PropertyTable :=
  ⟨properties.entries.map fun entry => ⟨entry.1, entry.2.display⟩⟩

/-- The blocks that show properties, on the surface as well as in a container. -/
def blocks (properties : Properties) : List Block :=
  [.heading "Properties", .properties properties.table]

end Properties

end GraphBrowser
