import GraphBrowser.Text.Blank

/-!
# Addresses of nodes

A node is identified by the last segment of its address. The store is known by its base address,
below which the nodes live.

## Main definitions

* `resourceId` — the id in an address
* `nodeAddress` — the address of the node with a given id

## Design notes

**Blanks are removed, then separators, then blanks of the segment**, each step once. A text without
a separator is its own segment and keeps the blanks that the removed separators leave at its end.
An id is never checked to be a number.
-/

namespace GraphBrowser

namespace Address

/-- Whether the character separates segments. -/
def isSeparator (c : Char) : Bool := c == '/'

/-- The address without the blanks around it and the separators at its end. -/
def core (cs : List Char) : List Char :=
  Text.dropEndWhile isSeparator (Text.trim cs)

/-- The last segment of an address. -/
def lastSegment (cs : List Char) : List Char :=
  match Text.afterLast '/' (core cs) with
  | some segment => Text.trim segment
  | none => core cs

/-- The address of a node below a base. -/
def node (base id : List Char) : List Char :=
  core base ++ ['/', 'n', 'o', 'd', 'e', '/'] ++ Text.trim id

end Address

/-- The id in an address: its last segment, separators at the end being ignored. -/
def resourceId (url : String) : String :=
  String.ofList (Address.lastSegment url.toList)

@[simp] theorem toList_resourceId (url : String) :
    (resourceId url).toList = Address.lastSegment url.toList := by
  simp [resourceId]

/-- The address of the node with the given id in the store with the given base. -/
def nodeAddress (base id : String) : String :=
  String.ofList (Address.node base.toList id.toList)

@[simp] theorem toList_nodeAddress (base id : String) :
    (nodeAddress base id).toList = Address.node base.toList id.toList := by
  simp [nodeAddress]

end GraphBrowser
