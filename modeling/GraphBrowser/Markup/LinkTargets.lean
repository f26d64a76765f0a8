import GraphBrowser.Text.FormEncoded

/-!
# Link targets

Where the links of a page lead: straight to the resources of the store, or back to the host of the
page, which fetches the resource itself.

## Main definitions

* `LinkTargets` — the target written for a link to a node and for an expand control
* `LinkTargets.direct`, `LinkTargets.hosted` — the two choices
-/

namespace GraphBrowser

/-- What is written as the target of a link. -/
structure LinkTargets where
  /-- For a link to the node at an address. -/
  node : String → String
  /-- For the expand control of a row, which leads to an address. -/
  expand : Nat → String → String

namespace LinkTargets

/-- Links lead straight to the resources of the store. -/
def direct : LinkTargets where
  node url := url
  expand _ url := url

/-- Links lead back to the host, which is told the address of a node or the number of a row. -/
def hosted : LinkTargets where
  node url := "/navigate?url=" ++ String.ofList (FormEncoded.encode url.toList)
  expand row _ := "/expand?row=" ++ toString row

end LinkTargets

end GraphBrowser
