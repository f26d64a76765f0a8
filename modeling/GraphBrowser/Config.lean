import GraphBrowser.Failure
import GraphBrowser.Resource.Address
import GraphBrowser.View.Surface

/-!
# Configuration

Which store is browsed, where browsing begins and whether relationships can be expanded.

## Main definitions

* `Config` — the settings
* `Config.check` — what is wrong with them, if anything
* `Config.addressOf`, `Config.firstAddress` — addresses in the configured store
-/

namespace GraphBrowser

/-- The settings of a browser. -/
structure Config where
  /-- The base address of the store. -/
  baseUrl : String := "http://localhost:7474/db/data"
  /-- The id of the node that is shown first. -/
  firstNodeId : String := "0"
  /-- Whether the rows of a relationship table have an expand control. -/
  expandable : Bool := true
deriving Repr, DecidableEq

namespace Config

/-- The settings for a store, everything else as it is by default. -/
def forStore (baseUrl : String) : Config := { baseUrl }

/-- Whether the address begins as one of the web does. -/
def isWebAddress (cs : List Char) : Bool :=
  ['h', 't', 't', 'p', ':', '/', '/'].isPrefixOf cs ||
    ['h', 't', 't', 'p', 's', ':', '/', '/'].isPrefixOf cs

/-- Accepts settings with a web address as base and an id to begin with, blanks around either being
ignored. Of two faults the one of the base is reported. -/
def check (config : Config) : Except Failure Unit :=
  if isWebAddress (Text.trim config.baseUrl.toList) then
    if Text.trim config.firstNodeId.toList = [] then
      .error (.badConfig "initial node id is empty")
    else .ok ()
  else
    .error (.badConfig
      ("base url must start with http:// or https://, got '" ++ config.baseUrl ++ "'"))

/-- How relationship tables are rendered. -/
def tableMode (config : Config) : TableMode :=
  if config.expandable then .expanding else .plain

/-- The address of a node of the store. -/
def addressOf (config : Config) (id : String) : String :=
  nodeAddress config.baseUrl id

/-- The address of the node that is shown first. -/
def firstAddress (config : Config) : String :=
  config.addressOf config.firstNodeId

end Config

end GraphBrowser
