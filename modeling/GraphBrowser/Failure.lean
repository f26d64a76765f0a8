/-!
# Failures

What may keep a node or its relationships from being shown.

## Main definitions

* `Failure` — the four kinds of failure
* `Failure.message` — what the reader is told
* `Failure.url?` — the resource that the failure is about, if it is about one
-/

namespace GraphBrowser

/-- The reason why something is not shown. -/
inductive Failure where
  /-- A request that was not answered, or not with success. -/
  | fetch (url status : String)
  /-- An answer that is not the resource that was asked for. -/
  | malformed (url reason : String)
  /-- A row without an expand control. -/
  | unboundRow (row : Nat)
  /-- A configuration that cannot work. -/
  | badConfig (reason : String)
deriving Repr, DecidableEq

namespace Failure

/-- The wording of a failure. -/
def message : Failure → String
  | .fetch url status => "Request for " ++ url ++ " failed: " ++ status
  | .malformed url reason => "Malformed response from " ++ url ++ ": " ++ reason
  | .unboundRow row => "No link bound to row " ++ toString row
  | .badConfig reason => "Invalid configuration: " ++ reason

/-- The resource that a failure is about. -/
def url? : Failure → Option String
  | .fetch url _ => some url
  | .malformed url _ => some url
  | .unboundRow _ => none
  | .badConfig _ => none

end Failure

end GraphBrowser
