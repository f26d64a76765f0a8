import GraphBrowser.Store.Network

/-!
# Described stores

A store can be described by a JSON object that has a reply for each address. A reply is an object
with a status, a body and a fault, each of which may be left out.

## Main definitions

* `Reply.ofJson?` — the reply that an object describes
* `Network.ofJson?`, `Network.ofText?` — the store that an object or its text describes
-/

namespace GraphBrowser

/-- The fault with a name. -/
def Fault.ofName? : String → Option Fault
  | "silent" => some .silent
  | "drop" => some .drop
  | "truncate" => some .truncate
  | _ => none

/-- The reply that a JSON value describes. -/
def Reply.ofJson? : Json → Option Reply
  | .object members => do
    let status ←
      match members.lookup "status" with
      | none => some 200
      | some (.number (.integer code)) => some code.toNat
      | some _ => none
    let body ←
      match members.lookup "body" with
      | none => some ""
      | some (.string text) => some text
      | some _ => none
    let fault ←
      match members.lookup "fault" with
      | none => some none
      | some (.string name) => (Fault.ofName? name).map some
      | some _ => none
    return { status, body := Utf8.bytes body, fault }
  | _ => none

/-- The store that a JSON value describes. -/
def Network.ofJson? : Json → Option Network
  | .object members => do
    let replies ← members.mapM fun member => do
      let reply ← Reply.ofJson? member.2
      return (member.1, reply)
    return { replies }
  | _ => none

/-- The store that a text describes. -/
def Network.ofText? (text : String) : Option Network :=
  match Json.parseText text with
  | .ok value => Network.ofJson? value
  | .error _ => none

end GraphBrowser
