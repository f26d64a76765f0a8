import GraphBrowser.Json.Parser
import GraphBrowser.Navigation.Task
import GraphBrowser.Store.Status
import GraphBrowser.Store.WebAddress

/-!
# The network

A store as it is seen through the network: it has a reply for each address, and a reply may go wrong
on its way.

## Main definitions

* `Reply`, `Fault` — what the store sends, and what may happen to it
* `Network` — a store and whether it can be reached
* `Network.fetch` — the answer to a request
* `Network.requests` — the requests that reach the store

## Design notes

**What goes wrong first is what is reported**: an address that is none, a store that is out of
reach, a reply that does not come, a status other than success, a body that ends early, and at last
a body that is no JSON text.
-/

namespace GraphBrowser

/-- What may happen to a reply. -/
inductive Fault where
  /-- The reply does not come. -/
  | silent
  /-- The connection is closed without a reply. -/
  | drop
  /-- The body ends early. -/
  | truncate
deriving Repr, DecidableEq

/-- What the store sends. -/
structure Reply where
  /-- The status code. -/
  status : Nat := 200
  /-- The bytes of the body. -/
  body : List UInt8 := []
  /-- What happens to the reply, if something does. -/
  fault : Option Fault := none
deriving Repr, DecidableEq

/-- A store and the way to it. -/
structure Network where
  /-- Whether connections can be made. -/
  connected : Bool := true
  /-- Whether the store refuses connections. -/
  refuses : Bool := false
  /-- The replies by address. -/
  replies : List (String × Reply) := []
deriving Repr, DecidableEq

namespace Reply

/-- There is nothing at the address. -/
def notFound : Reply := { status := 404 }

/-- The answer to a request for which the store has this reply. -/
def answer (url : String) (reply : Reply) : Answer :=
  match reply.fault with
  | some .silent => .error (.fetch url "timeout")
  | some .drop => .error (.fetch url ("error sending request for url (" ++ url ++ ")"))
  | fault =>
    if Status.isSuccess reply.status then
      if fault = some .truncate then .error (.fetch url "error decoding response body")
      else
        match Json.parse reply.body with
        | .ok value => .ok value
        | .error e => .error (.malformed url e.message)
    else .error (.fetch url (Status.text reply.status))

end Reply

namespace Network

/-- Whether a request for an address reaches the store. -/
def reaches (network : Network) (url : String) : Bool :=
  WebAddress.isValid url && network.connected && !network.refuses

/-- The answer to a request. -/
def fetch (network : Network) (url : String) : Answer :=
  if WebAddress.isValid url then
    if network.reaches url then ((network.replies.lookup url).getD .notFound).answer url
    else .error (.fetch url "connection failed")
  else .error (.fetch url "invalid url")

/-- The addresses among those asked for whose requests reach the store. -/
def requests (network : Network) (fetched : List String) : List String :=
  fetched.filter network.reaches

end Network

end GraphBrowser
