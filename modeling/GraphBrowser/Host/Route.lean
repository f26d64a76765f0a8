import GraphBrowser.Host.Response
import GraphBrowser.Markup.Page
import GraphBrowser.Navigation.Completion

/-!
# Routes

The host of the page serves the page itself, a report of the state, and three errands that end with
the way back to the page.

## Main definitions

* `Route`, `Route.ofRequest` — what a request asks for, or the response that rejects it
* `Route.receive`, `Route.resume` — what happens at once on a request, and on an answer to its task
* `Route.conclude` — the response when the task of an errand has ended
* `Host.respond` — the response of a host whose store always answers

## Design notes

**A request that is rejected never reaches the browser.** An errand starts a task; its response is
sent when the task ends, and it is the same however the task ends, unless the row of an expansion
is not bound.
-/

namespace GraphBrowser

/-- What a request asks for. -/
inductive Route where
  /-- The page. -/
  | page
  /-- The report of the state. -/
  | state
  /-- To go to a typed id. -/
  | go (id : String)
  /-- To go to the node at an address. -/
  | navigate (url : String)
  /-- To expand a row. -/
  | expand (row : Nat)
deriving Repr, DecidableEq

namespace Route

/-- A route that needs a query, or the response that rejects the query. -/
def ofQuery {α : Type} (route : α → Route) : Except QueryError α → Except Response Route
  | .ok value => .ok (route value)
  | .error e => .error (.badQuery e)

/-- What a path asks for, together with a query. -/
def ofPath (path query : List Char) : Except Response Route :=
  if path = "/".toList then .ok .page
  else if path = "/state".toList then .ok .state
  else if path = "/go".toList then ofQuery .go (Query.text "id" query)
  else if path = "/navigate".toList then ofQuery .navigate (Query.text "url" query)
  else if path = "/expand".toList then ofQuery .expand (Query.natural "row" query)
  else .error .notFound

/-- The page needs no query. -/
theorem ofPath_page (query : List Char) : ofPath "/".toList query = .ok .page := by
  rw [ofPath, if_pos rfl]

/-- Nor does the report of the state. -/
theorem ofPath_state (query : List Char) : ofPath "/state".toList query = .ok .state := by
  rw [ofPath, if_neg (by decide), if_pos rfl]

/-- The typed id of an errand is in its query. -/
theorem ofPath_go (query : List Char) :
    ofPath "/go".toList query = ofQuery .go (Query.text "id" query) := by
  rw [ofPath, if_neg (by decide), if_neg (by decide), if_pos rfl]

/-- So is the address. -/
theorem ofPath_navigate (query : List Char) :
    ofPath "/navigate".toList query = ofQuery .navigate (Query.text "url" query) := by
  rw [ofPath, if_neg (by decide), if_neg (by decide), if_neg (by decide), if_pos rfl]

/-- So is the row. -/
theorem ofPath_expand (query : List Char) :
    ofPath "/expand".toList query = ofQuery .expand (Query.natural "row" query) := by
  rw [ofPath, if_neg (by decide), if_neg (by decide), if_neg (by decide), if_neg (by decide),
    if_pos rfl]

/-- What a request asks for. Only the method `GET` is known. -/
def ofRequest (request : Request) : Except Response Route :=
  if request.method = "GET" then ofPath request.path request.query else .error .notFound

end Route

/-- The name of a kind of link in a report. -/
def LinkAction.name : LinkAction → String
  | .navigate => "navigate"
  | .expand => "expand"

/-- The name of a place in a row in a report. -/
def LinkPlace.name : LinkPlace → String
  | .start => "start"
  | .finish => "end"
  | .expand => "expand"

/-- A link in a report. -/
def Link.toJson (link : Link) : Json :=
  .object [("row", .natural link.row), ("slot", .string link.place.name),
    ("target_url", .string link.target), ("kind", .string link.action.name)]

namespace BrowserState

/-- The report of the state. The alerts stay where they are. -/
def report (s : BrowserState) : Json :=
  .object [("current_id", .ofOption .string s.current.id), ("loading", .bool s.loading),
    ("generation", .natural s.loads.latest),
    ("bindings", .array (s.links.map Link.toJson)),
    ("notifications", .array (s.alerts.pending.map Alert.toJson))]

/-- The page that shows the state. -/
def page (s : BrowserState) : String :=
  Page.html s.controls s.alerts.pending s.surface

end BrowserState

/-- What follows at once from a request. -/
inductive Reaction where
  /-- The response. -/
  | respond (response : Response)
  /-- A task that has to end before there is a response. -/
  | await (route : Route) (task : Suspended)

namespace Route

/-- The response when the task of an errand has ended. -/
def conclude (route : Route) (result : Result) : Response :=
  match route, result with
  | .expand _, .error (.unboundRow row) => .notExpandable row
  | _, _ => .backToPage

/-- What follows when the task of an errand has got so far. -/
def react (route : Route) : Progress → Reaction
  | .waiting task => .await route task
  | .ended result => .respond (route.conclude result)

/-- What happens at once on a request. The page takes the alerts away. -/
def receive (config : Config) (s : BrowserState) (route : Route) : BrowserState × Reaction :=
  match route with
  | .page => ({ s with alerts := s.alerts.takeAll.2 }, .respond (.page s.page))
  | .state => (s, .respond (.report s.report))
  | .go id =>
    let started := (Command.goTo id).start config s
    (started.1, route.react started.2)
  | .navigate url =>
    let started := (Command.showInstead url).start config s
    (started.1, route.react started.2)
  | .expand row =>
    let started := (Command.expandRow row).start config s
    (started.1, route.react started.2)

/-- What happens when the task of an errand gets the answer that it waits for. -/
def resume (config : Config) (s : BrowserState) (route : Route) (task : Suspended)
    (answer : Answer) : BrowserState × Reaction :=
  let resumed := task.resume config s answer
  (resumed.1, route.react resumed.2)

end Route

/-- A request that has been responded to. -/
structure Exchange where
  /-- The state afterwards. -/
  state : BrowserState
  /-- The response. -/
  response : Response
  /-- The addresses that were asked for, in order. -/
  fetched : List String

namespace Host

/-- What happens at once on a request, whether it is rejected or not. -/
def receive (config : Config) (s : BrowserState) (request : Request) : BrowserState × Reaction :=
  match Route.ofRequest request with
  | .error response => (s, .respond response)
  | .ok route => route.receive config s

/-- The response to a request, in a store that has one answer for each address. -/
def respond (config : Config) (answers : String → Answer) (s : BrowserState) (request : Request) :
    Exchange :=
  match receive config s request with
  | (s', .respond response) => ⟨s', response, []⟩
  | (s', .await route task) =>
    let completion := complete config (.steady answers) s' (.waiting task)
    ⟨completion.state, route.conclude completion.result, completion.fetched⟩

/-- The responses to requests that are sent one after another. -/
def respondAll (config : Config) (answers : String → Answer) (s : BrowserState) :
    List Request → List Exchange
  | [] => []
  | request :: rest =>
    let exchange := respond config answers s request
    exchange :: respondAll config answers exchange.state rest

end Host

end GraphBrowser
