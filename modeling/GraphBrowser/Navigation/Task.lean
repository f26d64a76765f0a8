import GraphBrowser.Navigation.State
import GraphBrowser.Resource.Node

/-!
# Tasks

What the reader asks for is done by tasks. A task runs until it needs a resource, waits for the
answer of the store, and goes on with it; between two such points nothing else happens. Several
tasks may wait at once.

## Main definitions

* `Command` — what the reader may ask for
* `Suspended` — a task that waits for a resource, with all that it remembers
* `Progress` — a task waits or has ended with a result
* `Intent` — what a command comes down to: a load, an expansion or nothing
* `Command.start` — the first stretch of a task
* `Suspended.resume` — the stretch after an answer

## Design notes

**A waiting task is data.** Starting and resuming are functions of the state, so that any order of
answers is a composition of them.

**A stretch looks at its token before it looks at the answer.** A load whose token is not the latest
and an expansion that a newer load, table or expansion has overtaken end without any effect,
whether the store has answered with success or not.
-/

namespace GraphBrowser

/-- What the store has for an address: a body, or the failure to get one. -/
abbrev Answer := Except Failure Json

/-- How a task ends that does not fail. -/
inductive Outcome where
  /-- All that was asked for is on display. -/
  | rendered
  /-- Something newer has taken over. -/
  | superseded
  /-- There was nothing to do. -/
  | ignored
deriving Repr, DecidableEq

/-- How a task ends. -/
abbrev Result := Except Failure Outcome

/-- What the reader may ask for. -/
inductive Command where
  /-- Shows the first node below what is on display. -/
  | showFirst
  /-- Shows the node at an address below what is on display. -/
  | showBelow (url : String)
  /-- Shows the node at an address instead of what is on display. -/
  | showInstead (url : String)
  /-- Types an id into the controls and goes to its node. -/
  | goTo (input : String)
  /-- Presses a key in the controls. -/
  | pressKey (key : Key)
  /-- Shows the node that a row leads to in the container of the row. -/
  | expandRow (row : Nat)
  /-- Follows a link. -/
  | follow (link : Link)
deriving Repr, DecidableEq

/-- A load that is going on. -/
structure Load where
  /-- Its token. -/
  token : Nat
  /-- The id of its node. -/
  id : String
deriving Repr, DecidableEq

/-- An expansion that is going on. -/
structure Expansion where
  /-- The token of the load that was the latest when it started. -/
  viewToken : Nat
  /-- Its own token. -/
  token : Nat
  /-- Its row. -/
  row : Nat
deriving Repr, DecidableEq

/-- A task that waits for the resource at an address. -/
inductive Suspended where
  /-- A load waits for its node. -/
  | node (load : Load) (url : String)
  /-- A load waits for the relationships of its node. -/
  | relationships (load : Load) (url : String)
  /-- An expansion waits for its node. -/
  | expansion (expansion : Expansion) (url : String)
deriving Repr, DecidableEq

namespace Suspended

/-- The address that a task waits for. -/
def url : Suspended → String
  | .node _ url => url
  | .relationships _ url => url
  | .expansion _ url => url

/-- The number of resources that a task may still ask for, the awaited one included. -/
def stagesLeft : Suspended → Nat
  | .node _ _ => 2
  | .relationships _ _ => 1
  | .expansion _ _ => 1

end Suspended

/-- What has become of a task. -/
inductive Progress where
  /-- It waits. -/
  | waiting (task : Suspended)
  /-- It has ended. -/
  | ended (result : Result)

/-- The number of resources that a task may still ask for. -/
def Progress.stagesLeft : Progress → Nat
  | .waiting task => task.stagesLeft
  | .ended _ => 0

/-! ### Starting -/

namespace BrowserState

/-- Whether a load is the latest. -/
def isLatest (s : BrowserState) (load : Load) : Bool :=
  s.loads.isCurrent load.token

/-- Begins a load that has its token already, unless something newer has taken over. -/
def loadWith (s : BrowserState) (load : Load) (url : String) : BrowserState × Progress :=
  if s.isLatest load then (s.beginLoad load.id, .waiting (.node load url))
  else (s, .ended (.ok .superseded))

/-- Starts the load of the node at an address under an id, with a new token. -/
def load (s : BrowserState) (url id : String) : BrowserState × Progress :=
  let s := s.advance
  s.loadWith ⟨s.loads.latest, trimmed id⟩ url

/-- Nothing comes between a new token and the look at it, so that a load always begins. -/
theorem load_eq (s : BrowserState) (url id : String) :
    s.load url id =
      (s.advance.beginLoad (trimmed id), .waiting (.node ⟨s.loads.latest + 1, trimmed id⟩ url)) := by
  simp [load, loadWith, isLatest, LoadCounter.isCurrent, advance]

/-- Clears the view and starts the load of the node at an address under an id. -/
def replaceView (s : BrowserState) (url id : String) : BrowserState × Progress :=
  s.clearView.load url id

/-- Puts the heading of the node that a row leads to into its container and starts to expand it. The
row needs both an expand link and a container; without them nothing changes. -/
def expand (s : BrowserState) (row : Nat) : BrowserState × Progress :=
  match s.expandTarget? row with
  | none => (s, .ended (.error (.unboundRow row)))
  | some url =>
    match s.surface.updateContainer? row fun _ => [nodeTitle (resourceId url)] with
    | none => (s, .ended (.error (.unboundRow row)))
    | some surface =>
      let token := s.lastExpansion + 1
      ({ s with
          surface
          lastExpansion := token
          expansions := s.expansions.insert row token },
        .waiting (.expansion ⟨s.loads.latest, token, row⟩ url))

end BrowserState

/-- What a command comes down to. -/
inductive Intent where
  /-- To load the node at an address under an id, below what is on display. -/
  | append (url id : String)
  /-- To load the node at an address under an id, instead of what is on display; the controls hold
  what has been typed. -/
  | replace (controls : Controls) (url id : String)
  /-- To expand a row. -/
  | expand (row : Nat)
  /-- To do nothing. -/
  | nothing
deriving Repr, DecidableEq

/-- What a command comes down to, with the controls as they are. -/
def Command.intent (config : Config) (controls : Controls) : Command → Intent
  | .showFirst => .append config.firstAddress (resourceId config.firstAddress)
  | .showBelow url => .append url (resourceId url)
  | .showInstead url => .replace controls url (resourceId url)
  | .goTo input =>
    let typed := controls.withInput input
    .replace typed (typed.submit config.baseUrl) typed.id
  | .pressKey key =>
    match controls.press? key config.baseUrl with
    | some url => .replace controls url controls.id
    | none => .nothing
  | .expandRow row => .expand row
  | .follow link =>
    match link.action with
    | .navigate => .replace controls link.target (resourceId link.target)
    | .expand => .expand link.row

/-- The first stretch of the task for an intent. -/
def Intent.start (s : BrowserState) : Intent → BrowserState × Progress
  | .append url id => s.load url id
  | .replace controls url id => { s with controls }.replaceView url id
  | .expand row => s.expand row
  | .nothing => (s, .ended (.ok .ignored))

/-- The first stretch of the task for a command. -/
def Command.start (config : Config) (s : BrowserState) (command : Command) :
    BrowserState × Progress :=
  (command.intent config s.controls).start s

/-! ### Resuming -/

namespace BrowserState

/-- Whether nothing has overtaken an expansion. -/
def isFresh (s : BrowserState) (e : Expansion) : Bool :=
  s.loads.isCurrent e.viewToken && s.expansions.token? e.row == some e.token

/-- Goes on with a load whose node has been answered. -/
def resumeNode (s : BrowserState) (load : Load) : Except Failure Node → BrowserState × Progress
  | .ok node =>
    (s.showProperties node.properties, .waiting (.relationships load node.allRelationships))
  | .error failure => (s.endLoadWith failure, .ended (.error failure))

/-- Ends a load whose relationships have been answered. -/
def resumeRelationships (config : Config) (s : BrowserState) (load : Load) :
    Except Failure (List Relationship) → BrowserState × Progress
  | .ok relationships =>
    let currentId := s.current.id.getD load.id
    (s.showRelationships (.ofRelationships relationships currentId config.tableMode),
      .ended (.ok .rendered))
  | .error failure => (s.endLoadWith failure, .ended (.error failure))

/-- Ends an expansion whose node has been answered. -/
def resumeExpansion (s : BrowserState) (e : Expansion) :
    Except Failure Node → BrowserState × Progress
  | .ok node =>
    match s.surface.updateContainer? e.row (· ++ node.properties.blocks) with
    | some surface => ({ s with surface }, .ended (.ok .rendered))
    | none => (s, .ended (.error (.unboundRow e.row)))
  | .error failure => (s.alert failure, .ended (.error failure))

end BrowserState

/-- The node in an answer. -/
def Answer.node (answer : Answer) (url : String) : Except Failure Node :=
  answer >>= Node.ofJson url

/-- The relationships in an answer. -/
def Answer.relationships (answer : Answer) (url : String) : Except Failure (List Relationship) :=
  answer >>= Relationship.listOfJson url

/-- The stretch of a task that follows the answer it has waited for. -/
def Suspended.resume (config : Config) (s : BrowserState) (answer : Answer) :
    Suspended → BrowserState × Progress
  | .node load url =>
    if s.isLatest load then s.resumeNode load (answer.node url)
    else (s, .ended (.ok .superseded))
  | .relationships load url =>
    if s.isLatest load then s.resumeRelationships config load (answer.relationships url)
    else (s, .ended (.ok .superseded))
  | .expansion e url =>
    if s.isFresh e then s.resumeExpansion e (answer.node url)
    else (s, .ended (.ok .superseded))

/-- Each answer brings a task nearer to its end. -/
theorem Suspended.stagesLeft_lt_of_resume {config : Config} {s s' : BrowserState} {answer : Answer}
    {task next : Suspended} (h : task.resume config s answer = (s', .waiting next)) :
    next.stagesLeft < task.stagesLeft := by
  cases task with
  | node load url =>
    simp only [resume, BrowserState.resumeNode] at h
    split at h
    · split at h
      · obtain ⟨-, h⟩ := Prod.mk.inj h
        cases h
        simp [stagesLeft]
      · simp at h
    · simp at h
  | relationships load url =>
    simp only [resume, BrowserState.resumeRelationships] at h
    split at h
    · split at h <;> simp at h
    · simp at h
  | expansion e url =>
    simp only [resume, BrowserState.resumeExpansion] at h
    split at h
    · split at h
      · split at h <;> simp at h
      · simp at h
    · simp at h

end GraphBrowser
