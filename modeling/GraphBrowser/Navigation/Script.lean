import GraphBrowser.Json.Parser
import GraphBrowser.Navigation.Run

/-!
# Scripted sessions

A session is a run in which a script plays the store. The script has an answer for each address, and
it may hold back an answer until it is told to release it.

## Main definitions

* `ScriptedAnswer` — what the script has for an address
* `Session` — the world, the script and the answers that are held back
* `Session.settle` — a task goes on until it ends or an answer is held back
* `Session.start`, `Session.release` — the two ways in which tasks go on

## Design notes

**Each hold is used up by one request**, the next one for its address. **Of the tasks whose answers
are held back the one that has waited longest is released first**, and it gets the answer that the
script has by then.
-/

namespace GraphBrowser

/-- What the script has for an address. -/
inductive ScriptedAnswer where
  /-- A body as text. -/
  | body (text : String)
  /-- A status other than success. -/
  | status (text : String)
deriving Repr, DecidableEq

/-- The answer to a request: the value of a body, if it is a JSON text. -/
def ScriptedAnswer.answer (url : String) : ScriptedAnswer → Answer
  | .body text =>
    match Json.parseText text with
    | .ok value => .ok value
    | .error e => .error (.malformed url e.message)
  | .status text => .error (.fetch url text)

/-- A script: addresses with what it has for them, the first entry of an address being the one that
counts. -/
abbrev Script := List (String × ScriptedAnswer)

/-- The answer to a request. There is nothing at other addresses than those of the script. -/
def Script.answer (script : Script) (url : String) : Answer :=
  match script.lookup url with
  | some scripted => scripted.answer url
  | none => .error (.fetch url "404 Not Found")

/-- A run that is played with a script. -/
structure Session where
  /-- The settings of the browser. -/
  config : Config
  /-- The answers of the store. -/
  script : Script := []
  /-- The addresses whose next request is to be held back, one entry for each hold. -/
  holds : List String := []
  /-- The tasks whose answers are held back, the one that has waited longest first. -/
  held : List Nat := []
  /-- The browser and its tasks. -/
  world : World := {}

namespace Session

/-- Lets a task go on that has just asked for a resource, until it ends or an answer is held back;
together with the addresses that it asks for. -/
def settle (session : Session) (task : Nat) : Session × List String :=
  match _h : session.world.waiting? task with
  | none => (session, [])
  | some suspended =>
    if session.holds.contains suspended.url then
      ({ session with
          holds := session.holds.erase suspended.url
          held := session.held ++ [task] },
        [suspended.url])
    else
      let answer := session.script.answer suspended.url
      let resumed := { session with world := session.world.resume session.config task answer }
      let settled := resumed.settle task
      (settled.1, suspended.url :: settled.2)
termination_by session.world.stagesLeft task
decreasing_by exact World.stagesLeft_resume_lt _ _h

/-- Starts a task and lets it go on: the session after that, the number of the task and the
addresses that it has asked for. -/
def start (session : Session) (command : Command) : Session × Nat × List String :=
  let task := session.world.tasks.length
  let started := { session with world := session.world.start session.config command }
  let settled := started.settle task
  (settled.1, task, settled.2)

/-- The task that has waited longest for the answer from an address. -/
def heldAt? (session : Session) (url : String) : Option Nat :=
  session.held.find? fun task => (session.world.waiting? task).map (·.url) == some url

/-- Releases the answer from an address that was held back first and lets its task go on. -/
def release (session : Session) (url : String) : Option (Session × Nat × List String) :=
  match session.heldAt? url with
  | none => none
  | some task =>
    let answer := session.script.answer url
    let resumed :=
      { session with
        held := session.held.erase task
        world := session.world.resume session.config task answer }
    let settled := resumed.settle task
    some (settled.1, task, settled.2)

/-- Holds back the answer to the next request for an address. -/
def hold (session : Session) (url : String) : Session :=
  { session with holds := session.holds ++ [url] }

/-- Changes what the script has for an address. -/
def respond (session : Session) (url : String) (scripted : ScriptedAnswer) : Session :=
  { session with script := (url, scripted) :: session.script }

/-- Takes the alerts away. -/
def takeAlerts (session : Session) : Session :=
  { session with world := session.world.takeAlerts }

end Session

end GraphBrowser
