import GraphBrowser.Log
import GraphBrowser.Navigation.Task

/-!
# Tasks that are left to themselves

A store that always answers lets a task run to its end. On its way the task leaves records in the
log.

## Main definitions

* `Suspended.announced`, `Suspended.noted` — what a task logs when it comes to wait, and when it is
  answered
* `Store` — a store that always answers
* `Completion` — how a task came to its end
* `complete` — a task from one stretch to its end, for such a store

## Design notes

**A store remembers what it was asked for**, so that it may answer two requests for one address in
two ways.

**Records tell apart what the result does not.**  A task that was overtaken ends in the same way
whatever it was answered, but it logs whether it drops a resource or a failure.
-/

namespace GraphBrowser

/-! ### Records of a task -/

namespace LogRecord

/-- The record of a request. -/
def request (url : String) : LogRecord := ⟨.debug, "GET " ++ url⟩

/-- The record of a failure that the reader is told about. -/
def failure (failure : Failure) : LogRecord := ⟨.warn, failure.message⟩

end LogRecord

/-- The record of the failure of a load, of which the reader is told if the load is the latest. -/
def BrowserState.failureRecord (s : BrowserState) (load : Load) (failure : Failure) : LogRecord :=
  if s.isLatest load then .failure failure
  else ⟨.debug, "Dropping failure of superseded load: " ++ failure.message⟩

namespace Suspended

/-- What a task logs when it comes to wait: what it has begun with, and its request. -/
def announced : Suspended → List LogRecord
  | .node load url => [⟨.info, "Loading node " ++ load.id ++ " from " ++ url⟩, .request url]
  | .relationships _ url => [.request url]
  | .expansion e url =>
    [⟨.debug, "Expanding row " ++ toString e.row ++ " inline with " ++ url⟩, .request url]

/-- What a task logs when it is answered. -/
def noted (s : BrowserState) (answer : Answer) : Suspended → List LogRecord
  | .node load url =>
    match answer.node url with
    | .ok _ =>
      if s.isLatest load then [] else [⟨.debug, "Discarding stale node " ++ load.id⟩]
    | .error failure => [s.failureRecord load failure]
  | .relationships load url =>
    match answer.relationships url with
    | .ok found =>
      if s.isLatest load then
        let count := toString found.length
        [⟨.info, "Rendered node " ++ load.id ++ " with " ++ count ++ " relationships"⟩]
      else [⟨.debug, "Discarding stale relationships of node " ++ load.id⟩]
    | .error failure => [s.failureRecord load failure]
  | .expansion e url =>
    if s.isFresh e then
      match answer.node url with
      | .ok _ => []
      | .error failure => [.failure failure]
    else [⟨.debug, "Discarding stale expansion of row " ++ toString e.row⟩]

end Suspended

/-! ### To the end -/

/-- A store that always answers at once. -/
structure Store where
  /-- The answer to a request for an address, after requests for earlier ones. -/
  answer : (earlier : List String) → (url : String) → Answer

namespace Store

/-- A store that has one answer for each address. -/
def steady (answers : String → Answer) : Store := ⟨fun _ => answers⟩

/-- The store after a request for an address. -/
def after (store : Store) (url : String) : Store := ⟨fun earlier => store.answer (url :: earlier)⟩

end Store

/-- How a task came to its end. -/
structure Completion where
  /-- The state at the end. -/
  state : BrowserState
  /-- How the task ended. -/
  result : Result
  /-- The addresses that were asked for, in order. -/
  fetched : List String
  /-- What was logged, in order. -/
  records : List LogRecord

/-- Runs a task to its end in a store that always answers. -/
def complete (config : Config) (store : Store) (s : BrowserState) : Progress → Completion
  | .ended result => ⟨s, result, [], []⟩
  | .waiting task =>
    let answer := store.answer [] task.url
    let records := task.announced ++ task.noted s answer
    match _h : task.resume config s answer with
    | (s', .ended result) => ⟨s', result, [task.url], records⟩
    | (s', .waiting next) =>
      let completion := complete config (store.after task.url) s' (.waiting next)
      { completion with
        fetched := task.url :: completion.fetched
        records := records ++ completion.records }
termination_by progress => progress.stagesLeft
decreasing_by exact Suspended.stagesLeft_lt_of_resume _h

/-- Runs the task for a command to its end in a store that always answers. -/
def Command.run (config : Config) (store : Store) (s : BrowserState) (command : Command) :
    Completion :=
  let started := command.start config s
  complete config store started.1 started.2

end GraphBrowser
