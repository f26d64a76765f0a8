import GraphBrowser.Navigation.Task

/-!
# Runs

A run is a sequence of events: commands start tasks, answers resume them, and now and then the page
takes the alerts away. Tasks are numbered in the order in which they start.

## Main definitions

* `Event` — one thing that happens
* `World` — the state of the browser together with all tasks that were started
* `World.step`, `World.run` — the world after an event, and after a list of events

## Design notes

**Every order of answers is a list of events.** An answer for a task that does not wait changes
nothing, so that lists of events need no side condition.
-/

namespace GraphBrowser

/-- One thing that happens. -/
inductive Event where
  /-- A command starts a task. -/
  | start (command : Command)
  /-- The task with a number gets the answer that it waits for. -/
  | resume (task : Nat) (answer : Answer)
  /-- The alerts are taken away. -/
  | takeAlerts

/-- The browser and its tasks. -/
structure World where
  /-- The state of the browser. -/
  state : BrowserState := {}
  /-- What has become of each task, in the order in which they were started. -/
  tasks : List Progress := []

namespace World

/-- The world before the first event. -/
def initial : World := {}

/-- The task with a number, if it waits. -/
def waiting? (w : World) (task : Nat) : Option Suspended :=
  match w.tasks[task]? with
  | some (.waiting suspended) => some suspended
  | some (.ended _) => none
  | none => none

/-- The result of the task with a number, if it has ended. -/
def result? (w : World) (task : Nat) : Option Result :=
  match w.tasks[task]? with
  | some (.ended result) => some result
  | some (.waiting _) => none
  | none => none

/-- The world after a command. -/
def start (config : Config) (w : World) (command : Command) : World :=
  let started := command.start config w.state
  ⟨started.1, w.tasks ++ [started.2]⟩

/-- The world after an answer for a task. -/
def resume (config : Config) (w : World) (task : Nat) (answer : Answer) : World :=
  match w.waiting? task with
  | some suspended =>
    let resumed := suspended.resume config w.state answer
    ⟨resumed.1, w.tasks.set task resumed.2⟩
  | none => w

/-- The world without alerts. -/
def takeAlerts (w : World) : World :=
  { w with state := { w.state with alerts := w.state.alerts.takeAll.2 } }

/-- The world after an event. -/
def step (config : Config) (w : World) : Event → World
  | .start command => w.start config command
  | .resume task answer => w.resume config task answer
  | .takeAlerts => w.takeAlerts

/-- The world after a list of events. -/
def run (config : Config) (w : World) : List Event → World
  | [] => w
  | event :: events => run config (w.step config event) events

@[simp] theorem run_nil (config : Config) (w : World) : w.run config [] = w := rfl

@[simp] theorem run_cons (config : Config) (w : World) (event : Event) (events : List Event) :
    w.run config (event :: events) = (w.step config event).run config events := rfl

@[simp] theorem run_append (config : Config) (w : World) (events more : List Event) :
    w.run config (events ++ more) = (w.run config events).run config more := by
  induction events generalizing w with
  | nil => rfl
  | cons event events ih => simp [ih]

/-- The number of resources that the task with a number may still ask for. -/
def stagesLeft (w : World) (task : Nat) : Nat :=
  match w.waiting? task with
  | some suspended => suspended.stagesLeft
  | none => 0

/-- An answer brings the task that waits for it nearer to its end. -/
theorem stagesLeft_resume_lt {config : Config} {w : World} {task : Nat} {suspended : Suspended}
    (answer : Answer) (h : w.waiting? task = some suspended) :
    (w.resume config task answer).stagesLeft task < w.stagesLeft task := by
  have hlt : task < w.tasks.length := by
    rcases Nat.lt_or_ge task w.tasks.length with hlt | hge
    · exact hlt
    · simp [waiting?, List.getElem?_eq_none hge] at h
  cases hr : suspended.resume config w.state answer with
  | mk s' progress =>
    have hw : (w.resume config task answer).waiting? task =
        match progress with
        | .waiting next => some next
        | .ended _ => none := by
      simp only [resume, h, hr]
      simp only [waiting?, List.getElem?_set_self hlt]
      cases progress <;> rfl
    simp only [stagesLeft, h, hw]
    cases progress with
    | waiting next => exact Suspended.stagesLeft_lt_of_resume hr
    | ended result => cases suspended <;> simp [Suspended.stagesLeft]

end World

end GraphBrowser
