import GraphBrowser.Host.Route
import GraphBrowser.Proofs.Navigation.OneTable

/-!
# Runs of the host

The host loads its first node and receives requests meanwhile and afterwards. An errand may wait for
the store while other requests arrive. Whatever happens, the browser of the host goes through a run
of its own.

## Main definitions

* `HostEvent`, `Hosting` — one thing that happens at the host, and the host with all that goes on
* `Hosting.step`, `Hosting.run` — the host after an event, and after a list of events
* `Request.events` — the events of the browser that a request comes down to
* `Hosting.Follows` — the host is in the state of a world, and the same tasks wait

## Main statements

* `Hosting.exists_run` — **the host goes through a run of the browser** in which only the first load
  is started below what is on display

## Design notes

**Tasks and requests are numbered alike.**  A request that starts no task is counted as a key
without effect, so that the task of a request is always the one with its number, after the first
load.
-/

namespace GraphBrowser

/-- One thing that happens at the host. -/
inductive HostEvent where
  /-- A request arrives. -/
  | request (request : Request)
  /-- The load of the first node gets the answer that it waits for. -/
  | answerFirst (answer : Answer)
  /-- The errand of the request with a number gets the answer that it waits for. -/
  | answerErrand (errand : Nat) (answer : Answer)

/-- The host with all that goes on. -/
structure Hosting where
  /-- The state of the browser. -/
  state : BrowserState
  /-- What has become of the load of the first node. -/
  first : Progress
  /-- What has followed from each request, in the order in which they arrived. -/
  reactions : List Reaction

namespace Hosting

/-- The host when it begins to load its first node. -/
def beginning (config : Config) : Hosting :=
  let started := Command.showFirst.start config .initial
  ⟨started.1, started.2, []⟩

/-- The host after an event. -/
def step (config : Config) (h : Hosting) : HostEvent → Hosting
  | .request request =>
    let received := Host.receive config h.state request
    { h with state := received.1, reactions := h.reactions ++ [received.2] }
  | .answerFirst answer =>
    match h.first with
    | .waiting task =>
      let resumed := task.resume config h.state answer
      { h with state := resumed.1, first := resumed.2 }
    | .ended _ => h
  | .answerErrand errand answer =>
    match h.reactions[errand]? with
    | some (.await route task) =>
      let resumed := route.resume config h.state task answer
      { h with state := resumed.1, reactions := h.reactions.set errand resumed.2 }
    | some (.respond _) => h
    | none => h

/-- The host after a list of events. -/
def run (config : Config) (h : Hosting) : List HostEvent → Hosting
  | [] => h
  | event :: events => run config (h.step config event) events

end Hosting

/-! ### Requests as events -/

/-- The task that waits, if there is one. -/
def Progress.task? : Progress → Option Suspended
  | .waiting task => some task
  | .ended _ => none

/-- The task that has to end before there is a response. -/
def Reaction.task? : Reaction → Option Suspended
  | .respond _ => none
  | .await _ task => some task

@[simp] theorem Route.task?_react (route : Route) (progress : Progress) :
    (route.react progress).task? = progress.task? := by
  cases progress <;> rfl

/-- The events of the browser that a request comes down to. -/
def Request.events (request : Request) : List Event :=
  match Route.ofRequest request with
  | .ok .page => [.takeAlerts, .start (.pressKey .other)]
  | .ok .state => [.start (.pressKey .other)]
  | .ok (.go id) => [.start (.goTo id)]
  | .ok (.navigate url) => [.start (.showInstead url)]
  | .ok (.expand row) => [.start (.expandRow row)]
  | .error _ => [.start (.pressKey .other)]

/-- **No request starts a load below what is on display.** -/
theorem Request.appends_of_mem_events {request : Request} {event : Event}
    (h : event ∈ request.events) : event.appends = false := by
  unfold events at h
  split at h <;> simp only [List.mem_cons, List.not_mem_nil, or_false] at h
  · rcases h with rfl | rfl <;> rfl
  all_goals
    rw [h]
    rfl

namespace World

variable {config : Config} {w : World}

theorem waiting?_eq_task? (w : World) (task : Nat) :
    w.waiting? task = ((w.tasks.map Progress.task?)[task]?).join := by
  rw [waiting?, List.getElem?_map]
  cases w.tasks[task]? with
  | none => rfl
  | some progress => cases progress <;> rfl

end World

namespace Hosting

/-- The host is in the state of a world, and the same tasks wait. -/
structure Follows (h : Hosting) (w : World) : Prop where
  /-- The states are the same. -/
  state : h.state = w.state
  /-- The first task is the first load, and the others belong to the requests. -/
  tasks : w.tasks.map Progress.task? = h.first.task? :: h.reactions.map Reaction.task?

namespace Follows

variable {config : Config} {h : Hosting} {w : World}

/-- The first load waits if its task does. -/
theorem waiting?_zero (hf : h.Follows w) : w.waiting? 0 = h.first.task? := by
  rw [World.waiting?_eq_task?, hf.tasks]
  rfl

/-- An errand waits if the task with the next number does. -/
theorem waiting?_succ (hf : h.Follows w) (errand : Nat) :
    w.waiting? (errand + 1) = h.reactions[errand]?.bind Reaction.task? := by
  rw [World.waiting?_eq_task?, hf.tasks, List.getElem?_cons_succ, List.getElem?_map]
  cases h.reactions[errand]? <;> rfl

/-- A request that starts a command is followed by its start. -/
theorem step_start (hf : h.Follows w) (command : Command) (reaction : Reaction)
    (htask : reaction.task? = (command.start config h.state).2.task?) :
    Follows ⟨(command.start config h.state).1, h.first, h.reactions ++ [reaction]⟩
      (w.step config (.start command)) := by
  rw [hf.state] at htask ⊢
  refine ⟨rfl, ?_⟩
  rw [World.step, World.start, List.map_append, hf.tasks, List.map_append, List.map_singleton,
    List.map_singleton, htask, List.cons_append]

/-- **A request is followed by the events that it comes down to.** -/
theorem step_request (hf : h.Follows w) (request : Request) :
    (h.step config (.request request)).Follows (w.run config request.events) := by
  rw [step, Host.receive, Request.events]
  cases hroute : Route.ofRequest request with
  | error response => exact hf.step_start (.pressKey .other) (.respond response) rfl
  | ok route =>
      cases route with
      | page =>
          have htaken : Follows ⟨{ h.state with alerts := h.state.alerts.takeAll.2 }, h.first,
              h.reactions⟩ (w.step config .takeAlerts) := by
            refine ⟨?_, hf.tasks⟩
            rw [hf.state]
            rfl
          exact htaken.step_start (.pressKey .other) (.respond (.page h.state.page)) rfl
      | state => exact hf.step_start (.pressKey .other) (.respond (.report h.state.report)) rfl
      | go id => exact hf.step_start (.goTo id) _ (Route.task?_react _ _)
      | navigate url => exact hf.step_start (.showInstead url) _ (Route.task?_react _ _)
      | expand row => exact hf.step_start (.expandRow row) _ (Route.task?_react _ _)

/-- An answer for the first load or for an errand is followed by the answer for its task. -/
theorem step_resume (hf : h.Follows w) {number : Nat} {task : Suspended}
    (hwaiting : w.waiting? number = some task) (answer : Answer) (first : Progress)
    (reactions : List Reaction)
    (htasks : (h.first.task? :: h.reactions.map Reaction.task?).set number
      (task.resume config h.state answer).2.task? = first.task? :: reactions.map Reaction.task?) :
    Follows ⟨(task.resume config h.state answer).1, first, reactions⟩
      (w.step config (.resume number answer)) := by
  rw [hf.state] at htasks ⊢
  rw [World.step, World.resume_of_waiting hwaiting]
  refine ⟨rfl, ?_⟩
  rw [List.map_set, hf.tasks, htasks]

/-- **What happens at the host happens to its browser.** -/
theorem step (hf : h.Follows w) (config : Config) (event : HostEvent) :
    ∃ moves, (∀ move ∈ moves, move.appends = false) ∧
      (h.step config event).Follows (w.run config moves) := by
  cases event with
  | request request =>
      exact ⟨request.events, fun move => Request.appends_of_mem_events, hf.step_request request⟩
  | answerFirst answer =>
      rw [Hosting.step]
      cases hfirst : h.first with
      | ended result => exact ⟨[], by simp, hf⟩
      | waiting task =>
          have hwaiting : w.waiting? 0 = some task := by
            rw [hf.waiting?_zero, hfirst]
            rfl
          exact ⟨[.resume 0 answer], by simp [Event.appends],
            hf.step_resume hwaiting answer _ _ rfl⟩
  | answerErrand errand answer =>
      rw [Hosting.step]
      cases hreaction : h.reactions[errand]? with
      | none => exact ⟨[], by simp, hf⟩
      | some reaction =>
          cases reaction with
          | respond response => exact ⟨[], by simp, hf⟩
          | await route task =>
              have hwaiting : w.waiting? (errand + 1) = some task := by
                rw [hf.waiting?_succ, hreaction]
                rfl
              have hreacts : (route.resume config h.state task answer).2.task? =
                  (task.resume config h.state answer).2.task? := Route.task?_react _ _
              refine ⟨[.resume (errand + 1) answer], by simp [Event.appends],
                hf.step_resume hwaiting answer _ _ ?_⟩
              rw [List.set_cons_succ, List.map_set, ← hreacts]

/-- So it goes on along a run. -/
theorem run (hf : h.Follows w) (config : Config) (events : List HostEvent) :
    ∃ moves, (∀ move ∈ moves, move.appends = false) ∧
      (h.run config events).Follows (w.run config moves) := by
  induction events generalizing h w with
  | nil => exact ⟨[], by simp, hf⟩
  | cons event events ih =>
      obtain ⟨moves, hmoves, hstep⟩ := hf.step config event
      obtain ⟨more, hmore, hrun⟩ := ih hstep
      refine ⟨moves ++ more, ?_, ?_⟩
      · intro move hmem
        exact (List.mem_append.mp hmem).elim (hmoves move) (hmore move)
      · rw [World.run_append]
        exact hrun

end Follows

/-- **The host goes through a run of the browser.**  The run begins with the load of the first node,
and no load after that is started below what is on display. -/
theorem exists_run (config : Config) (events : List HostEvent) :
    ∃ moves, (∀ move ∈ moves, move.appends = false) ∧
      ((beginning config).run config events).Follows
        (World.initial.run config (.start .showFirst :: moves)) := by
  have hbegins : (beginning config).Follows (World.initial.step config (.start .showFirst)) :=
    ⟨rfl, rfl⟩
  exact hbegins.run config events

end Hosting

end GraphBrowser
