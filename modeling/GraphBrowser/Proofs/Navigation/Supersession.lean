import GraphBrowser.Proofs.Navigation.Exchange

/-!
# Supersession

A load is overtaken by the next load that is started. From then on it has no effect, and that it was
overtaken is also how it ends.

## Main definitions

* `World.IsOvertaken` — another load is started before a task has ended

## Main statements

* `World.result_eq_superseded_iff` — **a load ends superseded exactly if it was overtaken**
* `World.resume_of_lt` — an answer for a task that was overtaken changes nothing
* `World.supersession_exact_and_silent` — both, and what a load asks for that was not overtaken
-/

namespace GraphBrowser

namespace World

variable {config : Config} {w : World} {task : Nat}

/-- Another load is started among the events before a task has ended. -/
def IsOvertaken (config : Config) (task : Nat) (w : World) (events : List Event) : Prop :=
  ∃ before command after, events = before ++ .start command :: after ∧ command.isLoad = true ∧
    (w.run config before).result? task = none

/-- A task is overtaken by the first event or by a later one. -/
theorem isOvertaken_cons {event : Event} {events : List Event} :
    w.IsOvertaken config task (event :: events) ↔
      (event.startsLoad = true ∧ w.result? task = none) ∨
      (w.step config event).IsOvertaken config task events := by
  constructor
  · rintro ⟨before, command, after, heq, hload, hresult⟩
    cases before with
    | nil =>
        cases heq
        exact Or.inl ⟨hload, hresult⟩
    | cons first before =>
        cases heq
        exact Or.inr ⟨before, command, after, rfl, hload, hresult⟩
  · rintro (⟨hstarts, hresult⟩ | ⟨before, command, after, rfl, hload, hresult⟩)
    · cases event with
      | start command => exact ⟨[], command, events, rfl, hstarts, hresult⟩
      | resume other answer => cases hstarts
      | takeAlerts => cases hstarts
    · exact ⟨event :: before, command, after, rfl, hload, hresult⟩

/-- A task that has a result is not overtaken any more. -/
theorem not_isOvertaken_of_result? {result : Result} (h : w.result? task = some result)
    (events : List Event) : ¬ w.IsOvertaken config task events := by
  rintro ⟨before, command, after, -, -, hnone⟩
  rw [result?_run h before] at hnone
  cases hnone

/-! ### Tasks that were overtaken -/

/-- An answer for a task that was overtaken ends the task and changes nothing else. -/
theorem resume_of_lt {suspended : Suspended} (hwaiting : w.waiting? task = some suspended)
    (hlt : suspended.loadToken < w.state.loads.latest) (answer : Answer) :
    w.step config (.resume task answer) =
      { w with tasks := w.tasks.set task (.ended (.ok .superseded)) } := by
  rw [step, resume_of_waiting hwaiting, Suspended.resume_of_ne (Nat.ne_of_gt hlt)]

/-- A task that was overtaken asks for nothing more, and no other task does so in its place. -/
theorem asks_of_lt {suspended : Suspended} (hwaiting : w.waiting? task = some suspended)
    (hlt : suspended.loadToken < w.state.loads.latest) (answer : Answer) (other : Nat) :
    w.asks config other (.resume task answer) = [] := by
  by_cases heq : task = other
  · subst heq
    simp only [asks, if_pos, hwaiting, Suspended.resume_of_ne (Nat.ne_of_gt hlt)]
    rfl
  · rw [asks, if_neg heq]

/-- A task that was overtaken can only end superseded. -/
theorem result_eq_superseded_of_lt {suspended : Suspended} {events : List Event} {result : Result}
    (hwaiting : w.waiting? task = some suspended)
    (hlt : suspended.loadToken < w.state.loads.latest)
    (hresult : (w.run config events).result? task = some result) :
    result = .ok .superseded := by
  induction events generalizing w suspended with
  | nil =>
      rw [run_nil, result?_eq_none_of_waiting hwaiting] at hresult
      cases hresult
  | cons event events ih =>
      have hlength : task < (w.step config event).tasks.length :=
        Nat.lt_of_lt_of_le (lt_length_of_waiting hwaiting) (length_tasks_le_step event)
      rcases exists_waiting_or_result hlength with ⟨next, hnext⟩ | ⟨ended, hended⟩
      · refine ih hnext ?_ hresult
        rw [(loadToken_step hwaiting hnext).2, latest_step]
        omega
      · obtain ⟨answer, -, hresume⟩ := exists_resume_of_result? hwaiting hended
        rw [Suspended.resume_of_ne (Nat.ne_of_gt hlt)] at hresume
        rw [run_cons, result?_run hended] at hresult
        cases hresume
        cases hresult
        rfl

/-- **A load ends superseded exactly if it was overtaken.** -/
theorem result_eq_superseded_iff {suspended : Suspended} {events : List Event} {result : Result}
    (hwaiting : w.waiting? task = some suspended) (hload : suspended.isLoad = true)
    (hlatest : w.state.loads.latest = suspended.loadToken)
    (hresult : (w.run config events).result? task = some result) :
    result = .ok .superseded ↔ w.IsOvertaken config task events := by
  induction events generalizing w suspended with
  | nil =>
      rw [run_nil, result?_eq_none_of_waiting hwaiting] at hresult
      cases hresult
  | cons event events ih =>
      rw [isOvertaken_cons]
      have hlatestStep := latest_step config w event
      by_cases hstarts : event.startsLoad = true
      · -- a newer load: whatever comes, the task can only end superseded
        have hother : ∀ answer, event ≠ .resume task answer := by
          rintro answer rfl
          cases hstarts
        have hstill : (w.step config event).waiting? task = some suspended :=
          waiting?_step_of_ne hwaiting hother
        rw [if_pos hstarts] at hlatestStep
        have hsuperseded : result = .ok .superseded :=
          result_eq_superseded_of_lt hstill (by omega) hresult
        exact iff_of_true hsuperseded (Or.inl ⟨hstarts, result?_eq_none_of_waiting hwaiting⟩)
      · rw [if_neg hstarts, Nat.add_zero] at hlatestStep
        have hlength : task < (w.step config event).tasks.length :=
          Nat.lt_of_lt_of_le (lt_length_of_waiting hwaiting) (length_tasks_le_step event)
        rcases exists_waiting_or_result hlength with ⟨next, hnext⟩ | ⟨ended, hended⟩
        · obtain ⟨hnextLoad, hnextToken⟩ := loadToken_step hwaiting hnext
          rw [ih hnext (hnextLoad.trans hload) (by rw [hlatestStep, hlatest, hnextToken]) hresult]
          exact ⟨Or.inr, fun h => h.resolve_left fun hleft => hstarts hleft.1⟩
        · -- the answer that ends the task finds it the latest
          obtain ⟨answer, -, hresume⟩ := exists_resume_of_result? hwaiting hended
          rw [run_cons, result?_run hended] at hresult
          cases hresult
          refine iff_of_false ?_ ?_
          · rintro rfl
            exact Suspended.resume_ne_superseded hload hlatest hresume
          · rintro (hleft | hright)
            · exact hstarts hleft.1
            · exact not_isOvertaken_of_result? hended events hright

/-! ### Whole runs -/

/-- **Supersession is exact and silent.**  A load that has ended was superseded if and only if
another load was started before it ended. Once another load was started, an answer for a load that
still waits ends it as superseded, asks for nothing and leaves the whole state as it was. A load that
ended otherwise has asked for the address that its command goes to and, if and only if there was a
node in the answer, for the relationships of the node. -/
theorem supersession_exact_and_silent (config : Config) (before after : List Event)
    (command : Command) (hload : command.isLoad = true) :
    let w := initial.run config before
    let task := w.tasks.length
    let started := w.step config (.start command)
    let v := started.run config after
    (∀ result, v.result? task = some result →
      (result = .ok .superseded ↔ started.IsOvertaken config task after)) ∧
    (∀ suspended answer, v.waiting? task = some suspended →
      (∃ event ∈ after, event.startsLoad = true) →
      v.step config (.resume task answer) =
          { v with tasks := v.tasks.set task (.ended (.ok .superseded)) } ∧
        ∀ other, v.asks config other (.resume task answer) = []) ∧
    (∀ result, v.result? task = some result → result ≠ .ok .superseded →
      ∃ url answer more,
        command.address? config w.state.controls = some url ∧
        w.answered config task (.start command :: after) = answer :: more ∧
        w.asked config task (.start command :: after) =
          match answer.node url with
          | .ok node => [url, node.allRelationships]
          | .error _ => [url]) := by
  intro w task started v
  have hintent : (command.intent config w.state.controls).isLoad = true := by
    rw [Command.isLoad_intent, hload]
  obtain ⟨destination, hdestination⟩ := Option.isSome_iff_exists.mp hintent
  have hwaiting := waiting?_start hdestination
  have hlatest : started.state.loads.latest = w.state.loads.latest + 1 := by
    rw [latest_step, Event.startsLoad, if_pos hload]
  refine ⟨?_, ?_, ?_⟩
  · intro result hresult
    exact result_eq_superseded_iff hwaiting rfl hlatest hresult
  · intro suspended answer hsuspended hnewer
    -- the task keeps its token, and the newer load has moved the latest one past it
    have htoken : suspended.loadToken = started.state.loads.latest := by
      rw [(loadToken_run hwaiting hsuspended).2, hlatest]
      rfl
    have hlt : suspended.loadToken < v.state.loads.latest := by
      rw [htoken]
      exact latest_lt_run hnewer
    exact ⟨resume_of_lt hsuspended hlt answer, asks_of_lt hsuspended hlt answer⟩
  · intro result hresult hne
    obtain ⟨progress, hprogress, hcourse⟩ := LoadCourse.run_start hdestination after
    have hended : v.tasks[task]? = some (.ended result) := result?_eq_some_iff.mp hresult
    rw [run_cons, hended] at hprogress
    cases hprogress
    obtain ⟨answer, more, hanswered, hasked⟩ := hcourse.asked_eq hne
    rw [Command.destination?_intent] at hdestination
    exact ⟨destination.url, answer, more, (Command.destination?_eq_some_iff.mp hdestination).1,
      hanswered, hasked⟩

/-- A load that is overtaken while it waits for its node, with a node in the answer. -/
theorem supersession_of_append :
    let node : Answer := .ok (.array [.object [], .string "/1/all"])
    let started := initial.step {} (.start (.showBelow "/1"))
    let v := started.run {} [.start (.showInstead "/2")]
    (Command.showBelow "/1").isLoad = true ∧
    v.step {} (.resume 0 node) = { v with tasks := v.tasks.set 0 (.ended (.ok .superseded)) } ∧
    started.IsOvertaken {} 0 [.start (.showInstead "/2"), .resume 0 node] := by
  intro node started v
  have hload : (Command.showBelow "/1").isLoad = true := rfl
  obtain ⟨-, hsilent, -⟩ := supersession_exact_and_silent {} [] [.start (.showInstead "/2")]
    (.showBelow "/1") hload
  obtain ⟨hexact, -, -⟩ := supersession_exact_and_silent {} []
    [.start (.showInstead "/2"), .resume 0 node] (.showBelow "/1") hload
  refine ⟨hload, (hsilent (.node ⟨1, trimmed (resourceId "/1")⟩ "/1") node rfl ?_).1,
    (hexact (.ok .superseded) rfl).mp rfl⟩
  exact ⟨.start (.showInstead "/2"), List.mem_singleton.mpr rfl, rfl⟩

end World

end GraphBrowser
