import GraphBrowser.Navigation.Run
import GraphBrowser.Proofs.Navigation.Stretch

/-!
# Tasks along a run

How the tasks of a world change from one event to the next, and what the tokens of those that wait
say about the loads that were started meanwhile.

## Main definitions

* `Event.startsLoad` — whether an event is the start of a load
* `World.TokensBounded` — no task that waits has a token from the future

## Main statements

* `World.waiting?_step` — **a task waits after an event** because it waited before, because it was
  answered or because it was started
* `World.result?_run` — a result is final
* `World.tokensBounded_run` — every world that is reached is bounded
* `World.loadToken_run` — a load keeps its token for as long as it waits
-/

namespace GraphBrowser

/-- Whether an event is the start of a load. -/
def Event.startsLoad : Event → Bool
  | .start command => command.isLoad
  | .resume _ _ => false
  | .takeAlerts => false

namespace World

variable {config : Config} {w : World} {task : Nat}

theorem waiting?_eq_some_iff {suspended : Suspended} :
    w.waiting? task = some suspended ↔ w.tasks[task]? = some (.waiting suspended) := by
  unfold waiting?
  split <;> simp_all

theorem result?_eq_some_iff {result : Result} :
    w.result? task = some result ↔ w.tasks[task]? = some (.ended result) := by
  unfold result?
  split <;> simp_all

/-- A task that waits has no result. -/
theorem result?_eq_none_of_waiting {suspended : Suspended} (h : w.waiting? task = some suspended) :
    w.result? task = none := by
  rw [result?, waiting?_eq_some_iff.mp h]

/-- A task that has a result does not wait. -/
theorem waiting?_eq_none_of_result? {result : Result} (h : w.result? task = some result) :
    w.waiting? task = none := by
  rw [waiting?, result?_eq_some_iff.mp h]

/-- A task that waits has been started. -/
theorem lt_length_of_waiting {suspended : Suspended} (h : w.waiting? task = some suspended) :
    task < w.tasks.length :=
  (List.getElem?_eq_some_iff.mp (waiting?_eq_some_iff.mp h)).1

/-! ### One event -/

/-- An answer for a task that waits is the next stretch of the task. -/
theorem resume_of_waiting {suspended : Suspended} (h : w.waiting? task = some suspended)
    (answer : Answer) :
    w.resume config task answer =
      ⟨(suspended.resume config w.state answer).1,
        w.tasks.set task (suspended.resume config w.state answer).2⟩ := by
  rw [resume, h]

/-- An answer for a task that does not wait changes nothing. -/
theorem resume_of_not_waiting (h : w.waiting? task = none) (answer : Answer) :
    w.resume config task answer = w := by
  rw [resume, h]

/-- What becomes of a task that is answered. -/
theorem getElem?_tasks_resume {suspended : Suspended} (h : w.waiting? task = some suspended)
    (answer : Answer) :
    (w.resume config task answer).tasks[task]? =
      some (suspended.resume config w.state answer).2 := by
  rw [resume_of_waiting h]
  exact List.getElem?_set_self (lt_length_of_waiting h)

/-- The number of a task that is started is the number of tasks before it. -/
theorem getElem?_tasks_start (command : Command) :
    (w.start config command).tasks[w.tasks.length]? = some (command.start config w.state).2 := by
  simp [start]

/-- A command changes the state as what it comes down to does. -/
theorem state_step_start {command : Command} {intent : Intent}
    (h : command.intent config w.state.controls = intent) :
    (w.step config (.start command)).state = (intent.start w.state).1 := by
  rw [step, start, Command.start, h]

/-- A load that is started waits for its node under the next token. -/
theorem waiting?_start {command : Command} {destination : Destination}
    (h : (command.intent config w.state.controls).destination? = some destination) :
    (w.step config (.start command)).waiting? w.tasks.length =
      some (.node ⟨w.state.loads.latest + 1, destination.id⟩ destination.url) := by
  rw [waiting?_eq_some_iff, step, getElem?_tasks_start, Command.start,
    Intent.start_of_destination h]

/-- Tasks are only ever added. -/
theorem length_tasks_le_step (event : Event) :
    w.tasks.length ≤ (w.step config event).tasks.length := by
  cases event with
  | start command => simp [step, start]
  | resume other answer =>
      rw [step, resume]
      split
      · simp
      · exact Nat.le_refl _
  | takeAlerts => exact Nat.le_refl _

/-- Tasks are only ever added along a run. -/
theorem length_tasks_le_run (events : List Event) :
    w.tasks.length ≤ (w.run config events).tasks.length := by
  induction events generalizing w with
  | nil => exact Nat.le_refl _
  | cons event events ih => exact Nat.le_trans (length_tasks_le_step event) ih

/-- **Events that do not answer a task leave it alone.** -/
theorem getElem?_tasks_step (hlt : task < w.tasks.length) {event : Event}
    (h : ∀ answer, event ≠ .resume task answer) :
    (w.step config event).tasks[task]? = w.tasks[task]? := by
  cases event with
  | start command =>
      rw [step, start]
      exact List.getElem?_append_left hlt
  | resume other answer =>
      have hne : other ≠ task := fun heq => h answer (by rw [heq])
      rw [step, resume]
      split
      · exact List.getElem?_set_ne hne
      · rfl
  | takeAlerts => rfl

/-- An event that does not answer a task that waits lets it wait. -/
theorem waiting?_step_of_ne {suspended : Suspended} (hwaiting : w.waiting? task = some suspended)
    {event : Event} (h : ∀ answer, event ≠ .resume task answer) :
    (w.step config event).waiting? task = some suspended := by
  rw [waiting?_eq_some_iff, getElem?_tasks_step (lt_length_of_waiting hwaiting) h,
    ← waiting?_eq_some_iff]
  exact hwaiting

/-- A task that there has not been before is the one that has just been started. -/
theorem exists_start_of_length_le {event : Event} {progress : Progress}
    (hge : w.tasks.length ≤ task) (h : (w.step config event).tasks[task]? = some progress) :
    ∃ command, event = .start command ∧ task = w.tasks.length ∧
      (command.start config w.state).2 = progress := by
  have hlt := (List.getElem?_eq_some_iff.mp h).1
  cases event with
  | start command =>
      have hlength : (w.step config (.start command)).tasks.length = w.tasks.length + 1 := by
        rw [step, start, List.length_append, List.length_singleton]
      obtain rfl : task = w.tasks.length := by omega
      rw [step, getElem?_tasks_start] at h
      exact ⟨command, rfl, rfl, Option.some.inj h⟩
  | resume other answer =>
      have hlength : (w.step config (.resume other answer)).tasks.length = w.tasks.length := by
        rw [step, resume]
        split
        · exact List.length_set
        · rfl
      omega
  | takeAlerts =>
      have hlength : (w.step config .takeAlerts).tasks.length = w.tasks.length := rfl
      omega

/-- **A task waits after an event** because it waited before, because it was answered or because it
was started. -/
theorem waiting?_step {event : Event} {next : Suspended}
    (h : (w.step config event).waiting? task = some next) :
    w.waiting? task = some next ∨
    (∃ suspended answer, event = .resume task answer ∧ w.waiting? task = some suspended ∧
      (suspended.resume config w.state answer).2 = .waiting next) ∨
    (∃ command, event = .start command ∧ task = w.tasks.length ∧
      (command.start config w.state).2 = .waiting next) := by
  rw [waiting?_eq_some_iff] at h
  cases event with
  | start command =>
      rcases Nat.lt_or_ge task w.tasks.length with hlt | hge
      · rw [getElem?_tasks_step hlt (by simp)] at h
        exact Or.inl (waiting?_eq_some_iff.mpr h)
      · obtain ⟨_, heq, hnew, hstart⟩ := exists_start_of_length_le hge h
        cases heq
        exact Or.inr (Or.inr ⟨command, rfl, hnew, hstart⟩)
  | resume other answer =>
      cases hother : w.waiting? other with
      | none =>
          rw [step, resume_of_not_waiting hother] at h
          exact Or.inl (waiting?_eq_some_iff.mpr h)
      | some suspended =>
          by_cases heq : other = task
          · subst heq
            rw [step, getElem?_tasks_resume hother] at h
            exact Or.inr (Or.inl ⟨suspended, answer, rfl, hother, Option.some.inj h⟩)
          · rw [step, resume_of_waiting hother, List.getElem?_set_ne heq] at h
            exact Or.inl (waiting?_eq_some_iff.mpr h)
  | takeAlerts => exact Or.inl (waiting?_eq_some_iff.mpr h)

/-- A task that has waited has a result after an event only because it was answered. -/
theorem exists_resume_of_result? {suspended : Suspended} {event : Event} {result : Result}
    (hwaiting : w.waiting? task = some suspended)
    (hresult : (w.step config event).result? task = some result) :
    ∃ answer, event = .resume task answer ∧
      (suspended.resume config w.state answer).2 = .ended result := by
  by_cases hevent : ∃ answer, event = .resume task answer
  · obtain ⟨answer, rfl⟩ := hevent
    rw [result?_eq_some_iff, step, getElem?_tasks_resume hwaiting] at hresult
    exact ⟨answer, rfl, Option.some.inj hresult⟩
  · have hstill : (w.step config event).waiting? task = some suspended :=
      waiting?_step_of_ne hwaiting fun answer heq => hevent ⟨answer, heq⟩
    rw [result?_eq_none_of_waiting hstill] at hresult
    cases hresult

/-- A result is final. -/
theorem result?_step {result : Result} (h : w.result? task = some result) (event : Event) :
    (w.step config event).result? task = some result := by
  have hget := result?_eq_some_iff.mp h
  have hlt : task < w.tasks.length := (List.getElem?_eq_some_iff.mp hget).1
  by_cases hevent : ∃ answer, event = .resume task answer
  · obtain ⟨answer, rfl⟩ := hevent
    have hwaiting : w.waiting? task = none := by rw [waiting?, hget]
    rw [step, resume_of_not_waiting hwaiting]
    exact h
  · rw [result?_eq_some_iff, getElem?_tasks_step hlt fun answer heq => hevent ⟨answer, heq⟩]
    exact hget

/-- **A result is final**, however long the run goes on. -/
theorem result?_run {result : Result} (h : w.result? task = some result) (events : List Event) :
    (w.run config events).result? task = some result := by
  induction events generalizing w with
  | nil => exact h
  | cons event events ih => exact ih (result?_step h event)

/-! ### Whole runs -/

/-- **What every stretch preserves holds after every run.** -/
theorem state_run {P : BrowserState → Prop}
    (hstart : ∀ s intent, P s → P (Intent.start s intent).1)
    (hresume : ∀ s task answer, P s → P (Suspended.resume config s answer task).1)
    (halerts : ∀ s alerts, P s → P { s with alerts }) (h : P w.state) (events : List Event) :
    P (w.run config events).state := by
  induction events generalizing w with
  | nil => exact h
  | cons event events ih =>
      refine ih ?_
      cases event with
      | start command => exact hstart _ _ h
      | resume task answer =>
          rw [step, resume]
          split
          · exact hresume _ _ _ h
          · exact h
      | takeAlerts => exact halerts _ _ h

/-! ### Tokens -/

/-- The token of the latest load moves on with each start of a load, and with nothing else. -/
theorem latest_step (config : Config) (w : World) (event : Event) :
    (w.step config event).state.loads.latest =
      w.state.loads.latest + if event.startsLoad then 1 else 0 := by
  cases event with
  | start command =>
      rw [step, start, Command.start, Intent.latest_start, Command.isLoad_intent]
      rfl
  | resume other answer =>
      rw [step, resume]
      split
      · simp [Event.startsLoad]
      · rfl
  | takeAlerts => rfl

/-- What does not start a load leaves the latest one the latest. -/
theorem latest_step_of_not_start (config : Config) {event : Event}
    (h : event.startsLoad = false) :
    (w.step config event).state.loads.latest = w.state.loads.latest := by
  rw [latest_step, h]
  rfl

/-- A load that is started has the next token. -/
theorem latest_step_of_destination {command : Command} {destination : Destination}
    (h : (command.intent config w.state.controls).destination? = some destination) :
    (w.step config (.start command)).state.loads.latest = w.state.loads.latest + 1 := by
  rw [latest_step, Event.startsLoad, ← Command.isLoad_intent config w.state.controls,
    Intent.isLoad, h]
  rfl

/-- The token of the latest load only grows. -/
theorem latest_le_run (events : List Event) :
    w.state.loads.latest ≤ (w.run config events).state.loads.latest := by
  induction events generalizing w with
  | nil => exact Nat.le_refl _
  | cons event events ih =>
      calc w.state.loads.latest ≤ (w.step config event).state.loads.latest := by
            rw [latest_step]
            omega
        _ ≤ ((w.step config event).run config events).state.loads.latest := ih

/-- The token of the latest load grows along a run in which a load is started. -/
theorem latest_lt_run {events : List Event} (h : ∃ event ∈ events, event.startsLoad = true) :
    w.state.loads.latest < (w.run config events).state.loads.latest := by
  induction events generalizing w with
  | nil =>
      obtain ⟨event, hmem, -⟩ := h
      cases hmem
  | cons event events ih =>
      have hstep := latest_step config w event
      obtain ⟨start, hmem, hstart⟩ := h
      rcases List.mem_cons.mp hmem with rfl | hmem
      · rw [if_pos hstart] at hstep
        exact Nat.lt_of_lt_of_le (by omega) (latest_le_run events)
      · exact Nat.lt_of_le_of_lt (by omega) (ih ⟨start, hmem, hstart⟩)

/-- No task that waits has a token from the future. -/
def TokensBounded (w : World) : Prop :=
  ∀ task suspended, w.waiting? task = some suspended →
    suspended.loadToken ≤ w.state.loads.latest

theorem tokensBounded_initial : initial.TokensBounded := by
  intro task suspended h
  simp [initial, waiting?] at h

theorem tokensBounded_step (h : w.TokensBounded) (event : Event) :
    (w.step config event).TokensBounded := by
  intro task next hnext
  have hgrow : w.state.loads.latest ≤ (w.step config event).state.loads.latest := by
    rw [latest_step]
    omega
  rcases waiting?_step hnext with hbefore | hanswered | hstarted
  · exact Nat.le_trans (h task next hbefore) hgrow
  · obtain ⟨suspended, answer, rfl, hwaiting, hresume⟩ := hanswered
    rw [(Suspended.loadToken_of_resume hresume).2]
    exact Nat.le_trans (h task suspended hwaiting) hgrow
  · obtain ⟨command, rfl, -, hstart⟩ := hstarted
    exact Nat.le_of_eq (Intent.loadToken_of_start hstart).2

/-- **Every world that is reached is bounded.** -/
theorem tokensBounded_run (h : w.TokensBounded) (events : List Event) :
    (w.run config events).TokensBounded := by
  induction events generalizing w with
  | nil => exact h
  | cons event events ih => exact ih (tokensBounded_step h event)

/-- A task keeps its token for as long as it waits. -/
theorem loadToken_step {suspended next : Suspended} {event : Event}
    (hwaiting : w.waiting? task = some suspended)
    (hnext : (w.step config event).waiting? task = some next) :
    next.isLoad = suspended.isLoad ∧ next.loadToken = suspended.loadToken := by
  rcases waiting?_step hnext with hbefore | hanswered | hstarted
  · rw [hwaiting] at hbefore
    cases hbefore
    exact ⟨rfl, rfl⟩
  · obtain ⟨suspended', answer, -, hwaiting', hresume⟩ := hanswered
    rw [hwaiting] at hwaiting'
    cases hwaiting'
    exact Suspended.loadToken_of_resume hresume
  · -- a number that is already taken is not given to a new task
    obtain ⟨command, -, rfl, -⟩ := hstarted
    exact absurd (lt_length_of_waiting hwaiting) (Nat.lt_irrefl _)

/-- A task that has been started waits or has a result. -/
theorem exists_waiting_or_result (hlt : task < w.tasks.length) :
    (∃ suspended, w.waiting? task = some suspended) ∨ ∃ result, w.result? task = some result := by
  have hget := List.getElem?_eq_getElem hlt
  cases hprogress : w.tasks[task] with
  | waiting suspended =>
      rw [hprogress] at hget
      exact Or.inl ⟨suspended, waiting?_eq_some_iff.mpr hget⟩
  | ended result =>
      rw [hprogress] at hget
      exact Or.inr ⟨result, result?_eq_some_iff.mpr hget⟩

/-- **A task keeps its token for as long as it waits**, however long that is. -/
theorem loadToken_run {suspended next : Suspended} {events : List Event}
    (hwaiting : w.waiting? task = some suspended)
    (hnext : (w.run config events).waiting? task = some next) :
    next.isLoad = suspended.isLoad ∧ next.loadToken = suspended.loadToken := by
  induction events generalizing w suspended with
  | nil =>
      rw [run_nil, hwaiting] at hnext
      cases hnext
      exact ⟨rfl, rfl⟩
  | cons event events ih =>
      have hlt : task < (w.step config event).tasks.length :=
        Nat.lt_of_lt_of_le (lt_length_of_waiting hwaiting) (length_tasks_le_step event)
      rcases exists_waiting_or_result hlt with ⟨middle, hmiddle⟩ | ⟨result, hresult⟩
      · obtain ⟨hload, htoken⟩ := loadToken_step hwaiting hmiddle
        rw [← hload, ← htoken]
        exact ih hmiddle hnext
      · have hfinal : (w.run config (event :: events)).result? task = some result :=
          result?_run hresult events
        rw [result?_eq_none_of_waiting hnext] at hfinal
        cases hfinal

end World

end GraphBrowser
