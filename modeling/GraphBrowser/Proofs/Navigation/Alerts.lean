import GraphBrowser.Proofs.Navigation.Course
import Mathlib.Data.List.Basic

/-!
# Every failure is told once

The reader is told about the failure of a task when the task ends, and about nothing else. The alerts
that have been taken away, followed by those that still wait, are a list of what has failed.

## Main definitions

* `Ending`, `World.endings` — how the tasks of a run have ended, in the order in which they did
* `World.drained` — the alerts that have been taken away along a run
* `Failure.isOfResource` — failures of the store, in contrast to those of a row or the settings
* `World.StoreFailsForResources`, `World.StoreNamesAddresses` — what a store is expected to do

## Main statements

* `Suspended.alerts_resume` — **an answer adds one alert if the task ends with a failure**, else none
* `World.mem_endings_iff`, `World.nodup_endings` — **every task that has ended has done so once**
* `World.told_eq` — **what is told are the failures of tasks that have asked for something**
* `World.alerts_tell_failures` — all of this, and what the alerts are about

## Design notes

**Nothing is said about looking at the alerts**, since that is no event. What can be seen after any
event is told by the statement about the run up to it.

**Failures of rows are not told.**  A row that cannot be expanded fails before anything was asked for;
this is how such failures are told from those of the store, whatever failures the store may have.
-/

namespace GraphBrowser

/-- Whether a failure is one of the store: there was no answer, or not the resource that was asked
for. -/
def Failure.isOfResource : Failure → Bool
  | .fetch _ _ => true
  | .malformed _ _ => true
  | .unboundRow _ => false
  | .badConfig _ => false

/-- The end of a task. -/
structure Ending where
  /-- The number of the task. -/
  task : Nat
  /-- How it has ended. -/
  result : Result

/-- The failure with which a task has ended, if it has failed. -/
def Ending.failure? (ending : Ending) : Option Failure :=
  match ending.result with
  | .ok _ => none
  | .error failure => some failure

theorem Ending.failure?_eq_some_iff {ending : Ending} {failure : Failure} :
    ending.failure? = some failure ↔ ending.result = .error failure := by
  obtain ⟨task, outcome | failure⟩ := ending <;> simp [failure?]

/-- The end of a task with a number, if it has come to it. -/
def Progress.endings (task : Nat) : Progress → List Ending
  | .waiting _ => []
  | .ended result => [⟨task, result⟩]

theorem Progress.mem_endings_iff {progress : Progress} {task : Nat} {ending : Ending} :
    ending ∈ progress.endings task ↔ progress = .ended ending.result ∧ ending.task = task := by
  obtain ⟨other, result⟩ := ending
  cases progress with
  | waiting suspended => simp [endings]
  | ended final => simp [endings, and_comm, eq_comm]

/-- A task ends once at most. -/
theorem Progress.nodup_endings (progress : Progress) (task : Nat) :
    ((progress.endings task).map Ending.task).Nodup := by
  cases progress with
  | waiting suspended => exact List.nodup_nil
  | ended result => simp [endings]

/-! ### What a stretch adds to the alerts -/

/-- No start tells anything, not even that a row cannot be expanded. -/
@[simp] theorem Intent.alerts_start (intent : Intent) (s : BrowserState) :
    (intent.start s).1.alerts = s.alerts := by
  cases intent with
  | append url id =>
      rw [start_append]
      rfl
  | replace controls url id =>
      rw [start_replace]
      rfl
  | expand row =>
      rw [start, BrowserState.expand]
      split
      · rfl
      · split <;> rfl
  | nothing => rfl

/-- **An answer adds one alert if the task ends with a failure**, and none otherwise. -/
theorem Suspended.alerts_resume (config : Config) {s : BrowserState} (hs : s.Coherent)
    (suspended : Suspended) (answer : Answer) (task : Nat) :
    (suspended.resume config s answer).1.alerts.pending =
      s.alerts.pending ++
        (((suspended.resume config s answer).2.endings task).filterMap Ending.failure?).map
          Alert.ofFailure := by
  have hsame : s.alerts.pending = s.alerts.pending ++ [] := (List.append_nil _).symm
  by_cases hlatest : s.loads.latest = suspended.loadToken
  · cases suspended with
    | node load url =>
        rw [resume_node hlatest]
        cases answer.node url with
        | error failure => rfl
        | ok node => exact hsame
    | relationships load url =>
        rw [resume_relationships hlatest]
        cases answer.relationships url with
        | error failure => rfl
        | ok relationships => exact hsame
    | expansion e url =>
        rcases resume_expansion_cases config hs e url answer with ⟨-, hresume⟩ |
          ⟨failure, -, -, hresume⟩ | ⟨node, surface, -, -, -, hresume⟩
        · rw [hresume]
          exact hsame
        · rw [hresume]
          rfl
        · rw [hresume]
          exact hsame
  · rw [resume_of_ne hlatest]
    exact hsame

namespace World

/-! ### Endings -/

/-- The tasks that end in an event. -/
def ends (config : Config) (w : World) : Event → List Ending
  | .start command => (command.start config w.state).2.endings w.tasks.length
  | .resume task answer =>
    match w.waiting? task with
    | some suspended => (suspended.resume config w.state answer).2.endings task
    | none => []
  | .takeAlerts => []

/-- How tasks have ended along a run, in the order in which they did. -/
def endings (config : Config) (w : World) : List Event → List Ending
  | [] => []
  | event :: events => w.ends config event ++ endings config (w.step config event) events

/-- The alerts that are taken away in an event. -/
def takes (w : World) : Event → List (List Alert)
  | .start _ => []
  | .resume _ _ => []
  | .takeAlerts => [w.state.alerts.takeAll.1]

/-- The alerts that have been taken away along a run, each time in one list. -/
def drained (config : Config) (w : World) : List Event → List (List Alert)
  | [] => []
  | event :: events => w.takes event ++ drained config (w.step config event) events

variable {config : Config} {w : World}

theorem endings_concat (events : List Event) (event : Event) :
    w.endings config (events ++ [event]) =
      w.endings config events ++ (w.run config events).ends config event := by
  induction events generalizing w with
  | nil => simp [endings]
  | cons first events ih => simp [endings, ih]

theorem drained_concat (events : List Event) (event : Event) :
    w.drained config (events ++ [event]) =
      w.drained config events ++ (w.run config events).takes event := by
  induction events generalizing w with
  | nil => simp [drained]
  | cons first events ih => simp [drained, ih]

/-- **A task ends in an event exactly if it has a result afterwards and had none before.** -/
theorem mem_ends_iff {ending : Ending} {event : Event} :
    ending ∈ w.ends config event ↔
      w.result? ending.task = none ∧
        (w.step config event).result? ending.task = some ending.result := by
  constructor
  · intro hmem
    cases event with
    | start command =>
        obtain ⟨hprogress, htask⟩ := Progress.mem_endings_iff.mp hmem
        rw [htask, result?_eq_some_iff, step, getElem?_tasks_start, hprogress, result?,
          List.getElem?_eq_none (Nat.le_refl _)]
        exact ⟨rfl, rfl⟩
    | resume task answer =>
        rw [ends] at hmem
        cases hwaiting : w.waiting? task with
        | none =>
            rw [hwaiting] at hmem
            cases hmem
        | some suspended =>
            rw [hwaiting] at hmem
            obtain ⟨hprogress, rfl⟩ := Progress.mem_endings_iff.mp hmem
            rw [result?_eq_some_iff, step, getElem?_tasks_resume hwaiting, hprogress]
            exact ⟨result?_eq_none_of_waiting hwaiting, rfl⟩
    | takeAlerts => cases hmem
  · rintro ⟨hnone, hafter⟩
    rcases Nat.lt_or_ge ending.task w.tasks.length with hlt | hge
    · -- the task has waited
      rcases exists_waiting_or_result hlt with ⟨suspended, hwaiting⟩ | ⟨result, hresult⟩
      · obtain ⟨answer, rfl, hprogress⟩ := exists_resume_of_result? hwaiting hafter
        rw [ends, hwaiting]
        exact Progress.mem_endings_iff.mpr ⟨hprogress, rfl⟩
      · rw [hnone] at hresult
        cases hresult
    · obtain ⟨command, rfl, htask, hprogress⟩ :=
        exists_start_of_length_le hge (result?_eq_some_iff.mp hafter)
      exact Progress.mem_endings_iff.mpr ⟨hprogress, htask⟩

/-- **A task ends along a run exactly if it has a result afterwards and had none before.** -/
theorem mem_endings_iff {ending : Ending} {events : List Event} :
    ending ∈ w.endings config events ↔
      w.result? ending.task = none ∧
        (w.run config events).result? ending.task = some ending.result := by
  induction events generalizing w with
  | nil =>
      refine iff_of_false List.not_mem_nil ?_
      rintro ⟨hnone, hsome⟩
      rw [run_nil, hnone] at hsome
      cases hsome
  | cons event events ih =>
      rw [endings, List.mem_append, mem_ends_iff, ih, run_cons]
      constructor
      · rintro (⟨hnone, hafter⟩ | ⟨hnone, hafter⟩)
        · exact ⟨hnone, result?_run hafter events⟩
        · refine ⟨?_, hafter⟩
          cases hbefore : w.result? ending.task with
          | none => rfl
          | some result =>
              rw [result?_step hbefore event] at hnone
              cases hnone
      · rintro ⟨hnone, hafter⟩
        cases hmiddle : (w.step config event).result? ending.task with
        | none => exact Or.inr ⟨rfl, hafter⟩
        | some result =>
            rw [result?_run hmiddle events] at hafter
            exact Or.inl ⟨hnone, hafter⟩

/-- At most one task ends in an event. -/
theorem nodup_ends (config : Config) (w : World) (event : Event) :
    ((w.ends config event).map Ending.task).Nodup := by
  cases event with
  | start command => exact Progress.nodup_endings _ _
  | resume task answer =>
      rw [ends]
      cases w.waiting? task with
      | none => exact List.nodup_nil
      | some suspended => exact Progress.nodup_endings _ _
  | takeAlerts => exact List.nodup_nil

/-- **No task ends twice.** -/
theorem nodup_endings (config : Config) (w : World) (events : List Event) :
    ((w.endings config events).map Ending.task).Nodup := by
  induction events generalizing w with
  | nil => exact List.nodup_nil
  | cons event events ih =>
      rw [endings, List.map_append, List.nodup_append]
      refine ⟨nodup_ends config w event, ih _, ?_⟩
      -- what has ended has a result, and what ends later has none
      intro task hfirst other hother heq
      obtain ⟨ending, hending, rfl⟩ := List.mem_map.mp hfirst
      obtain ⟨later, hlater, rfl⟩ := List.mem_map.mp hother
      have hresult := (mem_ends_iff.mp hending).2
      rw [heq, (mem_endings_iff.mp hlater).1] at hresult
      cases hresult

/-! ### What is told -/

/-- What is told in an event is the failure of the task that ends in it, if the task has waited. -/
theorem told_step (config : Config) (hs : w.state.Coherent) (event : Event) :
    (w.takes event).flatten ++ (w.step config event).state.alerts.pending =
      w.state.alerts.pending ++
        (((w.ends config event).filter fun ending => (w.waiting? ending.task).isSome).filterMap
          Ending.failure?).map Alert.ofFailure := by
  cases event with
  | start command =>
      -- the task that is being started has not waited
      have hends : ((w.ends config (.start command)).filter
          fun ending => (w.waiting? ending.task).isSome) = [] := by
        rw [List.filter_eq_nil_iff]
        intro ending hmem
        have hnew : w.waiting? w.tasks.length = none := by
          rw [waiting?, List.getElem?_eq_none (Nat.le_refl _)]
        rw [(Progress.mem_endings_iff.mp hmem).2, hnew]
        exact Bool.false_ne_true
      rw [hends, state_step_start rfl, Intent.alerts_start]
      exact (List.append_nil _).symm
  | resume task answer =>
      show (w.step config (.resume task answer)).state.alerts.pending = _
      cases hwaiting : w.waiting? task with
      | none =>
          rw [step, resume_of_not_waiting hwaiting, ends, hwaiting]
          exact (List.append_nil _).symm
      | some suspended =>
          have hends : ((w.ends config (.resume task answer)).filter
              fun ending => (w.waiting? ending.task).isSome) =
                (suspended.resume config w.state answer).2.endings task := by
            rw [ends, hwaiting, List.filter_eq_self]
            intro ending hmem
            rw [(Progress.mem_endings_iff.mp hmem).2, hwaiting]
            rfl
          rw [hends, step, resume_of_waiting hwaiting]
          exact Suspended.alerts_resume config hs suspended answer task
  | takeAlerts =>
      show [w.state.alerts.pending].flatten ++ [] = w.state.alerts.pending ++ []
      rw [List.flatten_cons, List.flatten_nil, List.append_nil]

/-- A task that has ended asks for nothing more. -/
theorem asked_concat_of_result? {task : Nat} {result : Result} {events : List Event}
    (h : (w.run config events).result? task = some result) (event : Event) :
    w.asked config task (events ++ [event]) = w.asked config task events := by
  have hlt : task < (w.run config events).tasks.length :=
    (List.getElem?_eq_some_iff.mp (result?_eq_some_iff.mp h)).1
  rw [asked_append, asked_cons,
    asks_of_not_waiting (waiting?_eq_none_of_result? h) (Nat.ne_of_gt hlt)]
  exact List.append_nil _

/-- A task that ends in an event has waited exactly if it has asked for something. -/
theorem asked_ne_nil_iff_of_mem_ends {events : List Event} {event : Event} {ending : Ending}
    (h : ending ∈ (initial.run config events).ends config event) :
    initial.asked config ending.task (events ++ [event]) ≠ [] ↔
      ((initial.run config events).waiting? ending.task).isSome = true := by
  obtain ⟨hnone, hafter⟩ := mem_ends_iff.mp h
  rw [asked_append, asked_cons, asked_nil, List.append_nil]
  cases hwaiting : (initial.run config events).waiting? ending.task with
  | some suspended =>
      have hasked : initial.asked config ending.task events ≠ [] :=
        (taskCourse_run config events (waiting?_eq_some_iff.mp hwaiting)).asked_ne_nil
      exact iff_of_true (List.append_ne_nil_of_left_ne_nil hasked _) rfl
  | none =>
      -- it neither waits nor has a result, so it is only just being started
      have hge : (initial.run config events).tasks.length ≤ ending.task := by
        refine Nat.le_of_not_lt fun hlt => ?_
        rcases exists_waiting_or_result hlt with ⟨suspended, hsome⟩ | ⟨result, hsome⟩
        · rw [hwaiting] at hsome
          cases hsome
        · rw [hnone] at hsome
          cases hsome
      obtain ⟨command, rfl, htask, hprogress⟩ :=
        exists_start_of_length_le hge (result?_eq_some_iff.mp hafter)
      have hasks : (initial.run config events).asks config ending.task (.start command) = [] := by
        rw [asks, if_pos htask.symm, hprogress]
        rfl
      rw [asked_of_length_le hge, hasks]
      exact iff_of_false (fun hne => hne rfl) Bool.false_ne_true

/-- **What is told are the failures of the tasks that have asked for something**, in the order in
which they have ended. -/
theorem told_eq (config : Config) (events : List Event) :
    (initial.drained config events).flatten ++ (initial.run config events).state.alerts.pending =
      (((initial.endings config events).filter
        fun ending => initial.asked config ending.task events ≠ []).filterMap
          Ending.failure?).map Alert.ofFailure := by
  induction events using List.reverseRecOn with
  | nil => rfl
  | append_singleton events event ih =>
      have hs : (initial.run config events).state.Coherent :=
        coherent_run coherent_initial events
      have hearlier : ((initial.endings config events).filter
          fun ending => initial.asked config ending.task (events ++ [event]) ≠ []) =
            (initial.endings config events).filter
              fun ending => initial.asked config ending.task events ≠ [] := by
        refine List.filter_congr ?_
        intro ending hmem
        rw [asked_concat_of_result? (mem_endings_iff.mp hmem).2]
      have hlast : (((initial.run config events).ends config event).filter
          fun ending => initial.asked config ending.task (events ++ [event]) ≠ []) =
            ((initial.run config events).ends config event).filter
              fun ending => ((initial.run config events).waiting? ending.task).isSome := by
        refine List.filter_congr ?_
        intro ending hmem
        rw [Bool.eq_iff_iff, decide_eq_true_iff]
        exact asked_ne_nil_iff_of_mem_ends hmem
      rw [drained_concat, endings_concat, List.filter_append, hearlier, hlast,
        List.filterMap_append, List.map_append, ← ih, List.flatten_append, List.append_assoc,
        List.append_assoc, run_append, run_cons, run_nil]
      congr 1
      exact told_step config hs event

/-! ### What a store is expected to do -/

/-- The failures with which the store has answered were failures of resources. -/
def StoreFailsForResources (config : Config) (events : List Event) : Prop :=
  ∀ task failure, .error failure ∈ initial.answered config task events →
    failure.isOfResource = true

/-- The failures with which the store has answered name the address that was asked for. -/
def StoreNamesAddresses (config : Config) (events : List Event) : Prop :=
  ∀ task url failure,
    (url, .error failure) ∈
      (initial.asked config task events).zip (initial.answered config task events) →
    failure.url? = some url

/-- A task that has failed takes the course of a failure. -/
theorem taskCourse_of_mem_endings {events : List Event} {ending : Ending} {failure : Failure}
    (hmem : ending ∈ initial.endings config events) (h : ending.failure? = some failure) :
    TaskCourse (initial.asked config ending.task events) (initial.answered config ending.task events)
      (.ended (.error failure)) := by
  have hresult := (mem_endings_iff.mp hmem).2
  rw [Ending.failure?_eq_some_iff.mp h] at hresult
  exact taskCourse_run config events (result?_eq_some_iff.mp hresult)

/-- A task that has asked for something fails for a resource, and no other task does. -/
theorem asked_ne_nil_iff_isOfResource {events : List Event} {ending : Ending} {failure : Failure}
    (hstore : StoreFailsForResources config events)
    (hmem : ending ∈ initial.endings config events) (h : ending.failure? = some failure) :
    initial.asked config ending.task events ≠ [] ↔ failure.isOfResource = true := by
  rcases (taskCourse_of_mem_endings hmem h).failure_cases with ⟨hasked, row, rfl⟩ |
    ⟨url, answer, hlast, hzip, hanswer⟩
  · exact iff_of_false (fun hne => hne hasked) Bool.false_ne_true
  · have hasked : initial.asked config ending.task events ≠ [] := by
      intro hnil
      rw [hnil] at hlast
      cases hlast
    refine iff_of_true hasked ?_
    rcases hanswer with rfl | ⟨reason, rfl⟩
    · exact hstore ending.task failure (List.of_mem_zip hzip).2
    · rfl

/-- A failure names the address that its task has asked for last, and none if there is no such. -/
theorem url?_eq_getLast? {events : List Event} {ending : Ending} {failure : Failure}
    (hstore : StoreNamesAddresses config events)
    (hmem : ending ∈ initial.endings config events) (h : ending.failure? = some failure) :
    failure.url? = (initial.asked config ending.task events).getLast? := by
  rcases (taskCourse_of_mem_endings hmem h).failure_cases with ⟨hasked, row, rfl⟩ |
    ⟨url, answer, hlast, hzip, hanswer⟩
  · rw [hasked]
    rfl
  · rw [hlast]
    rcases hanswer with rfl | ⟨reason, rfl⟩
    · exact hstore ending.task url failure hzip
    · rfl

/-! ### Whole runs -/

/-- **Every failure is told exactly once, and nothing else is.**  After every run, the alerts that
have been taken away and those that still wait are one for each task that has asked for something and
failed, in the order in which the tasks have ended. If the store fails for resources only, these are
all failures of resources that tasks have ended with; and if its failures name the addresses that were
asked for, each alert is about the address that its task has asked for last. -/
theorem alerts_tell_failures (config : Config) (events : List Event) :
    let w := initial.run config events
    let endings := initial.endings config events
    let told := (initial.drained config events).flatten ++ w.state.alerts.pending
    (∀ ending, ending ∈ endings ↔ w.result? ending.task = some ending.result) ∧
    (endings.map Ending.task).Nodup ∧
    told = ((endings.filter fun ending => initial.asked config ending.task events ≠ []).filterMap
      Ending.failure?).map Alert.ofFailure ∧
    (StoreFailsForResources config events →
      told = ((endings.filterMap Ending.failure?).filter Failure.isOfResource).map
        Alert.ofFailure) ∧
    (StoreNamesAddresses config events →
      ∀ ending ∈ endings, ∀ failure, ending.failure? = some failure →
        (Alert.ofFailure failure).url = (initial.asked config ending.task events).getLast?) := by
  intro w endings told
  have htold := told_eq config events
  refine ⟨?_, nodup_endings config initial events, htold, ?_, ?_⟩
  · intro ending
    rw [mem_endings_iff]
    exact and_iff_right rfl
  · intro hstore
    refine htold.trans (congrArg (List.map Alert.ofFailure) ?_)
    rw [List.filterMap_filter, List.filter_filterMap]
    refine List.filterMap_congr ?_
    intro ending hmem
    cases hfailure : ending.failure? with
    | none => simp
    | some failure => simp [Option.filter, asked_ne_nil_iff_isOfResource hstore hmem hfailure]
  · intro hstore ending hmem failure hfailure
    exact url?_eq_getLast? hstore hmem hfailure

/-- Four tasks, three of which fail. A load finds no node, and its alert is taken away. A row cannot
be expanded, which is not told. One more load is overtaken before it fails, which is not told either.
The last one finds no list of relationships, and its alert waits. -/
theorem alerts_of_failed_tasks :
    let node : Answer := .ok (.array [.object [], .string "/4/all"])
    let events := [Event.start (.showInstead "/2"), .resume 0 (.error (.fetch "/2" "500")),
      .takeAlerts, .start (.expandRow 0), .start (.showInstead "/3"), .start (.showInstead "/4"),
      .resume 2 (.error (.fetch "/3" "404")), .resume 3 node, .resume 3 (.ok .null)]
    let endings := initial.endings {} events
    StoreFailsForResources {} events ∧ StoreNamesAddresses {} events ∧
    initial.drained {} events = [[⟨"Request for /2 failed: 500", some "/2"⟩]] ∧
    (initial.run {} events).state.alerts.pending =
      [⟨"Malformed response from /4/all: invalid type: null, expected a sequence",
        some "/4/all"⟩] ∧
    ((endings.filterMap Ending.failure?).filter Failure.isOfResource).map Alert.ofFailure =
      [⟨"Request for /2 failed: 500", some "/2"⟩,
        ⟨"Malformed response from /4/all: invalid type: null, expected a sequence",
          some "/4/all"⟩] ∧
    ∀ ending ∈ endings, ∀ failure, ending.failure? = some failure →
      (Alert.ofFailure failure).url = (initial.asked {} ending.task events).getLast? := by
  intro node events endings
  have hanswers : ∀ task failure, .error failure ∈ initial.answered {} task events →
      (task = 0 ∧ failure = .fetch "/2" "500") ∨ (task = 2 ∧ failure = .fetch "/3" "404") := by
    intro task failure hmem
    simpa [events, node] using resume_mem_of_mem_answered hmem
  have hresources : StoreFailsForResources {} events := by
    intro task failure hmem
    rcases hanswers task failure hmem with ⟨-, rfl⟩ | ⟨-, rfl⟩ <;> rfl
  have hnames : StoreNamesAddresses {} events := by
    intro task url failure hzip
    obtain ⟨hasked, hanswered⟩ := List.of_mem_zip hzip
    rcases hanswers task failure hanswered with ⟨rfl, rfl⟩ | ⟨rfl, rfl⟩
    · have hfirst : initial.asked {} 0 events = ["/2"] := by decide +kernel
      rw [hfirst] at hasked
      rw [List.mem_singleton.mp hasked]
      rfl
    · have hthird : initial.asked {} 2 events = ["/3"] := by decide +kernel
      rw [hthird] at hasked
      rw [List.mem_singleton.mp hasked]
      rfl
  have hdrained : initial.drained {} events = [[⟨"Request for /2 failed: 500", some "/2"⟩]] := by
    decide +kernel
  have hpending : (initial.run {} events).state.alerts.pending =
      [⟨"Malformed response from /4/all: invalid type: null, expected a sequence",
        some "/4/all"⟩] := by
    decide +kernel
  obtain ⟨-, -, -, htold, habout⟩ := alerts_tell_failures {} events
  have hfailures := htold hresources
  rw [hdrained, hpending] at hfailures
  exact ⟨hresources, hnames, hdrained, hpending, hfailures.symm, habout hnames⟩

end World

end GraphBrowser
