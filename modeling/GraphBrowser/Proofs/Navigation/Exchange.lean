import GraphBrowser.Proofs.Navigation.Waiting

/-!
# What tasks ask for and what they are answered

A task talks to the store by turns: it asks for the resource at an address and is answered. Here the
two halves of that talk are read off a run, and a load is followed through it.

## Main definitions

* `Progress.requests` — what is asked for by a task that has just come to wait
* `World.asked`, `World.answered` — the addresses that a task asks for and the answers that reach it
* `LoadCourse` — how far a load has got, by what it has asked for and what it was answered

## Main statements

* `LoadCourse.run` — **every load takes its course**, whatever else happens

## Design notes

**An answer reaches a task only while it waits.**  Answers that a run has for a task at other times
are none of its answers, just as they change nothing.
-/

namespace GraphBrowser

/-- The addresses that a task asks for when it comes to wait: one, or none if it has ended. -/
def Progress.requests : Progress → List String
  | .waiting task => [task.url]
  | .ended _ => []

namespace World

/-- The addresses that a task asks for in an event. -/
def asks (config : Config) (task : Nat) (w : World) : Event → List String
  | .start command =>
    if w.tasks.length = task then (command.start config w.state).2.requests else []
  | .resume other answer =>
    if other = task then
      match w.waiting? task with
      | some suspended => (suspended.resume config w.state answer).2.requests
      | none => []
    else []
  | .takeAlerts => []

/-- The answers that reach a task in an event. -/
def answers (task : Nat) (w : World) : Event → List Answer
  | .start _ => []
  | .resume other answer => if other = task ∧ (w.waiting? task).isSome then [answer] else []
  | .takeAlerts => []

/-- The addresses that a task asks for along a run, in order. -/
def asked (config : Config) (task : Nat) (w : World) : List Event → List String
  | [] => []
  | event :: events => w.asks config task event ++ asked config task (w.step config event) events

/-- The answers that reach a task along a run, in order. -/
def answered (config : Config) (task : Nat) (w : World) : List Event → List Answer
  | [] => []
  | event :: events => w.answers task event ++ answered config task (w.step config event) events

variable {config : Config} {w : World} {task : Nat}

@[simp] theorem asked_nil : w.asked config task [] = [] := rfl

@[simp] theorem asked_cons (event : Event) (events : List Event) :
    w.asked config task (event :: events) =
      w.asks config task event ++ (w.step config event).asked config task events := rfl

@[simp] theorem answered_nil : w.answered config task [] = [] := rfl

@[simp] theorem answered_cons (event : Event) (events : List Event) :
    w.answered config task (event :: events) =
      w.answers task event ++ (w.step config event).answered config task events := rfl

@[simp] theorem answered_append (events more : List Event) :
    w.answered config task (events ++ more) =
      w.answered config task events ++ (w.run config events).answered config task more := by
  induction events generalizing w with
  | nil => rfl
  | cons event events ih => simp [ih]

@[simp] theorem asked_append (events more : List Event) :
    w.asked config task (events ++ more) =
      w.asked config task events ++ (w.run config events).asked config task more := by
  induction events generalizing w with
  | nil => rfl
  | cons event events ih => simp [ih]

/-- A task that waits is answered. -/
theorem answers_of_waiting {suspended : Suspended} (h : w.waiting? task = some suspended)
    (answer : Answer) : w.answers task (.resume task answer) = [answer] := by
  rw [answers, h, Option.isSome_some, if_pos ⟨rfl, rfl⟩]

/-- No other event answers a task. -/
theorem answers_of_ne {event : Event} (h : ∀ answer, event ≠ .resume task answer) :
    w.answers task event = [] := by
  cases event with
  | start command => rfl
  | resume other answer =>
      have hne : other ≠ task := fun heq => h answer (by rw [heq])
      rw [answers, if_neg fun hand => hne hand.1]
  | takeAlerts => rfl

/-- A task that does not wait is not answered. -/
theorem answers_of_not_waiting (h : w.waiting? task = none) (event : Event) :
    w.answers task event = [] := by
  cases event with
  | start command => rfl
  | resume other answer => simp [answers, h]
  | takeAlerts => rfl

/-- The answers that reach a task are among those that a run has for it. -/
theorem resume_mem_of_mem_answered {events : List Event} {answer : Answer}
    (h : answer ∈ w.answered config task events) : .resume task answer ∈ events := by
  induction events generalizing w with
  | nil => cases h
  | cons event events ih =>
      rw [answered_cons, List.mem_append] at h
      rcases h with hfirst | hlater
      · by_cases hevent : ∃ given, event = .resume task given
        · obtain ⟨given, rfl⟩ := hevent
          cases hwaiting : w.waiting? task with
          | none =>
              rw [answers_of_not_waiting hwaiting] at hfirst
              cases hfirst
          | some suspended =>
              rw [answers_of_waiting hwaiting, List.mem_singleton] at hfirst
              rw [hfirst]
              exact List.mem_cons_self
        · rw [answers_of_ne fun given heq => hevent ⟨given, heq⟩] at hfirst
          cases hfirst
      · exact List.mem_cons_of_mem event (ih hlater)

/-- A task that has not been started is not answered. -/
theorem answered_of_length_le {events : List Event}
    (h : (w.run config events).tasks.length ≤ task) : w.answered config task events = [] := by
  induction events generalizing w with
  | nil => rfl
  | cons event events ih =>
      have hlength : w.tasks.length ≤ task :=
        Nat.le_trans (length_tasks_le_run (event :: events)) h
      have hwaiting : w.waiting? task = none := by
        rw [waiting?, List.getElem?_eq_none hlength]
      rw [answered_cons, answers_of_not_waiting hwaiting, ih h]
      rfl

/-- A task that does not wait asks for nothing, unless it is just being started. -/
theorem asks_of_not_waiting (h : w.waiting? task = none) (hne : w.tasks.length ≠ task)
    (event : Event) : w.asks config task event = [] := by
  cases event with
  | start command => rw [asks, if_neg hne]
  | resume other answer => simp [asks, h]
  | takeAlerts => rfl

/-- A task that has not been started has not asked for anything. -/
theorem asked_of_length_le {events : List Event}
    (h : (w.run config events).tasks.length ≤ task) : w.asked config task events = [] := by
  induction events generalizing w with
  | nil => rfl
  | cons event events ih =>
      have hlength : w.tasks.length ≤ task :=
        Nat.le_trans (length_tasks_le_run (event :: events)) h
      have hwaiting : w.waiting? task = none := by
        rw [waiting?, List.getElem?_eq_none hlength]
      have hasks : w.asks config task event = [] := by
        cases event with
        | start command =>
            have hstep : w.tasks.length < (w.step config (.start command)).tasks.length := by
              show w.tasks.length < (w.tasks ++ [_]).length
              simp
            have hmore : (w.step config (.start command)).tasks.length ≤ task :=
              Nat.le_trans (length_tasks_le_run events) h
            exact asks_of_not_waiting hwaiting (by omega) _
        | resume other answer => simp [asks, hwaiting]
        | takeAlerts => rfl
      rw [asked_cons, hasks, ih h]
      rfl

/-- **Each event leaves a task where it was or takes it one step further**, whatever it is that a
course says about tasks. -/
theorem course_step {Course : List String → List Answer → Progress → Prop} {asked : List String}
    {answered : List Answer} {progress : Progress}
    (hresume : ∀ suspended answer, Course asked answered (.waiting suspended) →
      Course (asked ++ (suspended.resume config w.state answer).2.requests) (answered ++ [answer])
        (suspended.resume config w.state answer).2)
    (h : Course asked answered progress) (hget : w.tasks[task]? = some progress) (event : Event) :
    ∃ next, (w.step config event).tasks[task]? = some next ∧
      Course (asked ++ w.asks config task event) (answered ++ w.answers task event) next := by
  have hlt : task < w.tasks.length := (List.getElem?_eq_some_iff.mp hget).1
  by_cases hevent : ∃ answer, event = .resume task answer
  · obtain ⟨answer, rfl⟩ := hevent
    cases progress with
    | ended result =>
        -- an answer that comes too late is none of its answers
        have hwaiting : w.waiting? task = none := by rw [waiting?, hget]
        refine ⟨.ended result, ?_, ?_⟩
        · rw [step, resume_of_not_waiting hwaiting]
          exact hget
        · simpa [asks, answers, hwaiting] using h
    | waiting suspended =>
        have hwaiting : w.waiting? task = some suspended := waiting?_eq_some_iff.mpr hget
        refine ⟨_, getElem?_tasks_resume hwaiting answer, ?_⟩
        simpa [asks, answers, hwaiting] using hresume suspended answer h
  · have hother : ∀ answer, event ≠ .resume task answer := fun answer heq => hevent ⟨answer, heq⟩
    refine ⟨progress, ?_, ?_⟩
    · rw [getElem?_tasks_step hlt hother, hget]
    · cases event with
      | start command => simpa [asks, answers, Nat.ne_of_gt hlt] using h
      | resume other answer =>
          have hne : ¬ other = task := fun heq => hother answer (by rw [heq])
          simpa [asks, answers, hne] using h
      | takeAlerts => simpa [asks, answers] using h

end World

/-! ### The course of a load -/

/-- How far the load of the node at an address has got: what it has asked for, what it was answered
and what has become of it. -/
inductive LoadCourse (load : Load) (url : String) : List String → List Answer → Progress → Prop where
  /-- It waits for its node. -/
  | awaitsNode : LoadCourse load url [url] [] (.waiting (.node load url))
  /-- There was no node to be had. -/
  | nodeFails {answer : Answer} {failure : Failure} (h : answer.node url = .error failure) :
      LoadCourse load url [url] [answer] (.ended (.error failure))
  /-- It was overtaken before it had its node. -/
  | overtakenAtNode (answer : Answer) :
      LoadCourse load url [url] [answer] (.ended (.ok .superseded))
  /-- It has its node and waits for the relationships. -/
  | awaitsRelationships {answer : Answer} {node : Node} (h : answer.node url = .ok node) :
      LoadCourse load url [url, node.allRelationships] [answer]
        (.waiting (.relationships load node.allRelationships))
  /-- There were no relationships to be had. -/
  | relationshipsFail {answer next : Answer} {node : Node} {failure : Failure}
      (h : answer.node url = .ok node)
      (hnext : next.relationships node.allRelationships = .error failure) :
      LoadCourse load url [url, node.allRelationships] [answer, next] (.ended (.error failure))
  /-- It was overtaken before it had the relationships. -/
  | overtakenAtRelationships {answer : Answer} {node : Node} (h : answer.node url = .ok node)
      (next : Answer) :
      LoadCourse load url [url, node.allRelationships] [answer, next] (.ended (.ok .superseded))
  /-- It has shown all that it was to show. -/
  | rendered {answer next : Answer} {node : Node} {relationships : List Relationship}
      (h : answer.node url = .ok node)
      (hnext : next.relationships node.allRelationships = .ok relationships) :
      LoadCourse load url [url, node.allRelationships] [answer, next] (.ended (.ok .rendered))

namespace LoadCourse

variable {config : Config} {w : World} {task : Nat} {load : Load} {url : String}
variable {asked : List String} {answered : List Answer} {progress : Progress}

/-- Along its course a load waits under its own token. -/
theorem loadToken_eq {suspended : Suspended}
    (h : LoadCourse load url asked answered (.waiting suspended)) :
    suspended.isLoad = true ∧ suspended.loadToken = load.token := by
  cases h with
  | awaitsNode => exact ⟨rfl, rfl⟩
  | awaitsRelationships h => exact ⟨rfl, rfl⟩

/-- An answer takes a load that waits one step further. -/
theorem resume {suspended : Suspended} (config : Config)
    (h : LoadCourse load url asked answered (.waiting suspended)) (s : BrowserState) (answer : Answer) :
    LoadCourse load url (asked ++ (suspended.resume config s answer).2.requests)
      (answered ++ [answer]) (suspended.resume config s answer).2 := by
  by_cases hlatest : s.loads.latest = suspended.loadToken
  · cases h with
    | awaitsNode =>
        rw [Suspended.resume_node hlatest]
        cases hnode : answer.node url with
        | error failure => exact nodeFails hnode
        | ok node => exact awaitsRelationships hnode
    | awaitsRelationships hnode =>
        rw [Suspended.resume_relationships hlatest]
        cases hrelationships : answer.relationships _ with
        | error failure => exact relationshipsFail hnode hrelationships
        | ok relationships => exact rendered hnode hrelationships
  · rw [Suspended.resume_of_ne hlatest]
    cases h with
    | awaitsNode => exact overtakenAtNode answer
    | awaitsRelationships hnode => exact overtakenAtRelationships hnode answer

/-- **Each event leaves a load where it was or takes it one step further.** -/
theorem step (config : Config) (h : LoadCourse load url asked answered progress)
    (hget : w.tasks[task]? = some progress) (event : Event) :
    ∃ next, (w.step config event).tasks[task]? = some next ∧
      LoadCourse load url (asked ++ w.asks config task event) (answered ++ w.answers task event)
        next := by
  refine World.course_step ?_ h hget event
  intro suspended answer hwaits
  exact hwaits.resume config w.state answer

/-- **Every load takes its course**, whatever else happens. -/
theorem run (config : Config) (h : LoadCourse load url asked answered progress)
    (hget : w.tasks[task]? = some progress) (events : List Event) :
    ∃ next, (w.run config events).tasks[task]? = some next ∧
      LoadCourse load url (asked ++ w.asked config task events)
        (answered ++ w.answered config task events) next := by
  induction events generalizing w asked answered progress with
  | nil => exact ⟨progress, hget, by simpa using h⟩
  | cons event events ih =>
      obtain ⟨middle, hmiddle, hcourse⟩ := h.step config hget event
      obtain ⟨next, hnext, hcourse⟩ := ih hcourse hmiddle
      exact ⟨next, hnext, by simpa using hcourse⟩

/-- Every load takes its course from its start on. -/
theorem run_start {command : Command} {destination : Destination}
    (h : (command.intent config w.state.controls).destination? = some destination)
    (events : List Event) :
    ∃ next, (w.run config (.start command :: events)).tasks[w.tasks.length]? = some next ∧
      LoadCourse ⟨w.state.loads.latest + 1, destination.id⟩ destination.url
        (w.asked config w.tasks.length (.start command :: events))
        (w.answered config w.tasks.length (.start command :: events)) next := by
  have hasks : w.asks config w.tasks.length (.start command) = [destination.url] := by
    rw [World.asks, if_pos rfl, Command.start, Intent.start_of_destination h]
    rfl
  rw [World.run_cons, World.asked_cons, hasks]
  exact awaitsNode.run config (World.waiting?_eq_some_iff.mp (World.waiting?_start h)) events

/-- **What a load has asked for that ended without being overtaken**: its node and, if there was a
node in the answer, the relationships of the node. -/
theorem asked_eq {result : Result} (h : LoadCourse load url asked answered (.ended result))
    (hresult : result ≠ .ok .superseded) :
    ∃ answer more, answered = answer :: more ∧
      asked =
        match answer.node url with
        | .ok node => [url, node.allRelationships]
        | .error _ => [url] := by
  cases h with
  | nodeFails hnode => exact ⟨_, [], rfl, by rw [hnode]⟩
  | overtakenAtNode answer => exact absurd rfl hresult
  | relationshipsFail hnode hnext => exact ⟨_, _, rfl, by rw [hnode]⟩
  | overtakenAtRelationships hnode next => exact absurd rfl hresult
  | rendered hnode hnext => exact ⟨_, _, rfl, by rw [hnode]⟩

end LoadCourse

end GraphBrowser
