import GraphBrowser.Proofs.Navigation.Exchange
import GraphBrowser.Proofs.Navigation.Rows
import Mathlib.Data.List.Induction

/-!
# The course of every task

A task loads a node, expands a row, or ends as soon as it is started. Whichever it is, what it has
asked for and what it was answered tell how it can have ended.

## Main definitions

* `ExpansionCourse` — how far an expansion has got
* `TaskCourse` — how far a task of any kind has got

## Main statements

* `World.taskCourse_run` — **every task takes a course**, whatever else happens
* `TaskCourse.failure_cases` — **a task that has failed was answered with its failure**, was answered
  with something else than a resource, or has asked for nothing

## Design notes

**A row that is being expanded does not lose its container**, so that an expansion that was answered
cannot end for want of one. This is why the course of an expansion has four stages and not five.
-/

namespace GraphBrowser

/-! ### Failures in answers -/

namespace Answer

variable {answer : Answer} {url : String} {failure : Failure}

/-- What keeps an answer from holding a node is the failure that it is, or its form. -/
theorem eq_of_node_eq_error (h : answer.node url = .error failure) :
    answer = .error failure ∨ ∃ reason, failure = .malformed url reason := by
  cases answer with
  | error cause =>
      cases h
      exact Or.inl rfl
  | ok body =>
      have hbody : Node.ofJson url body = .error failure := h
      rw [Node.ofJson] at hbody
      cases hrecord : NodeRecord.ofJson body with
      | ok record =>
          rw [hrecord] at hbody
          cases hbody
      | error e =>
          rw [hrecord] at hbody
          cases hbody
          exact Or.inr ⟨_, rfl⟩

/-- What keeps an answer from holding relationships is the failure that it is, or its form. -/
theorem eq_of_relationships_eq_error (h : answer.relationships url = .error failure) :
    answer = .error failure ∨ ∃ reason, failure = .malformed url reason := by
  cases answer with
  | error cause =>
      cases h
      exact Or.inl rfl
  | ok body =>
      have hbody : Relationship.listOfJson url body = .error failure := h
      rw [Relationship.listOfJson] at hbody
      cases hlist : Decode.elements body >>= Relationship.ofJsonList with
      | ok relationships =>
          rw [hlist] at hbody
          cases hbody
      | error e =>
          rw [hlist] at hbody
          cases hbody
          exact Or.inr ⟨_, rfl⟩

end Answer

/-! ### Courses -/

/-- How far the expansion of a row has got: what it has asked for, what it was answered and what has
become of it. -/
inductive ExpansionCourse (e : Expansion) (url : String) :
    List String → List Answer → Progress → Prop where
  /-- It waits for its node. -/
  | awaitsNode : ExpansionCourse e url [url] [] (.waiting (.expansion e url))
  /-- There was no node to be had. -/
  | nodeFails {answer : Answer} {failure : Failure} (h : answer.node url = .error failure) :
      ExpansionCourse e url [url] [answer] (.ended (.error failure))
  /-- It was overtaken. -/
  | overtaken (answer : Answer) :
      ExpansionCourse e url [url] [answer] (.ended (.ok .superseded))
  /-- It has shown its node. -/
  | rendered {answer : Answer} {node : Node} (h : answer.node url = .ok node) :
      ExpansionCourse e url [url] [answer] (.ended (.ok .rendered))

/-- How far a task has got: what it has asked for, what it was answered and what has become of it. -/
inductive TaskCourse : List String → List Answer → Progress → Prop where
  /-- It is a load. -/
  | load {load : Load} {url : String} {asked : List String} {answered : List Answer}
      {progress : Progress} (h : LoadCourse load url asked answered progress) :
      TaskCourse asked answered progress
  /-- It is an expansion. -/
  | expansion {e : Expansion} {url : String} {asked : List String} {answered : List Answer}
      {progress : Progress} (h : ExpansionCourse e url asked answered progress) :
      TaskCourse asked answered progress
  /-- There was no row to be expanded. -/
  | unbound (row : Nat) : TaskCourse [] [] (.ended (.error (.unboundRow row)))
  /-- There was nothing to do. -/
  | ignored : TaskCourse [] [] (.ended (.ok .ignored))

/-- An answer ends an expansion that waits. -/
theorem ExpansionCourse.resume {e : Expansion} {url : String} {asked : List String}
    {answered : List Answer} {suspended : Suspended} {s : BrowserState} (config : Config)
    (h : ExpansionCourse e url asked answered (.waiting suspended)) (hs : s.Coherent)
    (answer : Answer) :
    ExpansionCourse e url (asked ++ (suspended.resume config s answer).2.requests)
      (answered ++ [answer]) (suspended.resume config s answer).2 := by
  cases h with
  | awaitsNode =>
      rcases Suspended.resume_expansion_cases config hs e url answer with ⟨-, hresume⟩ |
        ⟨failure, -, hnode, hresume⟩ | ⟨node, surface, -, hnode, -, hresume⟩
      · rw [hresume]
        exact overtaken answer
      · rw [hresume]
        exact nodeFails hnode
      · rw [hresume]
        exact rendered hnode

namespace TaskCourse

variable {asked : List String} {answered : List Answer} {s : BrowserState}

/-- Every task that is started is a load, an expansion or ends at once. -/
theorem start (hs : s.Coherent) (intent : Intent) :
    TaskCourse (intent.start s).2.requests [] (intent.start s).2 := by
  cases intent with
  | append url id =>
      rw [Intent.start_append]
      exact load .awaitsNode
  | replace controls url id =>
      rw [Intent.start_replace]
      exact load .awaitsNode
  | expand row =>
      rw [Intent.start]
      cases hexpander : s.surface.expander? row with
      | none =>
          rw [BrowserState.expand_of_none hexpander]
          exact unbound row
      | some expander =>
          obtain ⟨surface, -, hexpand⟩ := BrowserState.expand_of_some hs.linksAgree hexpander
          rw [hexpand]
          exact expansion .awaitsNode
  | nothing => exact ignored

/-- An answer takes a task that waits one step further. -/
theorem resume {suspended : Suspended} (config : Config)
    (h : TaskCourse asked answered (.waiting suspended)) (hs : s.Coherent) (answer : Answer) :
    TaskCourse (asked ++ (suspended.resume config s answer).2.requests) (answered ++ [answer])
      (suspended.resume config s answer).2 := by
  cases h with
  | load hcourse => exact load (hcourse.resume config s answer)
  | expansion hcourse => exact expansion (hcourse.resume config hs answer)

/-- A task that waits has asked for the resource that it waits for. -/
theorem asked_ne_nil {suspended : Suspended} (h : TaskCourse asked answered (.waiting suspended)) :
    asked ≠ [] := by
  cases h with
  | load hcourse => cases hcourse <;> simp
  | expansion hcourse =>
      cases hcourse
      simp

/-- **A task that has failed was answered with its failure, or with something else than the resource
that it asked for last.**  If it has asked for nothing, there was no row to be expanded. -/
theorem failure_cases {failure : Failure} (h : TaskCourse asked answered (.ended (.error failure))) :
    (asked = [] ∧ ∃ row, failure = .unboundRow row) ∨
    ∃ url answer, asked.getLast? = some url ∧ (url, answer) ∈ asked.zip answered ∧
      (answer = .error failure ∨ ∃ reason, failure = .malformed url reason) := by
  cases h with
  | load hcourse =>
      refine Or.inr ?_
      cases hcourse with
      | nodeFails hnode =>
          exact ⟨_, _, rfl, List.mem_cons_self, Answer.eq_of_node_eq_error hnode⟩
      | relationshipsFail hnode hrelationships =>
          exact ⟨_, _, rfl, List.mem_cons_of_mem _ List.mem_cons_self,
            Answer.eq_of_relationships_eq_error hrelationships⟩
  | expansion hcourse =>
      refine Or.inr ?_
      cases hcourse with
      | nodeFails hnode =>
          exact ⟨_, _, rfl, List.mem_cons_self, Answer.eq_of_node_eq_error hnode⟩
  | unbound row => exact Or.inl ⟨rfl, row, rfl⟩

end TaskCourse

/-! ### Whole runs -/

namespace World

variable {config : Config} {w : World} {task : Nat}

/-- **Every task takes a course**, whatever else happens. -/
theorem taskCourse_run (config : Config) (events : List Event) {progress : Progress}
    (h : (initial.run config events).tasks[task]? = some progress) :
    TaskCourse (initial.asked config task events) (initial.answered config task events) progress := by
  -- a task may be started at any time, so events are added at the end of the run
  induction events using List.reverseRecOn generalizing progress with
  | nil => cases h
  | append_singleton events event ih =>
      have hs : (initial.run config events).state.Coherent :=
        coherent_run coherent_initial events
      rw [run_append, run_cons, run_nil] at h
      rw [asked_append, asked_cons, asked_nil, List.append_nil, answered_append, answered_cons,
        answered_nil, List.append_nil]
      rcases Nat.lt_or_ge task (initial.run config events).tasks.length with hlt | hge
      · -- it has been started before
        obtain ⟨next, hnext, hcourse⟩ := course_step (w := initial.run config events)
          (fun suspended answer hwaits => hwaits.resume config hs answer)
          (ih (List.getElem?_eq_getElem hlt)) (List.getElem?_eq_getElem hlt) event
        rw [hnext] at h
        cases h
        exact hcourse
      · -- it is just being started
        obtain ⟨command, rfl, rfl, rfl⟩ := exists_start_of_length_le hge h
        rw [asked_of_length_le (Nat.le_refl _), answered_of_length_le (Nat.le_refl _), asks,
          if_pos rfl]
        exact TaskCourse.start hs _

end World

end GraphBrowser
