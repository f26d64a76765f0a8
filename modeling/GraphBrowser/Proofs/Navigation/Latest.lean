import GraphBrowser.Proofs.Navigation.Waiting
import GraphBrowser.Proofs.Text.Trim
import Mathlib.Data.List.Induction

/-!
# The state follows the latest load

Whatever else is going on, the id that is shown, the text in the controls, the sign that something is
being loaded and the count of loads are those of the load that was started last.

## Main definitions

* `World.concernsLoad` — whether an event is the start of a load or an answer for one
* `World.Follows` — the invariant: the state is that of one load, and no other load that waits is newer

## Main statements

* `World.emptied_view_step` — **nothing but a load changes more than containers**
* `World.latest_run` — the tokens count the loads that were started
* `World.Follows.run` — **the state goes on to follow the latest load** until another one is started
* `World.state_follows_latest_load` — all of this for whole runs
-/

namespace GraphBrowser

/-! ### Stretches -/

/-- **A load that starts shows its id**, writes it into the controls and is loading. -/
theorem Intent.start_shows_id {intent : Intent} {destination : Destination}
    (h : intent.destination? = some destination) (s : BrowserState) :
    (intent.start s).1.current.id = some destination.id ∧
      (intent.start s).1.controls.input = destination.id ∧ (intent.start s).1.loading = true := by
  cases intent with
  | append url id =>
      cases h
      have hview := view_start_append s url id
      rw [trimmed_trimmed] at hview
      exact ⟨congrArg View.currentId hview, congrArg View.input hview, congrArg View.loading hview⟩
  | replace controls url id =>
      cases h
      have hview := view_start_replace s controls url id
      rw [trimmed_trimmed] at hview
      exact ⟨congrArg View.currentId hview, congrArg View.input hview, congrArg View.loading hview⟩
  | expand row => cases h
  | nothing => cases h

/-- **The latest load keeps its id when it is answered**, and is loading until it ends. -/
theorem Suspended.resume_keeps_id (config : Config) {s : BrowserState} {suspended : Suspended}
    (hload : suspended.isLoad = true) (hlatest : s.loads.latest = suspended.loadToken)
    (hloading : s.loading = true) (answer : Answer) :
    (suspended.resume config s answer).1.current = s.current ∧
      (suspended.resume config s answer).1.controls = s.controls ∧
      ((suspended.resume config s answer).1.loading = true ↔
        ∃ next, (suspended.resume config s answer).2 = .waiting next) := by
  cases suspended with
  | node load url =>
      rw [resume_node hlatest]
      cases answer.node url with
      | error failure => exact ⟨rfl, rfl, iff_of_false Bool.false_ne_true (by rintro ⟨_, ⟨⟩⟩)⟩
      | ok node => exact ⟨rfl, rfl, iff_of_true hloading ⟨_, rfl⟩⟩
  | relationships load url =>
      rw [resume_relationships hlatest]
      cases answer.relationships url with
      | error failure => exact ⟨rfl, rfl, iff_of_false Bool.false_ne_true (by rintro ⟨_, ⟨⟩⟩)⟩
      | ok relationships => exact ⟨rfl, rfl, iff_of_false Bool.false_ne_true (by rintro ⟨_, ⟨⟩⟩)⟩
  | expansion e url => cases hload

namespace World

variable {config : Config} {w : World}

/-! ### Events that concern no load -/

/-- Whether an event is the start of a load or an answer for one. -/
def concernsLoad (w : World) : Event → Bool
  | .start command => command.isLoad
  | .resume task _ =>
    match w.waiting? task with
    | some suspended => suspended.isLoad
    | none => false
  | .takeAlerts => false

/-- **Nothing but the start of a load and an answer for the latest one changes more than
containers.** -/
theorem emptied_view_step (config : Config) {event : Event} (hstarts : event.startsLoad = false)
    (hanswers : ∀ task answer suspended, event = .resume task answer →
      w.waiting? task = some suspended →
      ¬ (suspended.isLoad = true ∧ w.state.loads.latest = suspended.loadToken)) :
    (w.step config event).state.view.emptied = w.state.view.emptied := by
  cases event with
  | start command =>
      rw [Event.startsLoad, ← Command.isLoad_intent config w.state.controls] at hstarts
      rw [state_step_start rfl]
      exact Intent.emptied_view_start hstarts w.state
  | resume task answer =>
      cases hwaiting : w.waiting? task with
      | none => rw [step, resume_of_not_waiting hwaiting]
      | some suspended =>
          rw [step, resume_of_waiting hwaiting]
          exact Suspended.emptied_view_resume (hanswers task answer suspended rfl hwaiting)
  | takeAlerts => rfl

/-- What concerns no load leaves what is shown of the loads as it is. -/
theorem emptied_view_step_of_not_concernsLoad (config : Config) {event : Event}
    (h : w.concernsLoad event = false) :
    (w.step config event).state.view.emptied = w.state.view.emptied ∧ event.startsLoad = false := by
  have hstarts : event.startsLoad = false := by
    cases event with
    | start command => exact h
    | resume task answer => rfl
    | takeAlerts => rfl
  refine ⟨emptied_view_step config hstarts ?_, hstarts⟩
  rintro task answer suspended rfl hwaiting ⟨hload, -⟩
  rw [concernsLoad, hwaiting] at h
  exact Bool.false_ne_true (h.symm.trans hload)

/-! ### The count of loads -/

/-- **The token of the latest load counts the loads** that were started. -/
theorem latest_run (config : Config) (w : World) (events : List Event) :
    (w.run config events).state.loads.latest =
      w.state.loads.latest + events.countP Event.startsLoad := by
  induction events generalizing w with
  | nil => rfl
  | cons event events ih =>
      rw [run_cons, ih, latest_step, List.countP_cons]
      omega

/-! ### Before the first load -/

/-- No task that waits is a load. -/
def NoLoadWaits (w : World) : Prop :=
  ∀ task suspended, w.waiting? task = some suspended → suspended.isLoad = false

/-- Without a start of a load no load comes to wait. -/
theorem noLoadWaits_step (h : w.NoLoadWaits) {event : Event} (hstarts : event.startsLoad = false) :
    (w.step config event).NoLoadWaits := by
  intro task suspended hwaiting
  rcases waiting?_step hwaiting with hbefore | ⟨before, answer, rfl, hbefore, hresume⟩ |
    ⟨command, rfl, -, hstart⟩
  · exact h task suspended hbefore
  · rw [(Suspended.loadToken_of_resume hresume).1]
    exact h task before hbefore
  · rw [Command.start] at hstart
    rw [(Intent.loadToken_of_start hstart).1, Command.isLoad_intent]
    exact hstarts

/-- **Before the first load is started nothing is shown of any.** -/
theorem emptied_view_run (config : Config) (h : w.NoLoadWaits) {events : List Event}
    (hstarts : ∀ event ∈ events, event.startsLoad = false) :
    (w.run config events).state.view.emptied = w.state.view.emptied := by
  induction events generalizing w with
  | nil => rfl
  | cons event events ih =>
      obtain ⟨hfirst, hlater⟩ := List.forall_mem_cons.mp hstarts
      rw [run_cons, ih (noLoadWaits_step h hfirst) hlater]
      refine emptied_view_step config hfirst ?_
      rintro task answer suspended rfl hwaiting ⟨hload, -⟩
      rw [h task suspended hwaiting] at hload
      cases hload

/-! ### After the latest load -/

/-- The state follows a load: its id is shown, and it is loading for as long as it waits. All other
loads that wait are older. -/
structure Follows (w : World) (task : Nat) (id : String) : Prop where
  /-- Its id is the current one. -/
  currentId : w.state.current.id = some id
  /-- Its id is in the controls. -/
  input : w.state.controls.input = id
  /-- It has been started. -/
  started : task < w.tasks.length
  /-- It is loading for as long as it waits. -/
  loading_iff : w.state.loading = true ↔ ∃ suspended, w.waiting? task = some suspended
  /-- It is a load, and the latest. -/
  isLatest : ∀ suspended, w.waiting? task = some suspended →
    suspended.isLoad = true ∧ w.state.loads.latest = suspended.loadToken
  /-- All other loads are older. -/
  others : ∀ other older, w.waiting? other = some older → older.isLoad = true → other ≠ task →
    older.loadToken < w.state.loads.latest

/-- **The state follows a load from its start on.** -/
theorem follows_start (config : Config) (hbounded : w.TokensBounded) {command : Command}
    {id : String} (h : command.shownId? config w.state.controls = some id) :
    (w.step config (.start command)).Follows w.tasks.length id := by
  obtain ⟨url, hdestination⟩ := Command.exists_destination?_of_shownId? h
  rw [← Command.destination?_intent] at hdestination
  have hwaits : (w.step config (.start command)).waiting? w.tasks.length =
      some (.node ⟨w.state.loads.latest + 1, id⟩ url) :=
    waiting?_start hdestination
  have hlatest : (w.step config (.start command)).state.loads.latest =
      w.state.loads.latest + 1 := latest_step_of_destination hdestination
  obtain ⟨hid, hinput, hloading⟩ := Intent.start_shows_id hdestination w.state
  rw [← state_step_start rfl] at hid hinput hloading
  refine ⟨hid, hinput, lt_length_of_waiting hwaits, iff_of_true hloading ⟨_, hwaits⟩, ?_, ?_⟩
  · intro suspended hsame
    rw [hwaits] at hsame
    cases hsame
    exact ⟨rfl, hlatest⟩
  · -- tokens only grow, and this one is new
    intro other older hwaiting hload hne
    rw [hlatest]
    rcases waiting?_step hwaiting with hbefore | ⟨_, _, heq, _⟩ | ⟨_, _, heq, _⟩
    · exact Nat.lt_succ_of_le (hbounded other older hbefore)
    · cases heq
    · exact absurd heq hne

namespace Follows

variable {task : Nat} {id : String}

/-- Other loads stay older unless one is started. -/
theorem others_step (h : w.Follows task id) {event : Event} (hstarts : event.startsLoad = false)
    {other : Nat} {older : Suspended}
    (hwaiting : (w.step config event).waiting? other = some older) (hload : older.isLoad = true)
    (hne : other ≠ task) : older.loadToken < (w.step config event).state.loads.latest := by
  rw [latest_step_of_not_start config hstarts]
  rcases waiting?_step hwaiting with hbefore | ⟨before, answer, rfl, hbefore, hresume⟩ |
    ⟨command, rfl, -, hstart⟩
  · exact h.others other older hbefore hload hne
  · obtain ⟨hsame, htoken⟩ := Suspended.loadToken_of_resume hresume
    rw [htoken]
    exact h.others other before hbefore (hsame.symm.trans hload) hne
  · rw [Command.start] at hstart
    rw [(Intent.loadToken_of_start hstart).1, Command.isLoad_intent] at hload
    exact absurd (hstarts.symm.trans hload) Bool.false_ne_true

/-- Whatever happens without the load changes nothing about it, unless another one is started. -/
theorem step_of_ne (h : w.Follows task id) {event : Event} (hstarts : event.startsLoad = false)
    (hother : ∀ answer, event = .resume task answer → w.waiting? task = none) :
    (w.step config event).Follows task id := by
  have hview : (w.step config event).state.view.emptied = w.state.view.emptied := by
    refine emptied_view_step config hstarts ?_
    rintro other answer suspended rfl hwaiting ⟨hload, hlatest⟩
    by_cases hsame : other = task
    · subst hsame
      rw [hother answer rfl] at hwaiting
      cases hwaiting
    · have hlt := h.others other suspended hwaiting hload hsame
      omega
  have hlatest : (w.step config event).state.loads.latest = w.state.loads.latest :=
    latest_step_of_not_start config hstarts
  have hloading : (w.step config event).state.loading = w.state.loading :=
    congrArg View.loading hview
  have hwaits : (w.step config event).waiting? task = w.waiting? task := by
    by_cases hevent : ∃ answer, event = .resume task answer
    · obtain ⟨answer, rfl⟩ := hevent
      rw [step, resume_of_not_waiting (hother answer rfl)]
    · rw [waiting?, getElem?_tasks_step h.started fun answer heq => hevent ⟨answer, heq⟩, ← waiting?]
  refine ⟨(congrArg View.currentId hview).trans h.currentId,
    (congrArg View.input hview).trans h.input,
    Nat.lt_of_lt_of_le h.started (length_tasks_le_step event), ?_, ?_, ?_⟩
  · rw [hloading, hwaits]
    exact h.loading_iff
  · rw [hlatest, hwaits]
    exact h.isLatest
  · intro other older hwaiting hload hne
    exact h.others_step hstarts hwaiting hload hne

/-- An answer for the load lets it wait again or ends it. -/
theorem step_resume (h : w.Follows task id) {suspended : Suspended}
    (hwaiting : w.waiting? task = some suspended) (answer : Answer) :
    (w.step config (.resume task answer)).Follows task id := by
  obtain ⟨hload, hlatest⟩ := h.isLatest suspended hwaiting
  obtain ⟨hcurrent, hcontrols, hloading⟩ := Suspended.resume_keeps_id config hload hlatest
    (h.loading_iff.mpr ⟨suspended, hwaiting⟩) answer
  have hstate : (w.step config (.resume task answer)).state =
      (suspended.resume config w.state answer).1 := by
    rw [step, resume_of_waiting hwaiting]
  have htask : ∀ next, (w.step config (.resume task answer)).waiting? task = some next ↔
      (suspended.resume config w.state answer).2 = .waiting next := by
    intro next
    rw [waiting?_eq_some_iff, step, getElem?_tasks_resume hwaiting]
    exact Option.some_inj
  refine ⟨?_, ?_, Nat.lt_of_lt_of_le h.started (length_tasks_le_step _), ?_, ?_, ?_⟩
  · rw [hstate, hcurrent]
    exact h.currentId
  · rw [hstate, hcontrols]
    exact h.input
  · rw [hstate, hloading]
    exact exists_congr fun next => (htask next).symm
  · intro next hnext
    obtain ⟨hsame, htoken⟩ := Suspended.loadToken_of_resume ((htask next).mp hnext)
    rw [hsame, htoken, hstate, Suspended.loads_resume]
    exact ⟨hload, hlatest⟩
  · intro other older hother hload' hne
    exact h.others_step rfl hother hload' hne

/-- **Every event but the start of another load lets the state follow the load.** -/
theorem step (h : w.Follows task id) {event : Event} (hstarts : event.startsLoad = false) :
    (w.step config event).Follows task id := by
  by_cases hevent : ∃ answer suspended, event = .resume task answer ∧
      w.waiting? task = some suspended
  · obtain ⟨answer, suspended, rfl, hwaiting⟩ := hevent
    exact h.step_resume hwaiting answer
  · refine h.step_of_ne hstarts ?_
    rintro answer rfl
    cases hwaiting : w.waiting? task with
    | none => rfl
    | some suspended => exact absurd ⟨answer, suspended, rfl, hwaiting⟩ hevent

/-- **The state goes on to follow the latest load** until another one is started. -/
theorem run (h : w.Follows task id) {events : List Event}
    (hstarts : ∀ event ∈ events, event.startsLoad = false) :
    (w.run config events).Follows task id := by
  induction events generalizing w with
  | nil => exact h
  | cons event events ih =>
      obtain ⟨hfirst, hlater⟩ := List.forall_mem_cons.mp hstarts
      exact ih (h.step hfirst) hlater

end Follows

/-! ### Whole runs -/

/-- A run in which loads are started has a latest one. -/
theorem exists_latest_start {events : List Event} (h : 0 < events.countP Event.startsLoad) :
    ∃ before command after, events = before ++ .start command :: after ∧
      command.isLoad = true ∧ ∀ event ∈ after, event.startsLoad = false := by
  induction events using List.reverseRecOn with
  | nil => cases h
  | append_singleton events event ih =>
      cases hstarts : event.startsLoad with
      | true =>
          cases event with
          | start command => exact ⟨events, command, [], rfl, hstarts, by simp⟩
          | resume task answer => cases hstarts
          | takeAlerts => cases hstarts
      | false =>
          rw [List.countP_append, List.countP_singleton, hstarts] at h
          obtain ⟨before, command, after, rfl, hload, hafter⟩ := ih h
          refine ⟨before, command, after ++ [event], by simp, hload, ?_⟩
          intro later hmem
          rcases List.mem_append.mp hmem with hmem | hmem
          · exact hafter later hmem
          · rw [List.mem_singleton.mp hmem]
            exact hstarts

/-- Before the first load is started no node is shown and nothing is being loaded. -/
theorem state_of_no_start (config : Config) {events : List Event}
    (h : events.countP Event.startsLoad = 0) :
    (initial.run config events).state.current.id = none ∧
      (initial.run config events).state.controls.input = "node id" ∧
      (initial.run config events).state.loading = false := by
  have hinitial : initial.NoLoadWaits := by
    intro task suspended hwaiting
    cases hwaiting
  have hstarts : ∀ event ∈ events, event.startsLoad = false := by
    intro event hmem
    rw [← Bool.not_eq_true]
    exact List.countP_eq_zero.mp h event hmem
  have hview := emptied_view_run config hinitial hstarts
  exact ⟨congrArg View.currentId hview, congrArg View.input hview, congrArg View.loading hview⟩

/-- Once a load has been started the state follows the latest one. -/
theorem exists_follows (config : Config) {events : List Event}
    (h : 0 < events.countP Event.startsLoad) :
    ∃ before command after id, events = before ++ .start command :: after ∧
      (∀ event ∈ after, event.startsLoad = false) ∧
      command.shownId? config (initial.run config before).state.controls = some id ∧
      (initial.run config events).Follows (initial.run config before).tasks.length id := by
  obtain ⟨before, command, after, rfl, hload, hafter⟩ := exists_latest_start h
  have hshows := command.isSome_shownId? config (initial.run config before).state.controls
  obtain ⟨id, hid⟩ := Option.isSome_iff_exists.mp (hshows.trans hload)
  have hbounded : (initial.run config before).TokensBounded :=
    tokensBounded_run tokensBounded_initial before
  refine ⟨before, command, after, id, rfl, hafter, hid, ?_⟩
  rw [run_append, run_cons]
  exact (follows_start config hbounded hid).run hafter

/-- **The state follows the latest load.**  After every run the count of loads is the number of loads
that were started. Before the first one no node is shown, the controls hold what they held at the
beginning and nothing is being loaded. Later the latest load decides: its id is shown and is the text
in the controls, and something is being loaded exactly for as long as this load waits for its node or
its relationships. So nothing is being loaded once all tasks have ended. Starting or answering an
expansion, or anything else that is no load, changes none of this. -/
theorem state_follows_latest_load (config : Config) (events : List Event) :
    let w := initial.run config events
    w.state.loads.latest = events.countP Event.startsLoad ∧
    (events.countP Event.startsLoad = 0 →
      w.state.current.id = none ∧ w.state.controls.input = "node id" ∧
        w.state.loading = false) ∧
    (0 < events.countP Event.startsLoad →
      ∃ before command after id, events = before ++ .start command :: after ∧
        (∀ event ∈ after, event.startsLoad = false) ∧
        command.shownId? config (initial.run config before).state.controls = some id ∧
        w.state.current.id = some id ∧ w.state.controls.input = id ∧
        (w.state.loading = true ↔
          ∃ suspended, w.waiting? (initial.run config before).tasks.length = some suspended ∧
            suspended.isLoad = true)) ∧
    ((∀ task, w.waiting? task = none) → w.state.loading = false) ∧
    ∀ event, w.concernsLoad event = false →
      (w.step config event).state.current.id = w.state.current.id ∧
      (w.step config event).state.controls.input = w.state.controls.input ∧
      (w.step config event).state.loading = w.state.loading ∧
      (w.step config event).state.loads.latest = w.state.loads.latest := by
  intro w
  refine ⟨?_, state_of_no_start config, ?_, ?_, ?_⟩
  · show (initial.run config events).state.loads.latest = _
    rw [latest_run]
    exact Nat.zero_add _
  · intro hpos
    obtain ⟨before, command, after, id, hevents, hafter, hid, hfollows⟩ := exists_follows config hpos
    refine ⟨before, command, after, id, hevents, hafter, hid, hfollows.currentId, hfollows.input, ?_⟩
    rw [hfollows.loading_iff]
    refine exists_congr fun suspended => ?_
    exact ⟨fun hwaiting => ⟨hwaiting, (hfollows.isLatest suspended hwaiting).1⟩, And.left⟩
  · intro hended
    rcases Nat.eq_zero_or_pos (events.countP Event.startsLoad) with hzero | hpos
    · exact (state_of_no_start config hzero).2.2
    · obtain ⟨before, command, after, id, -, -, -, hfollows⟩ := exists_follows config hpos
      rw [← Bool.not_eq_true, hfollows.loading_iff]
      rintro ⟨suspended, hwaiting⟩
      rw [hended] at hwaiting
      cases hwaiting
  · intro event hconcerns
    obtain ⟨hview, hstarts⟩ := emptied_view_step_of_not_concernsLoad config hconcerns
    exact ⟨congrArg View.currentId hview, congrArg View.input hview,
      congrArg View.loading hview, latest_step_of_not_start config hstarts⟩

end World

end GraphBrowser
