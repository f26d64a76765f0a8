import GraphBrowser.Proofs.Navigation.Exchange

/-!
# The last load wins

A load that takes the place of what is on display leaves the view, when it ends, as if nothing else
had ever been asked for. Whatever older tasks are answered meanwhile does not show.

## Main definitions

* `Command.alone` — a load that takes the place of what is on display, by itself
* `Suspended.withToken`, `Progress.withToken` — the same load under another token
* `World.Mirrors` — a load goes on in one world as it does alone in another
* `World.Settled` — no load that still waits is the latest

## Main statements

* `Suspended.resume_withToken` — **an answer does the same in two worlds with the same view**
* `World.Mirrors.run` — for as long as the load waits both worlds go on alike
* `World.Settled.run` — afterwards only what containers hold can change
* `World.last_replacement_wins` — the load shows what it shows alone

## Design notes

**Two worlds are compared by their views.**  The tokens of a long run are larger than those of a
fresh one, but a load only ever compares its token with the latest.

**While the load waits there are no links**, since it has cleared them. So no row can be expanded
until it has ended, and the views agree in their containers up to then.
-/

namespace GraphBrowser

/-- The load that a command comes down to which takes the place of what is on display. The key that
submits the controls goes to what has been typed there. -/
def Command.alone (controls : Controls) : Command → Command
  | .showFirst => .showFirst
  | .showBelow url => .showBelow url
  | .showInstead url => .showInstead url
  | .goTo input => .goTo input
  | .pressKey key =>
    match key with
    | .enter => .goTo controls.input
    | .char value => .pressKey (.char value)
    | .other => .pressKey .other
  | .expandRow row => .expandRow row
  | .follow link =>
    match link.action with
    | .navigate => .showInstead link.target
    | .expand => .expandRow link.row

/-- By itself a load goes where it goes among others. -/
theorem Command.intent_alone {command : Command} (h : command.replaces = true) (config : Config)
    (controls controls' : Controls) :
    ∃ typed typed' url id, command.intent config controls = .replace typed url id ∧
      (command.alone controls).intent config controls' = .replace typed' url id := by
  cases command using Command.cases_by_kind with
  | showInstead url => exact ⟨_, _, _, _, rfl, rfl⟩
  | goTo input => exact ⟨_, _, _, _, rfl, rfl⟩
  | enter => exact ⟨_, _, _, _, rfl, rfl⟩
  | navigate row place target => exact ⟨_, _, _, _, rfl, rfl⟩
  | _ => cases h

/-! ### The same load under another token -/

/-- The task, under another token if it is a load. -/
def Suspended.withToken (token : Nat) : Suspended → Suspended
  | .node load url => .node ⟨token, load.id⟩ url
  | .relationships load url => .relationships ⟨token, load.id⟩ url
  | .expansion e url => .expansion e url

/-- What has become of a load, under another token. -/
def Progress.withToken (token : Nat) : Progress → Progress
  | .waiting task => .waiting (task.withToken token)
  | .ended result => .ended result

namespace BrowserState

variable {s s' : BrowserState}

/-- What a load shows of its node depends on nothing but what has been on view. -/
theorem view_resumeNode (h : s.view = s'.view) (load : Load) (token : Nat)
    (node : Except Failure Node) :
    (s'.resumeNode ⟨token, load.id⟩ node).1.view = (s.resumeNode load node).1.view ∧
      (s'.resumeNode ⟨token, load.id⟩ node).2 = (s.resumeNode load node).2.withToken token := by
  cases node with
  | error failure =>
      refine ⟨?_, rfl⟩
      simp only [resumeNode, view_endLoadWith, h]
  | ok node =>
      refine ⟨?_, rfl⟩
      simp only [resumeNode, view_showProperties, h]

/-- What a load shows of the relationships depends on nothing but what has been on view. -/
theorem view_resumeRelationships (config : Config) (h : s.view = s'.view) (load : Load)
    (token : Nat) (relationships : Except Failure (List Relationship)) :
    (s'.resumeRelationships config ⟨token, load.id⟩ relationships).1.view =
        (s.resumeRelationships config load relationships).1.view ∧
      (s'.resumeRelationships config ⟨token, load.id⟩ relationships).2 =
        (s.resumeRelationships config load relationships).2.withToken token := by
  have hid : s.current.id = s'.current.id := congrArg View.currentId h
  cases relationships with
  | error failure =>
      refine ⟨?_, rfl⟩
      simp only [resumeRelationships, view_endLoadWith, h]
  | ok relationships =>
      refine ⟨?_, rfl⟩
      simp only [resumeRelationships, view_showRelationships, h, hid]

end BrowserState

namespace Suspended

variable {config : Config} {s s' : BrowserState}

/-- **An answer does the same in two states with the same view**, if the load is the latest in
both. -/
theorem resume_withToken (config : Config) {task : Suspended} (hload : task.isLoad = true)
    (hlatest : s.loads.latest = task.loadToken) (hview : s.view = s'.view) (answer : Answer) :
    ((task.withToken s'.loads.latest).resume config s' answer).1.view =
        (task.resume config s answer).1.view ∧
      ((task.withToken s'.loads.latest).resume config s' answer).2 =
        (task.resume config s answer).2.withToken s'.loads.latest := by
  cases task with
  | node load url =>
      rw [resume_node hlatest, withToken, resume_node rfl]
      exact BrowserState.view_resumeNode hview load _ _
  | relationships load url =>
      rw [resume_relationships hlatest, withToken, resume_relationships rfl]
      exact BrowserState.view_resumeRelationships config hview load _ _
  | expansion e url => cases hload

/-- There are no other links than before for as long as a task waits. -/
theorem links_resume_of_waiting {task next : Suspended} {answer : Answer}
    (h : (task.resume config s answer).2 = .waiting next) :
    (task.resume config s answer).1.links = s.links := by
  obtain ⟨load, url, node, rfl, hnode, hlatest, -⟩ := eq_of_resume_eq_waiting h
  rw [resume_node hlatest, hnode]
  rfl

end Suspended

namespace World

variable {config : Config} {w alone : World} {task : Nat}

/-! ### While the load waits -/

/-- A load goes on in a world as the first task goes on alone in another: both show the same and wait
for the same. Everything else that waits in the world has been overtaken. -/
structure Mirrors (w : World) (task : Nat) (suspended : Suspended) (alone : World) : Prop where
  /-- Both worlds show the same. -/
  view_eq : w.state.view = alone.state.view
  /-- There are no links. -/
  links_eq_nil : w.state.links = []
  /-- The task waits. -/
  waits : w.waiting? task = some suspended
  /-- It is a load. -/
  isLoad : suspended.isLoad = true
  /-- It is the latest. -/
  isLatest : w.state.loads.latest = suspended.loadToken
  /-- The first task of the other world waits for the same. -/
  waits_alone : alone.waiting? 0 = some (suspended.withToken alone.state.loads.latest)
  /-- All other tasks are older. -/
  others : ∀ other older, w.waiting? other = some older → other ≠ task →
    older.loadToken < w.state.loads.latest

/-- **A load that takes the place of what is on display starts as it does alone.** -/
theorem mirrors_start (config : Config) {command : Command} (hreplaces : command.replaces = true)
    (hbounded : w.TokensBounded) :
    ∃ suspended, (w.step config (.start command)).Mirrors w.tasks.length suspended
      (initial.step config (.start (command.alone w.state.controls))) := by
  obtain ⟨typed, typed', url, id, hintent, halone⟩ :=
    command.intent_alone hreplaces config w.state.controls initial.state.controls
  have hdestination :
      (command.intent config w.state.controls).destination? = some ⟨url, trimmed id⟩ := by
    rw [hintent]
    rfl
  have hdestination' : ((command.alone w.state.controls).intent config
      initial.state.controls).destination? = some ⟨url, trimmed id⟩ := by
    rw [halone]
    rfl
  have hlatest : (w.step config (.start command)).state.loads.latest =
      w.state.loads.latest + 1 := by
    rw [state_step_start hintent, Intent.start_replace]
    rfl
  have hlatest' : (initial.step config
      (.start (command.alone w.state.controls))).state.loads.latest = 1 := by
    rw [state_step_start halone, Intent.start_replace]
    rfl
  refine ⟨.node ⟨w.state.loads.latest + 1, trimmed id⟩ url, ?_, ?_, waiting?_start hdestination,
    rfl, hlatest, ?_, ?_⟩
  · rw [state_step_start hintent, state_step_start halone, Intent.view_start_replace,
      Intent.view_start_replace]
  · rw [state_step_start hintent]
    exact congrArg View.links (Intent.view_start_replace w.state typed url id)
  · rw [hlatest']
    exact waiting?_start hdestination'
  · -- tokens only grow, and this one is new
    intro other older hwaiting hne
    rw [hlatest]
    rcases waiting?_step hwaiting with hbefore | ⟨_, _, heq, _⟩ | ⟨_, _, heq, _⟩
    · exact Nat.lt_succ_of_le (hbounded other older hbefore)
    · cases heq
    · exact absurd heq hne

namespace Mirrors

variable {suspended : Suspended}

/-- Whatever else happens, unless a load is started, changes neither the view nor the links. -/
theorem view_step (config : Config) (h : w.Mirrors task suspended alone) {event : Event}
    (hstarts : event.startsLoad = false) (hother : ∀ answer, event ≠ .resume task answer) :
    (w.step config event).state.view = w.state.view := by
  cases event with
  | start command =>
      rw [Event.startsLoad, ← Command.isLoad_intent config w.state.controls] at hstarts
      obtain ⟨result, hstart⟩ := Intent.start_of_links_eq_nil hstarts h.links_eq_nil
      rw [state_step_start rfl, hstart]
  | resume other answer =>
      have hne : other ≠ task := fun heq => hother answer (by rw [heq])
      cases hwaiting : w.waiting? other with
      | none => rw [World.step, resume_of_not_waiting hwaiting]
      | some older =>
          have hlt := h.others other older hwaiting hne
          rw [World.step, resume_of_waiting hwaiting, Suspended.resume_of_ne (Nat.ne_of_gt hlt)]
  | takeAlerts => rfl

/-- What is new after such an event does not wait. -/
theorem waiting?_of_step (h : w.Mirrors task suspended alone) {event : Event}
    (hstarts : event.startsLoad = false) (hother : ∀ answer, event ≠ .resume task answer)
    {other : Nat} {older : Suspended}
    (hwaiting : (w.step config event).waiting? other = some older) :
    w.waiting? other = some older := by
  rcases waiting?_step hwaiting with hbefore | ⟨before, answer, rfl, hbefore, hresume⟩ |
    ⟨command, rfl, -, hstart⟩
  · exact hbefore
  · -- an older load does not go on to wait
    have hne : other ≠ task := fun heq => hother answer (by rw [heq])
    have hlt := h.others other before hbefore hne
    rw [Suspended.resume_of_ne (Nat.ne_of_gt hlt)] at hresume
    cases hresume
  · -- there is no link by which a row could be expanded
    rw [Event.startsLoad, ← Command.isLoad_intent config w.state.controls] at hstarts
    obtain ⟨result, hnothing⟩ := Intent.start_of_links_eq_nil hstarts h.links_eq_nil
    rw [Command.start, hnothing] at hstart
    cases hstart

/-- **Nothing else makes a difference while the load waits**, unless a load is started. -/
theorem step_of_ne (h : w.Mirrors task suspended alone) {event : Event}
    (hstarts : event.startsLoad = false) (hother : ∀ answer, event ≠ .resume task answer) :
    (w.step config event).Mirrors task suspended alone := by
  have hview := h.view_step config hstarts hother
  have hlatest : (w.step config event).state.loads.latest = w.state.loads.latest :=
    latest_step_of_not_start config hstarts
  refine ⟨hview.trans h.view_eq, ?_, waiting?_step_of_ne h.waits hother, h.isLoad,
    hlatest.trans h.isLatest, h.waits_alone, ?_⟩
  · exact (congrArg View.links hview).trans h.links_eq_nil
  · intro other older hwaiting hne
    rw [hlatest]
    exact h.others other older (h.waiting?_of_step hstarts hother hwaiting) hne

/-- An answer for the load is an answer for the one that is alone. -/
theorem view_resume (config : Config) (h : w.Mirrors task suspended alone) (answer : Answer) :
    (w.step config (.resume task answer)).state.view =
        (alone.step config (.resume 0 answer)).state.view ∧
      (alone.step config (.resume 0 answer)).tasks[0]? =
        some ((suspended.resume config w.state answer).2.withToken alone.state.loads.latest) := by
  obtain ⟨hview, hprogress⟩ :=
    Suspended.resume_withToken config h.isLoad h.isLatest h.view_eq answer
  refine ⟨?_, ?_⟩
  · rw [World.step, World.step, resume_of_waiting h.waits, resume_of_waiting h.waits_alone]
    exact hview.symm
  · rw [World.step, getElem?_tasks_resume h.waits_alone, hprogress]

/-- **If the load waits again, so does the one that is alone**, and both worlds show the same. -/
theorem step_waiting (h : w.Mirrors task suspended alone) {answer : Answer} {next : Suspended}
    (hnext : (suspended.resume config w.state answer).2 = .waiting next) :
    (w.step config (.resume task answer)).Mirrors task next
      (alone.step config (.resume 0 answer)) := by
  obtain ⟨hview, hprogress⟩ := h.view_resume config answer
  obtain ⟨hload, htoken⟩ := Suspended.loadToken_of_resume hnext
  have hlatest : (w.step config (.resume task answer)).state.loads.latest =
      w.state.loads.latest := latest_step config w _
  have halone : (alone.step config (.resume 0 answer)).state.loads.latest =
      alone.state.loads.latest := latest_step config alone _
  refine ⟨hview, ?_, ?_, hload.trans h.isLoad, ?_, ?_, ?_⟩
  · rw [World.step, resume_of_waiting h.waits]
    exact (Suspended.links_resume_of_waiting hnext).trans h.links_eq_nil
  · rw [waiting?_eq_some_iff, World.step, getElem?_tasks_resume h.waits, hnext]
  · rw [hlatest, h.isLatest, htoken]
  · rw [waiting?_eq_some_iff, hprogress, hnext, halone]
    rfl
  · intro other older hwaiting hne
    rw [hlatest]
    rcases waiting?_step hwaiting with hbefore | ⟨_, _, heq, _⟩ | ⟨_, heq, _⟩
    · exact h.others other older hbefore hne
    · cases heq
      exact absurd rfl hne
    · cases heq

/-- **For as long as the load waits both worlds go on alike.**  Alone the load is given the answers
that reach it among all others. -/
theorem run (h : w.Mirrors task suspended alone) {events : List Event}
    (hstarts : ∀ event ∈ events, event.startsLoad = false)
    (hpending : (w.run config events).result? task = none) :
    ∃ next, (w.run config events).Mirrors task next
      (alone.run config ((w.answered config task events).map (Event.resume 0))) := by
  -- along the events of the long run; the short one moves only when the load is answered
  induction events generalizing w suspended alone with
  | nil => exact ⟨suspended, h⟩
  | cons event events ih =>
      have hlater : ∀ event' ∈ events, event'.startsLoad = false :=
        fun event' hmem => hstarts event' (List.mem_cons_of_mem event hmem)
      by_cases hevent : ∃ answer, event = .resume task answer
      · obtain ⟨answer, rfl⟩ := hevent
        cases hprogress : (suspended.resume config w.state answer).2 with
        | waiting next =>
            rw [answered_cons, answers_of_waiting h.waits]
            exact ih (h.step_waiting hprogress) hlater hpending
        | ended result =>
            -- a result is final, but the task has none after the run
            have hresult : (w.step config (.resume task answer)).result? task = some result := by
              rw [result?_eq_some_iff, World.step, getElem?_tasks_resume h.waits, hprogress]
            rw [run_cons, result?_run hresult] at hpending
            cases hpending
      · have hother : ∀ answer, event ≠ .resume task answer :=
          fun answer heq => hevent ⟨answer, heq⟩
        rw [answered_cons, answers_of_ne hother]
        exact ih (h.step_of_ne (hstarts event List.mem_cons_self) hother) hlater hpending

end Mirrors

/-! ### Once the load has ended -/

/-- No load that still waits is the latest. -/
def Settled (w : World) : Prop :=
  ∀ other older, w.waiting? other = some older → older.isLoad = true →
    older.loadToken < w.state.loads.latest

/-- When the latest load ends the world is settled. -/
theorem Mirrors.settled_step {suspended : Suspended} (h : w.Mirrors task suspended alone)
    {answer : Answer} {result : Result}
    (hended : (suspended.resume config w.state answer).2 = .ended result) :
    (w.step config (.resume task answer)).Settled := by
  intro other older hwaiting hload
  have hlatest : (w.step config (.resume task answer)).state.loads.latest =
      w.state.loads.latest := latest_step config w _
  have hget : (w.step config (.resume task answer)).tasks[task]? = some (.ended result) := by
    rw [World.step, getElem?_tasks_resume h.waits, hended]
  have hne : other ≠ task := by
    rintro rfl
    rw [waiting?_eq_some_iff, hget] at hwaiting
    cases hwaiting
  rw [hlatest]
  rcases waiting?_step hwaiting with hbefore | ⟨_, _, heq, _⟩ | ⟨_, heq, _⟩
  · exact h.others other older hbefore hne
  · cases heq
    exact absurd rfl hne
  · cases heq

namespace Settled

/-- A world that is settled changes in its containers only, and stays settled, unless a load is
started. -/
theorem step (config : Config) (h : w.Settled) {event : Event} (hstarts : event.startsLoad = false) :
    (w.step config event).Settled ∧
      (w.step config event).state.view.emptied = w.state.view.emptied := by
  have hlatest : (w.step config event).state.loads.latest = w.state.loads.latest :=
    latest_step_of_not_start config hstarts
  constructor
  · intro other older hwaiting hload
    rw [hlatest]
    rcases waiting?_step hwaiting with hbefore | ⟨before, answer, rfl, hbefore, hresume⟩ |
      ⟨command, rfl, -, hstart⟩
    · exact h other older hbefore hload
    · obtain ⟨hsame, htoken⟩ := Suspended.loadToken_of_resume hresume
      rw [htoken]
      exact h other before hbefore (hsame ▸ hload)
    · rw [(Intent.loadToken_of_start hstart).1, Command.isLoad_intent] at hload
      rw [Event.startsLoad, hload] at hstarts
      cases hstarts
  · cases event with
    | start command =>
        rw [Event.startsLoad, ← Command.isLoad_intent config w.state.controls] at hstarts
        rw [state_step_start rfl]
        exact Intent.emptied_view_start hstarts w.state
    | resume other answer =>
        cases hwaiting : w.waiting? other with
        | none => rw [World.step, resume_of_not_waiting hwaiting]
        | some older =>
            rw [World.step, resume_of_waiting hwaiting]
            refine Suspended.emptied_view_resume fun hcurrent => ?_
            exact Nat.ne_of_gt (h other older hwaiting hcurrent.1) hcurrent.2
    | takeAlerts => rfl

/-- **Until the next load only what containers hold can change.** -/
theorem run (h : w.Settled) {events : List Event}
    (hstarts : ∀ event ∈ events, event.startsLoad = false) :
    (w.run config events).state.view.emptied = w.state.view.emptied := by
  induction events generalizing w with
  | nil => rfl
  | cons event events ih =>
      obtain ⟨hsettled, hview⟩ := h.step config (hstarts event List.mem_cons_self)
      rw [← hview]
      exact ih hsettled fun event' hmem => hstarts event' (List.mem_cons_of_mem event hmem)

end Settled

/-! ### Whole runs -/

/-- **The last load wins.**  Let a load that takes the place of what is on display be the last that
is started, whatever has happened before and whatever else happens. When it ends, its result and all
that is on view are those of a fresh browser that does nothing but this load and gets the same
answers. From then on only what containers hold can differ. -/
theorem last_replacement_wins (config : Config) (before during after : List Event)
    (command : Command) (event : Event) (hreplaces : command.replaces = true)
    (hlast : ∀ later ∈ during ++ after, later.startsLoad = false) :
    let w := initial.run config before
    let task := w.tasks.length
    let pending := (w.step config (.start command)).run config during
    let ended := pending.step config event
    let answers := w.answered config task (.start command :: during ++ [event])
    let alone := initial.run config
      (.start (command.alone w.state.controls) :: answers.map (Event.resume 0))
    ∀ result, pending.result? task = none → ended.result? task = some result →
      alone.result? 0 = some result ∧
      ended.state.view = alone.state.view ∧
      (ended.run config after).result? task = some result ∧
      (ended.run config after).state.view.emptied = alone.state.view.emptied := by
  intro w task pending ended answers alone result hpending hended
  have hbounded : w.TokensBounded := tokensBounded_run tokensBounded_initial before
  obtain ⟨first, hstart⟩ := mirrors_start config hreplaces hbounded
  have hduring : ∀ later ∈ during, later.startsLoad = false :=
    fun later hmem => hlast later (List.mem_append_left after hmem)
  have hafter : ∀ later ∈ after, later.startsLoad = false :=
    fun later hmem => hlast later (List.mem_append_right during hmem)
  obtain ⟨suspended, hmirrors⟩ := hstart.run hduring hpending
  obtain ⟨answer, rfl, hresume⟩ := exists_resume_of_result? hmirrors.waits hended
  obtain ⟨hview, hprogress⟩ := hmirrors.view_resume config answer
  have hanswers : answers =
      (w.step config (.start command)).answered config task during ++ [answer] := by
    have hthis : (w.run config (.start command :: during)).answers task (.resume task answer) =
        [answer] := answers_of_waiting hmirrors.waits answer
    refine (answered_append _ _).trans ?_
    rw [answered_cons, answered_cons, hthis]
    rfl
  have halone : alone = ((initial.step config (.start (command.alone w.state.controls))).run config
      (((w.step config (.start command)).answered config task during).map (Event.resume 0))).step
      config (.resume 0 answer) := by
    show initial.run config (_ :: answers.map (Event.resume 0)) = _
    rw [hanswers, List.map_append, run_cons, run_append]
    rfl
  have hsettled : ended.Settled := hmirrors.settled_step hresume
  rw [halone]
  refine ⟨?_, hview, result?_run hended after, ?_⟩
  · rw [result?_eq_some_iff, hprogress, hresume]
    rfl
  · rw [hsettled.run hafter, ← hview]

/-- A load that is answered twice, while an older load and rows are asked for in between. -/
theorem last_replacement_wins_over_append :
    let node : Answer := .ok (.array [.object [], .string "/2/all"])
    let relationships : Answer :=
      .ok (.array [.array [.string "/2", .string "/3", .string "KNOWS"]])
    let before := [Event.start (.showBelow "/1")]
    let during := [Event.resume 0 node, .start (.expandRow 0), .resume 1 node]
    let after := [Event.start (.expandRow 0), .resume 3 node]
    let w := initial.run {} before
    let pending := (w.step {} (.start (.showInstead "/2"))).run {} during
    let ended := pending.step {} (.resume 1 relationships)
    let alone := initial.run {}
      [.start (.showInstead "/2"), .resume 0 node, .resume 0 relationships]
    (Command.showInstead "/2").replaces = true ∧
    (∀ later ∈ during ++ after, later.startsLoad = false) ∧
    pending.result? 1 = none ∧
    ended.result? 1 = some (.ok .rendered) ∧
    alone.result? 0 = some (.ok .rendered) ∧
    ended.state.view = alone.state.view ∧
    (ended.run {} after).state.view.emptied = alone.state.view.emptied := by
  intro node relationships before during after w pending ended alone
  have hreplaces : (Command.showInstead "/2").replaces = true := rfl
  have hlast : ∀ later ∈ during ++ after, later.startsLoad = false := by
    simp [during, after, Event.startsLoad, Command.isLoad]
  have hpending : pending.result? 1 = none := rfl
  have hended : ended.result? 1 = some (.ok .rendered) := rfl
  obtain ⟨halone, hview, -, hlater⟩ := last_replacement_wins {} before during after
    (.showInstead "/2") (.resume 1 relationships) hreplaces hlast (.ok .rendered) hpending hended
  exact ⟨hreplaces, hlast, hpending, hended, halone, hview, hlater⟩

end World

end GraphBrowser
