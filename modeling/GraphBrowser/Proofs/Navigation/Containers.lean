import GraphBrowser.Proofs.Navigation.Exchange
import GraphBrowser.Proofs.Navigation.Freshness
import Mathlib.Data.List.Induction

/-!
# What containers hold

The container of a row shows one copy of the node that the row leads to, as far as the newest
expansion of the row has got. Older expansions, which may be answered later, leave no trace there.

## Main definitions

* `World.newestExpansion?` — the task that was started last to expand a row, since the table on
  display was rendered
* `World.ShowsExpansion` — what a container shows, by what has become of that task
* `World.Unfolds` — the invariant: the newest expansion decides what the container of a row shows

## Main statements

* `World.unfolds_run` — **the newest expansion decides what the container of a row shows after every
  run**
* `World.aboveLastTable_run` — earlier tables are out of reach
* `World.containers_show_newest` — both

## Design notes

**Which expansion is the newest is said without tokens**, by the order of events. The invariant adds
that only this expansion can hold the token of its row.
-/

namespace GraphBrowser

namespace World

variable {config : Config} {w : World}

/-! ### The newest expansion of a row -/

/-- The newest expansion of a row after an event: none if the event renders a table, the task that
the event starts if it asks for the row, and otherwise that before. -/
def nextNewest (config : Config) (row : Nat) (w : World) (newest : Option Nat) (event : Event) :
    Option Nat :=
  if w.rendersTable config event then none
  else if event.expands row then some w.tasks.length
  else newest

/-- The newest expansion of a row after a run: the task that was started last to expand it since a
table was rendered, if there is one. -/
def newestExpansion? (config : Config) (row : Nat) (w : World) (newest : Option Nat) :
    List Event → Option Nat
  | [] => newest
  | event :: events =>
    newestExpansion? config row (w.step config event) (w.nextNewest config row newest event) events

theorem newestExpansion?_concat (row : Nat) (newest : Option Nat) (events : List Event)
    (event : Event) :
    w.newestExpansion? config row newest (events ++ [event]) =
      (w.run config events).nextNewest config row
        (w.newestExpansion? config row newest events) event := by
  induction events generalizing w newest with
  | nil => rfl
  | cons first events ih => exact ih _

/-- A table that is rendered has rows that nothing has expanded. -/
theorem nextNewest_of_renders {event : Event} (h : w.rendersTable config event = true) (row : Nat)
    (newest : Option Nat) : w.nextNewest config row newest event = none := by
  rw [nextNewest, if_pos h]

/-- What neither renders a table nor asks for the row does not change its newest expansion. -/
theorem nextNewest_of_not_expands {event : Event} (h : w.rendersTable config event = false)
    {row : Nat} (hexpands : event.expands row = false) (newest : Option Nat) :
    w.nextNewest config row newest event = newest := by
  rw [nextNewest, h, hexpands]
  rfl

/-- A row that is asked for has a new newest expansion. -/
theorem nextNewest_of_expands {event : Event} {row : Nat} (h : event.expands row = true)
    (newest : Option Nat) : w.nextNewest config row newest event = some w.tasks.length := by
  obtain ⟨command, rfl, -⟩ := Event.exists_start_of_expands h
  have hrenders : w.rendersTable config (.start command) = false := rfl
  rw [nextNewest, hrenders, if_neg Bool.false_ne_true, if_pos h]

/-! ### What a container shows -/

/-- What the container of a row shows when a task is expanding it or has done so, by what has become
of the task and what it was answered: the heading of the node that the row leads to, followed by its
properties with their heading if the task has ended with them on display. -/
inductive ShowsExpansion (w : World) (answers : List Answer) (task row : Nat) (target : String) :
    List Block → Prop where
  /-- The task waits. -/
  | pending {e : Expansion} (hwaiting : w.waiting? task = some (.expansion e target))
      (hrow : e.row = row) (hanswers : answers = []) :
      ShowsExpansion w answers task row target [.heading ("Node " ++ resourceId target)]
  /-- It has failed. -/
  | failed {failure : Failure} (hresult : w.result? task = some (.error failure)) :
      ShowsExpansion w answers task row target [.heading ("Node " ++ resourceId target)]
  /-- It was overtaken. -/
  | superseded (hresult : w.result? task = some (.ok .superseded)) :
      ShowsExpansion w answers task row target [.heading ("Node " ++ resourceId target)]
  /-- It has shown its node. -/
  | rendered {answer : Answer} {node : Node} (hresult : w.result? task = some (.ok .rendered))
      (hanswers : answers = [answer]) (hnode : answer.node target = .ok node) :
      ShowsExpansion w answers task row target
        [.heading ("Node " ++ resourceId target), .heading "Properties",
          .properties ⟨node.properties.entries.map fun entry => ⟨entry.1, entry.2.display⟩⟩]

namespace ShowsExpansion

variable {answers : List Answer} {task row : Nat} {target : String} {blocks : List Block}

/-- While the task waits, its row shows the heading. -/
theorem eq_of_waiting (h : w.ShowsExpansion answers task row target blocks) {e : Expansion}
    {url : String} (hwaiting : w.waiting? task = some (.expansion e url)) :
    e.row = row ∧ url = target ∧ answers = [] ∧ blocks = [nodeTitle (resourceId target)] := by
  have hresult := result?_eq_none_of_waiting hwaiting
  cases h with
  | pending hsame hrow hanswers =>
      rw [hwaiting] at hsame
      cases hsame
      exact ⟨hrow, rfl, hanswers, rfl⟩
  | failed hended =>
      rw [hresult] at hended
      cases hended
  | superseded hended =>
      rw [hresult] at hended
      cases hended
  | rendered hended hanswers hnode =>
      rw [hresult] at hended
      cases hended

/-- Once the task has shown its node, its row shows the heading and the properties of the node in the
answer. -/
theorem eq_of_rendered (h : w.ShowsExpansion answers task row target blocks)
    (hresult : w.result? task = some (.ok .rendered)) :
    ∃ answer node, answers = [answer] ∧ answer.node target = .ok node ∧
      blocks = [.heading ("Node " ++ resourceId target), .heading "Properties",
        .properties ⟨node.properties.entries.map fun entry => ⟨entry.1, entry.2.display⟩⟩] := by
  cases h with
  | pending hwaiting =>
      rw [result?_eq_none_of_waiting hwaiting] at hresult
      cases hresult
  | failed hended =>
      rw [hended] at hresult
      cases hresult
  | superseded hended =>
      rw [hended] at hresult
      cases hresult
  | rendered hended hanswers hnode => exact ⟨_, _, hanswers, hnode, rfl⟩

/-- **What a container shows stays the same unless the task shows its node.** -/
theorem step (h : w.ShowsExpansion answers task row target blocks) (hs : w.state.Coherent)
    (event : Event)
    (hkeeps : ∀ answer e url, event = .resume task answer →
      w.waiting? task = some (.expansion e url) →
      ((Suspended.expansion e url).resume config w.state answer).2 ≠ .ended (.ok .rendered)) :
    (w.step config event).ShowsExpansion (answers ++ w.answers task event) task row target
      blocks := by
  cases h with
  | @pending e hwaiting hrow hanswers =>
      by_cases hevent : ∃ answer, event = .resume task answer
      · obtain ⟨answer, rfl⟩ := hevent
        have hnot := hkeeps answer e target rfl hwaiting
        have hget : (w.step config (.resume task answer)).tasks[task]? =
            some ((Suspended.expansion e target).resume config w.state answer).2 :=
          getElem?_tasks_resume hwaiting answer
        rcases Suspended.resume_expansion_cases config hs e target answer with ⟨-, hresume⟩ |
          ⟨failure, -, -, hresume⟩ | ⟨node, surface, -, -, -, hresume⟩
        · rw [hresume] at hget
          exact .superseded (result?_eq_some_iff.mpr hget)
        · rw [hresume] at hget
          exact .failed (result?_eq_some_iff.mpr hget)
        · rw [hresume] at hnot
          exact absurd rfl hnot
      · have hother : ∀ answer, event ≠ .resume task answer :=
          fun answer heq => hevent ⟨answer, heq⟩
        rw [answers_of_ne hother, List.append_nil]
        exact .pending (waiting?_step_of_ne hwaiting hother) hrow hanswers
  | failed hresult => exact .failed (result?_step hresult event)
  | superseded hresult => exact .superseded (result?_step hresult event)
  | rendered hresult hanswers hnode =>
      rw [answers_of_not_waiting (waiting?_eq_none_of_result? hresult), List.append_nil]
      exact .rendered (result?_step hresult event) hanswers hnode

end ShowsExpansion

/-! ### The invariant -/

/-- The newest expansion of a row decides what its container shows, and no other expansion that waits
holds the token of the row. -/
structure Unfolds (w : World) (answers : Nat → List Answer) (newest : Nat → Option Nat) : Prop where
  /-- A row that has not been asked for shows nothing. -/
  closed : ∀ row expander, w.state.surface.expander? row = some expander → newest row = none →
    expander.container = []
  /-- A row that has been asked for shows what the newest expansion has. -/
  opened : ∀ row expander task, w.state.surface.expander? row = some expander →
    newest row = some task →
    w.ShowsExpansion (answers task) task row expander.target expander.container
  /-- An expansion that waits and holds the token of its row is the newest one. -/
  holder : ∀ task e url, w.waiting? task = some (.expansion e url) →
    w.state.expansions.token? e.row = some e.token → newest e.row = some task

namespace Unfolds

variable {answers : Nat → List Answer} {newest : Nat → Option Nat}

/-- Rows that stay as they are go on to show what their newest expansions have. -/
theorem step_of_keeps (h : w.Unfolds answers newest) (hs : w.state.Coherent) {event : Event}
    (hrows : ∀ row,
      (w.step config event).state.surface.expander? row = w.state.surface.expander? row)
    (hexpansions : (w.step config event).state.expansions = w.state.expansions)
    (hrenders : w.rendersTable config event = false)
    (hexpands : ∀ row, event.expands row = true → w.state.surface.expander? row = none)
    (hresult : ∀ task answer e url, event = .resume task answer →
      w.waiting? task = some (.expansion e url) →
      ((Suspended.expansion e url).resume config w.state answer).2 ≠ .ended (.ok .rendered)) :
    (w.step config event).Unfolds (fun task => answers task ++ w.answers task event)
      (fun row => w.nextNewest config row (newest row) event) := by
  -- a row that can be expanded has not been asked for
  have hnewest : ∀ row expander, w.state.surface.expander? row = some expander →
      w.nextNewest config row (newest row) event = newest row := by
    intro row expander hexpander
    refine nextNewest_of_not_expands hrenders ?_ _
    cases hasked : event.expands row with
    | false => rfl
    | true =>
        rw [hexpands row hasked] at hexpander
        cases hexpander
  refine ⟨?_, ?_, ?_⟩
  · intro row expander hexpander hnone
    rw [hrows] at hexpander
    rw [hnewest row expander hexpander] at hnone
    exact h.closed row expander hexpander hnone
  · intro row expander task hexpander hsome
    rw [hrows] at hexpander
    rw [hnewest row expander hexpander] at hsome
    exact (h.opened row expander task hexpander hsome).step hs event (hresult task)
  · intro task e url hwaiting htoken
    rw [hexpansions] at htoken
    obtain ⟨expander, hexpander⟩ := hs.expandable e.row e.token htoken
    rw [hnewest e.row expander hexpander]
    rcases waiting?_step_expansion hwaiting with hbefore | ⟨command, rfl, -, hstart⟩
    · exact h.holder task e url hbefore htoken
    · obtain ⟨row, started, -, hasked, hstarted, -⟩ := exists_of_start_expansion hs hstart
      rw [hexpands row hasked] at hstarted
      cases hstarted

/-- A row in which a new expansion begins shows its heading, and the other rows what they showed. -/
theorem step_of_opens (h : w.Unfolds answers newest) (hs : w.state.Coherent)
    (hprecede : w.ExpansionsPrecede) (hunanswered : answers w.tasks.length = []) {command : Command}
    {row : Nat} {expander : Expander} {surface : Surface} (hexpands : command.expands row = true)
    (hexpander : w.state.surface.expander? row = some expander)
    (hsurface : w.state.surface.updateContainer? row
      (fun _ => [nodeTitle (resourceId expander.target)]) = some surface)
    (hstate : (w.step config (.start command)).state = w.state.beginExpansion row surface)
    (hwaits : (w.step config (.start command)).waiting? w.tasks.length =
      some (.expansion (w.state.nextExpansion row) expander.target)) :
    (w.step config (.start command)).Unfolds
      (fun task => answers task ++ w.answers task (.start command))
      (fun other => w.nextNewest config other (newest other) (.start command)) := by
  have hasks : (Event.start command).expands row = true := hexpands
  have hself : w.nextNewest config row (newest row) (.start command) = some w.tasks.length :=
    nextNewest_of_expands hasks _
  have hothers : ∀ other, other ≠ row →
      w.nextNewest config other (newest other) (.start command) = newest other := by
    intro other hne
    refine nextNewest_of_not_expands rfl ?_ _
    rw [← Bool.not_eq_true]
    exact fun hasked => hne (Command.eq_of_expands hexpands hasked)
  refine ⟨?_, ?_, ?_⟩
  · intro other after hafter hnone
    by_cases hrow : other = row
    · subst hrow
      rw [hself] at hnone
      cases hnone
    · rw [hothers other hrow] at hnone
      rw [hstate] at hafter
      exact h.closed other after
        ((Surface.expander?_updateContainer?_of_ne hsurface hrow).symm.trans hafter) hnone
  · intro other after task hafter hsome
    by_cases hrow : other = row
    · subst hrow
      rw [hself] at hsome
      cases hsome
      obtain ⟨before, hbefore, hread⟩ := Surface.expander?_updateContainer?_self hsurface
      rw [hexpander] at hbefore
      cases hbefore
      have hsame : after = ⟨expander.target, [nodeTitle (resourceId expander.target)]⟩ := by
        rw [hstate] at hafter
        exact Option.some.inj (hafter.symm.trans hread)
      rw [hsame]
      exact .pending hwaits rfl (by rw [hunanswered]; rfl)
    · rw [hothers other hrow] at hsome
      rw [hstate] at hafter
      have hbefore := (Surface.expander?_updateContainer?_of_ne hsurface hrow).symm.trans hafter
      refine (h.opened other after task hbefore hsome).step hs _ ?_
      intro answer e url heq
      cases heq
  · intro task e url hwaiting htoken
    rcases waiting?_step_expansion hwaiting with hbefore | ⟨started, heq, rfl, hstart⟩
    · by_cases hrow : e.row = row
      · -- the token of the row is newer than any that waits
        rw [hstate, hrow, BrowserState.beginExpansion, Expansions.token?_insert_self] at htoken
        have hnewer : w.state.lastExpansion + 1 = e.token := Option.some.inj htoken
        have hle := (hprecede task e url hbefore).2
        omega
      · rw [hstate, BrowserState.beginExpansion, Expansions.token?_insert_of_ne _ _ hrow] at htoken
        rw [hothers e.row hrow]
        exact h.holder task e url hbefore htoken
    · cases heq
      obtain ⟨other, _, _, hasked, -, rfl, -, -⟩ := exists_of_start_expansion hs hstart
      rw [← Command.eq_of_expands hexpands hasked] at hself
      exact hself

/-- A row whose fresh expansion gets its node shows it, and the other rows what they showed. -/
theorem step_of_fills (h : w.Unfolds answers newest) (hs : w.state.Coherent) {task : Nat}
    {e : Expansion} {url : String} {answer : Answer} {node : Node} {surface : Surface}
    (hwaits : w.waiting? task = some (.expansion e url)) (hfresh : w.state.isFresh e = true)
    (hnode : answer.node url = .ok node)
    (hsurface : w.state.surface.updateContainer? e.row (· ++ node.properties.blocks) = some surface)
    (hstate : (w.step config (.resume task answer)).state = { w.state with surface })
    (hresult : (w.step config (.resume task answer)).result? task = some (.ok .rendered)) :
    (w.step config (.resume task answer)).Unfolds
      (fun other => answers other ++ w.answers other (.resume task answer))
      (fun row => w.nextNewest config row (newest row) (.resume task answer)) := by
  have hrenders : w.rendersTable config (.resume task answer) = false := by
    rw [rendersTable, hwaits]
  have hnewest : ∀ row, w.nextNewest config row (newest row) (.resume task answer) = newest row :=
    fun row => nextNewest_of_not_expands hrenders rfl _
  have hholder : newest e.row = some task :=
    h.holder task e url hwaits (BrowserState.isFresh_eq_true_iff.mp hfresh).2
  refine ⟨?_, ?_, ?_⟩
  · intro row after hafter hnone
    rw [hnewest] at hnone
    rw [hstate] at hafter
    by_cases hrow : row = e.row
    · subst hrow
      rw [hholder] at hnone
      cases hnone
    · exact h.closed row after
        ((Surface.expander?_updateContainer?_of_ne hsurface hrow).symm.trans hafter) hnone
  · intro row after other hafter hsome
    rw [hnewest] at hsome
    rw [hstate] at hafter
    by_cases hrow : row = e.row
    · subst hrow
      rw [hholder] at hsome
      cases hsome
      obtain ⟨before, hbefore, hread⟩ := Surface.expander?_updateContainer?_self hsurface
      obtain ⟨-, rfl, hanswers, hcontainer⟩ :=
        (h.opened e.row before task hbefore hholder).eq_of_waiting hwaits
      have hsame : after = ⟨before.target,
          nodeTitle (resourceId before.target) :: node.properties.blocks⟩ := by
        rw [hcontainer] at hread
        exact Option.some.inj (hafter.symm.trans hread)
      rw [hsame]
      refine .rendered hresult ?_ hnode
      rw [hanswers, answers_of_waiting hwaits]
      rfl
    · have hbefore := (Surface.expander?_updateContainer?_of_ne hsurface hrow).symm.trans hafter
      have hshows := h.opened row after other hbefore hsome
      refine hshows.step hs _ ?_
      intro answer' e' url' heq
      cases heq
      exact absurd (hshows.eq_of_waiting hwaits).1.symm hrow
  · intro other e' url' hwaiting htoken
    rw [hstate] at htoken
    rw [hnewest]
    rcases waiting?_step_expansion hwaiting with hbefore | ⟨_, heq, -, -⟩
    · exact h.holder other e' url' hbefore htoken
    · cases heq

/-- **One event after another, the newest expansions go on to decide what containers show.** -/
theorem step (config : Config) (h : w.Unfolds answers newest) (hs : w.state.Coherent)
    (hprecede : w.ExpansionsPrecede) (hunanswered : answers w.tasks.length = []) (event : Event) :
    (w.step config event).Unfolds (fun task => answers task ++ w.answers task event)
      (fun row => w.nextNewest config row (newest row) event) := by
  cases rowEffect config hs event with
  | keeps blocks hblocks hsurface hexpansions hlast hclears hrenders hexpands hresult =>
      refine h.step_of_keeps hs ?_ hexpansions hrenders hexpands hresult
      intro row
      rw [hsurface, Surface.expander?_append_of_none hblocks]
  | clears hclears hsurface hexpansions hlast =>
      -- there is neither a row nor a token
      have hrows : ∀ row, (w.step config event).state.surface.expander? row = none := by
        intro row
        rw [Surface.expander?, Surface.lastTable?, hsurface]
        rfl
      refine ⟨?_, ?_, ?_⟩
      · intro row expander hexpander
        rw [hrows] at hexpander
        cases hexpander
      · intro row expander task hexpander
        rw [hrows] at hexpander
        cases hexpander
      · intro task e url hwaiting htoken
        rw [hexpansions] at htoken
        cases htoken
  | @renders table hrenders hsurface htable hexpansions hlast =>
      refine ⟨?_, ?_, ?_⟩
      · intro row expander hexpander hnone
        rw [hsurface, Surface.expander?_append_table] at hexpander
        exact htable row expander hexpander
      · intro row expander task hexpander hsome
        rw [nextNewest_of_renders hrenders] at hsome
        cases hsome
      · intro task e url hwaiting htoken
        rw [hexpansions] at htoken
        cases htoken
  | @opens row expander surface hexpands hexpander hsurface hstate hwaits =>
      obtain ⟨command, rfl, hcommand⟩ := Event.exists_start_of_expands hexpands
      exact h.step_of_opens hs hprecede hunanswered hcommand hexpander hsurface hstate hwaits
  | @fills task e url answer node surface hevent hwaits hfresh hnode hsurface hstate hresult =>
      subst hevent
      exact h.step_of_fills hs hwaits hfresh hnode hsurface hstate hresult

end Unfolds

/-- **The newest expansion decides what the container of a row shows after every run.** -/
theorem unfolds_run (config : Config) (events : List Event) :
    (initial.run config events).Unfolds (fun task => initial.answered config task events)
      (fun row => initial.newestExpansion? config row none events) := by
  -- what a task was answered is told by the whole run, so events are added at its end
  induction events using List.reverseRecOn with
  | nil =>
      refine ⟨?_, ?_, ?_⟩
      · intro row expander hexpander
        cases hexpander
      · intro row expander task hexpander
        cases hexpander
      · intro task e url hwaiting
        simp [initial, waiting?] at hwaiting
  | append_singleton events event ih =>
      have hcoherent : (initial.run config events).state.Coherent :=
        coherent_run coherent_initial events
      have hprecede : (initial.run config events).ExpansionsPrecede :=
        expansionsPrecede_run expansionsPrecede_initial coherent_initial events
      have hstep := ih.step config hcoherent hprecede (answered_of_length_le (Nat.le_refl _)) event
      simpa only [run_append, run_cons, run_nil, answered_append, answered_cons, answered_nil,
        List.append_nil, newestExpansion?_concat] using hstep

/-! ### Earlier tables -/

/-- An event that does not clear the view leaves the blocks above the last table as they are. -/
theorem aboveLastTable_step (hs : w.state.Coherent) {event : Event}
    (h : event.clearsView = false) :
    w.state.surface.aboveLastTable <+: (w.step config event).state.surface.aboveLastTable := by
  cases rowEffect config hs event with
  | keeps blocks hblocks hsurface =>
      rw [hsurface]
      exact Surface.aboveLastTable_append _ _
  | clears hclears =>
      rw [h] at hclears
      cases hclears
  | renders hrenders hsurface =>
      rw [hsurface]
      exact Surface.aboveLastTable_append _ _
  | opens hexpands hexpander hsurface hstate =>
      have hsame : (w.step config event).state.surface.aboveLastTable =
          w.state.surface.aboveLastTable := by
        rw [hstate]
        exact Surface.aboveLastTable_updateContainer? hsurface
      exact ⟨[], (List.append_nil _).trans hsame.symm⟩
  | fills hevent hwaits hfresh hnode hsurface hstate =>
      have hsame : (w.step config event).state.surface.aboveLastTable =
          w.state.surface.aboveLastTable := by
        rw [hstate]
        exact Surface.aboveLastTable_updateContainer? hsurface
      exact ⟨[], (List.append_nil _).trans hsame.symm⟩

/-- **Earlier tables are out of reach**, until the view is cleared. -/
theorem aboveLastTable_run (hs : w.state.Coherent) {events : List Event}
    (h : ∀ event ∈ events, event.clearsView = false) :
    w.state.surface.aboveLastTable <+: (w.run config events).state.surface.aboveLastTable := by
  induction events generalizing w with
  | nil => exact List.prefix_rfl
  | cons event events ih =>
      obtain ⟨hfirst, hlater⟩ := List.forall_mem_cons.mp h
      exact (aboveLastTable_step hs hfirst).trans (ih (coherent_step hs event) hlater)

/-! ### Whole runs -/

/-- **There is one copy in the container of a row.**  After every run the container of a row of the
last table is empty if nothing has expanded the row since that table was rendered, and otherwise it
shows what the newest expansion of the row has got, which is at most one heading and one table of
properties. A table that has a newer one below it stays as it is until the view is cleared. -/
theorem containers_show_newest (config : Config) (events : List Event) :
    let w := initial.run config events
    (∀ row container, w.state.surface.container? row = some container →
      ∃ target, w.state.expandTarget? row = some target ∧
        (initial.newestExpansion? config row none events = none → container = []) ∧
        ∀ task, initial.newestExpansion? config row none events = some task →
          w.ShowsExpansion (initial.answered config task events) task row target container) ∧
    ∀ above table below newer, w.state.surface.blocks = above ++ .relationships table :: below →
      .relationships newer ∈ below →
      ∀ more, (∀ event ∈ more, event.clearsView = false) →
        above ++ [.relationships table] <+: (w.run config more).state.surface.blocks := by
  intro w
  have hunfolds : w.Unfolds _ _ := unfolds_run config events
  have hcoherent : w.state.Coherent := coherent_run coherent_initial events
  refine ⟨?_, ?_⟩
  · intro row container hcontainer
    rw [Surface.container?_eq] at hcontainer
    obtain ⟨expander, hexpander, rfl⟩ := Option.map_eq_some_iff.mp hcontainer
    refine ⟨expander.target, ?_, hunfolds.closed row expander hexpander,
      fun task hnewest => hunfolds.opened row expander task hexpander hnewest⟩
    rw [BrowserState.expandTarget?_eq hcoherent.linksAgree, hexpander]
    rfl
  · intro above table below newer hblocks hnewer more hclears
    have habove : above ++ [.relationships table] <+: w.state.surface.aboveLastTable :=
      Surface.isPrefix_aboveLastTable hblocks hnewer
    have hstays : w.state.surface.aboveLastTable <+:
        (w.run config more).state.surface.aboveLastTable := aboveLastTable_run hcoherent hclears
    exact (habove.trans hstays).trans (Surface.aboveLastTable_isPrefix _)

/-- A row that is asked for twice. The second expansion is answered first and shows its node; the
first, which is answered later with another node, is superseded and leaves no trace. -/
theorem container_of_row_asked_for_twice :
    let node : Answer := .ok (.array [.object [], .string "/2/all"])
    let relationships : Answer :=
      .ok (.array [.array [.string "/2", .string "/3", .string "KNOWS"]])
    let shown : Answer := .ok (.array [.object [("name", .string "Ada")], .string "/3/all"])
    let late : Answer := .ok (.array [.object [("name", .string "Grace")], .string "/3/all"])
    let asked := [Event.start (.showInstead "/2"), .resume 0 node, .resume 0 relationships,
      .start (.expandRow 0), .start (.expandRow 0)]
    let events := asked ++ [.resume 2 shown, .resume 1 late]
    let w := initial.run {} events
    let container : List Block :=
      [.heading "Node 3", .heading "Properties", .properties ⟨[⟨"name", "Ada"⟩]⟩]
    w.state.expandTarget? 0 = some "/3" ∧
    initial.newestExpansion? {} 0 none events = some 2 ∧
    w.ShowsExpansion (initial.answered {} 2 events) 2 0 "/3" container ∧
    w.state.surface.container? 0 = some container ∧
    w.result? 1 = some (.ok .superseded) ∧ w.result? 2 = some (.ok .rendered) := by
  intro node relationships shown late asked events w container
  have htarget : w.state.expandTarget? 0 = some "/3" := by decide +kernel
  have hnewest : initial.newestExpansion? {} 0 none events = some 2 := by decide +kernel
  have hfirst : w.result? 1 = some (.ok .superseded) := by decide +kernel
  have hsecond : w.result? 2 = some (.ok .rendered) := by decide +kernel
  have hsome : (w.state.surface.container? 0).isSome = true := by decide +kernel
  obtain ⟨blocks, hblocks⟩ := Option.isSome_iff_exists.mp hsome
  obtain ⟨hcontainers, -⟩ := containers_show_newest {} events
  have hw : initial.run {} events = w := rfl
  rw [hw] at hcontainers
  obtain ⟨target, hsame, -, hshows⟩ := hcontainers 0 blocks hblocks
  obtain rfl : "/3" = target := Option.some.inj (htarget.symm.trans hsame)
  have hexpansion := hshows 2 hnewest
  -- what the row shows is the node in the only answer for the second expansion
  have hanswered : initial.answered {} 2 events = [shown] := by
    have hwaits : ((initial.run {} asked).waiting? 2).isSome = true := by decide +kernel
    have hnone : initial.answered {} 2 asked = [] := by simp [asked, answers]
    rw [answered_append, hnone]
    simp [answers, hwaits]
  obtain ⟨answer, found, hanswer, hfound, hcontainer⟩ := hexpansion.eq_of_rendered hsecond
  obtain rfl : shown = answer := List.singleton_inj.mp (hanswered.symm.trans hanswer)
  have hrows : found.properties.entries.map (fun entry => PropertyRow.mk entry.1 entry.2.display) =
      [⟨"name", "Ada"⟩] := by
    have hshown : (shown.node "/3").toOption.map (fun node : Node => node.properties.entries.map
        fun entry => PropertyRow.mk entry.1 entry.2.display) = some [⟨"name", "Ada"⟩] := by
      decide +kernel
    rw [hfound] at hshown
    exact Option.some.inj hshown
  have htitle : "Node " ++ resourceId "/3" = "Node 3" := by decide +kernel
  rw [hrows, htitle] at hcontainer
  subst hcontainer
  exact ⟨htarget, hnewest, hexpansion, hblocks, hfirst, hsecond⟩

end World

end GraphBrowser
