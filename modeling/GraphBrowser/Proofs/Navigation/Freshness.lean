import GraphBrowser.Proofs.Navigation.Rows

/-!
# Fresh expansions

An expansion that waits is overtaken by the next load, by the next table, and by the next expansion
of its row. It looks at two tokens to find that out, of which a table that was loaded below what is
on display changes only one.

## Main definitions

* `World.overtakesRow` — whether an event overtakes the expansions of a row
* `World.IsRowOvertaken` — such an event is among those of a run
* `World.TakesEffect` — what an answer does to an expansion that was not overtaken

## Main statements

* `World.isFresh_step` — **an event takes the freshness of an expansion exactly if it overtakes the
  row**
* `World.isFresh_run` — the same for a run
* `World.expansion_takes_effect_iff` — an answer takes effect exactly if the expansion was not
  overtaken

## Design notes

**What overtakes a row is said without tokens**, by what is started and what is rendered. That the
tokens tell the same is the content of this module.
-/

namespace GraphBrowser

namespace World

variable {config : Config} {w : World}

/-- Whether an event overtakes the expansions of a row that wait: it starts a load, renders a table or
asks for the row again. -/
def overtakesRow (config : Config) (w : World) (row : Nat) (event : Event) : Bool :=
  event.startsLoad || w.rendersTable config event || event.expands row

/-- The expansions of a row are overtaken along a run. -/
def IsRowOvertaken (config : Config) (row : Nat) (w : World) (events : List Event) : Prop :=
  ∃ before event after, events = before ++ event :: after ∧
    (w.run config before).overtakesRow config row event = true

/-- Nothing is overtaken along no events. -/
theorem not_isRowOvertaken_nil (row : Nat) : ¬ w.IsRowOvertaken config row [] := by
  rintro ⟨before, event, after, heq, -⟩
  cases before <;> cases heq

/-- A row is overtaken by the first event or by a later one. -/
theorem isRowOvertaken_cons {row : Nat} {event : Event} {events : List Event} :
    w.IsRowOvertaken config row (event :: events) ↔
      w.overtakesRow config row event = true ∨
      (w.step config event).IsRowOvertaken config row events := by
  constructor
  · rintro ⟨before, overtaking, after, heq, hovertakes⟩
    cases before with
    | nil =>
        cases heq
        exact Or.inl hovertakes
    | cons first before =>
        cases heq
        exact Or.inr ⟨before, overtaking, after, rfl, hovertakes⟩
  · rintro (hovertakes | ⟨before, overtaking, after, rfl, hovertakes⟩)
    · exact ⟨[], event, events, rfl, hovertakes⟩
    · exact ⟨event :: before, overtaking, after, rfl, hovertakes⟩

/-! ### Tokens of expansions -/

/-- The token of the newest expansion only grows. -/
theorem lastExpansion_le_step (hs : w.state.Coherent) (event : Event) :
    w.state.lastExpansion ≤ (w.step config event).state.lastExpansion := by
  cases rowEffect config hs event with
  | keeps blocks hblocks hsurface hexpansions hlast => exact Nat.le_of_eq hlast.symm
  | clears hclears hsurface hexpansions hlast => exact Nat.le_of_eq hlast.symm
  | renders hrenders hsurface htable hexpansions hlast => exact Nat.le_of_eq hlast.symm
  | opens hexpands hexpander hsurface hstate hwaits =>
      rw [hstate]
      exact Nat.le_succ _
  | fills hevent hwaits hfresh hnode hsurface hstate hresult =>
      have hsame : (w.step config event).state.lastExpansion = w.state.lastExpansion := by
        rw [hstate]
      exact Nat.le_of_eq hsame.symm

/-- No expansion has tokens from the future. -/
def Precedes (e : Expansion) (w : World) : Prop :=
  e.viewToken ≤ w.state.loads.latest ∧ e.token ≤ w.state.lastExpansion

/-- What lies in the past does so ever after. -/
theorem Precedes.step {e : Expansion} (h : Precedes e w) (hs : w.state.Coherent) (event : Event) :
    Precedes e (w.step config event) := by
  refine ⟨Nat.le_trans h.1 ?_, Nat.le_trans h.2 (lastExpansion_le_step hs event)⟩
  rw [latest_step]
  exact Nat.le_add_right _ _

/-- **An event takes the freshness of an expansion exactly if it overtakes the row.** -/
theorem isFresh_step (hs : w.state.Coherent) {e : Expansion} (he : Precedes e w) (event : Event) :
    (w.step config event).state.isFresh e = true ↔
      w.state.isFresh e = true ∧ w.overtakesRow config e.row event = false := by
  obtain ⟨hview, htoken⟩ := he
  rw [BrowserState.isFresh_eq_true_iff, BrowserState.isFresh_eq_true_iff, latest_step]
  cases hstarts : event.startsLoad with
  | true =>
      -- a load moves the first token on
      have hovertakes : w.overtakesRow config e.row event = true := by
        rw [overtakesRow, hstarts]
        rfl
      refine iff_of_false ?_ ?_
      · rintro ⟨hlatest, -⟩
        rw [if_pos rfl] at hlatest
        omega
      · rintro ⟨-, hnot⟩
        rw [hovertakes] at hnot
        cases hnot
  | false =>
      rw [if_neg Bool.false_ne_true, Nat.add_zero, overtakesRow, hstarts, Bool.false_or]
      cases rowEffect config hs event with
      | keeps blocks hblocks hsurface hexpansions hlast hclears hrenders hexpands hresult =>
          rw [hexpansions, hrenders, Bool.false_or]
          refine ⟨fun hfresh => ⟨hfresh, ?_⟩, And.left⟩
          -- a row with a token can be expanded, so that asking for it would not keep the rows
          obtain ⟨expander, hexpander⟩ := hs.expandable e.row e.token hfresh.2
          cases hasked : event.expands e.row with
          | false => rfl
          | true =>
              rw [hexpands e.row hasked] at hexpander
              cases hexpander
      | clears hclears hsurface hexpansions hlast =>
          rw [Event.startsLoad_of_clearsView hclears] at hstarts
          cases hstarts
      | renders hrenders hsurface htable hexpansions hlast =>
          rw [hexpansions, hrenders, Expansions.token?_empty]
          simp
      | @opens row expander surface hexpands hexpander hsurface hstate hwaits =>
          obtain ⟨command, rfl, -⟩ := Event.exists_start_of_expands hexpands
          rw [hstate, BrowserState.beginExpansion, rendersTable, Bool.false_or]
          by_cases hrow : e.row = row
          · -- the row has got a newer token
            subst hrow
            rw [hexpands, Expansions.token?_insert_self]
            refine iff_of_false ?_ (by simp)
            rintro ⟨-, hsame⟩
            have hnewer : w.state.lastExpansion + 1 = e.token := Option.some.inj hsame
            omega
          · have hother : (Event.start command).expands e.row = false := by
              rw [← Bool.not_eq_true]
              exact fun hasked => hrow (Event.eq_of_expands hexpands hasked)
            rw [hother, Expansions.token?_insert_of_ne _ _ hrow]
            simp
      | fills hevent hwaits hfresh hnode hsurface hstate hresult =>
          subst hevent
          rw [hstate, rendersTable, hwaits]
          simp [Event.expands]

/-- **An expansion stays fresh along a run exactly if its row is not overtaken.** -/
theorem isFresh_run (hs : w.state.Coherent) {e : Expansion} (he : Precedes e w)
    (events : List Event) :
    (w.run config events).state.isFresh e = true ↔
      w.state.isFresh e = true ∧ ¬ w.IsRowOvertaken config e.row events := by
  induction events generalizing w with
  | nil => simp [not_isRowOvertaken_nil]
  | cons event events ih =>
      rw [run_cons, ih (coherent_step hs event) (he.step hs event), isFresh_step hs he,
        isRowOvertaken_cons, not_or, and_assoc, Bool.not_eq_true]

/-! ### Expansions that wait -/

/-- An expansion that waits after an event has waited before, or it has just been started. -/
theorem waiting?_step_expansion {task : Nat} {e : Expansion} {url : String} {event : Event}
    (h : (w.step config event).waiting? task = some (.expansion e url)) :
    w.waiting? task = some (.expansion e url) ∨
    ∃ command, event = .start command ∧ task = w.tasks.length ∧
      (command.start config w.state).2 = .waiting (.expansion e url) := by
  rcases waiting?_step h with hbefore | ⟨_, _, -, -, hresume⟩ | hstarted
  · exact Or.inl hbefore
  · -- only a load waits a second time
    obtain ⟨_, _, _, -, -, -, hnext⟩ := Suspended.eq_of_resume_eq_waiting hresume
    cases hnext
  · exact Or.inr hstarted

/-- An expansion waits for nothing else after it has been started. -/
theorem waiting?_of_run_expansion {task : Nat} {e : Expansion} {url : String} {events : List Event}
    (hlt : task < w.tasks.length)
    (h : (w.run config events).waiting? task = some (.expansion e url)) :
    w.waiting? task = some (.expansion e url) := by
  induction events generalizing w with
  | nil => exact h
  | cons event events ih =>
      have hmiddle := ih (Nat.lt_of_lt_of_le hlt (length_tasks_le_step event)) h
      rcases waiting?_step_expansion hmiddle with hbefore | ⟨_, -, rfl, -⟩
      · exact hbefore
      · exact absurd hlt (Nat.lt_irrefl _)

/-- What a task that has just been started waits for. -/
theorem start_eq_of_waiting {command : Command} {suspended : Suspended}
    (h : (w.step config (.start command)).waiting? w.tasks.length = some suspended) :
    (command.start config w.state).2 = .waiting suspended := by
  rw [waiting?_eq_some_iff, step, getElem?_tasks_start] at h
  exact Option.some.inj h

/-- **An expansion is fresh when it starts.** -/
theorem isFresh_start {e : Expansion} {url : String} {command : Command} (hs : w.state.Coherent)
    (h : (command.start config w.state).2 = .waiting (.expansion e url)) :
    (w.step config (.start command)).state.isFresh e = true ∧
      Precedes e (w.step config (.start command)) := by
  obtain ⟨row, expander, surface, -, -, rfl, -, hstate⟩ := exists_of_start_expansion hs h
  rw [Precedes, hstate, BrowserState.isFresh_eq_true_iff]
  exact ⟨⟨rfl, Expansions.token?_insert_self _ _ _⟩, Nat.le_refl _, Nat.le_refl _⟩

/-- No expansion that waits has tokens from the future. -/
def ExpansionsPrecede (w : World) : Prop :=
  ∀ task e url, w.waiting? task = some (.expansion e url) → Precedes e w

theorem expansionsPrecede_initial : initial.ExpansionsPrecede := by
  intro task e url h
  simp [initial, waiting?] at h

theorem expansionsPrecede_step (h : w.ExpansionsPrecede) (hs : w.state.Coherent) (event : Event) :
    (w.step config event).ExpansionsPrecede := by
  intro task e url hwaiting
  rcases waiting?_step_expansion hwaiting with hbefore | ⟨command, rfl, -, hstart⟩
  · exact (h task e url hbefore).step hs event
  · exact (isFresh_start hs hstart).2

/-- **No expansion ever has tokens from the future.** -/
theorem expansionsPrecede_run (h : w.ExpansionsPrecede) (hs : w.state.Coherent)
    (events : List Event) : (w.run config events).ExpansionsPrecede := by
  induction events generalizing w with
  | nil => exact h
  | cons event events ih => exact ih (expansionsPrecede_step h hs event) (coherent_step hs event)

/-- What an answer does to an expansion that was not overtaken: it puts the properties of the node,
below their heading, into its row or, if there is no node in the answer, ends it with a failure that
the reader is told about. Nothing else is changed. -/
def TakesEffect (config : Config) (w : World) (task row : Nat) (url : String) (answer : Answer) :
    Prop :=
  match answer.node url with
  | .ok node =>
    let table : PropertyTable :=
      ⟨node.properties.entries.map fun entry => ⟨entry.1, entry.2.display⟩⟩
    ∃ surface,
      w.state.surface.updateContainer? row (· ++ [.heading "Properties", .properties table]) =
        some surface ∧
      w.step config (.resume task answer) =
        ⟨{ w.state with surface }, w.tasks.set task (.ended (.ok .rendered))⟩
  | .error failure =>
    let alerts : AlertQueue := ⟨w.state.alerts.pending ++ [⟨failure.message, failure.url?⟩]⟩
    w.step config (.resume task answer) =
      ⟨{ w.state with alerts }, w.tasks.set task (.ended (.error failure))⟩

variable {task : Nat} {e : Expansion} {url : String}

/-- An answer takes effect on a fresh expansion. -/
theorem takesEffect_of_fresh (hs : w.state.Coherent)
    (hwaiting : w.waiting? task = some (.expansion e url)) (hfresh : w.state.isFresh e = true)
    (answer : Answer) : w.TakesEffect config task e.row url answer := by
  rw [TakesEffect]
  cases hnode : answer.node url with
  | error failure =>
      show w.step config (.resume task answer) = _
      rw [step, resume_of_waiting hwaiting, Suspended.resume_expansion_of_error hfresh hnode]
      rfl
  | ok node =>
      obtain ⟨surface, hsurface, hresume⟩ :=
        Suspended.resume_expansion_of_node config hs hfresh hnode
      refine ⟨surface, hsurface, ?_⟩
      rw [step, resume_of_waiting hwaiting, hresume]

/-- An answer for an expansion that is not fresh ends it and changes nothing else. -/
theorem resume_of_not_fresh (hwaiting : w.waiting? task = some (.expansion e url))
    (hfresh : ¬ w.state.isFresh e = true) (answer : Answer) :
    w.step config (.resume task answer) =
      { w with tasks := w.tasks.set task (.ended (.ok .superseded)) } := by
  rw [step, resume_of_waiting hwaiting, Suspended.resume_expansion_of_not_fresh hfresh]

/-- An answer that takes effect does not leave the expansion superseded. -/
theorem TakesEffect.result?_ne {row : Nat} {answer : Answer} (hlt : task < w.tasks.length)
    (h : w.TakesEffect config task row url answer) :
    (w.step config (.resume task answer)).result? task ≠ some (.ok .superseded) := by
  rw [TakesEffect] at h
  rw [Ne, result?_eq_some_iff]
  cases hnode : answer.node url with
  | error failure =>
      rw [hnode] at h
      rw [h, List.getElem?_set_self hlt]
      simp
  | ok node =>
      rw [hnode] at h
      obtain ⟨surface, -, hstep⟩ := h
      rw [hstep, List.getElem?_set_self hlt]
      simp

/-! ### Whole runs -/

/-- **Staleness of expansions is exact.**  Let a row have been asked for and its expansion still wait.
Its answer takes effect if and only if, since the expansion was started, no load was started, no table
was rendered and the row was not asked for again. Otherwise the answer ends it as superseded and
leaves the whole state as it was, whatever the answer is. -/
theorem expansion_takes_effect_iff (config : Config) (before after : List Event)
    (command : Command) (row : Nat) (hexpands : command.expands row = true) :
    let w := initial.run config before
    let task := w.tasks.length
    let started := w.step config (.start command)
    let v := started.run config after
    ∀ e url, v.waiting? task = some (.expansion e url) → ∀ answer,
      (v.TakesEffect config task row url answer ↔ ¬ started.IsRowOvertaken config row after) ∧
      (started.IsRowOvertaken config row after →
        v.step config (.resume task answer) =
          { v with tasks := v.tasks.set task (.ended (.ok .superseded)) }) := by
  intro w task started v e url hwaiting answer
  have hw : w.state.Coherent := coherent_run coherent_initial before
  have hstarted : started.state.Coherent := coherent_step hw _
  have hv : v.state.Coherent := coherent_run hstarted after
  have hlt : task < started.tasks.length := by
    show w.tasks.length < (w.tasks ++ [_]).length
    simp
  have hfirst : started.waiting? task = some (.expansion e url) :=
    waiting?_of_run_expansion hlt hwaiting
  have hstart : (command.start config w.state).2 = .waiting (.expansion e url) :=
    start_eq_of_waiting hfirst
  obtain ⟨hfresh, hprecedes⟩ := isFresh_start hw hstart
  obtain rfl : e.row = row := by
    obtain ⟨other, _, _, hother, -, rfl, -, -⟩ := exists_of_start_expansion hw hstart
    exact Command.eq_of_expands hexpands hother
  have hrun : v.state.isFresh e = true ↔ ¬ started.IsRowOvertaken config e.row after := by
    rw [isFresh_run hstarted hprecedes]
    exact and_iff_right hfresh
  have hdrops : started.IsRowOvertaken config e.row after →
      v.step config (.resume task answer) =
        { v with tasks := v.tasks.set task (.ended (.ok .superseded)) } := by
    intro hovertaken
    exact resume_of_not_fresh hwaiting (fun hstill => hrun.mp hstill hovertaken) answer
  refine ⟨⟨?_, ?_⟩, hdrops⟩
  · intro heffect hovertaken
    refine heffect.result?_ne (lt_length_of_waiting hwaiting) ?_
    rw [hdrops hovertaken, result?_eq_some_iff]
    exact List.getElem?_set_self (lt_length_of_waiting hwaiting)
  · intro hnot
    exact takesEffect_of_fresh hv hwaiting (hrun.mpr hnot) answer

/-- A row that is asked for while a load goes on below its table. Its expansion takes effect until
that load ends and its table is rendered, although no load has been started meanwhile. -/
theorem expansion_below_load :
    let node : Answer := .ok (.array [.object [], .string "/2/all"])
    let relationships : Answer :=
      .ok (.array [.array [.string "/2", .string "/3", .string "KNOWS"]])
    let before := [Event.start (.showInstead "/2"), .resume 0 node, .resume 0 relationships,
      .start (.showBelow "/2"), .resume 1 node]
    let started := (initial.run {} before).step {} (.start (.expandRow 0))
    let v := started.run {} [.resume 1 relationships]
    (Command.expandRow 0).expands 0 = true ∧
    started.waiting? 2 = some (.expansion ⟨2, 1, 0⟩ "/3") ∧
    started.TakesEffect {} 2 0 "/3" node ∧
    v.waiting? 2 = some (.expansion ⟨2, 1, 0⟩ "/3") ∧
    v.step {} (.resume 2 node) = { v with tasks := v.tasks.set 2 (.ended (.ok .superseded)) } := by
  intro node relationships before started v
  have hexpands : (Command.expandRow 0).expands 0 = true := rfl
  have hstarted : started.waiting? 2 = some (.expansion ⟨2, 1, 0⟩ "/3") := by decide +kernel
  have hwaiting : v.waiting? 2 = some (.expansion ⟨2, 1, 0⟩ "/3") := by decide +kernel
  obtain ⟨heffect, -⟩ := expansion_takes_effect_iff {} before [] (.expandRow 0) 0 hexpands
    ⟨2, 1, 0⟩ "/3" hstarted node
  obtain ⟨-, hdrops⟩ := expansion_takes_effect_iff {} before [.resume 1 relationships]
    (.expandRow 0) 0 hexpands ⟨2, 1, 0⟩ "/3" hwaiting node
  have hovertaken : started.IsRowOvertaken {} 0 [.resume 1 relationships] :=
    ⟨[], .resume 1 relationships, [], rfl, by decide +kernel⟩
  exact ⟨hexpands, hstarted, heffect.mpr (not_isRowOvertaken_nil 0), hwaiting, hdrops hovertaken⟩

end World

end GraphBrowser
