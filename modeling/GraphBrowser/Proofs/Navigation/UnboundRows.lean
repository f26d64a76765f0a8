import GraphBrowser.Proofs.Navigation.Alerts

/-!
# Rows that cannot be expanded

A row that is asked for in vain is refused at once: nothing is asked for and nothing changes. Whether
it is can be seen on the last table, from its mode and the number of its rows alone.

## Main definitions

* `RelationshipTable.IsUniform`, `Surface.IsUniform` — either all rows of a table can be expanded or
  none of them
* `Surface.LacksRow` — there is no table, it is plain, or it has too few rows

## Main statements

* `World.isUniform_run` — the last table is uniform after every run
* `Surface.expander?_eq_none_iff` — **a row of a uniform table has no expander exactly if the table
  lacks it**
* `World.result?_eq_unboundRow_iff` — a row is refused exactly if the last table lacks it
* `World.answered_of_unbound` — **an expansion that waits does not fail for want of its row**, unless
  the store itself says so
* `World.unbound_rows_refused_at_once` — all this for every row and every run

## Design notes

**The mode of a table decides for all of its rows**, because tables are only ever rendered as a whole
and what is written into containers changes no row in that respect.
-/

namespace GraphBrowser

/-! ### Uniform tables -/

namespace RelationshipTable

/-- The rows of a table can be expanded exactly if it is an expanding one. -/
def IsUniform (table : RelationshipTable) : Prop :=
  ∀ row ∈ table.rows, row.expand.isSome = true ↔ table.mode = .expanding

/-- What containers hold does not matter for that. -/
theorem isUniform_emptied {table : RelationshipTable} : table.emptied.IsUniform ↔ table.IsUniform := by
  simp [IsUniform, emptied, RelationshipRow.emptied]

/-- **A row of a uniform table can be expanded if the table is an expanding one and has the row.** -/
theorem expander?_eq_none_iff {table : RelationshipTable} (h : table.IsUniform) (row : Nat) :
    table.expander? row = none ↔ table.mode = .plain ∨ table.rows.length ≤ row := by
  rw [expander?]
  rcases Nat.lt_or_ge row table.rows.length with hlt | hge
  · have hentry := h _ (List.getElem_mem hlt)
    rw [List.getElem?_eq_getElem hlt, Option.bind_some, or_iff_left (Nat.not_le_of_lt hlt),
      ← Option.not_isSome_iff_eq_none, hentry]
    cases table.mode <;> simp
  · rw [List.getElem?_eq_none hge]
    exact iff_of_true rfl (Or.inr hge)

end RelationshipTable

/-- A table is rendered uniform. -/
theorem LinkedTable.isUniform_ofRelationships (relationships : List Relationship) (currentId : String)
    (mode : TableMode) : (ofRelationships relationships currentId mode).table.IsUniform := by
  intro entry hmem
  obtain ⟨r, -, rfl⟩ := List.mem_map.mp hmem
  cases mode <;> simp [Relationship.row, ofRelationships]

namespace Surface

/-- The last table of a surface is uniform, if there is one. -/
def IsUniform (surface : Surface) : Prop :=
  ∀ table, surface.lastTable? = some table → table.IsUniform

/-- What containers hold does not matter for that. -/
theorem isUniform_emptied {surface : Surface} : surface.emptied.IsUniform ↔ surface.IsUniform := by
  simp only [IsUniform, lastTable?_emptied, Option.map_eq_some_iff]
  constructor
  · intro h table htable
    exact RelationshipTable.isUniform_emptied.mp (h _ ⟨table, htable, rfl⟩)
  · rintro h _ ⟨table, htable, rfl⟩
    exact RelationshipTable.isUniform_emptied.mpr (h table htable)

/-- Surfaces that differ in what containers hold are uniform alike. -/
theorem IsUniform.of_emptied_eq {surface surface' : Surface} (h : surface.IsUniform)
    (heq : surface'.emptied = surface.emptied) : surface'.IsUniform :=
  isUniform_emptied.mp (heq ▸ isUniform_emptied.mpr h)

/-- Blocks among which there is no table keep a surface uniform. -/
theorem IsUniform.append {surface : Surface} (h : surface.IsUniform) {blocks : List Block}
    (hblocks : Block.splitLastTable? blocks = none) : (surface.append blocks).IsUniform := by
  rw [IsUniform, lastTable?_append_of_none hblocks]
  exact h

/-- A surface is as uniform as the table that is appended to it. -/
theorem isUniform_append_table (surface : Surface) {table : RelationshipTable}
    (h : table.IsUniform) : (surface.append table.blocks).IsUniform := by
  have hsplit : Block.splitLastTable? table.blocks =
      some ([.heading ("Relationships (" ++ toString table.rows.length ++ ")")], table, []) := rfl
  rw [IsUniform, lastTable?_append_of_some hsplit]
  rintro _ ⟨⟩
  exact h

theorem isUniform_empty : Surface.empty.IsUniform := by
  rintro table ⟨⟩

/-- The last table has no such row to be expanded: there is no table, it is plain, or it has too few
rows. -/
def LacksRow (surface : Surface) (row : Nat) : Prop :=
  match surface.lastTable? with
  | none => True
  | some table => table.mode = .plain ∨ table.rows.length ≤ row

instance (surface : Surface) (row : Nat) : Decidable (surface.LacksRow row) :=
  match h : surface.lastTable? with
  | none => isTrue (by simp only [LacksRow, h])
  | some table =>
    decidable_of_iff (table.mode = .plain ∨ table.rows.length ≤ row) (by simp only [LacksRow, h])

/-- **A row has no expander exactly if the last table lacks it.** -/
theorem expander?_eq_none_iff {surface : Surface} (h : surface.IsUniform) (row : Nat) :
    surface.expander? row = none ↔ surface.LacksRow row := by
  rw [expander?, LacksRow]
  cases htable : surface.lastTable? with
  | none => exact iff_of_true rfl trivial
  | some table => exact RelationshipTable.expander?_eq_none_iff (h table htable) row

end Surface

/-! ### Stretches -/

/-- No start leaves a table behind that is not uniform. -/
theorem Intent.isUniform_start (s : BrowserState) (intent : Intent) (h : s.surface.IsUniform) :
    (intent.start s).1.surface.IsUniform := by
  cases intent with
  | append url id =>
      rw [start_append]
      exact h.append rfl
  | replace controls url id =>
      rw [start_replace]
      exact Surface.isUniform_empty.append rfl
  | expand row => exact h.of_emptied_eq (congrArg View.surface (emptied_view_start rfl s))
  | nothing => exact h

/-- No answer leaves a table behind that is not uniform. -/
theorem Suspended.isUniform_resume (config : Config) (s : BrowserState) (task : Suspended)
    (answer : Answer) (h : s.surface.IsUniform) :
    (task.resume config s answer).1.surface.IsUniform := by
  by_cases hlatest : s.loads.latest = task.loadToken
  · cases task with
    | node load url =>
        rw [resume_node hlatest]
        cases answer.node url with
        | error failure => exact h
        | ok node => exact h.append rfl
    | relationships load url =>
        rw [resume_relationships hlatest]
        cases answer.relationships url with
        | error failure => exact h
        | ok relationships =>
            exact s.surface.isUniform_append_table (LinkedTable.isUniform_ofRelationships _ _ _)
    | expansion e url =>
        exact h.of_emptied_eq (congrArg View.surface (emptied_view_resume_expansion e url))
  · rw [resume_of_ne hlatest]
    exact h

/-- A command that asks for a row does nothing but expand it. -/
theorem Command.start_of_expands {command : Command} {row : Nat} (h : command.expands row = true)
    (config : Config) (s : BrowserState) : command.start config s = s.expand row := by
  rw [start, intent_of_expands config s.controls h, Intent.start]

namespace World

variable {config : Config} {w : World} {command : Command} {row : Nat}

/-- **The last table is uniform after every run.** -/
theorem isUniform_run (config : Config) (events : List Event) :
    (initial.run config events).state.surface.IsUniform :=
  state_run (P := fun s => s.surface.IsUniform) Intent.isUniform_start
    (Suspended.isUniform_resume config) (fun _ _ h => h) Surface.isUniform_empty events

/-! ### Rows that are asked for -/

/-- The task of a command that asks for a row is to expand it. -/
theorem step_of_expands (h : command.expands row = true) :
    w.step config (.start command) =
      ⟨(w.state.expand row).1, w.tasks ++ [(w.state.expand row).2]⟩ := by
  rw [← Command.start_of_expands h config w.state]
  rfl

/-- **A row that the last table lacks is refused**, and nothing else changes. -/
theorem step_of_lacksRow (hexpands : command.expands row = true)
    (huniform : w.state.surface.IsUniform) (h : w.state.surface.LacksRow row) :
    w.step config (.start command) =
      { w with tasks := w.tasks ++ [.ended (.error (.unboundRow row))] } := by
  have hnone := (Surface.expander?_eq_none_iff huniform row).mpr h
  rw [step_of_expands hexpands, BrowserState.expand_of_none hnone]

/-- **A row that the last table has is expanded**, and waits for its node. -/
theorem exists_waiting_of_not_lacksRow (hexpands : command.expands row = true)
    (hs : w.state.Coherent) (huniform : w.state.surface.IsUniform)
    (h : ¬ w.state.surface.LacksRow row) :
    ∃ e url,
      (w.step config (.start command)).waiting? w.tasks.length = some (.expansion e url) := by
  obtain ⟨expander, hexpander⟩ := Option.ne_none_iff_exists'.mp fun hnone =>
    h ((Surface.expander?_eq_none_iff huniform row).mp hnone)
  obtain ⟨surface, -, hexpand⟩ := BrowserState.expand_of_some hs.linksAgree hexpander
  refine ⟨w.state.nextExpansion row, expander.target, ?_⟩
  rw [step_of_expands hexpands, hexpand, waiting?_eq_some_iff]
  exact List.getElem?_concat_length

/-- **A row is refused exactly if the last table lacks it.** -/
theorem result?_eq_unboundRow_iff (hexpands : command.expands row = true)
    (hs : w.state.Coherent) (huniform : w.state.surface.IsUniform) :
    (w.step config (.start command)).result? w.tasks.length = some (.error (.unboundRow row)) ↔
      w.state.surface.LacksRow row := by
  constructor
  · intro hresult
    by_contra h
    obtain ⟨e, url, hwaiting⟩ := exists_waiting_of_not_lacksRow hexpands hs huniform h
    rw [result?_eq_none_of_waiting hwaiting] at hresult
    cases hresult
  · intro h
    rw [step_of_lacksRow hexpands huniform h, result?_eq_some_iff]
    exact List.getElem?_concat_length

/-! ### Expansions that wait -/

/-- **A task that has waited does not fail for want of a row**, unless this is what the store has
answered it. -/
theorem answered_of_unbound {before after : List Event} {task : Nat} {suspended : Suspended}
    (hwaiting : (initial.run config before).waiting? task = some suspended)
    (hresult : (initial.run config (before ++ after)).result? task =
      some (.error (.unboundRow row))) :
    .error (.unboundRow row) ∈ initial.answered config task (before ++ after) := by
  have hcourse := taskCourse_run config (before ++ after) (result?_eq_some_iff.mp hresult)
  rcases hcourse.failure_cases with ⟨hnone, -⟩ | ⟨url, answer, -, hmem, hanswer⟩
  · -- what it has waited for, it has asked for
    have hasked := (taskCourse_run config before (waiting?_eq_some_iff.mp hwaiting)).asked_ne_nil
    rw [asked_append] at hnone
    exact absurd (List.append_eq_nil_iff.mp hnone).1 hasked
  · rcases hanswer with rfl | ⟨reason, hmalformed⟩
    · exact (List.of_mem_zip hmem).2
    · cases hmalformed

/-! ### Whole runs -/

/-- **Rows that cannot be expanded are refused at once, and no others.**  After every run a command
that asks for a row fails for want of it if and only if the last table lacks the row, and then nothing
else has changed. Otherwise the command waits for a node, and whatever happens meanwhile, it does not
fail for want of a row later on. Only the store itself could answer with such a failure, which stores
that fail for resources never do. -/
theorem unbound_rows_refused_at_once (config : Config) (before : List Event) (command : Command)
    (row : Nat) (hexpands : command.expands row = true) :
    let w := initial.run config before
    let task := w.tasks.length
    let started := w.step config (.start command)
    (started.result? task = some (.error (.unboundRow row)) ↔ w.state.surface.LacksRow row) ∧
    (w.state.surface.LacksRow row →
      started = { w with tasks := w.tasks ++ [.ended (.error (.unboundRow row))] }) ∧
    (¬ w.state.surface.LacksRow row →
      ∃ e url, started.waiting? task = some (.expansion e url)) ∧
    ∀ e url, started.waiting? task = some (.expansion e url) → ∀ after other,
      ((started.run config after).result? task = some (.error (.unboundRow other)) →
        .error (.unboundRow other) ∈
          initial.answered config task (before ++ .start command :: after)) ∧
      (StoreFailsForResources config (before ++ .start command :: after) →
        (started.run config after).result? task ≠ some (.error (.unboundRow other))) := by
  intro w task started
  have hs : w.state.Coherent := coherent_run coherent_initial before
  have huniform : w.state.surface.IsUniform := isUniform_run config before
  refine ⟨result?_eq_unboundRow_iff hexpands hs huniform, step_of_lacksRow hexpands huniform,
    exists_waiting_of_not_lacksRow hexpands hs huniform, ?_⟩
  intro e url hwaiting after other
  have hsplit : before ++ .start command :: after = (before ++ [.start command]) ++ after := by simp
  have hwaited : (initial.run config (before ++ [.start command])).waiting? task =
      some (.expansion e url) := by
    rw [run_append]
    exact hwaiting
  have hanswered : (started.run config after).result? task = some (.error (.unboundRow other)) →
      .error (.unboundRow other) ∈
        initial.answered config task (before ++ .start command :: after) := by
    intro hresult
    rw [hsplit]
    refine answered_of_unbound hwaited ?_
    rw [run_append, run_append]
    exact hresult
  exact ⟨hanswered, fun hstore hresult => Bool.false_ne_true (hstore task _ (hanswered hresult))⟩

/-- A table with one row, while a link to expand a second one is left from earlier. Following it is
refused; the row that is there is expanded, and fails for its node, not for want of the row. -/
theorem unbound_row_of_earlier_link :
    let node : Answer := .ok (.array [.object [], .string "/2/all"])
    let relationships : Answer :=
      .ok (.array [.array [.string "/2", .string "/3", .string "KNOWS"]])
    let before := [Event.start (.showInstead "/2"), .resume 0 node, .resume 0 relationships]
    let earlier := Command.follow ⟨1, .expand, "/4", .expand⟩
    let after := [Event.resume 1 (.error (.fetch "/3" "404"))]
    let w := initial.run {} before
    let started := w.step {} (.start (.expandRow 0))
    earlier.expands 1 = true ∧ (Command.expandRow 0).expands 0 = true ∧
    w.state.surface.LacksRow 1 ∧
    w.step {} (.start earlier) = { w with tasks := w.tasks ++ [.ended (.error (.unboundRow 1))] } ∧
    ¬ w.state.surface.LacksRow 0 ∧
    started.waiting? 1 = some (.expansion ⟨1, 1, 0⟩ "/3") ∧
    StoreFailsForResources {} (before ++ .start (.expandRow 0) :: after) ∧
    (started.run {} after).result? 1 ≠ some (.error (.unboundRow 0)) := by
  intro node relationships before earlier after w started
  have hearlier : earlier.expands 1 = true := rfl
  have hexpands : (Command.expandRow 0).expands 0 = true := rfl
  have hlacks : w.state.surface.LacksRow 1 := by decide +kernel
  have hhas : ¬ w.state.surface.LacksRow 0 := by decide +kernel
  have hwaiting : started.waiting? 1 = some (.expansion ⟨1, 1, 0⟩ "/3") := by decide +kernel
  have hstore : StoreFailsForResources {} (before ++ .start (.expandRow 0) :: after) := by
    intro task failure hmem
    have hanswer : task = 1 ∧ failure = .fetch "/3" "404" := by
      simpa [before, after, node, relationships] using resume_mem_of_mem_answered hmem
    rw [hanswer.2]
    rfl
  obtain ⟨-, hrefused, -, -⟩ := unbound_rows_refused_at_once {} before earlier 1 hearlier
  obtain ⟨-, -, -, hnever⟩ :=
    unbound_rows_refused_at_once {} before (.expandRow 0) 0 hexpands
  obtain ⟨-, hnot⟩ := hnever _ _ hwaiting after 0
  exact ⟨hearlier, hexpands, hlacks, hrefused hlacks, hhas, hwaiting, hstore, hnot hstore⟩

end World

end GraphBrowser
