import GraphBrowser.Proofs.Navigation.Freshness
import GraphBrowser.Proofs.Navigation.UnboundRows
import GraphBrowser.Proofs.View.ContainerAccess

/-!
# What an expansion touches

An expansion writes twice: when it is started, and when its node has come. Both times it writes into
the container of its row in the table that is the last one by then, although there may be earlier
tables with such a row, and it leaves all else as it was.

## Main definitions

* `BrowserState.AgreesOutside` — the same but for what is in the container of a row of the last table,
  the token of the row, the newest token and the alerts

## Main statements

* `BrowserState.agreesOutside_expand`, `Suspended.agreesOutside_resume_expansion` — what the two
  stretches of an expansion leave alone
* `World.expansion_touches_its_container` — the same for every expansion in every run
-/

namespace GraphBrowser

/-! ### Stretches -/

/-- Two states are the same, but for what belongs to the expansion of a row: the container and the
token of the row, the newest token and the alerts. -/
structure BrowserState.AgreesOutside (row : Nat) (s s' : BrowserState) : Prop where
  /-- What is on display is the same outside the container. -/
  surface : s.surface.AgreesOutside row s'.surface
  /-- The links are the same. -/
  links : s'.links = s.links
  /-- The same node is shown. -/
  current : s'.current = s.current
  /-- The form is the same. -/
  controls : s'.controls = s.controls
  /-- No load has been started. -/
  loads : s'.loads = s.loads
  /-- A load goes on exactly if one did before. -/
  loading : s'.loading = s.loading
  /-- The other rows have the same tokens. -/
  tokens : ∀ other, other ≠ row → s'.expansions.token? other = s.expansions.token? other

variable {s : BrowserState} {row : Nat}

/-- A state that stays the same agrees with what it was. -/
theorem BrowserState.AgreesOutside.refl (s : BrowserState) (row : Nat) : s.AgreesOutside row s :=
  ⟨.same rfl, rfl, rfl, rfl, rfl, rfl, fun _ _ => rfl⟩

/-- **Starting to expand a row touches its container and its token.** -/
theorem BrowserState.agreesOutside_expand (h : s.Coherent) (row : Nat) :
    s.AgreesOutside row (s.expand row).1 ∧ (s.expand row).1.alerts = s.alerts := by
  cases hexpander : s.surface.expander? row with
  | none =>
      rw [expand_of_none hexpander]
      exact ⟨.refl s row, rfl⟩
  | some expander =>
      obtain ⟨surface, hsurface, hexpand⟩ := expand_of_some h.linksAgree hexpander
      rw [hexpand]
      refine ⟨⟨Surface.agreesOutside_updateContainer? hsurface, rfl, rfl, rfl, rfl, rfl, ?_⟩, rfl⟩
      intro other hne
      exact Expansions.token?_insert_of_ne _ _ hne

/-- **An answer to an expansion touches the container of its row**, and it adds an alert if it is a
failure that comes in time. -/
theorem Suspended.agreesOutside_resume_expansion (config : Config) (h : s.Coherent) (e : Expansion)
    (url : String) (answer : Answer) :
    let s' := ((Suspended.expansion e url).resume config s answer).1
    s.AgreesOutside e.row s' ∧ s'.expansions = s.expansions ∧ s'.lastExpansion = s.lastExpansion ∧
    (s'.alerts = s.alerts ∨ s.isFresh e = true ∧
      ∃ failure, answer.node url = .error failure ∧
        s'.alerts.pending = s.alerts.pending ++ [Alert.ofFailure failure]) := by
  intro s'
  rcases resume_expansion_cases config h e url answer with ⟨-, hresume⟩ |
    ⟨failure, hfresh, hnode, hresume⟩ | ⟨node, surface, -, -, hsurface, hresume⟩
  · have hs' : s' = s := congrArg Prod.fst hresume
    rw [hs']
    exact ⟨.refl s e.row, rfl, rfl, Or.inl rfl⟩
  · have hs' : s' = s.alert failure := congrArg Prod.fst hresume
    rw [hs']
    exact ⟨⟨.same rfl, rfl, rfl, rfl, rfl, rfl, fun _ _ => rfl⟩, rfl, rfl,
      Or.inr ⟨hfresh, failure, hnode, rfl⟩⟩
  · have hs' : s' = { s with surface } := congrArg Prod.fst hresume
    rw [hs']
    exact ⟨⟨Surface.agreesOutside_updateContainer? hsurface, rfl, rfl, rfl, rfl, rfl,
      fun _ _ => rfl⟩, rfl, rfl, Or.inl rfl⟩

/-! ### Whole runs -/

namespace World

variable {config : Config} {w : World}

/-- **What waits for a row is the expansion that was started for it**, which is fresh exactly if the
row was not overtaken. -/
theorem expansion_of_waiting (hs : w.state.Coherent) {command : Command}
    (hexpands : command.expands row = true) {after : List Event} {suspended : Suspended}
    (hwaiting : ((w.step config (.start command)).run config after).waiting? w.tasks.length =
      some suspended) :
    ∃ e url, suspended = .expansion e url ∧ e.row = row ∧
      (((w.step config (.start command)).run config after).state.isFresh e = true ↔
        ¬ (w.step config (.start command)).IsRowOvertaken config row after) := by
  have hlt : w.tasks.length < (w.step config (.start command)).tasks.length := by
    show w.tasks.length < (w.tasks ++ [_]).length
    simp
  -- a task without a result has waited since it was started, and the first wait is for the row
  obtain ⟨first, hfirst⟩ : ∃ first,
      (w.step config (.start command)).waiting? w.tasks.length = some first := by
    rcases exists_waiting_or_result hlt with hfirst | ⟨result, hresult⟩
    · exact hfirst
    · have hfinal : ((w.step config (.start command)).run config after).result? w.tasks.length =
          some result := result?_run hresult after
      rw [result?_eq_none_of_waiting hwaiting] at hfinal
      cases hfinal
  have hload : suspended.isLoad = false := by
    rw [(loadToken_run hfirst hwaiting).1, (Intent.loadToken_of_start (start_eq_of_waiting hfirst)).1,
      Command.intent_of_expands config w.state.controls hexpands]
    rfl
  cases suspended with
  | node load url => cases hload
  | relationships load url => cases hload
  | expansion e url =>
      have hstart := start_eq_of_waiting (waiting?_of_run_expansion hlt hwaiting)
      obtain ⟨hfresh, hprecedes⟩ := isFresh_start hs hstart
      obtain rfl : e.row = row := by
        obtain ⟨other, _, _, hother, -, rfl, -, -⟩ := exists_of_start_expansion hs hstart
        exact Command.eq_of_expands hexpands hother
      refine ⟨e, url, rfl, rfl, ?_⟩
      rw [isFresh_run (coherent_step hs _) hprecedes]
      exact and_iff_right hfresh

/-- **An expansion touches nothing but its container.**  Let a row be asked for after any run. What is
on display then differs from what was there before at most inside the container of this row of the
last table, the other rows keep their tokens, and the links, the node that is shown, the form, the
loads and the alerts are the same. The like holds for the answer, whatever has happened meanwhile and
whatever it is, and it touches no token at all. It adds one alert at most, and only if it is a failure
and the expansion was not overtaken. -/
theorem expansion_touches_its_container (config : Config) (before after : List Event)
    (command : Command) (row : Nat) (hexpands : command.expands row = true) :
    let w := initial.run config before
    let task := w.tasks.length
    let started := w.step config (.start command)
    let v := started.run config after
    w.state.AgreesOutside row started.state ∧ started.state.alerts = w.state.alerts ∧
    ∀ suspended, v.waiting? task = some suspended → ∀ answer,
      let resumed := v.step config (.resume task answer)
      v.state.AgreesOutside row resumed.state ∧
      resumed.state.expansions = v.state.expansions ∧
      resumed.state.lastExpansion = v.state.lastExpansion ∧
      (resumed.state.alerts = v.state.alerts ∨
        ¬ started.IsRowOvertaken config row after ∧
        ∃ failure, answer.node suspended.url = .error failure ∧
          resumed.state.alerts.pending = v.state.alerts.pending ++ [Alert.ofFailure failure]) := by
  intro w task started v
  have hw : w.state.Coherent := coherent_run coherent_initial before
  have hv : v.state.Coherent := coherent_run (coherent_step hw _) after
  have hstarted : started.state = (w.state.expand row).1 :=
    congrArg World.state (step_of_expands hexpands)
  rw [hstarted]
  obtain ⟨houtside, halerts⟩ := BrowserState.agreesOutside_expand hw row
  refine ⟨houtside, halerts, ?_⟩
  intro suspended hwaiting answer resumed
  obtain ⟨e, url, rfl, rfl, hfresh⟩ := expansion_of_waiting hw hexpands hwaiting
  have hresumed : resumed.state = ((Suspended.expansion e url).resume config v.state answer).1 := by
    show (v.resume config task answer).state = _
    rw [resume_of_waiting hwaiting]
  rw [hresumed, ← hfresh]
  exact Suspended.agreesOutside_resume_expansion config hv e url answer

/-- Two tables that have a first row each, of which the lower one is asked for. Nothing else is
touched, whether the answer is a node or a failure, and the failure is told. -/
theorem expansion_below_table_with_same_row :
    let node : Answer := .ok (.array [.object [], .string "/all"])
    let relationships : Answer :=
      .ok (.array [.array [.string "/2", .string "/3", .string "KNOWS"]])
    let failure : Failure := .fetch "/2" "404"
    let before := [Event.start (.showInstead "/2"), .resume 0 node, .resume 0 relationships,
      .start (.showBelow "/3"), .resume 1 node, .resume 1 relationships]
    let w := initial.run {} before
    let started := w.step {} (.start (.expandRow 0))
    let shown := started.step {} (.resume 2 node)
    let failed := started.step {} (.resume 2 (.error failure))
    (Command.expandRow 0).expands 0 = true ∧
    started.waiting? 2 = some (.expansion ⟨2, 1, 0⟩ "/2") ∧
    w.state.AgreesOutside 0 started.state ∧
    started.state.AgreesOutside 0 shown.state ∧
    started.state.AgreesOutside 0 failed.state ∧
    failed.state.alerts.pending = [Alert.ofFailure failure] := by
  intro node relationships failure before w started shown failed
  have hexpands : (Command.expandRow 0).expands 0 = true := rfl
  have hwaiting : started.waiting? 2 = some (.expansion ⟨2, 1, 0⟩ "/2") := by decide +kernel
  have halerts : failed.state.alerts.pending = [Alert.ofFailure failure] := by decide +kernel
  obtain ⟨hstarted, -, hanswered⟩ :=
    expansion_touches_its_container {} before [] (.expandRow 0) 0 hexpands
  exact ⟨hexpands, hwaiting, hstarted, (hanswered _ hwaiting node).1,
    (hanswered _ hwaiting (.error failure)).1, halerts⟩

end World

end GraphBrowser
