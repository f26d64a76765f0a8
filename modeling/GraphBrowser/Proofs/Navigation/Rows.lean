import GraphBrowser.Proofs.Navigation.Links
import GraphBrowser.Proofs.View.Containers

/-!
# Rows that can be expanded

A row is expanded through its link, its container and its token, which are kept in three places. Here
it is said once how they belong together and what an event can do to them.

## Main definitions

* `Command.expands`, `Event.expands` — what asks for a row to be expanded
* `Event.clearsView`, `World.rendersTable` — what takes the rows away, and what brings new ones
* `BrowserState.Coherent` — links, containers and tokens belong together
* `World.RowEffect` — what an event does to the rows

## Main statements

* `World.coherent_run` — **links, containers and tokens belong together after every run**
* `BrowserState.expand_of_some`, `BrowserState.expand_of_none` — **a row can be expanded exactly if
  it has a container**
* `Suspended.resume_expansion_of_node` — a row that is being expanded does not lose its container
* `World.rowEffect` — **there are five things that an event may do to the rows**

## Design notes

**Whether an event renders a table is told by the result of a load**, not by the surface: the load
has waited for relationships and ends with everything on display.
-/

namespace GraphBrowser

/-! ### Events that matter to rows -/

/-- Whether a command asks for a row to be expanded. -/
def Command.expands (row : Nat) : Command → Bool
  | .showFirst => false
  | .showBelow _ => false
  | .showInstead _ => false
  | .goTo _ => false
  | .pressKey _ => false
  | .expandRow other => other == row
  | .follow link => link.expands row

/-- Whether an event asks for a row to be expanded. -/
def Event.expands (row : Nat) : Event → Bool
  | .start command => command.expands row
  | .resume _ _ => false
  | .takeAlerts => false

/-- Whether an event clears the view. -/
def Event.clearsView : Event → Bool
  | .start command => command.replaces
  | .resume _ _ => false
  | .takeAlerts => false

/-- Whether a task has ended with all that was asked for on display. -/
def Progress.isRendered : Progress → Bool
  | .ended (.ok .rendered) => true
  | .ended (.ok .superseded) => false
  | .ended (.ok .ignored) => false
  | .ended (.error _) => false
  | .waiting _ => false

/-- Whether an event renders a table of relationships: it is the answer with which a load that waits
for its relationships ends, with everything on display. -/
def World.rendersTable (config : Config) (w : World) : Event → Bool
  | .start _ => false
  | .resume task answer =>
    match w.waiting? task with
    | some (.relationships load url) =>
      ((Suspended.relationships load url).resume config w.state answer).2.isRendered
    | some (.node _ _) => false
    | some (.expansion _ _) => false
    | none => false
  | .takeAlerts => false

/-- Whether an intent is to expand a row. -/
def Intent.expands (row : Nat) : Intent → Bool
  | .append _ _ => false
  | .replace _ _ _ => false
  | .expand other => other == row
  | .nothing => false

namespace Command

variable (config : Config) (controls : Controls) (command : Command)

/-- What is typed into the controls does not decide whether a command asks for a row. -/
@[simp] theorem expands_intent (row : Nat) :
    (command.intent config controls).expands row = command.expands row := by
  cases command using cases_by_kind with
  | navigate => simp [intent, Intent.expands, expands, Link.expands]
  | expand => simp [intent, Intent.expands, expands, Link.expands]
  | _ => rfl

variable {command} {row : Nat}

/-- A command that asks for a row comes down to expanding it. -/
theorem intent_of_expands (h : command.expands row = true) :
    command.intent config controls = .expand row := by
  rw [← expands_intent config controls] at h
  cases hintent : command.intent config controls with
  | append url id =>
      rw [hintent] at h
      cases h
  | replace controls url id =>
      rw [hintent] at h
      cases h
  | expand other =>
      rw [hintent] at h
      rw [beq_iff_eq.mp h]
  | nothing =>
      rw [hintent] at h
      cases h

/-- A command asks for one row only. -/
theorem eq_of_expands {row other : Nat} (h : command.expands row = true)
    (hother : command.expands other = true) : other = row := by
  have hintent := intent_of_expands {} {} h
  rw [intent_of_expands {} {} hother] at hintent
  cases hintent
  rfl

end Command

namespace Event

variable {event : Event}

/-- What clears the view starts a load. -/
theorem startsLoad_of_clearsView (h : event.clearsView = true) : event.startsLoad = true := by
  cases event with
  | start command =>
      cases command with
      | showFirst => cases h
      | showBelow url => cases h
      | showInstead url => rfl
      | goTo input => rfl
      | pressKey key => exact h
      | expandRow row => cases h
      | follow link => exact h
  | resume task answer => cases h
  | takeAlerts => cases h

/-- An event asks for one row only. -/
theorem eq_of_expands {row other : Nat} (h : event.expands row = true)
    (hother : event.expands other = true) : other = row := by
  cases event with
  | start command => exact Command.eq_of_expands h hother
  | resume task answer => cases h
  | takeAlerts => cases h

/-- What asks for a row is a command. -/
theorem exists_start_of_expands {row : Nat} (h : event.expands row = true) :
    ∃ command, event = .start command ∧ command.expands row = true := by
  cases event with
  | start command => exact ⟨command, rfl, h⟩
  | resume task answer => cases h
  | takeAlerts => cases h

end Event

/-! ### How a row is expanded -/

namespace BrowserState

variable {s : BrowserState} {row : Nat}

/-- The state once the heading of the node that a row leads to is in its container. -/
def beginExpansion (s : BrowserState) (row : Nat) (surface : Surface) : BrowserState :=
  { s with
    surface
    lastExpansion := s.lastExpansion + 1
    expansions := s.expansions.insert row (s.lastExpansion + 1) }

/-- The expansion that is started next. -/
def nextExpansion (s : BrowserState) (row : Nat) : Expansion :=
  ⟨s.loads.latest, s.lastExpansion + 1, row⟩

/-- An expansion is fresh for as long as its load is the latest and the row has its token. -/
theorem isFresh_eq_true_iff {e : Expansion} :
    s.isFresh e = true ↔
      s.loads.latest = e.viewToken ∧ s.expansions.token? e.row = some e.token := by
  simp [isFresh, LoadCounter.isCurrent]

/-- The address that a row leads to is that of its expander. -/
theorem expandTarget?_eq (h : s.view.LinksAgree) (row : Nat) :
    s.expandTarget? row = (s.surface.expander? row).map (·.target) := by
  have hagree : s.links = s.surface.links := h
  show (s.links.find? (Link.expands row)).map (·.target) = _
  rw [hagree, Surface.find?_expands_links_eq]
  cases s.surface.expander? row <;> rfl

/-- **A row that has a container can be expanded.**  Its heading is put there, and its expansion is
the newest. -/
theorem expand_of_some (h : s.view.LinksAgree) {expander : Expander}
    (hexpander : s.surface.expander? row = some expander) :
    ∃ surface,
      s.surface.updateContainer? row (fun _ => [nodeTitle (resourceId expander.target)]) =
        some surface ∧
      s.expand row =
        (s.beginExpansion row surface, .waiting (.expansion (s.nextExpansion row) expander.target)) := by
  have htarget : s.expandTarget? row = some expander.target := by
    rw [expandTarget?_eq h, hexpander]
    rfl
  obtain ⟨surface, hsurface⟩ := Surface.exists_updateContainer? hexpander
    fun _ => [nodeTitle (resourceId expander.target)]
  refine ⟨surface, hsurface, ?_⟩
  rw [expand, htarget]
  simp only [hsurface]
  rfl

/-- **A row without a container cannot be expanded**, and nothing changes. -/
theorem expand_of_none (h : s.surface.expander? row = none) :
    s.expand row = (s, .ended (.error (.unboundRow row))) := by
  have hnone : ∀ change, s.surface.updateContainer? row change = none := by
    intro change
    rw [← Option.not_isSome_iff_eq_none, Surface.isSome_updateContainer?, Surface.container?_eq, h]
    exact Bool.false_ne_true
  rw [expand]
  cases s.expandTarget? row with
  | none => rfl
  | some target => simp only [hnone]

/-! ### What belongs together -/

/-- Links, containers and tokens belong together. -/
structure Coherent (s : BrowserState) : Prop where
  /-- The links are those that can be read off the surface. -/
  linksAgree : s.view.LinksAgree
  /-- No row has a token from the future. -/
  token_le : ∀ row token, s.expansions.token? row = some token → token ≤ s.lastExpansion
  /-- Rows with a token can be expanded. -/
  expandable : ∀ row token, s.expansions.token? row = some token →
    ∃ expander, s.surface.expander? row = some expander

/-- Without tokens nothing but the links has to agree. -/
theorem Coherent.of_empty (hlinks : s.view.LinksAgree) (hempty : s.expansions = .empty) :
    s.Coherent := by
  have hnone : ∀ row token, s.expansions.token? row ≠ some token := by
    intro row token htoken
    rw [hempty] at htoken
    cases htoken
  exact ⟨hlinks, fun row token htoken => absurd htoken (hnone row token),
    fun row token htoken => absurd htoken (hnone row token)⟩

/-- What changes neither tokens nor which rows can be expanded keeps the rest together. -/
theorem Coherent.of_rows {s' : BrowserState} (h : s.Coherent) (hlinks : s'.view.LinksAgree)
    (hexpansions : s'.expansions = s.expansions) (hlast : s'.lastExpansion = s.lastExpansion)
    (hrows : ∀ row expander, s.surface.expander? row = some expander →
      ∃ expander', s'.surface.expander? row = some expander') : s'.Coherent := by
  refine ⟨hlinks, ?_, ?_⟩
  · intro row token htoken
    rw [hexpansions] at htoken
    rw [hlast]
    exact h.token_le row token htoken
  · intro row token htoken
    rw [hexpansions] at htoken
    obtain ⟨expander, hexpander⟩ := h.expandable row token htoken
    exact hrows row expander hexpander

/-- Rows that can be expanded can still be expanded after a change in a container. -/
theorem exists_expander?_updateContainer? {surface changed : Surface} {row other : Nat}
    {change : List Block → List Block} (h : surface.updateContainer? row change = some changed)
    {expander : Expander} (hexpander : surface.expander? other = some expander) :
    ∃ expander', changed.expander? other = some expander' := by
  by_cases hrow : other = row
  · subst hrow
    obtain ⟨before, -, hafter⟩ := Surface.expander?_updateContainer?_self h
    exact ⟨_, hafter⟩
  · exact ⟨expander, (Surface.expander?_updateContainer?_of_ne h hrow).trans hexpander⟩

/-- Starting to expand a row keeps everything together. -/
theorem coherent_expand (h : s.Coherent) (row : Nat) : (s.expand row).1.Coherent := by
  have hlinks : (s.expand row).1.view.LinksAgree := Intent.linksAgree_start s (.expand row) h.linksAgree
  cases hexpander : s.surface.expander? row with
  | none =>
      rw [expand_of_none hexpander]
      exact h
  | some expander =>
      obtain ⟨surface, hsurface, hexpand⟩ := expand_of_some h.linksAgree hexpander
      rw [hexpand] at hlinks ⊢
      refine ⟨hlinks, ?_, ?_⟩
      · intro other token htoken
        by_cases hrow : other = row
        · subst hrow
          rw [beginExpansion, Expansions.token?_insert_self] at htoken
          cases htoken
          exact Nat.le_refl _
        · rw [beginExpansion, Expansions.token?_insert_of_ne _ _ hrow] at htoken
          exact Nat.le_succ_of_le (h.token_le other token htoken)
      · intro other token htoken
        by_cases hrow : other = row
        · subst hrow
          exact exists_expander?_updateContainer? hsurface hexpander
        · rw [beginExpansion, Expansions.token?_insert_of_ne _ _ hrow] at htoken
          obtain ⟨before, hbefore⟩ := h.expandable other token htoken
          exact exists_expander?_updateContainer? hsurface hbefore

end BrowserState

/-- No start takes apart what belongs together. -/
theorem Intent.coherent_start (s : BrowserState) (intent : Intent) (h : s.Coherent) :
    (intent.start s).1.Coherent := by
  have hlinks := intent.linksAgree_start s h.linksAgree
  cases intent with
  | append url id =>
      rw [start_append] at hlinks ⊢
      refine h.of_rows hlinks rfl rfl ?_
      intro row expander hexpander
      exact ⟨expander, (Surface.expander?_append_of_none rfl row).trans hexpander⟩
  | replace controls url id =>
      rw [start_replace] at hlinks ⊢
      exact .of_empty hlinks rfl
  | expand row => exact BrowserState.coherent_expand h row
  | nothing => exact h

namespace Suspended

variable {config : Config} {s : BrowserState} {answer : Answer} {e : Expansion} {url : String}

/-- An expansion that is not fresh ends without any effect. -/
theorem resume_expansion_of_not_fresh (h : ¬ s.isFresh e = true) :
    (Suspended.expansion e url).resume config s answer = (s, .ended (.ok .superseded)) := by
  rw [resume, if_neg h]

/-- A fresh expansion that gets no node fails, and the reader is told. -/
theorem resume_expansion_of_error (hfresh : s.isFresh e = true) {failure : Failure}
    (hnode : answer.node url = .error failure) :
    (Suspended.expansion e url).resume config s answer =
      (s.alert failure, .ended (.error failure)) := by
  rw [resume, if_pos hfresh, hnode]
  rfl

/-- **A fresh expansion that gets its node shows it.**  Its row has not lost its container. -/
theorem resume_expansion_of_node (config : Config) (hs : s.Coherent) (hfresh : s.isFresh e = true)
    {node : Node} (hnode : answer.node url = .ok node) :
    ∃ surface,
      s.surface.updateContainer? e.row (· ++ node.properties.blocks) = some surface ∧
      (Suspended.expansion e url).resume config s answer =
        ({ s with surface }, .ended (.ok .rendered)) := by
  obtain ⟨expander, hexpander⟩ :=
    hs.expandable e.row e.token (BrowserState.isFresh_eq_true_iff.mp hfresh).2
  obtain ⟨surface, hsurface⟩ :=
    Surface.exists_updateContainer? hexpander (· ++ node.properties.blocks)
  refine ⟨surface, hsurface, ?_⟩
  rw [resume, if_pos hfresh, hnode]
  simp only [BrowserState.resumeExpansion, hsurface]

/-- **An expansion that is answered is dropped, fails or shows its node.** -/
theorem resume_expansion_cases (config : Config) (hs : s.Coherent) (e : Expansion) (url : String)
    (answer : Answer) :
    (¬ s.isFresh e = true ∧
      (Suspended.expansion e url).resume config s answer = (s, .ended (.ok .superseded))) ∨
    (∃ failure, s.isFresh e = true ∧ answer.node url = .error failure ∧
      (Suspended.expansion e url).resume config s answer =
        (s.alert failure, .ended (.error failure))) ∨
    (∃ node surface, s.isFresh e = true ∧ answer.node url = .ok node ∧
      s.surface.updateContainer? e.row (· ++ node.properties.blocks) = some surface ∧
      (Suspended.expansion e url).resume config s answer =
        ({ s with surface }, .ended (.ok .rendered))) := by
  by_cases hfresh : s.isFresh e = true
  · cases hnode : answer.node url with
    | error failure =>
        exact Or.inr (Or.inl ⟨failure, hfresh, rfl, resume_expansion_of_error hfresh hnode⟩)
    | ok node =>
        obtain ⟨surface, hsurface, hresume⟩ := resume_expansion_of_node config hs hfresh hnode
        exact Or.inr (Or.inr ⟨node, surface, hfresh, rfl, hsurface, hresume⟩)
  · exact Or.inl ⟨hfresh, resume_expansion_of_not_fresh hfresh⟩

/-- No answer takes apart what belongs together. -/
theorem coherent_resume (config : Config) (s : BrowserState) (task : Suspended) (answer : Answer)
    (h : s.Coherent) : (task.resume config s answer).1.Coherent := by
  have hlinks := linksAgree_resume config s task answer h.linksAgree
  by_cases hlatest : s.loads.latest = task.loadToken
  · cases task with
    | node load url =>
        rw [resume_node hlatest] at hlinks ⊢
        cases hnode : answer.node url with
        | error failure => exact h.of_rows h.linksAgree rfl rfl fun row expander hrow => ⟨_, hrow⟩
        | ok node =>
            rw [hnode] at hlinks
            refine h.of_rows hlinks rfl rfl ?_
            intro row expander hexpander
            exact ⟨expander, (Surface.expander?_append_of_none rfl row).trans hexpander⟩
    | relationships load url =>
        rw [resume_relationships hlatest] at hlinks ⊢
        cases hrelationships : answer.relationships url with
        | error failure => exact h.of_rows h.linksAgree rfl rfl fun row expander hrow => ⟨_, hrow⟩
        | ok relationships =>
            rw [hrelationships] at hlinks
            exact .of_empty hlinks rfl
    | expansion e url =>
        rcases resume_expansion_cases config h e url answer with ⟨-, hresume⟩ |
          ⟨failure, -, -, hresume⟩ | ⟨node, surface, -, -, hsurface, hresume⟩
        · rw [hresume]
          exact h
        · rw [hresume]
          exact h.of_rows h.linksAgree rfl rfl fun row expander hrow => ⟨_, hrow⟩
        · rw [hresume] at hlinks ⊢
          refine h.of_rows hlinks rfl rfl ?_
          intro row expander hexpander
          exact BrowserState.exists_expander?_updateContainer? hsurface hexpander
  · rw [resume_of_ne hlatest]
    exact h

end Suspended

theorem World.coherent_initial : initial.state.Coherent := .of_empty rfl rfl

/-- **Links, containers and tokens belong together after every run.** -/
theorem World.coherent_run {config : Config} {w : World} (h : w.state.Coherent)
    (events : List Event) : (w.run config events).state.Coherent := by
  refine state_run Intent.coherent_start (Suspended.coherent_resume config) ?_ h events
  intro s alerts hs
  exact ⟨hs.linksAgree, hs.token_le, hs.expandable⟩

/-- No event takes apart what belongs together. -/
theorem World.coherent_step {config : Config} {w : World} (h : w.state.Coherent) (event : Event) :
    (w.step config event).state.Coherent :=
  coherent_run h [event]

/-! ### What an event does to the rows -/

namespace World

variable {config : Config} {w : World}

/-- What an event may do to the rows that can be expanded. -/
inductive RowEffect (config : Config) (w : World) (event : Event) : Prop where
  /-- The rows stay as they are: at most blocks are appended among which there is no table. -/
  | keeps (blocks : List Block) (hblocks : Block.splitLastTable? blocks = none)
      (hsurface : (w.step config event).state.surface = w.state.surface.append blocks)
      (hexpansions : (w.step config event).state.expansions = w.state.expansions)
      (hlast : (w.step config event).state.lastExpansion = w.state.lastExpansion)
      (hclears : event.clearsView = false)
      (hrenders : w.rendersTable config event = false)
      (hexpands : ∀ row, event.expands row = true → w.state.surface.expander? row = none)
      (hresult : ∀ task answer e url, event = .resume task answer →
        w.waiting? task = some (.expansion e url) →
        ((Suspended.expansion e url).resume config w.state answer).2 ≠ .ended (.ok .rendered))
  /-- The rows are taken away together with everything on display. -/
  | clears (hclears : event.clearsView = true)
      (hsurface : Block.splitLastTable? (w.step config event).state.surface.blocks = none)
      (hexpansions : (w.step config event).state.expansions = .empty)
      (hlast : (w.step config event).state.lastExpansion = w.state.lastExpansion)
  /-- New rows are shown, with empty containers. -/
  | renders {table : RelationshipTable} (hrenders : w.rendersTable config event = true)
      (hsurface : (w.step config event).state.surface = w.state.surface.append table.blocks)
      (htable : ∀ row expander, table.expander? row = some expander → expander.container = [])
      (hexpansions : (w.step config event).state.expansions = .empty)
      (hlast : (w.step config event).state.lastExpansion = w.state.lastExpansion)
  /-- A new expansion begins in a row. -/
  | opens {row : Nat} {expander : Expander} {surface : Surface}
      (hexpands : event.expands row = true)
      (hexpander : w.state.surface.expander? row = some expander)
      (hsurface : w.state.surface.updateContainer? row
        (fun _ => [nodeTitle (resourceId expander.target)]) = some surface)
      (hstate : (w.step config event).state = w.state.beginExpansion row surface)
      (hwaits : (w.step config event).waiting? w.tasks.length =
        some (.expansion (w.state.nextExpansion row) expander.target))
  /-- A fresh expansion shows its node in its row. -/
  | fills {task : Nat} {e : Expansion} {url : String} {answer : Answer} {node : Node}
      {surface : Surface} (hevent : event = .resume task answer)
      (hwaits : w.waiting? task = some (.expansion e url)) (hfresh : w.state.isFresh e = true)
      (hnode : answer.node url = .ok node)
      (hsurface : w.state.surface.updateContainer? e.row (· ++ node.properties.blocks) =
        some surface)
      (hstate : (w.step config event).state = { w.state with surface })
      (hresult : (w.step config event).result? task = some (.ok .rendered))

namespace RowEffect

/-- A command that shows nothing new keeps the rows, unless it asks for one that can be expanded. -/
theorem keeps_start {command : Command} (blocks : List Block)
    (hblocks : Block.splitLastTable? blocks = none)
    (hsurface : (w.step config (.start command)).state.surface = w.state.surface.append blocks)
    (hexpansions : (w.step config (.start command)).state.expansions = w.state.expansions)
    (hlast : (w.step config (.start command)).state.lastExpansion = w.state.lastExpansion)
    (hclears : command.replaces = false)
    (hexpands : ∀ row, command.expands row = true → w.state.surface.expander? row = none) :
    w.RowEffect config (.start command) := by
  refine .keeps blocks hblocks hsurface hexpansions hlast hclears rfl hexpands ?_
  intro task answer e url heq
  cases heq

/-- An answer that shows no table and fills no container keeps the rows. -/
theorem keeps_resume {task : Nat} {answer : Answer} {suspended : Suspended} {blocks : List Block}
    {s : BrowserState} {progress : Progress} (hwaiting : w.waiting? task = some suspended)
    (hresume : suspended.resume config w.state answer = (s, progress))
    (hblocks : Block.splitLastTable? blocks = none)
    (hsurface : s.surface = w.state.surface.append blocks)
    (hexpansions : s.expansions = w.state.expansions)
    (hlast : s.lastExpansion = w.state.lastExpansion) (hrendered : progress.isRendered = false) :
    w.RowEffect config (.resume task answer) := by
  have hstate : (w.step config (.resume task answer)).state = s := by
    rw [step, resume_of_waiting hwaiting, hresume]
  refine .keeps blocks hblocks (by rw [hstate, hsurface]) (by rw [hstate, hexpansions])
    (by rw [hstate, hlast]) rfl ?_ ?_ ?_
  · rw [rendersTable, hwaiting]
    cases suspended with
    | node load url => rfl
    | relationships load url => simpa only [hresume] using hrendered
    | expansion e url => rfl
  · intro row hexpands
    cases hexpands
  · intro other answer' e url heq hother
    cases heq
    rw [hwaiting] at hother
    cases hother
    rw [hresume]
    rintro rfl
    cases hrendered

/-- A state that stays as it is has the surface with nothing appended. -/
theorem append_nil (surface : Surface) : surface = surface.append [] := by
  rw [Surface.append, List.append_nil]

end RowEffect

/-- **A task is an expansion only if its row could be expanded.** -/
theorem exists_of_start_expansion {command : Command} {e : Expansion} {url : String}
    (hs : w.state.Coherent) (h : (command.start config w.state).2 = .waiting (.expansion e url)) :
    ∃ row expander surface, command.expands row = true ∧
      w.state.surface.expander? row = some expander ∧
      e = w.state.nextExpansion row ∧ url = expander.target ∧
      (w.step config (.start command)).state = w.state.beginExpansion row surface := by
  have hstate : (w.step config (.start command)).state =
      ((command.intent config w.state.controls).start w.state).1 := state_step_start rfl
  have hexpands := command.expands_intent config w.state.controls
  rw [Command.start] at h
  cases hintent : command.intent config w.state.controls with
  | append url id =>
      rw [hintent, Intent.start_append] at h
      cases h
  | replace controls url id =>
      rw [hintent, Intent.start_replace] at h
      cases h
  | expand row =>
      rw [hintent, Intent.start] at h hstate
      cases hexpander : w.state.surface.expander? row with
      | none =>
          rw [BrowserState.expand_of_none hexpander] at h
          cases h
      | some expander =>
          obtain ⟨surface, hsurface, hexpand⟩ :=
            BrowserState.expand_of_some hs.linksAgree hexpander
          rw [hexpand] at h hstate
          cases h
          refine ⟨row, expander, surface, ?_, hexpander, rfl, rfl, hstate⟩
          rw [← hexpands row, hintent]
          exact beq_self_eq_true row
  | nothing =>
      rw [hintent] at h
      cases h

/-- What a command does to the rows. -/
theorem rowEffect_start (hs : w.state.Coherent) (command : Command) :
    w.RowEffect config (.start command) := by
  have hstate : (w.step config (.start command)).state =
      ((command.intent config w.state.controls).start w.state).1 := state_step_start rfl
  have hclears := command.replaces_intent config w.state.controls
  have hexpands := command.expands_intent config w.state.controls
  cases hintent : command.intent config w.state.controls with
  | append url id =>
      rw [hintent, Intent.start_append] at hstate
      rw [hintent] at hclears hexpands
      refine .keeps_start [nodeTitle (trimmed id)] rfl ?_ ?_ ?_ hclears.symm ?_
      · rw [hstate]
        rfl
      · rw [hstate]
        rfl
      · rw [hstate]
        rfl
      · intro row hrow
        rw [← hexpands row] at hrow
        cases hrow
  | replace controls url id =>
      rw [hintent, Intent.start_replace] at hstate
      rw [hintent] at hclears
      refine .clears hclears.symm ?_ ?_ ?_
      · rw [hstate]
        rfl
      · rw [hstate]
        rfl
      · rw [hstate]
        rfl
  | expand row =>
      rw [hintent, Intent.start] at hstate
      rw [hintent] at hclears hexpands
      cases hexpander : w.state.surface.expander? row with
      | none =>
          rw [BrowserState.expand_of_none hexpander] at hstate
          refine .keeps_start [] rfl ?_ (by rw [hstate]) (by rw [hstate]) hclears.symm ?_
          · rw [hstate]
            exact RowEffect.append_nil _
          · intro other hother
            rw [← hexpands other] at hother
            rw [← beq_iff_eq.mp hother]
            exact hexpander
      | some expander =>
          obtain ⟨surface, hsurface, hexpand⟩ :=
            BrowserState.expand_of_some hs.linksAgree hexpander
          rw [hexpand] at hstate
          have hrow : command.expands row = true := by
            rw [← hexpands row]
            exact beq_self_eq_true row
          refine .opens hrow hexpander hsurface hstate ?_
          rw [waiting?_eq_some_iff, step, getElem?_tasks_start, Command.start, hintent,
            Intent.start, hexpand]
  | nothing =>
      rw [hintent, Intent.start] at hstate
      rw [hintent] at hclears hexpands
      refine .keeps_start [] rfl ?_ (by rw [hstate]) (by rw [hstate]) hclears.symm ?_
      · rw [hstate]
        exact RowEffect.append_nil _
      · intro row hrow
        rw [← hexpands row] at hrow
        cases hrow

/-- What an answer does to the rows. -/
theorem rowEffect_resume (hs : w.state.Coherent) {task : Nat} {suspended : Suspended}
    (hwaiting : w.waiting? task = some suspended) (answer : Answer) :
    w.RowEffect config (.resume task answer) := by
  have hnothing := RowEffect.append_nil w.state.surface
  have hstate : (w.step config (.resume task answer)).state =
      (suspended.resume config w.state answer).1 := by
    rw [step, resume_of_waiting hwaiting]
  by_cases hlatest : w.state.loads.latest = suspended.loadToken
  · cases suspended with
    | node load url =>
        have hresume : (Suspended.node load url).resume config w.state answer =
            w.state.resumeNode load (answer.node url) := Suspended.resume_node hlatest url
        cases hnode : answer.node url with
        | error failure =>
            rw [hnode] at hresume
            exact .keeps_resume hwaiting hresume rfl hnothing rfl rfl rfl
        | ok node =>
            rw [hnode] at hresume
            exact .keeps_resume hwaiting hresume rfl rfl rfl rfl rfl
    | relationships load url =>
        have hresume : (Suspended.relationships load url).resume config w.state answer =
            w.state.resumeRelationships config load (answer.relationships url) :=
          Suspended.resume_relationships hlatest url
        cases hrelationships : answer.relationships url with
        | error failure =>
            rw [hrelationships] at hresume
            exact .keeps_resume hwaiting hresume rfl hnothing rfl rfl rfl
        | ok relationships =>
            rw [hrelationships] at hresume
            rw [hresume] at hstate
            refine .renders ?_ (by rw [hstate]; rfl) ?_ (by rw [hstate]; rfl) (by rw [hstate]; rfl)
            · rw [rendersTable, hwaiting]
              simp only [hresume]
              rfl
            · intro row expander hexpander
              exact LinkedTable.container_of_ofRelationships hexpander
    | expansion e url =>
        rcases Suspended.resume_expansion_cases config hs e url answer with ⟨-, hresume⟩ |
          ⟨failure, -, -, hresume⟩ | ⟨node, surface, hfresh, hnode, hsurface, hresume⟩
        · exact .keeps_resume hwaiting hresume rfl hnothing rfl rfl rfl
        · exact .keeps_resume hwaiting hresume rfl hnothing rfl rfl rfl
        · rw [hresume] at hstate
          refine .fills rfl hwaiting hfresh hnode hsurface hstate ?_
          rw [result?_eq_some_iff, step, getElem?_tasks_resume hwaiting, hresume]
  · exact .keeps_resume hwaiting (Suspended.resume_of_ne hlatest) rfl hnothing rfl rfl rfl

/-- **There are five things that an event may do to the rows.** -/
theorem rowEffect (config : Config) (hs : w.state.Coherent) (event : Event) :
    w.RowEffect config event := by
  cases event with
  | start command => exact rowEffect_start hs command
  | resume task answer =>
      cases hwaiting : w.waiting? task with
      | some suspended => exact rowEffect_resume hs hwaiting answer
      | none =>
          have hstep : w.step config (.resume task answer) = w := resume_of_not_waiting hwaiting answer
          refine .keeps [] rfl ?_ (by rw [hstep]) (by rw [hstep]) rfl ?_ ?_ ?_
          · rw [hstep]
            exact RowEffect.append_nil _
          · rw [rendersTable, hwaiting]
          · intro row hrow
            cases hrow
          · intro other answer' e url heq hother
            cases heq
            rw [hwaiting] at hother
            cases hother
  | takeAlerts =>
      refine .keeps [] rfl (RowEffect.append_nil _) rfl rfl rfl rfl ?_ ?_
      · intro row hrow
        cases hrow
      · intro task answer e url heq
        cases heq

end World

end GraphBrowser
