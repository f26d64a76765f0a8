import GraphBrowser.Navigation.Task
import GraphBrowser.Proofs.Text.Trim
import GraphBrowser.Proofs.View.Emptied

/-!
# What a stretch does

Between two points at which it waits a task goes through one stretch. What each stretch does to the
state is said here once, so that the theorems about runs need not open the functions again.

## Main definitions

* `View`, `BrowserState.view` — what the reader can tell about a state
* `Command.isLoad`, `Command.replaces` — commands that start loads
* `Command.address?`, `Command.shownId?`, `Command.destination?` — where a command goes
* `Intent.destination?` — where a load goes
* `Suspended.loadToken` — the load that was the latest when a task started, itself included

## Main statements

* `Command.cases_by_kind` — commands by what there is to do
* `Command.destination?_intent` — **a load goes where its command goes**
* `Intent.emptied_view_start` — **only a load changes more than containers when it starts**
* `Suspended.resume_of_ne` — **a task that has been overtaken ends without any effect**
* `Suspended.emptied_view_resume_expansion` — expansions change containers only

## Design notes

**The view leaves out the tokens and the alerts.**  Tokens count the loads that were started in the
whole run, so that two runs which show the same need not agree on them.

**Where a command goes is said without the stretches of its task.**  A key that submits the controls
goes to what has been typed there, which is why the controls are an argument.
-/

namespace GraphBrowser

/-- What the reader can tell about a state, apart from the alerts. -/
structure View where
  /-- What is on display. -/
  surface : Surface
  /-- The links that can be followed. -/
  links : List Link
  /-- The id of the node that is shown. -/
  currentId : Option String
  /-- The text in the controls. -/
  input : String
  /-- Whether something is being loaded. -/
  loading : Bool

/-- The view with nothing in its containers. -/
def View.emptied (view : View) : View :=
  { view with surface := view.surface.emptied }

/-- What the reader can tell about a state. -/
def BrowserState.view (s : BrowserState) : View :=
  ⟨s.surface, s.links, s.current.id, s.controls.input, s.loading⟩

/-! ### Commands that start loads -/

/-- Whether a command starts a load. -/
def Command.isLoad : Command → Bool
  | .showFirst => true
  | .showBelow _ => true
  | .showInstead _ => true
  | .goTo _ => true
  | .pressKey key => key == .enter
  | .expandRow _ => false
  | .follow link => link.action == .navigate

/-- Whether a command starts a load that takes the place of what is on display. -/
def Command.replaces : Command → Bool
  | .showFirst => false
  | .showBelow _ => false
  | .showInstead _ => true
  | .goTo _ => true
  | .pressKey key => key == .enter
  | .expandRow _ => false
  | .follow link => link.action == .navigate

/-- The address that a command goes to, if it starts a load; the controls are those before the
command. -/
def Command.address? (config : Config) (controls : Controls) : Command → Option String
  | .showFirst => some (nodeAddress config.baseUrl config.firstNodeId)
  | .showBelow url => some url
  | .showInstead url => some url
  | .goTo input => some (nodeAddress config.baseUrl (trimmed input))
  | .pressKey key =>
    match key with
    | .enter => some (nodeAddress config.baseUrl (trimmed controls.input))
    | .char _ => none
    | .other => none
  | .expandRow _ => none
  | .follow link =>
    match link.action with
    | .navigate => some link.target
    | .expand => none

/-- The id of the node that a command goes to, if it starts a load; the controls are those before the
command. -/
def Command.shownId? (config : Config) (controls : Controls) : Command → Option String
  | .showFirst => some (trimmed (resourceId config.firstAddress))
  | .showBelow url => some (trimmed (resourceId url))
  | .showInstead url => some (trimmed (resourceId url))
  | .goTo input => some (trimmed input)
  | .pressKey key =>
    match key with
    | .enter => some (trimmed controls.input)
    | .char _ => none
    | .other => none
  | .expandRow _ => none
  | .follow link =>
    match link.action with
    | .navigate => some (trimmed (resourceId link.target))
    | .expand => none

/-- Where a load goes. -/
structure Destination where
  /-- The address of the node. -/
  url : String
  /-- The id under which the node is shown. -/
  id : String

/-- Where a command goes, if it starts a load; the controls are those before the command. -/
def Command.destination? (config : Config) (controls : Controls) (command : Command) :
    Option Destination :=
  (command.address? config controls).bind fun url =>
    (command.shownId? config controls).map fun id => ⟨url, id⟩

/-- Where an intent goes, if it is a load. -/
def Intent.destination? : Intent → Option Destination
  | .append url id => some ⟨url, trimmed id⟩
  | .replace _ url id => some ⟨url, trimmed id⟩
  | .expand _ => none
  | .nothing => none

/-- Whether what a command comes down to is a load. -/
def Intent.isLoad (intent : Intent) : Bool := intent.destination?.isSome

/-- Whether an intent is a load that takes the place of what is on display. -/
def Intent.replaces : Intent → Bool
  | .append _ _ => false
  | .replace _ _ _ => true
  | .expand _ => false
  | .nothing => false

namespace Command

/-- Commands by what there is to do: one key from another, and a link by its action. -/
@[elab_as_elim]
theorem cases_by_kind {motive : Command → Prop}
    (showFirst : motive .showFirst)
    (showBelow : ∀ url, motive (.showBelow url))
    (showInstead : ∀ url, motive (.showInstead url))
    (goTo : ∀ input, motive (.goTo input))
    (enter : motive (.pressKey .enter))
    (char : ∀ value, motive (.pressKey (.char value)))
    (other : motive (.pressKey .other))
    (expandRow : ∀ row, motive (.expandRow row))
    (navigate : ∀ row place target, motive (.follow ⟨row, place, target, .navigate⟩))
    (expand : ∀ row place target, motive (.follow ⟨row, place, target, .expand⟩))
    (command : Command) : motive command := by
  cases command with
  | showFirst => exact showFirst
  | showBelow url => exact showBelow url
  | showInstead url => exact showInstead url
  | goTo input => exact goTo input
  | pressKey key =>
      cases key with
      | enter => exact enter
      | char value => exact char value
      | other => exact other
  | expandRow row => exact expandRow row
  | follow link =>
      obtain ⟨row, place, target, action⟩ := link
      cases action with
      | navigate => exact navigate row place target
      | expand => exact expand row place target

variable (config : Config) (controls : Controls) (command : Command)

/-- What is typed into the controls does not decide whether a command clears the view. -/
@[simp] theorem replaces_intent : (command.intent config controls).replaces = command.replaces := by
  cases command using cases_by_kind <;> rfl

/-- **A load goes where its command goes.** -/
theorem destination?_intent :
    (command.intent config controls).destination? = command.destination? config controls := by
  -- what has been typed is trimmed on the way to the load, and once more when the load begins
  have htyped : ∀ url input, some (Destination.mk url (trimmed (trimmed input))) =
      some ⟨url, trimmed input⟩ := by
    intro url input
    rw [trimmed_trimmed]
  cases command using cases_by_kind with
  | goTo input => exact htyped _ input
  | enter => exact htyped _ controls.input
  | _ => rfl

/-- A command has an address to go to exactly if it starts a load. -/
@[simp] theorem isSome_address? :
    (command.address? config controls).isSome = command.isLoad := by
  cases command using cases_by_kind <;> rfl

/-- A command has an id to show exactly if it starts a load. -/
@[simp] theorem isSome_shownId? :
    (command.shownId? config controls).isSome = command.isLoad := by
  cases command using cases_by_kind <;> rfl

/-- A command goes somewhere exactly if it starts a load. -/
@[simp] theorem isSome_destination? :
    (command.destination? config controls).isSome = command.isLoad := by
  have hid := command.isSome_shownId? config controls
  have haddress := command.isSome_address? config controls
  rw [destination?]
  cases hurl : command.address? config controls with
  | none =>
      rw [hurl] at haddress
      exact haddress
  | some url => rw [Option.bind_some, Option.isSome_map, hid]

/-- What is typed into the controls does not decide whether a command starts a load. -/
@[simp] theorem isLoad_intent : (command.intent config controls).isLoad = command.isLoad := by
  rw [Intent.isLoad, destination?_intent, isSome_destination?]

variable {config controls command}

/-- A command that goes somewhere has an address to go to, and an id to show. -/
theorem destination?_eq_some_iff {destination : Destination} :
    command.destination? config controls = some destination ↔
      command.address? config controls = some destination.url ∧
        command.shownId? config controls = some destination.id := by
  obtain ⟨url, id⟩ := destination
  simp [destination?, Option.bind_eq_some_iff]

/-- A command that shows an id goes somewhere. -/
theorem exists_destination?_of_shownId? {id : String}
    (h : command.shownId? config controls = some id) :
    ∃ url, command.destination? config controls = some ⟨url, id⟩ := by
  have hsome : (command.address? config controls).isSome = true := by
    rw [isSome_address?, ← isSome_shownId? config controls, h, Option.isSome_some]
  obtain ⟨url, hurl⟩ := Option.isSome_iff_exists.mp hsome
  exact ⟨url, destination?_eq_some_iff.mpr ⟨hurl, h⟩⟩

end Command

/-! ### Tokens -/

namespace Suspended

/-- The token of the load that was the latest when the task started, which is its own if it is a
load. -/
def loadToken : Suspended → Nat
  | .node load _ => load.token
  | .relationships load _ => load.token
  | .expansion e _ => e.viewToken

/-- Whether a task is a load. -/
def isLoad : Suspended → Bool
  | .node _ _ => true
  | .relationships _ _ => true
  | .expansion _ _ => false

end Suspended

namespace BrowserState

theorem isLatest_eq_true_iff {s : BrowserState} {load : Load} :
    s.isLatest load = true ↔ s.loads.latest = load.token := by
  simp [isLatest, LoadCounter.isCurrent]

/-! ### The views of a load -/

@[simp] theorem view_alert (s : BrowserState) (failure : Failure) :
    (s.alert failure).view = s.view := rfl

@[simp] theorem view_endLoadWith (s : BrowserState) (failure : Failure) :
    (s.endLoadWith failure).view = { s.view with loading := false } := rfl

@[simp] theorem view_showProperties (s : BrowserState) (properties : Properties) :
    (s.showProperties properties).view =
      { s.view with surface := s.view.surface.append properties.blocks } := rfl

@[simp] theorem view_showRelationships (s : BrowserState) (rendered : LinkedTable) :
    (s.showRelationships rendered).view =
      { s.view with
        surface := s.view.surface.append rendered.table.blocks
        links := rendered.links
        loading := false } := rfl

/-- A load that begins makes its id current, writes it into the controls and puts its heading below
what is on display. -/
@[simp] theorem view_beginLoad (s : BrowserState) (id : String) :
    (s.beginLoad id).view =
      ⟨s.view.surface.append [nodeTitle id], s.view.links, some (trimmed id), id, true⟩ := by
  simp [view, beginLoad]

@[simp] theorem view_advance (s : BrowserState) : s.advance.view = s.view := rfl

/-- A view that is cleared shows nothing and has no links. -/
@[simp] theorem view_clearView (s : BrowserState) :
    s.clearView.view = { s.view with surface := .empty, links := [] } := rfl

@[simp] theorem loads_beginLoad (s : BrowserState) (id : String) :
    (s.beginLoad id).loads = s.loads := rfl

@[simp] theorem loads_advance (s : BrowserState) : s.advance.loads = s.loads.advance := rfl

@[simp] theorem loads_clearView (s : BrowserState) : s.clearView.loads = s.loads := rfl

end BrowserState

/-! ### Starting -/

namespace Intent

/-- The first stretch of a load below what is on display. -/
theorem start_append (s : BrowserState) (url id : String) :
    (append url id).start s =
      (s.advance.beginLoad (trimmed id), .waiting (.node ⟨s.loads.latest + 1, trimmed id⟩ url)) :=
  s.load_eq url id

/-- The first stretch of a load instead of what is on display. -/
theorem start_replace (s : BrowserState) (controls : Controls) (url id : String) :
    (replace controls url id).start s =
      ({ s with controls }.clearView.advance.beginLoad (trimmed id),
        .waiting (.node ⟨s.loads.latest + 1, trimmed id⟩ url)) :=
  { s with controls }.clearView.load_eq url id

/-- What is on view once a load has begun below what was on display. -/
theorem view_start_append (s : BrowserState) (url id : String) :
    ((append url id).start s).1.view =
      ⟨s.surface.append [nodeTitle (trimmed id)], s.links, some (trimmed (trimmed id)), trimmed id,
        true⟩ := by
  rw [start_append, BrowserState.view_beginLoad]
  rfl

/-- What is on view once a load has begun instead of what was on display: nothing of that. -/
theorem view_start_replace (s : BrowserState) (controls : Controls) (url id : String) :
    ((replace controls url id).start s).1.view =
      ⟨Surface.empty.append [nodeTitle (trimmed id)], [], some (trimmed (trimmed id)), trimmed id,
        true⟩ := by
  rw [start_replace, BrowserState.view_beginLoad]
  rfl

/-- **Every load takes the next token when it starts**, and waits for its node. -/
theorem start_of_destination {intent : Intent} {destination : Destination}
    (h : intent.destination? = some destination) (s : BrowserState) :
    (intent.start s).2 =
      .waiting (.node ⟨s.loads.latest + 1, destination.id⟩ destination.url) := by
  cases intent with
  | append url id =>
      cases h
      rw [start_append]
  | replace controls url id =>
      cases h
      rw [start_replace]
  | expand row => cases h
  | nothing => cases h

/-- A start moves the token of the latest load on if it is the start of a load. -/
theorem latest_start (intent : Intent) (s : BrowserState) :
    (intent.start s).1.loads.latest = s.loads.latest + if intent.isLoad then 1 else 0 := by
  cases intent with
  | append url id => rw [start_append]; rfl
  | replace controls url id => rw [start_replace]; rfl
  | expand row =>
      simp only [start, BrowserState.expand]
      split
      · rfl
      · split <;> rfl
  | nothing => rfl

/-- **Only a load changes more than containers when it starts.** -/
theorem emptied_view_start {intent : Intent} (h : intent.isLoad = false) (s : BrowserState) :
    (intent.start s).1.view.emptied = s.view.emptied := by
  cases intent with
  | append url id => cases h
  | replace controls url id => cases h
  | expand row =>
      simp only [start, BrowserState.expand]
      split
      · rfl
      · split
        · rfl
        · rename_i surface hsurface
          simp only [View.emptied, BrowserState.view, Surface.emptied_updateContainer? hsurface]
  | nothing => rfl

/-- A row that no link expands cannot be expanded. -/
theorem start_of_links_eq_nil {intent : Intent} (h : intent.isLoad = false) {s : BrowserState}
    (hlinks : s.links = []) : ∃ result, intent.start s = (s, .ended result) := by
  cases intent with
  | append url id => cases h
  | replace controls url id => cases h
  | expand row =>
      have htarget : s.expandTarget? row = none := by simp [BrowserState.expandTarget?, hlinks]
      exact ⟨_, by rw [start, BrowserState.expand, htarget]⟩
  | nothing => exact ⟨_, rfl⟩

/-- The task of any other intent does not wait, or it is an expansion. -/
theorem loadToken_of_start {intent : Intent} {s : BrowserState} {task : Suspended}
    (h : (intent.start s).2 = .waiting task) :
    task.isLoad = intent.isLoad ∧ task.loadToken = (intent.start s).1.loads.latest := by
  cases intent with
  | append url id =>
      rw [start_append] at h ⊢
      cases h
      exact ⟨rfl, rfl⟩
  | replace controls url id =>
      rw [start_replace] at h ⊢
      cases h
      exact ⟨rfl, rfl⟩
  | expand row =>
      simp only [start, BrowserState.expand] at h ⊢
      split at h
      · cases h
      · split at h
        · cases h
        · rename_i surface hsurface
          cases h
          exact ⟨rfl, rfl⟩
  | nothing => cases h

end Intent

/-! ### Resuming -/

namespace Suspended

variable {config : Config} {s : BrowserState} {answer : Answer}

/-- **A task that has been overtaken ends without any effect**, whatever it is answered. -/
theorem resume_of_ne {task : Suspended} (h : s.loads.latest ≠ task.loadToken) :
    task.resume config s answer = (s, .ended (.ok .superseded)) := by
  cases task with
  | node load url =>
      have hlatest : ¬ s.isLatest load = true := fun hl => h (BrowserState.isLatest_eq_true_iff.mp hl)
      rw [resume, if_neg hlatest]
  | relationships load url =>
      have hlatest : ¬ s.isLatest load = true := fun hl => h (BrowserState.isLatest_eq_true_iff.mp hl)
      rw [resume, if_neg hlatest]
  | expansion e url =>
      have hlatest : ¬ s.loads.latest = e.viewToken := h
      have hfresh : ¬ s.isFresh e = true := by
        simp [BrowserState.isFresh, LoadCounter.isCurrent, hlatest]
      rw [resume, if_neg hfresh]

/-- The latest load goes on with its node. -/
theorem resume_node {load : Load} (h : s.loads.latest = load.token) (url : String) :
    (Suspended.node load url).resume config s answer = s.resumeNode load (answer.node url) := by
  rw [resume, if_pos (BrowserState.isLatest_eq_true_iff.mpr h)]

/-- The latest load goes on with its relationships. -/
theorem resume_relationships {load : Load} (h : s.loads.latest = load.token) (url : String) :
    (Suspended.relationships load url).resume config s answer =
      s.resumeRelationships config load (answer.relationships url) := by
  rw [resume, if_pos (BrowserState.isLatest_eq_true_iff.mpr h)]

/-- Expansions change containers only. -/
theorem emptied_view_resume_expansion (e : Expansion) (url : String) :
    ((Suspended.expansion e url).resume config s answer).1.view.emptied =
      s.view.emptied := by
  rw [resume]
  split
  · cases answer.node url with
    | error failure => rfl
    | ok node =>
        simp only [BrowserState.resumeExpansion]
        split
        · rename_i surface hsurface
          simp only [View.emptied, BrowserState.view, Surface.emptied_updateContainer? hsurface]
        · rfl
  · rfl

/-- No answer moves the token of the latest load on. -/
@[simp] theorem loads_resume (task : Suspended) :
    (task.resume config s answer).1.loads = s.loads := by
  cases task with
  | node load url =>
      rw [resume]
      split
      · cases answer.node url <;> rfl
      · rfl
  | relationships load url =>
      rw [resume]
      split
      · cases answer.relationships url <;> rfl
      · rfl
  | expansion e url =>
      rw [resume]
      split
      · cases answer.node url with
        | error failure => rfl
        | ok node =>
            simp only [BrowserState.resumeExpansion]
            split <;> rfl
      · rfl

/-- A task that waits again is the same load as before. -/
theorem eq_of_resume_eq_waiting {task next : Suspended}
    (h : (task.resume config s answer).2 = .waiting next) :
    ∃ load url node, task = .node load url ∧ answer.node url = .ok node ∧
      s.loads.latest = load.token ∧ next = .relationships load node.allRelationships := by
  cases task with
  | node load url =>
      rw [resume] at h
      split at h
      · rename_i hlatest
        cases hnode : answer.node url with
        | error failure =>
            rw [hnode] at h
            cases h
        | ok node =>
            rw [hnode] at h
            cases h
            exact ⟨load, url, node, rfl, hnode, BrowserState.isLatest_eq_true_iff.mp hlatest, rfl⟩
      · cases h
  | relationships load url =>
      rw [resume] at h
      split at h
      · cases hrelationships : answer.relationships url <;>
          · rw [hrelationships] at h
            cases h
      · cases h
  | expansion e url =>
      rw [resume] at h
      split at h
      · cases hnode : answer.node url with
        | error failure =>
            rw [hnode] at h
            cases h
        | ok node =>
            rw [hnode] at h
            simp only [BrowserState.resumeExpansion] at h
            split at h <;> cases h
      · cases h

/-- The latest load is never overtaken. -/
theorem resume_ne_superseded {task : Suspended} (hload : task.isLoad = true)
    (hlatest : s.loads.latest = task.loadToken) :
    (task.resume config s answer).2 ≠ .ended (.ok .superseded) := by
  cases task with
  | node load url =>
      rw [resume_node hlatest]
      cases answer.node url <;> simp [BrowserState.resumeNode]
  | relationships load url =>
      rw [resume_relationships hlatest]
      cases answer.relationships url <;> simp [BrowserState.resumeRelationships]
  | expansion e url => cases hload

/-- **Only the latest load changes more than containers when it is answered.** -/
theorem emptied_view_resume {task : Suspended}
    (h : ¬ (task.isLoad = true ∧ s.loads.latest = task.loadToken)) :
    (task.resume config s answer).1.view.emptied = s.view.emptied := by
  by_cases hlatest : s.loads.latest = task.loadToken
  · cases task with
    | node load url => exact absurd ⟨rfl, hlatest⟩ h
    | relationships load url => exact absurd ⟨rfl, hlatest⟩ h
    | expansion e url => exact emptied_view_resume_expansion e url
  · rw [resume_of_ne hlatest]

/-- A task that waits again is the latest load. -/
theorem isLatest_of_resume {task next : Suspended}
    (h : (task.resume config s answer).2 = .waiting next) :
    task.isLoad = true ∧ s.loads.latest = task.loadToken := by
  obtain ⟨load, url, node, rfl, -, hlatest, -⟩ := eq_of_resume_eq_waiting h
  exact ⟨rfl, hlatest⟩

/-- A task that waits again has the token that it had, and is a load as it was. -/
theorem loadToken_of_resume {task next : Suspended}
    (h : (task.resume config s answer).2 = .waiting next) :
    next.isLoad = task.isLoad ∧ next.loadToken = task.loadToken := by
  obtain ⟨load, url, node, rfl, -, -, rfl⟩ := eq_of_resume_eq_waiting h
  exact ⟨rfl, rfl⟩

end Suspended

end GraphBrowser
