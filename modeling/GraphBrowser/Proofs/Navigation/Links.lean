import GraphBrowser.Proofs.Navigation.Exchange
import GraphBrowser.Proofs.View.Links

/-!
# The links are those on display

The browser keeps the links of the table that was rendered last apart from the surface. Both are
changed by different stretches, and nothing compares them when it runs.

## Main definitions

* `View.LinksAgree` — the links are those that can be read off the surface

## Main statements

* `World.linksAgree_run` — **the links agree with the surface after every run**
* `World.links_describe_display` — what follows for the rows of the table and for whoever follows a
  link
-/

namespace GraphBrowser

/-- The links are those that can be read off the surface. -/
def View.LinksAgree (view : View) : Prop :=
  view.links = view.surface.links

/-- What containers hold does not matter for that. -/
theorem View.linksAgree_emptied {view : View} : view.emptied.LinksAgree ↔ view.LinksAgree := by
  rw [LinksAgree, LinksAgree, emptied, Surface.links_emptied]

/-- Views that differ in what containers hold agree with their links alike. -/
theorem View.LinksAgree.of_emptied_eq {view view' : View} (h : view.LinksAgree)
    (heq : view'.emptied = view.emptied) : view'.LinksAgree :=
  linksAgree_emptied.mp (heq ▸ linksAgree_emptied.mpr h)

/-- Appending blocks among which there is no table lets the links agree. -/
theorem View.LinksAgree.append {view : View} (h : view.LinksAgree) {blocks : List Block}
    (hblocks : Block.splitLastTable? blocks = none) (currentId : Option String) (input : String)
    (loading : Bool) :
    (View.mk (view.surface.append blocks) view.links currentId input loading).LinksAgree := by
  rw [LinksAgree, Surface.links_append_of_none hblocks]
  exact h

/-! ### Stretches -/

namespace Intent

/-- No start lets the links disagree with the surface. -/
theorem linksAgree_start (s : BrowserState) (intent : Intent) (h : s.view.LinksAgree) :
    (intent.start s).1.view.LinksAgree := by
  cases intent with
  | append url id =>
      rw [view_start_append]
      exact h.append rfl _ _ _
  | replace controls url id =>
      have hempty : (View.mk .empty [] none "" false).LinksAgree := rfl
      rw [view_start_replace]
      exact hempty.append rfl _ _ _
  | expand row => exact h.of_emptied_eq (emptied_view_start rfl s)
  | nothing => exact h

end Intent

namespace Suspended

/-- No answer lets the links disagree with the surface. -/
theorem linksAgree_resume (config : Config) (s : BrowserState) (task : Suspended) (answer : Answer)
    (h : s.view.LinksAgree) : (task.resume config s answer).1.view.LinksAgree := by
  by_cases hlatest : s.loads.latest = task.loadToken
  · cases task with
    | node load url =>
        rw [resume_node hlatest]
        cases answer.node url with
        | error failure => exact h
        | ok node =>
            -- properties are shown without a table of relationships
            exact h.append rfl _ _ _
    | relationships load url =>
        rw [resume_relationships hlatest]
        cases answer.relationships url with
        | error failure => exact h
        | ok relationships =>
            simp only [BrowserState.resumeRelationships, BrowserState.view_showRelationships]
            rw [View.LinksAgree, Surface.links_append_table, LinkedTable.links_ofRelationships]
    | expansion e url => exact h.of_emptied_eq (emptied_view_resume_expansion e url)
  · rw [resume_of_ne hlatest]
    exact h

end Suspended

/-! ### Following a link -/

namespace BrowserState

/-- The expansion of a row asks for the target of the link that expands it. -/
theorem requests_expand {s : BrowserState} (h : s.view.LinksAgree) {link : Link}
    (hmem : link ∈ s.links) {row : Nat} (hexpands : link.expands row = true) :
    (s.expand row).2.requests = [link.target] := by
  have hagree : s.links = s.surface.links := h
  have hfind : s.links.find? (Link.expands row) = some link := by
    rw [hagree] at hmem ⊢
    exact Surface.find?_expands_links hmem hexpands
  have htarget : s.expandTarget? row = some link.target := by
    show (s.links.find? (Link.expands row)).map (·.target) = _
    rw [hfind]
    rfl
  -- the row has a container, because a link expands it
  have hcontainer : (s.surface.updateContainer? row fun _ =>
      [nodeTitle (resourceId link.target)]).isSome = true := by
    rw [Surface.isSome_updateContainer?, Surface.isSome_container?, ← hagree, hfind]
    rfl
  obtain ⟨surface, hsurface⟩ := Option.isSome_iff_exists.mp hcontainer
  rw [expand, htarget]
  simp only [hsurface]
  rfl

end BrowserState

/-- **Following a link asks for its target.** -/
theorem Command.requests_follow (config : Config) {s : BrowserState} (h : s.view.LinksAgree)
    {link : Link} (hmem : link ∈ s.links) :
    ((follow link).start config s).2.requests = [link.target] := by
  cases haction : link.action with
  | navigate =>
      have hintent : (follow link).intent config s.controls =
          .replace s.controls link.target (resourceId link.target) := by
        rw [intent, haction]
      rw [start, hintent, Intent.start_replace]
      rfl
  | expand =>
      have hintent : (follow link).intent config s.controls = .expand link.row := by
        rw [intent, haction]
      rw [start, hintent]
      exact BrowserState.requests_expand h hmem (by simp [Link.expands, haction])

/-! ### Runs -/

namespace World

/-- **The links agree with the surface after every run.** -/
theorem linksAgree_run (config : Config) (events : List Event) :
    (initial.run config events).state.view.LinksAgree := by
  have hinitial : initial.state.view.LinksAgree := rfl
  exact state_run (P := fun s => s.view.LinksAgree) Intent.linksAgree_start
    (Suspended.linksAgree_resume config) (fun _ _ h => h) hinitial events

/-- **The links describe what is on display.**  After every run the links are those that can be read
off the last table of the surface, none if there is no table. So each row has at most one link that
expands it, it has one exactly if it has a container, and following a link asks for its target. -/
theorem links_describe_display (config : Config) (events : List Event) :
    let s := (initial.run config events).state
    s.links = (s.surface.lastTable?.map RelationshipTable.links).getD [] ∧
    (∀ row, (s.links.filter (Link.expands row)).length ≤ 1) ∧
    (∀ row, (s.surface.container? row).isSome = true ↔
      ∃ link ∈ s.links, link.expands row = true) ∧
    ∀ link ∈ s.links, ((Command.follow link).start config s).2.requests = [link.target] := by
  intro s
  have hview : s.view.LinksAgree := linksAgree_run config events
  have hagree : s.links = s.surface.links := hview
  refine ⟨?_, ?_, ?_, fun link => Command.requests_follow config hview⟩
  · rw [hagree, Surface.links]
    cases s.surface.lastTable? <;> rfl
  · intro row
    rw [hagree, Surface.filter_expands_links]
    cases s.surface.lastTable?.bind (·.expandLink? row) <;> simp
  · intro row
    rw [Surface.isSome_container?, ← hagree, List.find?_isSome]

end World

end GraphBrowser
