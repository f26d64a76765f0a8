import GraphBrowser.Proofs.Markup.Hrefs
import GraphBrowser.Proofs.Navigation.Containers
import GraphBrowser.Proofs.Navigation.Display

/-!
# Runs with one table

Loads that are started below one another may each leave a table on display, and only the last one
has links. Where every load takes the place of what is on display, there is one table at most.

## Main definitions

* `Event.appends` — whether an event starts a load below what is on display

## Main statements

* `World.countP_isTable_run` — **there is at most one table on display** if no load but the first is
  started below what is on display
* `World.hrefs_run` — the anchors of the surface are then those of the links

## Design notes

**That there is one table is read off the pieces of the surface.**  Each load shows its output in
one piece, with one table at most, and there is one piece for each load since the view was last
cleared.
-/

namespace GraphBrowser

/-- Whether an event starts a load below what is on display. -/
def Event.appends : Event → Bool
  | .start command => command.isLoad && !command.replaces
  | .resume _ _ => false
  | .takeAlerts => false

/-- A load shows one table at most. -/
theorem Destination.countP_isTable_output (config : Config) (destination : Destination)
    (answers : List Answer) :
    (destination.output config answers).countP Block.isTable ≤ 1 := by
  rw [output]
  cases destination.node? answers <;> cases destination.relationships? answers <;>
    simp [Block.isTable]

namespace World

variable {config : Config} {w : World}

/-- An event that starts no load below what is on display leaves at most one load on display. -/
theorem length_nextShown_le {event : Event} (h : event.appends = false) {shown : List ShownLoad}
    (hshown : shown.length ≤ 1) : (w.nextShown config shown event).length ≤ 1 := by
  cases event with
  | start command =>
      rw [nextShown]
      cases hdestination : command.destination? config w.state.controls with
      | none => exact hshown
      | some destination =>
          have hload := command.isSome_destination? config w.state.controls
          rw [hdestination, Option.isSome_some] at hload
          have hreplaces : command.replaces = true := by
            -- the load would be started below what is on display otherwise
            simpa [Event.appends, ← hload] using h
          simp [hreplaces]
  | resume task answer => exact hshown
  | takeAlerts => exact hshown

theorem length_shownLoads_le {events : List Event} (h : ∀ event ∈ events, event.appends = false)
    {shown : List ShownLoad} (hshown : shown.length ≤ 1) :
    (w.shownLoads config shown events).length ≤ 1 := by
  induction events generalizing w shown with
  | nil => exact hshown
  | cons event events ih =>
      obtain ⟨hfirst, hrest⟩ := List.forall_mem_cons.mp h
      exact ih hrest (length_nextShown_le hfirst hshown)

/-- A surface on which there is at most one load has at most one table. -/
theorem Displays.countP_isTable {answers : Nat → List Answer} {shown : List ShownLoad}
    (h : w.Displays config answers shown) (hshown : shown.length ≤ 1) :
    w.state.surface.blocks.countP Block.isTable ≤ 1 := by
  obtain ⟨parts, hblocks, hparts, -⟩ := h.exists_parts
  have hemptied : w.state.surface.emptied.blocks.countP Block.isTable =
      w.state.surface.blocks.countP Block.isTable := by
    rw [Surface.blocks_emptied, List.countP_map]
    exact List.countP_congr fun block _ => by simp
  rw [← hemptied, hblocks]
  cases hparts with
  | nil => exact Nat.zero_le 1
  | cons hpart hrest =>
      cases hrest with
      | nil =>
          rw [List.flatten_singleton]
          exact (hpart.1.sublist.countP_le).trans (Destination.countP_isTable_output _ _ _)
      | cons => simp at hshown

/-- **There is at most one table on display**, if no load is started below what is on display. -/
theorem countP_isTable_run (config : Config) {events : List Event}
    (h : ∀ event ∈ events, event.appends = false) :
    (initial.run config (.start .showFirst :: events)).state.surface.blocks.countP Block.isTable ≤
      1 := by
  have hfirst : (initial.nextShown config [] (.start .showFirst)).length ≤ 1 := Nat.le_refl 1
  have hshown : (initial.shownLoads config [] (.start .showFirst :: events)).length ≤ 1 :=
    length_shownLoads_le h hfirst
  exact (displays_run config (.start .showFirst :: events)).countP_isTable hshown

/-- An expansion shows no table. -/
theorem ShowsExpansion.countP_isTable {answers : List Answer} {task row : Nat} {target : String}
    {blocks : List Block} (h : w.ShowsExpansion answers task row target blocks) :
    blocks.countP Block.isTable = 0 := by
  cases h <;> rfl

/-- There is no table in a container. -/
theorem countP_isTable_container (config : Config) (events : List Event) {row : Nat}
    {expander : Expander}
    (h : (initial.run config events).state.surface.expander? row = some expander) :
    expander.container.countP Block.isTable = 0 := by
  have hunfolds := unfolds_run config events
  cases hnewest : initial.newestExpansion? config row none events with
  | none =>
      rw [hunfolds.closed row expander h hnewest]
      rfl
  | some task => exact (hunfolds.opened row expander task h hnewest).countP_isTable

/-- **The anchors of the surface are those of its links**, if no load is started below what is on
display. -/
theorem hrefs_run (config : Config) (targets : LinkTargets) {events : List Event}
    (h : ∀ event ∈ events, event.appends = false) :
    let s := (initial.run config (.start .showFirst :: events)).state
    s.surface.hrefs targets = s.links.map (Link.href targets) := by
  intro s
  have hagree : s.links = s.surface.links := linksAgree_run config _
  rw [hagree]
  exact Surface.hrefs_eq_map_links targets (countP_isTable_run config h)
    fun row expander => countP_isTable_container config _

end World

end GraphBrowser
