import GraphBrowser.Proofs.View.Links

/-!
# Reading and writing containers

A row of the last relationship table is expanded through what it has for that: an address and a
container. What is written there is read there, and all else stays as it was.

## Main definitions

* `Surface.expander?` — what a row of the last table has to be expanded with
* `Surface.aboveLastTable` — the blocks that are out of reach

## Main statements

* `Block.splitLastTable?_eq_none_iff`, `Block.splitLastTable?_eq_some_iff` — what the search for the
  last table finds
* `Surface.expander?_updateContainer?_self`, `Surface.expander?_updateContainer?_of_ne` — **a change
  in a container is read back in its row and in no other**
* `Surface.updateContainer?_comm` — changes in two rows commute
* `Surface.aboveLastTable_updateContainer?` — earlier tables stay as they were
* `Surface.find?_expands_links_eq` — the link that expands a row leads to the address of its expander
-/

namespace GraphBrowser

/-! ### The search for the last table -/

namespace Block

/-- Below the last table there is none. -/
theorem splitLastTable?_after {blocks before after : List Block} {table : RelationshipTable}
    (h : splitLastTable? blocks = some (before, table, after)) : splitLastTable? after = none := by
  induction blocks generalizing before with
  | nil => cases h
  | cons block blocks ih =>
      rw [splitLastTable?_cons] at h
      cases hrest : splitLastTable? blocks with
      | some split =>
          obtain ⟨before', table', after'⟩ := split
          rw [hrest] at h
          obtain ⟨rfl, rfl, rfl⟩ := h
          exact ih hrest
      | none =>
          rw [hrest] at h
          cases block with
          | heading text => cases h
          | properties properties => cases h
          | relationships last =>
              obtain ⟨rfl, rfl, rfl⟩ := h
              exact hrest

/-- The search finds a table if there is one. -/
theorem exists_splitLastTable?_of_mem {blocks : List Block} {table : RelationshipTable}
    (h : .relationships table ∈ blocks) : ∃ split, splitLastTable? blocks = some split := by
  induction blocks with
  | nil => cases h
  | cons block blocks ih =>
      rw [splitLastTable?_cons]
      cases hrest : splitLastTable? blocks with
      | some split => exact ⟨_, rfl⟩
      | none =>
          rcases List.mem_cons.mp h with rfl | hmem
          · exact ⟨_, rfl⟩
          · obtain ⟨split, hsplit⟩ := ih hmem
            rw [hrest] at hsplit
            cases hsplit

/-- **The search finds no table exactly if there is none.** -/
theorem splitLastTable?_eq_none_iff {blocks : List Block} :
    splitLastTable? blocks = none ↔ ∀ table, .relationships table ∉ blocks := by
  constructor
  · intro h table hmem
    obtain ⟨split, hsplit⟩ := exists_splitLastTable?_of_mem hmem
    rw [h] at hsplit
    cases hsplit
  · intro h
    cases hsplit : splitLastTable? blocks with
    | none => rfl
    | some split =>
        obtain ⟨above, table, below⟩ := split
        rw [eq_append_of_splitLastTable? hsplit] at h
        exact absurd (by simp) (h table)

/-- **The search stops at a table exactly if there is none below it.** -/
theorem splitLastTable?_eq_some_iff {blocks above below : List Block} {table : RelationshipTable} :
    splitLastTable? blocks = some (above, table, below) ↔
      blocks = above ++ .relationships table :: below ∧ ∀ other, .relationships other ∉ below := by
  constructor
  · intro h
    exact ⟨eq_append_of_splitLastTable? h, splitLastTable?_eq_none_iff.mp (splitLastTable?_after h)⟩
  · rintro ⟨rfl, hbelow⟩
    rw [splitLastTable?_append, splitLastTable?_cons, splitLastTable?_eq_none_iff.mpr hbelow]
    simp

end Block

/-! ### Tables -/

namespace RelationshipTable

/-- What a row has to be expanded with, if it can be expanded. -/
def expander? (table : RelationshipTable) (row : Nat) : Option Expander :=
  table.rows[row]?.bind (·.expand)

/-- A row is given other blocks through its expander. -/
theorem updateContainer?_eq (table : RelationshipTable) (row : Nat)
    (change : List Block → List Block) :
    table.updateContainer? row change =
      table.rows[row]?.bind fun entry => entry.expand.map fun expander =>
        ⟨table.mode, table.rows.set row
          { entry with expand := some ⟨expander.target, change expander.container⟩ }⟩ := by
  rw [updateContainer?]
  cases table.rows[row]? with
  | none => rfl
  | some entry =>
      obtain ⟨start, relType, finish, _ | ⟨target, container⟩⟩ := entry
      · rfl
      · rfl

/-- A row that has been given other blocks has these in its container. -/
theorem expander?_updateContainer?_self {table changed : RelationshipTable} {row : Nat}
    {change : List Block → List Block} (h : table.updateContainer? row change = some changed) :
    ∃ expander, table.expander? row = some expander ∧
      changed.expander? row = some ⟨expander.target, change expander.container⟩ := by
  rw [updateContainer?_eq] at h
  obtain ⟨entry, hentry, h⟩ := Option.bind_eq_some_iff.mp h
  obtain ⟨expander, hexpander, rfl⟩ := Option.map_eq_some_iff.mp h
  have hlt : row < table.rows.length := (List.getElem?_eq_some_iff.mp hentry).1
  refine ⟨expander, ?_, ?_⟩
  · rw [expander?, hentry, Option.bind_some, hexpander]
  · rw [expander?, List.getElem?_set_self hlt, Option.bind_some]

/-- The other rows keep what they have. -/
theorem expander?_updateContainer?_of_ne {table changed : RelationshipTable} {row other : Nat}
    {change : List Block → List Block} (h : table.updateContainer? row change = some changed)
    (hne : other ≠ row) : changed.expander? other = table.expander? other := by
  rw [updateContainer?_eq] at h
  obtain ⟨entry, hentry, h⟩ := Option.bind_eq_some_iff.mp h
  obtain ⟨expander, hexpander, rfl⟩ := Option.map_eq_some_iff.mp h
  rw [expander?, List.getElem?_set_ne (Ne.symm hne), expander?]

/-- **Changes in the containers of two rows commute**, and so do the reasons for which there may be
nothing to change. -/
theorem updateContainer?_comm (table : RelationshipTable) {row other : Nat} (hne : row ≠ other)
    (change change' : List Block → List Block) :
    ((table.updateContainer? row change).bind fun changed => changed.updateContainer? other change') =
      (table.updateContainer? other change').bind fun changed =>
        changed.updateContainer? row change := by
  simp only [updateContainer?_eq]
  cases hrow : table.rows[row]? with
  | none =>
      cases hother : table.rows[other]? with
      | none => rfl
      | some entry =>
          cases hexpand : entry.expand with
          | none => simp [hexpand]
          | some expander => simp [hexpand, List.getElem?_set_ne (Ne.symm hne), hrow]
  | some entry =>
      cases hexpand : entry.expand with
      | none =>
          cases hother : table.rows[other]? with
          | none => simp [hexpand]
          | some entry' =>
              cases hexpand' : entry'.expand <;>
                simp [hexpand, hexpand', List.getElem?_set_ne (Ne.symm hne), hrow]
      | some expander =>
          cases hother : table.rows[other]? with
          | none => simp [hexpand, List.getElem?_set_ne hne, hother]
          | some entry' =>
              cases hexpand' : entry'.expand with
              | none => simp [hexpand, hexpand', List.getElem?_set_ne hne, hother]
              | some expander' =>
                  simp [hexpand, hexpand', List.getElem?_set_ne hne,
                    List.getElem?_set_ne (Ne.symm hne), hrow, hother, List.set_comm _ _ hne]

end RelationshipTable

/-- A table that has just been made has nothing in its containers. -/
theorem LinkedTable.container_of_ofRelationships {relationships : List Relationship}
    {currentId : String} {mode : TableMode} {row : Nat} {expander : Expander}
    (h : (ofRelationships relationships currentId mode).table.expander? row = some expander) :
    expander.container = [] := by
  rw [RelationshipTable.expander?, ofRelationships, List.getElem?_map] at h
  obtain ⟨entry, hentry, hexpander⟩ := Option.bind_eq_some_iff.mp h
  obtain ⟨r, hr, rfl⟩ := Option.map_eq_some_iff.mp hentry
  cases mode with
  | plain => cases hexpander
  | expanding =>
      cases hexpander
      rfl

/-! ### Surfaces -/

namespace Surface

/-- What a row of the last table has to be expanded with, if it can be expanded. -/
def expander? (surface : Surface) (row : Nat) : Option Expander :=
  surface.lastTable?.bind (·.expander? row)

/-- The container of a row is that of its expander. -/
theorem container?_eq (surface : Surface) (row : Nat) :
    surface.container? row = (surface.expander? row).map (·.container) := by
  rw [container?, expander?]
  cases surface.lastTable? <;> rfl

/-- Blocks among which there is no table leave the rows as they are. -/
theorem expander?_append_of_none {surface : Surface} {blocks : List Block}
    (h : Block.splitLastTable? blocks = none) (row : Nat) :
    (surface.append blocks).expander? row = surface.expander? row := by
  rw [expander?, lastTable?_append_of_none h, expander?]

/-- A table that is appended brings its own rows. -/
@[simp] theorem expander?_append_table (surface : Surface) (table : RelationshipTable) (row : Nat) :
    (surface.append table.blocks).expander? row = table.expander? row := by
  have hsplit : Block.splitLastTable? table.blocks =
      some ([.heading ("Relationships (" ++ toString table.rows.length ++ ")")], table, []) := rfl
  rw [expander?, lastTable?_append_of_some hsplit, Option.bind_some]

/-- The link that expands a row leads to the address of its expander. -/
theorem find?_expands_links_eq (surface : Surface) (row : Nat) :
    surface.links.find? (Link.expands row) =
      (surface.expander? row).map fun expander => ⟨row, .expand, expander.target, .expand⟩ := by
  rw [← List.head?_filter, filter_expands_links, expander?]
  cases surface.lastTable? with
  | none => rfl
  | some table =>
      rw [Option.bind_some, Option.bind_some, RelationshipTable.expandLink?,
        RelationshipTable.expander?]
      cases table.rows[row]?.bind (·.expand) <;> rfl

/-! ### Changes in a container -/

/-- **A change in a container leaves the search for the last table where it was**, and the blocks
around this table as they were. -/
theorem splitLastTable?_updateContainer? {surface changed : Surface} {row : Nat}
    {change : List Block → List Block} (h : surface.updateContainer? row change = some changed) :
    ∃ before table changedTable after,
      Block.splitLastTable? surface.blocks = some (before, table, after) ∧
      table.updateContainer? row change = some changedTable ∧
      Block.splitLastTable? changed.blocks = some (before, changedTable, after) := by
  rw [updateContainer?] at h
  cases hsplit : Block.splitLastTable? surface.blocks with
  | none => simp [hsplit] at h
  | some split =>
      obtain ⟨before, table, after⟩ := split
      simp only [hsplit, Option.map_eq_some_iff] at h
      obtain ⟨changedTable, htable, rfl⟩ := h
      -- below the last table there is none, so the search stops at the changed one
      have hafter := (Block.splitLastTable?_eq_some_iff.mp hsplit).2
      exact ⟨before, table, changedTable, after, rfl, htable,
        Block.splitLastTable?_eq_some_iff.mpr ⟨rfl, hafter⟩⟩

/-- **A change in a container is read back in its row.** -/
theorem expander?_updateContainer?_self {surface changed : Surface} {row : Nat}
    {change : List Block → List Block} (h : surface.updateContainer? row change = some changed) :
    ∃ expander, surface.expander? row = some expander ∧
      changed.expander? row = some ⟨expander.target, change expander.container⟩ := by
  obtain ⟨before, table, changedTable, after, hsplit, htable, hchanged⟩ :=
    splitLastTable?_updateContainer? h
  obtain ⟨expander, hexpander, hread⟩ := RelationshipTable.expander?_updateContainer?_self htable
  refine ⟨expander, ?_, ?_⟩
  · rw [expander?, lastTable?, hsplit]
    exact hexpander
  · rw [expander?, lastTable?, hchanged]
    exact hread

/-- **The other rows keep what they have.** -/
theorem expander?_updateContainer?_of_ne {surface changed : Surface} {row other : Nat}
    {change : List Block → List Block} (h : surface.updateContainer? row change = some changed)
    (hne : other ≠ row) : changed.expander? other = surface.expander? other := by
  obtain ⟨before, table, changedTable, after, hsplit, htable, hchanged⟩ :=
    splitLastTable?_updateContainer? h
  rw [expander?, expander?, lastTable?, lastTable?, hsplit, hchanged]
  exact RelationshipTable.expander?_updateContainer?_of_ne htable hne

/-- A row that can be expanded can be given other blocks. -/
theorem exists_updateContainer? {surface : Surface} {row : Nat} {expander : Expander}
    (h : surface.expander? row = some expander) (change : List Block → List Block) :
    ∃ changed, surface.updateContainer? row change = some changed := by
  rw [← Option.isSome_iff_exists, isSome_updateContainer?, container?_eq, h]
  rfl

section

variable {surface : Surface} {above below : List Block} {table : RelationshipTable}
  (h : Block.splitLastTable? surface.blocks = some (above, table, below)) (row : Nat)
  (change : List Block → List Block)

include h

/-- A container is written in the last table. -/
theorem updateContainer?_of_split :
    surface.updateContainer? row change =
      (table.updateContainer? row change).map fun changed =>
        ⟨above ++ .relationships changed :: below⟩ := by
  unfold updateContainer?
  rw [h]

/-- Two changes, one after the other, are two changes of this table. -/
theorem updateContainer?_bind_of_split (other : Nat) (change' : List Block → List Block) :
    ((surface.updateContainer? row change).bind fun changed =>
        changed.updateContainer? other change') =
      ((table.updateContainer? row change).bind fun changed =>
        changed.updateContainer? other change').map fun changed =>
          ⟨above ++ .relationships changed :: below⟩ := by
  rw [updateContainer?_of_split h]
  cases table.updateContainer? row change with
  | none => rfl
  | some changed =>
      -- below the last table there is none, so the search stops at the changed one
      have hagain : Block.splitLastTable? (above ++ .relationships changed :: below) =
          some (above, changed, below) :=
        Block.splitLastTable?_eq_some_iff.mpr ⟨rfl, (Block.splitLastTable?_eq_some_iff.mp h).2⟩
      exact updateContainer?_of_split hagain other change'

end

/-- **Changes in the containers of two rows commute.** -/
theorem updateContainer?_comm (surface : Surface) {row other : Nat} (hne : row ≠ other)
    (change change' : List Block → List Block) :
    ((surface.updateContainer? row change).bind fun changed =>
        changed.updateContainer? other change') =
      (surface.updateContainer? other change').bind fun changed =>
        changed.updateContainer? row change := by
  cases hsplit : Block.splitLastTable? surface.blocks with
  | none => simp [updateContainer?, hsplit]
  | some split =>
      rw [updateContainer?_bind_of_split hsplit, updateContainer?_bind_of_split hsplit,
        RelationshipTable.updateContainer?_comm _ hne]

/-! ### Tables that are out of reach -/

/-- The blocks above the last table, none if there is no table. -/
def aboveLastTable (surface : Surface) : List Block :=
  ((Block.splitLastTable? surface.blocks).map (·.1)).getD []

/-- What is above the last table is the beginning of the surface. -/
theorem aboveLastTable_isPrefix (surface : Surface) : surface.aboveLastTable <+: surface.blocks := by
  rw [aboveLastTable]
  cases hsplit : Block.splitLastTable? surface.blocks with
  | none => exact List.nil_prefix
  | some split =>
      obtain ⟨before, table, after⟩ := split
      exact ⟨_, (Block.eq_append_of_splitLastTable? hsplit).symm⟩

/-- What is appended leaves the blocks above the last table where they are. -/
theorem aboveLastTable_append (surface : Surface) (blocks : List Block) :
    surface.aboveLastTable <+: (surface.append blocks).aboveLastTable := by
  rw [aboveLastTable, aboveLastTable, blocks_append, Block.splitLastTable?_append]
  cases Block.splitLastTable? blocks with
  | none =>
      cases Block.splitLastTable? surface.blocks with
      | none => exact List.prefix_rfl
      | some split => exact List.prefix_rfl
  | some split => exact surface.aboveLastTable_isPrefix.trans ⟨split.1, rfl⟩

/-- **Earlier tables stay as they were** when a container is changed. -/
theorem aboveLastTable_updateContainer? {surface changed : Surface} {row : Nat}
    {change : List Block → List Block} (h : surface.updateContainer? row change = some changed) :
    changed.aboveLastTable = surface.aboveLastTable := by
  obtain ⟨before, table, changedTable, after, hsplit, -, hchanged⟩ :=
    splitLastTable?_updateContainer? h
  rw [aboveLastTable, aboveLastTable, hsplit, hchanged]
  rfl

/-- A table that has a newer one below it is above the last table. -/
theorem isPrefix_aboveLastTable {surface : Surface} {above below : List Block}
    {table newer : RelationshipTable}
    (h : surface.blocks = above ++ .relationships table :: below)
    (hnewer : .relationships newer ∈ below) :
    above ++ [.relationships table] <+: surface.aboveLastTable := by
  obtain ⟨split, hsplit⟩ := Block.exists_splitLastTable?_of_mem hnewer
  obtain ⟨before, last, after⟩ := split
  rw [aboveLastTable, h, Block.splitLastTable?_append, Block.splitLastTable?_cons, hsplit]
  exact ⟨before, by simp⟩

end Surface

end GraphBrowser
