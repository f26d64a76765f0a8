import GraphBrowser.Proofs.View.Containers

/-!
# Containers are read and written at one place

A container is read through one search for the last relationship table and written through another.
Both begin at the end of the surface and stop at the first table they meet, so that what is written
is found again, and nothing else is touched.

## Main definitions

* `Block.table?`, `Block.changeFirstTable?` — what the two searches do on their way from the end
* `RelationshipTable.AgreesOutside`, `Surface.AgreesOutside` — the same but for what is in the
  container of a row of the last table
* `Surface.IsRewritten` — the same but for the container of a row, which has given blocks

## Main statements

* `Surface.lastTable?_eq_findSome?`, `Surface.updateContainer?_eq_changeFirstTable?` — **reading and
  writing are searches from the end**
* `Surface.agreesOutside_updateContainer?` — **a change in a container is nothing else**
* `Surface.updateContainer?_id`, `Surface.updateContainer?_bind_updateContainer?` — the laws of a place
  that is read and written
* `Surface.containers_read_as_written` — all of it for every surface and every row

## Design notes

**The last table is the one below which there is none.**  This is what is said about it wherever the
search itself should not occur.
-/

namespace GraphBrowser

/-! ### Searches from the end -/

namespace Block

/-- The table of a block, if the block is a table of relationships. -/
def table? : Block → Option RelationshipTable
  | .relationships table => some table
  | .heading _ => none
  | .properties _ => none

/-- The blocks with the first table among them changed, if there is one and it can be changed. -/
def changeFirstTable? (change : RelationshipTable → Option RelationshipTable) :
    List Block → Option (List Block)
  | [] => none
  | .relationships table :: rest => (change table).map fun changed => .relationships changed :: rest
  | .heading text :: rest => (changeFirstTable? change rest).map (.heading text :: ·)
  | .properties table :: rest => (changeFirstTable? change rest).map (.properties table :: ·)

/-- The first table from the end is the one that the search finds. -/
theorem findSome?_table?_reverse (blocks : List Block) :
    blocks.reverse.findSome? table? = (splitLastTable? blocks).map (·.2.1) := by
  induction blocks with
  | nil => rfl
  | cons block blocks ih =>
      rw [List.reverse_cons, List.findSome?_append, ih, splitLastTable?_cons]
      cases splitLastTable? blocks with
      | some split => rfl
      | none => cases block <;> rfl

/-- Blocks among which there is no table are passed over. -/
theorem changeFirstTable?_append_of_notMem {blocks : List Block}
    (h : ∀ table, .relationships table ∉ blocks)
    (change : RelationshipTable → Option RelationshipTable) (more : List Block) :
    changeFirstTable? change (blocks ++ more) =
      (changeFirstTable? change more).map (blocks ++ ·) := by
  induction blocks with
  | nil => simp
  | cons block blocks ih =>
      have hrest := ih fun table hmem => h table (List.mem_cons_of_mem _ hmem)
      cases block with
      | relationships table => exact absurd List.mem_cons_self (h table)
      | heading text =>
          rw [List.cons_append, changeFirstTable?, hrest, Option.map_map]
          rfl
      | properties table =>
          rw [List.cons_append, changeFirstTable?, hrest, Option.map_map]
          rfl

/-- The first table from the end is changed in its place. -/
theorem changeFirstTable?_reverse (change : RelationshipTable → Option RelationshipTable)
    (blocks : List Block) :
    (changeFirstTable? change blocks.reverse).map List.reverse =
      (splitLastTable? blocks).bind fun (above, table, below) =>
        (change table).map fun changed => above ++ .relationships changed :: below := by
  cases hsplit : splitLastTable? blocks with
  | none =>
      have hnone : ∀ table, .relationships table ∉ blocks.reverse := fun table hmem =>
        splitLastTable?_eq_none_iff.mp hsplit table (List.mem_reverse.mp hmem)
      have happend := changeFirstTable?_append_of_notMem hnone change []
      rw [List.append_nil] at happend
      rw [happend]
      rfl
  | some split =>
      obtain ⟨above, table, below⟩ := split
      obtain ⟨rfl, hbelow⟩ := splitLastTable?_eq_some_iff.mp hsplit
      have hreverse : ∀ other, .relationships other ∉ below.reverse := fun other hmem =>
        hbelow other (List.mem_reverse.mp hmem)
      rw [List.reverse_append, List.reverse_cons, List.append_assoc,
        changeFirstTable?_append_of_notMem hreverse, List.singleton_append, changeFirstTable?]
      cases hchange : change table <;> simp [hchange]

end Block

namespace Surface

/-- **The table that is read is the first one from the end.** -/
theorem lastTable?_eq_findSome? (surface : Surface) :
    surface.lastTable? = surface.blocks.reverse.findSome? Block.table? :=
  (Block.findSome?_table?_reverse surface.blocks).symm

/-- The last table of a surface is the one below which there is none. -/
theorem lastTable?_eq_some_iff {surface : Surface} {table : RelationshipTable} :
    surface.lastTable? = some table ↔
      ∃ above below, surface.blocks = above ++ .relationships table :: below ∧
        ∀ other, .relationships other ∉ below := by
  unfold lastTable?
  rw [Option.map_eq_some_iff]
  constructor
  · rintro ⟨⟨above, table, below⟩, hsplit, rfl⟩
    exact ⟨above, below, Block.splitLastTable?_eq_some_iff.mp hsplit⟩
  · rintro ⟨above, below, h⟩
    exact ⟨(above, table, below), Block.splitLastTable?_eq_some_iff.mpr h, rfl⟩

/-- **The table that is written is the first one from the end.** -/
theorem updateContainer?_eq_changeFirstTable? (surface : Surface) (row : Nat)
    (change : List Block → List Block) :
    surface.updateContainer? row change =
      (Block.changeFirstTable? (·.updateContainer? row change) surface.blocks.reverse).map
        fun blocks => ⟨blocks.reverse⟩ := by
  have hblocks := congrArg (Option.map Surface.mk)
    (Block.changeFirstTable?_reverse (·.updateContainer? row change) surface.blocks)
  rw [Option.map_map] at hblocks
  refine Eq.trans ?_ hblocks.symm
  unfold updateContainer?
  cases Block.splitLastTable? surface.blocks with
  | none => rfl
  | some split =>
      rw [Option.bind_some, Option.map_map]
      rfl

end Surface

/-! ### What a change leaves alone -/

/-- Two tables are the same, but for what is in the container of a row. -/
structure RelationshipTable.AgreesOutside (row : Nat) (table changed : RelationshipTable) : Prop where
  /-- The mode is the same. -/
  mode : changed.mode = table.mode
  /-- All other rows are the same. -/
  others : ∀ other, other ≠ row → changed.rows[other]? = table.rows[other]?
  /-- The row itself is the same with an empty container. -/
  own : changed.rows[row]?.map (·.emptied) = table.rows[row]?.map (·.emptied)

/-- A table whose row is given other blocks agrees with what it was outside the row. -/
theorem RelationshipTable.agreesOutside_updateContainer? {table changed : RelationshipTable}
    {row : Nat} {change : List Block → List Block}
    (h : table.updateContainer? row change = some changed) : table.AgreesOutside row changed := by
  rw [updateContainer?_eq] at h
  obtain ⟨entry, hentry, h⟩ := Option.bind_eq_some_iff.mp h
  obtain ⟨expander, hexpander, rfl⟩ := Option.map_eq_some_iff.mp h
  have hlt : row < table.rows.length := (List.getElem?_eq_some_iff.mp hentry).1
  refine ⟨rfl, ?_, ?_⟩
  · intro other hne
    exact List.getElem?_set_ne (Ne.symm hne)
  · rw [List.getElem?_set_self hlt, hentry]
    simp [RelationshipRow.emptied, hexpander]

/-- Two surfaces are the same, but for what is in the container of a row of the last table. -/
inductive Surface.AgreesOutside (row : Nat) (surface changed : Surface) : Prop where
  /-- They are the same. -/
  | same (hchanged : changed = surface)
  /-- The last table of both stands between the same blocks. -/
  | lastTable {above below : List Block} {table changedTable : RelationshipTable}
      (hsurface : surface.blocks = above ++ .relationships table :: below)
      (hchanged : changed.blocks = above ++ .relationships changedTable :: below)
      (hlast : ∀ other, .relationships other ∉ below)
      (htable : table.AgreesOutside row changedTable)

/-- **A change in a container is nothing else.** -/
theorem Surface.agreesOutside_updateContainer? {surface changed : Surface} {row : Nat}
    {change : List Block → List Block} (h : surface.updateContainer? row change = some changed) :
    surface.AgreesOutside row changed := by
  obtain ⟨above, table, changedTable, below, hsplit, htable, hchanged⟩ :=
    splitLastTable?_updateContainer? h
  obtain ⟨hsurface, hlast⟩ := Block.splitLastTable?_eq_some_iff.mp hsplit
  exact .lastTable hsurface (Block.eq_append_of_splitLastTable? hchanged) hlast
    (RelationshipTable.agreesOutside_updateContainer? htable)

/-! ### Laws of reading and writing -/

namespace RelationshipTable

/-- A row has a container if it has an expander, which holds it. -/
theorem container?_eq_some_iff {table : RelationshipTable} {row : Nat} {container : List Block} :
    table.container? row = some container ↔
      ∃ start relType finish target,
        table.rows[row]? = some ⟨start, relType, finish, some ⟨target, container⟩⟩ := by
  unfold container?
  constructor
  · intro h
    obtain ⟨⟨target, container⟩, hexpander, rfl⟩ := Option.map_eq_some_iff.mp h
    obtain ⟨⟨start, relType, finish, expand⟩, hentry, rfl⟩ := Option.bind_eq_some_iff.mp hexpander
    exact ⟨start, relType, finish, target, hentry⟩
  · rintro ⟨start, relType, finish, target, hentry⟩
    rw [hentry, Option.bind_some, Option.map_some]

section

variable {table : RelationshipTable} {row : Nat} {container : List Block}
  (h : table.container? row = some container)

include h

/-- A container that is written as it is read leaves the table as it is. -/
theorem updateContainer?_id : table.updateContainer? row id = some table := by
  obtain ⟨mode, rows⟩ := table
  obtain ⟨start, relType, finish, target, hentry⟩ := container?_eq_some_iff.mp h
  obtain ⟨hlt, hget⟩ := List.getElem?_eq_some_iff.mp hentry
  -- the row that is written is the row that was there
  have hset : rows.set row ⟨start, relType, finish, some ⟨target, container⟩⟩ = rows := by
    rw [← hget, List.set_getElem_self]
  unfold updateContainer?
  rw [hentry]
  exact congrArg (fun rows => some (RelationshipTable.mk mode rows)) hset

/-- What a change does depends on what it makes of the container. -/
theorem updateContainer?_congr (change : List Block → List Block) :
    table.updateContainer? row (fun _ => change container) = table.updateContainer? row change := by
  obtain ⟨start, relType, finish, target, hentry⟩ := container?_eq_some_iff.mp h
  unfold updateContainer?
  rw [hentry]

end

/-- Two changes of a container, one after the other, are one change. -/
theorem updateContainer?_bind_updateContainer? (table : RelationshipTable) (row : Nat)
    (change further : List Block → List Block) :
    ((table.updateContainer? row change).bind fun changed => changed.updateContainer? row further) =
      table.updateContainer? row (further ∘ change) := by
  simp only [updateContainer?_eq]
  cases hentry : table.rows[row]? with
  | none => rfl
  | some entry =>
      have hlt : row < table.rows.length := (List.getElem?_eq_some_iff.mp hentry).1
      cases hexpand : entry.expand with
      | none => simp [hexpand]
      | some expander => simp [hexpand, List.getElem?_set_self hlt]

end RelationshipTable

namespace Surface

/-- A container is read in the last table. -/
theorem container?_eq_some_iff {surface : Surface} {row : Nat} {container : List Block} :
    surface.container? row = some container ↔
      ∃ above table below, Block.splitLastTable? surface.blocks = some (above, table, below) ∧
        table.container? row = some container := by
  unfold container? lastTable?
  cases Block.splitLastTable? surface.blocks with
  | none => simp
  | some split =>
      obtain ⟨above, table, below⟩ := split
      constructor
      · intro h
        exact ⟨above, table, below, rfl, h⟩
      · rintro ⟨_, _, _, hsplit, h⟩
        cases hsplit
        exact h

/-- **A container that is written as it is read leaves the surface as it is.** -/
theorem updateContainer?_id {surface : Surface} {row : Nat} {container : List Block}
    (h : surface.container? row = some container) :
    surface.updateContainer? row id = some surface := by
  obtain ⟨above, table, below, hsplit, hcontainer⟩ := container?_eq_some_iff.mp h
  rw [updateContainer?_of_split hsplit, RelationshipTable.updateContainer?_id hcontainer,
    Option.map_some, ← Block.eq_append_of_splitLastTable? hsplit]

/-- **Two changes of a container, one after the other, are one change.** -/
theorem updateContainer?_bind_updateContainer? (surface : Surface) (row : Nat)
    (change further : List Block → List Block) :
    ((surface.updateContainer? row change).bind fun changed =>
        changed.updateContainer? row further) =
      surface.updateContainer? row (further ∘ change) := by
  cases hsplit : Block.splitLastTable? surface.blocks with
  | none => simp [updateContainer?, hsplit]
  | some split =>
      obtain ⟨above, table, below⟩ := split
      rw [updateContainer?_bind_of_split hsplit, updateContainer?_of_split hsplit,
        RelationshipTable.updateContainer?_bind_updateContainer?]

/-- **What a change does depends on what it makes of the container that is read.** -/
theorem updateContainer?_congr {surface : Surface} {row : Nat} {container : List Block}
    (h : surface.container? row = some container) (change : List Block → List Block) :
    surface.updateContainer? row (fun _ => change container) =
      surface.updateContainer? row change := by
  obtain ⟨above, table, below, hsplit, hcontainer⟩ := container?_eq_some_iff.mp h
  rw [updateContainer?_of_split hsplit, updateContainer?_of_split hsplit,
    RelationshipTable.updateContainer?_congr hcontainer]

/-- `changed` is the surface with given blocks in the container of a row, and with nothing else that
is different. -/
structure IsRewritten (row : Nat) (container : List Block) (surface changed : Surface) : Prop where
  /-- The row has these blocks. -/
  own : changed.container? row = some container
  /-- The other rows have what they had. -/
  others : ∀ other, other ≠ row → changed.container? other = surface.container? other
  /-- The last table of both is the same block, between the same blocks. But for what is in the
  container, it is the same table. -/
  lastTable : ∃ above table changedTable below,
    surface.blocks = above ++ .relationships table :: below ∧
    changed.blocks = above ++ .relationships changedTable :: below ∧
    surface.lastTable? = some table ∧ changed.lastTable? = some changedTable ∧
    table.AgreesOutside row changedTable

/-- **A change in a container is read back, and it is nothing else.** -/
theorem isRewritten_updateContainer? {surface changed : Surface} {row : Nat}
    {container : List Block} {change : List Block → List Block}
    (hcontainer : surface.container? row = some container)
    (h : surface.updateContainer? row change = some changed) :
    surface.IsRewritten row (change container) changed := by
  constructor
  · obtain ⟨expander, hexpander, hread⟩ := expander?_updateContainer?_self h
    rw [container?_eq, hexpander, Option.map_some] at hcontainer
    rw [container?_eq, hread, Option.map_some, Option.some.inj hcontainer]
  · intro other hne
    rw [container?_eq, container?_eq, expander?_updateContainer?_of_ne h hne]
  · obtain ⟨above, table, changedTable, below, hsplit, htable, hchanged⟩ :=
      splitLastTable?_updateContainer? h
    refine ⟨above, table, changedTable, below, Block.eq_append_of_splitLastTable? hsplit,
      Block.eq_append_of_splitLastTable? hchanged, ?_, ?_,
      RelationshipTable.agreesOutside_updateContainer? htable⟩
    · rw [Surface.lastTable?, hsplit, Option.map_some]
    · rw [Surface.lastTable?, hchanged, Option.map_some]

/-- **Reading and writing the containers of a surface agree.**  Both searches go from the end of the
surface to the last table. For a row either both find a container or neither does. If they do, it is
the same one: a change is given what is read, what it makes of that is read afterwards in this row and
in no other, and all other blocks, earlier tables among them, and the place of the last table stay as
they were. To write what is read changes nothing, and further changes go on where one has ended. To
append a block and to clear the container are such changes. -/
theorem containers_read_as_written (surface : Surface) (row : Nat) :
    surface.lastTable? = surface.blocks.reverse.findSome? Block.table? ∧
    (∀ table, surface.lastTable? = some table ↔
      ∃ above below, surface.blocks = above ++ .relationships table :: below ∧
        ∀ other, .relationships other ∉ below) ∧
    (∀ change, surface.updateContainer? row change =
      (Block.changeFirstTable? (·.updateContainer? row change) surface.blocks.reverse).map
        fun blocks => ⟨blocks.reverse⟩) ∧
    ((surface.container? row = none ∧ ∀ change, surface.updateContainer? row change = none) ∨
      ∃ container, surface.container? row = some container ∧
        surface.updateContainer? row id = some surface ∧
        ∀ change, ∃ changed, surface.updateContainer? row change = some changed ∧
          surface.updateContainer? row (fun _ => change container) = some changed ∧
          surface.IsRewritten row (change container) changed ∧
          ∀ further, changed.updateContainer? row further =
            surface.updateContainer? row (further ∘ change)) := by
  refine ⟨surface.lastTable?_eq_findSome?, fun table => lastTable?_eq_some_iff,
    surface.updateContainer?_eq_changeFirstTable? row, ?_⟩
  cases hcontainer : surface.container? row with
  | none =>
      refine Or.inl ⟨rfl, fun change => ?_⟩
      rw [← Option.not_isSome_iff_eq_none, isSome_updateContainer?, hcontainer]
      simp
  | some container =>
      refine Or.inr ⟨container, rfl, updateContainer?_id hcontainer, fun change => ?_⟩
      have hsome : (surface.updateContainer? row change).isSome = true := by
        rw [isSome_updateContainer?, hcontainer, Option.isSome_some]
      obtain ⟨changed, hchanged⟩ := Option.isSome_iff_exists.mp hsome
      refine ⟨changed, hchanged, ?_, isRewritten_updateContainer? hcontainer hchanged, ?_⟩
      · rw [updateContainer?_congr hcontainer, hchanged]
      · intro further
        rw [← updateContainer?_bind_updateContainer?, hchanged, Option.bind_some]

/-- Of two tables that have a first row each, the lower one is written. -/
example :
    let row (container : List Block) : RelationshipRow :=
      ⟨.thisNode "thisNode", "KNOWS", .link "9" "/9", some ⟨"/9", container⟩⟩
    let tables (container : List Block) : Surface :=
      ⟨[.relationships ⟨.expanding, [row [.heading "Node 9"]]⟩, .heading "Node 5",
        .relationships ⟨.expanding, [row container]⟩, .heading "Node 7"]⟩
    (tables []).updateContainer? 0 (· ++ [.heading "Node 9"]) = some (tables [.heading "Node 9"]) ∧
    (tables [.heading "Node 9"]).updateContainer? 0 (fun _ => []) = some (tables []) :=
  ⟨rfl, rfl⟩

end Surface

end GraphBrowser
