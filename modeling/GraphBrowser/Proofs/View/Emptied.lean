import GraphBrowser.View.Surface

/-!
# Surfaces without the contents of their containers

An expansion writes into the container of one row and nowhere else. What it leaves alone is said
here once: the surface with all containers emptied.

## Main definitions

* `Block.emptied`, `RelationshipTable.emptied`, `Surface.emptied` — the same with empty containers

## Main statements

* `Block.splitLastTable?_append` — the last table of a longer surface
* `Surface.emptied_updateContainer?` — **a change in a container cannot be seen on the emptied
  surface**
-/

namespace GraphBrowser

/-! ### Emptying -/

/-- The row with nothing in its container. -/
def RelationshipRow.emptied (row : RelationshipRow) : RelationshipRow :=
  { row with expand := row.expand.map fun expander => ⟨expander.target, []⟩ }

/-- The table with nothing in the containers of its rows. -/
def RelationshipTable.emptied (table : RelationshipTable) : RelationshipTable :=
  ⟨table.mode, table.rows.map (·.emptied)⟩

/-- The block with nothing in the containers of its rows, if it has any. -/
def Block.emptied : Block → Block
  | .heading text => .heading text
  | .properties table => .properties table
  | .relationships table => .relationships table.emptied

/-- The surface with nothing in its containers. -/
def Surface.emptied (surface : Surface) : Surface :=
  ⟨surface.blocks.map Block.emptied⟩

@[simp] theorem Surface.blocks_emptied (surface : Surface) :
    surface.emptied.blocks = surface.blocks.map Block.emptied := rfl

@[simp] theorem Surface.emptied_empty : Surface.empty.emptied = Surface.empty := rfl

@[simp] theorem Surface.emptied_append (surface : Surface) (blocks : List Block) :
    (surface.append blocks).emptied = surface.emptied.append (blocks.map Block.emptied) := by
  simp [Surface.emptied, Surface.append]

/-! ### The last table -/

namespace Block

/-- The search goes through the rest first and takes the block itself only if there is no table in
the rest. -/
theorem splitLastTable?_cons (block : Block) (blocks : List Block) :
    splitLastTable? (block :: blocks) =
      match splitLastTable? blocks with
      | some (before, table, after) => some (block :: before, table, after)
      | none =>
        match block with
        | .relationships table => some ([], table, blocks)
        | .heading _ => none
        | .properties _ => none := by
  refine (splitLastTable?.eq_def (block :: blocks)).trans ?_
  rfl

/-- **The search looks into the later part first.**  Only a part without a table lets it go on into
the part before. -/
theorem splitLastTable?_append (blocks more : List Block) :
    splitLastTable? (blocks ++ more) =
      match splitLastTable? more with
      | some (before, table, after) => some (blocks ++ before, table, after)
      | none => (splitLastTable? blocks).map fun (before, table, after) =>
          (before, table, after ++ more) := by
  induction blocks with
  | nil =>
      cases h : splitLastTable? more with
      | none => simp [h]
      | some split => simp [h]
  | cons block blocks ih =>
      rw [List.cons_append, splitLastTable?_cons, splitLastTable?_cons, ih]
      -- a table in the later part wins, then one in the rest, then the block itself
      cases hmore : splitLastTable? more with
      | some split => rfl
      | none =>
          cases hblocks : splitLastTable? blocks with
          | some split => rfl
          | none => cases block <;> rfl

/-- What the search returns puts the surface together again. -/
theorem eq_append_of_splitLastTable? {blocks before after : List Block}
    {table : RelationshipTable} (h : splitLastTable? blocks = some (before, table, after)) :
    blocks = before ++ .relationships table :: after := by
  induction blocks generalizing before with
  | nil => simp at h
  | cons block blocks ih =>
      rw [splitLastTable?_cons] at h
      cases hrest : splitLastTable? blocks with
      | some split =>
          obtain ⟨before', table', after'⟩ := split
          rw [hrest] at h
          obtain ⟨rfl, rfl, rfl⟩ := h
          rw [ih hrest]
          rfl
      | none =>
          rw [hrest] at h
          cases block with
          | heading text => cases h
          | properties properties => cases h
          | relationships last =>
              obtain ⟨rfl, rfl, rfl⟩ := h
              rfl

/-- Emptying commutes with the search. -/
theorem splitLastTable?_map_emptied (blocks : List Block) :
    splitLastTable? (blocks.map emptied) =
      (splitLastTable? blocks).map fun (before, table, after) =>
        (before.map emptied, table.emptied, after.map emptied) := by
  induction blocks with
  | nil => rfl
  | cons block blocks ih =>
      rw [List.map_cons, splitLastTable?_cons, splitLastTable?_cons, ih]
      cases splitLastTable? blocks with
      | some split => rfl
      | none => cases block <;> rfl

end Block

namespace Surface

/-- Emptying commutes with the choice of the last table. -/
@[simp] theorem lastTable?_emptied (surface : Surface) :
    surface.emptied.lastTable? = surface.lastTable?.map (·.emptied) := by
  rw [lastTable?, lastTable?, blocks_emptied, Block.splitLastTable?_map_emptied]
  cases Block.splitLastTable? surface.blocks <;> rfl

/-- Blocks among which there is no table leave the last one as it is. -/
theorem lastTable?_append_of_none {surface : Surface} {blocks : List Block}
    (h : Block.splitLastTable? blocks = none) :
    (surface.append blocks).lastTable? = surface.lastTable? := by
  rw [lastTable?, lastTable?, blocks_append, Block.splitLastTable?_append, h]
  cases Block.splitLastTable? surface.blocks <;> rfl

/-- The last table among further blocks is the last one of all. -/
theorem lastTable?_append_of_some {surface : Surface} {blocks before after : List Block}
    {table : RelationshipTable}
    (h : Block.splitLastTable? blocks = some (before, table, after)) :
    (surface.append blocks).lastTable? = some table := by
  rw [lastTable?, blocks_append, Block.splitLastTable?_append, h]
  rfl

end Surface

/-! ### Changes in a container -/

/-- A table whose row is given other blocks differs from it in that container only. -/
theorem RelationshipTable.emptied_updateContainer? {table changed : RelationshipTable} {row : Nat}
    {change : List Block → List Block} (h : table.updateContainer? row change = some changed) :
    changed.emptied = table.emptied := by
  unfold updateContainer? at h
  split at h
  · rename_i start relType finish target container hrow
    cases h
    obtain ⟨hlt, hget⟩ := List.getElem?_eq_some_iff.mp hrow
    have hmap : row < (table.rows.map (·.emptied)).length := by simpa using hlt
    -- emptied, the changed row is the row that was there
    have hsame : (RelationshipRow.mk start relType finish (some ⟨target, change container⟩)).emptied
        = (table.rows.map (·.emptied))[row] := by
      rw [List.getElem_map, hget]
      rfl
    rw [emptied, emptied, List.map_set, hsame, List.set_getElem_self]
  · cases h
  · cases h

/-- **A change in a container cannot be seen on the emptied surface.** -/
theorem Surface.emptied_updateContainer? {surface changed : Surface} {row : Nat}
    {change : List Block → List Block} (h : surface.updateContainer? row change = some changed) :
    changed.emptied = surface.emptied := by
  unfold updateContainer? at h
  cases hsplit : Block.splitLastTable? surface.blocks with
  | none => simp [hsplit] at h
  | some split =>
      obtain ⟨before, table, after⟩ := split
      simp only [hsplit, Option.map_eq_some_iff] at h
      obtain ⟨changedTable, htable, rfl⟩ := h
      have hblocks := Block.eq_append_of_splitLastTable? hsplit
      rw [Surface.emptied, Surface.emptied, hblocks]
      simp [Block.emptied, RelationshipTable.emptied_updateContainer? htable]

/-- A row can be given other blocks exactly if it has a container. -/
theorem Surface.isSome_updateContainer? (surface : Surface) (row : Nat)
    (change : List Block → List Block) :
    (surface.updateContainer? row change).isSome = (surface.container? row).isSome := by
  unfold updateContainer? container? lastTable?
  cases Block.splitLastTable? surface.blocks with
  | none => rfl
  | some split =>
      obtain ⟨before, table, after⟩ := split
      simp only [Option.isSome_map, Option.map_some, Option.bind_some]
      unfold RelationshipTable.updateContainer? RelationshipTable.container?
      cases hrow : table.rows[row]? with
      | none => rfl
      | some entry =>
          obtain ⟨start, relType, finish, _ | expander⟩ := entry
          · rfl
          · obtain ⟨target, container⟩ := expander
            rfl

end GraphBrowser
