import GraphBrowser.Proofs.View.Emptied
import GraphBrowser.View.Links

/-!
# Links read off a surface

The links of the browser are made side by side with a table and kept apart from it. Here the links
are read back off what is on display.

## Main definitions

* `Link.expands` — whether a link is the one that expands a row
* `RelationshipTable.expandLink?` — the link that expands a row of a table
* `Surface.links` — the links that can be read off the last table of a surface

## Main statements

* `LinkedTable.links_ofRelationships` — a table and its links are made to agree
* `RelationshipTable.filter_expands_links` — **a row has at most one link that expands it**
* `Surface.links_emptied` — containers hold no links
-/

namespace GraphBrowser

/-- Whether a link is the one that expands a row. -/
def Link.expands (row : Nat) (link : Link) : Bool :=
  link.row == row && link.action == .expand

/-- The link of the expand control of a row, if the row has one. -/
def RelationshipTable.expandLink? (table : RelationshipTable) (row : Nat) : Option Link :=
  (table.rows[row]?.bind (·.expand)).map fun expander => ⟨row, .expand, expander.target, .expand⟩

/-- The links that can be read off the last table of a surface. -/
def Surface.links (surface : Surface) : List Link :=
  match surface.lastTable? with
  | some table => table.links
  | none => []

/-- The blocks of the table of relationships: a heading with their number, and the table. -/
theorem LinkedTable.blocks_ofRelationships (relationships : List Relationship) (currentId : String)
    (mode : TableMode) :
    (ofRelationships relationships currentId mode).table.blocks =
      [.heading ("Relationships (" ++ toString relationships.length ++ ")"),
       .relationships (ofRelationships relationships currentId mode).table] := by
  rw [RelationshipTable.blocks, ofRelationships, List.length_map]

/-! ### Tables and their links are made to agree -/

/-- An end has a link unless its id is the current one. -/
theorem Endpoint.links_ofUrl (mode : TableMode) (currentId url : String) (row : Nat)
    (place : LinkPlace) :
    (ofUrl mode currentId url).links row place =
      if resourceId url = currentId then [] else [⟨row, place, url, .navigate⟩] := by
  by_cases h : resourceId url = currentId
  · rw [ofUrl, if_pos h, if_pos h, links]
  · rw [ofUrl, if_neg h, if_neg h, links]

namespace Relationship

/-- The links of a relationship are those of its row. -/
theorem links_row (mode : TableMode) (currentId : String) (index : Nat) (r : Relationship) :
    (r.row mode currentId).links index = r.links mode currentId index := by
  simp only [RelationshipRow.links, row, Endpoint.links_ofUrl, links, startId, finishId]
  cases mode <;> rfl

/-- The same for relationships in consecutive rows. -/
theorem linksFrom_map_row (mode : TableMode) (currentId : String) (index : Nat)
    (relationships : List Relationship) :
    RelationshipRow.linksFrom index (relationships.map (·.row mode currentId)) =
      linksFrom mode currentId index relationships := by
  induction relationships generalizing index with
  | nil => rfl
  | cons r rest ih =>
      rw [List.map_cons, RelationshipRow.linksFrom, links_row, ih, linksFrom_cons]

end Relationship

/-- **A table and its links are made to agree.** -/
theorem LinkedTable.links_ofRelationships (relationships : List Relationship) (currentId : String)
    (mode : TableMode) :
    (ofRelationships relationships currentId mode).table.links =
      (ofRelationships relationships currentId mode).links :=
  Relationship.linksFrom_map_row mode (trimmed currentId) 0 relationships

/-! ### Tables are made with empty containers -/

/-- A row that has just been made has nothing in its container. -/
theorem Relationship.emptied_row (mode : TableMode) (currentId : String) (r : Relationship) :
    (r.row mode currentId).emptied = r.row mode currentId := by
  cases mode with
  | plain => simp only [row, RelationshipRow.emptied, Option.map_none]
  | expanding => simp only [row, RelationshipRow.emptied, Option.map_some]

/-- A table that has just been made has nothing in its containers. -/
theorem LinkedTable.emptied_ofRelationships (relationships : List Relationship) (currentId : String)
    (mode : TableMode) :
    (ofRelationships relationships currentId mode).table.emptied =
      (ofRelationships relationships currentId mode).table := by
  have hrows : (relationships.map (·.row mode (trimmed currentId))).map (·.emptied) =
      relationships.map (·.row mode (trimmed currentId)) := by
    rw [List.map_map]
    exact List.map_congr_left fun r _ => r.emptied_row mode (trimmed currentId)
  exact congrArg (RelationshipTable.mk mode) hrows

/-- The blocks of such a table have nothing in their containers either. -/
theorem LinkedTable.map_emptied_blocks (relationships : List Relationship) (currentId : String)
    (mode : TableMode) :
    (ofRelationships relationships currentId mode).table.blocks.map Block.emptied =
      (ofRelationships relationships currentId mode).table.blocks := by
  rw [RelationshipTable.blocks, List.map_cons, List.map_cons, List.map_nil, Block.emptied,
    Block.emptied, emptied_ofRelationships]

/-! ### Containers hold no links -/

/-- What a container holds does not matter for the links of its row. -/
@[simp] theorem RelationshipRow.links_emptied (index : Nat) (row : RelationshipRow) :
    row.emptied.links index = row.links index := by
  obtain ⟨start, relType, finish, expand⟩ := row
  cases expand <;> rfl

/-- The same for consecutive rows. -/
theorem RelationshipRow.linksFrom_map_emptied (index : Nat) (rows : List RelationshipRow) :
    linksFrom index (rows.map (·.emptied)) = linksFrom index rows := by
  induction rows generalizing index with
  | nil => rfl
  | cons row rest ih => rw [List.map_cons, linksFrom, linksFrom, links_emptied, ih]

@[simp] theorem RelationshipTable.links_emptied (table : RelationshipTable) :
    table.emptied.links = table.links :=
  RelationshipRow.linksFrom_map_emptied 0 table.rows

@[simp] theorem Surface.links_emptied (surface : Surface) :
    surface.emptied.links = surface.links := by
  rw [links, links, lastTable?_emptied]
  cases surface.lastTable? with
  | none => rfl
  | some table => exact table.links_emptied

/-! ### What is appended -/

@[simp] theorem Surface.links_empty : Surface.empty.links = [] := rfl

/-- Blocks among which there is no table leave the links as they are. -/
theorem Surface.links_append_of_none {surface : Surface} {blocks : List Block}
    (h : Block.splitLastTable? blocks = none) :
    (surface.append blocks).links = surface.links := by
  rw [links, links, lastTable?_append_of_none h]

/-- A table that is appended brings its own links. -/
@[simp] theorem Surface.links_append_table (surface : Surface) (table : RelationshipTable) :
    (surface.append table.blocks).links = table.links := by
  have hsplit : Block.splitLastTable? table.blocks =
      some ([.heading ("Relationships (" ++ toString table.rows.length ++ ")")], table, []) := rfl
  rw [links, lastTable?_append_of_some hsplit]

/-! ### The link that expands a row -/

/-- The links of a row that expand some row: the one of its own expand control. -/
theorem RelationshipRow.filter_expands_links (index row : Nat) (entry : RelationshipRow) :
    (entry.links index).filter (Link.expands row) =
      if index = row then (entry.expand.map fun expander =>
        (⟨row, .expand, expander.target, .expand⟩ : Link)).toList
      else [] := by
  obtain ⟨start, relType, finish, expand⟩ := entry
  have hnavigate : ∀ (place : LinkPlace) (endpoint : Endpoint),
      (endpoint.links index place).filter (Link.expands row) = [] := by
    intro place endpoint
    cases endpoint with
    | thisNode label => rfl
    | link id url => simp [Endpoint.links, Link.expands]
  rw [links, List.filter_append, List.filter_append, hnavigate, hnavigate]
  by_cases hrow : index = row
  · subst hrow
    cases expand <;> simp [Link.expands]
  · cases expand <;> simp [Link.expands, hrow]

/-- The same for rows from an index on. -/
theorem RelationshipRow.filter_expands_linksFrom (index row : Nat) (rows : List RelationshipRow) :
    (linksFrom index rows).filter (Link.expands row) =
      if index ≤ row then ((rows[row - index]?.bind (·.expand)).map fun expander =>
        (⟨row, .expand, expander.target, .expand⟩ : Link)).toList
      else [] := by
  induction rows generalizing index with
  | nil => simp [linksFrom]
  | cons entry rest ih =>
      rw [linksFrom, List.filter_append, filter_expands_links, ih]
      -- the row lies in the rest, it is the first one, or it has been passed already
      rcases Nat.lt_trichotomy index row with hlt | rfl | hgt
      · have hsub : row - index = row - (index + 1) + 1 := by omega
        rw [if_neg (by omega), if_pos (by omega), if_pos (by omega), hsub,
          List.getElem?_cons_succ, List.nil_append]
      · rw [if_pos rfl, if_neg (by omega), if_pos (Nat.le_refl _), Nat.sub_self,
          List.getElem?_cons_zero, List.append_nil, Option.bind_some]
      · rw [if_neg (by omega), if_neg (by omega), if_neg (by omega), List.append_nil]

/-- **A row has at most one link that expands it**, the one of its expand control. -/
theorem RelationshipTable.filter_expands_links (table : RelationshipTable) (row : Nat) :
    table.links.filter (Link.expands row) = (table.expandLink? row).toList := by
  rw [links, RelationshipRow.filter_expands_linksFrom, if_pos (Nat.zero_le row), Nat.sub_zero,
    expandLink?]

/-- A row has a link that expands it exactly if it has a container. -/
theorem RelationshipTable.isSome_container? (table : RelationshipTable) (row : Nat) :
    (table.container? row).isSome = (table.expandLink? row).isSome := by
  rw [container?, expandLink?, Option.isSome_map, Option.isSome_map]

namespace Surface

/-- The links that expand a row of the last table: at most one. -/
theorem filter_expands_links (surface : Surface) (row : Nat) :
    surface.links.filter (Link.expands row) =
      (surface.lastTable?.bind (·.expandLink? row)).toList := by
  rw [links]
  cases surface.lastTable? with
  | none => rfl
  | some table => exact table.filter_expands_links row

/-- **A row of the last table has a container exactly if a link expands it.** -/
theorem isSome_container? (surface : Surface) (row : Nat) :
    (surface.container? row).isSome = (surface.links.find? (Link.expands row)).isSome := by
  rw [← List.head?_filter, filter_expands_links, container?]
  cases surface.lastTable? with
  | none => rfl
  | some table =>
      rw [Option.bind_some, Option.bind_some, table.isSome_container?]
      cases table.expandLink? row <;> rfl

/-- **Looking for the link that expands a row finds every such link.** -/
theorem find?_expands_links {surface : Surface} {row : Nat} {link : Link}
    (hmem : link ∈ surface.links) (hexpands : link.expands row = true) :
    surface.links.find? (Link.expands row) = some link := by
  have hfilter : link ∈ surface.links.filter (Link.expands row) :=
    List.mem_filter.mpr ⟨hmem, hexpands⟩
  rw [← List.head?_filter]
  rw [filter_expands_links] at hfilter ⊢
  rw [Option.mem_toList] at hfilter
  rw [hfilter]
  rfl

end Surface

end GraphBrowser
