import GraphBrowser.Proofs.Markup.Anchors
import GraphBrowser.Proofs.View.Containers

/-!
# Links and anchors

The links of the browser are those of the last table alone, and they know nothing of containers. The
page has the anchors of every table, those in containers included. Where there is one table, and
none in its containers, both are the same.

## Main definitions

* `Link.href` — where the anchor of a link leads
* `Block.isTable` — whether a block is a table of relationships

## Main statements

* `Surface.hrefs_eq_map_links` — **the anchors of a surface with one table are those of its links**
-/

namespace GraphBrowser

/-- Where the anchor of a link leads. -/
def Link.href (targets : LinkTargets) (link : Link) : String :=
  match link.action with
  | .navigate => targets.node link.target
  | .expand => targets.expand link.row link.target

/-- Whether a block is a table of relationships. -/
def Block.isTable : Block → Bool
  | .heading _ => false
  | .properties _ => false
  | .relationships _ => true

@[simp] theorem Block.isTable_emptied (block : Block) : block.emptied.isTable = block.isTable := by
  cases block <;> rfl

/-- The search for the last table fails only if there is none. -/
theorem Block.countP_isTable_of_none {blocks : List Block} (h : splitLastTable? blocks = none) :
    blocks.countP isTable = 0 := by
  rw [List.countP_eq_zero]
  intro block hmem
  cases block with
  | heading text => exact Bool.false_ne_true
  | properties table => exact Bool.false_ne_true
  | relationships table => exact absurd hmem (splitLastTable?_eq_none_iff.mp h table)

/-- The last table is one of the tables. -/
theorem Block.countP_isTable_of_some {blocks before after : List Block}
    {table : RelationshipTable} (h : splitLastTable? blocks = some (before, table, after)) :
    blocks.countP isTable = before.countP isTable + (after.countP isTable + 1) := by
  rw [eq_append_of_splitLastTable? h, List.countP_append, List.countP_cons_of_pos rfl]

section

variable (targets : LinkTargets)

/-- Without tables there are no anchors. -/
theorem Block.allHrefs_of_countP_eq_zero {blocks : List Block}
    (h : blocks.countP Block.isTable = 0) : Block.allHrefs targets blocks = [] := by
  induction blocks with
  | nil => rfl
  | cons block blocks ih =>
      rw [List.countP_eq_zero, List.forall_mem_cons] at h
      rw [allHrefs, ih (List.countP_eq_zero.mpr h.2), List.append_nil]
      cases block with
      | heading text => rfl
      | properties table => rfl
      | relationships table => exact absurd rfl h.1

theorem Block.allHrefs_append (blocks more : List Block) :
    Block.allHrefs targets (blocks ++ more) =
      Block.allHrefs targets blocks ++ Block.allHrefs targets more := by
  induction blocks with
  | nil => rfl
  | cons block blocks ih => rw [List.cons_append, allHrefs, allHrefs, ih, List.append_assoc]

/-- An end has an anchor exactly if it has a link. -/
theorem Endpoint.hrefs_eq_map_links (endpoint : Endpoint) (row : Nat) (place : LinkPlace) :
    endpoint.hrefs targets = (endpoint.links row place).map (Link.href targets) := by
  cases endpoint <;> rfl

/-- Rows have the anchors of their links, if their containers have none. -/
theorem RelationshipRow.allHrefs_eq_map_linksFrom {rows : List RelationshipRow}
    (h : ∀ row ∈ rows, ∀ expander, row.expand = some expander →
      expander.container.countP Block.isTable = 0) (index : Nat) :
    allHrefs targets index rows = (linksFrom index rows).map (Link.href targets) := by
  induction rows generalizing index with
  | nil => rfl
  | cons row rest ih =>
      obtain ⟨hrow, hrest⟩ := List.forall_mem_cons.mp h
      obtain ⟨start, relType, finish, _ | ⟨target, container⟩⟩ := row
      · rw [allHrefs, ih hrest, linksFrom, links, List.map_append, List.map_append,
          List.map_append, ← start.hrefs_eq_map_links, ← finish.hrefs_eq_map_links]
        simp
      · have hcontainer : Block.allHrefs targets container = [] :=
          Block.allHrefs_of_countP_eq_zero targets (hrow ⟨target, container⟩ rfl)
        rw [allHrefs, hcontainer, ih hrest, linksFrom, links, List.map_append, List.map_append,
          List.map_append, ← start.hrefs_eq_map_links, ← finish.hrefs_eq_map_links]
        simp [Link.href]

/-- **The anchors of a surface with one table are those of its links**, in the same order, if there
is no table in its containers. -/
theorem Surface.hrefs_eq_map_links {surface : Surface}
    (hone : surface.blocks.countP Block.isTable ≤ 1)
    (hcontainers : ∀ row expander, surface.expander? row = some expander →
      expander.container.countP Block.isTable = 0) :
    surface.hrefs targets = surface.links.map (Link.href targets) := by
  rw [hrefs, links, lastTable?]
  cases hsplit : Block.splitLastTable? surface.blocks with
  | none =>
      rw [Block.allHrefs_of_countP_eq_zero targets (Block.countP_isTable_of_none hsplit)]
      rfl
  | some split =>
      obtain ⟨before, ⟨mode, rows⟩, after⟩ := split
      have hcount := Block.countP_isTable_of_some hsplit
      have hbefore : before.countP Block.isTable = 0 := by omega
      have hafter : after.countP Block.isTable = 0 := by omega
      have hrows : ∀ row ∈ rows, ∀ expander, row.expand = some expander →
          expander.container.countP Block.isTable = 0 := by
        intro row hmem expander hexpander
        obtain ⟨index, hindex⟩ := List.getElem?_of_mem hmem
        refine hcontainers index expander ?_
        rw [expander?, lastTable?, hsplit]
        show rows[index]?.bind (·.expand) = some expander
        rw [hindex]
        exact hexpander
      rw [Block.eq_append_of_splitLastTable? hsplit, Block.allHrefs_append, Block.allHrefs,
        Block.allHrefs_of_countP_eq_zero targets hbefore,
        Block.allHrefs_of_countP_eq_zero targets hafter, List.append_nil, List.nil_append]
      exact RelationshipRow.allHrefs_eq_map_linksFrom targets hrows 0

end

end GraphBrowser
