import GraphBrowser.Proofs.View.Links
import Mathlib.Data.List.Forall2

/-!
# What a table of relationships shows and offers

Every relationship of a node is shown in a row of its own, and each row offers links to the nodes at
its ends other than the node itself. Here it is said what a row has to show and which links a table
offers, without looking at how tables and links are made, and that tables and links are so.

## Main definitions

* `Endpoint.ShowsEnd`, `RelationshipRow.Shows` — what an end and a row have to show
* `RelationshipRow.target?`, `RelationshipTable.Offers` — the links that stand in a row and in a table
* `Link.Before`, `Link.lowered` — the order of links, and a link of a table that is put below rows

## Main statements

* `RelationshipTable.mem_links_iff` — **the links read off a table are those that it offers**
* `RelationshipTable.pairwise_before_links` — **they stand in strictly increasing order**
* `RelationshipTable.links_append` — rows that are put below others bring the links that they have
* `LinkedTable.shows_relationships_in_order` — all this for the table and the links of relationships

## Design notes

**Order and membership determine the list of links.**  A row and a place have at most one address and
one action, so that a table offers at most one link there; a strictly increasing list holds each link
once.
-/

namespace GraphBrowser

/-! ### What a row has to show -/

/-- An end of a relationship is shown by the label for the node itself exactly if the id in its
address is the current one, and exactly otherwise as a link with this id to the address as it is. -/
def Endpoint.ShowsEnd (mode : TableMode) (currentId url : String) (endpoint : Endpoint) : Prop :=
  (endpoint = .thisNode mode.ownLabel ↔ resourceId url = currentId) ∧
  (endpoint = .link (resourceId url) url ↔ resourceId url ≠ currentId)

/-- A row of an expanding table has an empty container, and leads to an end of the relationship that is
not the node itself unless both ends are. A row of a plain table has neither. -/
def RelationshipRow.ShowsExpander (mode : TableMode) (currentId : String) (r : Relationship)
    (row : RelationshipRow) : Prop :=
  match mode with
  | .plain => row.expand = none
  | .expanding =>
    ∃ target, row.expand = some ⟨target, []⟩ ∧ (target = r.start ∨ target = r.finish) ∧
      (resourceId target = currentId → r.startId = currentId ∧ r.finishId = currentId)

/-- A row shows a relationship. -/
structure RelationshipRow.Shows (mode : TableMode) (currentId : String) (r : Relationship)
    (row : RelationshipRow) : Prop where
  /-- The type is that of the relationship. -/
  relType : row.relType = r.relType
  /-- The start is shown. -/
  start : row.start.ShowsEnd mode currentId r.start
  /-- The finish is shown. -/
  finish : row.finish.ShowsEnd mode currentId r.finish
  /-- The row can be expanded as the table demands. -/
  expander : row.ShowsExpander mode currentId r

/-- An end is shown as it has to be. -/
theorem Endpoint.showsEnd_ofUrl (mode : TableMode) (currentId url : String) :
    (ofUrl mode currentId url).ShowsEnd mode currentId url := by
  by_cases h : resourceId url = currentId
  · simp [ShowsEnd, ofUrl, h]
  · simp [ShowsEnd, ofUrl, h]

namespace Relationship

/-- The end to which a row leads is the node itself only if both ends are. -/
theorem ends_eq_of_expandTarget_eq {currentId : String} {r : Relationship}
    (h : resourceId (r.expandTarget currentId) = currentId) :
    r.startId = currentId ∧ r.finishId = currentId := by
  rw [expandTarget] at h
  by_cases hstart : r.startId = currentId
  · rw [if_pos hstart] at h
    exact ⟨hstart, h⟩
  · rw [if_neg hstart] at h
    exact absurd h hstart

/-- A row leads to one of the ends. -/
theorem expandTarget_eq_or (currentId : String) (r : Relationship) :
    r.expandTarget currentId = r.start ∨ r.expandTarget currentId = r.finish := by
  rw [expandTarget]
  by_cases hstart : r.startId = currentId
  · exact Or.inr (if_pos hstart)
  · exact Or.inl (if_neg hstart)

/-- **A relationship is shown by its row.** -/
theorem shows_row (mode : TableMode) (currentId : String) (r : Relationship) :
    (r.row mode currentId).Shows mode currentId r where
  relType := by simp only [row]
  start := by simpa only [row] using Endpoint.showsEnd_ofUrl mode currentId r.start
  finish := by simpa only [row] using Endpoint.showsEnd_ofUrl mode currentId r.finish
  expander := by
    cases mode with
    | plain => simp only [RelationshipRow.ShowsExpander, row]
    | expanding =>
        refine ⟨r.expandTarget currentId, by simp only [row], r.expandTarget_eq_or currentId, ?_⟩
        exact ends_eq_of_expandTarget_eq

end Relationship

/-! ### The links that stand in a table -/

/-- What a click at a place does. -/
def LinkPlace.action : LinkPlace → LinkAction
  | .start => .navigate
  | .finish => .navigate
  | .expand => .expand

/-- The number of places to the left of a place. -/
def LinkPlace.rank : LinkPlace → Nat
  | .start => 0
  | .finish => 1
  | .expand => 2

/-- The address that an end leads to, if it is a link. -/
def Endpoint.target? : Endpoint → Option String
  | .thisNode _ => none
  | .link _ url => some url

/-- The address that a place of a row leads to, if there is a link or an expand control. -/
def RelationshipRow.target? (row : RelationshipRow) : LinkPlace → Option String
  | .start => row.start.target?
  | .finish => row.finish.target?
  | .expand => row.expand.map (·.target)

/-- A link stands in a row. -/
def RelationshipRow.Offers (row : RelationshipRow) (link : Link) : Prop :=
  row.target? link.place = some link.target ∧ link.action = link.place.action

/-- A link stands in a table. -/
def RelationshipTable.Offers (table : RelationshipTable) (link : Link) : Prop :=
  ∃ row, table.rows[link.row]? = some row ∧ row.Offers link

/-- A link stands before another: in a row above, or further to the left in the same row. -/
def Link.Before (link next : Link) : Prop :=
  link.row < next.row ∨ link.row = next.row ∧ link.place.rank < next.place.rank

/-- A link of a table that is put below so many rows. -/
def Link.lowered (rows : Nat) (link : Link) : Link :=
  { link with row := link.row + rows }

namespace Endpoint

variable (endpoint : Endpoint) (index : Nat) (place : LinkPlace)

/-- The link of an end leads where the end does. -/
theorem mem_links_iff {link : Link} :
    link ∈ endpoint.links index place ↔
      link.row = index ∧ link.place = place ∧ endpoint.target? = some link.target ∧
        link.action = .navigate := by
  obtain ⟨row, other, target, action⟩ := link
  cases endpoint with
  | thisNode label => simp [links, target?]
  | link id url =>
      simp only [links, target?, List.mem_singleton, Link.mk.injEq, Option.some.injEq]
      rw [eq_comm (a := target)]

/-- The link of an end goes down with its row. -/
theorem links_add (rows : Nat) :
    endpoint.links (index + rows) place = (endpoint.links index place).map (Link.lowered rows) := by
  cases endpoint <;> rfl

end Endpoint

namespace RelationshipRow

/-- **The links read off a row are those that stand in it.** -/
theorem mem_links_iff {row : RelationshipRow} {index : Nat} {link : Link} :
    link ∈ row.links index ↔ link.row = index ∧ row.Offers link := by
  obtain ⟨start, relType, finish, expand⟩ := row
  rw [links, List.mem_append, List.mem_append, Endpoint.mem_links_iff, Endpoint.mem_links_iff]
  obtain ⟨other, place, target, action⟩ := link
  cases place with
  | start => cases expand <;> simp [Offers, target?, LinkPlace.action]
  | finish => cases expand <;> simp [Offers, target?, LinkPlace.action]
  | expand =>
      cases expand with
      | none => simp [Offers, target?]
      | some expander => simp [Offers, target?, LinkPlace.action, eq_comm]

/-- From left to right the places of a row follow one another. -/
theorem pairwise_before_links (row : RelationshipRow) (index : Nat) :
    (row.links index).Pairwise Link.Before := by
  obtain ⟨start, relType, finish, expand⟩ := row
  cases start <;> cases finish <;> cases expand <;>
    simp [links, Endpoint.links, Link.Before, LinkPlace.rank]

/-- The links of a row go down with it. -/
theorem links_add (row : RelationshipRow) (index rows : Nat) :
    row.links (index + rows) = (row.links index).map (Link.lowered rows) := by
  rw [links, links, Endpoint.links_add, Endpoint.links_add, List.map_append, List.map_append]
  cases row.expand <;> rfl

/-! ### Rows from an index on -/

/-- The same for consecutive rows. -/
theorem mem_linksFrom_iff {rows : List RelationshipRow} {index : Nat} {link : Link} :
    link ∈ linksFrom index rows ↔
      index ≤ link.row ∧ ∃ row, rows[link.row - index]? = some row ∧ row.Offers link := by
  induction rows generalizing index with
  | nil => simp [linksFrom]
  | cons first rest ih =>
      rw [linksFrom, List.mem_append, mem_links_iff, ih]
      -- the link stands in the first row, in a row below, or in a row that has been passed already
      rcases Nat.lt_trichotomy link.row index with habove | rfl | hbelow
      · have hne : link.row ≠ index := Nat.ne_of_lt habove
        simp [hne, Nat.not_le_of_lt habove, Nat.not_le_of_lt (Nat.lt_succ_of_lt habove)]
      · rw [Nat.sub_self, List.getElem?_cons_zero]
        constructor
        · rintro (⟨-, hoffers⟩ | ⟨hlt, -⟩)
          · exact ⟨Nat.le_refl _, first, rfl, hoffers⟩
          · exact absurd hlt (Nat.not_succ_le_self _)
        · rintro ⟨-, row, hrow, hoffers⟩
          cases hrow
          exact Or.inl ⟨rfl, hoffers⟩
      · have hne : link.row ≠ index := Nat.ne_of_gt hbelow
        have hrest : link.row - index = link.row - (index + 1) + 1 := by omega
        rw [hrest, List.getElem?_cons_succ]
        simp [hne, Nat.le_of_lt hbelow, Nat.succ_le_of_lt hbelow]

/-- From top to bottom the links follow one another. -/
theorem pairwise_before_linksFrom (index : Nat) (rows : List RelationshipRow) :
    (linksFrom index rows).Pairwise Link.Before := by
  induction rows generalizing index with
  | nil => exact List.Pairwise.nil
  | cons row rest ih =>
      rw [linksFrom, List.pairwise_append]
      refine ⟨row.pairwise_before_links index, ih (index + 1), ?_⟩
      intro link hlink next hnext
      have habove : link.row = index := (mem_links_iff.mp hlink).1
      have hbelow : index + 1 ≤ next.row := (mem_linksFrom_iff.mp hnext).1
      exact Or.inl (by omega)

/-- The links of rows go down with them. -/
theorem linksFrom_add (index more : Nat) (rows : List RelationshipRow) :
    linksFrom (index + more) rows = (linksFrom index rows).map (Link.lowered more) := by
  induction rows generalizing index with
  | nil => rfl
  | cons row rest ih =>
      rw [linksFrom, linksFrom, List.map_append, links_add, Nat.add_right_comm, ih]

/-- The links of more rows follow those of the rows above. -/
theorem linksFrom_append (index : Nat) (rows more : List RelationshipRow) :
    linksFrom index (rows ++ more) =
      linksFrom index rows ++ linksFrom (index + rows.length) more := by
  induction rows generalizing index with
  | nil => rfl
  | cons row rest ih =>
      rw [List.cons_append, linksFrom, linksFrom, ih, List.append_assoc, List.length_cons,
        Nat.add_assoc, Nat.add_comm 1]

end RelationshipRow

namespace RelationshipTable

/-- **The links read off a table are those that it offers.** -/
theorem mem_links_iff {table : RelationshipTable} {link : Link} :
    link ∈ table.links ↔ table.Offers link := by
  rw [links, RelationshipRow.mem_linksFrom_iff, Offers, Nat.sub_zero]
  exact and_iff_right (Nat.zero_le link.row)

/-- **The links of a table stand in strictly increasing order.** -/
theorem pairwise_before_links (table : RelationshipTable) : table.links.Pairwise Link.Before :=
  RelationshipRow.pairwise_before_linksFrom 0 table.rows

/-- Rows that are put below others bring the links that they have by themselves. -/
theorem links_append (mode : TableMode) (rows more : List RelationshipRow) :
    (RelationshipTable.mk mode (rows ++ more)).links =
      (RelationshipTable.mk mode rows).links ++
        (RelationshipTable.mk mode more).links.map (Link.lowered rows.length) := by
  rw [links, links, links, RelationshipRow.linksFrom_append, RelationshipRow.linksFrom_add]

end RelationshipTable

/-! ### Tables of relationships -/

/-- **Relationships are shown completely and in order.**  The table has one row for each of them,
which shows it. Its links follow one another strictly from top to bottom and from left to right, and
they are exactly the links and expand controls that stand in the table, with their addresses. What is
rendered for a longer list is what is rendered for its parts, the one below the other. -/
theorem LinkedTable.shows_relationships_in_order (relationships more : List Relationship)
    (currentId : String) (mode : TableMode) :
    let rendered := ofRelationships relationships currentId mode
    let below := ofRelationships more currentId mode
    let both := ofRelationships (relationships ++ more) currentId mode
    rendered.table.mode = mode ∧
    List.Forall₂ (RelationshipRow.Shows mode (trimmed currentId)) relationships
      rendered.table.rows ∧
    rendered.links.Pairwise Link.Before ∧
    (∀ link, link ∈ rendered.links ↔ rendered.table.Offers link) ∧
    both.table.rows = rendered.table.rows ++ below.table.rows ∧
    both.links = rendered.links ++ below.links.map (Link.lowered relationships.length) := by
  intro rendered below both
  have hrows : both.table.rows = rendered.table.rows ++ below.table.rows := List.map_append
  have hlength : rendered.table.rows.length = relationships.length := List.length_map _
  -- the links are those that can be read off the table
  have hlinks : rendered.links = rendered.table.links :=
    (links_ofRelationships relationships currentId mode).symm
  refine ⟨rfl, ?_, ?_, ?_, hrows, ?_⟩
  · exact List.forall₂_map_right_iff.mpr
      (List.forall₂_same.mpr fun r _ => r.shows_row mode (trimmed currentId))
  · rw [hlinks]
    exact rendered.table.pairwise_before_links
  · intro link
    rw [hlinks]
    exact RelationshipTable.mem_links_iff
  · have happend := RelationshipTable.links_append mode rendered.table.rows below.table.rows
    rw [hlength, ← hrows] at happend
    calc both.links = both.table.links :=
          (links_ofRelationships (relationships ++ more) currentId mode).symm
      _ = rendered.table.links ++ below.table.links.map (Link.lowered relationships.length) := happend
      _ = rendered.links ++ below.links.map (Link.lowered relationships.length) := by
          rw [links_ofRelationships, links_ofRelationships]

end GraphBrowser
