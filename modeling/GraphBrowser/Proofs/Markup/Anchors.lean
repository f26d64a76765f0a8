import GraphBrowser.Markup.Page
import GraphBrowser.Proofs.Markup.Tags

/-!
# The anchors of a page

A page that shows a surface has one anchor for each end that is a link and one for each expand
control, in the order in which they are shown. They are found by reading the text of the page.

## Main definitions

* `Surface.hrefs` — where the links and the expand controls of a surface lead
* `Page.resultHrefs` — where the anchors in the result region of a page lead

## Main statements

* `Block.anchors` — blocks are written with their anchors, and with balanced tags
* `Page.resultHrefs_html` — **the anchors of the result region are those of the surface**

## Design notes

**Anchors are read off the text, not off the pieces.**  What is written into slots could bring in
further tags or close the region too early; that it does not is part of what is shown here.
-/

namespace GraphBrowser

/-! ### Where a surface leads -/

/-- Where one end of a relationship leads, if it is a link. -/
def Endpoint.hrefs (targets : LinkTargets) : Endpoint → List String
  | .thisNode _ => []
  | .link _ url => [targets.node url]

mutual

/-- Where the links and the expand controls of a block lead. -/
def Block.hrefs (targets : LinkTargets) : Block → List String
  | .heading _ => []
  | .properties _ => []
  | .relationships ⟨_, rows⟩ => RelationshipRow.allHrefs targets 0 rows

/-- Where the links and the expand controls of rows lead, from the given number on. -/
def RelationshipRow.allHrefs (targets : LinkTargets) : Nat → List RelationshipRow → List String
  | _, [] => []
  | index, ⟨start, _, finish, none⟩ :: rest =>
    start.hrefs targets ++ finish.hrefs targets ++
      RelationshipRow.allHrefs targets (index + 1) rest
  | index, ⟨start, _, finish, some ⟨target, container⟩⟩ :: rest =>
    start.hrefs targets ++ finish.hrefs targets ++ targets.expand index target ::
      (Block.allHrefs targets container ++ RelationshipRow.allHrefs targets (index + 1) rest)

/-- Where the links and the expand controls of consecutive blocks lead. -/
def Block.allHrefs (targets : LinkTargets) : List Block → List String
  | [] => []
  | block :: rest => block.hrefs targets ++ Block.allHrefs targets rest

end

/-- Where the links and the expand controls of a surface lead. -/
def Surface.hrefs (targets : LinkTargets) (surface : Surface) : List String :=
  Block.allHrefs targets surface.blocks

/-- Where the anchors in the result region of a page lead. -/
def Page.resultHrefs (page : String) : List String :=
  (Tag.division "result" (TagReader.text.read page.toList).2).filterMap Tag.href?

/-! ### Texts with anchors -/

/-- A text outside of tags has anchors that lead to the given targets, and its tags are balanced. -/
def HasAnchors (cs : List Char) (hrefs : List String) : Prop :=
  ∃ tags, TagReader.text.read cs = (.text, tags) ∧ Tag.Balanced tags ∧
    tags.filterMap Tag.href? = hrefs

/-- Whether a tag has to do with neither divisions nor anchors. -/
def Tag.isPlain (tag : Tag) : Bool :=
  !tag.opensDivision && !tag.closesDivision && tag.name != "a".toList

/-- **An anchor leads to what has been escaped into it.** -/
theorem Tag.href?_add {attributes : List (List Char × List Char)}
    (h : attributes.lookup "href".toList = none) (target : String) :
    ((⟨"a".toList, attributes⟩ : Tag).add "href".toList (Text.escape target.toList)).href? =
      some target := by
  rw [href?, name_add, if_pos rfl, attributes_add, List.lookup_append, h, Option.none_or,
    List.lookup_cons_self, Option.map_some, Text.unescape_escape, String.ofList_toList]

namespace HasAnchors

variable {cs ds : List Char} {hrefs more : List String}

theorem append (h : HasAnchors cs hrefs) (h' : HasAnchors ds more) :
    HasAnchors (cs ++ ds) (hrefs ++ more) := by
  obtain ⟨tags, hread, hbalanced, rfl⟩ := h
  obtain ⟨tags', hread', hbalanced', rfl⟩ := h'
  exact ⟨tags ++ tags', TagReader.read_append_of_eq hread hread', hbalanced.append hbalanced',
    List.filterMap_append⟩

/-- Escaped text has no anchors. -/
theorem slot (text : String) : HasAnchors (Piece.slot text).chars [] :=
  ⟨[], TagReader.read_escape_text _, .nil, rfl⟩

/-- A text without divisions and anchors has no anchors. -/
theorem of_isPlain (hread : (TagReader.text.read cs).1 = .text)
    (htags : (TagReader.text.read cs).2.all Tag.isPlain = true) : HasAnchors cs [] := by
  have hplain : ∀ tag ∈ (TagReader.text.read cs).2, tag.opensDivision = false ∧
      tag.closesDivision = false ∧ tag.name ≠ "a".toList := by
    intro tag hmem
    have htag := List.all_eq_true.mp htags tag hmem
    simpa [Tag.isPlain, and_assoc] using htag
  refine ⟨_, Prod.ext hread rfl, .of_forall fun tag hmem => ?_, ?_⟩
  · exact ⟨(hplain tag hmem).1, (hplain tag hmem).2.1⟩
  · rw [List.filterMap_eq_nil_iff]
    intro tag hmem
    rw [Tag.href?, if_neg (hplain tag hmem).2.2]

/-- Markup is a literal, whose characters are taken as they are spelled. -/
theorem markup {cs : List Char} (hread : (TagReader.text.read cs).1 = .text)
    (htags : (TagReader.text.read cs).2.all Tag.isPlain = true) :
    HasAnchors (String.ofList cs).toList [] := by
  rw [String.toList_ofList]
  exact of_isPlain hread htags

/-- **An anchor leads to what is written into it**, whatever characters that has. -/
theorem anchor (attributes : List (List Char × List Char))
    (hread : TagReader.text.read cs = (.quoted ⟨"a".toList, attributes⟩ "href".toList '\'' [], []))
    (hattributes : attributes.lookup "href".toList = none) (target : String) :
    HasAnchors (cs ++ ((Piece.slot target).chars ++ "'>".toList)) [target] := by
  have hcloses : (TagReader.quoted ⟨"a".toList, attributes⟩ "href".toList '\''
      (Text.escape target.toList)).read "'>".toList =
        (.text, [(⟨"a".toList, attributes⟩ : Tag).add "href".toList
          (Text.escape target.toList)]) := TagReader.read_markup rfl
  refine ⟨_, TagReader.read_append_of_eq hread
    (TagReader.read_append_of_eq (TagReader.read_escape_value _ _ _ _) hcloses), ?_, ?_⟩
  · refine .of_forall fun tag hmem => ?_
    rw [List.mem_singleton.mp hmem]
    exact ⟨rfl, rfl⟩
  · rw [List.nil_append, List.nil_append, List.filterMap_cons, Tag.href?_add hattributes]
    rfl

/-- A division has the anchors of what is inside it. -/
theorem division (h : HasAnchors cs hrefs) :
    HasAnchors ("<div class='inlineNode'>".toList ++ (cs ++ "</div>".toList)) hrefs := by
  obtain ⟨tags, hread, hbalanced, rfl⟩ := h
  have hopens : TagReader.text.read "<div class='inlineNode'>".toList =
      (.text, [⟨"div".toList, [("class".toList, "inlineNode".toList)]⟩]) :=
    TagReader.read_markup rfl
  have hcloses : TagReader.text.read "</div>".toList = (.text, [⟨"/div".toList, []⟩]) :=
    TagReader.read_markup rfl
  refine ⟨_, TagReader.read_append_of_eq hopens (TagReader.read_append_of_eq hread hcloses),
    .division rfl rfl rfl hbalanced, ?_⟩
  have hfirst : (⟨"div".toList, [("class".toList, "inlineNode".toList)]⟩ : Tag).href? = none := rfl
  have hlast : (⟨"/div".toList, []⟩ : Tag).href? = none := rfl
  rw [List.singleton_append, List.filterMap_cons, hfirst, List.filterMap_append,
    List.filterMap_cons, hlast]
  exact List.append_nil _

end HasAnchors

/-! ### The anchors of blocks -/

section

variable (targets : LinkTargets)

/-- One end of a relationship has an anchor if it is a link. -/
theorem Endpoint.anchors (endpoint : Endpoint) :
    HasAnchors (Piece.allChars (endpoint.pieces targets)) (endpoint.hrefs targets) := by
  cases endpoint with
  | thisNode label =>
      rw [pieces, Piece.allChars_cons, Piece.allChars_nil, List.append_nil]
      exact .slot label
  | link id url =>
      have hanchor : HasAnchors ("<a class='nodeLink' href='".toList ++
          ((Piece.slot (targets.node url)).chars ++ "'>".toList)) [targets.node url] :=
        .anchor [("class".toList, "nodeLink".toList)] (TagReader.read_markup rfl) rfl _
      have hclosed : HasAnchors "</a>".toList [] := .markup rfl rfl
      have hall := (hanchor.append (.slot id)).append hclosed
      simpa [pieces, hrefs, Piece.chars] using hall

/-- A table of properties has no anchors. -/
theorem PropertyTable.anchors (table : PropertyTable) :
    HasAnchors (Piece.allChars table.pieces) [] := by
  have hrow : ∀ row : PropertyRow, HasAnchors (Piece.allChars row.pieces) [] := by
    intro row
    have hbegins : HasAnchors "<tr><td>".toList [] := .markup rfl rfl
    have hmiddle : HasAnchors "</td><td>".toList [] := .markup rfl rfl
    have hends : HasAnchors "</td></tr>\n".toList [] := .markup rfl rfl
    simpa [PropertyRow.pieces, Piece.chars] using
      hbegins.append ((HasAnchors.slot row.name).append
        (hmiddle.append ((HasAnchors.slot row.value).append hends)))
  have hrows : HasAnchors (Piece.allChars (table.rows.flatMap PropertyRow.pieces)) [] := by
    induction table.rows with
    | nil => exact .of_isPlain rfl rfl
    | cons row rows ih =>
        rw [List.flatMap_cons, Piece.allChars_append]
        exact (hrow row).append ih
  have hbegins : HasAnchors
      "<table class='properties'>\n<tr><th>Name</th><th>Value</th></tr>\n".toList [] :=
    .markup (by decide) (by decide)
  have hends : HasAnchors "</table>\n".toList [] := .markup rfl rfl
  simpa [pieces, Piece.chars] using hbegins.append (hrows.append hends)

/-- The header of a relationship table has no anchors. -/
theorem TableMode.anchors (mode : TableMode) :
    HasAnchors (Piece.allChars mode.headerPieces) [] := by
  have hopens : HasAnchors "<th>".toList [] := .markup rfl rfl
  have hcloses : HasAnchors "</th>".toList [] := .markup rfl rfl
  have hheaders : ∀ headers : List String, (∀ header ∈ headers, HasAnchors header.toList []) →
      HasAnchors (Piece.allChars
        (headers.map fun header => .markup ("<th>" ++ header ++ "</th>"))) [] := by
    intro headers h
    induction headers with
    | nil => exact .of_isPlain rfl rfl
    | cons header headers ih =>
        obtain ⟨hfirst, hrest⟩ := List.forall_mem_cons.mp h
        simpa [Piece.chars] using hopens.append (hfirst.append (hcloses.append (ih hrest)))
  have hplain : ∀ header ∈ mode.headers, HasAnchors header.toList [] := by
    intro header hmem
    have hheader : header ∈ ["Start", "Type", "End", ""] := by
      cases mode with
      | plain => exact List.mem_append_left [""] hmem
      | expanding => exact hmem
    simp only [List.mem_cons, List.not_mem_nil, or_false] at hheader
    rcases hheader with rfl | rfl | rfl | rfl <;> exact .markup rfl rfl
  have hbegins : HasAnchors "<table class='relationships'>\n<tr>".toList [] := .markup rfl rfl
  have hends : HasAnchors "</tr>\n".toList [] := .markup rfl rfl
  simpa [headerPieces, Piece.chars] using
    hbegins.append ((hheaders mode.headers hplain).append hends)

/-- A row has the anchors of its ends up to its expand control. -/
theorem RelationshipRow.anchors (start : Endpoint) (relType : String) (finish : Endpoint) :
    HasAnchors (Piece.allChars (leadPieces targets start relType finish))
      (start.hrefs targets ++ finish.hrefs targets) := by
  have hbegins : HasAnchors "<tr><td>".toList [] := .markup rfl rfl
  have hmiddle : HasAnchors "</td><td>".toList [] := .markup rfl rfl
  have hends : HasAnchors "</td>".toList [] := .markup rfl rfl
  simpa [leadPieces, Piece.chars] using
    hbegins.append ((start.anchors targets).append (hmiddle.append ((HasAnchors.slot relType).append
      (hmiddle.append ((finish.anchors targets).append hends)))))

/-- An expand control has its own anchor and those of its container. -/
theorem Expander.anchors (index : Nat) (target : String) {container : List Piece}
    {hrefs : List String} (h : HasAnchors (Piece.allChars container) hrefs) :
    HasAnchors
      (Piece.allChars (leadPieces targets index target ++ (container ++ [.markup "</div></td>"])))
      (targets.expand index target :: hrefs) := by
  have hcell : HasAnchors "<td>".toList [] := .markup rfl rfl
  have hanchor : HasAnchors ("<a class='inlineExpandingNodeLink' href='".toList ++
      ((Piece.slot (targets.expand index target)).chars ++ "'>".toList))
        [targets.expand index target] :=
    .anchor [("class".toList, "inlineExpandingNodeLink".toList)] (TagReader.read_markup rfl) rfl _
  have hlabel : HasAnchors "+ expand</a>".toList [] := .markup rfl rfl
  have hends : HasAnchors "</td>".toList [] := .markup rfl rfl
  have hall := hcell.append (hanchor.append (hlabel.append (h.division.append hends)))
  simpa [leadPieces, Piece.chars] using hall

mutual

/-- The anchors of a block. -/
theorem Block.anchors : ∀ block : Block,
    HasAnchors (Piece.allChars (block.pieces targets)) (block.hrefs targets)
  | .heading text => by
      have hbegins : HasAnchors "<h2>".toList [] := .markup rfl rfl
      have hends : HasAnchors "</h2>\n".toList [] := .markup rfl rfl
      simpa [Block.pieces, Block.hrefs, Piece.chars] using
        hbegins.append ((HasAnchors.slot text).append hends)
  | .properties table => table.anchors
  | .relationships ⟨mode, rows⟩ => by
      have hends : HasAnchors "</table>\n".toList [] := .markup rfl rfl
      simpa [Block.pieces, Block.hrefs, Piece.chars] using
        mode.anchors.append ((RelationshipRow.allAnchors rows 0).append hends)

/-- The anchors of the rows of a relationship table. -/
theorem RelationshipRow.allAnchors : ∀ (rows : List RelationshipRow) (index : Nat),
    HasAnchors (Piece.allChars (RelationshipRow.allPieces targets index rows))
      (RelationshipRow.allHrefs targets index rows)
  | [], _ => .of_isPlain rfl rfl
  | ⟨start, relType, finish, none⟩ :: rest, index => by
      have hends : HasAnchors "</tr>\n".toList [] := .markup rfl rfl
      simpa [RelationshipRow.allPieces, RelationshipRow.allHrefs, Piece.chars] using
        (RelationshipRow.anchors targets start relType finish).append
          (hends.append (RelationshipRow.allAnchors rest (index + 1)))
  | ⟨start, relType, finish, some ⟨target, container⟩⟩ :: rest, index => by
      have hends : HasAnchors "</tr>\n".toList [] := .markup rfl rfl
      simpa [RelationshipRow.allPieces, RelationshipRow.allHrefs, Piece.chars] using
        (RelationshipRow.anchors targets start relType finish).append
          ((Expander.anchors targets index target (Block.allAnchors container)).append
            (hends.append (RelationshipRow.allAnchors rest (index + 1))))

/-- **Blocks are written with their anchors**, and with balanced tags. -/
theorem Block.allAnchors : ∀ blocks : List Block,
    HasAnchors (Piece.allChars (Block.allPieces targets blocks)) (Block.allHrefs targets blocks)
  | [] => .of_isPlain rfl rfl
  | block :: rest => by
      rw [Block.allPieces, Block.allHrefs, Piece.allChars_append]
      exact (Block.anchors block).append (Block.allAnchors rest)

end

end

/-! ### The anchors of a page -/

namespace Page

/-- A text outside of tags in which the result region does not begin. -/
def IsBeforeResult (cs : List Char) : Prop :=
  ∃ tags, TagReader.text.read cs = (.text, tags) ∧ ∀ tag ∈ tags, tag.opens "result" = false

namespace IsBeforeResult

variable {cs ds : List Char}

theorem append (h : IsBeforeResult cs) (h' : IsBeforeResult ds) : IsBeforeResult (cs ++ ds) := by
  obtain ⟨tags, hread, htags⟩ := h
  obtain ⟨tags', hread', htags'⟩ := h'
  exact ⟨tags ++ tags', TagReader.read_append_of_eq hread hread',
    fun tag hmem => (List.mem_append.mp hmem).elim (htags tag) (htags' tag)⟩

/-- Markup without a result region. -/
theorem markup (hread : (TagReader.text.read cs).1 = .text)
    (htags : (TagReader.text.read cs).2.all (fun tag => !tag.opens "result") = true) :
    IsBeforeResult (String.ofList cs).toList := by
  refine ⟨_, Prod.ext ?_ rfl, fun tag hmem => ?_⟩
  · rw [String.toList_ofList]
    exact hread
  · rw [String.toList_ofList] at hmem
    simpa using List.all_eq_true.mp htags tag hmem

/-- Markup is read in parts. -/
theorem markup_append {first rest : String} (h : IsBeforeResult first.toList)
    (h' : IsBeforeResult rest.toList) : IsBeforeResult (first ++ rest).toList := by
  rw [String.toList_append]
  exact h.append h'

theorem slot (text : String) : IsBeforeResult (Piece.slot text).chars :=
  ⟨[], TagReader.read_escape_text _, fun tag hmem => by cases hmem⟩

/-- The result region does not begin in the controls, whatever is typed into them. -/
theorem controls (controls : Controls) :
    IsBeforeResult (Piece.allChars (controlsPieces controls)) := by
  have hform : IsBeforeResult "<form id='controls' action='/go' method='get'>".toList :=
    .markup (by decide) (by decide)
  have hlabel : IsBeforeResult Controls.label.toList := .markup (by decide) (by decide)
  have hcaption : IsBeforeResult Controls.buttonCaption.toList := .markup (by decide) (by decide)
  have hcloses : IsBeforeResult "</button>\n</form>\n".toList := .markup (by decide) (by decide)
  have hopens : TagReader.text.read " \n<input type='text' name='id' value='".toList =
      (.quoted ⟨"input".toList, [("type".toList, "text".toList), ("name".toList, "id".toList)]⟩
        "value".toList '\'' [], []) := TagReader.read_markup rfl
  have hbutton : (TagReader.quoted
      ⟨"input".toList, [("type".toList, "text".toList), ("name".toList, "id".toList)]⟩
        "value".toList '\'' (Text.escape controls.input.toList)).read "' />\n<button>".toList =
      (.text, [⟨"input".toList, [("type".toList, "text".toList), ("name".toList, "id".toList),
        ("value".toList, Text.escape controls.input.toList)]⟩, ⟨"button".toList, []⟩]) :=
    TagReader.read_markup rfl
  have hinput : IsBeforeResult (" \n<input type='text' name='id' value='".toList ++
      ((Piece.slot controls.input).chars ++ "' />\n<button>".toList)) := by
    refine ⟨_, TagReader.read_append_of_eq hopens
      (TagReader.read_append_of_eq (TagReader.read_escape_value _ _ _ _) hbutton), ?_⟩
    intro tag hmem
    simp only [List.nil_append, List.mem_cons, List.not_mem_nil, or_false] at hmem
    rcases hmem with rfl | rfl <;> rfl
  simpa [controlsPieces, Piece.chars] using
    hform.append (hlabel.append (hinput.append (hcaption.append hcloses)))

/-- Nor does it begin in alerts. -/
theorem alerts (alerts : List Alert) :
    IsBeforeResult (Piece.allChars (alerts.flatMap alertPieces)) := by
  have hbegins : IsBeforeResult "<div class='alert'>".toList := .markup (by decide) (by decide)
  have hends : IsBeforeResult "</div>\n".toList := .markup (by decide) (by decide)
  induction alerts with
  | nil => exact ⟨[], rfl, fun tag hmem => by cases hmem⟩
  | cons alert alerts ih =>
      have halert : IsBeforeResult (Piece.allChars (alertPieces alert)) := by
        simpa [alertPieces, Piece.chars] using
          hbegins.append ((IsBeforeResult.slot alert.message).append hends)
      rw [List.flatMap_cons, Piece.allChars_append]
      exact halert.append ih

end IsBeforeResult

/-- The result region does not begin in the head of a page. -/
theorem isBeforeResult_head : IsBeforeResult head.toList := by
  unfold head
  repeat' with_reducible apply IsBeforeResult.markup_append
  all_goals exact .markup (by decide) (by decide)

/-- **The anchors of the result region are those of the surface**, in the order in which they are
shown, whatever texts the page has. -/
theorem resultHrefs_pieces (targets : LinkTargets) (controls : Controls) (alerts : List Alert)
    (surface : Surface) :
    resultHrefs (Piece.html (pieces controls alerts (surface.pieces targets))) =
      surface.hrefs targets := by
  obtain ⟨before, hbefore, hbefores⟩ :=
    (isBeforeResult_head.append (.controls controls)).append (.alerts alerts)
  obtain ⟨tags, htags, hbalanced, hhrefs⟩ := Block.allAnchors targets surface.blocks
  have hopens : TagReader.text.read "<div id='result'>\n".toList =
      (.text, [⟨"div".toList, [("id".toList, "result".toList)]⟩]) := TagReader.read_markup rfl
  have hcloses : TagReader.text.read "</div>\n</body>\n</html>\n".toList =
      (.text, [⟨"/div".toList, []⟩, ⟨"/body".toList, []⟩, ⟨"/html".toList, []⟩]) :=
    TagReader.read_markup rfl
  have hpage := TagReader.read_append_of_eq hbefore (TagReader.read_append_of_eq hopens
    (TagReader.read_append_of_eq htags hcloses))
  have hchars : Piece.allChars (pieces controls alerts (surface.pieces targets)) =
      head.toList ++ Piece.allChars (controlsPieces controls) ++
        Piece.allChars (alerts.flatMap alertPieces) ++ ("<div id='result'>\n".toList ++
          (Piece.allChars (Block.allPieces targets surface.blocks) ++
            "</div>\n</body>\n</html>\n".toList)) := by
    simp [pieces, Surface.pieces, Piece.chars]
  rw [resultHrefs, Piece.toList_html, hchars, hpage, List.singleton_append]
  rw [Tag.division_eq hbefores rfl hbalanced rfl rfl, hhrefs]
  rfl

/-- **The anchors of a page that is served are those of its surface.** -/
theorem resultHrefs_html (controls : Controls) (alerts : List Alert) (surface : Surface) :
    resultHrefs (html controls alerts surface) = surface.hrefs .hosted :=
  resultHrefs_pieces .hosted controls alerts surface

end Page

end GraphBrowser
