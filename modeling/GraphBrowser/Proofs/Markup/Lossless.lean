import GraphBrowser.Proofs.Markup.Retargeted
import GraphBrowser.Proofs.Text.Escaped

/-!
# Nothing is lost in the text of a surface

Two surfaces with the same text are the same, however their tables are nested and whatever is written
in them. Where the links of the text lead back to the host, the addresses of expand controls are not
written, and these alone may differ.

## Main definitions

* `Text.BeginsWithDelimiter`, `Text.BeginsWithEndTag` — how a text goes on after a slot, and after a
  list
* `BlockKind.opening` — the markup by which the kind of a block is told

## Main statements

* `Text.escape_append_inj` — **a slot ends where the next delimiter is**
* `Block.pieces_append_inj`, `RelationshipRow.allPieces_append_inj`, `Block.allPieces_append_inj` —
  **what is written can be told from what follows it**, by recursion on what is shown
* `Surface.html_injective` — **equal texts are texts of equal surfaces**

## Design notes

**Every statement speaks of what follows as well.**  A block is told from any text that follows it. A
list of rows or of blocks does not say how long it is; it is told from what follows if that begins
with the end of an element, since no row and no block begins so.
-/

namespace GraphBrowser

/-! ### Cutting off the beginning of a text -/

namespace Text

/-- Whether a text begins with a delimiter. -/
def BeginsWithDelimiter (cs : List Char) : Prop := cs.head?.any isDelimiter = true

instance (cs : List Char) : Decidable (BeginsWithDelimiter cs) :=
  inferInstanceAs (Decidable (_ = true))

/-- It does so whatever follows it. -/
theorem BeginsWithDelimiter.append {cs : List Char} (h : BeginsWithDelimiter cs)
    (rest : List Char) : BeginsWithDelimiter (cs ++ rest) := by
  cases cs with
  | nil => cases h
  | cons c cs => exact h

/-- Whether a text begins with the tag at the end of an element. -/
def BeginsWithEndTag (cs : List Char) : Prop := ['<', '/'] <+: cs

instance (cs : List Char) : Decidable (BeginsWithEndTag cs) :=
  inferInstanceAs (Decidable (_ <+: _))

/-- It does so whatever follows it. -/
theorem BeginsWithEndTag.append {cs : List Char} (h : BeginsWithEndTag cs) (rest : List Char) :
    BeginsWithEndTag (cs ++ rest) :=
  List.IsPrefix.trans h (List.prefix_append cs rest)

/-- Such a tag begins with a delimiter. -/
theorem BeginsWithEndTag.beginsWithDelimiter {cs : List Char} (h : BeginsWithEndTag cs) :
    BeginsWithDelimiter cs := by
  obtain ⟨rest, rfl⟩ := h
  rfl

/-- **A slot ends where the next delimiter is.** -/
theorem escape_append_inj {cs ds k k' : List Char} (hk : BeginsWithDelimiter k)
    (hk' : BeginsWithDelimiter k') (h : escape cs ++ k = escape ds ++ k') : cs = ds ∧ k = k' := by
  have hcut : ∀ (es : List Char) {more : List Char}, BeginsWithDelimiter more →
      (escape es ++ more).takeWhile (fun c => !isDelimiter c) = escape es := by
    intro es more hmore
    have hnone : ∀ d ∈ escape es, (!isDelimiter d) = true := by
      intro d hmem
      rw [isDelimiter_of_mem_escape hmem]
      rfl
    rw [List.takeWhile_append_of_pos hnone]
    cases more with
    | nil => cases hmore
    | cons c rest =>
        have hc : isDelimiter c = true := hmore
        rw [List.takeWhile_cons_of_neg (by simp [hc]), List.append_nil]
  have hwritten : escape cs = escape ds := by rw [← hcut cs hk, h, hcut ds hk']
  constructor
  · rw [← unescape_escape cs, hwritten, unescape_escape]
  · rw [hwritten] at h
    exact List.append_cancel_left h

/-- Nothing is in a slot before which there is a delimiter. -/
theorem eq_of_escape_append {cs k k' : List Char} (hk : BeginsWithDelimiter k)
    (hk' : BeginsWithDelimiter k') (h : escape cs ++ k = k') : k = k' :=
  (@escape_append_inj cs [] k k' hk hk' h).2

/-- Texts begin differently if neither of their beginnings begins the other. -/
theorem append_ne_append {cs ds : List Char} (h : ¬ cs <+: ds) (h' : ¬ ds <+: cs)
    (k k' : List Char) : cs ++ k ≠ ds ++ k' := by
  intro heq
  have hcs : cs <+: ds ++ k' := heq ▸ List.prefix_append cs k
  rcases List.prefix_or_prefix_of_prefix hcs (List.prefix_append ds k') with hprefix | hprefix
  · exact h hprefix
  · exact h' hprefix

end Text

/-! ### What is not nested -/

open Text Piece

variable {k k' : List Char}

/-- A slot is told from the markup after it, and so is what follows the markup. -/
theorem Piece.slot_markup_append_inj {text text' source : String}
    (hsource : BeginsWithDelimiter source.toList)
    (h : escape text.toList ++ (source.toList ++ k) = escape text'.toList ++ (source.toList ++ k')) :
    text = text' ∧ k = k' := by
  obtain ⟨htext, hrest⟩ := escape_append_inj (hsource.append k) (hsource.append k') h
  exact ⟨String.toList_inj.mp htext, List.append_cancel_left hrest⟩

/-- A row of properties is told from what follows it. -/
theorem PropertyRow.pieces_append_inj {row row' : PropertyRow}
    (h : allChars row.pieces ++ k = allChars row'.pieces ++ k') : row = row' ∧ k = k' := by
  obtain ⟨name, value⟩ := row
  obtain ⟨name', value'⟩ := row'
  simp only [pieces, allChars_cons, allChars_nil, chars, List.append_assoc, List.nil_append,
    List.append_cancel_left_eq] at h
  obtain ⟨hname, h⟩ := slot_markup_append_inj (by decide) h
  obtain ⟨hvalue, h⟩ := slot_markup_append_inj (by decide) h
  exact ⟨by rw [hname, hvalue], h⟩

/-- No row of properties begins with the end of an element. -/
theorem PropertyRow.pieces_append_ne (row : PropertyRow) (hk : BeginsWithEndTag k) :
    allChars row.pieces ++ k' ≠ k := by
  obtain ⟨rest, rfl⟩ := hk
  simp only [pieces, allChars_cons, chars, List.append_assoc]
  exact append_ne_append (by decide) (by decide) _ _

/-- Rows of properties are told from the end of an element that follows them. -/
theorem PropertyRow.flatMap_pieces_append_inj {rows rows' : List PropertyRow}
    (hk : BeginsWithEndTag k) (hk' : BeginsWithEndTag k')
    (h : allChars (rows.flatMap pieces) ++ k = allChars (rows'.flatMap pieces) ++ k') :
    rows = rows' ∧ k = k' := by
  induction rows generalizing rows' with
  | nil =>
      cases rows' with
      | nil => exact ⟨rfl, h⟩
      | cons row' rest' =>
          rw [List.flatMap_cons, allChars_append, List.append_assoc] at h
          exact absurd h.symm (row'.pieces_append_ne hk)
  | cons row rest ih =>
      rw [List.flatMap_cons, allChars_append, List.append_assoc] at h
      cases rows' with
      | nil => exact absurd h (row.pieces_append_ne hk')
      | cons row' rest' =>
          rw [List.flatMap_cons, allChars_append, List.append_assoc] at h
          obtain ⟨hrow, h⟩ := pieces_append_inj h
          obtain ⟨hrest, h⟩ := ih h
          exact ⟨by rw [hrow, hrest], h⟩

/-- A label is told from a link by what it does not begin with. -/
theorem Endpoint.thisNode_append_ne {label id url : String} (hk : BeginsWithEndTag k) :
    allChars ((thisNode label).pieces .direct) ++ k ≠
      allChars ((link id url).pieces .direct) ++ k' := by
  intro h
  simp only [pieces, allChars_cons, allChars_nil, chars, List.append_assoc, List.nil_append] at h
  have hnext := eq_of_escape_append hk.beginsWithDelimiter (.append (by decide) _) h
  obtain ⟨rest, rfl⟩ := hk
  exact append_ne_append (by decide) (by decide) _ _ hnext

/-- One end of a relationship is told from the end of an element that follows it. -/
theorem Endpoint.pieces_append_inj {endpoint endpoint' : Endpoint} (hk : BeginsWithEndTag k)
    (hk' : BeginsWithEndTag k')
    (h : allChars (endpoint.pieces .direct) ++ k = allChars (endpoint'.pieces .direct) ++ k') :
    endpoint = endpoint' ∧ k = k' := by
  cases endpoint with
  | thisNode label =>
      cases endpoint' with
      | thisNode label' =>
          simp only [pieces, allChars_cons, allChars_nil, chars, List.append_nil] at h
          obtain ⟨hlabel, h⟩ :=
            escape_append_inj hk.beginsWithDelimiter hk'.beginsWithDelimiter h
          rw [String.toList_inj.mp hlabel]
          exact ⟨rfl, h⟩
      | link id' url' => exact absurd h (thisNode_append_ne hk)
  | link id url =>
      cases endpoint' with
      | thisNode label' => exact absurd h.symm (thisNode_append_ne hk')
      | link id' url' =>
          simp only [pieces, LinkTargets.direct, allChars_cons, allChars_nil, chars,
            List.append_assoc, List.nil_append, List.append_cancel_left_eq] at h
          obtain ⟨hurl, h⟩ := slot_markup_append_inj (by decide) h
          obtain ⟨hid, h⟩ := slot_markup_append_inj (by decide) h
          exact ⟨by rw [hurl, hid], h⟩

/-- The mode of a table is told by its headers. -/
theorem TableMode.headerPieces_append_inj {mode mode' : TableMode}
    (h : allChars mode.headerPieces ++ k = allChars mode'.headerPieces ++ k') :
    mode = mode' ∧ k = k' := by
  cases mode with
  | plain =>
      cases mode' with
      | plain => exact ⟨rfl, List.append_cancel_left h⟩
      | expanding => exact absurd h (append_ne_append (by decide) (by decide) _ _)
  | expanding =>
      cases mode' with
      | plain => exact absurd h (append_ne_append (by decide) (by decide) _ _)
      | expanding => exact ⟨rfl, List.append_cancel_left h⟩

/-- The three cells of a row are told from each other and from what follows them. -/
theorem RelationshipRow.leadPieces_append_inj {start start' finish finish' : Endpoint}
    {relType relType' : String}
    (h : allChars (leadPieces .direct start relType finish) ++ k =
      allChars (leadPieces .direct start' relType' finish') ++ k') :
    (start = start' ∧ relType = relType' ∧ finish = finish') ∧ k = k' := by
  have hcell : ∀ rest : List Char, BeginsWithEndTag ("</td><td>".toList ++ rest) :=
    fun rest => .append (by decide) rest
  have hlast : ∀ rest : List Char, BeginsWithEndTag ("</td>".toList ++ rest) :=
    fun rest => .append (by decide) rest
  simp only [leadPieces, allChars_cons, allChars_append, allChars_nil, chars, List.append_assoc,
    List.nil_append, List.append_cancel_left_eq] at h
  obtain ⟨hstart, h⟩ := Endpoint.pieces_append_inj (hcell _) (hcell _) h
  obtain ⟨htype, h⟩ := slot_markup_append_inj (by decide) (List.append_cancel_left h)
  obtain ⟨hfinish, h⟩ := Endpoint.pieces_append_inj (hlast _) (hlast _) h
  exact ⟨⟨hstart, htype, hfinish⟩, List.append_cancel_left h⟩

/-- No row of a relationship table begins with the end of an element. -/
theorem RelationshipRow.leadPieces_append_ne (start : Endpoint) (relType : String)
    (finish : Endpoint) (hk : BeginsWithEndTag k) :
    allChars (leadPieces .direct start relType finish) ++ k' ≠ k := by
  obtain ⟨rest, rfl⟩ := hk
  simp only [leadPieces, allChars_cons, chars, List.append_assoc]
  exact append_ne_append (by decide) (by decide) _ _

/-- So rows, if there are any, are told from the end of an element. -/
theorem RelationshipRow.allPieces_cons_append_ne (row : RelationshipRow)
    (rest : List RelationshipRow) (index : Nat) (hk : BeginsWithEndTag k) :
    allChars (allPieces .direct index (row :: rest)) ++ k' ≠ k := by
  obtain ⟨start, relType, finish, expand⟩ := row
  cases expand with
  | none =>
      rw [allPieces, allChars_append, List.append_assoc]
      exact leadPieces_append_ne start relType finish hk
  | some expander =>
      obtain ⟨target, container⟩ := expander
      rw [allPieces, allChars_append, List.append_assoc]
      exact leadPieces_append_ne start relType finish hk

/-- The address of an expand control is told from what follows it. -/
theorem Expander.leadPieces_append_inj {row : Nat} {target target' : String}
    (h : allChars (leadPieces .direct row target) ++ k =
      allChars (leadPieces .direct row target') ++ k') : target = target' ∧ k = k' := by
  simp only [leadPieces, LinkTargets.direct, allChars_cons, allChars_nil, chars, List.append_assoc,
    List.nil_append, List.append_cancel_left_eq] at h
  exact slot_markup_append_inj (by decide) h

/-- A row that ends is told from one that goes on with an expand control. -/
theorem Expander.leadPieces_append_ne {row : Nat} {target : String} :
    allChars (leadPieces .direct row target) ++ k ≠ "</tr>\n".toList ++ k' := by
  intro h
  simp only [leadPieces, allChars_cons, chars, List.append_assoc] at h
  exact append_ne_append (by decide) (by decide) _ _ h

/-! ### Kinds of blocks -/

/-- The kinds of blocks. -/
inductive BlockKind where
  /-- A heading. -/
  | heading
  /-- A table of properties. -/
  | properties
  /-- A table of relationships. -/
  | relationships
deriving DecidableEq

/-- The markup that blocks of a kind begin with. -/
def BlockKind.opening : BlockKind → List Char
  | .heading => "<h2>".toList
  | .properties => "<table class='properties'>\n<tr><th>Name</th><th>Value</th></tr>\n".toList
  | .relationships => "<table class='relationships'>\n<tr>".toList

/-- The markup of no kind begins that of another. -/
theorem BlockKind.eq_of_comparable {kind kind' : BlockKind}
    (h : kind.opening <+: kind'.opening ∨ kind'.opening <+: kind.opening) : kind = kind' := by
  revert h
  cases kind <;> cases kind' <;> decide

/-- The markup of no kind begins with the end of an element. -/
theorem BlockKind.not_comparable (kind : BlockKind) :
    ¬ (['<', '/'] <+: kind.opening ∨ kind.opening <+: ['<', '/']) := by
  cases kind <;> decide

namespace Block

/-- The kind of a block. -/
def kind : Block → BlockKind
  | .heading _ => .heading
  | .properties _ => .properties
  | .relationships _ => .relationships

/-- The text of a block begins with the markup of its kind. -/
theorem opening_isPrefix (block : Block) (k : List Char) :
    block.kind.opening <+: allChars (block.pieces .direct) ++ k := by
  cases block with
  | heading text =>
      simp only [pieces, allChars_cons, chars, List.append_assoc]
      exact List.prefix_append _ _
  | properties table =>
      simp only [pieces, PropertyTable.pieces, allChars_cons, chars, List.append_assoc]
      exact List.prefix_append _ _
  | relationships table =>
      obtain ⟨mode, rows⟩ := table
      simp only [pieces, TableMode.headerPieces, allChars_cons, allChars_append, chars,
        List.append_assoc]
      exact List.prefix_append _ _

/-- **Blocks of different kinds are told from each other.** -/
theorem kind_eq_of_append_eq {block block' : Block}
    (h : allChars (block.pieces .direct) ++ k = allChars (block'.pieces .direct) ++ k') :
    block.kind = block'.kind := by
  have hprefix : block.kind.opening <+: allChars (block'.pieces .direct) ++ k' :=
    h ▸ block.opening_isPrefix k
  exact BlockKind.eq_of_comparable
    (List.prefix_or_prefix_of_prefix hprefix (block'.opening_isPrefix k'))

/-- No block begins with the end of an element. -/
theorem pieces_append_ne (block : Block) (hk : BeginsWithEndTag k) :
    allChars (block.pieces .direct) ++ k' ≠ k := by
  rintro rfl
  exact block.kind.not_comparable
    (List.prefix_or_prefix_of_prefix hk (block.opening_isPrefix k'))

/-- A table of properties is told from what follows it. -/
theorem properties_append_inj {table table' : PropertyTable}
    (h : allChars ((properties table).pieces .direct) ++ k =
      allChars ((properties table').pieces .direct) ++ k') : table = table' ∧ k = k' := by
  obtain ⟨rows⟩ := table
  obtain ⟨rows'⟩ := table'
  simp only [pieces, PropertyTable.pieces, allChars_cons, allChars_append, allChars_nil, chars,
    List.append_assoc, List.nil_append, List.append_cancel_left_eq] at h
  obtain ⟨hrows, h⟩ := PropertyRow.flatMap_pieces_append_inj (.append (by decide) _)
    (.append (by decide) _) h
  exact ⟨by rw [hrows], List.append_cancel_left h⟩

end Block

/-! ### What is nested -/

mutual

/-- A block is told from what follows it. -/
theorem Block.pieces_append_inj : ∀ (block block' : Block) {k k' : List Char},
    allChars (block.pieces .direct) ++ k = allChars (block'.pieces .direct) ++ k' →
    block = block' ∧ k = k'
  | .heading text, .heading text', _, _, h => by
      simp only [Block.pieces, allChars_cons, allChars_nil, chars, List.append_assoc,
        List.nil_append, List.append_cancel_left_eq] at h
      obtain ⟨htext, h⟩ := slot_markup_append_inj (by decide) h
      exact ⟨by rw [htext], h⟩
  | .properties table, .properties table', _, _, h => by
      obtain ⟨htable, h⟩ := Block.properties_append_inj h
      exact ⟨by rw [htable], h⟩
  | .relationships ⟨mode, rows⟩, .relationships ⟨mode', rows'⟩, _, _, h => by
      simp only [Block.pieces, allChars_append, allChars_cons, allChars_nil, chars,
        List.append_assoc, List.nil_append] at h
      obtain ⟨hmode, h⟩ := TableMode.headerPieces_append_inj h
      obtain ⟨hrows, h⟩ := RelationshipRow.allPieces_append_inj rows rows' 0
        (.append (by decide) _) (.append (by decide) _) h
      exact ⟨by rw [hmode, hrows], List.append_cancel_left h⟩
  | .heading _, .properties _, _, _, h => nomatch Block.kind_eq_of_append_eq h
  | .heading _, .relationships _, _, _, h => nomatch Block.kind_eq_of_append_eq h
  | .properties _, .heading _, _, _, h => nomatch Block.kind_eq_of_append_eq h
  | .properties _, .relationships _, _, _, h => nomatch Block.kind_eq_of_append_eq h
  | .relationships _, .heading _, _, _, h => nomatch Block.kind_eq_of_append_eq h
  | .relationships _, .properties _, _, _, h => nomatch Block.kind_eq_of_append_eq h

/-- The rows of a relationship table are told from the end of an element that follows them. -/
theorem RelationshipRow.allPieces_append_inj : ∀ (rows rows' : List RelationshipRow) (index : Nat)
    {k k' : List Char}, BeginsWithEndTag k → BeginsWithEndTag k' →
    allChars (RelationshipRow.allPieces .direct index rows) ++ k =
      allChars (RelationshipRow.allPieces .direct index rows') ++ k' →
    rows = rows' ∧ k = k'
  | [], [], _, _, _, _, _, h => ⟨rfl, h⟩
  | [], row' :: rest', index, _, _, hk, _, h =>
      absurd h.symm (RelationshipRow.allPieces_cons_append_ne row' rest' index hk)
  | row :: rest, [], index, _, _, _, hk', h =>
      absurd h (RelationshipRow.allPieces_cons_append_ne row rest index hk')
  | ⟨start, relType, finish, none⟩ :: rest, ⟨start', relType', finish', none⟩ :: rest', index, _, _,
      hk, hk', h => by
      simp only [RelationshipRow.allPieces, allChars_append, allChars_cons, chars,
        List.append_assoc] at h
      obtain ⟨⟨hstart, htype, hfinish⟩, h⟩ := RelationshipRow.leadPieces_append_inj h
      obtain ⟨hrest, h⟩ := RelationshipRow.allPieces_append_inj rest rest' (index + 1) hk hk'
        (List.append_cancel_left h)
      exact ⟨by rw [hstart, htype, hfinish, hrest], h⟩
  | ⟨start, relType, finish, none⟩ :: rest,
      ⟨start', relType', finish', some ⟨target', container'⟩⟩ :: rest', index, _, _, _, _, h => by
      simp only [RelationshipRow.allPieces, allChars_append, allChars_cons, chars,
        List.append_assoc] at h
      obtain ⟨-, h⟩ := RelationshipRow.leadPieces_append_inj h
      exact absurd h.symm Expander.leadPieces_append_ne
  | ⟨start, relType, finish, some ⟨target, container⟩⟩ :: rest,
      ⟨start', relType', finish', none⟩ :: rest', index, _, _, _, _, h => by
      simp only [RelationshipRow.allPieces, allChars_append, allChars_cons, chars,
        List.append_assoc] at h
      obtain ⟨-, h⟩ := RelationshipRow.leadPieces_append_inj h
      exact absurd h Expander.leadPieces_append_ne
  | ⟨start, relType, finish, some ⟨target, container⟩⟩ :: rest,
      ⟨start', relType', finish', some ⟨target', container'⟩⟩ :: rest', index, _, _, hk, hk', h => by
      simp only [RelationshipRow.allPieces, allChars_append, allChars_cons, chars,
        List.append_assoc] at h
      obtain ⟨⟨hstart, htype, hfinish⟩, h⟩ := RelationshipRow.leadPieces_append_inj h
      obtain ⟨htarget, h⟩ := Expander.leadPieces_append_inj h
      obtain ⟨hcontainer, h⟩ := Block.allPieces_append_inj container container'
        (.append (by decide) _) (.append (by decide) _) h
      obtain ⟨hrest, h⟩ := RelationshipRow.allPieces_append_inj rest rest' (index + 1) hk hk'
        (List.append_cancel_left (List.append_cancel_left h))
      exact ⟨by rw [hstart, htype, hfinish, htarget, hcontainer, hrest], h⟩

/-- Consecutive blocks are told from the end of an element that follows them. -/
theorem Block.allPieces_append_inj : ∀ (blocks blocks' : List Block) {k k' : List Char},
    BeginsWithEndTag k → BeginsWithEndTag k' →
    allChars (Block.allPieces .direct blocks) ++ k =
      allChars (Block.allPieces .direct blocks') ++ k' →
    blocks = blocks' ∧ k = k'
  | [], [], _, _, _, _, h => ⟨rfl, h⟩
  | [], block' :: rest', _, _, hk, _, h => by
      simp only [Block.allPieces, allChars_append, List.append_assoc] at h
      exact absurd h.symm (block'.pieces_append_ne hk)
  | block :: rest, [], _, _, _, hk', h => by
      simp only [Block.allPieces, allChars_append, List.append_assoc] at h
      exact absurd h (block.pieces_append_ne hk')
  | block :: rest, block' :: rest', _, _, hk, hk', h => by
      rw [Block.allPieces, Block.allPieces, allChars_append, allChars_append, List.append_assoc,
        List.append_assoc] at h
      obtain ⟨hblock, h⟩ := Block.pieces_append_inj block block' h
      obtain ⟨hrest, h⟩ := Block.allPieces_append_inj rest rest' hk hk' h
      exact ⟨by rw [hblock, hrest], h⟩

end

/-! ### Surfaces -/

namespace Surface

/-- A surface is read back from its direct pieces. -/
theorem eq_of_html_direct_eq {surface other : Surface}
    (h : surface.html .direct = other.html .direct) : surface = other := by
  have htexts : allChars (surface.pieces .direct) = allChars (other.pieces .direct) := by
    rw [← toList_html, ← toList_html]
    exact congrArg String.toList h
  -- the end of an element is added, since the end of a text is none
  have hended : allChars (Block.allPieces .direct surface.blocks) ++ "</".toList =
      allChars (Block.allPieces .direct other.blocks) ++ "</".toList :=
    congrArg (· ++ _) htexts
  have hblocks : surface.blocks = other.blocks :=
    (Block.allPieces_append_inj surface.blocks other.blocks (by decide) (by decide) hended).1
  exact congrArg Surface.mk hblocks

/-- **Nothing is lost in the text of a surface.**  Where links lead straight to the store, equal texts
are texts of equal surfaces. Where they lead back to the host, equal texts are those of surfaces that
differ in the addresses of expand controls at most. Whatever is shown is shown in tables of any mode
that are nested to any depth, and may hold any texts. -/
theorem html_injective (surface other : Surface) :
    (surface.html .direct = other.html .direct ↔ surface = other) ∧
    (surface.html .hosted = other.html .hosted ↔
      surface.withoutExpandTargets = other.withoutExpandTargets) := by
  have hhosted : ∀ s : Surface, s.html .hosted = (s.retarget .hosted).html .direct := by
    intro s
    rw [html, html, pieces_eq]
  constructor
  · constructor
    · exact eq_of_html_direct_eq
    · intro h
      rw [h]
  · rw [hhosted surface, hhosted other, ← retarget_hosted_eq_iff]
    constructor
    · exact eq_of_html_direct_eq
    · intro h
      rw [h]

/-- At the host an expand control leads to its row, wherever it led before. -/
example (target other : String) :
    html .hosted ⟨[.relationships
      ⟨.expanding, [⟨.thisNode "thisNode", "KNOWS", .link "3" "/node/3", some ⟨target, []⟩⟩]⟩]⟩ =
    html .hosted ⟨[.relationships
      ⟨.expanding, [⟨.thisNode "thisNode", "KNOWS", .link "3" "/node/3", some ⟨other, []⟩⟩]⟩]⟩ :=
  rfl

end Surface

end GraphBrowser
