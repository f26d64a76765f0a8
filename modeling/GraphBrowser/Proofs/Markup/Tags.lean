import GraphBrowser.Proofs.Text.Escaped

/-!
# Reading the tags of a page

Whoever shows a page reads its text from left to right and tells tags from what is between them.
This is said here without regard to how the text has been written.

## Main definitions

* `Tag` — the name of a tag with its attributes
* `TagReader`, `TagReader.read` — where in the text a reader is, and the tags that are met
* `Tag.division` — the tags inside the division with an id
* `Tag.href?` — where an anchor leads

## Main statements

* `TagReader.read_append` — a text may be read in parts
* `TagReader.read_escape_text`, `TagReader.read_escape_value` — **escaped text neither begins a tag
  nor ends the value of an attribute**
* `Tag.Balanced` — what closes all divisions that it opens, and no other

## Design notes

There are neither comments nor elements with raw text, for the pages of the host have none that hold
a `<`.
-/

namespace GraphBrowser

/-- A tag as it is written. The name of a tag that closes an element begins with a slash. -/
structure Tag where
  /-- The name. -/
  name : List Char
  /-- The attributes with their values, as these are written. -/
  attributes : List (List Char × List Char) := []
deriving Repr, DecidableEq

/-- The tag with one more attribute. -/
def Tag.add (tag : Tag) (name value : List Char) : Tag :=
  { tag with attributes := tag.attributes ++ [(name, value)] }

@[simp] theorem Tag.name_add (tag : Tag) (name value : List Char) :
    (tag.add name value).name = tag.name := rfl

@[simp] theorem Tag.attributes_add (tag : Tag) (name value : List Char) :
    (tag.add name value).attributes = tag.attributes ++ [(name, value)] := rfl

/-- Where a reader is. -/
inductive TagReader where
  /-- Between two tags. -/
  | text
  /-- In the name of a tag. -/
  | tagName (name : List Char)
  /-- In a tag, before an attribute. -/
  | gap (tag : Tag)
  /-- In the name of an attribute. -/
  | attributeName (tag : Tag) (name : List Char)
  /-- Before the value of an attribute. -/
  | opening (tag : Tag) (name : List Char)
  /-- In the value of an attribute, which ends with a quote. -/
  | quoted (tag : Tag) (name : List Char) (quote : Char) (value : List Char)
  /-- In the value of an attribute without quotes. -/
  | bare (tag : Tag) (name value : List Char)
deriving Repr, DecidableEq

namespace TagReader

/-- Where the reader is after a character, with the tag that ends there. -/
def step : TagReader → Char → TagReader × List Tag
  | .text, c => if c = '<' then (.tagName [], []) else (.text, [])
  | .tagName name, c =>
    if c = '>' then (.text, [⟨name, []⟩])
    else if c.isWhitespace then (.gap ⟨name, []⟩, [])
    else (.tagName (name ++ [c]), [])
  | .gap tag, c =>
    if c = '>' then (.text, [tag])
    else if c.isWhitespace || c == '/' then (.gap tag, [])
    else (.attributeName tag [c], [])
  | .attributeName tag name, c =>
    if c = '>' then (.text, [tag.add name []])
    else if c = '=' then (.opening tag name, [])
    else if c.isWhitespace then (.gap (tag.add name []), [])
    else (.attributeName tag (name ++ [c]), [])
  | .opening tag name, c =>
    if c = '>' then (.text, [tag.add name []])
    else if c == '\'' || c == '"' then (.quoted tag name c [], [])
    else (.bare tag name [c], [])
  | .quoted tag name quote value, c =>
    if c = quote then (.gap (tag.add name value), [])
    else (.quoted tag name quote (value ++ [c]), [])
  | .bare tag name value, c =>
    if c = '>' then (.text, [tag.add name value])
    else if c.isWhitespace then (.gap (tag.add name value), [])
    else (.bare tag name (value ++ [c]), [])

/-- Where the reader is after a text, with the tags that end in it, in order. -/
def read (reader : TagReader) : List Char → TagReader × List Tag
  | [] => (reader, [])
  | c :: cs =>
    let first := reader.step c
    let rest := first.1.read cs
    (rest.1, first.2 ++ rest.2)

/-- **A text may be read in parts.** -/
theorem read_append (reader : TagReader) (cs ds : List Char) :
    reader.read (cs ++ ds) =
      (((reader.read cs).1.read ds).1, (reader.read cs).2 ++ ((reader.read cs).1.read ds).2) := by
  induction cs generalizing reader with
  | nil => rfl
  | cons c cs ih => simp only [List.cons_append, read, ih, List.append_assoc]

/-- A text is read in parts, the second one from where the first one ends. -/
theorem read_append_of_eq {reader between after : TagReader} {cs ds : List Char}
    {tags more : List Tag} (h : reader.read cs = (between, tags))
    (h' : between.read ds = (after, more)) : reader.read (cs ++ ds) = (after, tags ++ more) := by
  rw [read_append, h, h']

/-- Markup is a literal, whose characters are read as they are spelled. -/
theorem read_markup {reader after : TagReader} {cs : List Char} {tags : List Tag}
    (h : reader.read cs = (after, tags)) :
    reader.read (String.ofList cs).toList = (after, tags) := by
  rw [String.toList_ofList, h]

/-- **Escaped text does not begin a tag.** -/
theorem read_escape_text (cs : List Char) :
    TagReader.text.read (Text.escape cs) = (.text, []) := by
  have hread : ∀ ds : List Char, (∀ d ∈ ds, Text.isDelimiter d = false) →
      TagReader.text.read ds = (.text, []) := by
    intro ds hds
    induction ds with
    | nil => rfl
    | cons d ds ih =>
        obtain ⟨hfirst, hrest⟩ := List.forall_mem_cons.mp hds
        have hne : d ≠ '<' := by
          rintro rfl
          cases hfirst
        rw [read, step, if_neg hne, ih hrest]
        rfl
  exact hread _ fun d => Text.isDelimiter_of_mem_escape

/-- **Escaped text does not end the value of an attribute** in single quotes. -/
theorem read_escape_value (tag : Tag) (name value cs : List Char) :
    (TagReader.quoted tag name '\'' value).read (Text.escape cs) =
      (.quoted tag name '\'' (value ++ Text.escape cs), []) := by
  have hread : ∀ (value ds : List Char), (∀ d ∈ ds, Text.isDelimiter d = false) →
      (TagReader.quoted tag name '\'' value).read ds =
        (.quoted tag name '\'' (value ++ ds), []) := by
    intro value ds hds
    induction ds generalizing value with
    | nil => rw [List.append_nil]; rfl
    | cons d ds ih =>
        obtain ⟨hfirst, hrest⟩ := List.forall_mem_cons.mp hds
        have hne : d ≠ '\'' := by
          rintro rfl
          cases hfirst
        rw [read, step, if_neg hne, ih _ hrest, List.append_assoc]
        rfl
  exact hread value _ fun d => Text.isDelimiter_of_mem_escape

end TagReader

namespace Tag

/-! ### Divisions -/

/-- Whether the tag opens a division. -/
def opensDivision (tag : Tag) : Bool := tag.name == "div".toList

/-- Whether the tag closes a division. -/
def closesDivision (tag : Tag) : Bool := tag.name == "/div".toList

/-- Whether the tag opens the division with an id. -/
def opens (id : String) (tag : Tag) : Bool :=
  tag.opensDivision && tag.attributes.lookup "id".toList == some id.toList

/-- The tags up to the one that closes the division that is open, when as many divisions as given
are open inside it. -/
def insideDivision : Nat → List Tag → List Tag
  | _, [] => []
  | depth, tag :: tags =>
    if tag.opensDivision then tag :: insideDivision (depth + 1) tags
    else if tag.closesDivision then
      if depth = 0 then [] else tag :: insideDivision (depth - 1) tags
    else tag :: insideDivision depth tags

/-- The tags inside the division with an id, none if there is no such division. -/
def division (id : String) (tags : List Tag) : List Tag :=
  insideDivision 0 ((tags.dropWhile fun tag => !tag.opens id).drop 1)

/-- Tags that close all divisions that they open, and no other. -/
def Balanced (tags : List Tag) : Prop :=
  ∀ depth rest, insideDivision depth (tags ++ rest) = tags ++ insideDivision depth rest

namespace Balanced

theorem nil : Balanced [] := fun _ _ => rfl

theorem append {tags more : List Tag} (h : Balanced tags) (h' : Balanced more) :
    Balanced (tags ++ more) := by
  intro depth rest
  rw [List.append_assoc, h, h', List.append_assoc]

/-- Tags that have to do with no division are balanced. -/
theorem of_forall {tags : List Tag}
    (h : ∀ tag ∈ tags, tag.opensDivision = false ∧ tag.closesDivision = false) :
    Balanced tags := by
  induction tags with
  | nil => exact nil
  | cons tag tags ih =>
      obtain ⟨⟨hopens, hcloses⟩, hrest⟩ := List.forall_mem_cons.mp h
      intro depth rest
      rw [List.cons_append, insideDivision, hopens, hcloses, if_neg Bool.false_ne_true,
        if_neg Bool.false_ne_true, ih hrest]
      rfl

/-- A division with balanced tags inside it is balanced. -/
theorem division {first last : Tag} {tags : List Tag} (hfirst : first.opensDivision = true)
    (hopens : last.opensDivision = false) (hlast : last.closesDivision = true)
    (h : Balanced tags) : Balanced (first :: (tags ++ [last])) := by
  intro depth rest
  rw [List.cons_append, insideDivision, if_pos hfirst, List.append_assoc, h, List.singleton_append,
    insideDivision, hopens, if_neg Bool.false_ne_true, if_pos hlast,
    if_neg (Nat.succ_ne_zero depth)]
  simp

end Balanced

/-- **A division ends where its tags are balanced.** -/
theorem division_eq {id : String} {before tags after : List Tag} {first last : Tag}
    (hbefore : ∀ tag ∈ before, tag.opens id = false) (hfirst : first.opens id = true)
    (htags : Balanced tags) (hopens : last.opensDivision = false)
    (hlast : last.closesDivision = true) :
    division id (before ++ first :: (tags ++ last :: after)) = tags := by
  have hskipped : ∀ tag ∈ before, (!tag.opens id) = true := by
    intro tag hmem
    rw [hbefore tag hmem]
    rfl
  rw [division, List.dropWhile_append_of_pos hskipped,
    List.dropWhile_cons_of_neg (by rw [hfirst]; exact Bool.false_ne_true), List.drop_one,
    List.tail_cons, htags, insideDivision, hopens, if_neg Bool.false_ne_true, if_pos hlast,
    if_pos rfl, List.append_nil]

/-! ### Anchors -/

/-- Where a tag leads if it opens an anchor that leads anywhere. -/
def href? (tag : Tag) : Option String :=
  if tag.name = "a".toList then
    (tag.attributes.lookup "href".toList).map fun written =>
      String.ofList (Text.unescape written)
  else none

end Tag

end GraphBrowser
