import GraphBrowser.Markup.Display
import GraphBrowser.Proofs.Json.Members
import GraphBrowser.View.Properties

/-!
# Tables of properties present objects

A node has its properties in an object. What is kept of the object, what is looked up in it and what
is shown as a table are three views of the same members, and the order in which the members were sent
cannot be told from any of them.

## Main statements

* `Properties.get?_ofList` — **a lookup finds the last value that was given for a name**
* `Properties.mem_rows_table_iff` — **a row shows what a lookup of its name finds**
* `Properties.table_presents_members` — what the properties of an object and their table show, and
  that they do not depend on the order of different names
-/

namespace GraphBrowser.Properties

/-- The rows of the table have the names of the properties, in the same order. -/
theorem map_name_rows_table (properties : Properties) :
    properties.table.rows.map (·.name) = properties.entries.map (·.1) := by
  unfold table
  rw [List.map_map]
  rfl

/-- The properties for sorted members are sorted. -/
theorem isSorted_entries_ofMembers {members : List (String × Json)} (h : Members.IsSorted members) :
    Members.IsSorted (ofMembers members).entries := by
  unfold Members.IsSorted ofMembers
  rw [List.pairwise_map]
  exact h

section

variable {properties : Properties} (h : Members.IsSorted properties.entries)

include h

/-- If the names ascend, a lookup finds the only entry of a name. -/
theorem get?_eq_some_iff {name : String} {value : PropertyValue} :
    properties.get? name = some value ↔ (name, value) ∈ properties.entries :=
  Members.find?_eq_some_iff h

/-- **If the names ascend, a row shows what a lookup of its name finds.** -/
theorem mem_rows_table_iff {name text : String} :
    ⟨name, text⟩ ∈ properties.table.rows ↔
      (properties.get? name).map (·.display) = some text := by
  unfold table
  rw [List.mem_map, Option.map_eq_some_iff]
  constructor
  · rintro ⟨⟨_, value⟩, hmem, hrow⟩
    obtain ⟨rfl, rfl⟩ := PropertyRow.mk.inj hrow
    exact ⟨value, (get?_eq_some_iff h).mpr hmem, rfl⟩
  · rintro ⟨value, hget, rfl⟩
    exact ⟨(name, value), (get?_eq_some_iff h).mp hget, rfl⟩

end

/-- **A lookup finds the last value that was given for a name.** -/
theorem get?_ofList (given : List (String × Json)) (name : String) :
    (ofMembers (Members.ofList given)).get? name =
      (Members.values given name).getLast?.map .ofJson := by
  ext value
  rw [get?_eq_some_iff (isSorted_entries_ofMembers (Members.isSorted_ofList given)),
    Option.map_eq_some_iff]
  unfold ofMembers
  rw [List.mem_map]
  constructor
  · rintro ⟨⟨_, json⟩, hmem, hentry⟩
    obtain ⟨rfl, rfl⟩ := Prod.mk.inj hentry
    exact ⟨json, Members.mem_ofList_iff.mp hmem, rfl⟩
  · rintro ⟨json, hlast, rfl⟩
    exact ⟨(name, json), Members.mem_ofList_iff.mpr hlast, rfl⟩

/-- A name is found exactly if it was given. -/
theorem isSome_get?_ofList (given : List (String × Json)) (name : String) :
    ((ofMembers (Members.ofList given)).get? name).isSome = true ↔ name ∈ given.map (·.1) := by
  rw [get?_ofList, Option.isSome_map, List.getLast?_isSome, Members.values_ne_nil_iff]

/-- The names of the properties are the names that were given. -/
theorem mem_names_ofList {given : List (String × Json)} {name : String} :
    name ∈ (ofMembers (Members.ofList given)).entries.map (·.1) ↔ name ∈ given.map (·.1) := by
  have hsorted := isSorted_entries_ofMembers (Members.isSorted_ofList given)
  rw [← isSome_get?_ofList, Option.isSome_iff_exists, List.mem_map]
  constructor
  · rintro ⟨⟨_, value⟩, hmem, rfl⟩
    exact ⟨value, (get?_eq_some_iff hsorted).mpr hmem⟩
  · rintro ⟨value, hget⟩
    exact ⟨(name, value), (get?_eq_some_iff hsorted).mp hget, rfl⟩

/-- **The properties of an object and their table present its members.**  They have the same names,
which ascend by their bytes, and each name that was given once. A lookup finds exactly these names,
the last value that was given for each, and the row of a name shows the value that is found. If the
members are given in another order, in which those of one name follow each other as before, then the
properties, their table and its markup are the same. -/
theorem table_presents_members (given : List (String × Json)) :
    let properties := ofMembers (Members.ofList given)
    let names := properties.table.rows.map (·.name)
    names = properties.entries.map (·.1) ∧
    names.Pairwise (fun first second => Utf8.bytes first < Utf8.bytes second) ∧
    (∀ name, names.count name = if name ∈ given.map (·.1) then 1 else 0) ∧
    (∀ name, (properties.get? name).isSome = true ↔ name ∈ given.map (·.1)) ∧
    (∀ name, properties.get? name = (Members.values given name).getLast?.map .ofJson) ∧
    (∀ name text, ⟨name, text⟩ ∈ properties.table.rows ↔
      (properties.get? name).map (·.display) = some text) ∧
    ∀ other, Members.Reordered given other →
      let reordered := ofMembers (Members.ofList other)
      reordered = properties ∧ reordered.table = properties.table ∧
        ∀ targets, Block.html targets reordered.blocks = Block.html targets properties.blocks := by
  intro properties names
  have hsorted : Members.IsSorted properties.entries :=
    isSorted_entries_ofMembers (Members.isSorted_ofList given)
  have hnames : names = properties.entries.map (·.1) := map_name_rows_table properties
  refine ⟨hnames, ?_, ?_, isSome_get?_ofList given, get?_ofList given,
    fun name text => mem_rows_table_iff hsorted, ?_⟩
  · rw [hnames, List.pairwise_map]
    exact hsorted.imp Members.keyBefore_iff.mp
  · intro name
    rw [hnames, hsorted.nodup_keys.count]
    simp only [mem_names_ofList, properties]
  · intro other hother reordered
    have hsame : reordered = properties :=
      congrArg ofMembers (Members.ofList_eq_of_reordered hother)
    rw [hsame]
    exact ⟨rfl, rfl, fun targets => rfl⟩

/-- One name is given twice, and a name beyond ASCII is given before or between the two. Its row is the
last one all the same, and the row of the other name shows the value that was given last. -/
theorem table_presents_repeated_names :
    let given : List (String × Json) :=
      [("ß", .string "2"), ("b", .string "1"), ("b", .array [.null]), ("a", .string "0")]
    let other : List (String × Json) :=
      [("b", .string "1"), ("ß", .string "2"), ("b", .array [.null]), ("a", .string "0")]
    let properties := ofMembers (Members.ofList given)
    let reordered := ofMembers (Members.ofList other)
    Members.Reordered given other ∧
    reordered.table = ⟨[⟨"a", "0"⟩, ⟨"b", "[null]"⟩, ⟨"ß", "2"⟩]⟩ ∧
    (reordered.table.rows.map (·.name)).count "b" = 1 ∧
    (properties.get? "b").map (·.display) = some "[null]" ∧
    Block.html .direct reordered.blocks = Block.html .direct properties.blocks := by
  intro given other properties reordered
  have hother : Members.Reordered given other := Members.Reordered.swap [] (by decide) _
  obtain ⟨-, -, hcount, -, -, hrow, hreordered⟩ := table_presents_members given
  obtain ⟨-, htable, hhtml⟩ := hreordered other hother
  have hproperties : properties.table = ⟨[⟨"a", "0"⟩, ⟨"b", "[null]"⟩, ⟨"ß", "2"⟩]⟩ := by
    decide +kernel
  refine ⟨hother, htable.trans hproperties, ?_, ?_, hhtml .direct⟩
  · rw [htable]
    exact hcount "b"
  · apply (hrow "b" "[null]").mp
    rw [hproperties]
    simp

end GraphBrowser.Properties
