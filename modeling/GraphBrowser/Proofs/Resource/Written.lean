import GraphBrowser.Resource.Node
import GraphBrowser.Resource.Relationship
import Mathlib.Data.List.Forall2

/-!
# How resources are written

The bodies of the store are records. A record may be written in two ways: as an object that has its
fields among its members, and as the array of the values of its fields. Everything else is malformed.

## Main definitions

* `NodeRecord.WrittenAs`, `Relationship.WrittenAs` — the values that a record may be written as

## Main statements

* `NodeRecord.ofJson_eq_ok_iff`, `Relationship.ofJson_eq_ok_iff` — **a value is decoded as a record
  exactly if the record may be written so**
* `Relationship.ofJsonList_eq_ok_iff` — the same for lists, element by element
* `resources_decoded_iff_written` — what this means for the body that was fetched from an address
* `arrays_decoded_as_records` — objects are not the only bodies that are decoded

## Design notes

**What is decoded is said by how it is written**, so that the order of the checks, on which the
wording of errors depends, plays no part. A member that is no field is ignored in an object, whereas an
array must not hold more than the fields.
-/

namespace GraphBrowser

/-! ### Steps of a decoder -/

namespace Decode

variable {α β : Type}

/-- Two steps succeed exactly if the first one does and the second one does with its value. -/
theorem bind_eq_ok_iff {step : Except DecodingError α} {next : α → Except DecodingError β} {b : β} :
    step >>= next = .ok b ↔ ∃ a, step = .ok a ∧ next a = .ok b := by
  cases step <;> simp [bind, Except.bind]

/-- A last step succeeds with its value. -/
theorem pure_eq_ok_iff {a b : α} : (pure a : Except DecodingError α) = .ok b ↔ a = b := by
  simp [pure, Except.pure]

/-- Only strings are decoded as strings. -/
theorem string_eq_ok_iff {json : Json} {s : String} : string json = .ok s ↔ json = .string s := by
  cases json <;> simp [string]

/-- Only objects are decoded as members. -/
theorem members_eq_ok_iff {json : Json} {found : List (String × Json)} :
    members json = .ok found ↔ json = .object found := by
  cases json <;> simp [members]

/-- Only arrays are decoded as elements. -/
theorem elements_eq_ok_iff {json : Json} {found : List Json} :
    elements json = .ok found ↔ json = .array found := by
  cases json <;> simp [elements]

/-- A field that is written in one form is found exactly if its name has a value of this form. -/
theorem optional_eq_ok_some_iff {decode : Json → Except DecodingError α} {form : α → Json}
    (hdecode : ∀ {json a}, decode json = .ok a ↔ json = form a) {name : String}
    {members : List (String × Json)} {a : α} :
    optional decode name members = .ok (some a) ↔ members.lookup name = some (form a) := by
  rw [optional]
  cases members.lookup name with
  | none => simp
  | some value =>
      rw [Option.some.injEq, ← hdecode]
      show (decode value).map some = .ok (some a) ↔ decode value = .ok a
      cases decode value <;> simp [Except.map]

/-- A field that is a string is found exactly if its name has this string. -/
theorem optional_string_eq_ok_iff {name s : String} {members : List (String × Json)} :
    optional string name members = .ok (some s) ↔ members.lookup name = some (.string s) :=
  optional_eq_ok_some_iff string_eq_ok_iff

/-- A field that is an object is found exactly if its name has this object. -/
theorem optional_members_eq_ok_iff {name : String} {found members : List (String × Json)} :
    optional Decode.members name members = .ok (some found) ↔
      members.lookup name = some (.object found) :=
  optional_eq_ok_some_iff members_eq_ok_iff

/-- A field that may not be absent has to have been found. -/
theorem required_eq_ok_iff {name : String} {found : Option α} {a : α} :
    required name found = .ok a ↔ found = some a := by
  cases found <;> simp [required]

end Decode

/-! ### Bodies of nodes -/

namespace NodeRecord

/-- The values that the body of a node may be written as. -/
inductive WrittenAs (record : NodeRecord) : Json → Prop where
  /-- An object with an object and a string as its fields. -/
  | object {members : List (String × Json)}
      (hdata : members.lookup "data" = some (.object record.data))
      (hrelationships : members.lookup "all_relationships" = some (.string record.allRelationships)) :
      WrittenAs record (.object members)
  /-- The array of these two values. -/
  | array : WrittenAs record (.array [.object record.data, .string record.allRelationships])

variable {record : NodeRecord}

/-- The members of an object are decoded exactly if the fields are among them. -/
theorem ofMembers_eq_ok_iff {members : List (String × Json)} :
    ofMembers members = .ok record ↔
      members.lookup "data" = some (.object record.data) ∧
      members.lookup "all_relationships" = some (.string record.allRelationships) := by
  obtain ⟨data, allRelationships⟩ := record
  simp only [ofMembers, Decode.bind_eq_ok_iff, Decode.pure_eq_ok_iff, Decode.required_eq_ok_iff,
    NodeRecord.mk.injEq]
  constructor
  · rintro ⟨_, hrelationships, _, hdata, _, rfl, _, rfl, rfl, rfl⟩
    exact ⟨Decode.optional_members_eq_ok_iff.mp hdata,
      Decode.optional_string_eq_ok_iff.mp hrelationships⟩
  · rintro ⟨hdata, hrelationships⟩
    exact ⟨_, Decode.optional_string_eq_ok_iff.mpr hrelationships,
      _, Decode.optional_members_eq_ok_iff.mpr hdata, _, rfl, _, rfl, rfl, rfl⟩

/-- The elements of an array are decoded exactly if they are the values of the fields. -/
theorem ofElements_eq_ok_iff {elements : List Json} :
    ofElements elements = .ok record ↔
      elements = [.object record.data, .string record.allRelationships] := by
  obtain ⟨data, allRelationships⟩ := record
  match elements with
  | [] => simp [ofElements]
  | [_] => simp [ofElements, Decode.bind_eq_ok_iff]
  | first :: second :: more =>
      simp only [ofElements, Decode.bind_eq_ok_iff, Decode.members_eq_ok_iff,
        Decode.string_eq_ok_iff]
      cases more with
      | nil => simp [Decode.pure_eq_ok_iff]
      | cons third more => simp

/-- **A value is decoded as the body of a node exactly if the body may be written so.** -/
theorem ofJson_eq_ok_iff {json : Json} : ofJson json = .ok record ↔ record.WrittenAs json := by
  constructor
  · intro h
    cases json with
    | object members =>
        obtain ⟨hdata, hrelationships⟩ := ofMembers_eq_ok_iff.mp h
        exact .object hdata hrelationships
    | array elements =>
        obtain rfl := ofElements_eq_ok_iff.mp h
        exact .array
    | null => cases h
    | bool value => cases h
    | number value => cases h
    | string value => cases h
  · intro h
    cases h with
    | object hdata hrelationships => exact ofMembers_eq_ok_iff.mpr ⟨hdata, hrelationships⟩
    | array => exact ofElements_eq_ok_iff.mpr rfl

end NodeRecord

namespace Node

variable {url : String} {body : Json}

/-- **A body is decoded as a node exactly if it is written as one.**  The properties and the address
of the relationships are those of the body, the rest comes from its address. -/
theorem ofJson_eq_ok_iff {node : Node} :
    ofJson url body = .ok node ↔
      ∃ record, NodeRecord.WrittenAs record body ∧
        node = ⟨url, resourceId url, .ofMembers record.data, record.allRelationships⟩ := by
  simp only [← NodeRecord.ofJson_eq_ok_iff]
  rw [ofJson]
  cases NodeRecord.ofJson body with
  | ok record => simp [eq_comm]
  | error e => simp

/-- A body that is not decoded is malformed, and the failure names its address. -/
theorem ofJson_eq_ok_or_malformed (url : String) (body : Json) :
    (∃ node, ofJson url body = .ok node) ∨
      ∃ reason, ofJson url body = .error (.malformed url reason) := by
  rw [ofJson]
  cases NodeRecord.ofJson body with
  | ok record => exact Or.inl ⟨_, rfl⟩
  | error e => exact Or.inr ⟨_, rfl⟩

end Node

/-! ### Bodies of lists of relationships -/

namespace Relationship

/-- The values that a relationship may be written as. -/
inductive WrittenAs (r : Relationship) : Json → Prop where
  /-- An object with three strings as its fields. -/
  | object {members : List (String × Json)}
      (hstart : members.lookup "start" = some (.string r.start))
      (hfinish : members.lookup "end" = some (.string r.finish))
      (htype : members.lookup "type" = some (.string r.relType)) :
      WrittenAs r (.object members)
  /-- The array of these three strings. -/
  | array : WrittenAs r (.array [.string r.start, .string r.finish, .string r.relType])

variable {r : Relationship}

/-- The members of an object are decoded exactly if the fields are among them. -/
theorem ofMembers_eq_ok_iff {members : List (String × Json)} :
    ofMembers members = .ok r ↔
      members.lookup "start" = some (.string r.start) ∧
      members.lookup "end" = some (.string r.finish) ∧
      members.lookup "type" = some (.string r.relType) := by
  obtain ⟨start, finish, relType⟩ := r
  simp only [ofMembers, Decode.bind_eq_ok_iff, Decode.pure_eq_ok_iff, Decode.required_eq_ok_iff,
    Relationship.mk.injEq]
  constructor
  · rintro ⟨_, hfinish, _, hstart, _, htype, _, rfl, _, rfl, _, rfl, rfl, rfl, rfl⟩
    exact ⟨Decode.optional_string_eq_ok_iff.mp hstart, Decode.optional_string_eq_ok_iff.mp hfinish,
      Decode.optional_string_eq_ok_iff.mp htype⟩
  · rintro ⟨hstart, hfinish, htype⟩
    exact ⟨_, Decode.optional_string_eq_ok_iff.mpr hfinish,
      _, Decode.optional_string_eq_ok_iff.mpr hstart,
      _, Decode.optional_string_eq_ok_iff.mpr htype,
      _, rfl, _, rfl, _, rfl, rfl, rfl, rfl⟩

/-- The elements of an array are decoded exactly if they are the values of the fields. -/
theorem ofElements_eq_ok_iff {elements : List Json} :
    ofElements elements = .ok r ↔
      elements = [.string r.start, .string r.finish, .string r.relType] := by
  obtain ⟨start, finish, relType⟩ := r
  match elements with
  | [] => simp [ofElements]
  | [_] => simp [ofElements, Decode.bind_eq_ok_iff]
  | [_, _] => simp [ofElements, Decode.bind_eq_ok_iff]
  | first :: second :: third :: more =>
      simp only [ofElements, Decode.bind_eq_ok_iff, Decode.string_eq_ok_iff]
      cases more with
      | nil => simp [Decode.pure_eq_ok_iff]
      | cons fourth more => simp

/-- **A value is decoded as a relationship exactly if the relationship may be written so.** -/
theorem ofJson_eq_ok_iff {json : Json} : ofJson json = .ok r ↔ r.WrittenAs json := by
  constructor
  · intro h
    cases json with
    | object members =>
        obtain ⟨hstart, hfinish, htype⟩ := ofMembers_eq_ok_iff.mp h
        exact .object hstart hfinish htype
    | array elements =>
        obtain rfl := ofElements_eq_ok_iff.mp h
        exact .array
    | null => cases h
    | bool value => cases h
    | number value => cases h
    | string value => cases h
  · intro h
    cases h with
    | object hstart hfinish htype => exact ofMembers_eq_ok_iff.mpr ⟨hstart, hfinish, htype⟩
    | array => exact ofElements_eq_ok_iff.mpr rfl

/-- **Lists are decoded element by element**, in order. -/
theorem ofJsonList_eq_ok_iff {elements : List Json} {relationships : List Relationship} :
    ofJsonList elements = .ok relationships ↔ List.Forall₂ WrittenAs relationships elements := by
  induction elements generalizing relationships with
  | nil => cases relationships <;> simp [ofJsonList]
  | cons element more ih =>
      simp only [ofJsonList, Decode.bind_eq_ok_iff, Decode.pure_eq_ok_iff, ofJson_eq_ok_iff, ih]
      cases relationships with
      | nil => simp
      | cons r relationships => simp

/-- **A body is decoded as a list of relationships exactly if it is an array of such.** -/
theorem listOfJson_eq_ok_iff {url : String} {body : Json} {relationships : List Relationship} :
    listOfJson url body = .ok relationships ↔
      ∃ elements, body = .array elements ∧ List.Forall₂ WrittenAs relationships elements := by
  have hlist : Decode.elements body >>= ofJsonList = .ok relationships ↔
      ∃ elements, body = .array elements ∧ List.Forall₂ WrittenAs relationships elements := by
    simp only [Decode.bind_eq_ok_iff, Decode.elements_eq_ok_iff, ofJsonList_eq_ok_iff]
  rw [← hlist, listOfJson]
  cases Decode.elements body >>= ofJsonList <;> simp

/-- A body that is not decoded is malformed, and the failure names its address. -/
theorem listOfJson_eq_ok_or_malformed (url : String) (body : Json) :
    (∃ relationships, listOfJson url body = .ok relationships) ∨
      ∃ reason, listOfJson url body = .error (.malformed url reason) := by
  rw [listOfJson]
  cases Decode.elements body >>= ofJsonList with
  | ok relationships => exact Or.inl ⟨_, rfl⟩
  | error e => exact Or.inr ⟨_, rfl⟩

end Relationship

/-! ### What is fetched -/

/-- **Bodies are decoded exactly if they are written as resources.**  A node comes from a body in one
of the two forms, with the properties and the address of the relationships as they are there; a list of
relationships comes from an array with each element in one of the two forms, one after another. Every
other body is malformed, and the failure names the address that it was fetched from. -/
theorem resources_decoded_iff_written (url : String) (body : Json) :
    (∀ node, Node.ofJson url body = .ok node ↔
      ∃ record, NodeRecord.WrittenAs record body ∧
        node = ⟨url, resourceId url, .ofMembers record.data, record.allRelationships⟩) ∧
    ((∃ node, Node.ofJson url body = .ok node) ∨
      ∃ reason, Node.ofJson url body = .error (.malformed url reason)) ∧
    (∀ relationships, Relationship.listOfJson url body = .ok relationships ↔
      ∃ elements, body = .array elements ∧
        List.Forall₂ Relationship.WrittenAs relationships elements) ∧
    ((∃ relationships, Relationship.listOfJson url body = .ok relationships) ∨
      ∃ reason, Relationship.listOfJson url body = .error (.malformed url reason)) :=
  ⟨fun _ => Node.ofJson_eq_ok_iff, Node.ofJson_eq_ok_or_malformed url body,
    fun _ => Relationship.listOfJson_eq_ok_iff,
    Relationship.listOfJson_eq_ok_or_malformed url body⟩

/-- Arrays of the values of the fields are decoded as well, so that bodies do not have to be objects,
and neither do the elements of a list of relationships. -/
theorem arrays_decoded_as_records :
    let node : Json := .array [.object [], .string "/1/all"]
    let list : Json := .array [.array [.string "/1", .string "/2", .string "KNOWS"]]
    ¬ ((∃ decoded, Node.ofJson "/1" node = .ok decoded) ↔
      ∃ members data allRelationships, node = .object members ∧
        members.lookup "data" = some (.object data) ∧
        members.lookup "all_relationships" = some (.string allRelationships)) ∧
    ¬ ((∃ decoded, Relationship.listOfJson "/1/all" list = .ok decoded) ↔
      ∃ elements, list = .array elements ∧ ∀ element ∈ elements,
        ∃ members start finish relType, element = .object members ∧
          members.lookup "start" = some (.string start) ∧
          members.lookup "end" = some (.string finish) ∧
          members.lookup "type" = some (.string relType)) := by
  intro node list
  constructor
  · intro h
    obtain ⟨members, _, _, hmembers, -⟩ := h.mp ⟨⟨"/1", resourceId "/1", ⟨[]⟩, "/1/all"⟩, rfl⟩
    exact Json.noConfusion hmembers
  · intro h
    obtain ⟨elements, hlist, helements⟩ := h.mp ⟨[⟨"/1", "/2", "KNOWS"⟩], rfl⟩
    have hmem : Json.array [.string "/1", .string "/2", .string "KNOWS"] ∈ elements := by
      rw [← Json.array.inj hlist]
      exact List.mem_cons_self
    obtain ⟨members, _, _, _, hmembers, -⟩ := helements _ hmem
    cases hmembers

end GraphBrowser
