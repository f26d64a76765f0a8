import GraphBrowser.Text.Utf8

/-!
# Members in key order

The members of an object have no order of their own. They are kept sorted by key, each key once.

## Main definitions

* `Members.keyBefore` — the order of keys, that of their bytes
* `Members.insert` — a sorted list with one more member, which replaces one of the same key
* `Members.ofList` — the sorted list of members that were given one after another

## Design notes

**The last of several members with one key counts**, because each insertion replaces. The order is
the lexicographic order of the UTF-8 bytes, on which nothing but the keys has an influence.
-/

namespace GraphBrowser.Members

variable {α : Type}

/-- Whether one key stands before another: its bytes are lexicographically smaller. -/
def keyBefore (first second : String) : Bool :=
  decide (Utf8.bytes first < Utf8.bytes second)

/-- The members with one more, in its place by the order of keys. A member with the same key is
replaced. -/
def insert (key : String) (value : α) : List (String × α) → List (String × α)
  | [] => [(key, value)]
  | member :: rest =>
    if member.1 = key then (key, value) :: rest
    else if keyBefore key member.1 then (key, value) :: member :: rest
    else member :: insert key value rest

@[simp] theorem insert_nil (key : String) (value : α) : insert key value [] = [(key, value)] := rfl

/-- The members given one after another, in the order of their keys. -/
def ofList (given : List (String × α)) : List (String × α) :=
  given.foldl (fun members member => insert member.1 member.2 members) []

@[simp] theorem ofList_nil : ofList ([] : List (String × α)) = [] := rfl

/-- One more member at the end is inserted last. -/
@[simp] theorem ofList_concat (given : List (String × α)) (member : String × α) :
    ofList (given ++ [member]) = insert member.1 member.2 (ofList given) := by
  simp [ofList]

end GraphBrowser.Members
