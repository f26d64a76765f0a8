import GraphBrowser.Json.Members
import GraphBrowser.Proofs.Text.Utf8
import Mathlib.Data.List.Induction
import Mathlib.Data.List.Sort

/-!
# Members are kept in one order

Whatever the order is in which members are given, they are kept by ascending keys, each key once and
with the last value that it was given.

## Main definitions

* `Members.values` — the values that are given for a key, in order
* `Members.IsSorted` — the keys of members ascend
* `Members.Reordered` — the same members in another order, but for those of one key

## Main statements

* `Members.isSorted_ofList` — **the members are sorted**
* `Members.mem_ofList_iff` — **each key has the last of its values**
* `Members.ofList_eq_of_reordered` — the order of members with different keys does not matter
* `Members.find?_eq_some_iff` — in sorted members, the first one of a key is the only one

## Design notes

Every statement goes through membership: sorted lists with the same members are the same, so that it
is enough to say which members there are.
-/

namespace GraphBrowser.Members

variable {α : Type}

/-! ### The order of keys -/

/-- One key stands before another if its bytes do. -/
theorem keyBefore_iff {first second : String} :
    keyBefore first second = true ↔ Utf8.bytes first < Utf8.bytes second :=
  decide_eq_true_iff

/-- No key stands before itself. -/
theorem not_keyBefore_self (key : String) : ¬ keyBefore key key = true := by
  rw [keyBefore_iff]
  exact List.lt_irrefl _

theorem keyBefore_trans {first second third : String} (h : keyBefore first second = true)
    (h' : keyBefore second third = true) : keyBefore first third = true := by
  rw [keyBefore_iff] at *
  exact List.lt_trans h h'

/-- Of two different keys, one stands before the other. -/
theorem keyBefore_of_ne {first second : String} (hne : first ≠ second)
    (h : ¬ keyBefore first second = true) : keyBefore second first = true := by
  rw [keyBefore_iff] at *
  by_contra h'
  exact hne (Utf8.bytes_inj.mp (List.le_antisymm h' h))

/-- The keys of the members ascend. -/
def IsSorted (members : List (String × α)) : Prop :=
  members.Pairwise fun first second => keyBefore first.1 second.1 = true

/-- Sorted members are told apart by their keys. -/
theorem IsSorted.ne_of_mem {first : String × α} {rest : List (String × α)}
    (h : IsSorted (first :: rest)) {member : String × α} (hmem : member ∈ rest) :
    member.1 ≠ first.1 := by
  intro heq
  have hbefore := (List.pairwise_cons.mp h).1 member hmem
  rw [heq] at hbefore
  exact not_keyBefore_self _ hbefore

/-- A member that stands before the first one stands before all of them. -/
theorem isSorted_cons_cons {first : String × α} {rest : List (String × α)}
    (h : IsSorted (first :: rest)) {member : String × α}
    (hbefore : keyBefore member.1 first.1 = true) : IsSorted (member :: first :: rest) := by
  refine List.pairwise_cons.mpr ⟨fun other hmem => ?_, h⟩
  rcases List.mem_cons.mp hmem with rfl | hrest
  · exact hbefore
  · exact keyBefore_trans hbefore ((List.pairwise_cons.mp h).1 other hrest)

/-- Sorted members with the same members are the same. -/
theorem IsSorted.eq_of_mem_iff {members others : List (String × α)} (h : IsSorted members)
    (h' : IsSorted others) (hmem : ∀ member, member ∈ members ↔ member ∈ others) :
    members = others := by
  -- no two members stand before each other
  have hantisymm : Std.Antisymm fun first second : String × α =>
      keyBefore first.1 second.1 = true :=
    ⟨fun _ _ hbefore hafter => absurd (keyBefore_trans hbefore hafter) (not_keyBefore_self _)⟩
  have hirrefl : Std.Irrefl fun first second : String × α =>
      keyBefore first.1 second.1 = true := ⟨fun member => not_keyBefore_self member.1⟩
  exact List.Pairwise.eq_of_mem_iff h h' hmem

/-- Sorted members have different keys. -/
theorem IsSorted.nodup_keys {members : List (String × α)} (h : IsSorted members) :
    (members.map (·.1)).Nodup := by
  unfold List.Nodup
  rw [List.pairwise_map]
  refine List.Pairwise.imp ?_ h
  intro first second hbefore heq
  rw [heq] at hbefore
  exact not_keyBefore_self _ hbefore

/-- In sorted members, the first one of a key is the only one. -/
theorem find?_eq_some_iff {members : List (String × α)} (h : IsSorted members) {key : String}
    {value : α} :
    (members.find? (·.1 == key)).map (·.2) = some value ↔ (key, value) ∈ members := by
  induction members with
  | nil => simp
  | cons first rest ih =>
      rw [List.find?_cons]
      by_cases hfirst : first.1 = key
      · subst hfirst
        have hrest : (first.1, value) ∉ rest := fun hmem => h.ne_of_mem hmem rfl
        simp [hrest, Prod.ext_iff, eq_comm]
      · have hne : (key, value) ≠ first := fun heq => hfirst (congrArg Prod.fst heq).symm
        rw [beq_false_of_ne hfirst, List.mem_cons, or_iff_right hne]
        exact ih (List.pairwise_cons.mp h).2

/-! ### One more member -/

/-- **What is there after an insertion:** the new member, and all others but one of its key. -/
theorem mem_insert_iff {members : List (String × α)} (h : IsSorted members) {key : String} {value : α}
    {member : String × α} :
    member ∈ insert key value members ↔
      member = (key, value) ∨ member.1 ≠ key ∧ member ∈ members := by
  fun_induction insert key value members with
  | case1 => simp
  | case2 first rest hfirst =>
      -- the first member is replaced, and the rest has other keys
      rw [List.mem_cons, List.mem_cons]
      constructor
      · rintro (hnew | hrest)
        · exact Or.inl hnew
        · exact Or.inr ⟨hfirst ▸ h.ne_of_mem hrest, Or.inr hrest⟩
      · rintro (hnew | ⟨hne, rfl | hrest⟩)
        · exact Or.inl hnew
        · exact absurd hfirst hne
        · exact Or.inr hrest
  | case3 first rest hfirst hbefore =>
      -- the new member stands before all others, which have other keys
      have hsorted : IsSorted ((key, value) :: first :: rest) := isSorted_cons_cons h hbefore
      rw [List.mem_cons]
      apply or_congr_right
      exact ⟨fun hmem => ⟨hsorted.ne_of_mem hmem, hmem⟩, fun hmem => hmem.2⟩
  | case4 first rest hfirst hbefore ih =>
      rw [List.mem_cons, List.mem_cons, ih (List.pairwise_cons.mp h).2]
      constructor
      · rintro (rfl | hnew | ⟨hne, hrest⟩)
        · exact Or.inr ⟨hfirst, Or.inl rfl⟩
        · exact Or.inl hnew
        · exact Or.inr ⟨hne, Or.inr hrest⟩
      · rintro (hnew | ⟨hne, rfl | hrest⟩)
        · exact Or.inr (Or.inl hnew)
        · exact Or.inl rfl
        · exact Or.inr (Or.inr ⟨hne, hrest⟩)

/-- **An insertion keeps the members sorted.** -/
theorem isSorted_insert {members : List (String × α)} (h : IsSorted members) (key : String)
    (value : α) : IsSorted (insert key value members) := by
  fun_induction insert key value members with
  | case1 => exact List.pairwise_singleton _ _
  | case2 first rest hfirst =>
      obtain ⟨hlater, hrest⟩ := List.pairwise_cons.mp h
      exact List.pairwise_cons.mpr ⟨fun other hmem => hfirst ▸ hlater other hmem, hrest⟩
  | case3 first rest hfirst hbefore => exact isSorted_cons_cons h hbefore
  | case4 first rest hfirst hbefore ih =>
      obtain ⟨hlater, hrest⟩ := List.pairwise_cons.mp h
      refine List.pairwise_cons.mpr ⟨fun other hmem => ?_, ih hrest⟩
      rcases (mem_insert_iff hrest).mp hmem with rfl | ⟨-, hmem⟩
      · exact keyBefore_of_ne (Ne.symm hfirst) hbefore
      · exact hlater other hmem

/-! ### All members -/

/-- The values that are given for a key, in order. -/
def values (given : List (String × α)) (key : String) : List α :=
  (given.filter (·.1 == key)).map (·.2)

@[simp] theorem values_nil (key : String) : values ([] : List (String × α)) key = [] := rfl

theorem values_concat (given : List (String × α)) (member : String × α) (key : String) :
    values (given ++ [member]) key =
      values given key ++ if member.1 = key then [member.2] else [] := by
  unfold values
  rw [List.filter_append, List.map_append]
  by_cases h : member.1 = key <;> simp [h]

/-- A key has values if it is one of the keys that are given. -/
theorem values_ne_nil_iff {given : List (String × α)} {key : String} :
    values given key ≠ [] ↔ key ∈ given.map (·.1) := by
  simp [values]

/-- **The members are sorted**, in whatever order they are given. -/
theorem isSorted_ofList (given : List (String × α)) : IsSorted (ofList given) := by
  induction given using List.reverseRecOn with
  | nil => exact List.Pairwise.nil
  | append_singleton given member ih =>
      rw [ofList_concat]
      exact isSorted_insert ih member.1 member.2

/-- **Each key has the last of the values that are given for it.** -/
theorem mem_ofList_iff {given : List (String × α)} {key : String} {value : α} :
    (key, value) ∈ ofList given ↔ (values given key).getLast? = some value := by
  induction given using List.reverseRecOn with
  | nil => simp
  | append_singleton given member ih =>
      obtain ⟨last, lastValue⟩ := member
      rw [ofList_concat, mem_insert_iff (isSorted_ofList given), ih, values_concat]
      by_cases h : last = key
      · subst h
        simp [eq_comm]
      · simp [h, Ne.symm h]

/-- The same members, in an order in which those of one key follow each other as before. -/
structure Reordered (given other : List (String × α)) : Prop where
  /-- The members are the same. -/
  perm : other.Perm given
  /-- Each key is given the same values in the same order. -/
  values_eq : ∀ key, values other key = values given key

/-- Neighbours with different keys may change places. -/
theorem Reordered.swap (front : List (String × α)) {first second : String × α}
    (hne : first.1 ≠ second.1) (back : List (String × α)) :
    Reordered (front ++ first :: second :: back) (front ++ second :: first :: back) := by
  constructor
  · exact List.Perm.append_left front (List.Perm.swap first second back)
  · intro key
    unfold values
    by_cases hfirst : first.1 = key
    · have hsecond : second.1 ≠ key := hfirst ▸ Ne.symm hne
      simp [List.filter_append, hfirst, hsecond]
    · simp [List.filter_append, List.filter_cons, hfirst]

/-- **The order of members with different keys does not matter.** -/
theorem ofList_eq_of_reordered {given other : List (String × α)} (h : Reordered given other) :
    ofList other = ofList given := by
  apply IsSorted.eq_of_mem_iff (isSorted_ofList other) (isSorted_ofList given)
  rintro ⟨key, value⟩
  rw [mem_ofList_iff, mem_ofList_iff, h.values_eq]

end GraphBrowser.Members
