import GraphBrowser.Proofs.Text.Trim
import GraphBrowser.Resource.Address

/-!
# Ids in addresses

The address of a node is built from a base and an id, and the id is read back as the last segment of
the address. Which ids come back is decided by separators alone, whatever the base is.

## Main statements

* `Address.separator_not_mem_lastSegment` — **no id that is read back has a separator**
* `Address.core_node` — blanks and separators around the base leave no trace in the address
* `resourceId_nodeAddress_eq_iff` — **an id comes back exactly if it is one segment**

## Design notes

**The segment `node` shields the base from the id.**  Separators at the end of the address are those
of the id and the one in front of it, so the cut at the end never reaches into the base.
-/

namespace GraphBrowser

namespace Address

open Text

/-- What stands between the base and the separator in front of the id. -/
def middle : List Char := ['/', 'n', 'o', 'd', 'e']

/-- The address of a node in parts: the base, the middle, and the id with its separator. -/
theorem node_eq (base id : List Char) :
    node base id = core base ++ (middle ++ '/' :: trim id) := by
  simp [node, middle]

/-- No blanks are at the end of an id, nor at the separator in front of it. -/
theorem dropEndWhile_separator_trim (id : List Char) :
    dropEndWhile isBlank ('/' :: trim id) = '/' :: trim id := by
  rw [dropEndWhile_cons, dropEndWhile_trim]
  split
  · rename_i hempty
    rw [hempty]
    rfl
  · rfl

/-- The address of a node has no blanks at its ends. -/
theorem trim_node (base id : List Char) : trim (node base id) = node base id := by
  have hfront : (node base id).dropWhile isBlank = node base id := by
    have hbase : (core base).dropWhile isBlank = core base :=
      dropWhile_eq_self_of_prefix (dropWhile_trim base) (dropEndWhile_isPrefix _ _)
    rw [node_eq]
    cases hcore : core base with
    | nil => rfl
    | cons c cs =>
        rw [hcore, List.dropWhile_eq_self_iff] at hbase
        rw [List.dropWhile_eq_self_iff]
        intro hlength
        exact hbase (Nat.succ_pos _)
  have hend : dropEndWhile isBlank (node base id) = node base id := by
    rw [node_eq, ← List.append_assoc, dropEndWhile_append, dropEndWhile_separator_trim,
      if_neg (List.cons_ne_nil _ _)]
  rw [trim, hfront, hend]

/-- **Blanks and separators around the base leave no trace in the address of a node**, and of the id
only the separators at its end are lost. -/
theorem core_node (base id : List Char) :
    core (node base id) =
      core base ++ (middle ++ dropEndWhile isSeparator ('/' :: trim id)) := by
  have hmiddle : dropEndWhile isSeparator middle = middle := by decide
  rw [core, trim_node, node_eq, dropEndWhile_append, dropEndWhile_append, hmiddle]
  by_cases hid : dropEndWhile isSeparator ('/' :: trim id) = []
  · rw [if_pos hid, hid, List.append_nil, if_neg (by simp [middle])]
  · rw [if_neg hid, if_neg (by simp [middle])]

/-- **No id that is read back has a separator.** -/
theorem separator_not_mem_lastSegment (url : List Char) : '/' ∉ lastSegment url := by
  rw [lastSegment]
  cases h : afterLast '/' (core url) with
  | some segment => exact fun hmem => not_mem_of_afterLast h (mem_of_mem_trim hmem)
  | none => exact afterLast_eq_none_iff.mp h

/-- The id in an address with more than one segment has no blanks at its ends. -/
theorem trim_lastSegment_of_mem {url : List Char} (h : '/' ∈ core url) :
    trim (lastSegment url) = lastSegment url := by
  rw [lastSegment]
  cases hlast : afterLast '/' (core url) with
  | some segment => exact trim_trim segment
  | none => exact absurd h (afterLast_eq_none_iff.mp hlast)

/-- The address of a node has more than one segment. -/
theorem separator_mem_core_node (base id : List Char) : '/' ∈ core (node base id) := by
  rw [core_node]
  simp [middle]

/-- An id that is one segment is read back. -/
theorem lastSegment_node (base : List Char) {id : List Char} (hne : trim id ≠ [])
    (hsegment : '/' ∉ trim id) : lastSegment (node base id) = trim id := by
  have hend : dropEndWhile isSeparator ('/' :: trim id) = '/' :: trim id := by
    obtain ⟨front, last, hlast⟩ := List.eq_nil_or_concat (trim id) |>.resolve_left hne
    have hout : isSeparator last = false := by
      rw [isSeparator, beq_eq_false_iff_ne]
      rintro rfl
      exact hsegment (by simp [hlast])
    rw [hlast, List.concat_eq_append, ← List.cons_append]
    exact dropEndWhile_concat hout _
  have hafter : afterLast '/' (core (node base id)) = some (trim id) := by
    rw [core_node, hend, afterLast_append, afterLast_append, afterLast_cons,
      afterLast_eq_none_iff.mpr hsegment, if_pos rfl]
    rfl
  rw [lastSegment, hafter]
  exact trim_trim id

/-- Without an id the segment in front of it is read back. -/
theorem lastSegment_node_of_nil (base : List Char) {id : List Char} (h : trim id = []) :
    lastSegment (node base id) = ['n', 'o', 'd', 'e'] := by
  have hafter : afterLast '/' (core (node base id)) = some ['n', 'o', 'd', 'e'] := by
    rw [core_node, h, afterLast_append]
    rfl
  have hblanks : trim ['n', 'o', 'd', 'e'] = ['n', 'o', 'd', 'e'] := by decide
  rw [lastSegment, hafter]
  exact hblanks

end Address

/-- Whether a text without blanks at its ends can be the last segment of an address. -/
def IsSegment (id : String) : Prop := id ≠ "" ∧ '/' ∉ id.toList

instance (id : String) : Decidable (IsSegment id) := inferInstanceAs (Decidable (_ ∧ _))

/-- **An id is read back from the address that is built for it exactly if it is one segment.** -/
theorem resourceId_nodeAddress_eq_iff (base id : String) :
    resourceId (nodeAddress base id) = trimmed id ↔ IsSegment (trimmed id) := by
  rw [← String.toList_inj, toList_resourceId, toList_nodeAddress, IsSegment, ← String.toList_inj.ne,
    toList_trimmed]
  constructor
  · intro h
    refine ⟨?_, ?_⟩
    · intro hempty
      rw [Address.lastSegment_node_of_nil _ hempty, hempty] at h
      cases h
    · rw [← h]
      exact Address.separator_not_mem_lastSegment _
  · rintro ⟨hne, hsegment⟩
    exact Address.lastSegment_node _ hne hsegment

/-- The id in the address of a node has no blanks at its ends. -/
@[simp] theorem trimmed_resourceId_nodeAddress (base id : String) :
    trimmed (resourceId (nodeAddress base id)) = resourceId (nodeAddress base id) := by
  rw [← String.toList_inj, toList_trimmed, toList_resourceId, toList_nodeAddress]
  exact Address.trim_lastSegment_of_mem (Address.separator_mem_core_node _ _)

end GraphBrowser
