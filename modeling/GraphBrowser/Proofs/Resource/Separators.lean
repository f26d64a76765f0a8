import GraphBrowser.Proofs.Resource.Address

/-!
# Separators behind an address

Separators at the end of an address are dropped after the blanks around it, each once. What this
means where blanks and separators alternate is said here for all addresses: when further separators
are ignored, which ids have a blank at their end, and what is read off an id itself.

## Main definitions

* `Address.separators` — a run of separators
* `Address.IsUnsettled` — the addresses in which further separators change the id

## Main statements

* `resourceId_unchanged_iff` — **when separators are ignored, and when an id is its own id**
* `resourceId_changed_by_separators` — neither is always so
* `resourceId_padded_nodeAddress_eq_iff` — **an id comes back through blanks and separators exactly
  if it is one segment**

## Design notes

**A separator hides the blanks in front of it.**  They are not at the end of the address any more, so
that they are removed only from a segment that follows another separator. If there is none, the
blanks become a part of the id; if a separator stands directly in front of them, they are a segment of
their own, and it is empty.
-/

namespace GraphBrowser

namespace Address

open Text

/-- As many separators as the number says. -/
def separators (n : Nat) : List Char := List.replicate n '/'

theorem isSeparator_of_mem_separators {n : Nat} {c : Char} (h : c ∈ separators n) :
    isSeparator c = true := by
  rw [List.eq_of_mem_replicate h]
  rfl

/-- A run of separators is determined by its length. -/
theorem eq_separators {run : List Char} (h : ∀ c ∈ run, isSeparator c = true) :
    run = separators run.length :=
  List.eq_replicate_iff.mpr ⟨rfl, fun c hmem => beq_iff_eq.mp (h c hmem)⟩

/-! ### How a text ends -/

/-- A text that ends with a separator has one. -/
theorem separator_mem_of_endsIn {cs : List Char} (h : endsIn isSeparator cs = true) :
    '/' ∈ cs := by
  rcases List.eq_nil_or_concat' cs with rfl | ⟨front, last, rfl⟩
  · cases h
  · rw [endsIn_concat, isSeparator, beq_iff_eq] at h
    simp [h]

/-- Nothing follows the last separator of such a text. -/
theorem afterLast_of_endsIn {cs : List Char} (h : endsIn isSeparator cs = true) :
    afterLast '/' cs = some [] := by
  rcases List.eq_nil_or_concat' cs with rfl | ⟨front, last, rfl⟩
  · cases h
  · rw [endsIn_concat, isSeparator, beq_iff_eq] at h
    rw [h, afterLast_append]
    rfl

/-- A text that ends with a blank does not end with a separator. -/
theorem endsIn_separator_of_blank {cs : List Char} (h : endsIn isBlank cs = true) :
    endsIn isSeparator cs = false := by
  rcases List.eq_nil_or_concat' cs with rfl | ⟨front, last, rfl⟩
  · rfl
  · rw [endsIn_concat] at h ⊢
    rw [isSeparator, beq_eq_false_iff_ne]
    rintro rfl
    cases h

/-- No blank is a separator. -/
theorem separator_not_mem_of_blank {run : List Char} (h : ∀ c ∈ run, isBlank c = true) :
    '/' ∉ run :=
  fun hmem => absurd (h _ hmem) (by decide)

/-! ### The last segment -/

/-- Addresses with the same core have the same id. -/
theorem lastSegment_congr {cs ds : List Char} (h : core cs = core ds) :
    lastSegment cs = lastSegment ds := by
  simp only [lastSegment, h]

/-- The core of an address with one segment is its id. -/
theorem lastSegment_of_not_mem {cs : List Char} (h : '/' ∉ core cs) : lastSegment cs = core cs := by
  rw [lastSegment, afterLast_eq_none_iff.mpr h]

/-- Otherwise the id is what follows the last separator, without the blanks around it. -/
theorem lastSegment_of_afterLast {cs segment : List Char}
    (h : afterLast '/' (core cs) = some segment) : lastSegment cs = trim segment := by
  rw [lastSegment, h]

/-- An address without separators is its own id. -/
theorem lastSegment_of_not_mem_trim {cs : List Char} (h : '/' ∉ trim cs) :
    lastSegment cs = trim cs := by
  have hcore : core cs = trim cs := by
    rw [core, dropEndWhile_eq_self_iff, ← Bool.not_eq_true]
    exact fun hend => h (separator_mem_of_endsIn hend)
  rw [lastSegment_of_not_mem (by rwa [hcore]), hcore]

/-- The id begins with no blank. -/
theorem dropWhile_lastSegment (cs : List Char) :
    (lastSegment cs).dropWhile isBlank = lastSegment cs := by
  rw [lastSegment]
  cases afterLast '/' (core cs) with
  | some segment => exact dropWhile_trim segment
  | none => exact dropWhile_eq_self_of_prefix (dropWhile_trim cs) (dropEndWhile_isPrefix _ _)

/-- **The id ends with a blank exactly if the address is one segment that ends with a blank, followed
by separators.** -/
theorem endsIn_lastSegment_iff {cs : List Char} :
    endsIn isBlank (lastSegment cs) = true ↔
      ∃ segment n, '/' ∉ segment ∧ endsIn isBlank segment = true ∧
        trim cs = segment ++ separators (n + 1) := by
  constructor
  · intro h
    cases hlast : afterLast '/' (core cs) with
    | some segment =>
        rw [lastSegment_of_afterLast hlast, trim, endsIn_dropEndWhile] at h
        cases h
    | none =>
        have hsingle : '/' ∉ core cs := afterLast_eq_none_iff.mp hlast
        obtain ⟨run, hrun, htrim⟩ := exists_dropEndWhile_append_eq isSeparator (trim cs)
        rw [lastSegment_of_not_mem hsingle] at h
        cases run with
        | nil =>
            -- nothing has been dropped, but a trimmed text does not end with a blank
            rw [List.append_nil] at htrim
            rw [core, htrim, trim, endsIn_dropEndWhile] at h
            cases h
        | cons c run =>
            rw [eq_separators hrun] at htrim
            exact ⟨core cs, run.length, hsingle, h, htrim.symm⟩
  · rintro ⟨segment, n, hsingle, hblank, heq⟩
    have hcore : core cs = segment := by
      rw [core, heq, dropEndWhile_append_of_forall _ fun c => isSeparator_of_mem_separators,
        dropEndWhile_eq_self_iff.mpr (endsIn_separator_of_blank hblank)]
    rw [lastSegment_of_not_mem (hcore ▸ hsingle), hcore, hblank]

/-- The id of an id is the id without the blanks at its end. -/
theorem lastSegment_lastSegment (cs : List Char) :
    lastSegment (lastSegment cs) = trim (lastSegment cs) :=
  lastSegment_of_not_mem_trim fun hmem => separator_not_mem_lastSegment cs (mem_of_mem_trim hmem)

/-! ### Further separators -/

/-- Whether separators behind the address change the id in it: it ends with blanks, and what stands in
front of them is one segment or ends with a separator. An address without an id has none to lose. -/
def IsUnsettled (cs : List Char) : Prop :=
  endsIn isBlank cs = true ∧ lastSegment cs ≠ [] ∧
    ('/' ∈ trim cs → endsIn isSeparator (trim cs) = true)

instance (cs : List Char) : Decidable (IsUnsettled cs) :=
  inferInstanceAs (Decidable (_ ∧ _ ∧ _))

/-- With separators behind it, an address is cut at its front only. -/
theorem core_append_separators_succ (cs : List Char) (n : Nat) :
    core (cs ++ separators (n + 1)) = dropEndWhile isSeparator (cs.dropWhile isBlank) := by
  have hfront : (cs ++ separators (n + 1)).dropWhile isBlank =
      cs.dropWhile isBlank ++ separators (n + 1) := by
    rw [List.dropWhile_append]
    split
    · rename_i hempty
      rw [List.isEmpty_iff.mp hempty]
      rfl
    · rfl
  have hend : endsIn isBlank (cs.dropWhile isBlank ++ separators (n + 1)) = false := by
    rw [separators, List.replicate_succ', ← List.append_assoc, endsIn_concat]
    rfl
  rw [core, trim, hfront, dropEndWhile_eq_self_iff.mpr hend,
    dropEndWhile_append_of_forall _ fun c => isSeparator_of_mem_separators]

/-- If there are no blanks at its end, this makes no difference. -/
theorem core_append_separators {cs : List Char} (h : endsIn isBlank (cs.dropWhile isBlank) = false)
    (n : Nat) : core (cs ++ separators n) = core cs := by
  cases n with
  | zero => rw [separators, List.replicate_zero, List.append_nil]
  | succ n => rw [core_append_separators_succ, core, trim, dropEndWhile_eq_self_iff.mpr h]

/-- If there are, they stay. -/
theorem exists_core_append_separators_eq {cs : List Char}
    (h : endsIn isBlank (cs.dropWhile isBlank) = true) :
    ∃ run, run ≠ [] ∧ (∀ c ∈ run, isBlank c = true) ∧
      ∀ n, core (cs ++ separators (n + 1)) = trim cs ++ run := by
  obtain ⟨run, hrun, htrim⟩ := exists_dropEndWhile_append_eq isBlank (cs.dropWhile isBlank)
  rw [← trim] at htrim
  have hne : run ≠ [] := by
    rintro rfl
    rw [← htrim, List.append_nil, trim, endsIn_dropEndWhile] at h
    cases h
  refine ⟨run, hne, hrun, fun n => ?_⟩
  rw [core_append_separators_succ, ← htrim, dropEndWhile_eq_self_iff, endsIn_append _ _ hne]
  exact endsIn_separator_of_blank (endsIn_of_forall hne hrun)

section

variable {cs run : List Char} {n : Nat} (hrun : ∀ c ∈ run, isBlank c = true)
  (hcore : core (cs ++ separators (n + 1)) = trim cs ++ run)

include hrun hcore

/-- If nothing separates segments, the blanks become a part of the id. -/
theorem lastSegment_append_separators_of_not_mem (h : '/' ∉ trim cs) :
    lastSegment (cs ++ separators (n + 1)) = trim cs ++ run := by
  have hsingle : '/' ∉ trim cs ++ run := by simp [h, separator_not_mem_of_blank hrun]
  rw [lastSegment_of_not_mem (hcore ▸ hsingle), hcore]

/-- Otherwise they are removed from the segment that they follow, which may be empty. -/
theorem lastSegment_append_separators_of_afterLast {segment : List Char}
    (h : afterLast '/' (trim cs) = some segment) :
    lastSegment (cs ++ separators (n + 1)) = trim segment := by
  have hafter : afterLast '/' (core (cs ++ separators (n + 1))) = some (segment ++ run) := by
    rw [hcore, afterLast_append, afterLast_eq_none_iff.mpr (separator_not_mem_of_blank hrun), h]
    rfl
  rw [lastSegment_of_afterLast hafter, trim_append_of_blank_right hrun]

end

/-- Separators behind an unsettled address change the id in it. -/
theorem lastSegment_append_separators_ne {cs : List Char} (h : IsUnsettled cs) (n : Nat) :
    lastSegment (cs ++ separators (n + 1)) ≠ lastSegment cs := by
  obtain ⟨hends, hid, hseparated⟩ := h
  have hne : cs.dropWhile isBlank ≠ [] := by
    intro hnil
    have htrim : trim cs = [] := trim_eq_nil_iff.mpr hnil
    rw [lastSegment_of_not_mem_trim (by rw [htrim]; exact List.not_mem_nil)] at hid
    exact hid htrim
  have hblank : endsIn isBlank (cs.dropWhile isBlank) = true := by
    rw [endsIn_of_suffix (List.dropWhile_suffix isBlank) hne, hends]
  obtain ⟨run, hrun, hblanks, hcore⟩ := exists_core_append_separators_eq hblank
  by_cases hmem : '/' ∈ trim cs
  · rw [lastSegment_append_separators_of_afterLast hblanks (hcore n)
      (afterLast_of_endsIn (hseparated hmem))]
    exact hid.symm
  · rw [lastSegment_append_separators_of_not_mem hblanks (hcore n) hmem,
      lastSegment_of_not_mem_trim hmem]
    exact fun heq => hrun (List.append_right_eq_self.mp heq)

/-- Behind any other address they are ignored. -/
theorem lastSegment_append_separators {cs : List Char} (h : ¬ IsUnsettled cs) (n : Nat) :
    lastSegment (cs ++ separators (n + 1)) = lastSegment cs := by
  cases hblank : endsIn isBlank (cs.dropWhile isBlank) with
  | false => exact lastSegment_congr (core_append_separators hblank (n + 1))
  | true =>
      have hne : cs.dropWhile isBlank ≠ [] := by
        intro hnil
        rw [hnil] at hblank
        cases hblank
      have hends : endsIn isBlank cs = true := by
        rw [← endsIn_of_suffix (List.dropWhile_suffix isBlank) hne, hblank]
      obtain ⟨run, -, hrun, hcore⟩ := exists_core_append_separators_eq hblank
      cases hlast : afterLast '/' (trim cs) with
      | none =>
          have hmem : '/' ∉ trim cs := afterLast_eq_none_iff.mp hlast
          have hid : lastSegment cs ≠ [] := by
            rw [lastSegment_of_not_mem_trim hmem]
            exact fun htrim => hne (trim_eq_nil_iff.mp htrim)
          exact absurd ⟨hends, hid, fun h => absurd h hmem⟩ h
      | some segment =>
          rw [lastSegment_append_separators_of_afterLast hrun (hcore n) hlast]
          cases hend : endsIn isSeparator (trim cs) with
          | false =>
              have hsame : core cs = trim cs := dropEndWhile_eq_self_iff.mpr hend
              rw [lastSegment_of_afterLast (hsame ▸ hlast)]
          | true =>
              have hid : lastSegment cs = [] :=
                not_not.mp fun hid => h ⟨hends, hid, fun _ => hend⟩
              rw [afterLast_of_endsIn hend] at hlast
              rw [hid, ← Option.some.inj hlast, trim_nil]

/-- **Separators behind an address are ignored exactly if it is not unsettled.** -/
theorem lastSegment_append_separators_eq_iff (cs : List Char) (n : Nat) :
    lastSegment (cs ++ separators n) = lastSegment cs ↔ n = 0 ∨ ¬ IsUnsettled cs := by
  cases n with
  | zero => simp [separators]
  | succ n =>
      rw [or_iff_right (Nat.succ_ne_zero n)]
      exact ⟨fun heq h => lastSegment_append_separators_ne h n heq,
        fun h => lastSegment_append_separators h n⟩

/-- Blanks behind a segment do no harm if another segment stands in front of it. -/
example : IsUnsettled "5 ".toList ∧ IsUnsettled "/node/5/ ".toList ∧
    ¬ IsUnsettled "/node/5 ".toList := by
  decide

/-- Neither blanks around the address of a node nor separators behind it make a difference. -/
theorem core_padded_node (base id : List Char) {before after : List Char}
    (hbefore : ∀ c ∈ before, isBlank c = true) (hafter : ∀ c ∈ after, isBlank c = true) (n : Nat) :
    core (before ++ node base id ++ separators n ++ after) = core (node base id) := by
  have hend : endsIn isBlank ((node base id).dropWhile isBlank) = false := by
    rw [← trim_node, dropWhile_trim, trim, endsIn_dropEndWhile]
  rw [core, trim_append_of_blank_right hafter, List.append_assoc,
    trim_append_of_blank_left hbefore, ← core, core_append_separators hend]

end Address

open Text Address

/-- **An id stays the same when separators follow its address, unless the address is unsettled.**  It
never has a separator, and it never begins with a blank. It ends with one exactly if the address is
one segment that does, with separators behind it; then, and only then, what is read off the id is not
the id itself but the id without its blanks. -/
theorem resourceId_unchanged_iff (url : String) :
    (∀ n, resourceId (url ++ String.ofList (separators n)) = resourceId url ↔
      n = 0 ∨ ¬ IsUnsettled url.toList) ∧
    '/' ∉ (resourceId url).toList ∧
    (resourceId url).toList.dropWhile isBlank = (resourceId url).toList ∧
    (endsIn isBlank (resourceId url).toList = true ↔
      ∃ segment n, '/' ∉ segment ∧ endsIn isBlank segment = true ∧
        trim url.toList = segment ++ separators (n + 1)) ∧
    resourceId (resourceId url) = trimmed (resourceId url) ∧
    (resourceId (resourceId url) = resourceId url ↔
      endsIn isBlank (resourceId url).toList = false) := by
  have hagain : resourceId (resourceId url) = trimmed (resourceId url) := by
    rw [← String.toList_inj, toList_trimmed, toList_resourceId, toList_resourceId]
    exact lastSegment_lastSegment url.toList
  refine ⟨fun n => ?_, ?_, ?_, ?_, hagain, ?_⟩
  · rw [← String.toList_inj, toList_resourceId, toList_resourceId, String.toList_append,
      String.toList_ofList]
    exact lastSegment_append_separators_eq_iff url.toList n
  · rw [toList_resourceId]
    exact separator_not_mem_lastSegment url.toList
  · rw [toList_resourceId]
    exact dropWhile_lastSegment url.toList
  · rw [toList_resourceId]
    exact endsIn_lastSegment_iff
  · rw [hagain, ← String.toList_inj, toList_trimmed, toList_resourceId, trim,
      dropWhile_lastSegment]
    exact dropEndWhile_eq_self_iff

/-- A separator behind `5` and a blank makes the blank a part of the id, which then is not its own id.
Behind `/node/5/` and a blank it leaves no id at all. -/
theorem resourceId_changed_by_separators :
    ¬ resourceId ("5 " ++ String.ofList (separators 1)) = resourceId "5 " ∧
    resourceId "5 " = "5" ∧ resourceId "5 /" = "5 " ∧
    ¬ endsIn isBlank (resourceId "5 /").toList = false ∧
    ¬ resourceId (resourceId "5 /") = resourceId "5 /" ∧
    ¬ resourceId ("/node/5/ " ++ String.ofList (separators 1)) = resourceId "/node/5/ " ∧
    resourceId "/node/5/ " = "5" ∧ resourceId "/node/5/ /" = "" := by
  decide +kernel

/-- **An id comes back through blanks and separators exactly if it is one segment**, whatever the base
of its address is. -/
theorem resourceId_padded_nodeAddress_eq_iff (base id before after : String) (n : Nat)
    (hbefore : ∀ c ∈ before.toList, isBlank c = true)
    (hafter : ∀ c ∈ after.toList, isBlank c = true) :
    resourceId (before ++ nodeAddress base id ++ String.ofList (separators n) ++ after) =
      trimmed id ↔ trimmed id ≠ "" ∧ '/' ∉ (trimmed id).toList := by
  have hpadded : resourceId (before ++ nodeAddress base id ++ String.ofList (separators n) ++ after) =
      resourceId (nodeAddress base id) := by
    rw [← String.toList_inj, toList_resourceId, toList_resourceId]
    simp only [String.toList_append, String.toList_ofList, toList_nodeAddress]
    exact lastSegment_congr (core_padded_node _ _ hbefore hafter n)
  rw [hpadded]
  exact resourceId_nodeAddress_eq_iff base id

/-- The base has blanks around it and separators at its end, and the address has them as well. An id
with a blank inside comes back; one with a separator and one of blanks do not. -/
theorem resourceId_padded_nodeAddress_with_blanks :
    let address (id : String) :=
      "\n " ++ nodeAddress " http://h// " id ++ String.ofList (separators 2) ++ "\t"
    (∀ c ∈ "\n ".toList, isBlank c = true) ∧ (∀ c ∈ "\t".toList, isBlank c = true) ∧
    resourceId (address " a b ") = "a b" ∧ resourceId (address "a/b") ≠ "a/b" ∧
    resourceId (address " ") ≠ "" := by
  intro address
  have hbefore : ∀ c ∈ "\n ".toList, isBlank c = true := List.all_eq_true.mp (by decide)
  have hafter : ∀ c ∈ "\t".toList, isBlank c = true := List.all_eq_true.mp (by decide)
  have hiff (id : String) :=
    resourceId_padded_nodeAddress_eq_iff " http://h// " id "\n " "\t" 2 hbefore hafter
  refine ⟨hbefore, hafter, ?_, ?_, ?_⟩
  · exact ((hiff " a b ").mpr (by decide)).trans (by decide)
  · exact fun h => absurd ((hiff "a/b").mp h) (by decide)
  · exact fun h => absurd ((hiff " ").mp h) (by decide)

end GraphBrowser
