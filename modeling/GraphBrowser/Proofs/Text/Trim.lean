import GraphBrowser.Text.Blank
import Mathlib.Data.List.DropRight

/-!
# Cutting texts at their ends

What is dropped at the end of a concatenation, what follows its last separator, and that a text
without blanks at its ends stays as it is when blanks are removed.

## Main definitions

* `Text.endsIn` — whether the last character of a text is in a class

## Main statements

* `Text.dropEndWhile_append`, `Text.afterLast_append` — the ends of a concatenation
* `Text.dropEndWhile_eq_self_iff`, `Text.dropEndWhile_eq_nil_iff` — when all of a text is left, and
  when nothing is
* `Text.trim_trim`, `trimmed_trimmed` — **the blanks are gone at once**
* `Text.trim_append_of_blank_left`, `Text.trim_append_of_blank_right` — blanks around a text are no
  part of it
-/

namespace GraphBrowser

namespace Text

/-! ### What is dropped at the end -/

/-- A run at the end of a concatenation reaches into the first part only if it covers the second. -/
theorem dropEndWhile_append (p : Char → Bool) (cs ds : List Char) :
    dropEndWhile p (cs ++ ds) =
      if dropEndWhile p ds = [] then dropEndWhile p cs else cs ++ dropEndWhile p ds := by
  induction cs with
  | nil =>
      rw [List.nil_append, List.nil_append, dropEndWhile_nil]
      split
      · assumption
      · rfl
  | cons c cs ih =>
      rw [List.cons_append, dropEndWhile_cons, ih]
      by_cases hds : dropEndWhile p ds = []
      · rw [if_pos hds, if_pos hds, dropEndWhile_cons]
      · rw [if_neg hds, if_neg hds, if_neg (by simp [hds]), List.cons_append]

/-- A text that ends with a character out of the class stays as it is. -/
theorem dropEndWhile_concat {p : Char → Bool} {c : Char} (hc : p c = false) (cs : List Char) :
    dropEndWhile p (cs ++ [c]) = cs ++ [c] := by
  have hlast : dropEndWhile p [c] = [c] := by
    rw [dropEndWhile_cons, dropEndWhile_nil, if_pos rfl, hc, if_neg Bool.false_ne_true]
  rw [dropEndWhile_append, hlast, if_neg (List.cons_ne_nil c [])]

/-- The same is left when the text is read from its end. -/
theorem dropEndWhile_eq_rdropWhile (p : Char → Bool) (cs : List Char) :
    dropEndWhile p cs = cs.rdropWhile p := by
  induction cs using List.reverseRecOn with
  | nil => rw [dropEndWhile_nil, List.rdropWhile_nil]
  | append_singleton cs c ih =>
      rw [dropEndWhile_append, List.rdropWhile_concat, ← ih, dropEndWhile_cons, dropEndWhile_nil,
        if_pos rfl]
      by_cases hc : p c = true
      · rw [if_pos hc, if_pos rfl, if_pos hc]
      · rw [if_neg hc, if_neg (List.cons_ne_nil c []), if_neg hc]

/-- Dropping characters at the end leaves a beginning of the text. -/
theorem dropEndWhile_isPrefix (p : Char → Bool) (cs : List Char) : dropEndWhile p cs <+: cs := by
  rw [dropEndWhile_eq_rdropWhile]
  exact List.rdropWhile_prefix p cs

/-- Characters of a class that are dropped at the end are gone at once. -/
theorem dropEndWhile_dropEndWhile (p : Char → Bool) (cs : List Char) :
    dropEndWhile p (dropEndWhile p cs) = dropEndWhile p cs := by
  rw [dropEndWhile_eq_rdropWhile, dropEndWhile_eq_rdropWhile, List.rdropWhile_idempotent]

/-- Nothing is left exactly if all characters are in the class. -/
theorem dropEndWhile_eq_nil_iff {p : Char → Bool} {cs : List Char} :
    dropEndWhile p cs = [] ↔ ∀ c ∈ cs, p c = true := by
  rw [dropEndWhile_eq_rdropWhile, List.rdropWhile_eq_nil_iff]

/-- Further characters of the class make no difference. -/
theorem dropEndWhile_append_of_forall {p : Char → Bool} (cs : List Char) {run : List Char}
    (h : ∀ c ∈ run, p c = true) : dropEndWhile p (cs ++ run) = dropEndWhile p cs := by
  rw [dropEndWhile_append, if_pos (dropEndWhile_eq_nil_iff.mpr h)]

/-- A text is what is left of it, followed by a run of the class. -/
theorem exists_dropEndWhile_append_eq (p : Char → Bool) (cs : List Char) :
    ∃ run, (∀ c ∈ run, p c = true) ∧ dropEndWhile p cs ++ run = cs := by
  refine ⟨cs.rtakeWhile p, fun c => List.mem_rtakeWhile_imp, ?_⟩
  rw [dropEndWhile_eq_rdropWhile, List.rdropWhile_append_rtakeWhile]

/-- Whether the text has a last character and this is in the class. -/
def endsIn (p : Char → Bool) (cs : List Char) : Bool := cs.getLast?.any p

@[simp] theorem endsIn_nil (p : Char → Bool) : endsIn p [] = false := rfl

@[simp] theorem endsIn_concat (p : Char → Bool) (cs : List Char) (c : Char) :
    endsIn p (cs ++ [c]) = p c := by
  rw [endsIn, List.getLast?_concat, Option.any_some]

/-- The second part of a concatenation decides how it ends, if there is one. -/
theorem endsIn_append (p : Char → Bool) (cs : List Char) {ds : List Char} (h : ds ≠ []) :
    endsIn p (cs ++ ds) = endsIn p ds := by
  obtain ⟨front, last, rfl⟩ := List.eq_nil_or_concat' ds |>.resolve_left h
  rw [← List.append_assoc, endsIn_concat, endsIn_concat]

/-- So does an end of a text, unless it is empty. -/
theorem endsIn_of_suffix {p : Char → Bool} {cs ds : List Char} (hsuffix : ds <:+ cs)
    (hne : ds ≠ []) : endsIn p ds = endsIn p cs := by
  obtain ⟨front, rfl⟩ := hsuffix
  exact (endsIn_append p front hne).symm

/-- A run of the class ends in the class. -/
theorem endsIn_of_forall {p : Char → Bool} {cs : List Char} (hne : cs ≠ [])
    (h : ∀ c ∈ cs, p c = true) : endsIn p cs = true := by
  obtain ⟨front, last, rfl⟩ := List.eq_nil_or_concat' cs |>.resolve_left hne
  rw [endsIn_concat]
  exact h last (by simp)

/-- All of a text is left exactly if it does not end in the class. -/
theorem dropEndWhile_eq_self_iff {p : Char → Bool} {cs : List Char} :
    dropEndWhile p cs = cs ↔ endsIn p cs = false := by
  rw [dropEndWhile_eq_rdropWhile, List.rdropWhile_eq_self_iff]
  rcases List.eq_nil_or_concat' cs with rfl | ⟨front, last, rfl⟩
  · simp
  · simp

/-- So what is left does not end in the class. -/
@[simp] theorem endsIn_dropEndWhile (p : Char → Bool) (cs : List Char) :
    endsIn p (dropEndWhile p cs) = false :=
  dropEndWhile_eq_self_iff.mp (dropEndWhile_dropEndWhile p cs)

/-! ### Blanks at the ends -/

/-- A text that begins with no blank has no beginning that does. -/
theorem dropWhile_eq_self_of_prefix {p : Char → Bool} {cs ds : List Char}
    (hcs : cs.dropWhile p = cs) (hds : ds <+: cs) : ds.dropWhile p = ds := by
  cases ds with
  | nil => rfl
  | cons d ds =>
      obtain ⟨rest, rfl⟩ := hds
      rw [List.dropWhile_eq_self_iff] at hcs ⊢
      intro _
      exact hcs (by simp)

/-- A trimmed text begins with no blank. -/
theorem dropWhile_trim (cs : List Char) : (trim cs).dropWhile isBlank = trim cs :=
  dropWhile_eq_self_of_prefix (List.dropWhile_idempotent isBlank cs) (dropEndWhile_isPrefix _ _)

/-- A trimmed text ends with no blank. -/
theorem dropEndWhile_trim (cs : List Char) : dropEndWhile isBlank (trim cs) = trim cs :=
  dropEndWhile_dropEndWhile isBlank _

/-- **The blanks are gone at once.** -/
@[simp] theorem trim_trim (cs : List Char) : trim (trim cs) = trim cs := by
  calc trim (trim cs) = dropEndWhile isBlank ((trim cs).dropWhile isBlank) := rfl
    _ = dropEndWhile isBlank (trim cs) := by rw [dropWhile_trim]
    _ = trim cs := dropEndWhile_trim cs

/-- Nothing is in a trimmed text that was not in it before. -/
theorem mem_of_mem_trim {c : Char} {cs : List Char} (h : c ∈ trim cs) : c ∈ cs :=
  (List.dropWhile_suffix isBlank).mem ((dropEndWhile_isPrefix isBlank _).mem h)

/-- Nothing is left of a text exactly if there is nothing behind the blanks that it begins with. -/
theorem trim_eq_nil_iff {cs : List Char} : trim cs = [] ↔ cs.dropWhile isBlank = [] := by
  constructor
  · intro h
    rw [trim, dropEndWhile_eq_nil_iff, ← List.dropWhile_eq_nil_iff,
      List.dropWhile_idempotent] at h
    exact h
  · intro h
    rw [trim, h, dropEndWhile_nil]

/-- Blanks in front of a text are no part of it. -/
theorem trim_append_of_blank_left {run : List Char} (h : ∀ c ∈ run, isBlank c = true)
    (cs : List Char) : trim (run ++ cs) = trim cs := by
  rw [trim, List.dropWhile_append_of_pos h, ← trim]

/-- Neither are blanks behind it. -/
theorem trim_append_of_blank_right {run : List Char} (h : ∀ c ∈ run, isBlank c = true)
    (cs : List Char) : trim (cs ++ run) = trim cs := by
  rw [trim, List.dropWhile_append, trim]
  split
  · rename_i hempty
    rw [List.isEmpty_iff] at hempty
    rw [hempty, List.dropWhile_eq_nil_iff.mpr h]
  · exact dropEndWhile_append_of_forall _ h

/-! ### After the last separator -/

/-- The second part of a concatenation decides what follows the last separator, if it has one. -/
theorem afterLast_append (separator : Char) (cs ds : List Char) :
    afterLast separator (cs ++ ds) =
      (afterLast separator ds).or ((afterLast separator cs).map (· ++ ds)) := by
  induction cs with
  | nil => simp
  | cons c cs ih =>
      rw [List.cons_append, afterLast_cons, ih, afterLast_cons]
      cases afterLast separator ds with
      | some rest => rfl
      | none =>
          cases afterLast separator cs with
          | some rest => rfl
          | none =>
              simp only [Option.map_none, Option.or_none, Option.none_or]
              split <;> rfl

/-- Nothing follows the last separator of a text exactly if it has none. -/
theorem afterLast_eq_none_iff {separator : Char} {cs : List Char} :
    afterLast separator cs = none ↔ separator ∉ cs := by
  induction cs with
  | nil => simp
  | cons c cs ih =>
      rw [afterLast_cons, Option.or_eq_none_iff, ih, List.mem_cons, not_or]
      by_cases hc : c = separator
      · simp [hc]
      · simp [hc, Ne.symm hc]

/-- What follows the last separator has none. -/
theorem not_mem_of_afterLast {separator : Char} {cs rest : List Char}
    (h : afterLast separator cs = some rest) : separator ∉ rest := by
  induction cs with
  | nil => cases h
  | cons c cs ih =>
      rw [afterLast_cons] at h
      cases hcs : afterLast separator cs with
      | some later =>
          rw [hcs] at h
          cases h
          exact ih hcs
      | none =>
          rw [hcs, Option.none_or] at h
          split at h
          · cases h
            exact afterLast_eq_none_iff.mp hcs
          · cases h

end Text

/-- **The blanks are gone at once.** -/
@[simp] theorem trimmed_trimmed (text : String) : trimmed (trimmed text) = trimmed text := by
  rw [trimmed, toList_trimmed, Text.trim_trim, trimmed]

end GraphBrowser
