import GraphBrowser.Text.Escaped

/-!
# Escaped text is safe and can be read back

## Main definitions

* `Text.isDelimiter` — the characters that open or close a tag or a quoted attribute
* `Text.references` — the five references

## Main statements

* `Text.isDelimiter_of_mem_escape` — no escaped text has a delimiter
* `Text.escape_eq_self` — a text in which every character stands for itself is written as it is
* `Text.exists_of_escape_eq_append` — an ampersand is the beginning of what one character is written
  as, and never the end of one character with the beginning of the next
* `Text.unescape_escape` — **a text that is escaped is read back as it was**
* `escaped_safe_and_read_back` — the three of them for texts
-/

namespace GraphBrowser.Text

/-- Whether a character opens or closes a tag or the value of an attribute. -/
def isDelimiter (c : Char) : Bool := ['<', '>', '\'', '"'].contains c

/-- Only five characters have references. -/
theorem mem_of_reference? {c : Char} {reference : List Char} (h : reference? c = some reference) :
    c = '&' ∨ c = '<' ∨ c = '>' ∨ c = '"' ∨ c = '\'' := by
  unfold reference? at h
  split at h <;> simp_all

/-- A character is one of the five, or it stands for itself and is neither a delimiter nor the
beginning of a reference. -/
theorem escapeChar_cases (c : Char) :
    (c = '&' ∨ c = '<' ∨ c = '>' ∨ c = '"' ∨ c = '\'') ∨
    (escapeChar c = [c] ∧ isDelimiter c = false ∧ c ≠ '&') := by
  cases href : reference? c with
  | some reference => exact Or.inl (mem_of_reference? href)
  | none =>
      refine Or.inr ⟨by rw [escapeChar, href, Option.getD_none], ?_, ?_⟩
      · rw [← Bool.not_eq_true]
        intro hdelimiter
        rw [isDelimiter, List.contains_iff_mem] at hdelimiter
        simp only [List.mem_cons, List.not_mem_nil, or_false] at hdelimiter
        rcases hdelimiter with rfl | rfl | rfl | rfl <;> cases href
      · rintro rfl
        cases href

/-- No character is written with a delimiter. -/
theorem isDelimiter_of_mem_escapeChar {c d : Char} (h : d ∈ escapeChar c) :
    isDelimiter d = false := by
  rcases escapeChar_cases c with hspecial | ⟨hself, hdelimiter, -⟩
  · have hall : (escapeChar c).all (fun e => !isDelimiter e) = true := by
      rcases hspecial with rfl | rfl | rfl | rfl | rfl <;> decide
    simpa using List.all_eq_true.mp hall d h
  · rw [hself, List.mem_singleton] at h
    rw [h]
    exact hdelimiter

/-- **No escaped text has a delimiter.** -/
theorem isDelimiter_of_mem_escape {cs : List Char} {d : Char} (h : d ∈ escape cs) :
    isDelimiter d = false := by
  induction cs with
  | nil => cases h
  | cons c cs ih =>
      rcases List.mem_append.mp h with hfirst | hrest
      · exact isDelimiter_of_mem_escapeChar hfirst
      · exact ih hrest

/-- A text in which every character stands for itself is written as it is. -/
theorem escape_eq_self {cs : List Char} (h : ∀ c ∈ cs, escapeChar c = [c]) : escape cs = cs := by
  induction cs with
  | nil => rfl
  | cons c cs ih =>
      obtain ⟨hfirst, hrest⟩ := List.forall_mem_cons.mp h
      rw [escape_cons, hfirst, ih hrest, List.singleton_append]

/-- What begins no reference stands for itself. -/
theorem unescape_cons_of_ne {c : Char} (h : c ≠ '&') (cs : List Char) :
    unescape (c :: cs) = c :: unescape cs := by
  rw [unescape] <;> simp_all

/-- A character that is escaped is read back as it was. -/
theorem unescape_escapeChar_append (c : Char) (cs : List Char) :
    unescape (escapeChar c ++ cs) = c :: unescape cs := by
  rcases escapeChar_cases c with hspecial | ⟨hself, -, hne⟩
  · rcases hspecial with rfl | rfl | rfl | rfl | rfl <;> rfl
  · rw [hself]
    exact unescape_cons_of_ne hne cs

/-- **A text that is escaped is read back as it was.** -/
@[simp] theorem unescape_escape (cs : List Char) : unescape (escape cs) = cs := by
  induction cs with
  | nil => rfl
  | cons c cs ih => rw [escape_cons, unescape_escapeChar_append, ih]

/-! ### Ampersands -/

/-- The five references that are written. -/
def references : List (List Char) :=
  ["&amp;".toList, "&lt;".toList, "&gt;".toList, "&quot;".toList, "&#39;".toList]

/-- What is written for a character that may not stand for itself is one of the five references. -/
theorem mem_references {c : Char} {reference : List Char} (h : reference? c = some reference) :
    reference ∈ references := by
  unfold reference? at h
  split at h <;> cases h <;> simp [references]

/-- A reference begins with its only ampersand. -/
theorem exists_eq_cons_of_reference? {c : Char} {reference : List Char}
    (h : reference? c = some reference) : ∃ name, reference = '&' :: name ∧ '&' ∉ name := by
  unfold reference? at h
  split at h <;> cases h <;> exact ⟨_, rfl, by decide⟩

/-- An ampersand in what is written for a character is at the beginning of a reference. -/
theorem reference?_of_escapeChar_eq_append {c : Char} {before rest : List Char}
    (h : escapeChar c = before ++ '&' :: rest) :
    before = [] ∧ reference? c = some ('&' :: rest) := by
  cases href : reference? c with
  | none =>
      -- the character would stand for itself, but an ampersand does not
      rw [escapeChar, href, Option.getD_none] at h
      obtain ⟨rfl, hc, -⟩ : before = [] ∧ c = '&' ∧ rest = [] := by
        cases before <;> simp_all
      rw [hc] at href
      cases href
  | some reference =>
      obtain ⟨name, rfl, hname⟩ := exists_eq_cons_of_reference? href
      rw [escapeChar, href, Option.getD_some] at h
      cases before with
      | nil => exact ⟨rfl, congrArg some h⟩
      | cons d before =>
          obtain ⟨-, hrest⟩ := List.cons_eq_cons.mp h
          exact absurd (hrest ▸ by simp) hname

/-- **An ampersand begins the reference of one character**, and what stands before and after this
reference is written for the characters before and after that one. No reference comes about where
one character meets the next. -/
theorem exists_of_escape_eq_append {cs before rest : List Char}
    (h : escape cs = before ++ '&' :: rest) :
    ∃ front c back reference, cs = front ++ c :: back ∧ before = escape front ∧
      reference? c = some reference ∧ '&' :: rest = reference ++ escape back := by
  induction cs generalizing before with
  | nil => simp at h
  | cons c cs ih =>
      rw [escape_cons, List.append_eq_append_iff] at h
      -- the ampersand stands behind the first character, or in what is written for it
      rcases h with ⟨before', rfl, hcs⟩ | ⟨written, hwritten, hrest⟩
      · obtain ⟨front, d, back, reference, rfl, rfl, href, hrest⟩ := ih hcs
        exact ⟨c :: front, d, back, reference, rfl, rfl, href, hrest⟩
      · cases written with
        | nil =>
            have hcs : escape cs = [] ++ '&' :: rest := hrest.symm
            obtain ⟨front, d, back, reference, rfl, hfront, href, hback⟩ := ih hcs
            refine ⟨c :: front, d, back, reference, rfl, ?_, href, hback⟩
            rw [escape_cons, hwritten, ← hfront, List.append_nil, List.append_nil]
        | cons d written =>
            obtain ⟨rfl, rfl⟩ := List.cons_eq_cons.mp hrest
            obtain ⟨rfl, href⟩ := reference?_of_escapeChar_eq_append hwritten
            exact ⟨[], c, cs, _, rfl, rfl, href, rfl⟩

end GraphBrowser.Text

namespace GraphBrowser

open Text

/-- **Escaped text is safe, and it is read back as it was.**  It has none of the four delimiters, every
ampersand in it begins one of the five references, and reading these references from left to right
gives the text again, whatever references or parts of references the text itself has. -/
theorem escaped_safe_and_read_back (text : String) :
    (∀ c ∈ (escaped text).toList, c ≠ '<' ∧ c ≠ '>' ∧ c ≠ '"' ∧ c ≠ '\'') ∧
    (∀ rest, '&' :: rest <:+ (escaped text).toList →
      ∃ reference ∈ references, reference <+: '&' :: rest) ∧
    unescaped (escaped text) = text := by
  rw [unescaped, toList_escaped]
  refine ⟨?_, ?_, ?_⟩
  · intro c hmem
    have hdelimiter := isDelimiter_of_mem_escape hmem
    refine ⟨?_, ?_, ?_, ?_⟩ <;> rintro rfl <;> cases hdelimiter
  · rintro rest ⟨before, hbefore⟩
    obtain ⟨-, c, back, reference, -, -, href, hrest⟩ := exists_of_escape_eq_append hbefore.symm
    exact ⟨reference, mem_references href, escape back, hrest.symm⟩
  · rw [unescape_escape, String.ofList_toList]

/-- The text has a whole reference, parts of one with a delimiter between them, and an ampersand at its
end. -/
theorem escaped_text_with_references :
    let text := "&lt;<b>&am'p;\"&"
    escaped text = "&amp;lt;&lt;b&gt;&amp;am&#39;p;&quot;&amp;" ∧
    '\'' ∉ (escaped text).toList ∧
    (∃ reference ∈ references, reference <+: "&amp;am&#39;p;&quot;&amp;".toList) ∧
    unescaped (escaped text) = text := by
  intro text
  obtain ⟨hsafe, hreference, hback⟩ := escaped_safe_and_read_back text
  refine ⟨by decide +kernel, fun hmem => (hsafe _ hmem).2.2.2 rfl, ?_, hback⟩
  exact hreference "amp;am&#39;p;&quot;&amp;".toList ⟨"&amp;lt;&lt;b&gt;".toList, by decide +kernel⟩

end GraphBrowser
