/-!
# The two ends of a text

Texts are cut at their end in two ways: a run of unwanted characters is dropped, or everything up
to the last separator is.

## Main definitions

* `Text.dropEndWhile` — the text without its longest final run of characters of a class
* `Text.afterLast` — what follows the last separator, if there is one

## Design notes

Both recurse on the list of characters from the front, so that what they do to a concatenation can
be shown by induction on its first part.
-/

namespace GraphBrowser.Text

/-- The text without its longest final run of characters in the class `p`. -/
def dropEndWhile (p : Char → Bool) : List Char → List Char
  | [] => []
  | c :: cs =>
    match dropEndWhile p cs with
    | [] => if p c then [] else [c]
    | d :: ds => c :: d :: ds

@[simp] theorem dropEndWhile_nil (p : Char → Bool) : dropEndWhile p [] = [] := rfl

theorem dropEndWhile_cons (p : Char → Bool) (c : Char) (cs : List Char) :
    dropEndWhile p (c :: cs) =
      if dropEndWhile p cs = [] then (if p c then [] else [c]) else c :: dropEndWhile p cs := by
  rw [dropEndWhile]
  cases dropEndWhile p cs with
  | nil => rfl
  | cons d ds => rfl

/-- What follows the last occurrence of `separator`, or `none` if it does not occur. -/
def afterLast (separator : Char) : List Char → Option (List Char)
  | [] => none
  | c :: cs =>
    match afterLast separator cs with
    | some rest => some rest
    | none => if c = separator then some cs else none

@[simp] theorem afterLast_nil (separator : Char) : afterLast separator [] = none := rfl

theorem afterLast_cons (separator c : Char) (cs : List Char) :
    afterLast separator (c :: cs) =
      (afterLast separator cs).or (if c = separator then some cs else none) := by
  rw [afterLast]
  cases afterLast separator cs with
  | none => rfl
  | some rest => rfl

end GraphBrowser.Text
