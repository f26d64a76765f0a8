/-!
# Escaped text

Text inside a page stands in element content or between the quotes of an attribute. Five
characters could end it there, and each is written as a reference.

## Main definitions

* `Text.reference?` — the reference that stands for a character
* `Text.escape`, `escaped` — the text with its five dangerous characters replaced
* `Text.unescape`, `unescaped` — the text with the five references read back, from left to right

## Design notes

**Escaping is one character at a time**, so that the escape of a concatenation is the concatenation
of the escapes. **Reading back looks at no more than one reference at a time**, and an ampersand
that begins none of the five stands for itself.
-/

namespace GraphBrowser.Text

/-- The reference written for a character, if it may not stand for itself. -/
def reference? : Char → Option (List Char)
  | '&' => some ['&', 'a', 'm', 'p', ';']
  | '<' => some ['&', 'l', 't', ';']
  | '>' => some ['&', 'g', 't', ';']
  | '"' => some ['&', 'q', 'u', 'o', 't', ';']
  | '\'' => some ['&', '#', '3', '9', ';']
  | _ => none

/-- A character as it is written inside a page. -/
def escapeChar (c : Char) : List Char :=
  (reference? c).getD [c]

/-- The text as it is written inside a page. -/
def escape : List Char → List Char
  | [] => []
  | c :: cs => escapeChar c ++ escape cs

@[simp] theorem escape_nil : escape [] = [] := rfl

@[simp] theorem escape_cons (c : Char) (cs : List Char) :
    escape (c :: cs) = escapeChar c ++ escape cs := rfl

@[simp] theorem escape_append (cs ds : List Char) : escape (cs ++ ds) = escape cs ++ escape ds := by
  induction cs with
  | nil => rfl
  | cons c cs ih => simp [ih]

/-- The text that a page shows: the five references are read back, from left to right. -/
def unescape : List Char → List Char
  | [] => []
  | '&' :: 'a' :: 'm' :: 'p' :: ';' :: cs => '&' :: unescape cs
  | '&' :: 'l' :: 't' :: ';' :: cs => '<' :: unescape cs
  | '&' :: 'g' :: 't' :: ';' :: cs => '>' :: unescape cs
  | '&' :: 'q' :: 'u' :: 'o' :: 't' :: ';' :: cs => '"' :: unescape cs
  | '&' :: '#' :: '3' :: '9' :: ';' :: cs => '\'' :: unescape cs
  | c :: cs => c :: unescape cs

end GraphBrowser.Text

namespace GraphBrowser

/-- The text as it is written inside a page. -/
def escaped (text : String) : String :=
  String.ofList (Text.escape text.toList)

@[simp] theorem toList_escaped (text : String) :
    (escaped text).toList = Text.escape text.toList := by
  simp [escaped]

/-- The text that a page shows for what is written in it. -/
def unescaped (written : String) : String :=
  String.ofList (Text.unescape written.toList)

end GraphBrowser
