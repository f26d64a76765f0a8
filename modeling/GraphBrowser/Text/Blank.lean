import GraphBrowser.Text.Ends

/-!
# Blank characters

The characters that count as white space around a typed id, a resource address or a base address,
and their removal at both ends of a text.

## Main definitions

* `Text.blanks`, `Text.isBlank` — the Unicode property `White_Space`
* `Text.trim`, `trimmed` — a text without the blanks at its ends

## Design notes

**The class is the property and nothing else.** A zero width space, a byte order mark and the
information separators do not belong to it, although they look empty on a screen.
-/

namespace GraphBrowser.Text

/-- The 25 characters with the Unicode property `White_Space`. -/
def blanks : List Char :=
  ['\t', '\n', '\x0b', '\x0c', '\r', ' ', '\x85', '\xa0', '\u1680', '\u2000', '\u2001', '\u2002',
   '\u2003', '\u2004', '\u2005', '\u2006', '\u2007', '\u2008', '\u2009', '\u200a', '\u2028',
   '\u2029', '\u202f', '\u205f', '\u3000']

/-- Whether a character is white space. -/
def isBlank (c : Char) : Bool :=
  blanks.contains c

/-- The text without the blanks at its two ends. -/
def trim (cs : List Char) : List Char :=
  dropEndWhile isBlank (cs.dropWhile isBlank)

@[simp] theorem trim_nil : trim [] = [] := rfl

example : blanks.length = 25 := rfl

end GraphBrowser.Text

namespace GraphBrowser

/-- The text without the blanks at its two ends. -/
def trimmed (text : String) : String :=
  String.ofList (Text.trim text.toList)

@[simp] theorem toList_trimmed (text : String) : (trimmed text).toList = Text.trim text.toList := by
  simp [trimmed]

end GraphBrowser
