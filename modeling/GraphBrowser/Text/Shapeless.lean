import GraphBrowser.Text.Mark
import GraphBrowser.Text.Unseen

/-!
# Characters without a shape of their own

What is not seen has no shape, and a mark that only extends the character before it has none by
itself. Quoted text writes all such characters as numbers.

## Main definitions

* `Text.fillers` — the letters that only fill a place
* `Text.isShapeless` — whether a character has no shape of its own

## Design notes

The fillers are letters of the Korean script that stand where a syllable lacks a consonant or a
vowel; nothing of them is drawn. The space is the one character without a shape that is not counted.
-/

namespace GraphBrowser.Text

/-- The letters that only fill a place. -/
def fillers : CodePoints :=
  #[(0x115F, 0x1160), (0x3164, 0x3164), (0xFFA0, 0xFFA0)]

/-- Whether a character has no shape of its own. -/
def isShapeless (c : Char) : Bool :=
  c != ' ' && (isUnseen c || isExtending c || fillers.has c)

end GraphBrowser.Text
