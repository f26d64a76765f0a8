import GraphBrowser.DomainName.Direction
import GraphBrowser.DomainName.Joining
import GraphBrowser.DomainName.Punycode
import GraphBrowser.Text.Composed

/-!
# Domain names

A domain name is a list of labels. In an address they are separated by points, and each may be
written with any letters or in ASCII.

## Main definitions

* `DomainName.isLabel` — whether a text can be a label
* `DomainName.label?` — the label for a part of a name
* `DomainName.labels?` — the labels of a name

## Design notes

**A name is read before it is taken apart**: each character is replaced by its image, and the whole
is brought into the composed form. A label that is written in ASCII has to stand for one that
reading does not change; it begins with a sign of its own, which no label that it stands for may
begin with. Empty labels are admitted.
-/

namespace GraphBrowser.DomainName

open GraphBrowser.Text

/-- The characters that no label holds. -/
def isForbidden (c : Char) : Bool :=
  c.toNat ≤ 0x20 || c.toNat == 0x7F ||
    ['#', '/', ':', '<', '>', '?', '@', '[', '\\', ']', '^', '|', '%'].contains c

/-- The greatest length of a label that is not ASCII. -/
def maxLength : Nat := 1000

/-- The greatest length of what stands behind the sign of a label that is written in ASCII. -/
def maxWrittenLength : Nat := 2000

/-- Whether all characters are ASCII. -/
def isAscii (label : List Char) : Bool := label.all fun c => decide (c.toNat < 0x80)

/-- The sign of a label that is written in ASCII. -/
def asciiSign : List Char := ['x', 'n', '-', '-']

/-- Whether the text, which has been read, can be a label. -/
def isLabel (label : List Char) : Bool :=
  !label.any isForbidden && !(label.head?.any isMark) && joinersFit label &&
    (isAscii label || decide (label.length ≤ maxLength))

/-- A text as it is read: the images of its characters in the composed form. -/
def read? (text : List Char) : Option (List Char) :=
  (text.mapM image?).map fun images => composed images.flatten

/-- The label that is written in ASCII behind the sign. -/
def ofWritten? (written : List Char) : Option (List Char) :=
  if written.isEmpty ∨ written.getLast? = some '-' ∨ maxWrittenLength < written.length then none
  else
    (Punycode.decode? written).filter fun label =>
      label.all (fun c => image? c == some [c]) && composed label == label &&
        !asciiSign.isPrefixOf label && isLabel label

/-- The label for a part of a name that has been read. -/
def label? (part : List Char) : Option (List Char) :=
  if asciiSign.isPrefixOf part then ofWritten? (part.drop asciiSign.length)
  else if isLabel part then some part
  else none

/-- The labels of a name. -/
def labels? (name : List Char) : Option (List (List Char)) :=
  match read? name with
  | none => none
  | some text => ((splitOn '.' text).mapM label?).filter directionsFit

end GraphBrowser.DomainName
