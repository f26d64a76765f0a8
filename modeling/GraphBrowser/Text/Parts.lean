/-!
# Parts of a text

A text that is taken apart at a character, or into its lines.

## Main definitions

* `Text.splitOn` — the parts between the occurrences of a character
* `Text.lines` — the lines of a text

## Design notes

Taking apart at a character always gives at least one part, and the parts with the character between
them are the text again. A line ends with a line feed, or with a carriage return and a line feed;
the end of the last line need not be marked.
-/

namespace GraphBrowser.Text

/-- The parts between the occurrences of a character; always at least one. -/
def splitOn (separator : Char) : List Char → List (List Char)
  | [] => [[]]
  | c :: cs =>
    if c = separator then [] :: splitOn separator cs
    else
      match splitOn separator cs with
      | [] => [[c]]
      | part :: parts => (c :: part) :: parts

/-- A line without the carriage return at its end. -/
def withoutReturn (line : List Char) : List Char :=
  if line.getLast? = some '\r' then line.dropLast else line

/-- The lines of a text, without what ends them. -/
def lines (cs : List Char) : List (List Char) :=
  match (splitOn '\n' cs).reverse with
  | [] => []
  | last :: ended =>
    ended.reverse.map withoutReturn ++ if last.isEmpty then [] else [last]

end GraphBrowser.Text
