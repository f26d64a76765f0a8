import GraphBrowser.Text.Shapeless

/-!
# Quoted text

A text inside a message, between double quotes and on one line.

## Main definitions

* `Text.quoteChar` — one character as it stands between the quotes
* `quoted` — the text with its quotes

## Design notes

The quote and the backslash are written behind a backslash, four control characters have a letter,
and every other character without a shape of its own is the number of its code point. The single
quote stands for itself.
-/

namespace GraphBrowser.Text

/-- A character as it stands between the quotes. -/
def quoteChar (c : Char) : List Char :=
  match c with
  | '\x00' => ['\\', '0']
  | '\t' => ['\\', 't']
  | '\n' => ['\\', 'n']
  | '\r' => ['\\', 'r']
  | '"' => ['\\', '"']
  | '\\' => ['\\', '\\']
  | c =>
    if isShapeless c then ['\\', 'u', '\x7b'] ++ Nat.toDigits 16 c.toNat ++ ['\x7d'] else [c]

/-- The characters between the quotes. -/
def quote (cs : List Char) : List Char :=
  cs.flatMap quoteChar

end GraphBrowser.Text

namespace GraphBrowser

/-- The text between double quotes. -/
def quoted (text : String) : String :=
  String.ofList ('"' :: Text.quote text.toList ++ ['"'])

end GraphBrowser
