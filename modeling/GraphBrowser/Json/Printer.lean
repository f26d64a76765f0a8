import GraphBrowser.Json.Value

/-!
# Compact JSON text

The one text that is written for a value: no blanks between tokens, members in the order of the
value, and the shortest text of each number.

## Main definitions

* `Number.text`, `Json.stringText` — the text of a number and of a string
* `Json.text` — the text of a value
-/

namespace GraphBrowser

/-- An integer in decimal digits, a double by its shortest decimal. -/
def Number.text : Number → String
  | .integer n => toString n
  | .double x => x.text

namespace Json

/-- A character as it is written in a string. Five control characters have a letter, the others a
number; everything from the space on but the quote and the backslash stands for itself. -/
def stringChar (c : Char) : List Char :=
  match c with
  | '"' => ['\\', '"']
  | '\\' => ['\\', '\\']
  | '\x08' => ['\\', 'b']
  | '\x0c' => ['\\', 'f']
  | '\n' => ['\\', 'n']
  | '\r' => ['\\', 'r']
  | '\t' => ['\\', 't']
  | c =>
    if c.toNat < 0x20 then
      ['\\', 'u', '0', '0', Nat.digitChar (c.toNat / 16), Nat.digitChar (c.toNat % 16)]
    else [c]

/-- A string between its quotes. -/
def stringText (s : String) : String :=
  String.ofList ('"' :: s.toList.flatMap stringChar ++ ['"'])

mutual

/-- The compact text of a value. -/
def text : Json → String
  | .null => "null"
  | .bool true => "true"
  | .bool false => "false"
  | .number n => n.text
  | .string s => stringText s
  | .array elements => "[" ++ elementsText elements ++ "]"
  | .object members => "\x7b" ++ membersText members ++ "\x7d"

/-- The texts of the elements with commas between them. -/
def elementsText : List Json → String
  | [] => ""
  | [value] => value.text
  | value :: next :: rest => value.text ++ "," ++ elementsText (next :: rest)

/-- The texts of the members with commas between them. -/
def membersText : List (String × Json) → String
  | [] => ""
  | [(key, value)] => stringText key ++ ":" ++ value.text
  | (key, value) :: next :: rest =>
    stringText key ++ ":" ++ value.text ++ "," ++ membersText (next :: rest)

end

end Json

end GraphBrowser
