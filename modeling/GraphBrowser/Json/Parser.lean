import GraphBrowser.Json.Value

/-!
# Reading JSON text

A JSON text is read from its bytes. What is wrong with a text is told together with the place where
it was noticed.

## Main definitions

* `Json.SyntaxError` — a cause, a line and a column
* `Json.Cursor` — the bytes that are still to be read and the place before them
* `Json.parse` — the value of a text, or the first error in it

## Design notes

**A place is that of the byte at which an error was noticed**: lines are counted from one, columns
are bytes in the line, and at the end of the text the column is the length of the last line. An
error is noticed either in the byte that was read last (`failHere`) or in the one that comes next
(`failAhead`).

**Nesting is bounded**: the bracket that would open level 128 is an error. Reading consumes at least
one byte between two recursive calls, so that the length of the text bounds their number.
-/

namespace GraphBrowser.Json

/-- What may be wrong with a JSON text. -/
inductive SyntaxCause where
  | eofInValue
  | eofInList
  | eofInObject
  | eofInString
  | expectedColon
  | expectedCommaOrBracket
  | expectedCommaOrBrace
  | expectedLiteral
  | expectedValue
  | invalidEscape
  | invalidNumber
  | numberOutOfRange
  | invalidUnicode
  | controlCharacter
  | keyNotString
  | loneSurrogate
  | unfinishedSurrogatePair
  | trailingComma
  | trailingCharacters
  | tooDeep
deriving Repr, DecidableEq

/-- The wording of a cause. -/
def SyntaxCause.message : SyntaxCause → String
  | .eofInValue => "EOF while parsing a value"
  | .eofInList => "EOF while parsing a list"
  | .eofInObject => "EOF while parsing an object"
  | .eofInString => "EOF while parsing a string"
  | .expectedColon => "expected `:`"
  | .expectedCommaOrBracket => "expected `,` or `]`"
  | .expectedCommaOrBrace => "expected `,` or `\x7d`"
  | .expectedLiteral => "expected ident"
  | .expectedValue => "expected value"
  | .invalidEscape => "invalid escape"
  | .invalidNumber => "invalid number"
  | .numberOutOfRange => "number out of range"
  | .invalidUnicode => "invalid unicode code point"
  | .controlCharacter => "control character (\\u0000-\\u001F) found while parsing a string"
  | .keyNotString => "key must be a string"
  | .loneSurrogate => "lone leading surrogate in hex escape"
  | .unfinishedSurrogatePair => "unexpected end of hex escape"
  | .trailingComma => "trailing comma"
  | .trailingCharacters => "trailing characters"
  | .tooDeep => "recursion limit exceeded"

/-- A cause and where it was noticed. -/
structure SyntaxError where
  /-- What is wrong. -/
  cause : SyntaxCause
  /-- The line, counted from one. -/
  line : Nat
  /-- The bytes of the line up to the one where the error was noticed. -/
  column : Nat
deriving Repr, DecidableEq

/-- The wording of an error. -/
def SyntaxError.message (e : SyntaxError) : String :=
  e.cause.message ++ " at line " ++ toString e.line ++ " column " ++ toString e.column

/-- A place in a text. -/
structure Cursor where
  /-- The bytes after the place. -/
  rest : List UInt8
  /-- The line of the place, counted from one. -/
  line : Nat
  /-- The bytes of the line before the place. -/
  column : Nat

namespace Cursor

/-- The place before the first byte. -/
def start (bytes : List UInt8) : Cursor := ⟨bytes, 1, 0⟩

/-- The place after the next byte. -/
def advance (c : Cursor) : Cursor :=
  match c.rest with
  | [] => c
  | b :: rest => if b = 0x0A then ⟨rest, c.line + 1, 0⟩ else ⟨rest, c.line, c.column + 1⟩

/-- The place after a number of bytes. -/
def advanceBy : Nat → Cursor → Cursor
  | 0, c => c
  | n + 1, c => advanceBy n c.advance

/-- An error at the place. -/
def error (c : Cursor) (cause : SyntaxCause) : SyntaxError := ⟨cause, c.line, c.column⟩

end Cursor

/-- A reader moves a cursor on or fails. -/
abbrev Reader := StateT Cursor (Except SyntaxError)

namespace Reader

/-- Fails in the byte that was read last. -/
def failHere {α : Type} (cause : SyntaxCause) : Reader α :=
  fun c => .error (c.error cause)

/-- Fails in the byte that comes next. -/
def failAhead {α : Type} (cause : SyntaxCause) : Reader α :=
  fun c => .error (c.advance.error cause)

/-- The next byte, which is not consumed. -/
def peek? : Reader (Option UInt8) :=
  fun c => .ok (c.rest.head?, c)

/-- Consumes a number of bytes. -/
def skip (count : Nat) : Reader Unit :=
  fun c => .ok ((), c.advanceBy count)

/-- The next byte, which is consumed. -/
def next? : Reader (Option UInt8) :=
  fun c => .ok (c.rest.head?, c.advance)

/-- Consumes the longest run of bytes of a class. -/
def takeWhile (p : UInt8 → Bool) : Reader (List UInt8) :=
  fun c =>
    let run := c.rest.takeWhile p
    .ok (run, c.advanceBy run.length)

/-- Whether the byte is a blank between tokens. -/
def isSpace (b : UInt8) : Bool := b == 0x20 || b == 0x0A || b == 0x0D || b == 0x09

/-- Whether the byte is a decimal digit. -/
def isDigit (b : UInt8) : Bool := 0x30 ≤ b.toNat && b.toNat ≤ 0x39

/-- The next byte after blanks, which is not consumed. -/
def peekToken? : Reader (Option UInt8) := do
  let _ ← takeWhile isSpace
  peek?

/-- The rest of a literal whose first byte has been read. -/
def literalRest (value : Json) : List UInt8 → Reader Json
  | [] => pure value
  | expected :: more => do
    match ← next? with
    | none => failHere .eofInValue
    | some b => if b = expected then literalRest value more else failHere .expectedLiteral

/-! ### Numbers -/

/-- The value of decimal digits, appended to those that were read before. -/
def appendDigits (before : Nat) (digits : List UInt8) : Nat :=
  digits.foldl (fun n b => n * 10 + (b.toNat - 0x30)) before

/-- The double with the given digits, or an error if it is too large. -/
def double (negative : Bool) (digits : Nat) (scale : Int) : Reader Number :=
  match Binary64.ofDecimal? negative digits scale with
  | some x => pure (.double x)
  | none => failHere .numberOutOfRange

/-- The greatest exponent that is still read. -/
def maxWrittenExponent : Nat := 2147483647

/-- The exponent, given what it was before the digits that come next. `none` stands for one that is
too large to be read; its first digit that is too much is the last one consumed then. -/
def exponentDigits : List UInt8 → Nat → Reader (Option Nat)
  | [], exponent => pure (some exponent)
  | b :: more, exponent => do
    skip 1
    let longer := exponent * 10 + (b.toNat - 0x30)
    if maxWrittenExponent < longer then pure none else exponentDigits more longer

/-- The rest of a number from the letter of its exponent on. -/
def exponentPart (negative : Bool) (digits : Nat) (scale : Int) : Reader Number := do
  skip 1
  let sign ← peek?
  if sign = some 0x2B ∨ sign = some 0x2D then skip 1
  let below := sign = some 0x2D
  match ← next? with
  | none => failHere .eofInValue
  | some b =>
    if isDigit b then
      let more := (← get).rest.takeWhile isDigit
      match ← exponentDigits more (b.toNat - 0x30) with
      | some exponent =>
        double negative digits (if below then scale - exponent else scale + exponent)
      | none =>
        if digits ≠ 0 ∧ ¬ below then failHere .numberOutOfRange
        else do
          let _ ← takeWhile isDigit
          pure (.double (.zero negative))
    else failHere .invalidNumber

/-- Whether the byte is the letter of an exponent. -/
def isExponentLetter (b : Option UInt8) : Bool := b == some 0x65 || b == some 0x45

/-- The rest of a number from its point on. -/
def fractionPart (negative : Bool) (whole : Nat) : Reader Number := do
  skip 1
  let places ← takeWhile isDigit
  if places.isEmpty then
    match ← peek? with
    | some _ => failAhead .invalidNumber
    | none => failAhead .eofInValue
  else
    let digits := appendDigits whole places
    let scale : Int := -(places.length : Int)
    if isExponentLetter (← peek?) then exponentPart negative digits scale
    else double negative digits scale

/-- A number without fraction and exponent: exact if 64 bits hold it, and never a negative zero. -/
def wholeNumber (negative : Bool) (digits : Nat) : Reader Number :=
  if negative then
    if digits = 0 ∨ pow2 63 < digits then double true digits 0
    else pure (.integer (-(digits : Int)))
  else if digits < pow2 64 then pure (.integer digits)
  else double false digits 0

/-- A number, after its sign. -/
def number (negative : Bool) : Reader Number := do
  match ← next? with
  | none => failHere .eofInValue
  | some first =>
    if isDigit first then
      if first = 0x30 ∧ (← peek?).any isDigit then failAhead .invalidNumber
      else
        let digits := appendDigits (first.toNat - 0x30) (← takeWhile isDigit)
        let following ← peek?
        if following = some 0x2E then fractionPart negative digits
        else if isExponentLetter following then exponentPart negative digits 0
        else wholeNumber negative digits
    else failHere .invalidNumber

/-! ### Strings -/

/-- Whether the byte stands for itself in a string. -/
def isPlain (b : UInt8) : Bool := b != 0x22 && b != 0x5C && 0x20 ≤ b.toNat

/-- The value of a hexadecimal digit, in either case. -/
def hexValue? (b : UInt8) : Option Nat :=
  let n := b.toNat
  if 0x30 ≤ n && n ≤ 0x39 then some (n - 0x30)
  else if 0x41 ≤ n && n ≤ 0x46 then some (n - 0x37)
  else if 0x61 ≤ n && n ≤ 0x66 then some (n - 0x57)
  else none

/-- The value of hexadecimal digits, if all of them are such. -/
def hexNumber? (digits : List UInt8) : Option Nat :=
  digits.foldl
    (fun value b =>
      match value, hexValue? b with
      | some n, some d => some (n * 16 + d)
      | _, _ => none)
    (some 0)

/-- The four hexadecimal digits of an escape. -/
def fourHexDigits : Reader Nat := do
  let rest := (← get).rest
  if rest.length < 4 then
    skip rest.length
    failHere .eofInString
  else
    skip 4
    match hexNumber? (rest.take 4) with
    | some n => pure n
    | none => failHere .invalidEscape

/-- Consumes one byte, which has to be the expected one for a pair of surrogates to go on. -/
def pairByte (expected : UInt8) : Reader Unit := do
  match ← peek? with
  | none => failHere .eofInString
  | some b =>
    skip 1
    if b = expected then pure () else failHere .unfinishedSurrogatePair

/-- The character of a numeric escape, after its letter. A character above U+FFFF is written as a
pair of surrogates. -/
def unicodeEscape : Reader Char := do
  let n ← fourHexDigits
  if 0xDC00 ≤ n ∧ n ≤ 0xDFFF then failHere .loneSurrogate
  else if 0xD800 ≤ n ∧ n ≤ 0xDBFF then
    pairByte 0x5C
    pairByte 0x75
    let low ← fourHexDigits
    if 0xDC00 ≤ low ∧ low ≤ 0xDFFF then
      pure (Char.ofNat ((n - 0xD800) * 1024 + (low - 0xDC00) + 0x10000))
    else failHere .loneSurrogate
  else pure (Char.ofNat n)

/-- The character of an escape, after the backslash. -/
def escape : Reader Char := do
  match ← next? with
  | none => failHere .eofInString
  | some 0x22 => pure '"'
  | some 0x5C => pure '\\'
  | some 0x2F => pure '/'
  | some 0x62 => pure '\x08'
  | some 0x66 => pure '\x0c'
  | some 0x6E => pure '\n'
  | some 0x72 => pure '\r'
  | some 0x74 => pure '\t'
  | some 0x75 => unicodeEscape
  | some _ => failHere .invalidEscape

/-- The rest of a string after its opening quote, given the characters before it in reverse and the
error of the first bytes among them that are no UTF-8, which is reported when the string has
ended. -/
def stringRest : Nat → List Char → Option SyntaxError → Reader String
  | 0, _, _ => failHere .eofInString
  | fuel + 1, before, fault => do
    let place ← get
    let run ← takeWhile isPlain
    let before := (Utf8.decode run).reverse ++ before
    let fault := fault <|> (Utf8.firstInvalid? run).map fun offset =>
      (place.advanceBy (offset + 1)).error .invalidUnicode
    match ← next? with
    | none => failHere .eofInString
    | some 0x22 =>
      match fault with
      | some e => throw e
      | none => pure (String.ofList before.reverse)
    | some 0x5C => do
      let c ← escape
      stringRest fuel (c :: before) fault
    | some _ => failHere .controlCharacter

/-- A string, after its opening quote. -/
def string : Reader String := do
  stringRest ((← get).rest.length + 1) [] none

/-! ### Values -/

/-- The levels of nesting of a text, its own included. -/
def levels : Nat := 127

mutual

/-- The next value, with so many levels that it may still open. -/
def value : Nat → Nat → Reader Json
  | 0, _ => failAhead .eofInValue
  | fuel + 1, level => do
    match ← peekToken? with
    | none => failAhead .eofInValue
    | some 0x6E => do skip 1; literalRest .null [0x75, 0x6C, 0x6C]
    | some 0x74 => do skip 1; literalRest (.bool true) [0x72, 0x75, 0x65]
    | some 0x66 => do skip 1; literalRest (.bool false) [0x61, 0x6C, 0x73, 0x65]
    | some 0x2D => do skip 1; return .number (← number true)
    | some 0x22 => do skip 1; return .string (← string)
    | some 0x5B =>
      match level with
      | 0 => failAhead .tooDeep
      | level + 1 => do
        skip 1
        return .array (← elements fuel level true)
    | some 0x7B =>
      match level with
      | 0 => failAhead .tooDeep
      | level + 1 => do
        skip 1
        return .ofMembers (← members fuel level true)
    | some b => if isDigit b then return .number (← number false) else failAhead .expectedValue

/-- The elements of an array up to its closing bracket; `first` before the first of them. -/
def elements : Nat → Nat → Bool → Reader (List Json)
  | 0, _, _ => failAhead .eofInList
  | fuel + 1, level, first => do
    match ← peekToken? with
    | none => failAhead .eofInList
    | some 0x5D => do skip 1; pure []
    | some b =>
      if first then element fuel level
      else if b = 0x2C then
        skip 1
        match ← peekToken? with
        | none => failAhead .eofInValue
        | some 0x5D => failAhead .trailingComma
        | some _ => element fuel level
      else failAhead .expectedCommaOrBracket

/-- One element of an array and those after it. -/
def element : Nat → Nat → Reader (List Json)
  | 0, _ => failAhead .eofInList
  | fuel + 1, level => do
    let item ← value fuel level
    return item :: (← elements fuel level false)

/-- The members of an object up to its closing brace; `first` before the first of them. -/
def members : Nat → Nat → Bool → Reader (List (String × Json))
  | 0, _, _ => failAhead .eofInObject
  | fuel + 1, level, first => do
    match ← peekToken? with
    | none => failAhead .eofInObject
    | some 0x7D => do skip 1; pure []
    | some b =>
      if first then
        if b = 0x22 then member fuel level else failAhead .keyNotString
      else if b = 0x2C then
        skip 1
        match ← peekToken? with
        | none => failAhead .eofInValue
        | some 0x22 => member fuel level
        | some 0x7D => failAhead .trailingComma
        | some _ => failAhead .keyNotString
      else failAhead .expectedCommaOrBrace

/-- One member of an object and those after it. -/
def member : Nat → Nat → Reader (List (String × Json))
  | 0, _ => failAhead .eofInObject
  | fuel + 1, level => do
    skip 1
    let key ← string
    match ← peekToken? with
    | none => failAhead .eofInObject
    | some 0x3A => do
      skip 1
      let item ← value fuel level
      return (key, item) :: (← members fuel level false)
    | some _ => failAhead .expectedColon

end

/-- A whole text: one value and nothing but blanks after it. -/
def document : Reader Json := do
  let item ← value (3 * (← get).rest.length + 3) levels
  match ← peekToken? with
  | none => pure item
  | some _ => failAhead .trailingCharacters

end Reader

/-- The value of a JSON text that is given by its bytes. -/
def parse (bytes : List UInt8) : Except SyntaxError Json :=
  (Reader.document.run (.start bytes)).map (·.1)

/-- The value of a JSON text. -/
def parseText (text : String) : Except SyntaxError Json :=
  parse (Utf8.bytes text)

end GraphBrowser.Json
