/-!
# Characters as bytes

The UTF-8 encoding form: the bytes of a text, and the text that bytes stand for when some of them
are ill formed.

## Main definitions

* `Utf8.encodeChar`, `Utf8.encode` — the one to four bytes of a character, and those of a text
* `Utf8.decode` — the text of a byte sequence, with U+FFFD for what is ill formed
* `Utf8.firstInvalid?` — where the first ill formed part of a byte sequence begins

## Design notes

**One replacement character stands for one maximal part.** Where bytes cannot be read, the longest
run that begins some well formed character is replaced as a whole, and reading goes on at the byte
that broke it. Lead and continuation bytes are compared as natural numbers, which keeps the
arithmetic linear.
-/

namespace GraphBrowser.Utf8

/-- A natural number below 256 as a byte. -/
abbrev byte (n : Nat) : UInt8 := UInt8.ofNat n

/-- The bytes of one character, lead byte first. -/
def encodeChar (c : Char) : List UInt8 :=
  let n := c.toNat
  if n < 0x80 then [byte n]
  else if n < 0x800 then [byte (0xC0 + n / 64), byte (0x80 + n % 64)]
  else if n < 0x10000 then
    [byte (0xE0 + n / 4096), byte (0x80 + n / 64 % 64), byte (0x80 + n % 64)]
  else
    [byte (0xF0 + n / 262144), byte (0x80 + n / 4096 % 64), byte (0x80 + n / 64 % 64),
     byte (0x80 + n % 64)]

/-- The bytes of a text. -/
def encode : List Char → List UInt8
  | [] => []
  | c :: cs => encodeChar c ++ encode cs

@[simp] theorem encode_nil : encode [] = [] := rfl

@[simp] theorem encode_cons (c : Char) (cs : List Char) :
    encode (c :: cs) = encodeChar c ++ encode cs := rfl

/-- What the first bytes of a sequence are. -/
inductive Head where
  /-- A whole character of `width` bytes. -/
  | char (value : Char) (width : Nat)
  /-- A part of `width` bytes that no character continues. -/
  | invalid (width : Nat)

/-- Whether the byte continues a character. -/
def isContinuation (b : UInt8) : Bool :=
  0x80 ≤ b.toNat && b.toNat ≤ 0xBF

/-- Whether `second` may follow the lead byte of a character of three bytes: neither an overlong
form nor a surrogate is admitted. -/
def isSecondOfThree (lead second : UInt8) : Bool :=
  isContinuation second && (lead.toNat != 0xE0 || 0xA0 ≤ second.toNat) &&
    (lead.toNat != 0xED || second.toNat ≤ 0x9F)

/-- Whether `second` may follow the lead byte of a character of four bytes: neither an overlong
form nor a value above U+10FFFF is admitted. -/
def isSecondOfFour (lead second : UInt8) : Bool :=
  isContinuation second && (lead.toNat != 0xF0 || 0x90 ≤ second.toNat) &&
    (lead.toNat != 0xF4 || second.toNat ≤ 0x8F)

/-- The character or the ill formed part at the head of a byte sequence that begins with `lead`. -/
def head (lead : UInt8) (rest : List UInt8) : Head :=
  let a := lead.toNat
  if a < 0x80 then .char (Char.ofNat a) 1
  else if a < 0xC2 then .invalid 1
  else if a < 0xE0 then
    match rest with
    | b :: _ =>
      if isContinuation b then .char (Char.ofNat ((a - 0xC0) * 64 + (b.toNat - 0x80))) 2
      else .invalid 1
    | [] => .invalid 1
  else if a < 0xF0 then
    match rest with
    | b :: c :: _ =>
      if isSecondOfThree lead b then
        if isContinuation c then
          .char (Char.ofNat ((a - 0xE0) * 4096 + (b.toNat - 0x80) * 64 + (c.toNat - 0x80))) 3
        else .invalid 2
      else .invalid 1
    | [b] => if isSecondOfThree lead b then .invalid 2 else .invalid 1
    | [] => .invalid 1
  else if a < 0xF5 then
    match rest with
    | b :: c :: d :: _ =>
      if isSecondOfFour lead b then
        if isContinuation c then
          if isContinuation d then
            .char (Char.ofNat ((a - 0xF0) * 262144 + (b.toNat - 0x80) * 4096 +
              (c.toNat - 0x80) * 64 + (d.toNat - 0x80))) 4
          else .invalid 3
        else .invalid 2
      else .invalid 1
    | [b, c] =>
      if isSecondOfFour lead b then
        if isContinuation c then .invalid 3 else .invalid 2
      else .invalid 1
    | [b] => if isSecondOfFour lead b then .invalid 2 else .invalid 1
    | [] => .invalid 1
  else .invalid 1

/-- The text of a byte sequence. Each maximal ill formed part reads as one U+FFFD. -/
def decode : List UInt8 → List Char
  | [] => []
  | lead :: rest =>
    match head lead rest with
    | .char value width => value :: decode (rest.drop (width - 1))
    | .invalid width => '\ufffd' :: decode (rest.drop (width - 1))
termination_by bytes => bytes.length
decreasing_by all_goals simp only [List.length_drop, List.length_cons]; omega

/-- The number of bytes before the first ill formed part, or `none` if all are well formed. -/
def firstInvalid? : List UInt8 → Option Nat
  | [] => none
  | lead :: rest =>
    match head lead rest with
    | .char _ width => (firstInvalid? (rest.drop (width - 1))).map (· + width)
    | .invalid _ => some 0
termination_by bytes => bytes.length
decreasing_by all_goals simp only [List.length_drop, List.length_cons]; omega

/-- The text of a byte sequence as a string. -/
def text (bytes : List UInt8) : String :=
  String.ofList (decode bytes)

/-- The bytes of a string. -/
def bytes (text : String) : List UInt8 :=
  encode text.toList

end GraphBrowser.Utf8
