import GraphBrowser.Text.Utf8

/-!
# Form-urlencoded text

The query of an address carries named fields. Each name and value is written byte by byte: letters,
digits and `*-._` stand for themselves, a space is a plus sign and any other byte is a percent sign
with two hexadecimal digits.

## Main definitions

* `FormEncoded.encode` — a text as the value of a field
* `FormEncoded.decode` — the text of a name or value
* `FormEncoded.fields` — the named fields of a query, in order

## Design notes

**Reading never fails.** A percent sign without two hexadecimal digits stands for itself, and bytes
that are no UTF-8 read as U+FFFD; what a query lacks is for the reader of the fields to say.
-/

namespace GraphBrowser.FormEncoded

open GraphBrowser

/-- Whether the byte stands for itself. -/
def isPlain (b : UInt8) : Bool :=
  let n := b.toNat
  (0x30 ≤ n && n ≤ 0x39) || (0x41 ≤ n && n ≤ 0x5A) || (0x61 ≤ n && n ≤ 0x7A) ||
    n == 0x2A || n == 0x2D || n == 0x2E || n == 0x5F

/-- The hexadecimal digit of a number below 16, in upper case. -/
def hexDigit (n : Nat) : Char :=
  if n < 10 then Char.ofNat (0x30 + n) else Char.ofNat (0x37 + n)

/-- One byte as it is written. -/
def encodeByte (b : UInt8) : List Char :=
  if isPlain b then [Char.ofNat b.toNat]
  else if b.toNat = 0x20 then ['+']
  else ['%', hexDigit (b.toNat / 16), hexDigit (b.toNat % 16)]

/-- Bytes as they are written, one after another. -/
def encodeBytes : List UInt8 → List Char
  | [] => []
  | b :: bs => encodeByte b ++ encodeBytes bs

/-- A text as it is written in a query. -/
def encode (cs : List Char) : List Char :=
  encodeBytes (Utf8.encode cs)

/-- The value of a hexadecimal digit, in either case. -/
def hexValue? (b : UInt8) : Option Nat :=
  let n := b.toNat
  if 0x30 ≤ n && n ≤ 0x39 then some (n - 0x30)
  else if 0x41 ≤ n && n ≤ 0x46 then some (n - 0x37)
  else if 0x61 ≤ n && n ≤ 0x66 then some (n - 0x57)
  else none

/-- The bytes that a written name or value stands for. -/
def decodeBytes : List UInt8 → List UInt8
  | [] => []
  | [b] => [if b.toNat = 0x2B then 0x20 else b]
  | [b, c] => (if b.toNat = 0x2B then 0x20 else b) :: decodeBytes [c]
  | b :: h :: l :: bs =>
    if b.toNat = 0x25 then
      match hexValue? h, hexValue? l with
      | some high, some low => UInt8.ofNat (high * 16 + low) :: decodeBytes bs
      | _, _ => b :: decodeBytes (h :: l :: bs)
    else (if b.toNat = 0x2B then 0x20 else b) :: decodeBytes (h :: l :: bs)

/-- The text that a written name or value stands for. -/
def decode (written : List UInt8) : List Char :=
  Utf8.decode (decodeBytes written)

/-- The parts between the occurrences of a byte; always at least one. -/
def splitAt (separator : UInt8) : List UInt8 → List (List UInt8)
  | [] => [[]]
  | b :: bs =>
    if b = separator then [] :: splitAt separator bs
    else
      match splitAt separator bs with
      | [] => [[b]]
      | part :: parts => (b :: part) :: parts

/-- The name and value of one field: they are separated by the first equals sign. -/
def field (written : List UInt8) : List Char × List Char :=
  (decode (written.takeWhile (·.toNat != 0x3D)),
    decode ((written.dropWhile (·.toNat != 0x3D)).drop 1))

/-- The named fields of a query, in order. Fields are separated by ampersands; an empty part is no
field, and a part without an equals sign has the empty value. -/
def fields (query : List Char) : List (List Char × List Char) :=
  ((splitAt 0x26 (Utf8.encode query)).filter (!·.isEmpty)).map field

end GraphBrowser.FormEncoded
