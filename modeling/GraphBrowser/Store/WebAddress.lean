import GraphBrowser.DomainName.Label
import GraphBrowser.Text.FormEncoded

/-!
# Web addresses

A request can only be sent to an absolute address of the web: its scheme is `http` or `https`, and
it names a host, perhaps with a port.

## Main definitions

* `WebAddress.isIpv4`, `WebAddress.isIpv6` — numeric hosts
* `WebAddress.isName` — hosts that are domain names
* `WebAddress.isHost`, `WebAddress.isPort` — the two parts of an authority
* `WebAddress.isValid` — whether a request can be sent to an address

## Design notes

The rules are those by which browsers read addresses. Controls and spaces around an address are
dropped, as are tabs and line breaks in it; any number of slashes may follow the scheme, and a
backslash counts as one. A host whose last label is a number has to be a numeric address; whether it
is one is seen when the characters of the host have been replaced by their images.
-/

namespace GraphBrowser.WebAddress

open GraphBrowser.Text (splitOn)

/-- Whether the character is a hexadecimal digit. -/
def isHexDigit (c : Char) : Bool :=
  c.isDigit || ('a' ≤ c && c ≤ 'f') || ('A' ≤ c && c ≤ 'F')

/-- The value of a hexadecimal digit. -/
def hexValue (c : Char) : Nat :=
  if c.isDigit then c.toNat - '0'.toNat
  else if c ≤ 'F' then c.toNat - 'A'.toNat + 10
  else c.toNat - 'a'.toNat + 10

/-- The value of digits in a base. -/
def valueOf (base : Nat) (digits : List Char) : Nat :=
  digits.foldl (fun n c => n * base + hexValue c) 0

/-- The number that a part of a numeric host stands for: hexadecimal after `0x`, octal after `0`,
decimal otherwise. -/
def partValue? : List Char → Option Nat
  | [] => none
  | ['0'] => some 0
  | '0' :: 'x' :: digits => if digits.all isHexDigit then some (valueOf 16 digits) else none
  | '0' :: 'X' :: digits => if digits.all isHexDigit then some (valueOf 16 digits) else none
  | '0' :: digits =>
    if digits.all fun c => '0' ≤ c && c ≤ '7' then some (valueOf 8 digits) else none
  | digits => if digits.all Char.isDigit then some (valueOf 10 digits) else none

/-- The labels of a host, without the empty one after a final point. -/
def labels (host : List Char) : List (List Char) :=
  match (splitOn '.' host).reverse with
  | [] => []
  | [label] => [label]
  | [] :: rest => rest.reverse
  | label :: rest => (label :: rest).reverse

/-- Whether the last label of a host is a number, so that the host has to be numeric. -/
def endsInNumber (host : List Char) : Bool :=
  match (labels host).getLast? with
  | none => false
  | some label =>
    (!label.isEmpty && label.all Char.isDigit) ||
      (['0', 'x'].isPrefixOf label || ['0', 'X'].isPrefixOf label) && (partValue? label).isSome

/-- Whether the host is a numeric address of four bytes. Its last part may stand for several of
them. -/
def isIpv4 (host : List Char) : Bool :=
  let parts := (labels host).map partValue?
  decide (parts.length ≤ 4) && parts.all Option.isSome &&
    match (parts.filterMap fun part => part).reverse with
    | [] => false
    | last :: others => others.all (· ≤ 255) && decide (last < Nat.pow 256 (4 - others.length))

/-- Whether the part is a decimal number up to 255 without leading zeros. -/
def isByteText (part : List Char) : Bool :=
  !part.isEmpty && part.all Char.isDigit && decide (valueOf 10 part ≤ 255) &&
    (part.head? != some '0' || part.length == 1)

/-- The number of groups that the pieces of a numeric address of eight groups stand for, if each is
one. The last piece may be a dotted address of four bytes. -/
def groupCount? : List (List Char) → Option Nat
  | [] => some 0
  | [piece] =>
    if !piece.isEmpty && piece.length ≤ 4 && piece.all isHexDigit then some 1
    else if (splitOn '.' piece).length = 4 ∧ (splitOn '.' piece).all isByteText then some 2
    else none
  | piece :: rest =>
    if !piece.isEmpty && piece.length ≤ 4 && piece.all isHexDigit then
      (groupCount? rest).map (· + 1)
    else none

/-- The parts before and after the first pair of colons. -/
def splitAtGap? : List Char → Option (List Char × List Char)
  | ':' :: ':' :: rest => some ([], rest)
  | c :: rest => (splitAtGap? rest).map fun parts => (c :: parts.1, parts.2)
  | [] => none

/-- The number of groups in a text without a gap; the empty text has none. -/
def groupsIn? (cs : List Char) : Option Nat :=
  if cs.isEmpty then some 0 else groupCount? (splitOn ':' cs)

/-- Whether the text is a numeric address of eight groups. One run of groups may be left out. -/
def isIpv6 (cs : List Char) : Bool :=
  match splitAtGap? cs with
  | none => groupsIn? cs == some 8
  | some (before, after) =>
    match groupsIn? before, groupsIn? after with
    | some m, some n => m + n ≤ 7 && !before.contains '.'
    | _, _ => false

/-- The characters that a host name may hold and that yet cannot be sent in a request. -/
def isUnsendable (c : Char) : Bool := ['"', '`', '\x7b', '\x7d'].contains c

/-- A host name with its percent escapes read back. -/
def unescapeHost (host : List Char) : List Char :=
  Utf8.decode (FormEncoded.decodeBytes (Utf8.encode host |>.flatMap fun b =>
    if b.toNat = 0x2B then [0x25, 0x32, 0x42] else [b]))

/-- Whether the text is a domain name or a numeric address of four bytes. -/
def isName (host : List Char) : Bool :=
  match DomainName.labels? (unescapeHost host) with
  | none => false
  | some parts =>
    let name := List.intercalate ['.'] parts
    !name.isEmpty && !name.any isUnsendable && (!endsInNumber name || isIpv4 name)

/-- Whether the text names a host. -/
def isHost (host : List Char) : Bool :=
  match host with
  | '[' :: rest => rest.getLast? == some ']' && isIpv6 rest.dropLast
  | _ => isName host

/-- Whether the text, if it is not empty, is the number of a port. -/
def isPort (port : List Char) : Bool :=
  port.all Char.isDigit && decide (valueOf 10 port ≤ 65535)

/-- The host and, after a colon that is not in brackets, the port. -/
def splitPort : List Char → Bool → List Char × List Char
  | [], _ => ([], [])
  | c :: cs, inBrackets =>
    if c = ':' ∧ ¬ inBrackets then ([], cs)
    else
      let parts := splitPort cs (c == '[' || (inBrackets && c != ']'))
      (c :: parts.1, parts.2)

/-- Whether the text names a host, perhaps with a user before it and a port after it. -/
def isAuthority (authority : List Char) : Bool :=
  let place := ((splitOn '@' authority).getLast?).getD []
  let parts := splitPort place false
  isHost parts.1 && isPort parts.2

/-- Whether the character ends an authority. -/
def endsAuthority (c : Char) : Bool := c == '/' || c == '\\' || c == '?' || c == '#'

/-- The address as it is read: without controls and spaces around it and line breaks in it. -/
def cleaned (cs : List Char) : List Char :=
  let isOuter (c : Char) : Bool := c.toNat ≤ 0x20
  ((cs.dropWhile isOuter).reverse.dropWhile isOuter).reverse.filter
    fun c => c != '\t' && c != '\n' && c != '\r'

/-- What follows the scheme and its colon, if the scheme is one of the web. -/
def afterScheme? (cs : List Char) : Option (List Char) :=
  let scheme := (cs.takeWhile (· != ':')).map Char.toLower
  match cs.dropWhile (· != ':') with
  | [] => none
  | _ :: rest =>
    if scheme = ['h', 't', 't', 'p'] ∨ scheme = ['h', 't', 't', 'p', 's'] then some rest else none

/-- Whether a request can be sent to the address. -/
def isValid (url : String) : Bool :=
  match afterScheme? (cleaned url.toList) with
  | none => false
  | some rest =>
    isAuthority
      ((rest.dropWhile fun c => c == '/' || c == '\\').takeWhile fun c => !endsAuthority c)

end GraphBrowser.WebAddress
