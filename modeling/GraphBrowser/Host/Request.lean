import GraphBrowser.Text.FormEncoded

/-!
# Requests to the host

A request names a method and a target. The target is a path, and after a question mark a query. In
front of the path there may be a scheme and the place of the host.

## Main definitions

* `Request` — a method and a target
* `Request.requested` — the target as the host sees it
* `Request.path`, `Request.query` — the two parts of a target
* `QueryError` — what may be wrong with a query, and its wording
* `Query.text`, `Query.natural` — the one field that a route wants

## Design notes

**A query may hold any fields**; those that a route does not want are ignored, and the wanted one
may occur only once. That it occurs twice is noticed before its second value is looked at.

**It does not matter how the host is called.** Of a target with a scheme only the path and the query
count, and an empty path is the path of the root.

In a path, percent escapes are read back before it is compared, but for the percent sign, the slash
and the plus sign.
-/

namespace GraphBrowser

/-- A request to the host of the page. -/
structure Request where
  /-- The method. -/
  method : String := "GET"
  /-- The target, possibly with a query and a fragment. -/
  target : String
deriving Repr, DecidableEq

namespace Request

/-- The bytes that stay escaped in a path. -/
def isProtected (n : Nat) : Bool := n == 0x25 || n == 0x2F || n == 0x2B

/-- The bytes of a path with the escapes read back that need not stay. -/
def unescapePath : List UInt8 → List UInt8
  | [] => []
  | [b] => [b]
  | [b, c] => [b, c]
  | b :: h :: l :: bs =>
    if b.toNat = 0x25 then
      match FormEncoded.hexValue? h, FormEncoded.hexValue? l with
      | some high, some low =>
        if isProtected (high * 16 + low) then b :: unescapePath (h :: l :: bs)
        else UInt8.ofNat (high * 16 + low) :: unescapePath bs
      | _, _ => b :: unescapePath (h :: l :: bs)
    else b :: unescapePath (h :: l :: bs)

/-- Whether the character may stand in a scheme. -/
def isSchemeChar (c : Char) : Bool := c.isAlphanum || c == '+' || c == '-' || c == '.'

/-- What follows the place of the host in a target that begins with a scheme. -/
def afterPlace? (target : List Char) : Option (List Char) :=
  match target.dropWhile isSchemeChar with
  | ':' :: '/' :: '/' :: rest => some (rest.dropWhile fun c => c != '/' && c != '?')
  | _ => none

/-- The path and the query of a target, without its fragment. -/
def requested (request : Request) : List Char :=
  let target := request.target.toList.takeWhile (· != '#')
  match afterPlace? target with
  | none => target
  | some ('/' :: rest) => '/' :: rest
  | some rest => '/' :: rest

/-- The path that is asked for. -/
def path (request : Request) : List Char :=
  Utf8.decode (unescapePath (Utf8.encode (request.requested.takeWhile (· != '?'))))

/-- What follows the question mark. -/
def query (request : Request) : List Char :=
  (request.requested.dropWhile (· != '?')).drop 1

end Request

/-- What may be wrong with a query. -/
inductive QueryError where
  /-- The wanted field does not occur. -/
  | missingField (name : String)
  /-- The wanted field occurs more than once. -/
  | duplicateField (name : String)
  /-- The value of a number is empty. -/
  | emptyNumber
  /-- The value of a number holds something else than digits. -/
  | invalidDigit
  /-- The value of a number does not fit into 64 bits. -/
  | numberTooLarge
deriving Repr, DecidableEq

/-- The wording of an error. -/
def QueryError.message : QueryError → String
  | .missingField name => "missing field `" ++ name ++ "`"
  | .duplicateField name => "duplicate field `" ++ name ++ "`"
  | .emptyNumber => "cannot parse integer from empty string"
  | .invalidDigit => "invalid digit found in string"
  | .numberTooLarge => "number too large to fit in target type"

namespace Query

/-- The one value of a field, decoded when it is met first. -/
def field {α : Type} (decode : List Char → Except QueryError α) (name : String) :
    List (List Char × List Char) → Option α → Except QueryError α
  | [], none => .error (.missingField name)
  | [], some value => .ok value
  | (key, value) :: rest, found =>
    if key = name.toList then
      match found with
      | some _ => .error (.duplicateField name)
      | none => do
        let value ← decode value
        field decode name rest (some value)
    else field decode name rest found

/-- The text of a field. -/
def text (name : String) (query : List Char) : Except QueryError String :=
  field (fun value => .ok (String.ofList value)) name (FormEncoded.fields query) none

/-- The value of the decimal digits after those whose value is given. A digit that makes the number
too large is noticed there. -/
def digits : Nat → List Char → Except QueryError Nat
  | n, [] => .ok n
  | n, c :: cs =>
    if '0' ≤ c ∧ c ≤ '9' then
      let longer := n * 10 + (c.toNat - '0'.toNat)
      if longer < Nat.pow 2 64 then digits longer cs else .error .numberTooLarge
    else .error .invalidDigit

/-- The number that a text stands for: digits, with a plus sign before them or without. -/
def parseNatural : List Char → Except QueryError Nat
  | [] => .error .emptyNumber
  | ['+'] => .error .invalidDigit
  | '+' :: cs => digits 0 cs
  | cs => digits 0 cs

/-- The number in a field. -/
def natural (name : String) (query : List Char) : Except QueryError Nat :=
  field parseNatural name (FormEncoded.fields query) none

end Query

end GraphBrowser
