import GraphBrowser.Host.Route
import GraphBrowser.Proofs.Text.Escaped
import GraphBrowser.Proofs.Text.FormEncoded
import Mathlib.Data.List.TakeWhile

/-!
# Requests that come from links

A link of the page leads back to the host. What it leads to is written by one part of the host and
read by another.

## Main definitions

* `Request.ofField` — the request for a path with one field
* `LinkTargets.isWritten` — the characters that links to nodes are written with

## Main statements

* `Request.IsPlainPath.fields_query_ofField` — the field of a request is read back
* `Query.parseNatural_toString` — a row number is read back if it fits into 64 bits
* `Route.ofRequest_node` — **the link to a node asks for exactly its address**
* `Route.ofRequest_expand` — **an expand control asks for exactly its row**
* `LinkTargets.hosted_node_read_back` — **the link to a node passes through a page unchanged, and its
  query is the one field that holds the address**
-/

namespace GraphBrowser

/-! ### Numbers -/

namespace Query

/-- The digits of a text are read one after another. -/
theorem digits_append (n : Nat) (cs ds : List Char) :
    digits n (cs ++ ds) = digits n cs >>= fun m => digits m ds := by
  induction cs generalizing n with
  | nil => rfl
  | cons c cs ih =>
      simp only [List.cons_append, digits, ih]
      split
      · split <;> rfl
      · rfl

/-- A digit is read as its value. -/
theorem digits_digitChar {n d : Nat} (hd : d < 10) (h : n * 10 + d < Nat.pow 2 64) :
    digits n [d.digitChar] = .ok (n * 10 + d) := by
  have hnat : d.digitChar.toNat = 48 + d := Nat.toNat_digitChar_of_lt_ten hd
  have hvalue : d.digitChar.toNat - '0'.toNat = d := by
    rw [hnat]
    exact Nat.add_sub_cancel_left 48 d
  have hdigit : '0' ≤ d.digitChar ∧ d.digitChar ≤ '9' := by
    have hisDigit : d.digitChar.isDigit = true := by
      rw [Nat.isDigit_digitChar]
      exact decide_eq_true hd
    rw [Char.isDigit, Bool.and_eq_true, decide_eq_true_eq, decide_eq_true_eq] at hisDigit
    exact hisDigit
  rw [digits, if_pos hdigit, hvalue]
  simp only [digits]
  rw [if_pos h]

/-- **The decimal digits of a number are read as the number**, if it fits into 64 bits. -/
theorem digits_toDigits {n : Nat} (h : n < Nat.pow 2 64) :
    digits 0 (Nat.toDigits 10 n) = .ok n := by
  induction n using Nat.strongRecOn with
  | ind n ih =>
      rcases Nat.lt_or_ge n 10 with hlt | hge
      · rw [Nat.toDigits_of_lt_base hlt, digits_digitChar hlt (by omega), Nat.zero_mul,
          Nat.zero_add]
      · rw [Nat.toDigits_of_base_le (by decide) hge, digits_append,
          ih (n / 10) (by omega) (by omega)]
        show digits (n / 10) [_] = _
        rw [digits_digitChar (by omega) (by omega), Nat.div_add_mod']

/-- **A number that is written is read back**, if it fits into 64 bits. -/
theorem parseNatural_toString {n : Nat} (h : n < Nat.pow 2 64) :
    parseNatural (toString n).toList = .ok n := by
  have hdigits : (toString n).toList = Nat.toDigits 10 n := Nat.toList_repr
  have hplus : '+' ∉ Nat.toDigits 10 n := by
    intro hmem
    have := Nat.isDigit_of_mem_toDigits (by decide) (by decide) hmem
    cases this
  rw [hdigits, ← digits_toDigits h]
  cases hfirst : Nat.toDigits 10 n with
  | nil => exact absurd hfirst Nat.toDigits_ne_nil
  | cons c cs =>
      have hne : c ≠ '+' := by
        rintro rfl
        rw [hfirst] at hplus
        exact hplus List.mem_cons_self
      rw [parseNatural] <;> simp_all

/-- A text is read from the field that holds it. -/
theorem text_of_fields {query : List Char} {name : String} {value : List Char}
    (h : FormEncoded.fields query = [(name.toList, value)]) :
    text name query = .ok (String.ofList value) := by
  rw [text, h, field, if_pos rfl]
  rfl

/-- A number is read from the field that holds it. -/
theorem natural_of_fields {query : List Char} {name : String} {n : Nat} (hn : n < Nat.pow 2 64)
    (h : FormEncoded.fields query = [(name.toList, (toString n).toList)]) :
    natural name query = .ok n := by
  rw [natural, h, field, if_pos rfl, parseNatural_toString hn]
  rfl

end Query

/-! ### Targets of links -/

namespace Request

/-- The request for a path with one field. -/
def ofField (path name value : List Char) : Request :=
  ⟨"GET", String.ofList ('/' :: path ++
    '?' :: (FormEncoded.encode name ++ '=' :: FormEncoded.encode value))⟩

variable {path : List Char} (name value : List Char)

@[simp] theorem method_ofField : (ofField path name value).method = "GET" := rfl

/-- A target that begins with a slash and has no fragment is seen as it is. -/
theorem requested_ofField (hpath : '#' ∉ path) :
    (ofField path name value).requested =
      '/' :: path ++ '?' :: (FormEncoded.encode name ++ '=' :: FormEncoded.encode value) := by
  have hwritten : ∀ cs : List Char, '#' ∉ FormEncoded.encode cs := by
    intro cs hmem
    cases FormEncoded.isWritten_of_mem_encode hmem
  have hfragment : ('/' :: path ++
        '?' :: (FormEncoded.encode name ++ '=' :: FormEncoded.encode value)).takeWhile (· != '#') =
      '/' :: path ++ '?' :: (FormEncoded.encode name ++ '=' :: FormEncoded.encode value) := by
    rw [List.takeWhile_eq_self_iff]
    rintro c hmem
    rw [bne_iff_ne]
    rintro rfl
    simp [hpath, hwritten] at hmem
  rw [requested, ofField]
  simp only [String.toList_ofList, hfragment]
  rfl

/-- A path that is seen as it is: nothing in it begins the query or the fragment, and nothing in it
is escaped. -/
structure IsPlainPath (path : List Char) : Prop where
  /-- It has no number sign. -/
  fragment : '#' ∉ path
  /-- It has no question mark. -/
  query : '?' ∉ path
  /-- It has no percent sign that escapes something. -/
  unescaped : unescapePath (Utf8.encode ('/' :: path)) = Utf8.encode ('/' :: path)

namespace IsPlainPath

/-- The query does not begin in such a path. -/
theorem ne_of_mem (h : IsPlainPath path) {c : Char} (hmem : c ∈ '/' :: path) :
    (c != '?') = true := by
  rw [bne_iff_ne]
  rintro rfl
  simp [h.query] at hmem

/-- The path ends at the question mark. -/
theorem path_ofField (h : IsPlainPath path) : (ofField path name value).path = '/' :: path := by
  have hpath : (ofField path name value).requested.takeWhile (· != '?') = '/' :: path := by
    rw [requested_ofField name value h.fragment,
      List.takeWhile_append_of_pos fun c => h.ne_of_mem]
    simp
  rw [Request.path, hpath, h.unescaped, Utf8.decode_encode]

/-- What follows it is the query. -/
theorem query_ofField (h : IsPlainPath path) :
    (ofField path name value).query = FormEncoded.encode name ++ '=' :: FormEncoded.encode value := by
  rw [Request.query, requested_ofField name value h.fragment,
    List.dropWhile_append_of_pos fun c => h.ne_of_mem]
  simp

/-- **The query has the one field that was written.** -/
theorem fields_query_ofField (h : IsPlainPath path) :
    FormEncoded.fields (ofField path name value).query = [(name, value)] := by
  rw [h.query_ofField, FormEncoded.fields_encode]

/-- So the route is that of the path. -/
theorem ofRequest_ofField (h : IsPlainPath path) :
    Route.ofRequest (ofField path name value) =
      Route.ofPath ('/' :: path) (ofField path name value).query := by
  rw [Route.ofRequest, method_ofField, if_pos rfl, h.path_ofField]

end IsPlainPath

/-- The path of links to nodes is seen as it is. -/
theorem isPlainPath_navigate : IsPlainPath "navigate".toList :=
  ⟨by decide, by decide, by decide⟩

/-- So is the path of expand controls. -/
theorem isPlainPath_expand : IsPlainPath "expand".toList :=
  ⟨by decide, by decide, by decide⟩

/-- The link to a node requests a path with the address as its one field. -/
theorem hosted_node_eq_ofField (url : String) :
    (⟨"GET", LinkTargets.hosted.node url⟩ : Request) =
      .ofField "navigate".toList "url".toList url.toList := by
  have hname : FormEncoded.encode "url".toList = "url".toList := by decide
  rw [ofField, hname]
  refine congrArg (Request.mk "GET") (String.ext ?_)
  simp [LinkTargets.hosted]

/-- An expand control requests a path with the row as its one field. -/
theorem hosted_expand_eq_ofField (row : Nat) (target : String) :
    (⟨"GET", LinkTargets.hosted.expand row target⟩ : Request) =
      .ofField "expand".toList "row".toList (toString row).toList := by
  have hname : FormEncoded.encode "row".toList = "row".toList := by decide
  rw [ofField, hname, FormEncoded.encode_toString]
  refine congrArg (Request.mk "GET") (String.ext ?_)
  simp [LinkTargets.hosted]

end Request

/-! ### Routes of links -/

namespace Route

/-- The page is at the root. -/
theorem ofRequest_page : ofRequest ⟨"GET", "/"⟩ = .ok .page := by
  decide +kernel

/-- **The link to a node asks for exactly its address**, whatever characters it has. -/
theorem ofRequest_node (url : String) :
    ofRequest ⟨"GET", LinkTargets.hosted.node url⟩ = .ok (.navigate url) := by
  have hslash : '/' :: "navigate".toList = "/navigate".toList := by decide
  have hquery : Query.text "url"
      (Request.ofField "navigate".toList "url".toList url.toList).query = .ok url := by
    rw [Query.text_of_fields (Request.isPlainPath_navigate.fields_query_ofField _ _),
      String.ofList_toList]
  rw [Request.hosted_node_eq_ofField, Request.isPlainPath_navigate.ofRequest_ofField, hslash,
    ofPath_navigate, hquery, ofQuery]

/-- Characters that mean something in a query, in a path or in markup are no exception. -/
example : ofRequest ⟨"GET", LinkTargets.hosted.node "http://h/node/1?a=b&c=%27#é '"⟩ =
    .ok (.navigate "http://h/node/1?a=b&c=%27#é '") := by
  decide +kernel

/-- **An expand control asks for exactly its row**, if the number of the row fits into 64 bits. -/
theorem ofRequest_expand {row : Nat} (h : row < Nat.pow 2 64) (target : String) :
    ofRequest ⟨"GET", LinkTargets.hosted.expand row target⟩ = .ok (.expand row) := by
  have hslash : '/' :: "expand".toList = "/expand".toList := by decide
  have hquery : Query.natural "row"
      (Request.ofField "expand".toList "row".toList (toString row).toList).query = .ok row :=
    Query.natural_of_fields h (Request.isPlainPath_expand.fields_query_ofField _ _)
  rw [Request.hosted_expand_eq_ofField, Request.isPlainPath_expand.ofRequest_ofField, hslash,
    ofPath_expand, hquery, ofQuery]

end Route

/-! ### Links to nodes as they are written -/

namespace LinkTargets

open Text

/-- Whether links to nodes are written with a character. -/
def isWritten (c : Char) : Bool := FormEncoded.isWritten c || ['/', '?', '='].contains c

/-- A link to a node is a path and a query. -/
theorem toList_hosted_node (url : String) :
    (hosted.node url).toList =
      "/navigate?".toList ++ ("url=".toList ++ FormEncoded.encode url.toList) := by
  simp [hosted]

/-- **The link to a node is written with few characters**, whatever the address is. -/
theorem isWritten_of_mem_hosted_node {url : String} {c : Char}
    (h : c ∈ (hosted.node url).toList) : isWritten c = true := by
  have hpath : ∀ d ∈ "/navigate?".toList, isWritten d = true := List.all_eq_true.mp (by decide)
  have hname : ∀ d ∈ "url=".toList, isWritten d = true := List.all_eq_true.mp (by decide)
  rw [toList_hosted_node, List.mem_append, List.mem_append] at h
  rcases h with hmem | hmem | hvalue
  · exact hpath c hmem
  · exact hname c hmem
  · rw [isWritten, FormEncoded.isWritten_of_mem_encode hvalue, Bool.true_or]

/-- None of these characters needs a reference in a page. -/
theorem escapeChar_of_isWritten {c : Char} (h : isWritten c = true) : escapeChar c = [c] := by
  rcases escapeChar_cases c with hspecial | ⟨hself, -⟩
  · rcases hspecial with rfl | rfl | rfl | rfl | rfl <;> exact absurd h (by decide)
  · exact hself

/-- None of them is blank. -/
theorem isBlank_of_isWritten {c : Char} (h : isWritten c = true) : isBlank c = false := by
  have hnone : blanks.all (fun d => !isWritten d) = true := by decide
  rw [← Bool.not_eq_true, isBlank, List.contains_iff_mem]
  intro hmem
  have hout := List.all_eq_true.mp hnone c hmem
  rw [h] at hout
  cases hout

/-- **The link to a node passes through a page and comes back as the address.**  Nothing in it is
escaped in a page, nothing in it ends or splits the query, and the query has the one field `url`, whose
value is the address. -/
theorem hosted_node_read_back (url : String) :
    escaped (hosted.node url) = hosted.node url ∧
    (∀ c ∈ (hosted.node url).toList,
      c ≠ '#' ∧ c ≠ '&' ∧ isBlank c = false ∧ c ≠ '"' ∧ c ≠ '\'') ∧
    ∃ query, (hosted.node url).toList = "/navigate?".toList ++ query ∧ '?' ∉ query ∧
      Request.query ⟨"GET", hosted.node url⟩ = query ∧
      FormEncoded.fields query = [("url".toList, url.toList)] := by
  have hquery : Request.query ⟨"GET", hosted.node url⟩ =
      "url=".toList ++ FormEncoded.encode url.toList := by
    rw [Request.hosted_node_eq_ofField, Request.isPlainPath_navigate.query_ofField]
    rfl
  refine ⟨?_, ?_, _, toList_hosted_node url, ?_, hquery, ?_⟩
  · rw [escaped, escape_eq_self fun c hmem =>
      escapeChar_of_isWritten (isWritten_of_mem_hosted_node hmem), String.ofList_toList]
  · intro c hmem
    have hwritten := isWritten_of_mem_hosted_node hmem
    refine ⟨?_, ?_, isBlank_of_isWritten hwritten, ?_, ?_⟩ <;>
      exact fun h => absurd (h ▸ hwritten) (by decide)
  · intro hmem
    rcases List.mem_append.mp hmem with hname | hvalue
    · exact absurd hname (by decide)
    · cases FormEncoded.isWritten_of_mem_encode hvalue
  · rw [← hquery, Request.hosted_node_eq_ofField]
    exact Request.isPlainPath_navigate.fields_query_ofField _ _

end LinkTargets

end GraphBrowser
