import GraphBrowser.Json.Printer
import GraphBrowser.Host.Request

/-!
# Responses of the host

What the host answers: a page, a report, a redirection to the page, or an error.

## Main definitions

* `Response` — a status, two headers and a body
* `Response.page`, `Response.report`, `Response.backToPage` — the answers to what the host knows
* `Response.notFound`, `Response.badQuery`, `Response.notExpandable` — the answers to anything else
-/

namespace GraphBrowser

/-- What the host answers. -/
structure Response where
  /-- The status code. -/
  status : Nat
  /-- The header `location`. -/
  location : Option String := none
  /-- The header `content-type`. -/
  contentType : Option String := none
  /-- The body. -/
  body : String := ""
deriving Repr, DecidableEq

namespace Response

/-- A page. -/
def page (html : String) : Response :=
  { status := 200, contentType := some "text/html; charset=utf-8", body := html }

/-- A JSON value with a status. -/
def json (status : Nat) (value : Json) : Response :=
  { status, contentType := some "application/json", body := value.text }

/-- A report. -/
def report (value : Json) : Response := json 200 value

/-- The way back to the page. -/
def backToPage : Response := { status := 302, location := some "/" }

/-- Nothing is known at the path. -/
def notFound : Response := { status := 404 }

/-- The query of a known path is wrong. -/
def badQuery (e : QueryError) : Response :=
  { status := 400, contentType := some "text/plain; charset=utf-8",
    body := "Query deserialize error: " ++ e.message }

/-- The row has no expand control. -/
def notExpandable (row : Nat) : Response :=
  json 404 (.object [("error", .string ("No expandable relationship at row " ++ toString row))])

end Response

end GraphBrowser
