import GraphBrowser.Markup.Display
import GraphBrowser.View.Alert
import GraphBrowser.View.Controls

/-!
# The page

The whole page: the controls, the alerts that are waiting, and the surface.

## Main definitions

* `Page.pieces` — the pieces of a page around given result pieces
* `Page.html` — the text of the page for a surface
-/

namespace GraphBrowser.Page

/-- The page up to its controls. -/
def head : String :=
  "<!DOCTYPE html>\n" ++
  "<html lang=\"en\">\n" ++
  "<head>\n" ++
  "<meta charset=\"UTF-8\">\n" ++
  "<title>nodeview</title>\n" ++
  "<style>\n" ++
  "  body \x7b font-family: sans-serif; font-size: 14px; margin: 16px; \x7d\n" ++
  "  #controls \x7b margin-bottom: 12px; \x7d\n" ++
  "  .alert \x7b background: #fde8e8; border: 1px solid #e53935; padding: 6px 10px; " ++
  "margin: 6px 0; \x7d\n" ++
  "  table \x7b border-collapse: collapse; margin-bottom: 8px; \x7d\n" ++
  "  th, td \x7b border: 1px solid #ccc; padding: 3px 8px; text-align: left; " ++
  "vertical-align: top; \x7d\n" ++
  "  .inlineNode h2 \x7b font-size: 14px; \x7d\n" ++
  "</style>\n" ++
  "</head>\n" ++
  "<body>\n"

/-- The pieces of the controls. -/
def controlsPieces (controls : Controls) : List Piece :=
  [.markup ("<form id='controls' action='/go' method='get'>" ++ Controls.label ++
    " \n<input type='text' name='id' value='"),
   .slot controls.input,
   .markup ("' />\n<button>" ++ Controls.buttonCaption ++ "</button>\n</form>\n")]

/-- The pieces of an alert. -/
def alertPieces (alert : Alert) : List Piece :=
  [.markup "<div class='alert'>", .slot alert.message, .markup "</div>\n"]

/-- The pieces of a page whose result region consists of the given pieces. -/
def pieces (controls : Controls) (alerts : List Alert) (result : List Piece) : List Piece :=
  .markup head :: (controlsPieces controls ++ alerts.flatMap alertPieces ++
    .markup "<div id='result'>\n" :: (result ++ [.markup "</div>\n</body>\n</html>\n"]))

/-- The text of a page that shows a surface. Its links lead back to the host of the page. -/
def html (controls : Controls) (alerts : List Alert) (surface : Surface) : String :=
  Piece.html (pieces controls alerts (surface.pieces .hosted))

end GraphBrowser.Page
