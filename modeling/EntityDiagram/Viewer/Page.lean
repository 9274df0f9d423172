import EntityDiagram.Text.Markup
import EntityDiagram.Viewer.Template

/-!
# Filling the page

The title, the script address and the date go into the page as text, in escaped form. The diagram
goes in as it stands, because the drawing script reads it from the page and would read the
references instead of the characters. Whatever markup a diagram contains is therefore markup of the
page.
-/

namespace EntityDiagram
namespace Viewer

structure Inputs where
  diagram : Text
  title : Text
  /-- The day shown in the footer, year first. -/
  date : Text
  script : Text
  deriving DecidableEq

def Piece.fill (inputs : Inputs) : Piece → Text
  | .fixed lines => Text.join ['\n'] (lines.map String.toList)
  | .title => Text.escaped inputs.title
  | .script => Text.escaped inputs.script
  | .diagram => inputs.diagram
  | .date => Text.escaped inputs.date

def page (inputs : Inputs) : Text := pieces.flatMap (·.fill inputs)

/-- What a page is asked to show. The date and the script may be left open. -/
structure Request where
  diagram : Text
  title : Text
  date : Option Text := none
  script : Option Text := none

/-- The inputs that a request comes to on a given day, where there is a usual script. A blank script
    address counts as none. -/
def Request.inputs (today usualScript : Text) (r : Request) : Inputs where
  diagram := r.diagram
  title := r.title
  date := r.date.getD today
  script := match r.script with
    | some [] => usualScript
    | some address => address
    | none => usualScript

/-- The page that is asked for. -/
def pageFor (today usualScript : Text) (r : Request) : Text := page (r.inputs today usualScript)

end Viewer
end EntityDiagram
