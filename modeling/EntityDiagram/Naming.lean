import EntityDiagram.Text.Blank
import EntityDiagram.Text.LowerCase

/-!
# Naming conventions

Two conventions tie a model class to the rest of its application. Its table is, unless it says
otherwise, the plural of its name in lower case. And it is referred to by its class name, which may
be written with its namespace, with a `::class` behind it, or as a quoted text; whatever the
notation, the name meant is the last segment.
-/

namespace EntityDiagram
namespace Naming

/-! ## Plurals -/

/-- Plurals that the rules on endings would get wrong, and some that are met often. -/
def irregularPlurals : List (Text × Text) := [
  ("category", "categories"),
  ("inventory", "inventories"),
  ("country", "countries"),
  ("person", "people"),
  ("child", "children"),
  ("status", "statuses"),
  ("analysis", "analyses")]

def endsInVowelY (word : Text) : Bool :=
  (["ay", "ey", "iy", "oy", "uy"] : List Text).any (·.isSuffixOf word)

/-- Whether a word ends in a sound that asks for a full syllable in the plural. -/
def endsInSibilant (word : Text) : Bool :=
  (["s", "x", "z", "ch", "sh"] : List Text).any (·.isSuffixOf word)

def pluralize (word : Text) : Text :=
  match irregularPlurals.lookup word with
  | some plural => plural
  | none =>
    if ("y" : Text).isSuffixOf word && !endsInVowelY word then word.dropLast ++ ("ies" : Text)
    else if endsInSibilant word then word ++ ("es" : Text)
    else word ++ ("s" : Text)

/-- The table that a model stands for when it does not say. -/
def defaultTableName (model : Text) : Text := pluralize (Text.lower model)

/-! ## Class references -/

def isQuotation (c : Char) : Bool := c == '\'' || c == '"' || c == '\x60'

/-- The reference without quotation marks and without any `::class`. -/
def withoutMarks : Text → Text
  | [] => []
  | ':' :: ':' :: 'c' :: 'l' :: 'a' :: 's' :: 's' :: rest => withoutMarks rest
  | c :: rest => if isQuotation c then withoutMarks rest else c :: withoutMarks rest

/-- The class name that a reference stands for; empty when nothing is left of it. -/
def classBasename (reference : Text) : Text :=
  Text.strip (Text.afterLast '\\' (withoutMarks (Text.strip reference)))

end Naming
end EntityDiagram
