import EntityDiagram.Json.Decimal
import EntityDiagram.Text.Basic

/-!
# Documents

Two of the things this library reads come as documents of nested lists and named fields: a schema
written by hand, and the manifest of a project. Whole numbers are kept apart from numbers written
with a fraction or an exponent, since readers treat them differently. The fields of an object keep
the order in which they were written, and no name occurs twice.
-/

namespace EntityDiagram

inductive Json where
  | null
  | bool (value : Bool)
  | integer (value : Int)
  | decimal (value : Json.Decimal)
  /-- A number beyond all others, or none at all. -/
  | notFinite
  | text (value : Text)
  | list (items : List Json)
  | object (fields : List (Text × Json))

namespace Json

def field? (fields : List (Text × Json)) (name : Text) : Option Json := fields.lookup name

/-- The fields with the given value for the given name, where it stands if it is there already and
    at the end otherwise. -/
def setField (name : Text) (value : Json) : List (Text × Json) → List (Text × Json)
  | [] => [(name, value)]
  | (n, v) :: rest =>
    if n == name then (n, value) :: rest else (n, v) :: setField name value rest

/-- Whether a value counts as given. Nothing, no, zero, and whatever is empty do not. -/
def isGiven : Json → Bool
  | null => false
  | bool value => value
  | integer value => value != 0
  | decimal value => value.integer? != some 0
  | notFinite => true
  | text value => !value.isEmpty
  | list items => !items.isEmpty
  | object fields => !fields.isEmpty

end Json
end EntityDiagram
