import EntityDiagram.Schema

/-!
# Diagrams

A diagram is drawn from a schema line by line: a header with the title as a comment, a block for
each entity, and a line for each relationship. The lines are the structure; `render` only puts them
under each other. A type that is blank is drawn as a string column, and the edge of a relationship
is looked up from its type each time.
-/

namespace EntityDiagram
namespace Diagram

def indent : Text := "    "

def attributeLine (a : Attribute) : Text :=
  indent ++ indent ++ (if a.type.isEmpty then ColumnType.string.name else a.type)
    ++ (" " : Text) ++ a.name
    ++ (if a.primary then (" PK" : Text) else []) ++ (if a.nullable then (" NULL" : Text) else [])

def entityBlock (e : Entity) : List Text :=
  [indent ++ e.name ++ (" \x7b" : Text)] ++ e.attributes.map attributeLine
    ++ [indent ++ ("\x7d" : Text)]

def relationshipLine (r : Relationship) : Text :=
  indent ++ r.source ++ (" " : Text) ++ r.cardinality ++ (" " : Text) ++ r.target
    ++ (" : \"" : Text) ++ r.label ++ ("\"" : Text)

/-- The lines of the diagram. An empty line follows the header and each entity. -/
def lines (s : Schema) (title : Text) : List Text :=
  ([("erDiagram" : Text), indent ++ ("%% " : Text) ++ title, []] : List Text)
    ++ s.entities.flatMap (fun e => entityBlock e ++ [[]])
    ++ s.relationships.map relationshipLine

/-- The text of the diagram: its lines, each ended by a line feed. -/
def render (s : Schema) (title : Text) : Text :=
  (lines s title).flatMap (· ++ ['\n'])

end Diagram
end EntityDiagram
