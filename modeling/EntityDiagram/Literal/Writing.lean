import EntityDiagram.Json.Basic
import EntityDiagram.Schema

/-!
# Writing a schema down

A schema is written down in the format in which it may be given by hand: every field under the first
of its names, and nothing left to a default. A relationship is written with its edge beside its
type. The edge is there for other readers; where a schema is read the edge counts for nothing, so a
relationship may be written with any text in its place.
-/

namespace EntityDiagram

def Attribute.document (a : Attribute) : Json :=
  .object [
    ("name", .text a.name),
    ("type", .text a.type),
    ("primary", .bool a.primary),
    ("nullable", .bool a.nullable)]

def Entity.document (e : Entity) : Json :=
  .object [
    ("name", .text e.name),
    ("tableName", .text e.tableName),
    ("attributes", .list (e.attributes.map (·.document)))]

/-- A relationship with a text in the place of its edge. -/
def Relationship.documentWith (edge : Text) (r : Relationship) : Json :=
  .object [
    ("from", .text r.source),
    ("to", .text r.target),
    ("name", .text r.label),
    ("type", .text r.type),
    ("cardinality", .text edge),
    ("description", r.description.elim .null .text)]

def Relationship.document (r : Relationship) : Json := r.documentWith r.cardinality

def Schema.document (s : Schema) : Json :=
  .object [
    ("entities", .list (s.entities.map (·.document))),
    ("relationships", .list (s.relationships.map (·.document)))]

/-- A schema with texts in the places of the edges, one for each position. -/
def Schema.documentWith (edges : Nat → Text) (s : Schema) : Json :=
  .object [
    ("entities", .list (s.entities.map (·.document))),
    ("relationships", .list (s.relationships.mapIdx fun i r => r.documentWith (edges i)))]

end EntityDiagram
