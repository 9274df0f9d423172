import EntityDiagram.Text.Basic

/-!
# Schemas

A schema is what a diagram shows: entities with their attributes, and relationships between them.
It is the meeting point of the library. Scanned model files and hand-written literals are both
turned into a schema, and everything that is drawn is drawn from one.

Column types and relationship types are kept as text, because a literal may name types this library
knows nothing about and they are drawn as they stand. The two vocabularies the library does know,
`ColumnType` and `Cardinality`, say which texts it writes itself. How a relationship is drawn is
never stored: it is looked up from its type, and a type outside the vocabulary gets a plain line.
-/

namespace EntityDiagram

/-! ## Vocabularies -/

inductive ColumnType where
  | string | integer | bigint | boolean | decimal | date | timestamp | json | text
  deriving DecidableEq, Repr

def ColumnType.name : ColumnType → Text
  | string => "string"
  | integer => "integer"
  | bigint => "bigint"
  | boolean => "boolean"
  | decimal => "decimal"
  | date => "date"
  | timestamp => "timestamp"
  | json => "json"
  | text => "text"

inductive Cardinality where
  | oneToOne | oneToMany | manyToOne | manyToMany
  deriving DecidableEq, Repr

namespace Cardinality

def code : Cardinality → Text
  | oneToOne => "1-1"
  | oneToMany => "1-N"
  | manyToOne => "N-1"
  | manyToMany => "N-N"

def edge : Cardinality → Text
  | oneToOne => "||--||"
  | oneToMany => "||--o\x7b"
  | manyToOne => "\x7do--||"
  | manyToMany => "\x7do--o\x7b"

def all : List Cardinality := [oneToOne, oneToMany, manyToOne, manyToMany]

/-- The cardinality that a relationship type stands for, if it stands for one. -/
def ofCode? (type : Text) : Option Cardinality := all.find? (·.code == type)

end Cardinality

def edgeSymbol (type : Text) : Text :=
  match Cardinality.ofCode? type with
  | some cardinality => cardinality.edge
  | none => "--"

/-! ## Records -/

structure Attribute where
  name : Text
  type : Text := ColumnType.string.name
  primary : Bool := false
  nullable : Bool := false
  deriving DecidableEq

structure Entity where
  name : Text
  tableName : Text
  attributes : List Attribute := []
  deriving DecidableEq

namespace Entity

/-- The first attribute with the given name. -/
def attribute? (e : Entity) (name : Text) : Option Attribute :=
  e.attributes.find? (·.name == name)

def hasAttribute (e : Entity) (name : Text) : Bool := (e.attribute? name).isSome

/-- The names of the attributes, in order. -/
def attributeNames (e : Entity) : List Text := e.attributes.map (·.name)

end Entity

/-- A directed, labelled edge between two entities. Neither end need be an entity of the schema. -/
structure Relationship where
  source : Text
  target : Text
  label : Text
  type : Text
  description : Option Text := none
  deriving DecidableEq

def Relationship.cardinality (r : Relationship) : Text := edgeSymbol r.type

/-- Entities and the relationships between them, both in drawing order. -/
structure Schema where
  entities : List Entity := []
  relationships : List Relationship := []
  deriving DecidableEq

/-- The names of the entities, in order. -/
def Schema.entityNames (s : Schema) : List Text := s.entities.map (·.name)

end EntityDiagram
