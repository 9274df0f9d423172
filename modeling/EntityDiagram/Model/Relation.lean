import EntityDiagram.Log
import EntityDiagram.Naming
import EntityDiagram.Pattern.Basic
import EntityDiagram.Schema

/-!
# What a model class says about other models

A model declares a relationship by a method without parameters, an *accessor*, whose body calls one
of five builders on the model itself. Scanning finds the headers of such methods, and credits to
each the first builder call in its body. Where the body ends is not parsed either: it ends where the
next `function` keyword stands, so a call is never credited to an earlier method.

The first argument of the call names the other model. When no name is left of it the accessor gives
no edge. A name that no entity bears still gives an edge: the other model may come later, or from
elsewhere.
-/

namespace EntityDiagram
namespace Model

open Pattern

/-! ## Builders -/

inductive Builder where
  | hasOne | belongsTo | hasMany | belongsToMany | hasManyThrough
  deriving DecidableEq, Repr

namespace Builder

/-- All builders, in the order in which they are tried. -/
def all : List Builder := [hasOne, belongsTo, hasMany, belongsToMany, hasManyThrough]

def method : Builder → Text
  | hasOne => "hasOne"
  | belongsTo => "belongsTo"
  | hasMany => "hasMany"
  | belongsToMany => "belongsToMany"
  | hasManyThrough => "hasManyThrough"

/-- What the builder declares. To belong to another model is to be one of its many. -/
def cardinality : Builder → Cardinality
  | hasOne => .oneToOne
  | belongsTo => .manyToOne
  | hasMany => .oneToMany
  | belongsToMany => .manyToMany
  | hasManyThrough => .manyToMany

/-- The relationship in words, for the builders that have them. -/
def description : Builder → Option Text
  | hasOne => some "has one"
  | belongsTo => some "belongs to"
  | hasMany => some "has many"
  | belongsToMany => none
  | hasManyThrough => none

def ofMethod? (name : Text) : Option Builder := all.find? (·.method == name)

end Builder

/-! ## The shapes looked for -/

def isTypeCharacter (c : Char) : Bool := Text.isWord c || c == '\\'

/-- The header of a method without parameters, up to its opening brace; the name is kept. -/
def accessorHeader : Pattern :=
  "function" ++ space ++ captured (one Text.isIdentifierStart ++ most Text.isWord)
    ++ blanks ++ "(" ++ blanks ++ ")"
    ++ optional (blanks ++ ":" ++ blanks ++ optional "?" ++ several isTypeCharacter)
    ++ blanks ++ "\x7b"

def functionKeyword : Pattern := wordEdge ++ "function" ++ wordEdge

def builderName : Pattern :=
  literal Builder.hasOne.method <|> literal Builder.belongsTo.method
    <|> literal Builder.hasMany.method <|> literal Builder.belongsToMany.method
    <|> literal Builder.hasManyThrough.method

/-- Whether a character may occur in a first argument. -/
def isArgumentCharacter (c : Char) : Bool := c != ')' && c != ','

/-- A call of a builder on the model itself; the builder's name and the first argument are kept. -/
def builderCall : Pattern :=
  "$this" ++ blanks ++ "->" ++ blanks ++ captured builderName ++ blanks ++ "(" ++ blanks
    ++ captured (several isArgumentCharacter)

/-! ## Accessors and their calls -/

/-- A method without parameters and the text up to the next function. -/
structure Accessor where
  name : Text
  body : Text
  deriving DecidableEq

/-- The text from the end of a header to the next function, or to the end. -/
def bodyAfter (header : Match) : Text :=
  match functionKeyword.searchAt? header.stop with
  | some next => header.stop.upTo next.start
  | none => header.stop.rest

/-- The methods without parameters in a source, in order. -/
def accessors (source : Text) : List Accessor :=
  (accessorHeader.all source).map fun header => ⟨header.text 0, bodyAfter header⟩

/-- A builder call credited to an accessor. The target is empty when the first argument names no
    class. -/
structure RelationCall where
  accessor : Text
  builder : Builder
  target : Text
  deriving DecidableEq

/-- The builder call that an accessor makes, if it makes one. -/
def Accessor.call? (a : Accessor) : Option RelationCall := do
  let found ← builderCall.search? a.body
  let builder ← Builder.ofMethod? (found.text 0)
  return ⟨a.name, builder, Naming.classBasename (found.text 1)⟩

/-- The builder calls in a source, at most one for each accessor. -/
def relationCalls (source : Text) : List RelationCall := (accessors source).filterMap (·.call?)

/-- The relationship that a call declares for a model, if the call names a target. -/
def RelationCall.relationship? (model : Text) (call : RelationCall) : Option Relationship :=
  if call.target.isEmpty then none
  else some
    ⟨model, call.target, call.accessor, call.builder.cardinality.code, call.builder.description⟩

/-- The relationships that a model declares, in the order written. -/
def relationships (model source : Text) : List Relationship :=
  (relationCalls source).filterMap (·.relationship? model)

/-! ## What is worth noting -/

/-- The note that a call gives rise to, given the names of the entities known by then. -/
def RelationCall.note? (model : Text) (known : List Text) (call : RelationCall) :
    Option LogRecord :=
  let place := model ++ ("::" : Text) ++ call.accessor
  if call.target.isEmpty then
    some ⟨.debug, place ++ (": could not resolve related model" : Text)⟩
  else if known.contains call.target then none
  else some ⟨.debug, place ++ (" references unknown model " : Text) ++ call.target⟩

/-- The notes on all calls in a source, in order. -/
def relationNotes (model source : Text) (known : List Text) : Log :=
  (relationCalls source).filterMap (·.note? model known)

end Model
end EntityDiagram
