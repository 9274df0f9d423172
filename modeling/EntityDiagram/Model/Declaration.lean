import EntityDiagram.Naming
import EntityDiagram.Pattern.Basic
import EntityDiagram.Schema

/-!
# What a model class declares about its table

A model file is not parsed. The declarations that matter have a fixed shape, and each is looked for
by a pattern of its own: the table name, the list of fillable fields, the map of casts in either of
its two forms, and the switches that turn the synthetic key and the time stamps off. The price is
known: an array literal ends at the first closing bracket, and values that are computed are not
seen.

`entity?` puts the findings together. The order of attributes is the order of drawing: the
synthetic key first, then the fillable fields, then fields that only a cast names, then the time
stamps; a name is never repeated. A cast decides the type of its field wherever the field came from.
-/

namespace EntityDiagram
namespace Model

open Pattern

/-! ## The shapes looked for -/

def abstractClass : Pattern := wordEdge ++ "abstract" ++ space ++ "class" ++ wordEdge

def classDeclaration : Pattern :=
  wordEdge ++ "class" ++ space ++ one Text.isIdentifierStart ++ most Text.isWord

def isQuote (c : Char) : Bool := c == '\'' || c == '"'

/-- A text between quotation marks of either kind, kept without them. The marks need not be of one
    kind, and no mark of either kind occurs between them. -/
def looselyQuoted : Pattern := one isQuote ++ captured (several (!isQuote ·)) ++ one isQuote

/-- A text between quotation marks of one kind, kept without them. -/
def quotedText : Pattern :=
  ("'" ++ captured (several (· != '\'')) ++ "'") <|> ("\"" ++ captured (several (· != '"')) ++ "\"")

def property (name : Pattern) : Pattern :=
  "protected" ++ space ++ name ++ blanks ++ "=" ++ blanks

/-- An array literal up to its first closing bracket, its contents kept. -/
def arrayLiteral : Pattern := "[" ++ captured (fewest fun _ => true) ++ "]"

def tableProperty : Pattern := property "$table" ++ looselyQuoted

def fillableProperty : Pattern := property "$fillable" ++ arrayLiteral

def castsProperty : Pattern := property "$casts" ++ arrayLiteral

def castsMethod : Pattern :=
  "function" ++ space ++ "casts" ++ blanks ++ "(" ++ blanks ++ ")" ++ blanks
    ++ optional (":" ++ blanks ++ "array" ++ blanks)
    ++ "\x7b" ++ blanks ++ "return" ++ blanks ++ arrayLiteral

/-- One entry of a map of casts, field and cast kept. -/
def castPair : Pattern := looselyQuoted ++ blanks ++ "=>" ++ blanks ++ looselyQuoted

def countingOff : Pattern :=
  literalAnyCase "$incrementing" ++ blanks ++ "=" ++ blanks ++ literalAnyCase "false" ++ wordEdge

def ownKey : Pattern := "protected" ++ space ++ "$primaryKey" ++ wordEdge

def timestampsOff : Pattern :=
  literalAnyCase "$timestamps" ++ blanks ++ "=" ++ blanks ++ literalAnyCase "false" ++ wordEdge

/-! ## The findings -/

/-- Whether the source declares a class and no abstract one. -/
def isConcrete (source : Text) : Bool :=
  !abstractClass.occursIn source && classDeclaration.occursIn source

def tableName (model source : Text) : Text :=
  match tableProperty.search? source with
  | some m => m.text 0
  | none => Naming.defaultTableName model

/-- The fillable fields, in the order written. -/
def fillable (source : Text) : List Text :=
  match fillableProperty.search? source with
  | some m => (quotedText.all (m.text 0)).map (·.text 0)
  | none => []

/-- Fields and their casts, in the order written. The property counts before the method. -/
def casts (source : Text) : List (Text × Text) :=
  match castsProperty.search? source <|> castsMethod.search? source with
  | some m =>
    (castPair.all (m.text 0)).map fun pair => (Text.strip (pair.text 0), Text.strip (pair.text 1))
  | none => []

def hasSyntheticKey (source : Text) : Bool :=
  !(countingOff.occursIn source || ownKey.occursIn source)

def hasTimestamps (source : Text) : Bool := !timestampsOff.occursIn source

/-! ## Casts -/

def castTypes : List (Text × ColumnType) := [
  ("string", .string),
  ("integer", .integer),
  ("int", .integer),
  ("bigint", .bigint),
  ("boolean", .boolean),
  ("bool", .boolean),
  ("float", .decimal),
  ("double", .decimal),
  ("decimal", .decimal),
  ("date", .date),
  ("datetime", .timestamp),
  ("timestamp", .timestamp),
  ("json", .json),
  ("array", .json),
  ("object", .json),
  ("collection", .json),
  ("text", .text)]

/-- The column type of a cast. Parameters behind a colon do not matter, nor does letter case; a
    cast that is not known is kept as a string. -/
def castType (cast : Text) : ColumnType :=
  (castTypes.lookup (Text.lower (Text.strip (Text.beforeFirst ':' cast)))).getD .string

/-! ## Putting an entity together -/

/-- The entity with one more attribute at the end, unless it has one of that name already. -/
def ensure (a : Attribute) (e : Entity) : Entity :=
  if e.hasAttribute a.name then e else { e with attributes := e.attributes ++ [a] }

/-- The attributes with the given type for the first of that name, which is added at the end if
    there is none. -/
def assignTypeIn (name : Text) (type : ColumnType) : List Attribute → List Attribute
  | [] => [⟨name, type.name, false, false⟩]
  | a :: rest =>
    if a.name == name then { a with type := type.name } :: rest
    else a :: assignTypeIn name type rest

def assignType (name : Text) (type : ColumnType) (e : Entity) : Entity :=
  { e with attributes := assignTypeIn name type e.attributes }

def syntheticKey : Attribute := ⟨"id", ColumnType.bigint.name, true, false⟩

def timestampNames : List Text := ["created_at", "updated_at"]

/-- The entity of a model file that declares a concrete class. -/
def described (model source : Text) : Entity :=
  let keyed : Entity :=
    ⟨model, tableName model source, if hasSyntheticKey source then [syntheticKey] else []⟩
  let listed := (fillable source).foldl
    (fun e name => ensure ⟨name, ColumnType.string.name, false, false⟩ e) keyed
  let typed := (casts source).foldl
    (fun e (name, cast) => assignType name (castType cast) e) listed
  if hasTimestamps source then
    timestampNames.foldl
      (fun e name => ensure ⟨name, ColumnType.timestamp.name, false, false⟩ e) typed
  else typed

/-- The entity that a model file describes, if it declares a concrete class. -/
def entity? (model source : Text) : Option Entity :=
  if isConcrete source then some (described model source) else none

end Model
end EntityDiagram
