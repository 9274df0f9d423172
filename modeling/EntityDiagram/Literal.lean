import EntityDiagram.Json.Basic
import EntityDiagram.Naming
import EntityDiagram.Schema
import EntityDiagram.Validation

/-!
# Schemas written by hand

A schema may be given as a document instead of being scanned from model files. The document is
checked as a whole and converted to the same records that scanning produces, so nothing that draws
knows where a schema came from.

The format is forgiving in a few places. Fields it does not know are ignored. The table of an entity
and the ends of a relationship go by two names each, the first of which counts when both are given.
Flags may be given as numbers or words. A blank column type stands for a string column, and a blank
or missing table for the one that the naming convention gives.
-/

namespace EntityDiagram
namespace Literal

/-! ## Values -/

def checkText : Json → Checked Text
  | .text t => .valid t
  | _ => .fail .notText

/-- A text that is not empty. -/
def checkName : Json → Checked Text
  | .text [] => .fail .emptyText
  | .text t => .valid t
  | _ => .fail .notText

/-- A text, or nothing. -/
def checkTextOrNull : Json → Checked (Option Text)
  | .null => .valid none
  | .text t => .valid (some t)
  | _ => .fail .notText

/-- The first positive integer of more than 63 bits. -/
def wordLimit : Int := Int.pow 2 63

/-- The flag that an integer stands for. Integers of more than 63 bits are not taken for flags at
    all. -/
def integerFlag (i : Int) : Checked Bool :=
  if i == 0 then .valid false
  else if i == 1 then .valid true
  else if -wordLimit ≤ i && i < wordLimit then .fail .unreadableFlag
  else .fail .notFlag

/-- A flag: yes or no, the number one or zero, or a word that stands for either. -/
def checkFlag : Json → Checked Bool
  | .bool b => .valid b
  | .integer i => integerFlag i
  | .decimal d => match d.integer? with
    | some i => if i == -wordLimit then .fail .notFlag else integerFlag i
    | none => .fail .notFlag
  | .text t => readFlag t
  | _ => .fail .notFlag

/-- A list, each of its items checked. -/
def checkList {α : Type} (check : Json → Checked α) : Json → Checked (List α)
  | .list items => Checked.itemsFrom check 0 items
  | _ => .fail .notList

/-! ## Fields -/

/-- The first of the names under which a field is given, with its value. -/
def given? (fields : List (Text × Json)) (names : List Text) : Option (Text × Json) :=
  names.findSome? fun name => (Json.field? fields name).map (name, ·)

def required {α : Type} (fields : List (Text × Json)) (name : Text) (otherNames : List Text)
    (check : Json → Checked α) : Checked α :=
  match given? fields (name :: otherNames) with
  | some (found, value) => (check value).within (.field found)
  | none => (Checked.fail .missing).within (.field name)

def optional {α : Type} (fields : List (Text × Json)) (names : List Text) (default : α)
    (check : Json → Checked α) : Checked α :=
  match given? fields names with
  | some (found, value) => (check value).within (.field found)
  | none => .valid default

/-! ## Records -/

def checkAttribute : Json → Checked Attribute
  | .object fields =>
    (fun name type primary nullable =>
      { name, type := if type.isEmpty then ColumnType.string.name else type, primary, nullable })
    <$> required fields "name" [] checkName
    <*> optional fields ["type"] ColumnType.string.name checkText
    <*> optional fields ["primary"] false checkFlag
    <*> optional fields ["nullable"] false checkFlag
  | _ => .fail (.notRecord "AttributeLiteral")

/-- The table of an entity: the one given, unless it is blank. -/
def tableOr (name : Text) : Option Text → Text
  | some [] => Naming.defaultTableName name
  | some table => table
  | none => Naming.defaultTableName name

def checkEntity : Json → Checked Entity
  | .object fields =>
    (fun name table attributes => { name, tableName := tableOr name table, attributes })
    <$> required fields "name" [] checkName
    <*> optional fields ["tableName", "table_name"] none checkTextOrNull
    <*> optional fields ["attributes"] [] (checkList checkAttribute)
  | _ => .fail (.notRecord "EntityLiteral")

def checkRelationship : Json → Checked Relationship
  | .object fields =>
    (fun source target label type description => { source, target, label, type, description })
    <$> required fields "from" ["from_entity"] checkText
    <*> required fields "to" ["to_entity"] checkText
    <*> optional fields ["name"] [] checkText
    <*> required fields "type" [] checkText
    <*> optional fields ["description"] none checkTextOrNull
  | _ => .fail (.notRecord "RelationshipLiteral")

def checkSchema : Json → Checked Schema
  | .object fields =>
    (fun entities relationships => { entities, relationships })
    <$> optional fields ["entities"] [] (checkList checkEntity)
    <*> optional fields ["relationships"] [] (checkList checkRelationship)
  | _ => .fail (.notRecord "SchemaLiteral")

inductive Fault where
  /-- It does not have the format. -/
  | invalid (issues : Invalid)
  /-- It has the format, but no entities. -/
  | noEntities
  deriving DecidableEq

def read (document : Json) : Except Fault Schema :=
  match checkSchema document with
  | .invalid issues => .error (.invalid ⟨"SchemaLiteral", issues⟩)
  | .valid schema => if schema.entities.isEmpty then .error .noEntities else .ok schema

end Literal
end EntityDiagram
