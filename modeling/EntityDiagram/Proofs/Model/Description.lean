import EntityDiagram.Model.Assembly
import EntityDiagram.Proofs.Model.Columns

/-!
# Model files written from a description

What scanning is for is to get back what the author of a model file put into it. To say that, one
needs what the author puts into it, and how it is written down. A `Description` is the former: the
names, switches, fields, casts and accessors of one model. `Description.print` is the latter, the
class file that an author would write. `Description.entity` and `Description.relationships` say what
ought to be found in it, and they say it from the description alone.

Names are identifiers by construction, and so on down to the segments of a class reference, so that
whatever can be described can be printed.
-/

namespace EntityDiagram
namespace Model

/-! ## Names -/

def isNameCharacter (c : Char) : Bool := Text.isAsciiLetter c || Text.isAsciiDigit c || c == '_'

/-- Whether a text is a name: a letter or underscore, then letters, digits and underscores. -/
def isName : Text → Bool
  | [] => false
  | c :: rest => Text.isIdentifierStart c && rest.all isNameCharacter

/-- A name, as classes, tables, fields and methods have one. -/
structure Identifier where
  text : Text
  valid : isName text = true

def isCastCharacter (c : Char) : Bool :=
  Text.isAsciiLetter c || Text.isAsciiDigit c || (":,-_." : Text).contains c

structure CastText where
  text : Text
  nonempty : text ≠ []
  valid : text.all isCastCharacter = true

/-- A class, referred to from the root of the namespaces. None of the names on the way is the keyword
    that begins a function. -/
structure ClassReference where
  namespaces : List Identifier
  name : Identifier
  noKeyword : ∀ segment ∈ namespaces ++ [name], segment.text ≠ "function".toList

/-! ## Descriptions -/

/-- A relationship as a model declares it: the accessor, the builder it calls, and the class it calls
    it with. -/
structure Relation where
  accessor : Identifier
  builder : Builder
  target : ClassReference

inductive CastsForm where
  | property | method
  deriving DecidableEq

structure Description where
  name : Identifier
  table : Option Identifier := none
  /-- Whether the key is said not to count. -/
  countingOff : Bool := false
  ownKey : Option Identifier := none
  stamped : Bool := true
  fillable : List Identifier := []
  casts : List (Identifier × CastText) := []
  castsForm : CastsForm := .property
  relations : List Relation := []

/-! ## In print -/

def ClassReference.print (r : ClassReference) : Text :=
  (r.namespaces ++ [r.name]).flatMap fun segment => '\\' :: segment.text

/-- An accessor in print, without what stands before its keyword. -/
def Relation.print (r : Relation) : Text :=
  "function " ++ r.accessor.text ++ ("()\n    \x7b\n        return $this->" : Text) ++ r.builder.method
    ++ ("(" : Text) ++ r.target.print ++ ("::class);\n    \x7d\n\n" : Text)

example : Relation.print ⟨⟨"author", rfl⟩, .belongsTo, ⟨[⟨"App", rfl⟩], ⟨"User", rfl⟩, by decide⟩⟩
    = "function author()
    \x7b
        return $this->belongsTo(\\App\\User::class);
    \x7d

".toList := by
  decide +kernel

namespace Description

def printField (field : Identifier) : Text :=
  "\n        '" ++ field.text ++ ("'," : Text)

def printCast (entry : Identifier × CastText) : Text :=
  "\n        '" ++ entry.1.text ++ ("' => '" : Text) ++ entry.2.text ++ ("'," : Text)

variable (d : Description)

def opening : Text := "<?php\n\nclass " ++ d.name.text ++ (" extends Model\n\x7b\n" : Text)

/-- The table, if the model says which. -/
def printTable : Text :=
  match d.table with
  | none => []
  | some table => "    protected $table = '" ++ table.text ++ ("';\n\n" : Text)

/-- The switch that turns counting keys off, if it is there. -/
def printCounting : Text := if d.countingOff then "    public $incrementing = false;\n\n" else []

/-- The key, if the model has its own. -/
def printKey : Text :=
  match d.ownKey with
  | none => []
  | some key => "    protected $primaryKey = '" ++ key.text ++ ("';\n\n" : Text)

/-- The switch that turns time stamps off, if it is there. -/
def printStamps : Text := if d.stamped then [] else "    public $timestamps = false;\n\n"

def printFillable : Text :=
  "    protected $fillable = [" ++ d.fillable.flatMap printField ++ ("\n    ];\n\n" : Text)

/-- The map of casts, in either form. -/
def printCasts : Text :=
  match d.castsForm with
  | .property =>
    "    protected $casts = [" ++ d.casts.flatMap printCast ++ ("\n    ];\n\n" : Text)
  | .method =>
    "    protected function casts(): array\n    \x7b\n        return ["
      ++ d.casts.flatMap printCast ++ ("\n    ];\n    \x7d\n\n" : Text)

def printRelations : Text := d.relations.flatMap fun r => "    public " ++ r.print

def print : Text :=
  d.opening ++ (d.printTable ++ (d.printCounting ++ (d.printKey ++ (d.printStamps
    ++ (d.printFillable ++ (d.printCasts ++ (d.printRelations ++ ("\x7d\n" : Text))))))))

def unit (path : Text) : SourceUnit := ⟨d.name.text, d.print, path⟩

/-! ## What ought to be found -/

def declarations : Declarations where
  keyed := !d.countingOff && d.ownKey.isNone
  fillable := d.fillable.map (·.text)
  casts := d.casts.map fun entry => (entry.1.text, entry.2.text)
  stamped := d.stamped

def entity : Entity where
  name := d.name.text
  tableName := match d.table with
    | some table => table.text
    | none => Naming.defaultTableName d.name.text
  attributes := d.declarations.columns

/-- The relationships, one for each accessor. -/
def relationships : List Relationship :=
  d.relations.map fun r => ⟨d.name.text, r.target.name.text, r.accessor.text,
    r.builder.cardinality.code, r.builder.description⟩

end Description
end Model
end EntityDiagram
