import EntityDiagram.Model.Declaration
import EntityDiagram.Model.Relation

/-!
# From model files to a schema

A batch of model files is examined file by file, in order. Each file gives an `Assembly`, which
holds what it adds: at most one entity, its relationships, at most one file skipped, and the notes
on the way. The whole is these one after another. The only thing a file learns of those before it is
which entities are known, and that decides notes alone; so the schema of two batches together is the
two schemas together.

Examining a file has two steps, its attributes and its relationships, and either may be interrupted
by a cause from outside. An interruption costs the file what the step would have added and is
recorded; it never costs another file anything. Which steps are interrupted is a parameter, and with
`uninterrupted` none is.
-/

namespace EntityDiagram

/-- A model file: the name of its model, its text, and where it was found, if anywhere. -/
structure SourceUnit where
  name : Text
  content : Text
  path : Text := []
  deriving DecidableEq

/-- What a report calls the file: its path, or its name if it has no path. -/
def SourceUnit.label (u : SourceUnit) : Text := if u.path.isEmpty then u.name else u.path

/-- A file that could not be used, and why. -/
structure Skipped where
  file : Text
  reason : Text
  deriving DecidableEq

namespace Model

/-! ## The cheap test before scanning -/

/-- What a file says when it extends a model class. -/
def baseClassMarkers : List Text := [
  "extends Model", "extends Eloquent", "extends \\Illuminate\\Database\\Eloquent\\Model"]

/-- What a file says when it uses what models use. -/
def traitMarkers : List Text := [
  "use HasFactory", "use SoftDeletes", "protected $table", "protected $fillable"]

/-- Whether a file looks like a model: it says so, or it is named so. -/
def isLikely (content name : Text) : Bool :=
  baseClassMarkers.any (Text.occursIn · content) || traitMarkers.any (Text.occursIn · content)
    || ("Model" : Text).isSuffixOf name

/-! ## Assemblies -/

structure Assembly where
  entities : List Entity := []
  relationships : List Relationship := []
  skipped : List Skipped := []
  log : Log := []
  deriving DecidableEq

namespace Assembly

def append (a b : Assembly) : Assembly :=
  ⟨a.entities ++ b.entities, a.relationships ++ b.relationships, a.skipped ++ b.skipped,
    a.log ++ b.log⟩

instance : Append Assembly := ⟨append⟩

def schema (a : Assembly) : Schema := ⟨a.entities, a.relationships⟩

end Assembly

inductive Step where
  | attributes | relationships
  deriving DecidableEq, Repr

/-- Which steps are interrupted, and by what cause. -/
abbrev Interruptions := Step → SourceUnit → Option Text

def uninterrupted : Interruptions := fun _ _ => none

structure Options where
  includeRelations : Bool := true
  /-- Whether files that do not look like models are passed over. -/
  prefilter : Bool := true

def interrupted (u : SourceUnit) (cause : Text) : Assembly :=
  { skipped := [⟨u.label, cause⟩]
    log := [⟨.error, "Error processing " ++ u.label ++ (": " : Text) ++ cause⟩] }

/-- The relationships that a file adds, its entity being among those known. -/
def examineRelations (interruptions : Interruptions) (known : List Entity) (u : SourceUnit) :
    Assembly :=
  match interruptions .relationships u with
  | some cause => interrupted u cause
  | none =>
    { relationships := relationships u.name u.content
      log := relationNotes u.name u.content (known.map (·.name)) }

/-- What a file adds, given the entities known before it. -/
def examine (options : Options) (interruptions : Interruptions) (known : List Entity)
    (u : SourceUnit) : Assembly :=
  if options.prefilter && !isLikely u.content u.name then
    { log := [⟨.debug, "Skipping " ++ u.label ++ (": does not look like a model" : Text)⟩] }
  else
    let announced : Assembly := { log := [⟨.info, "Parsing model: " ++ u.name⟩] }
    announced ++ match interruptions .attributes u with
    | some cause => interrupted u cause
    | none => match entity? u.name u.content with
      | none =>
        { log := [⟨.debug, "Skipping " ++ u.name ++ (": no concrete class declaration" : Text)⟩] }
      | some e =>
        let found : Assembly := { entities := [e] }
        if options.includeRelations then
          found ++ examineRelations interruptions (known ++ [e]) u
        else found

/-- What a batch adds, given the entities known before it. -/
def examineAll (options : Options) (interruptions : Interruptions) :
    List Entity → List SourceUnit → Assembly
  | _, [] => {}
  | known, u :: rest =>
    let found := examine options interruptions known u
    found ++ examineAll options interruptions (known ++ found.entities) rest

def closingNote (a : Assembly) : LogRecord :=
  ⟨.info, "Extracted " ++ Text.ofNat a.entities.length ++ (" entities and " : Text)
    ++ Text.ofNat a.relationships.length ++ (" relationships." : Text)⟩

def assemble (options : Options) (interruptions : Interruptions) (units : List SourceUnit) :
    Assembly :=
  let found := examineAll options interruptions [] units
  { found with log := found.log ++ [closingNote found] }

end Model
end EntityDiagram
