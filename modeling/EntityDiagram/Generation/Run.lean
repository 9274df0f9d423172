import EntityDiagram.Diagram
import EntityDiagram.Generation.Workspace
import EntityDiagram.Viewer.Page

/-!
# Generating a diagram

A run has two halves. The first *surveys*: it reads the model files, or checks a schema written by
hand, and ends with a schema to draw or a failure. It only looks. The second *publishes*: it draws
the schema, makes the page around the drawing, cleans the output directory if asked to, and writes
the two files, the page before the diagram. So a run that finds nothing to draw leaves the tree as
it was, whatever it was asked to clean.

Publishing has no way back. When a file cannot be written, what was cleaned and written before it
stays so, and of the file itself what it has taken until then.
-/

namespace EntityDiagram
namespace Generation

/-! ## Configurations -/

structure Config where
  modelsDir : Path
  outputDir : Path
  title : Text
  includeRelations : Bool
  cleanOutput : Bool := false
  filePattern : Text
  maxParallelReads : Int
  deriving DecidableEq

structure Overrides where
  modelsDir : Option Text := none
  outputDir : Option Text := none
  title : Option Text := none
  includeRelations : Option Bool := none
  cleanOutput : Option Bool := none
  filePattern : Option Text := none
  maxParallelReads : Option Int := none

/-- The configuration that settings give, but for what is overridden. -/
def Config.of (settings : Settings) (o : Overrides) : Config where
  modelsDir := Path.ofText (o.modelsDir.getD settings.modelsDir)
  outputDir := Path.ofText (o.outputDir.getD settings.outputDir)
  title := o.title.getD settings.title
  includeRelations := o.includeRelations.getD settings.includeRelations
  cleanOutput := o.cleanOutput.getD false
  filePattern := o.filePattern.getD settings.filePattern
  maxParallelReads := o.maxParallelReads.getD settings.maxParallelReads

/-- The configuration that the current settings give, but for what is overridden. -/
def config (o : Overrides) : Work Config := return Config.of (← Work.settings) o

/-! ## Summaries -/

structure Summary where
  entityNames : List Text
  relationshipCount : Nat
  skipped : List Skipped
  outputDir : Path
  deriving DecidableEq

def summarize (c : Config) (schema : Schema) (skipped : List Skipped) : Summary :=
  ⟨schema.entityNames, schema.relationships.length, skipped, c.outputDir⟩

/-! ## Surveying -/

/-- What a survey found to draw, and the files it had to pass over. -/
structure Survey where
  schema : Schema
  skipped : List Skipped
  deriving DecidableEq

def selectedNote (n : Nat) : LogRecord :=
  ⟨.info, "Found " ++ Text.ofNat n ++ (" model files." : Text)⟩

/-- A survey of the model files of a configuration, and the notes on it. -/
def survey (t : FileTree) (here : Location) (unreadable : List Location) (c : Config) :
    Except Failure Survey × Log :=
  match t.isDirectory here c.modelsDir with
  | .error f => (.error (.file f), [])
  | .ok false => (.error (.modelsNotFound c.modelsDir), [])
  | .ok true =>
    match Model.load t here unreadable c.modelsDir c.filePattern with
    | .error f => (.error (.ofLoad f), [])
    | .ok loaded =>
      -- Files that cannot be read are files too: with them alone there is no model, but a match.
      if loaded.units.isEmpty && loaded.unread.isEmpty then
        (.error (.noFiles c.modelsDir), loaded.log)
      else
        let found := Model.assemble ⟨c.includeRelations, true⟩ Model.uninterrupted loaded.units
        let notes := loaded.log ++ [selectedNote (loaded.units.length + loaded.unread.length)]
          ++ found.log
        if found.entities.isEmpty then (.error .noModels, notes)
        else (.ok ⟨found.schema, loaded.unread ++ found.skipped⟩, notes)

/-! ## Publishing -/

def diagramName : Text := "diagram.mmd"

def pageName : Text := "index.html"

/-- The note on an output directory that is not there to be cleaned. -/
def nothingToClean : LogRecord :=
  ⟨.info, "Output directory does not exist, skipping clean."⟩

/-- A directory emptied, or removed unless it is kept. -/
def clean (directory : Path) (keep : Bool) : Work Unit := do
  let w ← get
  if w.tree.existsAt w.here directory matches .ok false then
    Work.report [nothingToClean]
  Work.change fun w => w.tree.clean w.here directory keep

/-- A directory made, and the directories on the way to it. -/
def makeDirectories (directory : Path) : Work Unit :=
  Work.change fun w => w.tree.makeDirectories w.here directory

def write (file : Path) (text : Text) : Work Unit :=
  Work.change fun w => w.tree.writeAgainst w.here (w.obstacle? file) file (Utf8.encode text)

/-- The diagram of a schema and the page around it, written to the output directory. -/
def publish (c : Config) (schema : Schema) : Work Unit := do
  let diagram := Diagram.render schema c.title
  let script := (← Work.settings).scriptUrl
  let page := Viewer.pageFor (← get).today script { diagram, title := c.title }
  if c.cleanOutput then clean c.outputDir true
  makeDirectories c.outputDir
  -- Nothing is put back: when a write breaks off, or the second is refused, the page and the diagram
  -- are not of one run.
  write (c.outputDir.child pageName) page
  write (c.outputDir.child diagramName) diagram

/-! ## Runs -/

def generate (c : Config) : Work Summary := do
  let w ← get
  let (found, notes) := survey w.tree w.here w.unreadable c
  Work.report notes
  let found ← Work.ofExcept found
  publish c found.schema
  return summarize c found.schema found.skipped

def generateFromLiteral (document : Json) (c : Config) : Work Summary := do
  match Literal.read document with
  | .error f => throw (.literal f)
  | .ok schema =>
    publish c schema
    return summarize c schema []

/-- The configuration seen from a project: its directories are in the project, and the models are
    where the project has them, unless the caller said where they are. -/
def Config.within (c : Config) (root : Path) (detected : Option Path) : Config :=
  { c with modelsDir := detected.getD (root.join c.modelsDir), outputDir := root.join c.outputDir }

def generateProject (root : Path) (o : Overrides) : Work Summary := do
  let c ← config o
  let w ← get
  if o.modelsDir.isSome then generate (c.within root none)
  else
    let detected ← Work.ofExcept <|
      (w.tree.detectModels w.here root w.unreadable).mapError Failure.ofDetection
    generate (c.within root detected)

end Generation
end EntityDiagram
