import EntityDiagram.CommandLine.Arguments
import EntityDiagram.CommandLine.Manual
import EntityDiagram.Generation.Run

/-!
# The commands

There are two commands. One generates a diagram of the project in the current directory, the other
prepares a project by making the directory that diagrams are published in. Each takes a list of
arguments and a workspace, and answers with a *reply*: an exit code, what it wrote to its two
outputs, and the log records that its reader wanted to see. A failure that a command does not answer
with a message of its own ends it without an exit code, and what was written before it stays
written.

The first command reads the settings before its arguments, because some of them stand for what the
arguments leave open. Invalid settings therefore end it even when only its version was asked for.
-/

namespace EntityDiagram
namespace CommandLine

/-! ## Switches -/

inductive Switch where
  | help | version | output | models | relations | title | clean | verbose
  deriving DecidableEq

def Switch.takesValue : Switch → Bool
  | output => true
  | models => true
  | title => true
  | _ => false

def generateVocabulary : Vocabulary Switch where
  names := [("-h", .help), ("--help", .help), ("--version", .version), ("-o", .output),
    ("--output", .output), ("-m", .models), ("--models", .models), ("-r", .relations),
    ("--relations", .relations), ("--no-relations", .relations), ("-t", .title),
    ("--title", .title), ("--clean", .clean), ("-v", .verbose), ("--verbose", .verbose)]
  takesValue := Switch.takesValue

def setupVocabulary : Vocabulary Switch where
  names := [("-h", .help), ("--help", .help)]
  takesValue := Switch.takesValue

/-! ## Options -/

/-- Where diagrams are published unless the command line says otherwise. -/
def publicDirectory : Text := "public/laravel2erd"

/-- Where models are looked for unless the command line says otherwise. -/
def usualModels : Text := "app/Models"

/-- What a command line asks for. What it leaves open is up to the settings. -/
structure Options where
  output : Text := publicDirectory
  models : Text := usualModels
  relations : Option Bool := none
  title : Option Text := none
  clean : Bool := false
  verbose : Bool := false
  deriving DecidableEq

/-- What a command line comes to: work to be done with some options, or an answer at once. -/
inductive Request where
  | work (options : Options)
  | inform (answer : Text)
  | refuse (reason : Text)
  deriving DecidableEq

/-- The options after the uses of a command line, one after another. The first use that asks for an
    answer gets it, whatever follows. -/
def request (m : Manual) (o : Options) : Parsed Switch → Request
  | .wrong reason => .refuse reason
  | .done [] => .work o
  | .done stray => .refuse (unrecognized stray)
  | .use u rest => match u.switch with
    | .help => .inform m.help
    | .version => .inform (ofLines [m.command ++ [' '] ++ Program.version])
    | .output => request m { o with output := u.value.getD [] } rest
    | .models => request m { o with models := u.value.getD [] } rest
    | .relations => request m { o with relations := some (!("--no-" : Text).isPrefixOf u.name) } rest
    | .title => request m { o with title := u.value } rest
    | .clean => request m { o with clean := true } rest
    | .verbose => request m { o with verbose := true } rest

/-! ## Replies -/

/-- How a command ended, and what it wrote. -/
structure Reply where
  ending : Except Failure Nat
  output : Text := []
  errors : Text := []
  log : Log := []

/-- The records that are shown: those of little weight only to a reader who asked for them. -/
def shown (verbose : Bool) (log : Log) : Log :=
  log.filter fun r => verbose || r.severity != .debug

/-- The reply to a request, given how the work is done. -/
def respond (m : Manual) (work : Options → Workspace → Reply × Workspace) (w : Workspace) :
    Request → Reply × Workspace
  | .work o => work o w
  | .inform answer => (⟨.ok 0, answer, [], []⟩, w)
  | .refuse reason => (⟨.ok 2, [], m.refusal reason, []⟩, w)

/-! ## Generating -/

def greeting : Text := "Laravel2ERD - Generating ERD diagram..."

/-- What to say about a failure, if the command answers it. -/
def answer? (f : Failure) : Option Text :=
  match f with
  | .modelsNotFound _ => some ("Error: " ++ f.message)
  | .noFiles _ => some ("Error generating ERD: " ++ f.message)
  | .noModels => some ("Error generating ERD: " ++ f.message)
  | .literal .noEntities => some ("Error generating ERD: " ++ f.message)
  | _ => none

def warning (s : Skipped) : Text :=
  "Warning: skipped " ++ s.file ++ (": " : Text) ++ s.reason

def report (s : Generation.Summary) : List Text := [
  "ERD diagram generated successfully at " ++ s.outputDir.toText,
  Text.ofNat s.entityNames.length ++ (" entities, " : Text) ++ Text.ofNat s.relationshipCount
    ++ (" relationships. You can view it at: /laravel2erd" : Text)]

def Options.overrides (o : Options) (here : Path) : Generation.Overrides where
  modelsDir := some (here.join (Path.ofText o.models)).toText
  outputDir := some (here.join (Path.ofText o.output)).toText
  title := o.title
  includeRelations := o.relations
  cleanOutput := some o.clean

def generation (o : Options) (here : Path) : Work Generation.Summary := do
  Generation.generate (← Generation.config (o.overrides here))

def replyTo (result : Except Failure Generation.Summary) (log : Log) : Reply :=
  match result with
  | .ok summary =>
    ⟨.ok 0, ofLines (greeting :: report summary), ofLines (summary.skipped.map warning), log⟩
  | .error f => match answer? f with
    | some answer => ⟨.ok 1, ofLines [greeting], ofLines [answer], log⟩
    | none => ⟨.error f, ofLines [greeting], [], log⟩

def generate (arguments : List Text) (w : Workspace) : Reply × Workspace :=
  match Work.settings.perform { w with log := [] } with
  | (.error f, w) => (⟨.error f, [], [], []⟩, w)
  | (.ok _, w) =>
    let work (o : Options) (w : Workspace) : Reply × Workspace :=
      let (result, w) := (generation o w.herePath).perform w
      (replyTo result (shown o.verbose w.log), w)
    respond .generate work w (request .generate {} (parse generateVocabulary arguments))

/-! ## Preparing a project -/

def welcome : List Text := [
  "Laravel2ERD has been successfully installed!",
  "Run the following command to generate your ERD:",
  "    laravel2erd",
  "Then view your ERD at:",
  "    http://your-app-url/laravel2erd"]

def prepare (w : Workspace) : Reply × Workspace :=
  match w.tree.isFile w.here (w.herePath.child "artisan") with
  | .error f => (⟨.error (.file f), [], [], []⟩, w)
  | .ok false => (⟨.ok 0, ofLines ["Not a Laravel project, skipping setup."], [], []⟩, w)
  | .ok true =>
    match w.tree.makeDirectories w.here (w.herePath.join (Path.ofText publicDirectory)) with
    | (tree, none) => (⟨.ok 0, ofLines welcome, [], []⟩, { w with tree })
    | (tree, some f) =>
      (⟨.ok 1, [], ofLines ["Setup failed: " ++ f.message], []⟩, { w with tree })

def setup (arguments : List Text) (w : Workspace) : Reply × Workspace :=
  respond .setup (fun _ => prepare) w (request .setup {} (parse setupVocabulary arguments))

end CommandLine
end EntityDiagram
