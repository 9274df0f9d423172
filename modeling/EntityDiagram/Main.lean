import EntityDiagram.CommandLine.Command
import EntityDiagram.FileTree.Change
import Std.Time.Zoned

/-!
# The program

All that the commands do is a function on workspaces. Here a workspace is made of what is outside,
the function is applied, and what it changed is made true outside.

What the current directory holds is told on standard input, one name a line, marked as in a listing:
a slash follows a directory and an `@` a link. The program looks at nothing that it was not told of,
so `find` decides what it may see and touch:

    find . -mindepth 1 \( -type d -printf '%P/\n' \) -o \( -type l -printf '%P@\n' \) \
      -o -printf '%P\n' | diagram -t Shop

Under a name that ends in `-setup` the program prepares a project, under any other it generates a
diagram.
-/

namespace EntityDiagram
namespace Main

def string (t : Text) : String := String.ofList t

def settingNames : List String := ["LARAVEL2ERD_MODELS_DIR", "LARAVEL2ERD_OUTPUT_DIR",
  "LARAVEL2ERD_TITLE", "LARAVEL2ERD_INCLUDE_RELATIONS", "LARAVEL2ERD_FILE_PATTERN",
  "LARAVEL2ERD_MAX_PARALLEL_READS", "LARAVEL2ERD_MERMAID_CDN_URL"]

def environment : IO Environment := do
  let values ← settingNames.mapM fun name => do
    return (← IO.getEnv name).map fun value => (name.toList, value.toList)
  return values.filterMap id

/-- The current day, year first. -/
def today : IO Text := do
  let day ← Std.Time.PlainDate.now
  let digits (width : Nat) (n : Nat) : Text :=
    let t := Text.ofNat n
    List.replicate (width - t.length) '0' ++ t
  return digits 4 day.year.toInt.toNat ++ ['-'] ++ digits 2 day.month.val.toNat ++ ['-']
    ++ digits 2 day.day.val.toNat

partial def names (input : IO.FS.Stream) : IO (List Text) := do
  let line ← input.getLine
  if line.isEmpty then return []
  let name := Text.dropEnd (· == '\n') line.toList
  return name :: (← names input)

/-- The workspace with what a marked name tells of. A file that cannot be read is there
    nevertheless. -/
def withName (w : Workspace) (name : Text) : IO Workspace := do
  let bare := match name.getLast? with
    | some '/' => name.dropLast
    | some '@' => name.dropLast
    | _ => name
  let l := w.here ++ (Path.ofText bare).parts
  match name.getLast? with
  | some '/' => return { w with tree := w.tree.put l .directory }
  | some '@' =>
    match ← (IO.FS.realPath (string bare)).toBaseIO with
    | .ok target => return { w with tree := w.tree.put l (.link (toString target).toList) }
    | .error _ => return { w with tree := w.tree.put l (.link bare) }
  | _ =>
    match ← (IO.FS.readBinFile (string bare)).toBaseIO with
    | .ok bytes => return { w with tree := w.tree.put l (.file bytes.toList) }
    | .error _ =>
      return { w with tree := w.tree.put l (.file []), unreadable := l :: w.unreadable }

def workspace : IO Workspace := do
  let here := Path.ofText (toString (← IO.currentDir)).toList
  let (tree, _) := FileTree.empty.makeDirectories [] here
  let bare : Workspace :=
    { tree, here := here.parts, environment := ← environment, today := ← today }
  -- A directory comes before what it holds.
  let told := (← names (← IO.getStdin)).mergeSort Text.atMost
  told.foldlM withName bare

def make (change : FileTree.Change) : IO Unit :=
  let place (l : Location) : String := string (Path.toText ⟨.root, l⟩)
  match change with
  | .removeDirectory l => IO.FS.removeDir (place l)
  | .removeOther l => IO.FS.removeFile (place l)
  | .makeDirectory l => IO.FS.createDir (place l)
  | .writeFile l bytes => IO.FS.writeBinFile (place l) ⟨bytes.toArray⟩
  | .makeLink _ _ => return ()

def line (r : LogRecord) : String := string (r.severity.name ++ (" - " : Text) ++ r.message)

def run (command : Workspace → CommandLine.Reply × Workspace) : IO UInt32 := do
  let before ← workspace
  let (reply, after) := command before
  (before.tree.changes after.tree).forM make
  IO.print (string reply.output)
  reply.log.forM fun r => IO.eprintln (line r)
  IO.eprint (string reply.errors)
  match reply.ending with
  | .ok code => return UInt32.ofNat code
  | .error f =>
    IO.eprintln (string f.message)
    return 1

end Main
end EntityDiagram

open EntityDiagram in
def main (arguments : List String) : IO UInt32 := do
  let arguments := arguments.map String.toList
  if ("-setup" : Text).isSuffixOf (toString (← IO.appPath)).toList then
    Main.run (CommandLine.setup arguments)
  else Main.run (CommandLine.generate arguments)
