import EntityDiagram.FileTree.Glob
import EntityDiagram.Model.Assembly

/-!
# Reading model files

The files that a pattern selects are read, each into a source unit or into a report that it could
not be read. Reads may finish in any order, so the order in which they finish must not show:
`gather` takes what came of them in whatever order, and puts units and reports in the order of their
paths as text.

Files are looked at in the order of their paths name by name, which is not the order of the texts: a
hyphen comes before a slash, but a shorter name comes before a longer one. That first order shows
only in the notes made on the way.
-/

namespace EntityDiagram
namespace Model

/-- What came of reading one file. -/
abbrev ReadResult := Except Skipped SourceUnit

structure Loaded where
  units : List SourceUnit := []
  unread : List Skipped := []
  log : Log := []
  deriving DecidableEq

inductive LoadFault where
  | pattern (fault : GlobFault)
  | file (fault : FileFault)
  deriving DecidableEq

/-- A model file as a source unit: its name is its file name without extension, and its text is read
    tolerantly, with line ends unified. -/
def readUnit (t : FileTree) (here : Location) (unreadable : List Location) (p : Path) :
    ReadResult :=
  match t.readBytes here unreadable p with
  | .ok bytes => .ok ⟨p.stem, Utf8.unifyLineEnds (Utf8.decodeTolerant bytes), p.toText⟩
  | .error f => .error ⟨p.toText, f.message⟩

def unitsOf (results : List ReadResult) : List SourceUnit :=
  results.filterMap fun
    | .ok u => some u
    | .error _ => none

def reportsOf (results : List ReadResult) : List Skipped :=
  results.filterMap fun
    | .ok _ => none
    | .error s => some s

/-- Units and reports in the order of their paths, whatever the order in which the reads finished. -/
def gather (results : List ReadResult) : List SourceUnit × List Skipped :=
  ((unitsOf results).mergeSort fun a b => Text.atMost a.path b.path,
    (reportsOf results).mergeSort fun a b => Text.atMost a.file b.file)

/-- The note on a file that could not be read. -/
def unreadNote (s : Skipped) : LogRecord :=
  ⟨.error, "Error reading " ++ s.file ++ (": " : Text) ++ s.reason⟩

def filesAmong (t : FileTree) (here : Location) (paths : List Path) :
    Except FileFault (List Path) :=
  FileTree.collect paths fun p => (t.isFile here p).map fun b => if b then [p] else []

/-- The files that a pattern selects from a directory, in the order in which they are looked at. -/
def selectFiles (t : FileTree) (here : Location) (directory : Path) (pattern : Text) :
    Except LoadFault (List Path) :=
  match Glob.ofText pattern with
  | .error f => .error (.pattern f)
  | .ok g => match t.glob here g directory with
    | .error f => .error (.file f)
    | .ok paths => match filesAmong t here paths with
      | .error f => .error (.file f)
      | .ok files => .ok (files.mergeSort fun p q => Text.atMostPiecewise p.parts q.parts)

def load (t : FileTree) (here : Location) (unreadable : List Location) (directory : Path)
    (pattern : Text) : Except LoadFault Loaded :=
  (selectFiles t here directory pattern).map fun files =>
    let results := files.map (readUnit t here unreadable)
    let (units, unread) := gather results
    ⟨units, unread, (reportsOf results).map unreadNote⟩

end Model
end EntityDiagram
