import EntityDiagram.FileTree.Access
import EntityDiagram.FileTree.Wildcard

/-!
# Selecting files by a pattern

Model files are selected by a pattern of names with slashes between them, seen from a directory. A
plain name selects what bears it, a name with wildcards whatever it covers, and two stars on their
own stand for the directory itself and every directory below it; links are not descended into. Every
name but the last must lead to a directory, and so must the last one when a slash follows it.

Not every text is such a pattern. Which ones are not is settled when the text is read, before the
tree is looked at.
-/

namespace EntityDiagram

/-! ## Patterns -/

inductive GlobStep where
  | named (name : Text)
  | covered (tokens : List Wildcard.Token)
  | anywhere

/-- A pattern: its steps, and whether only directories are selected. -/
structure Glob where
  steps : List GlobStep
  directoriesOnly : Bool

inductive GlobFault where
  | empty
  | absolute
  /-- The text names nothing: it says "here" and no more. -/
  | nothingNamed
  | onlySlash
  | starsInsideName
  deriving DecidableEq, Repr

def GlobFault.message : GlobFault → Text
  | empty => "Unacceptable pattern: ''"
  | absolute => "Non-relative patterns are unsupported"
  | nothingNamed => "tuple index out of range"
  | onlySlash => "'_TerminatingSelector' object has no attribute 'select_from'"
  | starsInsideName => "Invalid pattern: '**' can only be an entire path component"

namespace Glob

def stepOf (name : Text) : Except GlobFault GlobStep :=
  if name = ['*', '*'] then .ok .anywhere
  else if Text.occursIn ['*', '*'] name then .error .starsInsideName
  else if Wildcard.isWildcard name then .ok (.covered (Wildcard.tokens name))
  else .ok (.named name)

def stepsOf : List Text → Except GlobFault (List GlobStep)
  | [] => .ok []
  | name :: rest => match stepOf name, stepsOf rest with
    | .ok step, .ok steps => .ok (step :: steps)
    | .error f, _ => .error f
    | _, .error f => .error f

def ofText (t : Text) : Except GlobFault Glob :=
  if t.isEmpty then .error .empty
  else
    let path := Path.ofText t
    let slashed := t.getLast? == some '/'
    if path.isAbsolute then .error .absolute
    else if path.parts.isEmpty then .error (if slashed then .onlySlash else .nothingNamed)
    else (stepsOf path.parts).map fun steps => ⟨steps, slashed⟩

end Glob

/-! ## Selection -/

namespace FileTree

/-- The names in the directory that a path leads to; none if it leads to no directory. -/
def namesAt (t : FileTree) (here : Location) (p : Path) : List Text :=
  match t.find here true p with
  | .ok ⟨location, some .directory⟩ => t.namesIn location
  | _ => []

/-- Whether a name in the directory that a path leads to is that of a directory. The listing says so
    of everything but links, so only about those a question is asked. -/
def isDirectoryIn (t : FileTree) (here : Location) (p : Path) (name : Text) :
    Except FileFault Bool :=
  match t.find here true p with
  | .ok ⟨location, _⟩ => match t.lookup (location ++ [name]) with
    | some (.link _) => t.isDirectory here (p.child name)
    | entry => .ok (entry == some .directory)
  | .error _ => .ok false

/-- The path itself and the paths to every directory below the directory it leads to. Those put into
    the tree first come first, so a directory comes before those that were made in it. -/
def directoriesFrom (t : FileTree) (here : Location) (p : Path) : List Path :=
  match t.find here true p with
  | .ok ⟨location, some .directory⟩ => p :: (t.directoriesBelow location).reverse.map p.descend
  | _ => [p]

/-- Whether a step is taken to a path: it must lead to a directory if more is to come. -/
def leadsOn (t : FileTree) (here : Location) (directory : Bool) (p : Path) :
    Except FileFault Bool :=
  if directory then t.isDirectory here p else t.existsAt here p

/-- Whether a step that covers names is taken to a name in the directory that a path leads to. -/
def leadsOnIn (t : FileTree) (here : Location) (directory : Bool) (tokens : List Wildcard.Token)
    (p : Path) (name : Text) : Except FileFault Bool :=
  (if directory then t.isDirectoryIn here p name else .ok true).map
    (· && Wildcard.covers tokens name)

/-- The outcomes for several things one after another, up to the first fault. -/
def collect {α β : Type} (things : List β) (select : β → Except FileFault (List α)) :
    Except FileFault (List α) :=
  match things with
  | [] => .ok []
  | x :: rest => match select x with
    | .error f => .error f
    | .ok found => (collect rest select).map (found ++ ·)

/-- The paths that the steps select from the directory that a path leads to. -/
def select (t : FileTree) (here : Location) (directoriesOnly : Bool) :
    List GlobStep → Path → Except FileFault (List Path)
  | [], p => .ok [p]
  | .named name :: rest, p =>
    match t.leadsOn here (directoriesOnly || !rest.isEmpty) (p.child name) with
    | .error f => .error f
    | .ok false => .ok []
    | .ok true => t.select here directoriesOnly rest (p.child name)
  | .covered tokens :: rest, p =>
    match t.isDirectory here p with
    | .error f => .error f
    | .ok _ => collect (t.namesAt here p) fun name =>
      match t.leadsOnIn here (directoriesOnly || !rest.isEmpty) tokens p name with
      | .error f => .error f
      | .ok false => .ok []
      | .ok true => t.select here directoriesOnly rest (p.child name)
  | .anywhere :: rest, p =>
    (collect (t.directoriesFrom here p) (t.select here directoriesOnly rest)).map (·.eraseDups)

/-- The paths that a pattern selects, seen from the directory that a path leads to; none if it leads
    to no directory. -/
def glob (t : FileTree) (here : Location) (g : Glob) (p : Path) : Except FileFault (List Path) :=
  match t.isDirectory here p with
  | .error f => .error f
  | .ok false => .ok []
  | .ok true => t.select here g.directoriesOnly g.steps p

end FileTree
end EntityDiagram
