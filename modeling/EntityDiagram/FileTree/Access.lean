import EntityDiagram.FileTree.Basic
import EntityDiagram.Path
import EntityDiagram.Text.Quoted

/-!
# Reaching into a file tree

A path is followed name by name. Going up leads to the directory that holds the one reached so far,
and a link on the way is followed where it stands, so the same path may lead elsewhere in another
tree. A path leads to a location even if nothing stands there yet, as long as everything before the
last name does; that is what makes writing a new file possible.

Following a path is done in stretches: from a directory along names until the path ends, fails, or
meets a link. A link's target takes the link's place in the path and begins the next stretch, and
the number of stretches is bounded, which is also what ends a path that runs in circles.

Every operation says in its result why it could not be done. A fault carries the path as the program
wrote it, because that is how the message shows it. Most causes are in the tree. Those that are not
come with the operation: the locations that may not be read, and the `Obstacle` to a write.
-/

namespace EntityDiagram

/-! ## Faults -/

/-- Why an operation on files could not be done. -/
inductive FileCause where
  | notFound
  | denied
  | alreadyThere
  | notDirectory
  | isDirectory
  | tooManyLinks
  | nameTooLong
  | badCharacter
  /-- Some other reason, such as a full disk. The fault shows all of it. -/
  | asShown
  deriving DecidableEq, Repr

/-- A directory is not to be removed by the path that leads to it, and the fault shows why not. -/
@[match_pattern] def FileCause.linkedDirectory : FileCause := .asShown

/-- The number and the wording of a cause, for the causes that have a number. -/
def FileCause.numbered? : FileCause → Option (Nat × Text)
  | notFound => some (2, "No such file or directory")
  | denied => some (13, "Permission denied")
  | alreadyThere => some (17, "File exists")
  | notDirectory => some (20, "Not a directory")
  | isDirectory => some (21, "Is a directory")
  | nameTooLong => some (36, "File name too long")
  | tooManyLinks => some (40, "Too many levels of symbolic links")
  | badCharacter => none
  | asShown => none

/-- A cause and the path it concerns, as a message shows it. -/
structure FileFault where
  cause : FileCause
  shown : Text
  deriving DecidableEq

def FileFault.message (f : FileFault) : Text :=
  match f.cause.numbered? with
  | some (number, wording) =>
    "[Errno " ++ Text.ofNat number ++ ("] " : Text) ++ wording ++ (": " : Text) ++ f.shown
  | none => match f.cause with
    | .badCharacter => "embedded null byte"
    | _ => f.shown

namespace FileTree

def faultAt (p : Path) (cause : FileCause) : FileFault := ⟨cause, Text.quoted p.toText⟩

/-! ## Following a path -/

/-- Where a path leads, and what stands there. -/
structure Found where
  location : Location
  entry : Option Entry
  deriving DecidableEq

inductive Stretch where
  | arrived (found : Found)
  /-- A link was met in a directory, with some of the path still ahead. -/
  | detour (directory : Location) (target : Text) (ahead : List Text)
  | failed (cause : FileCause)

def longestPath : Nat := 4095

/-- Why a path does not go on by a name that nothing can have. -/
def barred (name : Text) : FileCause :=
  if (Utf8.encode name).length > longestName then .nameTooLong else .notFound

/-- One stretch, from a directory along names. A link at the very end is followed if so asked. -/
def stretch (t : FileTree) (followLast : Bool) : Location → List Text → Stretch
  | l, [] => .arrived ⟨l, t.lookup l⟩
  | l, name :: ahead =>
    if name = wayUp then t.stretch followLast l.dropLast ahead
    else if IsName name then
      let next := l ++ [name]
      match t.lookup next with
      | none => if ahead.isEmpty then .arrived ⟨next, none⟩ else .failed .notFound
      | some .directory => t.stretch followLast next ahead
      | some (.file bytes) =>
        if ahead.isEmpty then .arrived ⟨next, some (.file bytes)⟩ else .failed .notDirectory
      | some (.link target) =>
        if ahead.isEmpty && !followLast then .arrived ⟨next, some (.link target)⟩
        else .detour l target ahead
    else .failed (barred name)

def mostLinks : Nat := 40

/-- A path followed through at most so many stretches. -/
def follow (t : FileTree) (followLast : Bool) : Nat → Location → List Text →
    Except FileCause Found
  | 0, _, _ => .error .tooManyLinks
  | n + 1, l, names => match t.stretch followLast l names with
    | .arrived found => .ok found
    | .failed cause => .error cause
    | .detour directory target ahead =>
      let target := Path.ofText target
      t.follow followLast n (if target.isAbsolute then [] else directory) (target.parts ++ ahead)

def find (t : FileTree) (here : Location) (followLast : Bool) (p : Path) :
    Except FileCause Found :=
  let text := p.toText
  let start := if p.isAbsolute then [] else here
  if text.contains (Char.ofNat 0) then .error .badCharacter
  else if (Utf8.encode text).length > longestPath then .error .nameTooLong
  else if !t.isDirectoryAt start then .error .notFound
  else t.follow followLast (mostLinks + 1) start p.parts

/-! ## Asking -/

/-- What stands where a path leads, links followed. A path that leads nowhere has nothing there;
    only a name that is too long is a fault. -/
def probe (t : FileTree) (here : Location) (p : Path) : Except FileFault (Option Entry) :=
  match t.find here true p with
  | .ok found => .ok found.entry
  | .error .nameTooLong => .error (faultAt p .nameTooLong)
  | .error _ => .ok none

def existsAt (t : FileTree) (here : Location) (p : Path) : Except FileFault Bool :=
  (t.probe here p).map (·.isSome)

def isDirectory (t : FileTree) (here : Location) (p : Path) : Except FileFault Bool :=
  (t.probe here p).map (· == some .directory)

def isFile (t : FileTree) (here : Location) (p : Path) : Except FileFault Bool :=
  (t.probe here p).map fun
    | some (.file _) => true
    | _ => false

def read (t : FileTree) (here : Location) (p : Path) : Except FileFault (List UInt8) :=
  match t.find here true p with
  | .ok ⟨_, some (.file bytes)⟩ => .ok bytes
  | .ok ⟨_, some .directory⟩ => .error (faultAt p .isDirectory)
  | .ok _ => .error (faultAt p .notFound)
  | .error cause => .error (faultAt p cause)

/-- The bytes of the file that a path leads to, unless it is one that may not be read. -/
def readBytes (t : FileTree) (here : Location) (unreadable : List Location) (p : Path) :
    Except FileFault (List UInt8) :=
  match t.find here true p with
  | .ok found =>
    if unreadable.contains found.location then .error (faultAt p .denied) else t.read here p
  | .error _ => t.read here p

/-! ## Making and writing -/

def makeDirectory (t : FileTree) (here : Location) (p : Path) : Except FileFault FileTree :=
  match t.find here false p with
  | .ok ⟨location, none⟩ => .ok (t.put location .directory)
  | .ok _ => .error (faultAt p .alreadyThere)
  | .error cause => .error (faultAt p cause)

/-- The outcome for a directory that could not be made: none is needed if it is there already. -/
def unlessThere (t : FileTree) (here : Location) (p : Path) (f : FileFault) :
    FileTree × Option FileFault :=
  match t.isDirectory here p with
  | .ok true => (t, none)
  | .ok false => (t, some f)
  | .error f => (t, some f)

/-- The tree with directories on a whole way down, given by its names last one first. Directories
    made before a fault stay. -/
def makeWay (here : Location) (anchor : Anchor) : List Text → FileTree →
    FileTree × Option FileFault
  | [], t =>
    let p : Path := ⟨anchor, []⟩
    match t.makeDirectory here p with
    | .ok t => (t, none)
    | .error f => if f.cause = .notFound then (t, some f) else t.unlessThere here p f
  | name :: up, t =>
    let p : Path := ⟨anchor, (name :: up).reverse⟩
    match t.makeDirectory here p with
    | .ok t => (t, none)
    | .error f =>
      if f.cause = .notFound then
        -- The directory it is to stand in is missing, so that one is made, and this tried again.
        match makeWay here anchor up t with
        | (t, some f) => (t, some f)
        | (t, none) => match t.makeDirectory here p with
          | .ok t => (t, none)
          | .error f => if f.cause = .notFound then (t, some f) else t.unlessThere here p f
      else t.unlessThere here p f

/-- The tree with a directory where a path leads, and directories on the way there, as far as they
    are not there already. -/
def makeDirectories (t : FileTree) (here : Location) (p : Path) : FileTree × Option FileFault :=
  makeWay here p.anchor p.parts.reverse t

/-- The tree with the bytes in the file that a path leads to. A link at the end is followed, and the
    file need not be there yet. -/
def write (t : FileTree) (here : Location) (p : Path) (bytes : List UInt8) :
    Except FileFault FileTree :=
  match t.find here true p with
  | .ok ⟨_, some .directory⟩ => .error (faultAt p .isDirectory)
  | .ok found => .ok (t.put found.location (.file bytes))
  | .error cause => .error (faultAt p cause)

/-- What keeps a file from being written that is no matter of the tree. -/
inductive Obstacle where
  /-- The file is not opened, and stays as it was. -/
  | refused (fault : FileFault)
  /-- The file is opened, which empties it, and takes no more than so many bytes. A text that cannot
      be encoded, because it has half a surrogate pair in it, is one of which no byte is taken. -/
  | brokenOff (taken : Nat) (fault : FileFault)

/-- The tree after writing, against an obstacle if there is one. A file that breaks off holds what it
    has taken. -/
def writeAgainst (t : FileTree) (here : Location) (obstacle : Option Obstacle) (p : Path)
    (bytes : List UInt8) : FileTree × Option FileFault :=
  match obstacle with
  | none => match t.write here p bytes with
    | .ok u => (u, none)
    | .error f => (t, some f)
  | some (.refused f) => (t, some f)
  | some (.brokenOff taken f) => match t.write here p (bytes.take taken) with
    | .ok u => (u, some f)
    | .error f => (t, some f)

def makeLink (t : FileTree) (here : Location) (p : Path) (target : Text) :
    Except FileFault FileTree :=
  match t.find here false p with
  | .ok ⟨location, none⟩ => .ok (t.put location (.link target))
  | .ok _ => .error (faultAt p .alreadyThere)
  | .error cause => .error (faultAt p cause)

/-! ## Removing -/

/-- What the system says to removing a directory by a path that does not end with its name, but with
    a way up or nowhere at all. -/
def refusal? (p : Path) : Option Text :=
  match p.parts.getLast? with
  | some name => if name = wayUp then some "[Errno 39] Directory not empty: " else none
  | none =>
    if p.isAbsolute then some "[Errno 16] Device or resource busy: "
    else some "[Errno 22] Invalid argument: "

/-- The tree without the directory that a path leads to, which is empty. -/
def removeEmptied (t : FileTree) (here : Location) (p : Path) : FileTree × Option FileFault :=
  match t.find here false p with
  | .ok ⟨location, some .directory⟩ => match refusal? p with
    | some said => (t, some ⟨.linkedDirectory, said ++ Text.quoted p.toText⟩)
    | none => (t.removeAt location, none)
  | .ok ⟨_, some _⟩ => (t, some (faultAt p .notDirectory))
  | .ok ⟨_, none⟩ => (t, some (faultAt p .notFound))
  | .error cause => (t, some (faultAt p cause))

/-- The tree without the directory that a path leads to and all that is in it. A link at the end is
    not followed, and not removed either. What is in the directory goes first, so a path that leads
    through it leads nowhere when the directory itself is to go. -/
def removeDirectory (t : FileTree) (here : Location) (p : Path) : FileTree × Option FileFault :=
  match t.find here false p with
  | .ok ⟨location, some .directory⟩ => (t.clearBelow location).removeEmptied here p
  | .ok ⟨_, some (.link _)⟩ =>
    (t, some ⟨.linkedDirectory, "Cannot call rmtree on a symbolic link"⟩)
  | .ok ⟨_, some (.file _)⟩ =>
    (t, some ⟨.notDirectory, "PosixPath(" ++ Text.quoted p.toText ++ (")" : Text)⟩)
  | .ok ⟨_, none⟩ => (t, some (faultAt p .notFound))
  | .error cause => (t, some (faultAt p cause))

/-- The tree without the file or the link that a path leads to. -/
def unlink (t : FileTree) (here : Location) (p : Path) : FileTree × Option FileFault :=
  match t.find here false p with
  | .ok ⟨_, some .directory⟩ => (t, some (faultAt p .isDirectory))
  | .ok ⟨location, some _⟩ => (t.removeAt location, none)
  | .ok ⟨_, none⟩ => (t, some (faultAt p .notFound))
  | .error cause => (t, some (faultAt p cause))

def isLink (t : FileTree) (here : Location) (p : Path) : Bool :=
  match t.find here false p with
  | .ok ⟨_, some (.link _)⟩ => true
  | _ => false

/-- The tree without what a path leads to, be it a directory or not. -/
def remove (t : FileTree) (here : Location) (p : Path) : FileTree × Option FileFault :=
  match t.isDirectory here p with
  | .error f => (t, some f)
  | .ok directory =>
    if directory && !t.isLink here p then t.removeDirectory here p else t.unlink here p

/-- The tree without what each of the paths leads to, up to the first that cannot be removed. -/
def removeEach (here : Location) : List Path → FileTree → FileTree × Option FileFault
  | [], t => (t, none)
  | p :: rest, t => match t.remove here p with
    | (t, none) => removeEach here rest t
    | (t, some f) => (t, some f)

/-! ## Cleaning -/

/-- The tree with nothing in the directory that a path leads to, links followed. Links in that
    directory go, and what they lead to stays. Each entry is reached by its own path, so a path that
    leads through one of them is of no use for those after it. In which order they go is not
    promised. -/
def emptyDirectory (t : FileTree) (here : Location) (p : Path) : FileTree × Option FileFault :=
  match t.find here true p with
  | .ok ⟨location, some .directory⟩ => removeEach here ((t.namesIn location).map p.child) t
  | .ok ⟨_, some _⟩ => (t, some (faultAt p .notDirectory))
  | .ok ⟨_, none⟩ => (t, some (faultAt p .notFound))
  | .error cause => (t, some (faultAt p cause))

/-- The tree with a directory emptied, or removed altogether unless it is kept. Where nothing stands
    there is nothing to clean. What was removed before a fault stays removed. -/
def clean (t : FileTree) (here : Location) (p : Path) (keep : Bool) :
    FileTree × Option FileFault :=
  match t.existsAt here p with
  | .error f => (t, some f)
  | .ok false => (t, none)
  | .ok true => if keep then t.emptyDirectory here p else t.removeDirectory here p

end FileTree
end EntityDiagram
