import EntityDiagram.FileTree.Access
import EntityDiagram.Json.Reader

/-!
# Finding the models of a project

A project of the framework says so in its manifest: the manifest is a document whose `require` field
names the framework. Where that holds the models stand in `app/Models`, or else somewhere below
`app`. A directory without a manifest, or with one that is malformed or may not be read, is simply no
such project.

The test takes the manifest at its word. What it requires may be an object, a list or even a text,
and to name the framework is to have it as a field, an item or a part. Anything else that was given
cannot be asked, and a manifest that is no object at all has nothing to ask; these are faults, as is
a whole number with too many digits anywhere in it.
-/

namespace EntityDiagram
namespace Manifest

/-- The packages that make a project one of the framework. -/
def packages : List Text := ["laravel/framework", "laravel/laravel"]

/-- Why a manifest could not be asked. -/
inductive Fault where
  /-- It is not encoded as it should be. -/
  | encoding (fault : Utf8.Fault)
  /-- A whole number in it has so many digits, and they are too many. -/
  | digits (count : Nat)
  /-- It is not an object but something of the named kind. -/
  | notObject (kind : Text)
  | noParts (kind : Text)
  deriving DecidableEq

def Fault.message : Fault → Text
  | encoding fault => fault.message
  | digits count => "Exceeds the limit (" ++ Text.ofNat Json.mostDigits
      ++ (" digits) for integer string conversion: value has " : Text) ++ Text.ofNat count
      ++ (" digits; use sys.set_int_max_str_digits() to increase the limit" : Text)
  | notObject kind => "'" ++ kind ++ ("' object has no attribute 'get'" : Text)
  | noParts kind => "argument of type '" ++ kind ++ ("' is not iterable" : Text)

/-- The kind of a value, as messages name it. -/
def kindOf : Json → Text
  | .null => "NoneType"
  | .bool _ => "bool"
  | .integer _ => "int"
  | .decimal _ => "float"
  | .notFinite => "float"
  | .text _ => "str"
  | .list _ => "list"
  | .object _ => "dict"

def isText (t : Text) : Json → Bool
  | .text u => u == t
  | _ => false

/-- Whether what is required names one of the packages. -/
def namesPackage (required : Json) : Except Fault Bool :=
  if !required.isGiven then .ok false
  else match required with
    | .object fields => .ok (packages.any fun package => (Json.field? fields package).isSome)
    | .list items => .ok (packages.any fun package => items.any (isText package))
    | .text t => .ok (packages.any (Text.occursIn · t))
    | other => .error (.noParts (kindOf other))

def requiresFramework : Json → Except Fault Bool
  | .object fields => match Json.field? fields "require" with
    | some required => namesPackage required
    | none => .ok false
  | other => .error (.notObject (kindOf other))

/-- Whether the bytes of a manifest name the framework. Malformed ones do not. -/
def ask (bytes : List UInt8) : Except Fault Bool :=
  match Utf8.decodeStrict bytes with
  | .error f => .error (.encoding f)
  | .ok text => match Json.read (Utf8.unifyLineEnds text) with
    | .error .malformed => .ok false
    | .error (.tooManyDigits count) => .error (.digits count)
    | .ok document => requiresFramework document

end Manifest

namespace FileTree

/-- Why a project could not be examined. -/
inductive DetectionFault where
  | manifest (fault : Manifest.Fault)
  | file (fault : FileFault)
  deriving DecidableEq

/-- The first of the paths that leads to a directory. -/
def firstDirectory (t : FileTree) (here : Location) : List Path → Except FileFault (Option Path)
  | [] => .ok none
  | p :: rest => match t.isDirectory here p with
    | .error f => .error f
    | .ok true => .ok (some p)
    | .ok false => t.firstDirectory here rest

/-- The manifest of a project. -/
def manifestOf (root : Path) : Path := root.child "composer.json"

/-- Where the models of a project stand. -/
def modelsOf (root : Path) : Path := root.descend ["app", "Models"]

/-- Where they stand if there is no place of their own. -/
def appOf (root : Path) : Path := root.child "app"

/-- Whether the directory that a path leads to is a project of the framework. One whose manifest may
    not be read is none. -/
def isFrameworkProject (t : FileTree) (here : Location) (root : Path)
    (unreadable : List Location := []) : Except DetectionFault Bool :=
  match t.isFile here (manifestOf root) with
  | .error f => .error (.file f)
  | .ok false => .ok false
  | .ok true => match t.readBytes here unreadable (manifestOf root) with
    | .error _ => .ok false
    | .ok bytes => match Manifest.ask bytes with
      | .error f => .error (.manifest f)
      | .ok b => .ok b

/-- The directory with the models of a project, if the path leads to a project of the framework that
    has one. -/
def detectModels (t : FileTree) (here : Location) (root : Path)
    (unreadable : List Location := []) : Except DetectionFault (Option Path) :=
  match t.isFrameworkProject here root unreadable with
  | .error f => .error f
  | .ok false => .ok none
  | .ok true =>
    match t.firstDirectory here [modelsOf root, appOf root] with
    | .error f => .error (.file f)
    | .ok found => .ok found

end FileTree
end EntityDiagram
