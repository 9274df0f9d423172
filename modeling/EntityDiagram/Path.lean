import EntityDiagram.Text.Basic

/-!
# Paths

A path names a place in a file tree by the names on the way to it, from the root or from wherever
one stands. Reading a path settles what does not matter: empty names and names that say "here" are
dropped, so are slashes at the end. What a path says about going *up* is kept, because where that
leads depends on the links in the tree. Writing a path gives the text by which messages and listings
know it.
-/

namespace EntityDiagram

/-- Where a path begins. A path with exactly two slashes in front keeps both. -/
inductive Anchor where
  | here | root | doubleRoot
  deriving DecidableEq, Repr

/-- A path: where it begins, and the names on the way. -/
structure Path where
  anchor : Anchor
  parts : List Text
  deriving DecidableEq

namespace Path

def ofText (t : Text) : Path where
  anchor := match (t.takeWhile (· == '/')).length with
    | 0 => .here
    | 2 => .doubleRoot
    | _ => .root
  parts := (Text.split '/' t).filter fun part => !part.isEmpty && part != ['.']

def toText (p : Path) : Text :=
  let body := Text.join ['/'] p.parts
  match p.anchor with
  | .here => if p.parts.isEmpty then ['.'] else body
  | .root => '/' :: body
  | .doubleRoot => '/' :: '/' :: body

def isAbsolute (p : Path) : Bool := p.anchor != .here

/-- The second path, seen from where the first leads. -/
def join (p q : Path) : Path := if q.isAbsolute then q else { p with parts := p.parts ++ q.parts }

/-- The path one name further down. -/
def child (p : Path) (name : Text) : Path := { p with parts := p.parts ++ [name] }

def descend (p : Path) (names : List Text) : Path := { p with parts := p.parts ++ names }

/-- The last name on the way; empty if there is none. -/
def name (p : Path) : Text := p.parts.getLastD []

/-- The last name without its extension. A full stop at the beginning or the end of a name begins no
    extension. -/
def stem (p : Path) : Text :=
  let extension := Text.afterLast '.' p.name
  let front := p.name.take (p.name.length - extension.length - 1)
  if p.name.contains '.' && !extension.isEmpty && !front.isEmpty then front else p.name

end Path
end EntityDiagram
