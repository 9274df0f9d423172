import EntityDiagram.FileTree.Basic

/-!
# What changed in a file tree

A command takes a tree to a tree. To make the same come true outside, the difference between the two
is spelled out as changes, in an order in which they can be made: first what went goes, deepest
first, then what is new comes, from the top down.
-/

namespace EntityDiagram
namespace FileTree

inductive Change where
  | removeDirectory (l : Location)
  | removeOther (l : Location)
  | makeDirectory (l : Location)
  | writeFile (l : Location) (bytes : List UInt8)
  | makeLink (l : Location) (target : Text)
  deriving DecidableEq

/-- Entries, deepest first. -/
def deepestFirst (entries : List (Location × Entry)) : List (Location × Entry) :=
  entries.mergeSort fun x y => y.1.length ≤ x.1.length

/-- What stands in the first tree where something else, or nothing, stands in the second. -/
def entriesNotIn (t u : FileTree) : List (Location × Entry) :=
  deepestFirst (t.entries.filter fun x => u.lookup x.1 != some x.2)

/-- How an entry is removed. A file that is only written anew stays where it is. -/
def removal (after : FileTree) : Location × Entry → Option Change
  | (l, .directory) => some (.removeDirectory l)
  | (l, .link _) => some (.removeOther l)
  | (l, .file _) => match after.lookup l with
    | some (.file _) => none
    | _ => some (.removeOther l)

def creation : Location × Entry → Change
  | (l, .directory) => .makeDirectory l
  | (l, .file bytes) => .writeFile l bytes
  | (l, .link target) => .makeLink l target

/-- The changes that lead from the first tree to the second. -/
def changes (before after : FileTree) : List Change :=
  (before.entriesNotIn after).filterMap (removal after)
    ++ ((after.entriesNotIn before).reverse).map creation

end FileTree
end EntityDiagram
