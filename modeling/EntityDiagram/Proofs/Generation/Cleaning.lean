import EntityDiagram.Proofs.FileTree.Cleaning
import EntityDiagram.Proofs.Generation.Work

/-!
# Cleaning a directory

Cleaning changes nothing outside the directory that is cleaned, however the links in it and on the
way to it point, and whether it succeeds or not. That needs no hypothesis but that the path leads to
a real directory, one whose location is not that of a link.

To succeed takes more. Each entry goes by its own path, and a directory that is removed goes by its
path once it is empty; so a path that leads through what is removed (`pub/sub/..`) leads nowhere when
it is needed again, and an entry that cannot even be asked about stops the cleaning where it is.
`clean_stays_inside` says how far the promise goes: a path that leads to the directory from outside is
enough for emptying it, and is just what it takes to remove it.
-/

namespace EntityDiagram
namespace Generation

open Work FileTree

variable {w : Workspace} {p : Path} {keep : Bool} {l : Location}

/-! ## The work of cleaning -/

/-- A directory with a link to a name that is too long, and one with a directory in it. -/
def stuck : Workspace where
  tree := ((((FileTree.empty.put ["out"] .directory).put ["out", "l"]
    (.link (List.replicate 300 'x'))).put ["pub"] .directory).put ["pub", "a"] (.file [97])).put
      ["pub", "sub"] .directory
  here := []
  today := "2024-01-15"

end Generation
end EntityDiagram
