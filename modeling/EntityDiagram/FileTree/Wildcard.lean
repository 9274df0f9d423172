import EntityDiagram.Text.Basic

/-!
# Wildcards in names

A name may be given by a wildcard: a star stands for any characters, a question mark for one, and
brackets for one out of a set. A set lists characters and ranges, and an exclamation mark in front
turns it around. Three rules settle the odd cases. A closing bracket that comes first is a member
of the set. A bracket that is never closed stands for itself. And a range that runs backwards has no
members, which takes its two ends out of the set as well.
-/

namespace EntityDiagram
namespace Wildcard

inductive Token where
  /-- Any characters, perhaps none. -/
  | any
  | one (test : Char → Bool)

/-! ## Sets -/

/-- The inside of a set and what follows its closing bracket, for a text that follows an opening
    one. -/
def splitSet? (t : Text) : Option (Text × Text) :=
  let (mark, t) := match t with
    | '!' :: rest => (['!'], rest)
    | _ => ([], t)
  let (first, t) := match t with
    | ']' :: rest => ([']'], rest)
    | _ => ([], t)
  match t.dropWhile (· != ']') with
  | [] => none
  | _ :: rest => some (mark ++ first ++ t.takeWhile (· != ']'), rest)

/-- The inside of a set cut at the hyphens that make ranges. The number says how many characters
    from here on make none: the one in front of a hyphen, and the two behind the hyphen before.
    What was read of the piece at hand is given last character first. -/
def cutAtRanges : Nat → Text → Text → List Text
  | _, piece, [] => [piece.reverse]
  | skip + 1, piece, c :: rest => cutAtRanges skip (c :: piece) rest
  | 0, piece, c :: rest =>
    if c == '-' then piece.reverse :: cutAtRanges 2 [] rest else cutAtRanges 0 (c :: piece) rest

/-- The pieces with a hyphen at the very end counted as a character of its own. -/
def keepLastHyphen : List Text → List Text
  | [] => []
  | [piece] => [piece]
  | [piece, []] => [piece ++ ['-']]
  | piece :: rest => piece :: keepLastHyphen rest

/-- The pieces without the ranges that run backwards, from the last to the first. -/
def dropBackwards : List Text → List Text
  | [] => []
  | piece :: rest => match dropBackwards rest with
    | [] => [piece]
    | next :: rest => match piece.getLast?, next.head? with
      | some low, some high =>
        if high.toNat < low.toNat then (piece.dropLast ++ next.tail) :: rest
        else piece :: next :: rest
      | _, _ => piece :: next :: rest

/-- The ranges of a set, given by its first piece and the others. A character is a range of its
    own. -/
def ranges (piece : Text) : List Text → List (Char × Char)
  | [] => piece.map fun c => (c, c)
  | next :: rest =>
    (piece.dropLast.map fun c => (c, c))
      ++ (match piece.getLast?, next.head? with
        | some low, some high => [(low, high)]
        | _, _ => [])
      ++ ranges next.tail rest

def inSet (inside : Text) (c : Char) : Bool :=
  let pieces := dropBackwards <| keepLastHyphen <|
    cutAtRanges (if inside.head? == some '!' then 2 else 1) [] inside
  let first := pieces.headD []
  let inRange := fun (r : Char × Char) => r.1.toNat ≤ c.toNat && c.toNat ≤ r.2.toNat
  match first with
  | '!' :: first => !(ranges first pieces.tail).any inRange
  | _ => (ranges first pieces.tail).any inRange

/-! ## Wildcards -/

/-- The tokens of a wildcard. The number bounds how many characters are read. -/
def tokensFrom : Nat → Text → List Token
  | 0, _ => []
  | _, [] => []
  | n + 1, c :: rest =>
    if c == '*' then .any :: tokensFrom n rest
    else if c == '?' then .one (fun _ => true) :: tokensFrom n rest
    else if c == '[' then
      match splitSet? rest with
      | some (inside, rest) => .one (inSet inside) :: tokensFrom n rest
      | none => .one (· == '[') :: tokensFrom n rest
    else .one (· == c) :: tokensFrom n rest

def tokens (t : Text) : List Token := tokensFrom t.length t

def isWildcard (t : Text) : Bool := t.any fun c => c == '*' || c == '?' || c == '['

/-- The texts that a text ends with, the whole first. -/
def endings : Text → List Text
  | [] => [[]]
  | c :: rest => (c :: rest) :: endings rest

def covers : List Token → Text → Bool
  | [], t => t.isEmpty
  | .any :: rest, t => (endings t).any (covers rest)
  | .one test :: rest, t => match t with
    | c :: t => test c && covers rest t
    | [] => false

end Wildcard
end EntityDiagram
