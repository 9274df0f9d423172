import EntityDiagram.Text.Basic
import EntityDiagram.Text.CaseTable

/-!
# Lower casing

Lower casing is done character by character, with two exceptions. One capital, U+0130, has a small
form of two characters. And the Greek capital sigma becomes the final form ς when a letter stands
before it and none behind, the ordinary form σ otherwise; the search for those neighbours looks
through apostrophes, full stops and combining marks.
-/

namespace EntityDiagram
namespace Text

/-- Whether a character has case and is not looked through. -/
def isCased (c : Char) : Bool :=
  if c.toNat < 128 then ('a' ≤ c && c ≤ 'z') || ('A' ≤ c && c ≤ 'Z')
  else casedBeyondAscii.contains c

/-- Whether the search for a neighbouring letter looks through a character. -/
def isCaseTransparent (c : Char) : Bool :=
  if c.toNat < 128 then c == '\'' || c == '.' || c == ':' || c == '^' || c == '\x60'
  else caseTransparentBeyondAscii.contains c

/-- Whether the first character that is not looked through has case. -/
def meetsCased (t : Text) : Bool :=
  match t.dropWhile isCaseTransparent with
  | [] => false
  | c :: _ => isCased c

/-- The small form of one character, its surroundings aside. -/
def lowerChar (c : Char) : Text :=
  if c.toNat < 128 then [if 'A' ≤ c && c ≤ 'Z' then Char.ofNat (c.toNat + 32) else c]
  else if c.toNat == 0x130 then [Char.ofNat 0x69, Char.ofNat 0x307]
  else match caseRuns.findSome? (·.smallForm? c.toNat) with
    | some n => [Char.ofNat n]
    | none => [c]

/-- Lower casing of a text of which `before` has been read already, nearest character first. -/
def lowerFrom (before : Text) : Text → Text
  | [] => []
  | c :: rest =>
    (if c.toNat == 0x3A3 then
      [if meetsCased before && !meetsCased rest then Char.ofNat 0x3C2 else Char.ofNat 0x3C3]
    else lowerChar c) ++ lowerFrom (c :: before) rest

def lower (t : Text) : Text := lowerFrom [] t

end Text
end EntityDiagram
