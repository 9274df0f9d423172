import EntityDiagram.Json.Basic
import EntityDiagram.Text.Word

/-!
# Reading documents

The grammar is the usual one, with two things to note. Beyond the numbers of the grammar the words
`NaN`, `Infinity` and `-Infinity` are accepted. And there is no leniency anywhere else: a control
character inside a text, a comma before a closing bracket, or anything at all after the document
makes it malformed, and a byte order mark in front does too. When a name occurs twice in an object,
the later value counts.

A whole number with too many digits is not read. It is no matter of the grammar, and is told apart
from what is malformed: whichever of the two stands first in the text is what reading ends with.

Reading a value calls itself on what lies inside, so it is given a bound on the depth of those
calls. Every call has consumed a character since the one before the last, hence twice the length of
the text is bound enough; `read` supplies it.
-/

namespace EntityDiagram
namespace Json

/-- Why a text was not read. -/
inductive ReadFault where
  | malformed
  /-- A whole number has so many digits, and they are too many. -/
  | tooManyDigits (count : Nat)
  deriving DecidableEq

/-! ## Pieces -/

def isGap (c : Char) : Bool := c == ' ' || c == '\t' || c == '\n' || c == '\r'

/-- The text without the gap it begins with. -/
def skipGap (t : Text) : Text := t.dropWhile isGap

def fourHex? (a b c d : Char) : Option Nat := do
  let a ← Text.hexDigit? a
  let b ← Text.hexDigit? b
  let c ← Text.hexDigit? c
  let d ← Text.hexDigit? d
  return a * 4096 + b * 256 + c * 16 + d

/-- Whether a number is the first half of a character written in two halves. -/
def isHighHalf (n : Nat) : Bool := 0xD800 ≤ n && n ≤ 0xDBFF

/-- Whether a number is the second half of a character written in two halves. -/
def isLowHalf (n : Nat) : Bool := 0xDC00 ≤ n && n ≤ 0xDFFF

/-- The character with the given number; a half on its own gives the replacement character. -/
def characterOf (n : Nat) : Char :=
  if isHighHalf n || isLowHalf n then Char.ofNat 0xFFFD else Char.ofNat n

/-- The character that a backslash and one letter stand for. -/
def escapeOf? : Char → Option Char
  | '"' => some '"'
  | '\\' => some '\\'
  | '/' => some '/'
  | 'b' => some (Char.ofNat 8)
  | 'f' => some (Char.ofNat 12)
  | 'n' => some '\n'
  | 'r' => some '\r'
  | 't' => some '\t'
  | _ => none

def consCharacter (c : Char) (read : Option (Text × Text)) : Option (Text × Text) :=
  read.map fun (t, rest) => (c :: t, rest)

/-- The text up to the closing quotation mark, and what follows the mark. The first number is the
    first half of a character whose second half must stand here, if one was read just before. -/
def readText : Option Nat → Text → Option (Text × Text)
  | none, '"' :: rest => some ([], rest)
  | some high, '"' :: rest => some ([characterOf high], rest)
  | pending, '\\' :: 'u' :: a :: b :: c :: d :: rest =>
    match fourHex? a b c d with
    | none => none
    | some n =>
      match pending with
      | none =>
        if isHighHalf n then readText (some n) rest
        else consCharacter (characterOf n) (readText none rest)
      | some high =>
        if isLowHalf n then
          consCharacter (Char.ofNat (0x10000 + (high - 0xD800) * 1024 + (n - 0xDC00)))
            (readText none rest)
        else consCharacter (characterOf high) <|
          if isHighHalf n then readText (some n) rest
          else consCharacter (characterOf n) (readText none rest)
  | pending, '\\' :: c :: rest =>
    match escapeOf? c with
    | none => none
    | some e => match pending with
      | none => consCharacter e (readText none rest)
      | some high => consCharacter (characterOf high) (consCharacter e (readText none rest))
  | pending, c :: rest =>
    if c.toNat < 32 || c == '\\' then none
    else match pending with
      | none => consCharacter c (readText none rest)
      | some high => consCharacter (characterOf high) (consCharacter c (readText none rest))
  | _, [] => none

def digitsValue (digits : Text) : Nat := digits.foldl (fun n c => n * 10 + (c.toNat - 48)) 0

/-- The digits that a text begins with, and the rest. -/
def spanDigits (t : Text) : Text × Text :=
  (t.takeWhile Text.isAsciiDigit, t.dropWhile Text.isAsciiDigit)

/-- The digits of a fraction, if a fraction stands here. -/
def readFraction (t : Text) : Option (Text × Text) :=
  match t with
  | '.' :: rest => match spanDigits rest with
    | ([], _) => none
    | (digits, rest) => some (digits, rest)
  | _ => none

/-- The value of an exponent, if an exponent stands here. -/
def readExponent (t : Text) : Option (Int × Text) :=
  match t with
  | e :: rest =>
    if e != 'e' && e != 'E' then none
    else
      let (negative, rest) := match rest with
        | '-' :: rest => (true, rest)
        | '+' :: rest => (false, rest)
        | rest => (false, rest)
      match spanDigits rest with
      | ([], _) => none
      | (digits, rest) =>
        let n := Int.ofNat (digitsValue digits)
        some (if negative then -n else n, rest)
  | [] => none

/-- A whole number has no more digits than this. -/
def mostDigits : Nat := 4300

/-- The number that stands here, its sign having been read. A zero is not followed by digits. -/
def readNumber (negative : Bool) (t : Text) : Except ReadFault (Json × Text) :=
  let (digits, rest) := match t with
    | '0' :: rest => (['0'], rest)
    | _ => spanDigits t
  if digits.isEmpty then .error .malformed
  else
    let fraction := readFraction rest
    let rest := (fraction.map (·.2)).getD rest
    let exponent := readExponent rest
    let rest := (exponent.map (·.2)).getD rest
    match fraction, exponent with
    | none, none =>
      if digits.length > mostDigits then .error (.tooManyDigits digits.length)
      else
        let value := Int.ofNat (digitsValue digits)
        .ok (.integer (if negative then -value else value), rest)
    | _, _ =>
      let places := (fraction.map (·.1)).getD []
      .ok (.decimal ⟨negative, digitsValue (digits ++ places),
        (exponent.map (·.1)).getD 0 - Int.ofNat places.length⟩, rest)

def afterWord? (word t : Text) : Option Text :=
  if word.isPrefixOf t then some (t.drop word.length) else none

/-- The value that a word stands for, if the word stands here. -/
def readWord (word : Text) (value : Json) (t : Text) : Except ReadFault (Json × Text) :=
  match afterWord? word t with
  | some rest => .ok (value, rest)
  | none => .error .malformed

/-- A value that is no list, no object and no text. -/
def readPlain (t : Text) : Except ReadFault (Json × Text) :=
  match t with
  | 'n' :: _ => readWord "null" .null t
  | 't' :: _ => readWord "true" (.bool true) t
  | 'f' :: _ => readWord "false" (.bool false) t
  | 'N' :: _ => readWord "NaN" .notFinite t
  | 'I' :: _ => readWord "Infinity" .notFinite t
  | '-' :: rest =>
    match afterWord? "Infinity" rest with
    | some rest => .ok (.notFinite, rest)
    | none => readNumber true rest
  | _ => readNumber false t

/-! ## Values -/

mutual

def readValue : Nat → Text → Except ReadFault (Json × Text)
  | 0, _ => .error .malformed
  | depth + 1, t =>
    match t with
    | '"' :: rest => match readText none rest with
      | none => .error .malformed
      | some (value, rest) => .ok (.text value, rest)
    | '[' :: rest => match skipGap rest with
      | ']' :: rest => .ok (.list [], rest)
      | rest => readItems depth [] rest
    | '{' :: rest => match skipGap rest with
      | '}' :: rest => .ok (.object [], rest)
      | rest => readFields depth [] rest
    | _ => readPlain t

/-- The rest of a list, from an item on; the items before it are given last one first. -/
def readItems : Nat → List Json → Text → Except ReadFault (Json × Text)
  | 0, _, _ => .error .malformed
  | depth + 1, before, t =>
    match readValue depth t with
    | .error f => .error f
    | .ok (item, rest) => match skipGap rest with
      | ']' :: rest => .ok (.list (item :: before).reverse, rest)
      | ',' :: rest => readItems depth (item :: before) (skipGap rest)
      | _ => .error .malformed

/-- The rest of an object, from a name on, given the fields before it. -/
def readFields : Nat → List (Text × Json) → Text → Except ReadFault (Json × Text)
  | 0, _, _ => .error .malformed
  | depth + 1, before, t =>
    match t with
    | '"' :: rest => match readText none rest with
      | none => .error .malformed
      | some (name, rest) => match skipGap rest with
        | ':' :: rest => match readValue depth (skipGap rest) with
          | .error f => .error f
          | .ok (value, rest) => match skipGap rest with
            | '}' :: rest => .ok (.object (setField name value before), rest)
            | ',' :: rest => readFields depth (setField name value before) (skipGap rest)
            | _ => .error .malformed
        | _ => .error .malformed
    | _ => .error .malformed

end

/-- The document that the text is. -/
def read (t : Text) : Except ReadFault Json :=
  match readValue (2 * t.length + 2) (skipGap t) with
  | .error f => .error f
  | .ok (value, rest) => if (skipGap rest).isEmpty then .ok value else .error .malformed

end Json
end EntityDiagram
