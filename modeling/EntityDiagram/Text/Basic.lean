/-!
# Text

Everything this library reads and writes is text, and nearly everything it claims about text is
claimed by induction on it. So text is a list of characters from the start: source files, names,
paths, diagrams and pages alike. String literals are accepted wherever text is expected; strings
appear again only where the program meets its input and output.

The operations here are the ones several parts of the library share: cutting at a separator,
joining with one, searching for a piece, and the order of texts by code point in which paths are
listed.
-/

namespace EntityDiagram

abbrev Text := List Char

instance : Coe String Text := ⟨String.toList⟩

namespace Text

/-! ## Searching -/

/-- Whether `needle` occurs in the text, at any position. -/
def occursIn (needle : Text) : Text → Bool
  | [] => needle.isEmpty
  | c :: rest => needle.isPrefixOf (c :: rest) || occursIn needle rest

theorem occursIn_iff_infix (needle hay : Text) :
    occursIn needle hay = true ↔ needle <:+: hay := by
  induction hay with
  | nil => simp [occursIn, List.isEmpty_iff]
  | cons c rest ih =>
    rw [occursIn, Bool.or_eq_true, List.isPrefixOf_iff_prefix, ih, List.infix_cons_iff]

/-! ## Cutting and joining -/

/-- The pieces of the text between the separators, empty pieces included. There is always at least
    one piece. -/
def split (separator : Char) : Text → List Text
  | [] => [[]]
  | c :: rest =>
    if c == separator then [] :: split separator rest
    else match split separator rest with
      | [] => [[c]]
      | piece :: pieces => (c :: piece) :: pieces

/-- The pieces one after another, with the separator between any two. -/
def join (separator : Text) : List Text → Text
  | [] => []
  | [piece] => piece
  | piece :: pieces => piece ++ separator ++ join separator pieces

/-- What follows the last occurrence of the separator: all of the text when there is none. -/
def afterLast (separator : Char) : Text → Text
  | [] => []
  | c :: rest =>
    if (c :: rest).contains separator then afterLast separator rest else c :: rest

/-- What stands before the first occurrence of the separator: all of the text when there is
    none. -/
def beforeFirst (separator : Char) (t : Text) : Text := t.takeWhile (· != separator)

/-! ## Numbers -/

def ofNat (n : Nat) : Text := Nat.toDigits 10 n

/-- An integer in decimal digits, with a minus sign when it is negative. -/
def ofInt : Int → Text
  | .ofNat n => ofNat n
  | .negSucc n => '-' :: ofNat (n + 1)

def hexDigit? (c : Char) : Option Nat :=
  if '0' ≤ c && c ≤ '9' then some (c.toNat - 48)
  else if 'a' ≤ c && c ≤ 'f' then some (c.toNat - 87)
  else if 'A' ≤ c && c ≤ 'F' then some (c.toNat - 55)
  else none

/-- A number in lower case hexadecimal, filled up with zeros to the given width. -/
def hex (width n : Nat) : Text :=
  let digits := Nat.toDigits 16 n
  List.replicate (width - digits.length) '0' ++ digits

/-! ## Order

Listings are ordered by code point, character by character, a text before every longer text that
begins with it. -/

/-- Whether the first text stands at or before the second in the order by code point. -/
def atMost : Text → Text → Bool
  | [], _ => true
  | _ :: _, [] => false
  | a :: as, b :: bs => if a == b then atMost as bs else a.toNat < b.toNat

/-- The order lifted to sequences of texts: the first place where they differ decides. -/
def atMostPiecewise : List Text → List Text → Bool
  | [], _ => true
  | _ :: _, [] => false
  | a :: as, b :: bs => if a == b then atMostPiecewise as bs else atMost a b

end Text
end EntityDiagram
