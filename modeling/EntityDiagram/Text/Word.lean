import EntityDiagram.Text.Basic
import EntityDiagram.Text.Alphabet

/-!
# Word characters and digits

Patterns speak of word characters: letters and digits of any script, and the underscore. The
boundary between two words is where a word character meets one that is none, so the same test
decides where a keyword may begin and end.
-/

namespace EntityDiagram
namespace Text

def isAsciiLetter (c : Char) : Bool := ('a' ≤ c && c ≤ 'z') || ('A' ≤ c && c ≤ 'Z')

def isAsciiDigit (c : Char) : Bool := '0' ≤ c && c ≤ '9'

/-- Whether a character is part of a word: a letter or digit of any script, or the underscore. -/
def isWord (c : Char) : Bool :=
  if c.toNat < 128 then isAsciiLetter c || isAsciiDigit c || c == '_'
  else alphanumericBeyondAscii.contains c

def isIdentifierStart (c : Char) : Bool := isAsciiLetter c || c == '_'

def isDecimalDigit (c : Char) : Bool :=
  if c.toNat < 128 then isAsciiDigit c
  else decimalZerosBeyondAscii.any fun first => first ≤ c.toNat && c.toNat ≤ first + 9

end Text
end EntityDiagram
