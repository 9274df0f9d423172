import EntityDiagram.Text.Basic
import EntityDiagram.Text.Invisible

/-!
# Text quoted inside a message

A message that names a path or an argument shows it between quotes, on one line, with nothing
hidden. Single quotes are used unless the text has single quotes and no double quotes. A backslash
and the quote in use are escaped by a backslash; tab, line feed and carriage return have their
letters; every other character that leaves no mark on the page is spelled by its number, in two,
four or eight hexadecimal digits, whichever is the fewest that hold it.
-/

namespace EntityDiagram
namespace Text

def isInvisible (c : Char) : Bool :=
  if c.toNat < 128 then c.toNat < 32 || c.toNat == 127 else invisibleBeyondAscii.contains c

def quotedChar (mark c : Char) : Text :=
  if c == '\\' || c == mark then ['\\', c]
  else if c == '\t' then ['\\', 't']
  else if c == '\n' then ['\\', 'n']
  else if c == '\r' then ['\\', 'r']
  else if isInvisible c then
    if c.toNat < 0x100 then ['\\', 'x'] ++ hex 2 c.toNat
    else if c.toNat < 0x10000 then ['\\', 'u'] ++ hex 4 c.toNat
    else ['\\', 'U'] ++ hex 8 c.toNat
  else [c]

/-- The text between quotes, as a message shows it. -/
def quoted (t : Text) : Text :=
  let mark := if t.contains '\'' && !t.contains '"' then '"' else '\''
  [mark] ++ t.flatMap (quotedChar mark) ++ [mark]

end Text
end EntityDiagram
