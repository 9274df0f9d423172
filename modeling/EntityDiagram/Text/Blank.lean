import EntityDiagram.Text.Basic

/-!
# White space

Which characters count as blank matters in three places that must agree with each other: where a
pattern allows white space, where a name is stripped of it, and where an environment file separates
its words. All three use the one set below. It is wider than the usual six characters: it has the
four information separators U+001C to U+001F and the blanks of Unicode, and it leaves out U+200B
and U+FEFF, which have no width but are not blank.
-/

namespace EntityDiagram
namespace Text

def isBlank (c : Char) : Bool :=
  let n := c.toNat
  (9 ≤ n && n ≤ 13) || (28 ≤ n && n ≤ 32) || n == 0x85 || n == 0xA0 || n == 0x1680
    || (0x2000 ≤ n && n ≤ 0x200A) || n == 0x2028 || n == 0x2029 || n == 0x202F || n == 0x205F
    || n == 0x3000

/-- The blanks of the character database alone, without the information separators. Numbers in
    settings are stripped of these. -/
def isUnicodeBlank (c : Char) : Bool := isBlank c && !(28 ≤ c.toNat && c.toNat ≤ 31)

/-- The text without what satisfies the test at its end. -/
def dropEnd (test : Char → Bool) (t : Text) : Text := (t.reverse.dropWhile test).reverse

/-- The text without white space on either side. -/
def strip (t : Text) : Text := dropEnd isBlank (t.dropWhile isBlank)

end Text
end EntityDiagram
