import EntityDiagram.Text.Blank
import EntityDiagram.Text.Word

/-!
# Word characters and white space

The two classes of characters that patterns repeat have nothing in common. That is why a pattern
that reads a word and then white space, or the other way round, never has a choice where the one ends
and the other begins. Both classes come from the character database, one as a table and one as a list
of numbers, so the statement is checked number by number over the shorter of the two.
-/

namespace EntityDiagram
namespace Text

def blankNumbers : List Nat :=
  List.range' 9 5 ++ List.range' 28 5 ++ [0x85, 0xA0, 0x1680] ++ List.range' 0x2000 11
    ++ [0x2028, 0x2029, 0x202F, 0x205F, 0x3000]

theorem toNat_mem_blankNumbers {c : Char} (h : isBlank c = true) : c.toNat ∈ blankNumbers := by
  simp only [isBlank, Bool.or_eq_true, Bool.and_eq_true, decide_eq_true_eq, beq_iff_eq] at h
  simp only [blankNumbers, List.mem_append, List.mem_range'_1, List.mem_cons, List.not_mem_nil,
    or_false]
  omega

theorem not_isWord_of_isBlank {c : Char} (h : isBlank c = true) : isWord c = false := by
  have hall : ∀ n ∈ blankNumbers, isWord (Char.ofNat n) = false := by
    decide +kernel
  rw [← Char.ofNat_toNat c]
  exact hall c.toNat (toNat_mem_blankNumbers h)

theorem not_isBlank_of_isWord {c : Char} (h : isWord c = true) : isBlank c = false := by
  rw [Bool.eq_false_iff]
  intro hblank
  rw [not_isWord_of_isBlank hblank] at h
  exact absurd h (by simp)

theorem forall_of_all_not {test : Char → Bool} {t : Text} (h : t.all (!test ·) = true) :
    ∀ c ∈ t, test c = false := by
  simpa using h

/-! ## ASCII -/

theorem toNat_le_of_le {c d : Char} (h : c ≤ d) : c.toNat ≤ d.toNat := h

/-- ASCII letters, digits and the underscore are word characters. -/
theorem isWord_of_ascii {c : Char} (h : (isAsciiLetter c || isAsciiDigit c || c == '_') = true) :
    isWord c = true := by
  have hbound : c.toNat < 128 := by
    simp only [isAsciiLetter, isAsciiDigit, Bool.or_eq_true, Bool.and_eq_true, decide_eq_true_eq,
      beq_iff_eq] at h
    rcases h with ((⟨-, h⟩ | ⟨-, h⟩) | ⟨-, h⟩) | rfl
    · exact Nat.lt_of_le_of_lt (toNat_le_of_le h) (by decide)
    · exact Nat.lt_of_le_of_lt (toNat_le_of_le h) (by decide)
    · exact Nat.lt_of_le_of_lt (toNat_le_of_le h) (by decide)
    · decide
  rw [isWord, if_pos hbound]
  exact h

theorem isWord_of_isIdentifierStart {c : Char} (h : isIdentifierStart c = true) :
    isWord c = true := by
  apply isWord_of_ascii
  simp only [isIdentifierStart, Bool.or_eq_true] at h ⊢
  rcases h with h | h
  · exact .inl (.inl h)
  · exact .inr h

theorem not_isBlank_of_isIdentifierStart {c : Char} (h : isIdentifierStart c = true) :
    isBlank c = false :=
  not_isBlank_of_isWord (isWord_of_isIdentifierStart h)

end Text
end EntityDiagram
