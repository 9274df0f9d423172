import EntityDiagram.Text.Utf8
import EntityDiagram.Viewer.Page

/-!
# Where the markup of a page comes from

Three of the four inputs of a page go into it escaped, and an escaped text has none of the
characters that open or close a tag or a quotation. So however the title, the script and the date
are chosen, a page has as many of these characters as the page around an empty diagram, and those of
its diagram (`count_page`).

The same count can be read off the bytes of the page, because a character below 128 is one byte
and no other character has that byte in its encoding (`count_encode`).
-/

namespace EntityDiagram

namespace Text

def IsMarkup (c : Char) : Prop := c = '<' ∨ c = '>' ∨ c = '"' ∨ c = '\''

theorem not_mem_escapedChar {c : Char} (hc : IsMarkup c) (d : Char) : c ∉ escapedChar d := by
  unfold escapedChar
  repeat' split
  case isFalse.isFalse.isFalse.isFalse.isFalse =>
    rw [List.mem_singleton]
    rintro rfl
    rcases hc with rfl | rfl | rfl | rfl <;> contradiction
  all_goals rcases hc with rfl | rfl | rfl | rfl <;> decide

theorem count_escaped {c : Char} (hc : IsMarkup c) (t : Text) : (escaped t).count c = 0 := by
  rw [List.count_eq_zero, escaped, List.mem_flatMap]
  rintro ⟨d, -, hd⟩
  exact not_mem_escapedChar hc d hd

end Text

namespace Viewer

/-- **Only the diagram adds markup.** -/
theorem count_page {c : Char} (hc : Text.IsMarkup c) (inputs : Inputs) :
    (page inputs).count c = (page ⟨[], [], [], []⟩).count c + inputs.diagram.count c := by
  have htitle := Text.count_escaped hc inputs.title
  have hscript := Text.count_escaped hc inputs.script
  have hdate := Text.count_escaped hc inputs.date
  have hnone := Text.count_escaped hc []
  simp only [page, pieces, List.flatMap_cons, List.flatMap_nil, Piece.fill, List.count_append,
    List.count_nil, htitle, hscript, hdate, hnone]
  omega

end Viewer

namespace Utf8

theorem high_of_mem_encodeChar {d : Char} (hd : 0x80 ≤ d.toNat) {b : UInt8}
    (hb : b ∈ encodeChar d) : 0x80 ≤ b.toNat := by
  have hlast : d.toNat < 0x110000 := by
    rcases d.valid with h | ⟨-, h⟩
    · exact Nat.lt_trans h (by decide)
    · exact h
  unfold encodeChar at hb
  dsimp only at hb
  split at hb
  · omega
  · split at hb
    all_goals
      try split at hb
      all_goals
        simp only [List.mem_cons, List.not_mem_nil, or_false] at hb
        rcases hb with rfl | rfl | rfl | rfl <;> simp only [UInt8.toNat_ofNat'] <;> omega

theorem count_encodeChar {c : Char} (hc : c.toNat < 0x80) (d : Char) :
    (encodeChar d).count (UInt8.ofNat c.toNat) = if d = c then 1 else 0 := by
  have hbyte : (UInt8.ofNat c.toNat).toNat = c.toNat := by
    rw [UInt8.toNat_ofNat']
    omega
  by_cases hd : d.toNat < 0x80
  · have hone : encodeChar d = [UInt8.ofNat d.toNat] := if_pos hd
    rw [hone, List.count_singleton]
    by_cases hdc : d = c
    · simp [hdc]
    · have hne : UInt8.ofNat d.toNat ≠ UInt8.ofNat c.toNat := by
        intro heq
        have htoNat := congrArg UInt8.toNat heq
        rw [hbyte, UInt8.toNat_ofNat'] at htoNat
        exact hdc (Char.toNat_inj.mp (by omega))
      simp [hdc, hne]
  · have hdc : d ≠ c := by
      rintro rfl
      exact hd hc
    rw [if_neg hdc, List.count_eq_zero]
    intro hmem
    -- A character of several bytes has high ones only, and the one counted is low.
    have := high_of_mem_encodeChar (Nat.le_of_not_lt hd) hmem
    omega

theorem count_encode {c : Char} (hc : c.toNat < 0x80) (t : Text) :
    (encode t).count (UInt8.ofNat c.toNat) = t.count c := by
  induction t with
  | nil => rfl
  | cons d rest ih =>
    have hcons : encode (d :: rest) = encodeChar d ++ encode rest := rfl
    rw [hcons, List.count_append, ih, count_encodeChar hc, List.count_cons]
    by_cases hd : d = c
    · simp [hd, Nat.add_comm]
    · simp [hd]

end Utf8
end EntityDiagram
