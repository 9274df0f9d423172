import EntityDiagram.Proofs.Pattern.Searching

/-!
# Joining two texts

A search through two texts joined is in general not the two searches one after the other. A match may
begin in the first text and end in the second, and one that ends in the first may end elsewhere now
that the text goes on. `Parted` says that neither happens. It says so of every place of the first
text by itself, so it is a statement about matching; that the matches that do not overlap are then
those of the one text and those of the other (`Parted.allFrom`) is shown once for all patterns.

A match of the first text is a match of the joined text with more text behind it, and nothing that
is read off a match depends on how much that is (`Match.text_onto`).
-/

namespace EntityDiagram

/-! ## More text behind -/

/-- The same place, when the text goes on. -/
def Cursor.onto (c : Cursor) (z : Text) : Cursor := ⟨c.before, c.rest ++ z⟩

theorem Cursor.upTo_onto (a b : Cursor) (z : Text) : (a.onto z).upTo (b.onto z) = a.upTo b := by
  unfold Cursor.upTo Cursor.onto
  dsimp only
  rw [List.length_append, List.length_append, Nat.add_sub_add_right,
    List.take_append_of_le_length (Nat.sub_le _ _)]

/-- The same match, when the text goes on. -/
def Match.onto (m : Match) (z : Text) : Match where
  start := m.start.onto z
  stop := m.stop.onto z
  captures := m.captures.map fun capture => (capture.1.onto z, capture.2.onto z)

theorem Match.text_onto (m : Match) (z : Text) (i : Nat) : (m.onto z).text i = m.text i := by
  unfold Match.text Match.onto
  dsimp only
  rw [List.getElem?_map]
  cases m.captures[i]? with
  | none => rfl
  | some capture => exact Cursor.upTo_onto _ _ z

namespace Pattern

variable {p : Pattern} {b : Option Char} {a z : Text}

/-! ## Where a text comes apart -/

/-- No match that begins before this place goes beyond it, and none ends elsewhere because of what
    is there. -/
def Parted (p : Pattern) (b : Option Char) (a z : Text) : Prop :=
  ∀ v w, a = v ++ w → w ≠ [] →
    p.matchAt? ⟨pass b v, w ++ z⟩ = (p.matchAt? ⟨pass b v, w⟩).map (·.onto z)

theorem Parted.head {x : Char} (h : p.Parted b (x :: a) z) :
    p.matchAt? ⟨b, x :: (a ++ z)⟩ = (p.matchAt? ⟨b, x :: a⟩).map (·.onto z) :=
  h [] (x :: a) rfl (List.cons_ne_nil x a)

theorem Parted.tail {x : Char} (h : p.Parted b (x :: a) z) : p.Parted (some x) a z := by
  intro v w heq hne
  exact h (x :: v) w (by rw [heq]; rfl) hne

/-- **The matches in two texts joined** are those in the one and those in the other. -/
theorem Parted.allFrom (h : p.Parted b a z) {n : Nat} (hn : n ≤ a.length) :
    p.allFrom n b (a ++ z) = (p.allFrom n b a).map (·.onto z) ++ p.allFrom 0 (pass b a) z := by
  induction a generalizing n b with
  | nil =>
    obtain rfl := Nat.le_zero.mp hn
    rfl
  | cons x a ih =>
    cases n with
    | succ n => exact ih h.tail (Nat.le_of_succ_le_succ hn)
    | zero =>
      have hhead := h.head
      rw [List.cons_append]
      cases hm : p.matchAt? ⟨b, x :: a⟩ with
      | none =>
        rw [hm, Option.map_none] at hhead
        rw [allFrom_zero_of_none hhead, allFrom_zero_of_none hm]
        exact ih h.tail (Nat.zero_le _)
      | some m =>
        rw [hm, Option.map_some] at hhead
        -- What is skipped is what the match covers, however much text there is behind it.
        have hskip : (x :: (a ++ z)).length - (m.onto z).stop.rest.length - 1
            = (x :: a).length - m.stop.rest.length - 1 := by
          simp only [Match.onto, Cursor.onto, List.length_cons, List.length_append]
          omega
        have hle : (x :: a).length - m.stop.rest.length - 1 ≤ a.length := by
          simp only [List.length_cons]
          omega
        rw [allFrom_zero_of_match hhead, hskip, ih h.tail hle, allFrom_zero_of_match hm]
        rfl

/-- The first match in two texts joined is in the first if there is one, else in the second. -/
theorem Parted.searchFrom? (h : p.Parted b a z) (hend : p.matchAt? ⟨pass b a, []⟩ = none) :
    p.searchFrom? b (a ++ z)
      = ((p.searchFrom? b a).map (·.onto z)).or (p.searchFrom? (pass b a) z) := by
  induction a generalizing b with
  | nil =>
    rw [List.nil_append, show p.searchFrom? b [] = none from hend]
    rfl
  | cons x a ih =>
    have hhead := h.head
    rw [List.cons_append]
    cases hm : p.matchAt? ⟨b, x :: a⟩ with
    | none =>
      rw [hm, Option.map_none] at hhead
      rw [searchFrom?_of_none hhead, searchFrom?_of_none hm]
      exact ih h.tail hend
    | some m =>
      rw [hm, Option.map_some] at hhead
      rw [searchFrom?_of_match hhead, searchFrom?_of_match hm]
      rfl

end Pattern
end EntityDiagram
