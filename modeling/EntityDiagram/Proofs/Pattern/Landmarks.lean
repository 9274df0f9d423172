import EntityDiagram.Proofs.Pattern.Searching
import EntityDiagram.Proofs.Text.Characters

/-!
# Where a search can begin at all

A search for a declaration can be kept out of most of a file by one character or one word.

Some shapes begin with a dollar sign, or have one in them, and in a file every dollar sign is followed
by one of a few words. `marked` says which, and it is checked piece by piece; a shape that needs
another word is then nowhere in the file.

Other shapes begin with a keyword and white space behind it. In a file keywords may occur anywhere as
part of a name, but there a quotation mark or a parenthesis follows, not white space. So whatever has
no blanks in it and ends in such a mark is quiet (`BeginsWithWord.quiet_dense`).
-/

namespace EntityDiagram
namespace Pattern

variable {p q : Pattern} {b : Option Char} {a t v w z : Text} {found : Captures}

/-! ## Dollar signs -/

/-- Whether every dollar sign of the text is followed by one of the words. -/
def marked (words : List Text) : Text → Bool
  | [] => true
  | c :: t => (c != '$' || words.any (·.isPrefixOf t)) && marked words t

section Marked

variable {words more : List Text}

theorem marked_append (ha : marked words a = true) (ht : marked words t = true) :
    marked words (a ++ t) = true := by
  induction a with
  | nil => exact ht
  | cons c a ih =>
    simp only [marked, List.cons_append, Bool.and_eq_true, Bool.or_eq_true, List.any_eq_true,
      List.isPrefixOf_iff_prefix] at ha ⊢
    refine ⟨ha.1.imp id ?_, ih ha.2⟩
    rintro ⟨w, hw, hprefix⟩
    exact ⟨w, hw, hprefix.trans (List.prefix_append a t)⟩

theorem marked_flatMap {α : Type} {f : α → Text} {xs : List α}
    (h : ∀ x ∈ xs, marked words (f x) = true) : marked words (xs.flatMap f) = true := by
  induction xs with
  | nil => rfl
  | cons x xs ih =>
    rw [List.flatMap_cons]
    exact marked_append (h x List.mem_cons_self) (ih fun y hy => h y (List.mem_cons_of_mem x hy))

theorem marked_of_not_mem (h : '$' ∉ t) : marked words t = true := by
  induction t with
  | nil => rfl
  | cons c t ih =>
    rw [List.mem_cons, not_or] at h
    simp [marked, ih h.2, Ne.symm h.1]

theorem marked_mono (hsub : ∀ w ∈ words, w ∈ more) (h : marked words t = true) :
    marked more t = true := by
  induction t with
  | nil => rfl
  | cons c t ih =>
    simp only [marked, Bool.and_eq_true, Bool.or_eq_true, List.any_eq_true] at h ⊢
    refine ⟨h.1.imp id ?_, ih h.2⟩
    rintro ⟨w, hw, hprefix⟩
    exact ⟨w, hsub w hw, hprefix⟩

theorem exists_of_marked (h : marked words (a ++ '$' :: t) = true) :
    ∃ w ∈ words, ∃ z, t = w ++ z := by
  induction a with
  | nil =>
    simp only [List.nil_append, marked, Bool.and_eq_true, Bool.or_eq_true, List.any_eq_true,
      List.isPrefixOf_iff_prefix, bne_self_eq_false, Bool.false_eq_true, false_or] at h
    obtain ⟨⟨w, hw, z, hz⟩, -⟩ := h
    exact ⟨w, hw, z, hz.symm⟩
  | cons c a ih =>
    simp only [List.cons_append, marked, Bool.and_eq_true] at h
    exact ih h.2

/-- A name with a dollar sign does not occur among other words. -/
theorem not_infix_of_marked (h : marked words t = true) (hw : ∀ w ∈ words, clashes v w = true) :
    ¬ '$' :: v <:+: t := by
  rintro ⟨a, z, rfl⟩
  have hsplit : a ++ '$' :: v ++ z = a ++ '$' :: (v ++ z) := by simp
  rw [hsplit] at h
  obtain ⟨w, hmem, y, heq⟩ := exists_of_marked h
  have hclash := clashes_append v w y (hw w hmem)
  rw [← heq, not_clashes_self_append] at hclash
  exact absurd hclash (by simp)

/-- A pattern that begins with a dollar sign is nowhere if none of the words may follow it there. -/
theorem occursIn_of_marked (h : marked words t = true) (hp : p.Rejects (· != '$'))
    (hend : ∀ b, p.runs ⟨b, []⟩ [] = [])
    (hw : ∀ w ∈ words, ∀ b z, p.runs ⟨b, '$' :: (w ++ z)⟩ [] = []) : p.occursIn t = false := by
  rw [occursIn_eq_false]
  rintro a y rfl
  rw [matchAt?_eq_none]
  cases y with
  | nil => exact hend _
  | cons c y =>
    by_cases hc : c = '$'
    · subst hc
      obtain ⟨w, hmem, z, rfl⟩ := exists_of_marked h
      exact hw w hmem _ z
    · exact hp c (by simpa using hc) _ _ _

end Marked

/-! ## Keywords -/

structure BeginsWithWord (p : Pattern) (w : Text) : Prop where
  word : ∀ x ∈ w, Text.isWord x = true
  shape : ∀ {b t found}, p.runs ⟨b, t⟩ found ≠ [] →
    ∃ x z, t = w ++ x :: z ∧ Text.isBlank x = true

/-- A text has one beginning of characters that pass a test. -/
theorem eq_of_append_stops (test : Char → Bool) (ha : ∀ x ∈ a, test x = true)
    (hw : ∀ x ∈ w, test x = true) (hv : Stops test v) (hz : Stops test z) (h : a ++ v = w ++ z) :
    a = w := by
  have hstop : ∀ {t : Text}, Stops test t → t.takeWhile test = [] := by
    intro t ht
    cases t with
    | nil => rfl
    | cons x t =>
      have hx : test x = false := ht
      rw [List.takeWhile_cons, hx]
      rfl
  have hfirst : (a ++ v).takeWhile test = a := by
    rw [List.takeWhile_append_of_pos ha, hstop hv, List.append_nil]
  have hsecond : (w ++ z).takeWhile test = w := by
    rw [List.takeWhile_append_of_pos hw, hstop hz, List.append_nil]
  rw [← hfirst, h, hsecond]

/-- A character occurs in a text first at one place. -/
theorem eq_of_append_cons {x : Char} (ha : x ∉ a) (hw : x ∉ w) (h : a ++ x :: v = w ++ x :: z) :
    a = w := by
  have hne : ∀ {t : Text}, x ∉ t → ∀ y ∈ t, (y != x) = true := by
    intro t ht y hy
    rw [bne_iff_ne]
    rintro rfl
    exact ht hy
  exact eq_of_append_stops (· != x) (hne ha) (hne hw) (by simp [Stops]) (by simp [Stops]) h

/-- A text has one end of characters that pass a test. -/
theorem eq_of_append_stops_behind (test : Char → Bool) (ha : ∀ x ∈ a, test x = true)
    (hw : ∀ x ∈ w, test x = true) (hv : v.getLast?.any test = false)
    (hz : z.getLast?.any test = false) (h : v ++ a = z ++ w) : v = z ∧ a = w := by
  have hreverse : a.reverse ++ v.reverse = w.reverse ++ z.reverse := by
    rw [← List.reverse_append, ← List.reverse_append, h]
  have hstops : ∀ {t : Text}, t.getLast?.any test = false → Stops test t.reverse := by
    intro t ht
    rw [Stops, List.head?_reverse]
    exact ht
  have hsame : a.reverse = w.reverse :=
    eq_of_append_stops test (by simpa using ha) (by simpa using hw) (hstops hv) (hstops hz) hreverse
  obtain rfl : a = w := List.reverse_inj.mp hsame
  exact ⟨List.append_cancel_right h, rfl⟩

theorem getLast?_append_any {test : Char → Bool} (hw : ∀ x ∈ w, test x = false) (hne : w ≠ []) :
    (t ++ w).getLast?.any test = false := by
  rw [List.getLast?_append, List.getLast?_eq_some_getLast hne, Option.some_or]
  exact hw _ (List.getLast_mem hne)

/-- Some characters occur in a text only where they stand between two texts that do not have them,
    unless the first of them could begin within the others. -/
theorem eq_of_occurs_once {x : Char} {y : Text} (hx : x ∉ w) (ha : ¬ (x :: w) <:+: a)
    (hz : ¬ (x :: w) <:+: z) (h : a ++ (x :: w ++ z) = v ++ (x :: w ++ y)) : a = v := by
  rcases List.append_eq_append_iff.mp h with ⟨s, rfl, hs⟩ | ⟨s, rfl, hs⟩
  · cases s with
    | nil => exact (List.append_nil a).symm
    | cons c s =>
      -- The second occurrence begins later, either within the first one or behind it.
      exfalso
      have hrest : w ++ z = s ++ (x :: w ++ y) := (List.cons.inj hs).2
      rcases List.append_eq_append_iff.mp hrest with ⟨u, rfl, hu⟩ | ⟨u, rfl, hu⟩
      · exact hz ⟨u, y, by rw [hu, List.append_assoc]⟩
      · cases u with
        | nil => exact hz ⟨[], y, by simpa using hu⟩
        | cons d u =>
          obtain rfl : x = d := (List.cons.inj hu).1
          exact hx (by simp)
  · cases s with
    | nil => exact List.append_nil v
    | cons c s =>
      exfalso
      have hc : x = c := (List.cons.inj hs).1
      have hrest : w ++ y = s ++ (x :: w ++ z) := (List.cons.inj hs).2
      rcases List.append_eq_append_iff.mp hrest with ⟨u, rfl, hu⟩ | ⟨u, rfl, hu⟩
      · exact ha ⟨v, u, by rw [hc]; simp⟩
      · cases u with
        | nil => exact ha ⟨v, [], by rw [hc]; simp⟩
        | cons d u =>
          obtain rfl : x = d := (List.cons.inj hu).1
          exact hx (by simp)

theorem not_infix_append_of_not_mem {x : Char} (ha : x ∉ a) (hz : ¬ (x :: w) <:+: z) :
    ¬ (x :: w) <:+: a ++ z := by
  rintro ⟨v, y, h⟩
  rw [List.append_assoc] at h
  rcases List.append_eq_append_iff.mp h with ⟨s, rfl, hs⟩ | ⟨s, rfl, hs⟩
  · cases s with
    | nil => exact hz ⟨[], y, by simpa using hs⟩
    | cons c s =>
      obtain rfl : x = c := (List.cons.inj hs).1
      exact ha (by simp)
  · exact hz ⟨s, y, by rw [hs, List.append_assoc]⟩

namespace BeginsWithWord

theorem begins (h : p.BeginsWithWord w) : p.Begins w := by
  intro b t found hne
  obtain ⟨x, z, rfl, -⟩ := h.shape hne
  exact List.prefix_append w (x :: z)

theorem quiet_of_free (h : p.BeginsWithWord w) (ha : free w a = true) : Quiet p b a :=
  Pattern.quiet_of_free h.begins ha

/-- Text without blanks, up to a mark that is no part of a word. -/
theorem quiet_dense (h : p.BeginsWithWord w) {c : Char} (ha : ∀ x ∈ a, Text.isBlank x = false)
    (hc : Text.isBlank c = false) (hword : Text.isWord c = false) : Quiet p b (a ++ [c]) := by
  have hrefuse : ∀ v, (∀ x ∈ v, Text.isBlank x = false) →
      ∀ b z found, p.runs ⟨b, v ++ [c] ++ z⟩ found = [] := by
    intro v hv b z found
    refine Classical.byContradiction fun hne => ?_
    obtain ⟨x, y, heq, hx⟩ := h.shape hne
    have hcw : c ∉ w := by
      intro hmem
      rw [h.word c hmem] at hword
      exact absurd hword (by simp)
    -- Either the word reaches `c` and has it in it, or a blank follows it within the stretch.
    rcases List.append_eq_append_iff.mp heq with ⟨s, hs, -⟩ | ⟨s, hs, htail⟩
    · exact hcw (by rw [hs]; simp)
    · cases s with
      | nil => exact hcw (by rw [← List.append_nil w, ← hs]; simp)
      | cons d s =>
        have hd : x = d := (List.cons.inj htail).1
        have hmem : x ∈ v ++ [c] := by
          rw [hs, hd]
          simp
        have hblank : Text.isBlank x = false := by
          rcases List.mem_append.mp hmem with hmem | hmem
          · exact hv x hmem
          · rw [List.mem_singleton.mp hmem]
            exact hc
        rw [hx] at hblank
        exact absurd hblank (by simp)
  induction a generalizing b with
  | nil =>
    refine ⟨fun z found => hrefuse [] (by simp) b z found, quiet_nil⟩
  | cons x a ih =>
    refine ⟨fun z found => hrefuse (x :: a) ha b z found, ih fun y hy => ?_⟩
    exact ha y (List.mem_cons_of_mem x hy)

/-- Text without blanks before fixed text that begins with such a mark. -/
theorem quiet_dense_append (h : p.BeginsWithWord w) (ha : ∀ x ∈ a, Text.isBlank x = false)
    (hv : v.head?.any (fun c => !Text.isBlank c && !Text.isWord c) = true)
    (hfree : free w v = true) : Quiet p b (a ++ v) := by
  cases v with
  | nil => simp at hv
  | cons c v =>
    simp only [List.head?_cons, Option.any_some, Bool.and_eq_true, Bool.not_eq_true'] at hv
    rw [free, Bool.and_eq_true] at hfree
    have hsplit : a ++ c :: v = (a ++ [c]) ++ v := by simp
    rw [hsplit]
    exact (h.quiet_dense ha hv.1 hv.2).append (h.quiet_of_free hfree.2)

/-- Text without blanks before fixed text that begins with one. The word may end there, so it matters
    that the pattern refuses what follows. -/
theorem quiet_before_blank (h : p.BeginsWithWord w) (ha : ∀ x ∈ a, Text.isBlank x = false)
    (hv : v.head?.any Text.isBlank = true)
    (hrefuse : ∀ {b z found}, p.runs ⟨b, w ++ (v ++ z)⟩ found = []) (hfree : free w v = true) :
    Quiet p b (a ++ v) := by
  have hword : ∀ x ∈ w, Text.isBlank x = false := by
    intro x hx
    exact Text.not_isBlank_of_isWord (h.word x hx)
  cases v with
  | nil => simp at hv
  | cons y v =>
    have hy : Text.isBlank y = true := hv
    induction a generalizing b with
    | nil => exact h.quiet_of_free hfree
    | cons x a ih =>
      refine ⟨fun z found => ?_, ih fun u hu => ha u (List.mem_cons_of_mem x hu)⟩
      refine Classical.byContradiction fun hne => ?_
      obtain ⟨y', z', heq, hy'⟩ := h.shape hne
      -- What stands before the first blank is the word on the one side and the name on the other.
      have hsplit : x :: a ++ y :: (v ++ z) = w ++ y' :: z' := by
        rw [← heq]
        simp
      have hsame : x :: a = w :=
        eq_of_append_stops (!Text.isBlank ·) (by simpa using ha) (by simpa using hword)
          (by simp [Stops, hy]) (by simp [Stops, hy']) hsplit
      apply hne
      show p.runs ⟨b, (x :: a ++ y :: v) ++ z⟩ found = []
      rw [hsame, List.append_assoc]
      exact hrefuse

end BeginsWithWord

end Pattern
end EntityDiagram
