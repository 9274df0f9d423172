import EntityDiagram.Text.Blank
import Mathlib.Data.List.TakeWhile

/-!
# Stripping, and the last segment

Stripping takes white space from both ends of a text and nothing else, and it leaves a text without any
there (`strip_eq_iff`). The last segment of a text is what stands behind the last separator, or all of it
(`afterLast_eq_iff`). Both are said by what the text is put together from, which is how the proofs use
them.
-/

namespace EntityDiagram

namespace Text

variable {a t u w z : Text} {c : Char}

/-! ## Stripping -/

/-- No white space at either end. -/
structure Stripped (t : Text) : Prop where
  head : t.head?.any isBlank = false
  last : t.getLast?.any isBlank = false

theorem stripped_of_not_blank (h : ∀ c ∈ t, isBlank c = false) : Stripped t where
  head := by
    cases hhead : t.head? with
    | none => rfl
    | some c => exact h c (List.mem_of_head? hhead)
  last := by
    cases hlast : t.getLast? with
    | none => rfl
    | some c => exact h c (List.mem_of_getLast? hlast)

theorem dropWhile_eq_self {test : Char → Bool} (h : t.head?.any test = false) :
    t.dropWhile test = t := by
  cases t with
  | nil => rfl
  | cons c t =>
    have hc : test c = false := h
    rw [List.dropWhile_cons, hc]
    rfl

theorem head?_dropWhile (test : Char → Bool) (t : Text) :
    (t.dropWhile test).head?.any test = false := by
  have h := List.head?_dropWhile_not test t
  cases hhead : (t.dropWhile test).head? with
  | none => rfl
  | some c =>
    rw [hhead] at h
    exact h

theorem strip_of_stripped (h : Stripped t) : strip t = t := by
  have hreverse : t.reverse.head?.any isBlank = false := by
    rw [List.head?_reverse]
    exact h.last
  unfold strip dropEnd
  rw [dropWhile_eq_self h.head, dropWhile_eq_self hreverse, List.reverse_reverse]

theorem strip_eq_self (h : ∀ c ∈ t, isBlank c = false) : strip t = t :=
  strip_of_stripped (stripped_of_not_blank h)

/-- White space before a text is stripped off. -/
theorem strip_blank_append (hw : ∀ c ∈ w, isBlank c = true) : strip (w ++ t) = strip t := by
  unfold strip
  rw [List.dropWhile_append_of_pos hw]

/-- And so is white space behind it. -/
theorem strip_append_blank (hw : ∀ c ∈ w, isBlank c = true) : strip (t ++ w) = strip t := by
  have hreverse : ∀ c ∈ w.reverse, isBlank c = true := by
    intro c hc
    exact hw c (List.mem_reverse.mp hc)
  have hall : w.dropWhile isBlank = [] := List.dropWhile_eq_nil_iff.mpr hw
  unfold strip dropEnd
  rw [List.dropWhile_append]
  split
  · next hnil => rw [hall, List.isEmpty_iff.mp hnil]
  · rw [List.reverse_append, List.dropWhile_append_of_pos hreverse]

/-- Nothing else is. -/
theorem exists_eq_append_strip (t : Text) : ∃ w z, (∀ c ∈ w, isBlank c = true)
    ∧ (∀ c ∈ z, isBlank c = true) ∧ t = w ++ (strip t ++ z) := by
  let u := t.dropWhile isBlank
  refine ⟨t.takeWhile isBlank, (u.reverse.takeWhile isBlank).reverse,
    fun c hc => List.mem_takeWhile_imp hc,
    fun c hc => List.mem_takeWhile_imp (List.mem_reverse.mp hc), ?_⟩
  have hu : strip t ++ (u.reverse.takeWhile isBlank).reverse = u := by
    unfold strip dropEnd
    rw [← List.reverse_append, List.takeWhile_append_dropWhile, List.reverse_reverse]
  rw [hu, List.takeWhile_append_dropWhile]

theorem mem_of_mem_strip (h : c ∈ strip t) : c ∈ t := by
  obtain ⟨w, z, -, -, heq⟩ := exists_eq_append_strip t
  rw [heq]
  exact List.mem_append_right w (List.mem_append_left z h)

theorem mem_strip (h : c ∈ t) (hc : isBlank c = false) : c ∈ strip t := by
  obtain ⟨w, z, hw, hz, heq⟩ := exists_eq_append_strip t
  rw [heq, List.mem_append, List.mem_append] at h
  rcases h with h | h | h
  · rw [hw c h] at hc
    exact absurd hc (by simp)
  · exact h
  · rw [hz c h] at hc
    exact absurd hc (by simp)

theorem stripped_strip (t : Text) : Stripped (strip t) := by
  have hlast : (strip t).getLast?.any isBlank = false := by
    unfold strip dropEnd
    rw [List.getLast?_reverse]
    exact head?_dropWhile isBlank _
  refine ⟨?_, hlast⟩
  -- What is left begins with the first character that is not blank, unless nothing is left.
  have hfirst : (t.dropWhile isBlank).head?.any isBlank = false := head?_dropWhile isBlank t
  have hu : strip t ++ ((t.dropWhile isBlank).reverse.takeWhile isBlank).reverse
      = t.dropWhile isBlank := by
    unfold strip dropEnd
    rw [← List.reverse_append, List.takeWhile_append_dropWhile, List.reverse_reverse]
  cases hstrip : strip t with
  | nil => rfl
  | cons c s =>
    rw [← hu, hstrip] at hfirst
    exact hfirst

theorem strip_eq_iff : strip t = u ↔ Stripped u ∧ ∃ w z, (∀ c ∈ w, isBlank c = true)
    ∧ (∀ c ∈ z, isBlank c = true) ∧ t = w ++ (u ++ z) := by
  constructor
  · rintro rfl
    exact ⟨stripped_strip t, exists_eq_append_strip t⟩
  · rintro ⟨hu, w, z, hw, hz, rfl⟩
    rw [strip_blank_append hw, strip_append_blank hz, strip_of_stripped hu]

/-! ## The last segment -/

theorem afterLast_eq_self (h : c ∉ t) : afterLast c t = t := by
  cases t with
  | nil => rfl
  | cons x t => simp [afterLast, h]

theorem afterLast_append_of_mem (a : Text) (h : c ∈ t) : afterLast c (a ++ t) = afterLast c t := by
  induction a with
  | nil => rfl
  | cons x a ih =>
    rw [List.cons_append, afterLast, if_pos (by simp [h]), ih]

theorem afterLast_append (a : Text) (h : c ∉ t) : afterLast c (a ++ c :: t) = t := by
  rw [afterLast_append_of_mem a List.mem_cons_self, afterLast, if_pos (by simp),
    afterLast_eq_self h]

theorem afterLast_append_of_not_mem (h : c ∉ z) : afterLast c (a ++ z) = afterLast c a ++ z := by
  induction a with
  | nil => exact afterLast_eq_self h
  | cons x a ih =>
    have hcontains : (x :: (a ++ z)).contains c = (x :: a).contains c := by
      simp [h]
    rw [List.cons_append, afterLast, afterLast, hcontains, ih]
    split <;> rfl

/-- The last segment stands at the beginning or behind a separator. -/
theorem exists_eq_append_afterLast (c : Char) (t : Text) : c ∉ afterLast c t
    ∧ ∃ front, t = front ++ afterLast c t ∧ (front = [] ∨ front.getLast? = some c) := by
  induction t with
  | nil => exact ⟨List.not_mem_nil, [], rfl, .inl rfl⟩
  | cons x t ih =>
    by_cases h : c ∈ x :: t
    · obtain ⟨hno, front, heq, hfront⟩ := ih
      rw [afterLast, if_pos (by simpa using h)]
      refine ⟨hno, x :: front, by rw [List.cons_append, ← heq], .inr ?_⟩
      rcases hfront with rfl | hfront
      · -- There is no separator behind the first character, so it is the separator itself.
        rw [List.nil_append] at heq
        rw [heq, List.mem_cons] at h
        rw [List.getLast?_singleton, h.resolve_right hno]
      · rw [List.getLast?_cons, hfront]
        rfl
    · rw [afterLast_eq_self h]
      exact ⟨h, [], rfl, .inl rfl⟩

theorem afterLast_eq_iff : afterLast c t = u ↔ c ∉ u
    ∧ ∃ front, t = front ++ u ∧ (front = [] ∨ front.getLast? = some c) := by
  constructor
  · rintro rfl
    exact exists_eq_append_afterLast c t
  · rintro ⟨hu, front, rfl, rfl | hfront⟩
    · exact afterLast_eq_self hu
    · obtain ⟨front, rfl⟩ := List.getLast?_eq_some_iff.mp hfront
      rw [List.append_assoc]
      exact afterLast_append front hu

end Text

end EntityDiagram
