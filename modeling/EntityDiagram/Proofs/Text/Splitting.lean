import EntityDiagram.Text.Basic

/-!
# Cutting and joining

Cutting a text at a separator and joining pieces with it undo each other: the one way always
(`join_split`), the other way for pieces without the separator (`split_join`). So a text that is put
together from such pieces says what they were, and no two lists of them make the same text. Pieces
that are each *ended* by the separator, as lines are by a line feed, are read back in the same way
(`split_flatMap`).

A character also parts what stands on its two sides for any search that is not for the character itself:
what begins or occurs across it would have it (`prefix_of_prefix_append_cons`).
-/

namespace EntityDiagram

namespace Text

variable {c : Char} {t u piece : Text} {front back pieces : List Text}

/-! ## Across a character -/

/-- What a text begins with stands before any character that it does not have. -/
theorem prefix_of_prefix_append_cons {a w : Text} (h : w <+: a ++ c :: t) (hc : c ∉ w) : w <+: a := by
  obtain ⟨z, heq⟩ := h
  rcases List.append_eq_append_iff.mp heq with ⟨s, rfl, -⟩ | ⟨s, rfl, hs⟩
  · exact List.prefix_append w s
  · cases s with
    | nil => exact ⟨[], by rw [List.append_nil, List.append_nil]⟩
    | cons d s =>
      obtain rfl : c = d := (List.cons.inj hs).1
      exact absurd (List.mem_append_right a List.mem_cons_self) hc

/-- And what occurs in a text stands on one side of such a character. -/
theorem infix_append_cons {a w : Text} (h : w <:+: a ++ c :: t) (hc : c ∉ w) :
    w <:+: a ∨ w <:+: c :: t := by
  obtain ⟨v, y, heq⟩ := h
  rw [List.append_assoc] at heq
  rcases List.append_eq_append_iff.mp heq with ⟨s, rfl, hs⟩ | ⟨s, rfl, hs⟩
  · left
    have hprefix : w <+: s := prefix_of_prefix_append_cons ⟨y, hs⟩ hc
    exact hprefix.isInfix.trans (List.suffix_append v s).isInfix
  · right
    exact ⟨s, y, by rw [hs, List.append_assoc]⟩

/-! ## Cutting -/

theorem split_ne_nil : split c t ≠ [] := by
  cases t with
  | nil => simp [split]
  | cons d t =>
    unfold split
    split
    · simp
    · split <;> simp

theorem split_cons_of_ne {d : Char} (h : d ≠ c) : ∃ first rest,
    split c t = first :: rest ∧ split c (d :: t) = (d :: first) :: rest := by
  cases hs : split c t with
  | nil => exact absurd hs split_ne_nil
  | cons first rest => exact ⟨first, rest, rfl, by simp [split, h, hs]⟩

theorem not_mem_of_mem_split (h : piece ∈ split c t) : c ∉ piece := by
  induction t generalizing piece with
  | nil =>
    simp only [split, List.mem_singleton] at h
    simp [h]
  | cons d t ih =>
    by_cases hd : d = c
    · subst hd
      simp only [split, beq_self_eq_true, if_true, List.mem_cons] at h
      rcases h with rfl | h
      · simp
      · exact ih h
    · obtain ⟨first, rest, hs, hcons⟩ := split_cons_of_ne (t := t) hd
      rw [hs] at ih
      rw [hcons] at h
      rcases List.mem_cons.mp h with rfl | h
      · simp [Ne.symm hd, ih List.mem_cons_self]
      · exact ih (List.mem_cons_of_mem _ h)

theorem split_eq_singleton (h : c ∉ t) : split c t = [t] := by
  induction t with
  | nil => rfl
  | cons d t ih =>
    simp only [List.mem_cons, not_or] at h
    simp [split, Ne.symm h.1, ih h.2]

theorem split_append (h : c ∉ piece) : split c (piece ++ c :: t) = piece :: split c t := by
  induction piece with
  | nil => simp [split]
  | cons d piece ih =>
    simp only [List.mem_cons, not_or] at h
    simp [split, Ne.symm h.1, ih h.2]

theorem join_cons (separator : Text) (h : pieces ≠ []) :
    join separator (piece :: pieces) = piece ++ separator ++ join separator pieces := by
  cases pieces with
  | nil => exact absurd rfl h
  | cons _ _ => rfl

/-- Cutting at a separator undoes joining with it. -/
theorem split_join (hne : pieces ≠ []) (h : ∀ piece ∈ pieces, c ∉ piece) :
    split c (join [c] pieces) = pieces := by
  induction pieces with
  | nil => exact absurd rfl hne
  | cons piece rest ih =>
    have hpiece : c ∉ piece := h piece List.mem_cons_self
    by_cases hrest : rest = []
    · subst hrest
      exact split_eq_singleton hpiece
    · rw [join_cons [c] hrest, List.append_assoc, List.singleton_append, split_append hpiece,
        ih hrest fun q hq => h q (List.mem_cons_of_mem _ hq)]

/-- Joining with a separator undoes cutting at it. -/
theorem join_split (c : Char) (t : Text) : join [c] (split c t) = t := by
  induction t with
  | nil => rfl
  | cons d t ih =>
    by_cases hd : d = c
    · subst hd
      have hcut : split d (d :: t) = [] :: split d t := by simp [split]
      rw [hcut, join_cons [d] split_ne_nil, ih]
      rfl
    · obtain ⟨first, rest, hs, hcons⟩ := split_cons_of_ne (t := t) hd
      rw [hs] at ih
      rw [hcons]
      cases rest with
      | nil => simpa [join] using ih
      | cons _ _ => simpa [join] using ih

theorem split_injective (h : split c t = split c u) : t = u := by
  rw [← join_split c t, h, join_split]

/-- Pieces ended by the separator are cut apart again, with nothing left behind the last. -/
theorem split_flatMap (h : ∀ piece ∈ pieces, c ∉ piece) :
    split c (pieces.flatMap (· ++ [c])) = pieces ++ [[]] := by
  induction pieces with
  | nil => rfl
  | cons piece rest ih =>
    rw [List.flatMap_cons, List.append_assoc, List.singleton_append,
      split_append (h piece List.mem_cons_self), ih fun q hq => h q (List.mem_cons_of_mem _ hq)]
    rfl

theorem join_append (separator : Text) (hfront : front ≠ []) (hback : back ≠ []) :
    join separator (front ++ back) = join separator front ++ separator ++ join separator back := by
  induction front with
  | nil => exact absurd rfl hfront
  | cons piece rest ih =>
    rw [List.cons_append]
    by_cases hrest : rest = []
    · subst hrest
      exact join_cons separator hback
    · rw [join_cons separator hrest, join_cons separator (by simp [hrest]), ih hrest]
      simp only [List.append_assoc]

end Text

end EntityDiagram
