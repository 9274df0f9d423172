import Mathlib.Data.Char
import Mathlib.Data.List.Lex
import Mathlib.Data.List.Nodup
import EntityDiagram.Text.Basic

/-!
# The order of texts

`Text.atMost` compares two texts character by character. It is nothing but the lexicographic order on
lists of characters, characters being ordered by their code points (`atMost_iff_le`), and so it has
all that a linear order has.

The same holds of sequences of texts and `Text.atMostPiecewise`, the order in which paths are compared
name by name (`atMostPiecewise_iff_le`).

What is needed of it is a fact about sorting. Sorting by a text that belongs to each item forgets the
order in which the items came, provided that no two items have the same text (`sortBy_eq_of_perm`),
and then the sorted texts strictly increase (`pairwise_lt_sortBy`).
-/

namespace EntityDiagram
namespace Text

/-- **The order by code point** is the lexicographic one. -/
theorem atMost_iff_le (a b : Text) : atMost a b = true ↔ a ≤ b := by
  rw [← not_lt]
  induction a generalizing b with
  | nil => simp [atMost]
  | cons c rest ih =>
    cases b with
    | nil => simp [atMost]
    | cons d rest' =>
      rw [List.cons_lt_cons_iff, atMost]
      by_cases hcd : c = d
      · subst hcd
        simp [ih]
      · have hlt : c.toNat < d.toNat ↔ c < d := Iff.rfl
        have hdc : d ≠ c := fun h => hcd h.symm
        simp [hcd, hdc, hlt, lt_iff_le_and_ne]

/-- **The order piece by piece** is the lexicographic one, too. -/
theorem atMostPiecewise_iff_le (a b : List Text) : atMostPiecewise a b = true ↔ a ≤ b := by
  rw [← not_lt]
  induction a generalizing b with
  | nil => simp [atMostPiecewise]
  | cons piece rest ih =>
    cases b with
    | nil => simp [atMostPiecewise]
    | cons other rest' =>
      rw [List.cons_lt_cons_iff, atMostPiecewise]
      by_cases hpiece : piece = other
      · subst hpiece
        simp [ih]
      · have hother : other ≠ piece := fun h => hpiece h.symm
        simp [hpiece, hother, atMost_iff_le]

/-! ## Sorting -/

/-- Sorting forgets the order in which the items came, if the order tells all of them apart. -/
theorem mergeSort_eq_of_perm {α : Type} {le : α → α → Bool} {xs ys : List α}
    (trans : ∀ a b c, le a b = true → le b c = true → le a c = true)
    (total : ∀ a b, (le a b || le b a) = true)
    (antisymm : ∀ a ∈ xs, ∀ b ∈ xs, le a b = true → le b a = true → a = b) (h : xs.Perm ys) :
    xs.mergeSort le = ys.mergeSort le := by
  have hperm : (xs.mergeSort le).Perm (ys.mergeSort le) :=
    (List.mergeSort_perm xs le).trans (h.trans (List.mergeSort_perm ys le).symm)
  refine hperm.eq_of_pairwise ?_ (List.pairwise_mergeSort trans total xs)
    (List.pairwise_mergeSort trans total ys)
  intro a b ha hb
  exact antisymm a (List.mem_mergeSort.mp ha) b (h.mem_iff.mpr (List.mem_mergeSort.mp hb))

section SortBy

variable {α : Type} {key : α → Text} {xs ys : List α}

/-- The items in the order of the texts that belong to them. -/
def sortBy (key : α → Text) (xs : List α) : List α :=
  xs.mergeSort fun a b => atMost (key a) (key b)

theorem sortBy_perm (key : α → Text) (xs : List α) : (sortBy key xs).Perm xs :=
  List.mergeSort_perm xs _

theorem atMost_trans (a b c : Text) (hab : atMost a b = true) (hbc : atMost b c = true) :
    atMost a c = true := by
  rw [atMost_iff_le] at hab hbc ⊢
  exact le_trans hab hbc

theorem atMost_total (a b : Text) : (atMost a b || atMost b a) = true := by
  rw [Bool.or_eq_true, atMost_iff_le, atMost_iff_le]
  exact le_total a b

theorem pairwise_le_sortBy (key : α → Text) (xs : List α) :
    (sortBy key xs).Pairwise fun a b => key a ≤ key b := by
  have hsorted : (sortBy key xs).Pairwise fun a b => atMost (key a) (key b) = true :=
    List.pairwise_mergeSort (fun a b c => atMost_trans (key a) (key b) (key c))
      (fun a b => atMost_total (key a) (key b)) xs
  exact hsorted.imp fun h => (atMost_iff_le _ _).mp h

/-- Sorting forgets the order in which items with different texts came. -/
theorem sortBy_eq_of_perm (hdistinct : (xs.map key).Nodup) (h : xs.Perm ys) :
    sortBy key xs = sortBy key ys := by
  refine mergeSort_eq_of_perm (fun a b c => atMost_trans (key a) (key b) (key c))
    (fun a b => atMost_total (key a) (key b)) ?_ h
  intro a ha b hb hab hba
  rw [atMost_iff_le] at hab hba
  exact List.inj_on_of_nodup_map hdistinct ha hb (le_antisymm hab hba)

theorem pairwise_lt_sortBy (hdistinct : (xs.map key).Nodup) :
    (sortBy key xs).Pairwise fun a b => key a < key b := by
  have hne : (sortBy key xs).Pairwise fun a b => key a ≠ key b := by
    rw [← List.pairwise_map (f := key) (R := (· ≠ ·))]
    exact ((sortBy_perm key xs).map key).nodup_iff.mpr hdistinct
  exact ((pairwise_le_sortBy key xs).and hne).imp fun h => lt_of_le_of_ne h.1 h.2

end SortBy

end Text
end EntityDiagram
