import EntityDiagram.Naming
import Mathlib.Data.List.Infix

/-!
# Which words share a plural

Two models whose names have the same plural stand for the same table. The rules on endings make that
happen in two ways only: `bus` and `buse` both become `buses`, and `city` and `citie` both become
`cities`. `Merges` says for which words. That there are no others (`regularPlural_eq_iff`) is read off
the plural: where two rules gave it, the shorter ending leaves part of the longer one on its word, and
that part says which rules they were.

The table of irregular plurals is read before the rules, and could add to this. Four of its seven
entries are what the rules give anyway (`pluralize_of_regular`), two have plurals that do not end in
`s` as every other does, and what remains is `analysis`, whose plural is also that of `analys` and
`analyse`.
-/

namespace EntityDiagram
namespace Naming

variable {a b word stem : Text}

/-! ## Endings -/

/-- The word ends in one of the sounds that ask for a full syllable. -/
def Sibilant (word : Text) : Prop :=
  ∃ ending ∈ (["s", "x", "z", "ch", "sh"] : List Text), ending <:+ word

/-- The word ends in a vowel and `y`. -/
def VowelY (word : Text) : Prop :=
  ∃ ending ∈ (["ay", "ey", "iy", "oy", "uy"] : List Text), ending <:+ word

instance (word : Text) : Decidable (Sibilant word) := by
  unfold Sibilant
  infer_instance

instance (word : Text) : Decidable (VowelY word) := by
  unfold VowelY
  infer_instance

theorem endsInSibilant_iff : endsInSibilant word = true ↔ Sibilant word := by
  simp only [endsInSibilant, Sibilant, List.any_eq_true, List.isSuffixOf_iff_suffix]

theorem endsInVowelY_iff : endsInVowelY word = true ↔ VowelY word := by
  simp only [endsInVowelY, VowelY, List.any_eq_true, List.isSuffixOf_iff_suffix]

/-- By its last letter a word that ends in a sibilant is told from one that ends in a vowel or `y`. -/
theorem Sibilant.last {c : Char} (h : Sibilant (stem ++ [c])) : c ∈ ("sxzh" : Text) := by
  obtain ⟨ending, hending, front, heq⟩ := h
  have hlast : ending.getLast? = some c := by
    have hne : ending ≠ [] := by
      rintro rfl
      exact absurd hending (by decide)
    rw [← List.getLast?_append_of_ne_nil front hne, heq, List.getLast?_concat]
  have hall : ∀ e ∈ (["s", "x", "z", "ch", "sh"] : List Text),
      e.getLast?.all ("sxzh" : Text).contains = true := by
    decide
  have hc := hall ending hending
  rw [hlast] at hc
  exact List.contains_iff_mem.mp hc

theorem not_sibilant_snoc {c : Char} (hc : c ∉ ("sxzh" : Text)) : ¬ Sibilant (stem ++ [c]) :=
  fun h => hc h.last

/-- The words that lose their `y`. -/
def ConsonantY (word : Text) : Prop := ("y" : Text) <:+ word ∧ ¬ VowelY word

theorem ConsonantY.exists_stem (h : ConsonantY word) : ∃ stem, word = stem ++ ("y" : Text) := by
  obtain ⟨stem, heq⟩ := h.1
  exact ⟨stem, heq.symm⟩

theorem not_consonantY_snoc {c : Char} (hc : c ≠ 'y') : ¬ ConsonantY (stem ++ [c]) := by
  intro h
  obtain ⟨front, heq⟩ := h.exists_stem
  exact hc (List.append_inj_right' heq rfl |> List.singleton_inj.mp)

theorem Sibilant.not_consonantY (h : Sibilant word) : ¬ ConsonantY word := by
  intro hy
  obtain ⟨stem, rfl⟩ := hy.exists_stem
  exact absurd h.last (by decide)

/-! ## The rules -/

/-- The plural by the rules on endings alone. -/
def regularPlural (word : Text) : Text :=
  if ("y" : Text).isSuffixOf word && !endsInVowelY word then word.dropLast ++ ("ies" : Text)
  else if endsInSibilant word then word ++ ("es" : Text)
  else word ++ ("s" : Text)

theorem consonantY_iff :
    (("y" : Text).isSuffixOf word && !endsInVowelY word) = true ↔ ConsonantY word := by
  rw [Bool.and_eq_true, List.isSuffixOf_iff_suffix, Bool.not_eq_true', Bool.eq_false_iff, ne_eq,
    endsInVowelY_iff, ConsonantY]

theorem regularPlural_consonantY (h : ConsonantY (stem ++ ("y" : Text))) :
    regularPlural (stem ++ ("y" : Text)) = stem ++ ("ies" : Text) := by
  rw [regularPlural, if_pos (consonantY_iff.mpr h)]
  exact congrArg (· ++ ("ies" : Text)) (List.dropLast_concat)

theorem regularPlural_sibilant (h : Sibilant word) : regularPlural word = word ++ ("es" : Text) := by
  rw [regularPlural, if_neg (consonantY_iff.not.mpr h.not_consonantY),
    if_pos (endsInSibilant_iff.mpr h)]

theorem regularPlural_usual (hy : ¬ ConsonantY word) (hs : ¬ Sibilant word) :
    regularPlural word = word ++ ("s" : Text) := by
  rw [regularPlural, if_neg (consonantY_iff.not.mpr hy), if_neg (endsInSibilant_iff.not.mpr hs)]

/-- Which of the rules a word is for, and what comes of it. -/
theorem regularPlural_cases (word : Text) :
    (∃ stem, word = stem ++ ("y" : Text) ∧ ConsonantY word
        ∧ regularPlural word = stem ++ ("ies" : Text))
      ∨ Sibilant word ∧ regularPlural word = word ++ ("es" : Text)
      ∨ ¬ ConsonantY word ∧ ¬ Sibilant word ∧ regularPlural word = word ++ ("s" : Text) := by
  by_cases hy : ConsonantY word
  · obtain ⟨stem, rfl⟩ := hy.exists_stem
    exact .inl ⟨stem, rfl, hy, regularPlural_consonantY hy⟩
  · by_cases hs : Sibilant word
    · exact .inr (.inl ⟨hs, regularPlural_sibilant hs⟩)
    · exact .inr (.inr ⟨hy, hs, regularPlural_usual hy hs⟩)

/-- A word with an `e` behind it has an `s` put behind that. -/
theorem regularPlural_e (stem : Text) :
    regularPlural (stem ++ ("e" : Text)) = stem ++ ("es" : Text) := by
  have husual : regularPlural (stem ++ ['e']) = stem ++ ['e'] ++ ("s" : Text) :=
    regularPlural_usual (not_consonantY_snoc (by decide)) (not_sibilant_snoc (by decide))
  exact husual.trans (List.append_assoc stem _ _)

/-! ## What the rules merge -/

/-- The second word is another one with the same plural by the rules: the first ends in a sibilant
    and the second has an `e` behind that, or the first has a `y` after a consonant where the second
    has `ie`. -/
inductive Merges : Text → Text → Prop where
  | sibilant {word : Text} : Sibilant word → Merges word (word ++ ("e" : Text))
  | consonantY {stem : Text} : ¬ VowelY (stem ++ ("y" : Text)) →
      Merges (stem ++ ("y" : Text)) (stem ++ ("ie" : Text))

theorem Merges.regularPlural_eq (h : Merges a b) : regularPlural a = regularPlural b := by
  cases h with
  | sibilant hs => rw [regularPlural_sibilant hs, regularPlural_e]
  | @consonantY stem hy =>
    have hie : regularPlural (stem ++ ("i" : Text) ++ ("e" : Text))
        = stem ++ ("i" : Text) ++ ("es" : Text) := regularPlural_e _
    rw [List.append_assoc, List.append_assoc] at hie
    exact (regularPlural_consonantY ⟨List.suffix_append stem _, hy⟩).trans hie.symm

/-- The longer plurals: where both have the ending `es`, the word that had nothing else put behind it
    ends in `i`, and that is no sibilant. -/
theorem not_sibilant_of_ies (h : stem ++ ("ies" : Text) = word ++ ("es" : Text)) :
    ¬ Sibilant word := by
  have hi : stem ++ ("i" : Text) ++ ("es" : Text) = word ++ ("es" : Text) := by
    rw [List.append_assoc]
    exact h
  rw [← List.append_cancel_right hi]
  exact not_sibilant_snoc (by decide)

/-- The shortest one: what was put behind the other word besides an `s` is what it lacks. -/
theorem merges_of_usual (h : regularPlural a = b ++ ("s" : Text)) (hne : a ≠ b) : Merges a b := by
  rcases regularPlural_cases a with ⟨stem, rfl, hy, heq⟩ | ⟨hs, heq⟩ | ⟨-, -, heq⟩
  · have hie : stem ++ ("ie" : Text) ++ ("s" : Text) = b ++ ("s" : Text) := by
      rw [List.append_assoc]
      exact heq.symm.trans h
    rw [← List.append_cancel_right hie]
    exact .consonantY hy.2
  · have he : a ++ ("e" : Text) ++ ("s" : Text) = b ++ ("s" : Text) := by
      rw [List.append_assoc]
      exact heq.symm.trans h
    rw [← List.append_cancel_right he]
    exact .sibilant hs
  · exact absurd (List.append_cancel_right (heq.symm.trans h)) hne

/-- **By the rules alone** two words share a plural in the two ways and no other. -/
theorem regularPlural_eq_iff :
    regularPlural a = regularPlural b ↔ a = b ∨ Merges a b ∨ Merges b a := by
  constructor
  · intro h
    by_cases hne : a = b
    · exact .inl hne
    right
    rcases regularPlural_cases a with ⟨stem, rfl, -, ha⟩ | ⟨hs, ha⟩ | ⟨-, -, ha⟩
    · rcases regularPlural_cases b with ⟨other, rfl, -, hb⟩ | ⟨hs, hb⟩ | ⟨-, -, hb⟩
      · have hstem : stem = other := List.append_cancel_right (ha.symm.trans (h.trans hb))
        exact absurd (hstem ▸ rfl) hne
      · exact absurd hs (not_sibilant_of_ies (ha.symm.trans (h.trans hb)))
      · exact .inl (merges_of_usual (h.trans hb) hne)
    · rcases regularPlural_cases b with ⟨other, rfl, -, hb⟩ | ⟨-, hb⟩ | ⟨-, -, hb⟩
      · exact absurd hs (not_sibilant_of_ies (hb.symm.trans (h.symm.trans ha)))
      · exact absurd (List.append_cancel_right (ha.symm.trans (h.trans hb))) hne
      · exact .inl (merges_of_usual (h.trans hb) hne)
    · exact .inr (merges_of_usual (h.symm.trans ha) (Ne.symm hne))
  · rintro (rfl | h | h)
    · rfl
    · exact h.regularPlural_eq
    · exact h.regularPlural_eq.symm

/-! ## The table of irregular plurals -/

/-- The words of the table whose plural the rules would not give. -/
def ownPlurals : List Text := ["person", "child", "analysis"]

theorem pluralize_of_regular (h : word ∉ ownPlurals) : pluralize word = regularPlural word := by
  by_cases hmem : word ∈ irregularPlurals.map (·.1)
  · have hall : ∀ w ∈ irregularPlurals.map (·.1), w ∉ ownPlurals →
        pluralize w = regularPlural w := by
      decide +kernel
    exact hall word hmem h
  · have hlookup : irregularPlurals.lookup word = none := by
      rw [List.lookup_eq_none_iff]
      intro x hx
      rw [bne_iff_ne]
      rintro rfl
      exact hmem (List.mem_map_of_mem hx)
    rw [pluralize, hlookup, regularPlural]

/-- Every plural that a rule gives ends in `s`. -/
theorem suffix_regularPlural (word : Text) : ("s" : Text) <:+ regularPlural word := by
  rcases regularPlural_cases word with ⟨stem, -, -, h⟩ | ⟨-, h⟩ | ⟨-, -, h⟩
  · exact h ▸ (List.suffix_append ("ie" : Text) ("s" : Text)).trans (List.suffix_append stem _)
  · exact h ▸ (List.suffix_append ("e" : Text) ("s" : Text)).trans (List.suffix_append word _)
  · exact h ▸ List.suffix_append word _

theorem regularPlural_ne (h : ¬ ("s" : Text) <:+ b) : regularPlural a ≠ b := by
  rintro rfl
  exact h (suffix_regularPlural a)

theorem regularPlural_eq_analyses_iff :
    regularPlural a = "analyses" ↔ a = "analys" ∨ a = "analyse" := by
  constructor
  · intro h
    rcases regularPlural_cases a with ⟨stem, -, -, heq⟩ | ⟨-, heq⟩ | ⟨-, -, heq⟩
    · have hies : ("ies" : Text) <:+ "analyses" := ⟨stem, heq.symm.trans h⟩
      exact absurd hies (by decide)
    · have hes : a ++ ("es" : Text) = "analys".toList ++ ("es" : Text) := heq.symm.trans h
      exact .inl (List.append_cancel_right hes)
    · have hs : a ++ ("s" : Text) = "analyse".toList ++ ("s" : Text) := heq.symm.trans h
      exact .inr (List.append_cancel_right hs)
  · rintro (rfl | rfl) <;> decide

/-! ## Shared plurals -/

/-- The second word is another one with the same plural: by the rules, unless the first is `analysis`,
    which has its plural from the table. -/
def SharesPlural (a b : Text) : Prop :=
  Merges a b ∧ a ≠ "analysis" ∨ a = "analysis" ∧ (b = "analys" ∨ b = "analyse")

/-- Of the words with a plural of their own only `analysis` ends as a word that the rules merge with
    a longer one, and none ends as the longer one. -/
theorem Merges.not_mem_ownPlurals (h : Merges a b) (hno : a ≠ "analysis") :
    a ∉ ownPlurals ∧ b ∉ ownPlurals := by
  have hfirst : ∀ w ∈ ownPlurals, w ≠ "analysis" → ¬ Sibilant w ∧ ¬ ("y" : Text) <:+ w := by
    decide
  have hsecond : ∀ w ∈ ownPlurals, ¬ ("e" : Text) <:+ w := by
    decide
  cases h with
  | sibilant hs =>
    exact ⟨fun ha => (hfirst a ha hno).1 hs, fun hb => hsecond _ hb (List.suffix_append a _)⟩
  | @consonantY stem hy =>
    refine ⟨fun ha => (hfirst _ ha hno).2 (List.suffix_append stem _), fun hb => hsecond _ hb ?_⟩
    exact (List.suffix_append ("i" : Text) ("e" : Text)).trans (List.suffix_append stem _)

theorem SharesPlural.pluralize_eq (h : SharesPlural a b) : pluralize a = pluralize b := by
  rcases h with ⟨hmerges, hno⟩ | ⟨rfl, rfl | rfl⟩
  · obtain ⟨ha, hb⟩ := hmerges.not_mem_ownPlurals hno
    rw [pluralize_of_regular ha, pluralize_of_regular hb, hmerges.regularPlural_eq]
  · decide
  · decide

theorem sharesPlural_of_mem_ownPlurals (ha : a ∈ ownPlurals) (h : pluralize a = pluralize b)
    (hne : a ≠ b) : SharesPlural a b := by
  by_cases hb : b ∈ ownPlurals
  · have hall : ∀ v ∈ ownPlurals, ∀ w ∈ ownPlurals, pluralize v = pluralize w → v = w := by
      decide
    exact absurd (hall a ha b hb h) hne
  · rw [pluralize_of_regular hb] at h
    simp only [ownPlurals, List.mem_cons, List.not_mem_nil, or_false] at ha
    rcases ha with rfl | rfl | rfl
    · exact absurd h.symm (regularPlural_ne (by decide))
    · exact absurd h.symm (regularPlural_ne (by decide))
    · exact .inr ⟨rfl, regularPlural_eq_analyses_iff.mp h.symm⟩

theorem pluralize_eq_iff :
    pluralize a = pluralize b ↔ a = b ∨ SharesPlural a b ∨ SharesPlural b a := by
  constructor
  · intro h
    by_cases hne : a = b
    · exact .inl hne
    right
    by_cases ha : a ∈ ownPlurals
    · exact .inl (sharesPlural_of_mem_ownPlurals ha h hne)
    by_cases hb : b ∈ ownPlurals
    · exact .inr (sharesPlural_of_mem_ownPlurals hb h.symm (Ne.symm hne))
    have hno : ∀ {w : Text}, w ∉ ownPlurals → w ≠ "analysis" := by
      rintro w hw rfl
      exact hw (by decide)
    rw [pluralize_of_regular ha, pluralize_of_regular hb, regularPlural_eq_iff] at h
    rcases h with rfl | h | h
    · exact absurd rfl hne
    · exact .inl (.inl ⟨h, hno ha⟩)
    · exact .inr (.inl ⟨h, hno hb⟩)
  · rintro (rfl | h | h)
    · rfl
    · exact h.pluralize_eq
    · exact h.pluralize_eq.symm

/-- Which models share a table when neither says which it has. -/
theorem defaultTableName_eq_iff {m n : Text} : defaultTableName m = defaultTableName n
    ↔ Text.lower m = Text.lower n ∨ SharesPlural (Text.lower m) (Text.lower n)
      ∨ SharesPlural (Text.lower n) (Text.lower m) := pluralize_eq_iff

/-- **Which words share a plural.** Two words do when one is the other with an `e` behind it and the
    shorter ends in `s`, `x`, `z`, `ch` or `sh` and is not `analysis`; or when they end in `y` and
    `ie` behind the same stem, where the `y` follows none of the five vowels; or when they are
    `analysis` and one of `analys` and `analyse`. What the table adds to the rules is the last. -/
theorem plurals_shared (h : a ≠ b) :
    (pluralize a = pluralize b ↔ SharesPlural a b ∨ SharesPlural b a)
      ∧ (pluralize a = pluralize b → regularPlural a ≠ regularPlural b →
        a = "analysis" ∨ b = "analysis") := by
  have hiff : pluralize a = pluralize b ↔ SharesPlural a b ∨ SharesPlural b a := by
    rw [pluralize_eq_iff, or_iff_right h]
  refine ⟨hiff, fun hplural hrules => ?_⟩
  rcases hiff.mp hplural with (⟨hmerges, -⟩ | ⟨ha, -⟩) | (⟨hmerges, -⟩ | ⟨hb, -⟩)
  · exact absurd hmerges.regularPlural_eq hrules
  · exact .inl ha
  · exact absurd hmerges.regularPlural_eq.symm hrules
  · exact .inr hb

/-- Two words that the rules merge, and two that share a plural because of the table. -/
theorem plurals_shared_analysis :
    pluralize "bus" = pluralize "buse" ∧ pluralize "analysis" = pluralize "analyse"
      ∧ regularPlural "analysis" ≠ regularPlural "analyse" := by
  have hmerges : Merges ("bus" : Text) (("bus" : Text) ++ ("e" : Text)) := .sibilant (by decide)
  have hbus := (plurals_shared (by decide)).1.mpr (.inl (.inl ⟨hmerges, by decide⟩))
  have hanalysis := (plurals_shared (by decide)).1.mpr (.inl (.inr ⟨rfl, .inr rfl⟩))
  exact ⟨hbus, hanalysis, by decide⟩

end Naming
end EntityDiagram
