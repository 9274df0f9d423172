import EntityDiagram.Proofs.Model.Names
import EntityDiagram.Proofs.Pattern.Landmarks

/-!
# Keywords in a printed file

Three of the shapes looked for begin with a keyword and a blank: an abstract class with `abstract`,
and the header of an accessor and the method that returns the casts with `function`. A printed file
may have these words in many places, since a name may be any word. This module goes through the parts
of the file and shows that none of the three can begin in them.

There are only two ways for a keyword to stand in a part. In most places a quotation mark or a
parenthesis ends the name that it is in, and the blank is missing. The name of the class is the
exception. There a blank does follow, and the shape is refused by the word behind it.
-/

namespace EntityDiagram
namespace Model

open Pattern

variable {p : Pattern} {w : Text} {b : Option Char}

/-! ## The three shapes -/

/-- A shape with a keyword of a printed file at its beginning, refused before the parent class. -/
structure KeywordShape (p : Pattern) (w : Text) : Prop extends p.BeginsWithWord w where
  keyword : w = "abstract".toList ∨ w = "function".toList
  refusesParent : ∀ {b z found},
    p.runs ⟨b, w ++ (" extends Model\n\x7b\n".toList ++ z)⟩ found = []

/-- A literal keyword and white space begin the pattern that continues with them. -/
theorem exists_of_runs_keyword {q : Pattern} {t : Text} {found : Captures}
    (h : (literal w ++ (space ++ q)).runs ⟨b, t⟩ found ≠ []) :
    ∃ x z, t = w ++ x :: z ∧ Text.isBlank x = true := by
  obtain ⟨run, hrun⟩ := List.exists_mem_of_ne_nil _ h
  simp only [mem_runs_append] at hrun
  obtain ⟨_, hkeyword, _, hspace, -⟩ := hrun
  obtain ⟨t, rfl, rfl⟩ := mem_runs_literal.mp hkeyword
  obtain ⟨x, v, z, rfl, hx, -, -⟩ := mem_runs_several.mp hspace
  exact ⟨x, v ++ z, rfl, hx⟩

theorem keywordShape_castsMethod : KeywordShape castsMethod "function".toList where
  word := List.all_eq_true.mp (by decide)
  keyword := .inr rfl
  shape := by
    intro b t found h
    unfold castsMethod at h
    simp only [runs_append_assoc] at h
    exact exists_of_runs_keyword h
  refusesParent := by
    intro b z found
    have hsplit : " extends Model\n\x7b\n".toList ++ z
        = " ".toList ++ ("extends Model\n\x7b\n".toList ++ z) := rfl
    have hspace : AllBlank " ".toList := by decide
    have hstops : Stops Text.isBlank ("extends Model\n\x7b\n".toList ++ z) := rfl
    unfold castsMethod
    simp only [runs_append_assoc]
    rw [hsplit, runs_literal_append, runs_space_append hspace (by decide) hstops]
    · exact runs_literal_append_of_clashes (clashes_append _ _ _ (by decide))
    · exact (rejects_literal (by decide)).append

theorem keywordShape_accessorHeader : KeywordShape accessorHeader "function".toList where
  word := List.all_eq_true.mp (by decide)
  keyword := .inr rfl
  shape := by
    intro b t found h
    unfold accessorHeader at h
    simp only [runs_append_assoc] at h
    exact exists_of_runs_keyword h
  refusesParent := by
    intro b z found
    -- What follows the name of a class looks like an accessor, up to the bracket that it lacks.
    have hsplit : " extends Model\n\x7b\n".toList ++ z
        = " ".toList ++ ('e' :: "xtends".toList ++ (" ".toList ++ ("Model\n\x7b\n".toList ++ z))) := rfl
    have hspace : AllBlank " ".toList := by decide
    have hname : Stops Text.isBlank
        ('e' :: "xtends".toList ++ (" ".toList ++ ("Model\n\x7b\n".toList ++ z))) := rfl
    have hword : ∀ x ∈ "xtends".toList, Text.isWord x = true := List.all_eq_true.mp (by decide)
    have hend : Stops Text.isWord (" ".toList ++ ("Model\n\x7b\n".toList ++ z)) := rfl
    have hmodel : Stops Text.isBlank ("Model\n\x7b\n".toList ++ z) := rfl
    unfold accessorHeader
    simp only [runs_append_assoc]
    rw [hsplit, runs_literal_append, runs_space_append hspace (by decide) hname,
      runs_captured_word_append (by decide) hword hend, runs_blanks_append hspace hmodel]
    · exact runs_literal_append_of_clashes (clashes_append _ _ _ (by decide))
    · exact (rejects_literal (by decide)).append
    · apply Rejects.most_append
      · intro x hx
        exact Text.not_isBlank_of_isWord hx
      · exact (rejects_literal (by decide)).append
    · apply Rejects.append
      apply Rejects.captured
      apply Rejects.append
      exact rejects_one fun x hx => not_isIdentifierStart_of_isBlank hx

theorem keywordShape_abstractClass : KeywordShape abstractClass "abstract".toList where
  word := List.all_eq_true.mp (by decide)
  keyword := .inl rfl
  shape := by
    intro b t found h
    unfold abstractClass at h
    simp only [runs_append_assoc] at h
    rw [runs_wordEdge_append] at h
    split at h
    · exact exists_of_runs_keyword h
    · exact absurd rfl h
  refusesParent := by
    intro b z found
    -- Behind the blanks the pattern wants another keyword than the one that is there.
    have hsplit : " extends Model\n\x7b\n".toList ++ z
        = " ".toList ++ ("extends Model\n\x7b\n".toList ++ z) := rfl
    have hspace : AllBlank " ".toList := by decide
    have hstops : Stops Text.isBlank ("extends Model\n\x7b\n".toList ++ z) := rfl
    unfold abstractClass
    simp only [runs_append_assoc]
    rw [runs_wordEdge_append]
    split
    · rw [hsplit, runs_literal_append, runs_space_append hspace (by decide) hstops]
      · exact runs_literal_append_of_clashes (clashes_append _ _ _ (by decide))
      · exact (rejects_literal (by decide)).append
    · rfl

/-! ## The parts of a file -/

namespace Relation

def body (r : Relation) : Text :=
  "\n        return $this->" ++ (r.builder.method ++ ("(" ++ (r.target.print
    ++ ("::class);\n    \x7d\n\n" : Text)) : Text))

theorem print_eq (r : Relation) :
    r.print = "function ".toList ++ (r.accessor.text ++ ("()\n    \x7b".toList ++ r.body)) := by
  have hsplit : "()\n    \x7b\n        return $this->".toList
      = "()\n    \x7b".toList ++ "\n        return $this->".toList := rfl
  unfold print body
  rw [hsplit]
  simp only [List.append_assoc]

end Relation

namespace Description

variable (d : Description)

def beforeFillable : Text :=
  d.opening ++ (d.printTable ++ (d.printCounting ++ (d.printKey ++ d.printStamps)))

def beforeCasts : Text := d.beforeFillable ++ d.printFillable

/-- The parts of the file, in order. -/
def parts : List Text :=
  [d.opening, d.printTable, d.printCounting, d.printKey, d.printStamps, d.printFillable, d.printCasts,
    d.printRelations, "\x7d\n"]

theorem infix_of_mem_parts {part : Text} (h : part ∈ d.parts) : part <:+: d.print := by
  have hflatten : d.print = d.parts.flatten := by
    unfold print parts
    simp only [List.flatten_cons, List.flatten_nil, List.append_nil]
  rw [hflatten]
  exact List.infix_of_mem_flatten h

theorem print_eq : d.print = d.beforeCasts ++ (d.printCasts ++ (d.printRelations ++ "\x7d\n".toList)) := by
  unfold print beforeCasts beforeFillable
  simp only [List.append_assoc]

end Description

namespace KeywordShape

variable (h : KeywordShape p w)
include h

theorem quiet_fixed {a : Text} (ha : (free "abstract".toList a && free "function".toList a) = true) :
    Quiet p b a := by
  rw [Bool.and_eq_true] at ha
  apply h.quiet_of_free
  rcases h.keyword with rfl | rfl
  · exact ha.1
  · exact ha.2

/-- A name or a cast, and the fixed text that ends it. -/
theorem quiet_ended {a v : Text} (ha : ∀ x ∈ a, Text.isBlank x = false)
    (hv : v.head?.any (fun c => !Text.isBlank c && !Text.isWord c) = true)
    (hfree : (free "abstract".toList v && free "function".toList v) = true) :
    Quiet p b (a ++ v) := by
  rw [Bool.and_eq_true] at hfree
  apply h.quiet_dense_append ha hv
  rcases h.keyword with rfl | rfl
  · exact hfree.1
  · exact hfree.2

variable (d : Description)

theorem quiet_opening : Quiet p b d.opening := by
  unfold Description.opening
  rw [List.append_assoc]
  apply Quiet.append (h.quiet_fixed (by decide))
  apply h.quiet_before_blank d.name.not_isBlank_of_mem (by decide) h.refusesParent
  rcases h.keyword with rfl | rfl
  · decide
  · decide

theorem quiet_printTable : Quiet p b d.printTable := by
  unfold Description.printTable
  cases d.table with
  | none => exact quiet_nil
  | some table =>
    dsimp only
    rw [List.append_assoc]
    apply Quiet.append (h.quiet_fixed (by decide))
    exact h.quiet_ended table.not_isBlank_of_mem (by decide) (by decide)

theorem quiet_printCounting : Quiet p b d.printCounting := by
  unfold Description.printCounting
  cases d.countingOff with
  | false => exact quiet_nil
  | true => exact h.quiet_fixed (by decide)

theorem quiet_printKey : Quiet p b d.printKey := by
  unfold Description.printKey
  cases d.ownKey with
  | none => exact quiet_nil
  | some key =>
    dsimp only
    rw [List.append_assoc]
    apply Quiet.append (h.quiet_fixed (by decide))
    exact h.quiet_ended key.not_isBlank_of_mem (by decide) (by decide)

theorem quiet_printStamps : Quiet p b d.printStamps := by
  unfold Description.printStamps
  cases d.stamped with
  | false => exact h.quiet_fixed (by decide)
  | true => exact quiet_nil

theorem quiet_printField (field : Identifier) : Quiet p b (Description.printField field) := by
  unfold Description.printField
  rw [List.append_assoc]
  apply Quiet.append (h.quiet_fixed (by decide))
  exact h.quiet_ended field.not_isBlank_of_mem (by decide) (by decide)

theorem quiet_printFillable : Quiet p b d.printFillable := by
  unfold Description.printFillable
  rw [List.append_assoc]
  apply Quiet.append (h.quiet_fixed (by decide))
  apply Quiet.append
  · apply quiet_flatMap
    intro field _ b
    exact h.quiet_printField field
  · exact h.quiet_fixed (by decide)

theorem quiet_printCast (entry : Identifier × CastText) :
    Quiet p b (Description.printCast entry) := by
  unfold Description.printCast
  rw [List.append_assoc, List.append_assoc, List.append_assoc, ← List.append_assoc entry.1.text]
  apply Quiet.append (h.quiet_fixed (by decide))
  apply Quiet.append
  · exact h.quiet_ended entry.1.not_isBlank_of_mem (by decide) (by decide)
  · exact h.quiet_ended entry.2.not_isBlank_of_mem (by decide) (by decide)

theorem quiet_castEntries : Quiet p b (d.casts.flatMap Description.printCast) := by
  apply quiet_flatMap
  intro entry _ b
  exact h.quiet_printCast entry

theorem quiet_beforeCasts : Quiet p b d.beforeCasts := by
  unfold Description.beforeCasts Description.beforeFillable
  apply Quiet.append _ (h.quiet_printFillable d)
  apply Quiet.append (h.quiet_opening d)
  apply Quiet.append (h.quiet_printTable d)
  apply Quiet.append (h.quiet_printCounting d)
  apply Quiet.append (h.quiet_printKey d)
  exact h.quiet_printStamps d

theorem quiet_body (r : Relation) : Quiet p b r.body := by
  have hmethod : ∀ x ∈ r.builder.method, Text.isBlank x = false := by
    apply Text.forall_of_all_not
    cases r.builder <;> decide
  unfold Relation.body
  apply Quiet.append (h.quiet_fixed (by decide))
  rw [← List.append_assoc]
  apply Quiet.append
  · exact h.quiet_ended hmethod (by decide) (by decide)
  · exact h.quiet_ended r.target.not_isBlank_of_mem (by decide) (by decide)

end KeywordShape

/-! ## Abstract classes -/

theorem quiet_abstractClass_relation (r : Relation) : Quiet abstractClass b r.print := by
  have hname : Quiet abstractClass (pass b "function ".toList)
      (r.accessor.text ++ "()\n    \x7b".toList) :=
    keywordShape_abstractClass.quiet_ended r.accessor.not_isBlank_of_mem (by decide) (by decide)
  rw [r.print_eq, ← List.append_assoc r.accessor.text]
  apply Quiet.append (keywordShape_abstractClass.quiet_of_free (by decide))
  exact hname.append (keywordShape_abstractClass.quiet_body r)

theorem quiet_abstractClass_printCasts (d : Description) :
    Quiet abstractClass b d.printCasts := by
  unfold Description.printCasts
  cases d.castsForm with
  | property =>
    dsimp only
    rw [List.append_assoc]
    apply Quiet.append (keywordShape_abstractClass.quiet_of_free (by decide))
    apply Quiet.append (keywordShape_abstractClass.quiet_castEntries d)
    exact keywordShape_abstractClass.quiet_of_free (by decide)
  | method =>
    dsimp only
    rw [List.append_assoc]
    apply Quiet.append (keywordShape_abstractClass.quiet_of_free (by decide))
    apply Quiet.append (keywordShape_abstractClass.quiet_castEntries d)
    exact keywordShape_abstractClass.quiet_of_free (by decide)

theorem occursIn_abstractClass_print (d : Description) : abstractClass.occursIn d.print = false := by
  have hrelations : Quiet abstractClass (pass (pass none d.beforeCasts) d.printCasts)
      d.printRelations := by
    apply quiet_flatMap
    intro r _ b
    apply Quiet.append (keywordShape_abstractClass.quiet_of_free (by decide))
    exact quiet_abstractClass_relation r
  have hquiet : Quiet abstractClass none d.print := by
    rw [d.print_eq]
    apply Quiet.append (keywordShape_abstractClass.quiet_beforeCasts d)
    apply Quiet.append (quiet_abstractClass_printCasts d)
    apply Quiet.append hrelations
    exact keywordShape_abstractClass.quiet_of_free (by decide)
  rw [occursIn, Option.isSome_eq_false_iff, Option.isNone_iff_eq_none]
  show abstractClass.searchFrom? none d.print = none
  apply searchFrom?_of_quiet hquiet
  refine Classical.byContradiction fun hne => ?_
  obtain ⟨x, z, heq, -⟩ := keywordShape_abstractClass.shape hne
  exact absurd heq (by simp)

end Model
end EntityDiagram
