import EntityDiagram.Proofs.Model.Shapes

/-!
# Lists of fillable fields in any layout

A list of fields may be written down in many ways: with quotation marks of either kind, with commas and
white space in any place between the fields, with white space around the equals sign, and in the middle
of any file. This module says that reading undoes all of them (`fillable_written`).

Two things are asked for. A field must not have its own mark in it, nor a bracket that closes, for the
one would end the field and the other the list. And the name of the property must not occur before, where
it would be found first. What stands behind the list does not matter.
-/

namespace EntityDiagram
namespace Model

open Pattern

variable {b : Option Char} {w : Text} {c : Char}

/-! ## Separators -/

/-- What stands between the entries of an array: commas and white space, perhaps nothing. -/
def Separates (w : Text) : Prop := ∀ c ∈ w, Text.isBlank c = true ∨ c = ','

instance (w : Text) : Decidable (Separates w) :=
  decidable_of_iff (w.all (fun c => Text.isBlank c || c == ',') = true) (by simp [Separates])

/-- What often stands behind the last entry. -/
theorem separates_comma_line : Separates (",\n" : Text) := by decide

theorem Separates.not_mem (h : Separates w) (hblank : Text.isBlank c = false) (hc : c ≠ ',') : c ∉ w := by
  intro hmem
  rcases h c hmem with hc' | hc'
  · rw [hc'] at hblank
    exact absurd hblank (by simp)
  · exact hc hc'

theorem Separates.all_not_isQuote (h : Separates w) : w.all (!isQuote ·) = true := by
  apply List.all_eq_true.mpr
  intro c hc
  rw [Bool.not_eq_true']
  rcases h c hc with hblank | rfl
  · exact not_isQuote_of_isBlank hblank
  · rfl

/-! ## Fields -/

/-- A field of a list, with the mark it is quoted by and with what separates it from the field before. -/
structure FieldEntry where
  name : Text
  mark : Char := '\''
  separator : Text := []
  nonempty : name ≠ []
  quotes : isQuote mark = true
  unmarked : mark ∉ name
  unclosed : ']' ∉ name
  separates : Separates separator

def FieldEntry.print (e : FieldEntry) : Text := e.separator ++ e.mark :: (e.name ++ [e.mark])

theorem FieldEntry.not_mem_print (e : FieldEntry) : ']' ∉ e.print := by
  have hmark : ']' ≠ e.mark := by
    intro heq
    have hquotes := e.quotes
    rw [← heq] at hquotes
    exact absurd hquotes (by decide)
  simp only [print, List.mem_append, List.mem_cons, List.not_mem_nil, or_false, not_or]
  exact ⟨e.separates.not_mem (by decide) (by decide), hmark, e.unclosed, hmark⟩

/-- The fields are read one by one, each past what separates it from the one before. -/
theorem allFrom_fields (entries : List FieldEntry) (hclosing : Separates w) :
    (quotedText.allFrom 0 b (entries.flatMap FieldEntry.print ++ w)).map (·.text 0)
      = entries.map (·.name) := by
  induction entries generalizing b with
  | nil =>
    have hquiet : Quiet quotedText b w := quiet_quotedText hclosing.all_not_isQuote
    rw [List.flatMap_nil, List.nil_append, allFrom_of_quiet hquiet]
    rfl
  | cons e rest ih =>
    obtain ⟨m, hall, htext⟩ := allFrom_quotedText (b := b)
      (z := rest.flatMap FieldEntry.print ++ w) e.separates.all_not_isQuote e.quotes e.unmarked
      e.nonempty
    have hprint : (e :: rest).flatMap FieldEntry.print ++ w
        = e.separator ++ e.mark :: (e.name ++ e.mark :: (rest.flatMap FieldEntry.print ++ w)) := by
      simp only [List.flatMap_cons, FieldEntry.print, List.append_assoc, List.cons_append,
        List.nil_append]
    rw [hprint, hall, List.map_cons, htext, ih, List.map_cons]

/-! ## Lists -/

/-- A list of fillable fields as it may be written down. -/
structure FillableList where
  head : PropertyHead
  entries : List FieldEntry
  closing : Text := []
  named : head.name = "$fillable".toList
  separates : Separates closing

namespace FillableList

variable (l : FillableList)

def content : Text := l.entries.flatMap FieldEntry.print ++ l.closing

def print : Text := l.head.print ++ '[' :: (l.content ++ [']'])

theorem not_mem_content : ']' ∉ l.content := by
  simp only [content, List.mem_append, List.mem_flatMap, not_or]
  refine ⟨?_, l.separates.not_mem (by decide) (by decide)⟩
  rintro ⟨e, -, hmem⟩
  exact e.not_mem_print hmem

end FillableList

/-- **Reading a list of fields undoes writing it**, wherever in a file it stands, if the name of the
    property does not occur before. -/
theorem fillable_written (l : FillableList) {before : Text} (hbefore : ¬ "$fillable".toList <:+: before)
    (behind : Text) : fillable (before ++ (l.print ++ behind)) = l.entries.map (·.name) := by
  have hname : ¬ l.head.name <:+: before := by
    rw [l.named]
    exact hbefore
  have hp : 'p' ∉ l.head.name := by
    rw [l.named]
    decide
  obtain ⟨m, hfound, htext⟩ := l.head.search?_array (z := behind) hp hname l.not_mem_content
  have hsearch : fillableProperty.search? (before ++ (l.print ++ behind)) = some m := by
    rw [l.named] at hfound
    unfold FillableList.print
    simp only [List.append_assoc, List.cons_append, List.nil_append]
    exact hfound
  unfold fillable
  rw [hsearch]
  dsimp only
  rw [htext]
  exact allFrom_fields l.entries l.separates

/-- A list in both kinds of marks, with a field that has the other mark in it, and with commas and white
    space in unusual places. -/
def mixedList : FillableList where
  head := {
    name := "$fillable"
    afterKeyword := "\n "
    afterName := []
    afterEquals := "\t"
    named := by decide
    parted := by decide
    blankAfterKeyword := by decide
    blankAfterName := allBlank_nil
    blankAfterEquals := allBlank_tab }
  entries := [
    ⟨"title", '\'', "\n  ", by decide, isQuote_single, by decide, by decide, by decide⟩,
    ⟨"it's", '"', ", ,", by decide, isQuote_double, by decide, by decide, by decide⟩,
    ⟨"title", '"', [], by decide, isQuote_double, by decide, by decide, by decide⟩]
  closing := ",\n"
  named := rfl
  separates := separates_comma_line

theorem fillable_written_mixed : ¬ "$fillable".toList <:+: "<?php /* $fill */ ".toList
    ∧ fillable ("<?php /* $fill */ ".toList ++ (mixedList.print ++ "; $fillable = ['x'];".toList))
      = ["title".toList, "it's".toList, "title".toList] := by
  have hbefore : ¬ "$fillable".toList <:+: "<?php /* $fill */ ".toList :=
    mt (Text.occursIn_iff_infix _ _).mpr (by decide)
  exact ⟨hbefore, fillable_written mixedList hbefore _⟩

end Model
end EntityDiagram
