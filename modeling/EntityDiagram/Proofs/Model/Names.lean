import EntityDiagram.Proofs.Model.Description
import EntityDiagram.Proofs.Model.RelationShapes
import EntityDiagram.Proofs.Naming

/-!
# The characters of names and casts

A printed model file is fixed text with names and casts in it. Everything that is proved about the
file needs of these only which characters they cannot have: no quotation mark, so a quotation ends
where it was meant to; no bracket, so an array does; no white space, so no keyword is ever completed
inside one; no dollar sign, so no property begins there.

A class reference adds one character to those of names, and what it means is read off the end of it,
in whatever notation a call has it (`ClassArgument.classBasename_print`).
-/

namespace EntityDiagram

namespace Model

variable {c : Char}

/-! ## Names -/

theorem isNameCharacter_of_isIdentifierStart (h : Text.isIdentifierStart c = true) :
    isNameCharacter c = true := by
  simp only [Text.isIdentifierStart, Bool.or_eq_true] at h
  simp only [isNameCharacter, Bool.or_eq_true]
  rcases h with h | h
  · exact .inl (.inl h)
  · exact .inr h

theorem isWord_of_isNameCharacter (h : isNameCharacter c = true) : Text.isWord c = true :=
  Text.isWord_of_ascii h

namespace Identifier

variable (i : Identifier)

theorem exists_cons : ∃ c w, i.text = c :: w ∧ Text.isIdentifierStart c = true
    ∧ ∀ x ∈ w, isNameCharacter x = true := by
  obtain ⟨text, valid⟩ := i
  cases text with
  | nil => exact absurd valid (by decide)
  | cons c w =>
    rw [isName, Bool.and_eq_true, List.all_eq_true] at valid
    exact ⟨c, w, rfl, valid.1, valid.2⟩

theorem ne_nil : i.text ≠ [] := by
  obtain ⟨c, w, heq, -⟩ := i.exists_cons
  rw [heq]
  exact List.cons_ne_nil c w

theorem isNameCharacter_of_mem (h : c ∈ i.text) : isNameCharacter c = true := by
  obtain ⟨x, w, heq, hx, hw⟩ := i.exists_cons
  rw [heq] at h
  rcases List.mem_cons.mp h with rfl | h
  · exact isNameCharacter_of_isIdentifierStart hx
  · exact hw c h

theorem isWord_of_mem : ∀ c ∈ i.text, Text.isWord c = true :=
  fun _ h => isWord_of_isNameCharacter (i.isNameCharacter_of_mem h)

theorem not_isBlank_of_mem : ∀ c ∈ i.text, Text.isBlank c = false :=
  fun c h => Text.not_isBlank_of_isWord (i.isWord_of_mem c h)

theorem not_mem (h : isNameCharacter c = false) : c ∉ i.text := by
  intro hmem
  rw [i.isNameCharacter_of_mem hmem] at h
  exact absurd h (by simp)

theorem not_isQuote_of_mem : ∀ c ∈ i.text, isQuote c = false := by
  intro c h
  rw [Bool.eq_false_iff]
  intro hquote
  simp only [isQuote, Bool.or_eq_true, beq_iff_eq] at hquote
  rcases hquote with rfl | rfl
  · exact i.not_mem (by decide) h
  · exact i.not_mem (by decide) h

theorem isMethodName : IsMethodName i.text := by
  obtain ⟨c, w, heq, hc, hw⟩ := i.exists_cons
  exact ⟨c, w, heq, hc, fun x hx => isWord_of_isNameCharacter (hw x hx)⟩

theorem strip_text : Text.strip i.text = i.text := Text.strip_eq_self i.not_isBlank_of_mem

end Identifier

/-! ## Casts -/

namespace CastText

variable (cast : CastText)

theorem isCastCharacter_of_mem (h : c ∈ cast.text) : isCastCharacter c = true :=
  List.all_eq_true.mp cast.valid c h

theorem not_mem (h : isCastCharacter c = false) : c ∉ cast.text := by
  intro hmem
  rw [cast.isCastCharacter_of_mem hmem] at h
  exact absurd h (by simp)

theorem not_isBlank_of_mem : ∀ c ∈ cast.text, Text.isBlank c = false := by
  intro c h
  have hc := cast.isCastCharacter_of_mem h
  simp only [isCastCharacter, Bool.or_eq_true] at hc
  rcases hc with (hc | hc) | hc
  · exact Text.not_isBlank_of_isWord (Text.isWord_of_ascii (by simp [hc]))
  · exact Text.not_isBlank_of_isWord (Text.isWord_of_ascii (by simp [hc]))
  · have hall : ∀ d ∈ (":,-_." : Text), Text.isBlank d = false :=
      Text.forall_of_all_not (by decide)
    exact hall c (List.contains_iff_mem.mp hc)

theorem not_isQuote_of_mem : ∀ c ∈ cast.text, isQuote c = false := by
  intro c h
  rw [Bool.eq_false_iff]
  intro hquote
  simp only [isQuote, Bool.or_eq_true, beq_iff_eq] at hquote
  rcases hquote with rfl | rfl
  · exact cast.not_mem (by decide) h
  · exact cast.not_mem (by decide) h

theorem strip_text : Text.strip cast.text = cast.text := Text.strip_eq_self cast.not_isBlank_of_mem

end CastText

/-! ## Class references -/

namespace ClassReference

variable (r : ClassReference)

theorem print_eq : r.print = (r.namespaces.flatMap fun segment => '\\' :: segment.text)
    ++ '\\' :: r.name.text := by
  simp [print]

theorem eq_or_isNameCharacter_of_mem (h : c ∈ r.print) : c = '\\' ∨ isNameCharacter c = true := by
  obtain ⟨segment, -, hc⟩ := List.mem_flatMap.mp h
  rcases List.mem_cons.mp hc with rfl | hc
  · exact .inl rfl
  · exact .inr (segment.isNameCharacter_of_mem hc)

theorem not_mem (hslash : c ≠ '\\') (h : isNameCharacter c = false) : c ∉ r.print := by
  intro hmem
  rcases r.eq_or_isNameCharacter_of_mem hmem with rfl | hname
  · exact hslash rfl
  · rw [hname] at h
    exact absurd h (by simp)

theorem not_isBlank_of_mem : ∀ c ∈ r.print, Text.isBlank c = false := by
  intro c h
  rcases r.eq_or_isNameCharacter_of_mem h with rfl | hname
  · decide
  · exact Text.not_isBlank_of_isWord (isWord_of_isNameCharacter hname)

end ClassReference

/-! ## Class references as arguments -/

inductive ReferenceForm where
  | bare | constant | singleQuoted | doubleQuoted

namespace ReferenceForm

def opening : ReferenceForm → Text
  | bare => []
  | constant => []
  | singleQuoted => "'"
  | doubleQuoted => "\""

def closing : ReferenceForm → Text
  | bare => []
  | constant => "::class"
  | singleQuoted => "'"
  | doubleQuoted => "\""

end ReferenceForm

/-- A class as a call refers to it. -/
structure ClassArgument where
  reference : ClassReference
  /-- Whether the reference begins with a backslash. -/
  rooted : Bool := false
  form : ReferenceForm := .constant

namespace ClassArgument

variable (r : ClassArgument)

def path : Text := if r.rooted then r.reference.print else r.reference.print.tail

def print : Text := r.form.opening ++ (r.path ++ r.form.closing)

theorem mem_path (h : c ∈ r.path) : c ∈ r.reference.print := by
  unfold path at h
  split at h
  · exact h
  · exact List.mem_of_mem_tail h

theorem not_mem_path (hslash : c ≠ '\\') (h : isNameCharacter c = false) : c ∉ r.path :=
  fun hc => r.reference.not_mem hslash h (r.mem_path hc)

theorem afterLast_path : Text.afterLast '\\' r.path = r.reference.name.text := by
  have hname : '\\' ∉ r.reference.name.text := r.reference.name.not_mem (by decide)
  unfold path
  rw [r.reference.print_eq]
  split
  · exact Text.afterLast_append _ hname
  · cases r.reference.namespaces.flatMap fun segment => '\\' :: segment.text with
    | nil => exact Text.afterLast_eq_self hname
    | cons d front => exact Text.afterLast_append front hname

theorem not_isBlank_of_mem : ∀ c ∈ r.print, Text.isBlank c = false := by
  have hmarks : ∀ c ∈ r.form.opening ++ r.form.closing, Text.isBlank c = false := by
    apply Text.forall_of_all_not
    cases r.form <;> decide
  intro c hc
  simp only [print, List.mem_append] at hc
  rcases hc with hc | hc | hc
  · exact hmarks c (List.mem_append_left _ hc)
  · exact r.reference.not_isBlank_of_mem c (r.mem_path hc)
  · exact hmarks c (List.mem_append_right _ hc)

/-- Whatever the notation, and with white space behind it, the class meant is the last segment. -/
theorem classBasename_print {w : Text} (hw : ∀ c ∈ w, Text.isBlank c = true) :
    Naming.classBasename (r.print ++ w) = r.reference.name.text := by
  have hquote : ∀ c ∈ r.path, Naming.isQuotation c = false := by
    intro c hc
    rw [Bool.eq_false_iff]
    intro hquote
    simp only [Naming.isQuotation, Bool.or_eq_true, beq_iff_eq] at hquote
    rcases hquote with (rfl | rfl) | rfl
    · exact r.not_mem_path (by decide) (by decide) hc
    · exact r.not_mem_path (by decide) (by decide) hc
    · exact r.not_mem_path (by decide) (by decide) hc
  have hpath : ∀ t, Naming.withoutMarks (r.path ++ t) = r.path ++ Naming.withoutMarks t :=
    fun t => Naming.withoutMarks_append hquote (r.not_mem_path (by decide) (by decide))
  have hmarks : Naming.withoutMarks r.print = r.path := by
    have hskip : Naming.withoutMarks r.print = Naming.withoutMarks (r.path ++ r.form.closing) := by
      unfold print
      cases r.form <;> rfl
    have hclosing : Naming.withoutMarks r.form.closing = [] := by
      cases r.form <;> rfl
    rw [hskip, hpath, hclosing, List.append_nil]
  unfold Naming.classBasename
  rw [Text.strip_append_blank hw, Text.strip_eq_self r.not_isBlank_of_mem, hmarks, afterLast_path,
    r.reference.name.strip_text]

theorem path_ne_nil : r.path ≠ [] := by
  intro hnil
  have hlast := r.afterLast_path
  rw [hnil] at hlast
  exact r.reference.name.ne_nil hlast.symm

theorem print_ne_nil : r.print ≠ [] := by
  unfold print
  simp [r.path_ne_nil]

theorem isArgumentCharacter_of_mem : ∀ c ∈ r.print, isArgumentCharacter c = true := by
  have hmarks : ∀ c ∈ r.form.opening ++ r.form.closing, isArgumentCharacter c = true := by
    apply List.all_eq_true.mp
    cases r.form <;> decide
  intro c hc
  simp only [print, List.mem_append] at hc
  rcases hc with hc | hc | hc
  · exact hmarks c (List.mem_append_left _ hc)
  · have hparen : c ≠ ')' := by
      rintro rfl
      exact r.not_mem_path (by decide) (by decide) hc
    have hcomma : c ≠ ',' := by
      rintro rfl
      exact r.not_mem_path (by decide) (by decide) hc
    simp [isArgumentCharacter, hparen, hcomma]
  · exact hmarks c (List.mem_append_right _ hc)

end ClassArgument

/-- What a reference means is its last segment. -/
theorem ClassReference.classBasename_print (r : ClassReference) :
    Naming.classBasename (r.print ++ ("::class" : Text)) = r.name.text := by
  have hbasename := (⟨r, true, .constant⟩ : ClassArgument).classBasename_print (w := []) (by simp)
  rw [List.append_nil] at hbasename
  exact hbasename

end Model
end EntityDiagram
