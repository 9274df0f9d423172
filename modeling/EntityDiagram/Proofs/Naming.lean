import EntityDiagram.Naming
import EntityDiagram.Proofs.Text.Characters
import EntityDiagram.Proofs.Text.Splitting
import EntityDiagram.Proofs.Text.Stripping
import Mathlib.Data.List.Infix

/-!
# What a class reference stands for

A reference is stripped of white space, rid of its marks, cut behind its last backslash, and stripped
again. White space at the ends cannot get in the way of the marks, so the first of these steps does
nothing that the last would not do (`classBasename_eq`). What comes of a reference is then a matter of
where things stand in it: `classBasename_eq_iff_refers` says of which references a given name comes, and
`mem_classBasename` which characters of a reference come through whatever the rest of it is.

One class can be written in many ways: with a namespace, as a constant, in quotation marks, with white
space around it, and with several of these at once. The name is the same for all of them
(`classBasename_of_notates`). The argument is at the places where a text and what is put around it
meet: no mark stands across one of them (`withoutMarks_append_of_apart`), even where the text ends in a
part of `::class`.
-/

namespace EntityDiagram

namespace Naming

variable {a t r name : Text} {c : Char}

/-! ## Marks -/

theorem withoutMarks_cons (h : ¬ "::class".toList <+: c :: t) :
    withoutMarks (c :: t) = if isQuotation c then withoutMarks t else c :: withoutMarks t := by
  rw [withoutMarks]
  rintro rest rfl rfl
  exact h (List.prefix_append "::class".toList rest)

/-- Marks are found apart in two texts when no `::class` stands across the place where they meet. -/
theorem withoutMarks_append_of_apart
    (hapart : ∀ b, b ≠ [] → "::class".toList <+: b ++ t → "::class".toList <+: b) :
    withoutMarks (a ++ t) = withoutMarks a ++ withoutMarks t := by
  have hno : ∀ {x rest}, (∀ z, x = ':' → rest = ":class".toList ++ z → False) →
      ¬ "::class".toList <+: x :: (rest ++ t) := by
    intro x rest hx hprefix
    obtain ⟨z, hz⟩ := hapart (x :: rest) (List.cons_ne_nil x rest) hprefix
    obtain ⟨hcolon, hrest⟩ := List.cons.inj hz
    exact hx z hcolon.symm hrest.symm
  fun_induction withoutMarks a with
  | case1 => rfl
  | case2 rest ih => exact ih
  | case3 x rest hx hquote ih => rw [List.cons_append, withoutMarks_cons (hno hx), if_pos hquote, ih]
  | case4 x rest hx hquote ih =>
    rw [List.cons_append, withoutMarks_cons (hno hx), if_neg hquote, ih, List.cons_append]

/-- That is so before a character that `::class` does not have. -/
theorem withoutMarks_append_cons (hc : c ∉ "::class".toList) :
    withoutMarks (a ++ c :: t) = withoutMarks a ++ withoutMarks (c :: t) :=
  withoutMarks_append_of_apart fun _ _ hprefix => Text.prefix_of_prefix_append_cons hprefix hc

/-- And it is so before `::class` itself, since no end of it is also its beginning. -/
theorem withoutMarks_append_constant (a : Text) :
    withoutMarks (a ++ "::class".toList) = withoutMarks a := by
  have hself : ∀ b ∈ "::class".toList.inits, b ≠ [] → "::class".toList <+: b ++ "::class".toList →
      "::class".toList <+: b := by
    decide
  have happend : withoutMarks (a ++ "::class".toList) = withoutMarks a ++ [] := by
    refine withoutMarks_append_of_apart fun b hb hprefix => ?_
    rcases List.prefix_or_prefix_of_prefix hprefix (List.prefix_append b _) with hwhole | hpart
    · exact hwhole
    · exact hself b ((List.mem_inits _ _).mpr hpart) hb hprefix
  rw [happend, List.append_nil]

theorem withoutMarks_append (hquote : ∀ c ∈ a, isQuotation c = false) (hcolon : ':' ∉ a) :
    withoutMarks (a ++ t) = a ++ withoutMarks t := by
  induction a with
  | nil => rfl
  | cons c a ih =>
    rw [List.mem_cons, not_or] at hcolon
    have hno : ¬ "::class".toList <+: c :: (a ++ t) := by
      rintro ⟨z, hz⟩
      exact hcolon.1 (List.cons.inj hz).1
    rw [List.cons_append, withoutMarks_cons hno, hquote c List.mem_cons_self,
      ih (fun d hd => hquote d (List.mem_cons_of_mem c hd)) hcolon.2]
    rfl

theorem not_isQuotation_of_isBlank (h : Text.isBlank c = true) : isQuotation c = false := by
  rw [Bool.eq_false_iff]
  intro hquote
  simp only [isQuotation, Bool.or_eq_true, beq_iff_eq] at hquote
  rcases hquote with (rfl | rfl) | rfl <;> simp [Text.isBlank] at h

theorem eq_or_isWord_of_mem_constant (h : c ∈ "::class".toList) : c = ':' ∨ Text.isWord c = true := by
  have hall : "::class".toList.all (fun d => d == ':' || Text.isWord d) = true := by decide
  simpa only [Bool.or_eq_true, beq_iff_eq] using List.all_eq_true.mp hall c h

theorem not_mem_constant_of_isBlank (h : Text.isBlank c = true) : c ∉ "::class".toList := by
  intro hmem
  rcases eq_or_isWord_of_mem_constant hmem with rfl | hword
  · exact absurd h (by decide)
  · rw [Text.not_isBlank_of_isWord hword] at h
    exact absurd h (by simp)

theorem withoutMarks_blank_append (ha : ∀ c ∈ a, Text.isBlank c = true) :
    withoutMarks (a ++ t) = a ++ withoutMarks t := by
  refine withoutMarks_append (fun c hc => not_isQuotation_of_isBlank (ha c hc)) fun hmem => ?_
  exact absurd (ha _ hmem) (by decide)

theorem withoutMarks_append_blank (ht : ∀ c ∈ t, Text.isBlank c = true) :
    withoutMarks (a ++ t) = withoutMarks a ++ t := by
  have hblank : withoutMarks t = t := by
    have happend := withoutMarks_blank_append (t := []) ht
    rwa [List.append_nil, withoutMarks, List.append_nil] at happend
  cases t with
  | nil => rw [List.append_nil, List.append_nil]
  | cons c t =>
    rw [withoutMarks_append_cons (not_mem_constant_of_isBlank (ht c List.mem_cons_self)), hblank]

theorem mem_of_mem_withoutMarks (h : c ∈ withoutMarks t) : c ∈ t ∧ isQuotation c = false := by
  fun_induction withoutMarks t with
  | case1 => exact absurd h List.not_mem_nil
  | case2 rest ih =>
    obtain ⟨hmem, hquote⟩ := ih h
    exact ⟨List.mem_append_right "::class".toList hmem, hquote⟩
  | case3 x rest _ _ ih =>
    obtain ⟨hmem, hquote⟩ := ih h
    exact ⟨List.mem_cons_of_mem x hmem, hquote⟩
  | case4 x rest _ hx ih =>
    rcases List.mem_cons.mp h with rfl | h
    · exact ⟨List.mem_cons_self, Bool.eq_false_iff.mpr hx⟩
    · obtain ⟨hmem, hquote⟩ := ih h
      exact ⟨List.mem_cons_of_mem x hmem, hquote⟩

/-! ## Names -/

/-- White space around a reference does not matter until the end. -/
theorem classBasename_eq (r : Text) :
    classBasename r = Text.strip (Text.afterLast '\\' (withoutMarks r)) := by
  obtain ⟨w, z, hw, hz, heq⟩ := Text.exists_eq_append_strip r
  have hslash : '\\' ∉ z := fun hmem => absurd (hz _ hmem) (by decide)
  have hmarks : withoutMarks r = (w ++ withoutMarks (Text.strip r)) ++ z := by
    rw [List.append_assoc, ← withoutMarks_append_blank hz, ← withoutMarks_blank_append hw, ← heq]
  unfold classBasename
  rw [hmarks, Text.afterLast_append_of_not_mem hslash, Text.strip_append_blank hz]
  by_cases hmem : '\\' ∈ withoutMarks (Text.strip r)
  · rw [Text.afterLast_append_of_mem w hmem]
  · have hmem' : '\\' ∉ w ++ withoutMarks (Text.strip r) := by
      rw [List.mem_append, not_or]
      exact ⟨fun hslash => absurd (hw _ hslash) (by decide), hmem⟩
    rw [Text.afterLast_eq_self hmem, Text.afterLast_eq_self hmem', Text.strip_blank_append hw]

theorem classBasename_blank_append {w : Text} (hw : ∀ c ∈ w, Text.isBlank c = true) :
    classBasename (w ++ r) = classBasename r := by
  unfold classBasename
  rw [Text.strip_blank_append hw]

theorem classBasename_blank {w : Text} (hw : ∀ c ∈ w, Text.isBlank c = true) : classBasename w = [] := by
  have happend := classBasename_blank_append (r := []) hw
  rwa [List.append_nil] at happend

theorem stripped_classBasename (r : Text) : Text.Stripped (classBasename r) := by
  rw [classBasename_eq]
  exact Text.stripped_strip _

theorem mem_of_mem_classBasename (h : c ∈ classBasename r) :
    c ∈ r ∧ c ≠ '\\' ∧ isQuotation c = false := by
  rw [classBasename_eq] at h
  obtain ⟨hno, front, heq, -⟩ := Text.exists_eq_append_afterLast '\\' (withoutMarks r)
  have hlast := Text.mem_of_mem_strip h
  have hmem : c ∈ withoutMarks r := by
    rw [heq]
    exact List.mem_append_right front hlast
  obtain ⟨hr, hquote⟩ := mem_of_mem_withoutMarks hmem
  refine ⟨hr, ?_, hquote⟩
  rintro rfl
  exact hno hlast

/-- The reference, its marks aside, ends in the name: nothing stands before the name or a backslash does,
    and white space may stand on either side of it. -/
def Refers (r name : Text) : Prop :=
  ∃ front w z, withoutMarks r = front ++ (w ++ (name ++ z))
    ∧ (front = [] ∨ front.getLast? = some '\\')
    ∧ (∀ c ∈ w, Text.isBlank c = true) ∧ ∀ c ∈ z, Text.isBlank c = true

/-- **Of which references a name comes.** -/
theorem classBasename_eq_iff_refers (hname : Text.Stripped name) (hslash : '\\' ∉ name) :
    classBasename r = name ↔ Refers r name := by
  rw [classBasename_eq, Text.strip_eq_iff]
  constructor
  · rintro ⟨-, w, z, hw, hz, hlast⟩
    obtain ⟨-, front, heq, hfront⟩ := Text.exists_eq_append_afterLast '\\' (withoutMarks r)
    rw [hlast] at heq
    exact ⟨front, w, z, heq, hfront, hw, hz⟩
  · rintro ⟨front, w, z, heq, hfront, hw, hz⟩
    refine ⟨hname, w, z, hw, hz, Text.afterLast_eq_iff.mpr ⟨?_, front, heq, hfront⟩⟩
    simp only [List.mem_append, not_or]
    exact ⟨fun h => absurd (hw _ h) (by decide), hslash, fun h => absurd (hz _ h) (by decide)⟩

/-- **What comes through.** A character behind the last backslash is in the name, unless it is one of those
    that marks are made of, or blank. -/
theorem mem_classBasename (h : c ∈ Text.afterLast '\\' r) (hblank : Text.isBlank c = false)
    (hquote : isQuotation c = false) (hc : c ∉ "::class".toList) : c ∈ classBasename r := by
  obtain ⟨hno, front, heq, -⟩ := Text.exists_eq_append_afterLast '\\' r
  obtain ⟨x, y, hsegment⟩ := List.append_of_mem h
  rw [hsegment] at hno heq
  have hrest : withoutMarks (c :: y) = c :: withoutMarks y := by
    rw [withoutMarks_cons fun hprefix => ?_, hquote]
    · rfl
    · obtain ⟨z, hz⟩ := hprefix
      exact hc ((List.cons.inj hz).1 ▸ List.mem_cons_self)
  have hmarks : withoutMarks r = withoutMarks (front ++ x) ++ c :: withoutMarks y := by
    rw [heq, ← List.append_assoc, withoutMarks_append_cons hc, hrest]
  have hslash : '\\' ∉ c :: withoutMarks y := by
    intro hmem
    apply hno
    rcases List.mem_cons.mp hmem with rfl | hmem
    · exact List.mem_append_right x List.mem_cons_self
    · exact List.mem_append_right x (List.mem_cons_of_mem c (mem_of_mem_withoutMarks hmem).1)
  rw [classBasename_eq, hmarks, Text.afterLast_append_of_not_mem hslash]
  exact Text.mem_strip (List.mem_append_right _ List.mem_cons_self) hblank

/-! ## Notations -/

/-- The second text writes the reference that the first one is in another notation, or in several of
    them, one around the other. -/
inductive Notates (r : Text) : Text → Prop where
  | itself : Notates r r
  | namespaced {s : Text} (p : Text) : Notates r s → Notates r (p ++ '\\' :: s)
  | constant {s : Text} : Notates r s → Notates r (s ++ "::class".toList)
  | quoted {s : Text} {mark : Char} : isQuotation mark = true → Notates r s →
      Notates r (mark :: (s ++ [mark]))
  | spaced {s w z : Text} : (∀ c ∈ w, Text.isBlank c = true) → (∀ c ∈ z, Text.isBlank c = true) →
      Notates r s → Notates r (w ++ (s ++ z))

theorem not_mem_constant_of_isQuotation (h : isQuotation c = true) : c ∉ "::class".toList := by
  have hall : "::class".toList.all (fun d => !isQuotation d) = true := by
    decide
  intro hmem
  have hno := List.all_eq_true.mp hall c hmem
  rw [h] at hno
  exact absurd hno (by simp)

theorem withoutMarks_quotation (h : isQuotation c = true) : withoutMarks (c :: t) = withoutMarks t := by
  have hno : ¬ "::class".toList <+: c :: t := by
    rintro ⟨z, hz⟩
    exact not_mem_constant_of_isQuotation h ((List.cons.inj hz).1 ▸ List.mem_cons_self)
  rw [withoutMarks_cons hno, if_pos h]

theorem withoutMarks_quoted (h : isQuotation c = true) :
    withoutMarks (c :: (a ++ [c])) = withoutMarks a := by
  rw [withoutMarks_quotation h, withoutMarks_append_cons (not_mem_constant_of_isQuotation h),
    withoutMarks_quotation h, withoutMarks, List.append_nil]

/-- What stands before a backslash does not matter. -/
theorem classBasename_namespaced (p r : Text) : classBasename (p ++ '\\' :: r) = classBasename r := by
  have hslash : withoutMarks ('\\' :: r) = '\\' :: withoutMarks r := by
    rw [withoutMarks_cons fun ⟨z, hz⟩ => absurd (List.cons.inj hz).1 (by decide)]
    rfl
  rw [classBasename_eq, classBasename_eq, withoutMarks_append_cons (by decide), hslash]
  by_cases hmem : '\\' ∈ withoutMarks r
  · rw [List.append_cons, Text.afterLast_append_of_mem _ hmem]
  · rw [Text.afterLast_append _ hmem, Text.afterLast_eq_self hmem]

theorem classBasename_spaced {w z : Text} (hw : ∀ c ∈ w, Text.isBlank c = true)
    (hz : ∀ c ∈ z, Text.isBlank c = true) : classBasename (w ++ (r ++ z)) = classBasename r := by
  unfold classBasename
  rw [Text.strip_blank_append hw, Text.strip_append_blank hz]

/-- **The name does not depend on the notation**, and what comes of any text at all has nothing left
    of one: no backslash, no quotation mark, and no white space at its ends. -/
theorem classBasename_of_notates (r : Text) :
    (∀ s, Notates r s → classBasename s = classBasename r)
      ∧ (∀ c ∈ classBasename r, c ≠ '\\' ∧ isQuotation c = false)
      ∧ Text.Stripped (classBasename r) := by
  refine ⟨fun s h => ?_, fun c hc => (mem_of_mem_classBasename hc).2, stripped_classBasename r⟩
  induction h with
  | itself => rfl
  | namespaced p _ ih => rw [classBasename_namespaced, ih]
  | constant _ ih => rw [classBasename_eq, withoutMarks_append_constant, ← classBasename_eq, ih]
  | quoted hmark _ ih => rw [classBasename_eq, withoutMarks_quoted hmark, ← classBasename_eq, ih]
  | spaced hw hz _ ih => rw [classBasename_spaced hw hz, ih]

/-- A reference that ends in a part of `::class`, in every notation at once. -/
theorem classBasename_of_notates_nested :
    classBasename " 'App\\Role::cl::class' ".toList = classBasename "Role::cl".toList := by
  have hblank : ∀ c ∈ " ".toList, Text.isBlank c = true := List.all_eq_true.mp (by decide)
  have hspaced : Notates "Role::cl".toList
      (" ".toList ++ ('\'' :: ("App".toList ++ '\\' :: ("Role::cl".toList ++ "::class".toList)
        ++ ['\'']) ++ " ".toList)) :=
    .spaced hblank hblank (.quoted (by decide) (.namespaced _ (.constant .itself)))
  exact (classBasename_of_notates _).1 _ hspaced

end Naming
end EntityDiagram
