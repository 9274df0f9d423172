import EntityDiagram.Proofs.Model.Keywords

/-!
# Properties in a printed file

In a printed file a dollar sign stands before the name of a property, or before `this`, and nowhere
else, because no name and no cast has one. Each part of the file has at most one of these words, so
which words a file has is known from its description. No two of them begin alike. That is all it takes
to see that a property which the description does not ask for is looked for in vain (`Lacks`).
-/

namespace EntityDiagram
namespace Model

open Pattern

variable {words : List Text}

def marks : List Text :=
  ["table", "incrementing", "primaryKey", "timestamps", "fillable", "casts", "this"]

/-- All of them but one. -/
def otherMarks (v : Text) : List Text := marks.filter (· != v)

theorem marked_text (i : Identifier) : marked words i.text = true :=
  marked_of_not_mem (i.not_mem (by decide))

/-- Fixed text with one dollar sign. -/
theorem marked_fixed {word a : Text} (hword : word ∈ words) (ha : marked [word] a = true) :
    marked words a = true := by
  apply marked_mono _ ha
  intro other hother
  rw [List.mem_singleton.mp hother]
  exact hword

namespace Description

variable (d : Description)

theorem marked_opening : marked words d.opening = true := by
  unfold opening
  apply marked_append
  · exact marked_append (marked_of_not_mem (by decide)) (marked_text d.name)
  · exact marked_of_not_mem (by decide)

theorem marked_printTable (h : d.table.isSome = true → "table".toList ∈ words) :
    marked words d.printTable = true := by
  unfold printTable
  cases htable : d.table with
  | none => rfl
  | some table =>
    have hword : "table".toList ∈ words := h (by rw [htable]; rfl)
    apply marked_append
    · exact marked_append (marked_fixed hword (by decide)) (marked_text table)
    · exact marked_of_not_mem (by decide)

theorem marked_printCounting (h : d.countingOff = true → "incrementing".toList ∈ words) :
    marked words d.printCounting = true := by
  unfold printCounting
  cases hcounting : d.countingOff with
  | false => rfl
  | true => exact marked_fixed (h hcounting) (by decide)

theorem marked_printKey (h : d.ownKey.isSome = true → "primaryKey".toList ∈ words) :
    marked words d.printKey = true := by
  unfold printKey
  cases hkey : d.ownKey with
  | none => rfl
  | some key =>
    have hword : "primaryKey".toList ∈ words := h (by rw [hkey]; rfl)
    apply marked_append
    · exact marked_append (marked_fixed hword (by decide)) (marked_text key)
    · exact marked_of_not_mem (by decide)

theorem marked_printStamps (h : d.stamped = false → "timestamps".toList ∈ words) :
    marked words d.printStamps = true := by
  unfold printStamps
  cases hstamped : d.stamped with
  | false => exact marked_fixed (h hstamped) (by decide)
  | true => rfl

theorem marked_printFillable (h : "fillable".toList ∈ words) :
    marked words d.printFillable = true := by
  have hfields : marked words (d.fillable.flatMap printField) = true := by
    apply marked_flatMap
    intro field _
    apply marked_append
    · exact marked_append (marked_of_not_mem (by decide)) (marked_text field)
    · exact marked_of_not_mem (by decide)
  unfold printFillable
  apply marked_append
  · exact marked_append (marked_fixed h (by decide)) hfields
  · exact marked_of_not_mem (by decide)

/-- A character that neither names nor casts have, nor what is printed between them. -/
theorem not_mem_castEntries {c : Char} (hname : isNameCharacter c = false)
    (hcast : isCastCharacter c = false)
    (hfixed : c ∉ "\n        '".toList ++ ("' => '".toList ++ "',".toList)) :
    c ∉ d.casts.flatMap printCast := by
  intro h
  obtain ⟨entry, -, h⟩ := List.mem_flatMap.mp h
  unfold printCast at h
  simp only [List.mem_append, not_or] at h hfixed
  rcases h with ((((h | h) | h) | h) | h)
  · exact hfixed.1 h
  · exact entry.1.not_mem hname h
  · exact hfixed.2.1 h
  · exact entry.2.not_mem hcast h
  · exact hfixed.2.2 h

theorem marked_printCasts (h : d.castsForm = .property → "casts".toList ∈ words) :
    marked words d.printCasts = true := by
  have hentries : marked words (d.casts.flatMap printCast) = true :=
    marked_of_not_mem (d.not_mem_castEntries (by decide) (by decide) (by decide))
  unfold printCasts
  cases hform : d.castsForm with
  | property =>
    apply marked_append
    · exact marked_append (marked_fixed (h hform) (by decide)) hentries
    · exact marked_of_not_mem (by decide)
  | method =>
    apply marked_append
    · exact marked_append (marked_of_not_mem (by decide)) hentries
    · exact marked_of_not_mem (by decide)

theorem marked_printRelations (h : "this".toList ∈ words) :
    marked words d.printRelations = true := by
  unfold printRelations
  apply marked_flatMap
  intro r _
  have hmethod : '$' ∉ r.builder.method := by
    cases r.builder <;> decide
  rw [r.print_eq]
  unfold Relation.body
  apply marked_append (marked_of_not_mem (by decide))
  apply marked_append (marked_of_not_mem (by decide))
  apply marked_append (marked_text r.accessor)
  apply marked_append (marked_of_not_mem (by decide))
  apply marked_append (marked_fixed h (by decide))
  apply marked_append (marked_of_not_mem hmethod)
  apply marked_append (marked_of_not_mem (by decide))
  apply marked_append (marked_of_not_mem (r.target.not_mem (by decide) (by decide)))
  exact marked_of_not_mem (by decide)

structure Lacks (v : Text) : Prop where
  table : d.table.isSome = true → "table".toList ≠ v
  counting : d.countingOff = true → "incrementing".toList ≠ v
  key : d.ownKey.isSome = true → "primaryKey".toList ≠ v
  stamps : d.stamped = false → "timestamps".toList ≠ v
  fillable : "fillable".toList ≠ v
  casts : d.castsForm = .property → "casts".toList ≠ v
  this : "this".toList ≠ v

theorem mem_otherMarks {v word : Text} (hword : word ∈ marks) (hne : word ≠ v) :
    word ∈ otherMarks v :=
  List.mem_filter.mpr ⟨hword, bne_iff_ne.mpr hne⟩

variable {d} in
theorem Lacks.marked_print {v : Text} (h : d.Lacks v) : marked (otherMarks v) d.print = true := by
  unfold print
  apply marked_append d.marked_opening
  apply marked_append (d.marked_printTable fun ht => mem_otherMarks (by decide) (h.table ht))
  apply marked_append (d.marked_printCounting fun hc => mem_otherMarks (by decide) (h.counting hc))
  apply marked_append (d.marked_printKey fun hk => mem_otherMarks (by decide) (h.key hk))
  apply marked_append (d.marked_printStamps fun hs => mem_otherMarks (by decide) (h.stamps hs))
  apply marked_append (d.marked_printFillable (mem_otherMarks (by decide) h.fillable))
  apply marked_append (d.marked_printCasts fun hc => mem_otherMarks (by decide) (h.casts hc))
  apply marked_append (d.marked_printRelations (mem_otherMarks (by decide) h.this))
  exact marked_of_not_mem (by decide)

variable {d} in
/-- No two of the words begin alike, so what the file lacks does not occur in it. -/
theorem Lacks.not_occurs {v : Text} (h : d.Lacks v) (hv : v ∈ marks) : ¬ '$' :: v <:+: d.print := by
  have hclash : ∀ v ∈ marks, ∀ word ∈ otherMarks v, clashes v word = true := by decide
  exact not_infix_of_marked h.marked_print (hclash v hv)

theorem lacks_table (h : d.table = none) : d.Lacks "table".toList where
  table := by simp [h]
  counting _ := by decide
  key _ := by decide
  stamps _ := by decide
  fillable := by decide
  casts _ := by decide
  this := by decide

theorem lacks_counting (h : d.countingOff = false) : d.Lacks "incrementing".toList where
  table _ := by decide
  counting := by simp [h]
  key _ := by decide
  stamps _ := by decide
  fillable := by decide
  casts _ := by decide
  this := by decide

theorem lacks_key (h : d.ownKey = none) : d.Lacks "primaryKey".toList where
  table _ := by decide
  counting _ := by decide
  key := by simp [h]
  stamps _ := by decide
  fillable := by decide
  casts _ := by decide
  this := by decide

theorem lacks_stamps (h : d.stamped = true) : d.Lacks "timestamps".toList where
  table _ := by decide
  counting _ := by decide
  key _ := by decide
  stamps := by simp [h]
  fillable := by decide
  casts _ := by decide
  this := by decide

theorem lacks_casts (h : d.castsForm = .method) : d.Lacks "casts".toList where
  table _ := by decide
  counting _ := by decide
  key _ := by decide
  stamps _ := by decide
  fillable := by decide
  casts := by simp [h]
  this := by decide

/-- The properties before the list of fillable fields, whichever of them are there. -/
theorem marked_beforeFillable (h : ∀ word ∈ ["table".toList, "incrementing".toList,
    "primaryKey".toList, "timestamps".toList], word ∈ words) :
    marked words d.beforeFillable = true := by
  unfold beforeFillable
  apply marked_append d.marked_opening
  apply marked_append (d.marked_printTable fun _ => h _ (by decide))
  apply marked_append (d.marked_printCounting fun _ => h _ (by decide))
  apply marked_append (d.marked_printKey fun _ => h _ (by decide))
  exact d.marked_printStamps fun _ => h _ (by decide)

theorem not_occurs_beforeFillable :
    ¬ "$fillable".toList <:+: d.beforeFillable ++ "    ".toList := by
  have hmarked : marked (otherMarks "fillable".toList) (d.beforeFillable ++ "    ".toList) = true :=
    marked_append (d.marked_beforeFillable (by decide)) (marked_of_not_mem (by decide))
  exact not_infix_of_marked hmarked (by decide)

theorem not_occurs_beforeCasts : ¬ "$casts".toList <:+: d.beforeCasts ++ "    ".toList := by
  have hmarked : marked (otherMarks "casts".toList) (d.beforeCasts ++ "    ".toList) = true := by
    unfold beforeCasts
    apply marked_append _ (marked_of_not_mem (by decide))
    apply marked_append (d.marked_beforeFillable (by decide))
    exact d.marked_printFillable (by decide)
  exact not_infix_of_marked hmarked (by decide)

end Description
end Model
end EntityDiagram
