import EntityDiagram.Proofs.Model.Isolation
import EntityDiagram.Proofs.Model.Shapes
import EntityDiagram.Proofs.Pattern.Landmarks

/-!
# What the cheap test passes over

Two recognisers look for the properties of the table and of the fillable fields. The scan looks for
their shapes, and a shape allows any white space between the keyword and the name. The cheap test
before it looks for the two as texts, with one space there. So the test may pass over a file from
which the scan would read a table or fields, and such a file is dropped without a report.

This module says which files these are (`passedOver_exactly`). A file is safe if, in the match that
the scan finds, the keyword and the name are one space apart, or are so anywhere else for either
property, or if the file says in another way that it is a model. Otherwise it is passed over, and
then a batch has of it nothing at all. White space of any other kind does this: of a file that is
the property of a table and no more, the table is read with any of it, while the test takes the file
for a model with one space only (`isLikely_bareTable_iff`).
-/

namespace EntityDiagram
namespace Model

open Pattern

variable {u : SourceUnit} {m : Match} {gap name t : Text}

/-! ## Signs of a model -/

/-- The properties that are taken for signs of a model. -/
def signProperties : List Text := ["$table", "$fillable"]

/-- Somewhere in the text, the keyword of a property stands before the name with this between them. -/
def StandsApart (gap name t : Text) : Prop := "protected".toList ++ (gap ++ name) <:+: t

/-- What else a file says when it is a model. -/
def otherSigns : List Text := baseClassMarkers ++ (["use HasFactory", "use SoftDeletes"] : List Text)

/-- The file says in another way that it is a model, or is named so. -/
def SaysModel (u : SourceUnit) : Prop :=
  (∃ sign ∈ otherSigns, sign <:+: u.content) ∨ "Model".toList <:+ u.name

theorem markers_eq : baseClassMarkers ++ traitMarkers
    = otherSigns ++ signProperties.map fun name => "protected".toList ++ (" ".toList ++ name) := rfl

theorem isLikely_iff : isLikely u.content u.name = true
    ↔ SaysModel u ∨ ∃ name ∈ signProperties, StandsApart " " name u.content := by
  unfold isLikely SaysModel StandsApart
  rw [← List.any_append, markers_eq, List.any_append, List.any_map]
  simp only [Bool.or_eq_true, List.any_eq_true, Function.comp_apply, Text.occursIn_iff_infix,
    List.isSuffixOf_iff_suffix]
  exact or_right_comm

theorem isLikely_eq_false_iff : isLikely u.content u.name = false
    ↔ ¬ SaysModel u ∧ ∀ name ∈ signProperties, ∀ gap, StandsApart gap name u.content → gap ≠ " " := by
  rw [← Bool.not_eq_true, isLikely_iff, not_or]
  refine and_congr_right fun _ => ?_
  constructor
  · rintro hno name hname gap hapart rfl
    exact hno ⟨name, hname, hapart⟩
  · rintro hgaps ⟨name, hname, hapart⟩
    exact hgaps name hname _ hapart rfl

/-! ## What the scan finds -/

theorem exists_of_search?_property {q : Pattern}
    (h : (property (literal name) ++ q).search? t = some m) :
    ∃ gap, AllBlank gap ∧ gap ≠ [] ∧ "protected".toList ++ (gap ++ name) <+: m.start.rest
      ∧ m.start.rest <:+ t := by
  obtain ⟨a, z, rfl, hmatch, -⟩ := search?_eq_some h
  rw [start_of_matchAt? hmatch]
  obtain ⟨gap, y, hblank, hne, rfl⟩ := PropertyHead.exists_of_runs (runs_ne_nil_of_matchAt? hmatch)
  exact ⟨gap, hblank, hne, ⟨y, by simp⟩, List.suffix_append _ _⟩

theorem exists_of_read (h : tableProperty.search? t = some m ∨ fillableProperty.search? t = some m) :
    ∃ name ∈ signProperties, ∃ gap, AllBlank gap ∧ gap ≠ []
      ∧ "protected".toList ++ (gap ++ name) <+: m.start.rest ∧ m.start.rest <:+ t := by
  rcases h with h | h
  · exact ⟨"$table".toList, by decide, exists_of_search?_property h⟩
  · exact ⟨"$fillable".toList, by decide, exists_of_search?_property h⟩

/-! ## The property of a table and no more -/

/-- The property of a table, with any white space between the keyword and the name. -/
def bareTable (gap : Text) : Text :=
  "protected" ++ (gap ++ ("$table" ++ ("='articles';" : Text) : Text))

/-- Its head, which is all of it up to the value. -/
def bareTableHead (hgap : AllBlank gap) (hne : gap ≠ []) : PropertyHead where
  name := "$table"
  afterKeyword := gap
  afterName := []
  afterEquals := []
  named := rfl
  parted := hne
  blankAfterKeyword := hgap
  blankAfterName := allBlank_nil
  blankAfterEquals := allBlank_nil

theorem bareTable_eq (hgap : AllBlank gap) (hne : gap ≠ []) : bareTable gap
    = (bareTableHead hgap hne).print ++ '\'' :: ("articles".toList ++ '\'' :: [';']) := by
  have hvalue : "='articles';".toList = "=".toList ++ '\'' :: ("articles".toList ++ ['\'', ';']) := by
    decide
  unfold bareTable bareTableHead PropertyHead.print
  rw [hvalue]
  simp only [List.append_assoc, List.nil_append]

theorem not_mem_bareTable (hgap : AllBlank gap) {c : Char} (hc : Text.isBlank c = false)
    (hkeyword : c ∉ "protected".toList) (hname : c ∉ "$table".toList)
    (hvalue : c ∉ "='articles';".toList) : c ∉ bareTable gap := by
  unfold bareTable
  simp only [List.mem_append, not_or]
  exact ⟨hkeyword, hgap.not_mem hc, hname, hvalue⟩

/-- The scan reads the table, whatever the white space. -/
theorem tableName_bareTable (hgap : AllBlank gap) (hne : gap ≠ []) :
    tableName name (bareTable gap) = "articles" := by
  have hunquoted : "articles".toList.all (!isQuote ·) = true := by decide
  obtain ⟨m, hmatch, htext⟩ := matchAt?_quotedProperty (bareTableHead hgap hne) (b := none)
    (z := [';']) (o := '\'') (c := '\'') (w := "articles".toList) rfl rfl
    (fun y hy => by simpa using List.all_eq_true.mp hunquoted y hy) (by decide)
  have hbefore : ¬ "$table".toList <:+: [] := mt List.infix_nil.mp (by decide)
  have hsearch : tableProperty.search? (bareTable gap) = some m := by
    rw [bareTable_eq hgap hne, ← List.nil_append (_ ++ _)]
    exact (bareTableHead hgap hne).search?_property (show 'p' ∉ "$table".toList by decide) hbefore
      hmatch
  rw [tableName, hsearch]
  exact htext

theorem not_saysModel_bareTable (hgap : AllBlank gap) (hname : ¬ "Model".toList <:+ name) :
    ¬ SaysModel ⟨name, bareTable gap, []⟩ := by
  -- The other signs have letters that do not occur in it.
  have hletters : ∀ sign ∈ otherSigns, 'x' ∈ sign ∨ 'u' ∈ sign := by decide
  rintro (⟨sign, hsign, hoccurs⟩ | hmodel)
  · rcases hletters sign hsign with hx | hu
    · exact not_mem_bareTable hgap rfl (by decide) (by decide) (by decide) (hoccurs.subset hx)
    · exact not_mem_bareTable hgap rfl (by decide) (by decide) (by decide) (hoccurs.subset hu)
  · exact hname hmodel

theorem eq_space_of_standsApart (hgap : AllBlank gap)
    (h : StandsApart " " "$table" (bareTable gap)) : gap = " " := by
  obtain ⟨a, z, heq⟩ := h
  have hword : "$table".toList = '$' :: "table".toList := by decide
  have hshape : ("protected".toList ++ gap) ++ ('$' :: "table".toList ++ "='articles';".toList)
      = (a ++ ("protected".toList ++ " ".toList)) ++ ('$' :: "table".toList ++ z) := by
    rw [← hword]
    unfold bareTable at heq
    simp only [List.append_assoc] at heq ⊢
    exact heq.symm
  -- The name begins with the only dollar sign, so it stands at one place.
  have hdollar : ∀ {t : Text}, '$' ∉ t → ¬ ('$' :: "table".toList) <:+: t :=
    fun ht hin => ht (hin.subset List.mem_cons_self)
  have hkeyword : '$' ∉ "protected".toList ++ gap := by
    rw [List.mem_append, not_or]
    exact ⟨by decide, hgap.not_mem rfl⟩
  have hbefore : "protected".toList ++ gap = (a ++ "protected".toList) ++ " ".toList := by
    rw [eq_of_occurs_once (by decide) (hdollar hkeyword) (hdollar (by decide)) hshape,
      List.append_assoc]
  have hunblank : "protected".toList.all (!Text.isBlank ·) = true := by decide
  have hends : (a ++ "protected".toList).getLast?.any Text.isBlank = false :=
    getLast?_append_any (fun y hy => by simpa using List.all_eq_true.mp hunblank y hy) (by decide)
  exact (eq_of_append_stops_behind Text.isBlank hgap allBlank_space (by decide) hends hbefore).2

/-- **One space is what the test needs.** Of a file that is the property of a table and no more, and is
    not named for a model, the table is read with any white space, and the test knows one space only. -/
theorem isLikely_bareTable_iff (hgap : AllBlank gap) (hne : gap ≠ [])
    (hname : ¬ "Model".toList <:+ name) :
    tableName name (bareTable gap) = "articles"
      ∧ (isLikely (bareTable gap) name = true ↔ gap = " ") := by
  refine ⟨tableName_bareTable hgap hne, ?_⟩
  have hlikely := isLikely_iff (u := ⟨name, bareTable gap, []⟩)
  dsimp only at hlikely
  rw [hlikely]
  constructor
  · rintro (hother | ⟨property, hproperty, hapart⟩)
    · exact absurd hother (not_saysModel_bareTable hgap hname)
    · rcases List.mem_cons.mp hproperty with rfl | hproperty
      · exact eq_space_of_standsApart hgap hapart
      · -- Nothing in it is fillable, for want of an `f`.
        have hfillable : 'f' ∈ "protected".toList ++ (" ".toList ++ property) := by
          rw [List.mem_singleton.mp hproperty]
          decide
        exact absurd (hapart.subset hfillable)
          (not_mem_bareTable hgap rfl (by decide) (by decide) (by decide))
  · rintro rfl
    refine .inr ⟨"$table".toList, List.mem_cons_self, [], "='articles';".toList, ?_⟩
    unfold bareTable
    simp only [List.nil_append, List.append_assoc]

/-! ## In a batch -/

/-- A file that is passed over adds nothing to a batch, and one that is not adds what it would without
    the test. -/
theorem findings_assemble_around (includeRelations : Bool) (interruptions : Interruptions)
    (us vs : List SourceUnit) (u : SourceUnit) :
    (assemble ⟨includeRelations, true⟩ interruptions (us ++ u :: vs)).findings
      = (assemble ⟨includeRelations, true⟩ interruptions us).findings
        ++ ((if isLikely u.content u.name = true then
            (assemble ⟨includeRelations, false⟩ interruptions [u]).findings else {})
          ++ (assemble ⟨includeRelations, true⟩ interruptions vs).findings) := by
  have hsingle : (assemble ⟨includeRelations, true⟩ interruptions [u]).findings
      = if isLikely u.content u.name = true then
          (assemble ⟨includeRelations, false⟩ interruptions [u]).findings else {} := by
    rw [findings_assemble_single, findings_assemble_single]
    split
    · next hlikely => exact contribution_of_examined fun _ => hlikely
    · next hlikely => exact contribution_of_unlikely rfl (Bool.eq_false_iff.mpr hlikely)
  rw [findings_assemble_append, ← List.singleton_append, findings_assemble_append, hsingle]

/-- **What the cheap test passes over.** The scan finds one of the two properties in a file. Then the
    match has white space between the keyword and the name, and the file is kept if that is one
    space. The file is passed over just when it says in no other way that it is a model and never has
    one space there, for either property. And in any batch, of a file that is passed over there is
    nothing, of one that is kept everything that there would be without the test. -/
theorem passedOver_exactly
    (h : tableProperty.search? u.content = some m ∨ fillableProperty.search? u.content = some m) :
    (∃ name ∈ signProperties, ∃ gap, AllBlank gap ∧ gap ≠ []
        ∧ "protected".toList ++ (gap ++ name) <+: m.start.rest ∧ m.start.rest <:+ u.content
        ∧ (gap = " " → isLikely u.content u.name = true))
      ∧ (isLikely u.content u.name = false ↔ ¬ SaysModel u
        ∧ ∀ name ∈ signProperties, ∀ gap, StandsApart gap name u.content → gap ≠ " ")
      ∧ ∀ includeRelations interruptions us vs,
        (assemble ⟨includeRelations, true⟩ interruptions (us ++ u :: vs)).findings
          = (assemble ⟨includeRelations, true⟩ interruptions us).findings
            ++ ((if isLikely u.content u.name = true then
                (assemble ⟨includeRelations, false⟩ interruptions [u]).findings else {})
              ++ (assemble ⟨includeRelations, true⟩ interruptions vs).findings) := by
  refine ⟨?_, isLikely_eq_false_iff, fun includeRelations interruptions us vs =>
    findings_assemble_around includeRelations interruptions us vs u⟩
  obtain ⟨name, hname, gap, hblank, hne, hbegins, hends⟩ := exists_of_read h
  refine ⟨name, hname, gap, hblank, hne, hbegins, hends, ?_⟩
  rintro rfl
  exact isLikely_iff.mpr (.inr ⟨name, hname, hbegins.isInfix.trans hends.isInfix⟩)

/-- A model with a table of its own, two spaces behind the keyword. -/
def twoSpaces : SourceUnit where
  name := "Post"
  content := "class Post extends BaseModel \x7b protected  $table = 'articles'; \x7d"

/-- The law at work: the scan has an entity for it, and with the test there is none. -/
theorem passedOver_exactly_twoSpaces :
    isLikely twoSpaces.content twoSpaces.name = false
      ∧ (assemble ⟨true, false⟩ uninterrupted [twoSpaces]).entities
        = [⟨"Post", "articles", [⟨"id", "bigint", true, false⟩,
            ⟨"created_at", "timestamp", false, false⟩, ⟨"updated_at", "timestamp", false, false⟩]⟩]
      ∧ (assemble ⟨true, true⟩ uninterrupted [twoSpaces]).findings = {} := by
  -- A literal is decoded at every step of the evaluation, a list is not.
  have htwoSpaces : twoSpaces = ⟨"Post", _, []⟩ :=
    congrArg (SourceUnit.mk "Post" · []) String.toList_ofList
  have hread : (tableProperty.search? twoSpaces.content).isSome = true := by
    rw [htwoSpaces]
    decide +kernel
  obtain ⟨m, hm⟩ := Option.isSome_iff_exists.mp hread
  have hunlikely : isLikely twoSpaces.content twoSpaces.name = false := by
    rw [htwoSpaces]
    decide +kernel
  have hentities : (assemble ⟨true, false⟩ uninterrupted [twoSpaces]).entities
      = [⟨"Post", "articles", [⟨"id", "bigint", true, false⟩,
            ⟨"created_at", "timestamp", false, false⟩, ⟨"updated_at", "timestamp", false, false⟩]⟩] := by
    rw [htwoSpaces]
    decide +kernel
  obtain ⟨-, -, hbatch⟩ := passedOver_exactly (u := twoSpaces) (.inl hm)
  refine ⟨hunlikely, hentities, ?_⟩
  have hfindings := hbatch true uninterrupted [] []
  rw [hunlikely] at hfindings
  exact hfindings

end Model
end EntityDiagram
