import EntityDiagram.Proofs.Model.Shapes
import EntityDiagram.Proofs.Model.Switches

/-!
# The declarations read from a printed file

Each declaration of a printed file is found where it was printed, and what is found is what was
printed. The part before it does not have its name, which is what `search?_property` asks for, and the
part behind it does not matter, since the quotation or the array ends where it was closed.

The entries of an array are read one by one. The comma behind an entry is left to the next search,
which passes over it.
-/

namespace EntityDiagram
namespace Model

open Pattern

variable {b : Option Char}

/-! ## The entries of an array -/

theorem printField_append (field : Identifier) (z : Text) :
    Description.printField field ++ z
      = "\n        ".toList ++ '\'' :: (field.text ++ '\'' :: (",".toList ++ z)) := by
  unfold Description.printField
  rw [List.append_assoc, List.append_assoc]
  rfl

theorem printCast_append (field : Identifier) (cast : CastText) (z : Text) :
    Description.printCast (field, cast) ++ z
      = "\n        ".toList ++ '\'' :: (field.text ++ '\'' :: (" ".toList ++ ("=>".toList
        ++ (" ".toList ++ '\'' :: (cast.text ++ '\'' :: (",".toList ++ z)))))) := by
  unfold Description.printCast
  rw [List.append_assoc, List.append_assoc, List.append_assoc, List.append_assoc]
  rfl

theorem allFrom_printField (fields : List Identifier) :
    (quotedText.allFrom 0 b (fields.flatMap Description.printField ++ "\n    ".toList)).map (·.text 0)
      = fields.map (·.text) := by
  induction fields generalizing b with
  | nil =>
    have hend : Quiet quotedText b "\n    ".toList := quiet_quotedText (by decide)
    rw [List.flatMap_nil, List.nil_append, allFrom_of_quiet hend]
    rfl
  | cons field rest ih =>
    have hsep : "\n        ".toList.all (!isQuote ·) = true := by decide
    have hopen : isQuote '\'' = true := rfl
    obtain ⟨m, hall, htext⟩ := allFrom_quotedText (b := b)
      (z := ",".toList ++ (rest.flatMap Description.printField ++ "\n    ".toList)) hsep hopen
      (field.not_mem (by decide)) field.ne_nil
    have hcomma : Quiet quotedText (some '\'') ",".toList := quiet_quotedText (by decide)
    rw [List.flatMap_cons, List.append_assoc, printField_append, hall, List.map_cons, htext,
      allFrom_append hcomma, ih, List.map_cons]

theorem allFrom_printCast (entries : List (Identifier × CastText)) :
    (castPair.allFrom 0 b (entries.flatMap Description.printCast ++ "\n    ".toList)).map
        (fun m => (Text.strip (m.text 0), Text.strip (m.text 1)))
      = entries.map fun entry => (entry.1.text, entry.2.text) := by
  induction entries generalizing b with
  | nil =>
    have hend : Quiet castPair b "\n    ".toList := quiet_castPair (by decide)
    rw [List.flatMap_nil, List.nil_append, allFrom_of_quiet hend]
    rfl
  | cons entry rest ih =>
    obtain ⟨field, cast⟩ := entry
    have hsep : "\n        ".toList.all (!isQuote ·) = true := by decide
    have hmark : isQuote '\'' = true := rfl
    have hspace : AllBlank " ".toList := by decide
    obtain ⟨m, hall, hfield, hcast⟩ := allFrom_castPair (b := b)
      (z := ",".toList ++ (rest.flatMap Description.printCast ++ "\n    ".toList)) hsep hmark hmark
      hmark hmark hspace hspace field.not_isQuote_of_mem cast.not_isQuote_of_mem field.ne_nil
      cast.nonempty
    have hcomma : Quiet castPair (some '\'') ",".toList := quiet_castPair (by decide)
    rw [List.flatMap_cons, List.append_assoc, printCast_append, hall, List.map_cons, hfield, hcast,
      allFrom_append hcomma, ih, field.strip_text, cast.strip_text, List.map_cons]

/-! ## What stands where -/

def printedHead (name : Text) (h : name.head?.any (!Text.isBlank ·) = true) : PropertyHead where
  name := name
  named := h
  parted := space_ne_nil
  blankAfterKeyword := allBlank_space
  blankAfterName := allBlank_space
  blankAfterEquals := allBlank_space

namespace Description

variable (d : Description)

theorem bracket_not_mem_fields : ']' ∉ d.fillable.flatMap printField ++ "\n    ".toList := by
  intro h
  rcases List.mem_append.mp h with h | h
  · obtain ⟨field, -, h⟩ := List.mem_flatMap.mp h
    unfold printField at h
    simp only [List.mem_append] at h
    rcases h with (h | h) | h
    · exact absurd h (by decide)
    · exact field.not_mem (by decide) h
    · exact absurd h (by decide)
  · exact absurd h (by decide)

theorem bracket_not_mem_castEntries : ']' ∉ d.casts.flatMap printCast ++ "\n    ".toList := by
  intro h
  rcases List.mem_append.mp h with h | h
  · exact d.not_mem_castEntries (by decide) (by decide) (by decide) h
  · exact absurd h (by decide)

/-- An array in print, with the brackets around it. -/
theorem array_eq {front indent head : Text} (h : front = indent ++ (head ++ ['[']))
    (entries z : Text) : front ++ entries ++ ("\n    ]".toList ++ z)
      = indent ++ (head ++ '[' :: ((entries ++ "\n    ".toList) ++ ']' :: z)) := by
  rw [h]
  simp only [List.append_assoc]
  rfl

theorem printFillable_eq : d.printFillable = "    ".toList
    ++ ((printedHead "$fillable".toList (by decide)).print ++ '[' ::
      ((d.fillable.flatMap printField ++ "\n    ".toList) ++ ']' :: ";\n\n".toList)) := by
  have hfront : "    protected $fillable = [".toList = "    ".toList
      ++ ((printedHead "$fillable".toList (by decide)).print ++ ['[']) := rfl
  unfold printFillable
  exact array_eq hfront _ ";\n\n".toList

theorem printCasts_property (h : d.castsForm = .property) : d.printCasts = "    ".toList
    ++ ((printedHead "$casts".toList (by decide)).print ++ '[' ::
      ((d.casts.flatMap printCast ++ "\n    ".toList) ++ ']' :: ";\n\n".toList)) := by
  have hfront : "    protected $casts = [".toList = "    ".toList
      ++ ((printedHead "$casts".toList (by decide)).print ++ ['[']) := rfl
  unfold printCasts
  rw [h]
  exact array_eq hfront _ ";\n\n".toList

theorem printCasts_method (h : d.castsForm = .method) : d.printCasts = "    protected ".toList
    ++ (castsMethodHead ++ '[' ::
      ((d.casts.flatMap printCast ++ "\n    ".toList) ++ ']' :: ";\n    \x7d\n\n".toList)) := by
  have hfront : "    protected function casts(): array\n    \x7b\n        return [".toList
      = "    protected ".toList ++ (castsMethodHead ++ ['[']) := rfl
  unfold printCasts
  rw [h]
  exact array_eq hfront _ ";\n    \x7d\n\n".toList

/-! ## What is read -/

theorem tableName_print : tableName d.name.text d.print = d.entity.tableName := by
  unfold tableName entity
  cases htable : d.table with
  | none =>
    have hno : tableProperty.search? d.print = none :=
      PropertyHead.search?_property_eq_none ((d.lacks_table htable).not_occurs (by decide))
    rw [hno]
  | some table =>
    let head := printedHead "$table".toList (by decide)
    obtain ⟨z, hprint⟩ : ∃ z, d.print
        = (d.opening ++ "    ".toList) ++ (head.print ++ '\'' :: (table.text ++ '\'' :: z)) := by
      obtain ⟨rest, hrest⟩ : ∃ rest, d.print = d.opening ++ (d.printTable ++ rest) := ⟨_, rfl⟩
      refine ⟨";\n\n".toList ++ rest, ?_⟩
      unfold printTable at hrest
      rw [htable] at hrest
      rw [hrest]
      simp only [List.append_assoc]
      rfl
    have hbefore : ¬ "$table".toList <:+: d.opening ++ "    ".toList := by
      have hmarked : marked [] (d.opening ++ "    ".toList) = true :=
        marked_append d.marked_opening (by decide)
      exact not_infix_of_marked hmarked (by simp)
    obtain ⟨m, hmatch, htext⟩ := matchAt?_quotedProperty (b := pass none (d.opening ++ "    ".toList))
      head (o := '\'') (c := '\'') rfl rfl table.not_isQuote_of_mem table.ne_nil
    have hfound : tableProperty.search? d.print = some m := by
      rw [hprint]
      exact head.search?_property (by decide) hbefore hmatch
    rw [hfound]
    exact htext

theorem search?_fillableProperty_print : ∃ m, fillableProperty.search? d.print = some m
    ∧ m.text 0 = d.fillable.flatMap printField ++ "\n    ".toList := by
  let head := printedHead "$fillable".toList (by decide)
  obtain ⟨z, hprint⟩ : ∃ z, d.print = (d.beforeFillable ++ "    ".toList) ++ (head.print ++ '[' ::
      ((d.fillable.flatMap printField ++ "\n    ".toList) ++ ']' :: z)) := by
    refine ⟨";\n\n".toList ++ (d.printCasts ++ (d.printRelations ++ "\x7d\n".toList)), ?_⟩
    rw [d.print_eq, beforeCasts, d.printFillable_eq]
    simp only [List.append_assoc, List.cons_append, head]
  rw [hprint]
  exact head.search?_array (by decide) d.not_occurs_beforeFillable d.bracket_not_mem_fields

theorem fillable_print : Model.fillable d.print = d.fillable.map (·.text) := by
  obtain ⟨m, hfound, htext⟩ := d.search?_fillableProperty_print
  unfold Model.fillable
  rw [hfound]
  dsimp only
  rw [htext]
  exact allFrom_printField d.fillable

/-- The casts in the one form are found as a property. -/
theorem search?_castsProperty_print (h : d.castsForm = .property) :
    ∃ m, castsProperty.search? d.print = some m
      ∧ m.text 0 = d.casts.flatMap printCast ++ "\n    ".toList := by
  let head := printedHead "$casts".toList (by decide)
  obtain ⟨z, hprint⟩ : ∃ z, d.print = (d.beforeCasts ++ "    ".toList) ++ (head.print ++ '[' ::
      ((d.casts.flatMap printCast ++ "\n    ".toList) ++ ']' :: z)) := by
    refine ⟨";\n\n".toList ++ (d.printRelations ++ "\x7d\n".toList), ?_⟩
    rw [d.print_eq, d.printCasts_property h]
    simp only [List.append_assoc, List.cons_append, head]
  rw [hprint]
  exact head.search?_array (by decide) d.not_occurs_beforeCasts d.bracket_not_mem_castEntries

/-- And in the other form they are not, but as a method. -/
theorem search?_castsMethod_print (h : d.castsForm = .method) :
    castsProperty.search? d.print = none ∧ ∃ m, castsMethod.search? d.print = some m
      ∧ m.text 0 = d.casts.flatMap printCast ++ "\n    ".toList := by
  have hquiet : Quiet castsMethod none (d.beforeCasts ++ "    protected ".toList) := by
    apply Quiet.append (keywordShape_castsMethod.quiet_beforeCasts d)
    exact keywordShape_castsMethod.quiet_fixed (by decide)
  constructor
  · exact PropertyHead.search?_property_eq_none ((d.lacks_casts h).not_occurs (by decide))
  · obtain ⟨z, hprint⟩ : ∃ z, d.print = (d.beforeCasts ++ "    protected ".toList)
        ++ (castsMethodHead ++ '[' ::
          ((d.casts.flatMap printCast ++ "\n    ".toList) ++ ']' :: z)) := by
      refine ⟨";\n    \x7d\n\n".toList ++ (d.printRelations ++ "\x7d\n".toList), ?_⟩
      rw [d.print_eq, d.printCasts_method h]
      simp only [List.append_assoc, List.cons_append]
    obtain ⟨m, hmatch, htext⟩ := matchAt?_castsMethod
      (b := pass none (d.beforeCasts ++ "    protected ".toList)) (z := z)
      d.bracket_not_mem_castEntries
    rw [hprint]
    exact ⟨m, search?_of_match hquiet hmatch, htext⟩

theorem casts_print : Model.casts d.print = d.casts.map fun entry => (entry.1.text, entry.2.text) := by
  obtain ⟨m, hfound, htext⟩ : ∃ m, (castsProperty.search? d.print <|> castsMethod.search? d.print)
      = some m ∧ m.text 0 = d.casts.flatMap printCast ++ "\n    ".toList := by
    cases hform : d.castsForm with
    | property =>
      obtain ⟨m, hfound, htext⟩ := d.search?_castsProperty_print hform
      refine ⟨m, ?_, htext⟩
      rw [hfound]
      rfl
    | method =>
      obtain ⟨hno, m, hfound, htext⟩ := d.search?_castsMethod_print hform
      refine ⟨m, ?_, htext⟩
      rw [hno, hfound]
      rfl
  unfold Model.casts
  rw [hfound]
  dsimp only
  rw [htext]
  exact allFrom_printCast d.casts

/-- **What a printed file declares is what it was printed from.** -/
theorem declarations_print : Model.declarations d.print = d.declarations := by
  unfold Model.declarations declarations
  rw [d.hasSyntheticKey_print, d.fillable_print, d.casts_print, d.hasTimestamps_print]

theorem entity?_print : entity? d.name.text d.print = some d.entity := by
  unfold entity?
  rw [if_pos d.isConcrete_print, described_eq, d.tableName_print, d.declarations_print]
  rfl

end Description
end Model
end EntityDiagram
