import Mathlib.Algebra.BigOperators.Group.List.Basic
import Mathlib.Algebra.GroupWithZero.Nat
import EntityDiagram.Proofs.Diagram
import EntityDiagram.Proofs.Model.Products

/-!
# How many lines a scanned diagram has

A diagram is meant to have one line for each thing drawn. Its text has one line feed for each of its
lines, and besides those the line feeds that the names in it have (`lineFeeds_render`). So the
question is which names can have one.

Of what is scanned, most cannot: labels are method names, types and edges come from this library.
The two that can are names of attributes and targets of relationships, because both are taken from a
file as they stand between quotation marks or parentheses, and these may be lines apart. That this
happens is shown at the end. The law therefore counts the line feeds in these two
(`lineFeeds_render_scanned`), and says that nothing else breaks a line.
-/

namespace EntityDiagram

def Text.lineFeeds (t : Text) : Nat := t.count '\n'

@[simp] theorem Text.lineFeeds_append (t u : Text) :
    Text.lineFeeds (t ++ u) = Text.lineFeeds t + Text.lineFeeds u := List.count_append

theorem Text.lineFeeds_flatMap {α : Type} (xs : List α) (f : α → Text) :
    Text.lineFeeds (xs.flatMap f) = (xs.map fun x => Text.lineFeeds (f x)).sum :=
  List.count_flatMap

theorem Text.lineFeeds_eq_zero {t : Text} : Text.lineFeeds t = 0 ↔ '\n' ∉ t := List.count_eq_zero

namespace Diagram

/-- The line feeds that a diagram of the schema is meant to have: three for what stands above, one
    for each attribute, three more for each entity, and one for each relationship. -/
def meantLineFeeds (s : Schema) : Nat :=
  3 + (s.entities.map fun e => e.attributes.length + 3).sum + s.relationships.length

/-- The line feeds in the names of attributes and in the targets of relationships. -/
def strayLineFeeds (s : Schema) : Nat :=
  (s.entities.map fun e => (e.attributes.map fun a => Text.lineFeeds a.name).sum).sum
    + (s.relationships.map fun r => Text.lineFeeds r.target).sum

theorem strayLineFeeds_eq_zero {s : Schema} : strayLineFeeds s = 0
    ↔ (∀ e ∈ s.entities, ∀ a ∈ e.attributes, '\n' ∉ a.name)
      ∧ ∀ r ∈ s.relationships, '\n' ∉ r.target := by
  unfold strayLineFeeds
  simp only [Nat.add_eq_zero_iff, List.sum_eq_zero_iff_forall_eq_nat, List.mem_map,
    forall_exists_index, and_imp, forall_apply_eq_imp_iff₂, Text.lineFeeds_eq_zero]

/-! ## The lines -/

theorem lineFeeds_edgeSymbol (type : Text) : Text.lineFeeds (edgeSymbol type) = 0 := by
  unfold edgeSymbol
  split
  · next k _ => cases k <;> rfl
  · rfl

theorem lineFeeds_attributeLine (a : Attribute) :
    Text.lineFeeds (attributeLine a) = Text.lineFeeds a.type + Text.lineFeeds a.name := by
  have htype : Text.lineFeeds (if a.type.isEmpty then ColumnType.string.name else a.type)
      = Text.lineFeeds a.type := by
    split
    · next h => rw [List.isEmpty_iff.mp h]; rfl
    · rfl
  have hprimary : Text.lineFeeds (if a.primary then (" PK" : Text) else []) = 0 := by
    split <;> rfl
  have hnullable : Text.lineFeeds (if a.nullable then (" NULL" : Text) else []) = 0 := by
    split <;> rfl
  unfold attributeLine
  simp only [Text.lineFeeds_append, htype, hprimary, hnullable]
  simp [indent, Text.lineFeeds]

theorem lineFeeds_relationshipLine (r : Relationship) :
    Text.lineFeeds (relationshipLine r)
      = Text.lineFeeds r.source + Text.lineFeeds r.target + Text.lineFeeds r.label := by
  unfold relationshipLine
  simp only [Text.lineFeeds_append, Relationship.cardinality, lineFeeds_edgeSymbol]
  simp [indent, Text.lineFeeds]

/-- Lines under each other have one line feed each, and those that are in them. -/
theorem lineFeeds_ended (ls : List Text) :
    Text.lineFeeds (ls.flatMap (· ++ ['\n'])) = ls.length + (ls.map Text.lineFeeds).sum := by
  induction ls with
  | nil => rfl
  | cons line ls ih =>
    have hend : Text.lineFeeds ['\n'] = 1 := rfl
    rw [List.flatMap_cons, Text.lineFeeds_append, Text.lineFeeds_append, ih, hend, List.map_cons,
      List.sum_cons, List.length_cons]
    omega

theorem lineFeeds_entityBlock (e : Entity) :
    Text.lineFeeds ((entityBlock e ++ [[]]).flatMap (· ++ ['\n']))
      = e.attributes.length + 3 + (Text.lineFeeds e.name
        + (e.attributes.map fun a => Text.lineFeeds a.type + Text.lineFeeds a.name).sum) := by
  have hheader : Text.lineFeeds (indent ++ e.name ++ (" \x7b" : Text)) = Text.lineFeeds e.name := by
    simp [indent, Text.lineFeeds]
  have hattributes : (e.attributes.map attributeLine).map Text.lineFeeds
      = e.attributes.map fun a => Text.lineFeeds a.type + Text.lineFeeds a.name := by
    simp only [List.map_map, Function.comp_def, lineFeeds_attributeLine]
  have hclosing : Text.lineFeeds (indent ++ ("\x7d" : Text)) = 0 := by decide
  have hempty : Text.lineFeeds [] = 0 := rfl
  unfold entityBlock
  simp only [lineFeeds_ended, List.map_append, List.sum_append, List.map_cons, List.map_nil, List.sum_cons,
    List.sum_nil, hheader, hattributes, hclosing, hempty, List.length_append, List.length_cons,
    List.length_nil, List.length_map]
  omega

/-- **The line feeds of a diagram**, whatever its schema and title: those that end its lines, and
    those that stand in what is drawn. -/
theorem lineFeeds_render (s : Schema) (title : Text) :
    Text.lineFeeds (render s title) = 3 + Text.lineFeeds title
      + (s.entities.map fun e => e.attributes.length + 3 + (Text.lineFeeds e.name
          + (e.attributes.map fun a => Text.lineFeeds a.type + Text.lineFeeds a.name).sum)).sum
      + (s.relationships.map fun r =>
          1 + (Text.lineFeeds r.source + Text.lineFeeds r.target + Text.lineFeeds r.label)).sum := by
  have htop : Text.lineFeeds
      (([("erDiagram" : Text), indent ++ ("%% " : Text) ++ title, []] : List Text).flatMap
        (· ++ ['\n'])) = 3 + Text.lineFeeds title := by
    simp [indent, Text.lineFeeds]
    omega
  have hentities : Text.lineFeeds
      ((s.entities.flatMap fun e => entityBlock e ++ [[]]).flatMap (· ++ ['\n']))
        = (s.entities.map fun e => e.attributes.length + 3 + (Text.lineFeeds e.name
          + (e.attributes.map fun a => Text.lineFeeds a.type + Text.lineFeeds a.name).sum)).sum := by
    rw [List.flatMap_assoc, Text.lineFeeds_flatMap]
    simp only [lineFeeds_entityBlock]
  have hrelationships : Text.lineFeeds
      ((s.relationships.map relationshipLine).flatMap (· ++ ['\n']))
        = (s.relationships.map fun r => 1 + (Text.lineFeeds r.source + Text.lineFeeds r.target
          + Text.lineFeeds r.label)).sum := by
    have hend : Text.lineFeeds ['\n'] = 1 := rfl
    simp only [List.flatMap_map, Text.lineFeeds_flatMap, Text.lineFeeds_append,
      lineFeeds_relationshipLine, hend, Nat.add_comm 1]
  rw [render, lines, List.flatMap_append, List.flatMap_append, Text.lineFeeds_append,
    Text.lineFeeds_append, htop, hentities, hrelationships]

/-- When titles, labels, types and the names of entities have none, all others are stray. -/
theorem lineFeeds_render_of_quiet {s : Schema} {title : Text} (htitle : '\n' ∉ title)
    (hentities : ∀ e ∈ s.entities, '\n' ∉ e.name ∧ ∀ a ∈ e.attributes, '\n' ∉ a.type)
    (hrelationships : ∀ r ∈ s.relationships, '\n' ∉ r.source ∧ '\n' ∉ r.label) :
    Text.lineFeeds (render s title) = meantLineFeeds s + strayLineFeeds s := by
  have hattributes : ∀ e ∈ s.entities, e.attributes.length + 3 + (Text.lineFeeds e.name
      + (e.attributes.map fun a => Text.lineFeeds a.type + Text.lineFeeds a.name).sum)
        = e.attributes.length + 3 + (e.attributes.map fun a => Text.lineFeeds a.name).sum := by
    intro e he
    obtain ⟨hname, htypes⟩ := hentities e he
    have hmap : e.attributes.map (fun a => Text.lineFeeds a.type + Text.lineFeeds a.name)
        = e.attributes.map fun a => Text.lineFeeds a.name := by
      refine List.map_congr_left fun a ha => ?_
      rw [Text.lineFeeds_eq_zero.mpr (htypes a ha), Nat.zero_add]
    rw [hmap, Text.lineFeeds_eq_zero.mpr hname, Nat.zero_add]
  have hedges : ∀ r ∈ s.relationships,
      1 + (Text.lineFeeds r.source + Text.lineFeeds r.target + Text.lineFeeds r.label)
        = 1 + Text.lineFeeds r.target := by
    intro r hr
    obtain ⟨hsource, hlabel⟩ := hrelationships r hr
    rw [Text.lineFeeds_eq_zero.mpr hsource, Text.lineFeeds_eq_zero.mpr hlabel, Nat.zero_add,
      Nat.add_zero]
  have hended : (s.relationships.map fun r => 1 + Text.lineFeeds r.target).sum
      = s.relationships.length + (s.relationships.map fun r => Text.lineFeeds r.target).sum := by
    rw [List.sum_map_add, List.map_const', List.sum_replicate_nat, Nat.mul_one]
  rw [lineFeeds_render, Text.lineFeeds_eq_zero.mpr htitle, List.map_congr_left hattributes,
    List.map_congr_left hedges, hended, List.sum_map_add, meantLineFeeds, strayLineFeeds]
  omega

theorem length_lines (s : Schema) (title : Text) :
    (lines s title).length = meantLineFeeds s := by
  have hblock : ∀ e : Entity, (entityBlock e ++ [[]]).length = e.attributes.length + 3 := by
    intro e
    simp [entityBlock]
  simp only [lines, meantLineFeeds, List.length_append, List.length_flatMap, List.length_map, hblock]
  rfl

/-- A diagram cut at its line feeds is its lines, just when no line has one in it. -/
theorem split_render_iff {s : Schema} {title : Text} :
    Text.split '\n' (render s title) = lines s title ++ [[]]
      ↔ ∀ line ∈ lines s title, '\n' ∉ line := by
  constructor
  · intro h line hline
    refine Text.not_mem_of_mem_split (t := render s title) ?_
    rw [h]
    exact List.mem_append_left _ hline
  · exact Text.split_flatMap

theorem split_render_of_quiet {s : Schema} {title : Text}
    (h : Text.lineFeeds (render s title) = meantLineFeeds s + strayLineFeeds s) :
    Text.split '\n' (render s title) = lines s title ++ [[]] ↔ strayLineFeeds s = 0 := by
  have hsum : ((lines s title).map Text.lineFeeds).sum = strayLineFeeds s := by
    rw [render, lineFeeds_ended, length_lines] at h
    omega
  rw [split_render_iff, ← hsum, List.sum_eq_zero_iff_forall_eq_nat]
  simp only [List.mem_map, forall_exists_index, and_imp, forall_apply_eq_imp_iff₂,
    Text.lineFeeds_eq_zero]

/-! ## What is scanned -/

theorem not_mem_columnType (k : ColumnType) : '\n' ∉ k.name := by
  cases k <;> decide

theorem not_mem_methodName {name : Text} (h : Model.IsMethodName name) : '\n' ∉ name := by
  obtain ⟨c, w, rfl, hc, hw⟩ := h
  intro hmem
  rcases List.mem_cons.mp hmem with rfl | hmem
  · exact absurd hc (by decide)
  · exact absurd (hw _ hmem) (by decide)

/-- A name with a line feed was declared as it is: the columns that come of themselves have none. -/
theorem declared_of_mem_lineFeed {source : Text} {a : Attribute}
    (ha : a ∈ (Model.declarations source).columns) (h : '\n' ∈ a.name) :
    a.name ∈ Model.fillable source ∨ a.name ∈ (Model.casts source).map (·.1) := by
  obtain ⟨name, hname, rfl⟩ := List.mem_map.mp ha
  have hkey : ∀ name ∈ [Model.syntheticKey.name], '\n' ∉ name := by decide
  have hstamps : ∀ name ∈ Model.timestampNames, '\n' ∉ name := by decide
  simp only [Model.Declarations.columnNames, List.mem_eraseDups, List.mem_append] at hname
  rcases hname with ((hname | hname) | hname) | hname
  · unfold Model.Declarations.keyNames at hname
    split at hname
    · exact absurd h (hkey name hname)
    · exact absurd hname List.not_mem_nil
  · exact .inl hname
  · exact .inr hname
  · unfold Model.Declarations.stampNames at hname
    split at hname
    · exact absurd h (hstamps name hname)
    · exact absurd hname List.not_mem_nil

open Model in
/-- **Only names of attributes and targets break a line.** When the files' names and the title have
    no line feed, the diagram scanned from the files has a line feed for each of its lines and one
    for each that stands in the name of an attribute or in the target of a relationship. It is cut at
    its line feeds into its lines just when these have none. Nothing else that is drawn has one, and
    an attribute whose name has one was declared under that very name. -/
theorem lineFeeds_render_scanned (options : Options) (interruptions : Interruptions)
    (units : List SourceUnit) (title : Text) (hunits : ∀ u ∈ units, '\n' ∉ u.name)
    (htitle : '\n' ∉ title) :
    let s := (assemble options interruptions units).schema
    let unbroken := (∀ e ∈ s.entities, ∀ a ∈ e.attributes, '\n' ∉ a.name)
      ∧ ∀ r ∈ s.relationships, '\n' ∉ r.target
    Text.lineFeeds (render s title) = meantLineFeeds s + strayLineFeeds s
      ∧ (Text.lineFeeds (render s title) = meantLineFeeds s ↔ unbroken)
      ∧ (Text.split '\n' (render s title) = lines s title ++ [[]] ↔ unbroken)
      ∧ (∀ e ∈ s.entities, '\n' ∉ e.name ∧ ∀ a ∈ e.attributes, '\n' ∉ a.type
          ∧ ('\n' ∈ a.name → ∃ u ∈ units, u.name = e.name
              ∧ (a.name ∈ fillable u.content ∨ a.name ∈ (casts u.content).map (·.1))))
      ∧ ∀ r ∈ s.relationships, '\n' ∉ r.source ∧ '\n' ∉ r.label := by
  intro s unbroken
  obtain ⟨hentities, hrelationships⟩ := scanned_assemble options interruptions units
  have hquiet : ∀ e ∈ s.entities, '\n' ∉ e.name ∧ ∀ a ∈ e.attributes, '\n' ∉ a.type
      ∧ ('\n' ∈ a.name → ∃ u ∈ units, u.name = e.name
          ∧ (a.name ∈ fillable u.content ∨ a.name ∈ (casts u.content).map (·.1))) := by
    intro e he
    obtain ⟨u, hu, hfound⟩ := exists_of_mem_entities he
    have hname := name_of_entity? hfound
    refine ⟨hname ▸ hunits u hu, fun a ha => ⟨?_, fun hbreak => ⟨u, hu, hname.symm, ?_⟩⟩⟩
    · obtain ⟨k, hk⟩ := (hentities e he).types a ha
      rw [hk]
      exact not_mem_columnType k
    · obtain rfl := eq_of_entity? hfound
      exact declared_of_mem_lineFeed ha hbreak
  have hedges : ∀ r ∈ s.relationships, '\n' ∉ r.source ∧ '\n' ∉ r.label := by
    intro r hr
    obtain ⟨-, e, he, hsource⟩ := exists_of_mem_relationships hr
    exact ⟨hsource ▸ (hquiet e he).1, not_mem_methodName (hrelationships r hr).label⟩
  have hcount : Text.lineFeeds (render s title) = meantLineFeeds s + strayLineFeeds s :=
    lineFeeds_render_of_quiet htitle
      (fun e he => ⟨(hquiet e he).1, fun a ha => ((hquiet e he).2 a ha).1⟩) hedges
  refine ⟨hcount, ?_, ?_, hquiet, hedges⟩
  · rw [hcount, Nat.add_eq_left]
    exact strayLineFeeds_eq_zero
  · rw [split_render_of_quiet hcount]
    exact strayLineFeeds_eq_zero

/-- A model whose list of fields has a remark in it, and in the remark an apostrophe. -/
def remarked : SourceUnit where
  name := "User"
  content := "<?php
class User extends Model
\x7b
    protected $fillable = [
        'name', // the user's name
        'email',
    ];
\x7d
"
  path := "User.php"

/-- What is scanned from it. -/
def remarkedEntity : Entity where
  name := "User"
  tableName := "users"
  attributes := [⟨"id", "bigint", true, false⟩, ⟨"name", "string", false, false⟩,
    ⟨"s name\n        ", "string", false, false⟩, ⟨"created_at", "timestamp", false, false⟩,
    ⟨"updated_at", "timestamp", false, false⟩]

set_option maxRecDepth 4000 in
open Model in
/-- The law at work where a line breaks. The apostrophe is taken for the mark that opens the next
    field, so a field goes on over the end of its line, and `email` is lost. -/
theorem lineFeeds_render_scanned_remarked :
    let s : Schema := ⟨[remarkedEntity], []⟩
    (assemble {} uninterrupted [remarked]).schema = s
      ∧ meantLineFeeds s = 11 ∧ Text.lineFeeds (render s "Shop") = 12
      ∧ Text.split '\n' (render s "Shop") ≠ lines s "Shop" ++ [[]] := by
  intro s
  -- A literal is decoded at every step of the evaluation, a list is not.
  have hremarked : remarked = ⟨"User", _, "User.php"⟩ :=
    congrArg (SourceUnit.mk "User" · "User.php") String.toList_ofList
  have hscanned : (assemble {} uninterrupted [remarked]).schema = s := by
    rw [hremarked]
    decide +kernel
  have hlaw := lineFeeds_render_scanned {} uninterrupted [remarked] "Shop" (by decide) (by decide)
  simp only [hscanned] at hlaw
  obtain ⟨hcount, hexact, hcut, -⟩ := hlaw
  have hmeant : meantLineFeeds s = 11 := by decide +kernel
  have hstray : strayLineFeeds s = 1 := by decide +kernel
  have hbroken : Text.lineFeeds (render s "Shop") ≠ meantLineFeeds s := by
    rw [hcount, hstray]
    exact Nat.succ_ne_self _
  refine ⟨hscanned, hmeant, ?_, fun h => hbroken (hexact.mpr (hcut.mp h))⟩
  rw [hcount, hmeant, hstray]

end Diagram
end EntityDiagram
