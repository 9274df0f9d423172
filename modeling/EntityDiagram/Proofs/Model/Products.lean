import EntityDiagram.Proofs.Model.Columns
import EntityDiagram.Proofs.Model.Isolation
import EntityDiagram.Proofs.Model.RelationShapes
import EntityDiagram.Proofs.Model.Selection
import EntityDiagram.Proofs.Pattern.Capturing

/-!
# What scanning can produce

A model file may hold any text at all, so of what is scanned from it little can be promised. This
module says how much. An entity has a table name that is not empty, and its columns have types that
this library knows (`Entity.Scanned`). A relationship has a method name for its label, a target that
is not empty, and the type and the words of one of the builders (`Relationship.Scanned`). Names of
attributes and of targets are promised nothing more: they may have any character in them that the
file has between quotation marks or parentheses.

Everything in an assembly comes from one of the files (`exists_of_mem_entities`,
`exists_of_mem_relationships`), so what holds of every file holds of every batch.
-/

namespace EntityDiagram

/-- What is promised of an entity that was scanned. -/
structure Entity.Scanned (e : Entity) : Prop where
  tableName : e.tableName ≠ []
  types : ∀ a ∈ e.attributes, ∃ k : ColumnType, a.type = k.name

/-- What is promised of a relationship that was scanned. -/
structure Relationship.Scanned (r : Relationship) : Prop where
  label : Model.IsMethodName r.label
  target : r.target ≠ []
  built : ∃ b : Model.Builder, r.type = b.cardinality.code ∧ r.description = b.description

namespace Model

open Pattern

variable {options : Options} {interruptions : Interruptions} {units : List SourceUnit}
variable {model source : Text} {e : Entity} {r : Relationship}

/-! ## Entities -/

theorem pluralize_ne_nil (word : Text) : Naming.pluralize word ≠ [] := by
  have hirregular : ∀ pair ∈ Naming.irregularPlurals, pair.2 ≠ [] := by decide
  unfold Naming.pluralize
  split
  · next plural hplural =>
    obtain ⟨_, _, hlist, -⟩ := List.lookup_eq_some_iff.mp hplural
    exact hirregular (word, plural) (by rw [hlist]; simp)
  · split
    · simp
    · split <;> simp

/-- The table name is what a quoted text has between its marks, or a plural. -/
theorem tableName_ne_nil (model source : Text) : tableName model source ≠ [] := by
  unfold tableName
  split
  · next m hm =>
    obtain ⟨c, hmatch⟩ := exists_of_search? hm
    have hflat : ∀ c found, tableProperty.runs c found
        = (property "$table" ++ one isQuote ++ captured (several (!isQuote ·))
          ++ one isQuote).runs c found := by
      intro c found
      unfold tableProperty looselyQuoted
      simp only [runs_append, List.flatMap_assoc]
    rw [matchAt?_congr hflat] at hmatch
    exact (covers_several (text_of_matchAt? rfl rfl rfl hmatch)).1
  · exact pluralize_ne_nil _

theorem eq_of_entity? (h : entity? model source = some e) :
    e = ⟨model, tableName model source, (declarations source).columns⟩ := by
  unfold entity? at h
  split at h
  · exact (Option.some.inj h).symm.trans (described_eq model source)
  · exact absurd h (by simp)

theorem scanned_of_entity? (h : entity? model source = some e) : e.Scanned := by
  obtain rfl := eq_of_entity? h
  refine ⟨tableName_ne_nil model source, fun a ha => ?_⟩
  obtain ⟨name, rfl⟩ := Declarations.exists_of_mem_columns ha
  exact ⟨_, rfl⟩

/-! ## Relationships -/

/-- The name of an accessor is a method name: that is what its header captures. -/
theorem isMethodName_of_mem_accessors {a : Accessor} (h : a ∈ accessors source) :
    IsMethodName a.name := by
  obtain ⟨m, hm, rfl⟩ := List.mem_map.mp h
  obtain ⟨⟨b, t⟩, hmatch⟩ := exists_of_mem_all hm
  obtain ⟨head, z, -, rfl⟩ := matchAt?_accessorHeader_iff.mp hmatch
  show IsMethodName ((head.matched b z).text 0)
  rw [head.text_matched]
  exact head.named

theorem scanned_of_mem_relationships (h : r ∈ relationships model source) : r.Scanned := by
  obtain ⟨call, hcall, hr⟩ := List.mem_filterMap.mp h
  obtain ⟨a, ha, hmade⟩ := List.mem_filterMap.mp hcall
  unfold RelationCall.relationship? at hr
  split at hr
  · exact absurd hr (by simp)
  · next htarget =>
    obtain rfl := Option.some.inj hr
    have hname : call.accessor = a.name := by
      unfold Accessor.call? at hmade
      simp only [Option.bind_eq_bind, Option.bind_eq_some_iff] at hmade
      obtain ⟨found, -, builder, -, hpure⟩ := hmade
      rw [← Option.some.inj hpure]
    refine ⟨?_, by simpa using htarget, call.builder, rfl, rfl⟩
    rw [hname]
    exact isMethodName_of_mem_accessors ha

/-! ## Files and batches -/

section Contribution

variable {u : SourceUnit}

theorem entity?_of_mem_contribution
    (h : e ∈ (contribution options interruptions u).entities) :
    entity? u.name u.content = some e := by
  rcases contribution_cases options interruptions u with
    hc | ⟨s, hc⟩ | ⟨e', he, ⟨rs, -, hc⟩ | ⟨s, hc⟩⟩ <;> rw [hc] at h
  · exact absurd h List.not_mem_nil
  · exact absurd h List.not_mem_nil
  · rw [he, List.mem_singleton.mp h]
  · rw [he, List.mem_singleton.mp h]

/-- A file that adds a relationship adds the entity that it starts from. -/
theorem origin_of_mem_contribution
    (h : r ∈ (contribution options interruptions u).relationships) :
    r ∈ relationships u.name u.content
      ∧ ∃ e ∈ (contribution options interruptions u).entities, e.name = r.source := by
  rcases contribution_cases options interruptions u with
    hc | ⟨s, hc⟩ | ⟨e, he, ⟨rs, hrs, hc⟩ | ⟨s, hc⟩⟩ <;> rw [hc] at h ⊢
  · exact absurd h List.not_mem_nil
  · exact absurd h List.not_mem_nil
  · rcases hrs with rfl | rfl
    · exact absurd h List.not_mem_nil
    · refine ⟨h, e, List.mem_singleton.mpr rfl, ?_⟩
      rw [name_of_entity? he, source_of_mem_relationships h]
  · exact absurd h List.not_mem_nil

end Contribution

theorem relationships_sum (as : List Assembly) :
    (Assembly.sum as).relationships = as.flatMap (·.relationships) := by
  induction as with
  | nil => rfl
  | cons a as ih => rw [Assembly.sum_cons, Assembly.relationships_append, ih, List.flatMap_cons]

/-- Every entity of a batch is that of one of the files. -/
theorem exists_of_mem_entities (h : e ∈ (assemble options interruptions units).entities) :
    ∃ u ∈ units, entity? u.name u.content = some e := by
  rw [← Assembly.entities_findings, findings_assemble, entities_sum, List.flatMap_map] at h
  obtain ⟨u, hu, hmem⟩ := List.mem_flatMap.mp h
  exact ⟨u, hu, entity?_of_mem_contribution hmem⟩

/-- Every relationship of a batch is one of a file whose entity is in the batch. -/
theorem exists_of_mem_relationships
    (h : r ∈ (assemble options interruptions units).relationships) :
    (∃ u ∈ units, r ∈ relationships u.name u.content)
      ∧ ∃ e ∈ (assemble options interruptions units).entities, e.name = r.source := by
  rw [← Assembly.relationships_findings, findings_assemble, relationships_sum,
    List.flatMap_map] at h
  obtain ⟨u, hu, hmem⟩ := List.mem_flatMap.mp h
  obtain ⟨hr, e, he, hname⟩ := origin_of_mem_contribution hmem
  refine ⟨⟨u, hu, hr⟩, e, ?_, hname⟩
  rw [← Assembly.entities_findings, findings_assemble, entities_sum, List.flatMap_map]
  exact List.mem_flatMap.mpr ⟨u, hu, he⟩

/-- **Whatever the files hold**, what is scanned from them keeps what is promised of it. -/
theorem scanned_assemble (options : Options) (interruptions : Interruptions)
    (units : List SourceUnit) :
    (∀ e ∈ (assemble options interruptions units).entities, e.Scanned)
      ∧ ∀ r ∈ (assemble options interruptions units).relationships, r.Scanned := by
  constructor
  · intro e he
    obtain ⟨u, -, hu⟩ := exists_of_mem_entities he
    exact scanned_of_entity? hu
  · intro r hr
    obtain ⟨⟨u, -, hu⟩, -⟩ := exists_of_mem_relationships hr
    exact scanned_of_mem_relationships hu

end Model
end EntityDiagram
