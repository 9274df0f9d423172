import Mathlib.Data.List.Forall2
import EntityDiagram.Literal
import EntityDiagram.Literal.Writing
import EntityDiagram.Generation.Run
import EntityDiagram.Proofs.Model.Products

/-!
# Reading back what was written

A schema comes from model files or from a document, and the two ways share nothing but the records
they end in. This module says that they agree: a schema written down is read back as it was
(`read_documentWith_iff`), whatever stands in the place of the edges.

That is not so for every schema. Names must not be empty, or the document is refused; nor may types
and table names be, or a default takes their place. What is scanned never has an empty type or table
name, whatever the files hold, so of a scanned schema only its names can stand in the way
(`read_document_assemble`).
-/

namespace EntityDiagram

/-- Whether nothing in an attribute is refused or replaced when it is read. -/
structure Attribute.Full (a : Attribute) : Prop where
  name : a.name ≠ []
  type : a.type ≠ []

structure Entity.Full (e : Entity) : Prop where
  name : e.name ≠ []
  tableName : e.tableName ≠ []
  attributes : ∀ a ∈ e.attributes, a.Full

structure Schema.Full (s : Schema) : Prop where
  entities_ne_nil : s.entities ≠ []
  entities : ∀ e ∈ s.entities, e.Full

namespace Checked

variable {α β γ : Type}

theorem map_eq_valid {f : α → β} {x : Checked α} {b : β} :
    f <$> x = .valid b ↔ ∃ a, x = .valid a ∧ f a = b := by
  cases x with
  | valid a => simp [Functor.map, Checked.map]
  | invalid issues => simp [Functor.map, Checked.map]

theorem seq_eq_valid {f : Checked (α → β)} {x : Checked α} {b : β} :
    f <*> x = .valid b ↔ ∃ g a, f = .valid g ∧ x = .valid a ∧ g a = b := by
  cases f <;> cases x <;> simp [Seq.seq, Checked.apply]

theorem within_eq_valid {part : Place} {x : Checked α} {a : α} :
    x.within part = .valid a ↔ x = .valid a := by
  cases x <;> simp [within]

theorem itemsFrom_eq_valid {check : β → Checked α} {i : Nat} {items : List β} {as : List α} :
    itemsFrom check i items = .valid as ↔ List.Forall₂ (fun b a => check b = .valid a) items as := by
  induction items generalizing i as with
  | nil => simp [itemsFrom, eq_comm]
  | cons b rest ih =>
    simp only [itemsFrom, seq_eq_valid, map_eq_valid, within_eq_valid, ih, List.forall₂_cons_left_iff]
    constructor
    · rintro ⟨_, as', ⟨a, ha, rfl⟩, has, rfl⟩
      exact ⟨a, as', ha, has, rfl⟩
    · rintro ⟨a, as', ha, has, rfl⟩
      exact ⟨_, as', ⟨a, ha, rfl⟩, has, rfl⟩

end Checked

/-- Documents that depend on their position too, each beside what it was made of. -/
theorem forall₂_mapIdx {α β : Type} {R : β → α → Prop} {f : Nat → α → β} {as : List α}
    (h : ∀ i, ∀ a ∈ as, R (f i a) a) : List.Forall₂ R (as.mapIdx f) as := by
  induction as generalizing f with
  | nil => exact .nil
  | cons a as ih =>
    rw [List.mapIdx_cons]
    refine .cons (h 0 a List.mem_cons_self) (ih fun i b hb => ?_)
    exact h (i + 1) b (List.mem_cons_of_mem a hb)

namespace Literal

/-! ## Values -/

theorem checkName_text_iff {t name : Text} :
    checkName (.text t) = .valid name ↔ t ≠ [] ∧ t = name := by
  cases t with
  | nil => simp [checkName, Checked.fail]
  | cons c t => simp [checkName]

theorem checkList_iff {α : Type} {check : Json → Checked α} {items : List Json} {as : List α} :
    checkList check (.list items) = .valid as
      ↔ List.Forall₂ (fun item a => check item = .valid a) items as :=
  Checked.itemsFrom_eq_valid

theorem checkList_map_iff {α : Type} {check : Json → Checked α} {write : α → Json} {as : List α} :
    checkList check (.list (as.map write)) = .valid as ↔ ∀ a ∈ as, check (write a) = .valid a := by
  rw [checkList_iff, List.forall₂_map_left_iff, List.forall₂_same]

/-! ## Records -/

theorem checkAttribute_document_iff {a : Attribute} :
    checkAttribute a.document = .valid a ↔ a.Full := by
  have hcheck : checkAttribute a.document
      = (fun name type primary nullable =>
          (⟨name, if type.isEmpty then ColumnType.string.name else type, primary, nullable⟩ : Attribute))
        <$> (checkName (.text a.name)).within (.field "name")
        <*> (Checked.valid a.type).within (.field "type")
        <*> (Checked.valid a.primary).within (.field "primary")
        <*> (Checked.valid a.nullable).within (.field "nullable") := rfl
  rw [hcheck]
  simp only [Checked.seq_eq_valid, Checked.map_eq_valid, Checked.within_eq_valid, checkName_text_iff]
  constructor
  · rintro ⟨_, nullable, ⟨_, primary, ⟨_, type, ⟨name, ⟨hne, rfl⟩, rfl⟩, htype, rfl⟩, -, rfl⟩, -, ha⟩
    obtain rfl := Checked.valid.inj htype
    refine ⟨hne, fun hempty => ?_⟩
    -- An empty type is read as that of a string column, which is not empty.
    have hread : ColumnType.string.name = [] := by
      simpa [hempty] using congrArg Attribute.type ha
    exact absurd hread (by decide)
  · intro h
    refine ⟨_, _, ⟨_, _, ⟨_, _, ⟨_, ⟨h.name, rfl⟩, rfl⟩, rfl, rfl⟩, rfl, rfl⟩, rfl, ?_⟩
    simp [h.type]

theorem defaultTableName_ne_nil (name : Text) : Naming.defaultTableName name ≠ [] :=
  Model.pluralize_ne_nil _

theorem tableOr_eq_iff {name table : Text} : tableOr name (some table) = table ↔ table ≠ [] := by
  cases table with
  | nil => simp [tableOr, defaultTableName_ne_nil]
  | cons c table => simp [tableOr]

theorem checkEntity_document_iff {e : Entity} : checkEntity e.document = .valid e ↔ e.Full := by
  have hcheck : checkEntity e.document
      = (fun name table attributes =>
          (⟨name, tableOr name table, attributes⟩ : Entity))
        <$> (checkName (.text e.name)).within (.field "name")
        <*> (Checked.valid (some e.tableName)).within (.field "tableName")
        <*> (checkList checkAttribute (.list (e.attributes.map (·.document)))).within
          (.field "attributes") := rfl
  rw [hcheck]
  simp only [Checked.seq_eq_valid, Checked.map_eq_valid, Checked.within_eq_valid, checkName_text_iff]
  constructor
  · rintro ⟨_, attributes, ⟨_, table, ⟨name, ⟨hne, rfl⟩, rfl⟩, htable, rfl⟩, hattributes, he⟩
    obtain rfl := Checked.valid.inj htable
    have htableName := congrArg Entity.tableName he
    have hsame : attributes = e.attributes := congrArg Entity.attributes he
    rw [hsame, checkList_map_iff] at hattributes
    exact ⟨hne, tableOr_eq_iff.mp htableName,
      fun a ha => checkAttribute_document_iff.mp (hattributes a ha)⟩
  · intro h
    refine ⟨_, _, ⟨_, _, ⟨_, ⟨h.name, rfl⟩, rfl⟩, rfl, rfl⟩, checkList_map_iff.mpr ?_, ?_⟩
    · exact fun a ha => checkAttribute_document_iff.mpr (h.attributes a ha)
    · rw [tableOr_eq_iff.mpr h.tableName]

/-- The edge is a field of no name that is read. -/
theorem checkRelationship_documentWith (edge : Text) (r : Relationship) :
    checkRelationship (r.documentWith edge) = .valid r := by
  obtain ⟨source, target, label, type, description⟩ := r
  cases description <;> rfl

/-! ## Schemas -/

theorem checkSchema_documentWith_iff {edges : Nat → Text} {s : Schema} :
    checkSchema (s.documentWith edges) = .valid s ↔ ∀ e ∈ s.entities, e.Full := by
  have hcheck : checkSchema (s.documentWith edges)
      = (fun entities relationships => (⟨entities, relationships⟩ : Schema))
        <$> (checkList checkEntity (.list (s.entities.map (·.document)))).within (.field "entities")
        <*> (checkList checkRelationship (.list
          (s.relationships.mapIdx fun i r => r.documentWith (edges i)))).within
          (.field "relationships") := rfl
  have hedges : checkList checkRelationship (.list
      (s.relationships.mapIdx fun i r => r.documentWith (edges i))) = .valid s.relationships :=
    checkList_iff.mpr (forall₂_mapIdx fun i r _ => checkRelationship_documentWith (edges i) r)
  rw [hcheck, hedges]
  simp only [Checked.seq_eq_valid, Checked.map_eq_valid, Checked.within_eq_valid]
  constructor
  · rintro ⟨_, relationships, ⟨entities, hentities, rfl⟩, -, hs⟩
    have hsame : entities = s.entities := congrArg Schema.entities hs
    rw [hsame, checkList_map_iff] at hentities
    exact fun e he => checkEntity_document_iff.mp (hentities e he)
  · intro h
    refine ⟨_, _, ⟨_, checkList_map_iff.mpr ?_, rfl⟩, rfl, rfl⟩
    exact fun e he => checkEntity_document_iff.mpr (h e he)

/-- **What is written is read back**, whatever stands in the place of the edges, just when nothing in
    the schema is refused or replaced. -/
theorem read_documentWith_iff {edges : Nat → Text} {s : Schema} :
    read (s.documentWith edges) = .ok s ↔ s.Full := by
  unfold read
  constructor
  · intro h
    split at h
    · exact absurd h (by simp)
    · next s' hcheck =>
      split at h
      · exact absurd h (by simp)
      · next hne =>
        obtain rfl := Except.ok.inj h
        exact ⟨by simpa using hne, checkSchema_documentWith_iff.mp hcheck⟩
  · intro h
    rw [checkSchema_documentWith_iff.mpr h.entities]
    simp [h.entities_ne_nil]

/-- A schema as it is written down has its own edges in their places. -/
theorem documentWith_edges (s : Schema) :
    s.documentWith (fun i => ((s.relationships[i]?).map (·.cardinality)).getD []) = s.document := by
  have hedges : (s.relationships.mapIdx fun i r =>
      r.documentWith (((s.relationships[i]?).map (·.cardinality)).getD []))
        = s.relationships.map (·.document) := by
    apply List.ext_getElem
    · simp
    · intro i h _
      simp at h
      simp [h, Relationship.document]
  unfold Schema.documentWith Schema.document
  rw [hedges]

/-! ## What is scanned -/

open Model Generation

theorem full_assemble {options : Options} {interruptions : Interruptions} {units : List SourceUnit}
    (hsome : (assemble options interruptions units).entities ≠ [])
    (hnames : ∀ e ∈ (assemble options interruptions units).entities,
      e.name ≠ [] ∧ ∀ a ∈ e.attributes, a.name ≠ []) :
    (assemble options interruptions units).schema.Full := by
  refine ⟨hsome, fun e he => ?_⟩
  have hscanned := (scanned_assemble options interruptions units).1 e he
  refine ⟨(hnames e he).1, hscanned.tableName, fun a ha => ⟨(hnames e he).2 a ha, ?_⟩⟩
  obtain ⟨k, hk⟩ := hscanned.types a ha
  rw [hk]
  cases k <;> decide

/-- **The two ways to a schema agree.** What is scanned from any files, if there is an entity and no
    name is empty, is read back from the document that it is written down in, with its own edges or
    with any others. So a run from that document publishes the very schema, and reports no file. -/
theorem read_document_assemble (options : Options) (interruptions : Interruptions)
    (units : List SourceUnit) (hsome : (assemble options interruptions units).entities ≠ [])
    (hnames : ∀ e ∈ (assemble options interruptions units).entities,
      e.name ≠ [] ∧ ∀ a ∈ e.attributes, a.name ≠ []) :
    let s := (assemble options interruptions units).schema
    read s.document = .ok s
      ∧ ∀ edges : Nat → Text, read (s.documentWith edges) = .ok s
        ∧ ∀ c : Config, generateFromLiteral (s.documentWith edges) c
            = do publish c s; return summarize c s [] := by
  intro s
  have hread : ∀ edges, read (s.documentWith edges) = .ok s := fun edges =>
    read_documentWith_iff.mpr (full_assemble hsome hnames)
  refine ⟨?_, fun edges => ⟨hread edges, fun c => ?_⟩⟩
  · rw [← documentWith_edges]
    exact hread _
  · unfold generateFromLiteral
    rw [hread]

/-- A model that belongs to another. -/
def book : SourceUnit where
  name := "Book"
  content := "class Book extends Model \x7b protected $fillable = ['title'];
    function author() \x7b return $this->belongsTo(Author::class); \x7d \x7d"

/-- What is scanned from it. -/
def bookSchema : Schema where
  entities := [⟨"Book", "books", [⟨"id", "bigint", true, false⟩, ⟨"title", "string", false, false⟩,
    ⟨"created_at", "timestamp", false, false⟩, ⟨"updated_at", "timestamp", false, false⟩]⟩]
  relationships := [⟨"Book", "Author", "author", "N-1", some "belongs to"⟩]

set_option maxRecDepth 4000 in
/-- The law at work, with an edge in the document that is none. -/
theorem read_document_assemble_book :
    (assemble {} uninterrupted [book]).schema = bookSchema
      ∧ read bookSchema.document = .ok bookSchema
      ∧ read (bookSchema.documentWith fun _ => "sideways") = .ok bookSchema := by
  -- A literal is decoded at every step of the evaluation, a list is not.
  have hbook : book = ⟨"Book", _, []⟩ := congrArg (SourceUnit.mk "Book" · []) String.toList_ofList
  have hscanned : (assemble {} uninterrupted [book]).schema = bookSchema := by
    rw [hbook]
    decide +kernel
  have hentities : (assemble {} uninterrupted [book]).entities = bookSchema.entities := by
    rw [← hscanned, Assembly.entities_schema]
  have hsome : bookSchema.entities ≠ [] := by simp [bookSchema]
  have hnames : ∀ e ∈ bookSchema.entities, e.name ≠ [] ∧ ∀ a ∈ e.attributes, a.name ≠ [] := by
    decide +kernel
  have hlaw := read_document_assemble {} uninterrupted [book] (by rw [hentities]; exact hsome)
    (by rw [hentities]; exact hnames)
  simp only [hscanned] at hlaw
  exact ⟨hscanned, hlaw.1, (hlaw.2 _).1⟩

end Literal
end EntityDiagram
