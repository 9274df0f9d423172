import Mathlib.Data.List.Nodup
import EntityDiagram.Proofs.Literal.Format

/-!
# Names written twice

An entity that is scanned has no two attributes of one name, because each is added only if its name
is not there yet. A document is read without that test. Its attributes become those of the schema
one by one, under the names that it gives them, and a name that comes twice stays twice.

So what is read has the names that are written (`names_read`). Of two attributes of one name both are
drawn, while looking the name up stops at the first of them (`Entity.place?_eq_some_iff`). Whether
look-up finds every attribute is decided by the document alone, and documents decide it either way:
whatever names a schema has, it is read from some document (`exists_read_eq_ok_iff`).
-/

namespace EntityDiagram

/-! ## Looking up a name -/

namespace Entity

variable {e : Entity} {a : Attribute} {i : Nat}

/-- The place of the attribute at which looking up a name stops. -/
def place? (e : Entity) (name : Text) : Option Nat := e.attributes.findIdx? (·.name == name)

theorem attribute?_eq (e : Entity) (name : Text) :
    e.attribute? name = (e.place? name).bind fun i => e.attributes[i]? :=
  List.find?_eq_bind_findIdx?_getElem?

/-- An attribute is found under its name unless the name comes before it. -/
theorem place?_eq_some_iff (ha : e.attributes[i]? = some a) :
    e.place? a.name = some i ↔ ∀ j < i, e.attributeNames[j]? ≠ some a.name := by
  obtain ⟨hi, rfl⟩ := List.getElem?_eq_some_iff.mp ha
  unfold place? attributeNames
  rw [List.findIdx?_eq_some_iff_getElem]
  constructor
  · intro h j hj
    obtain ⟨_, _, hbefore⟩ := h
    have hj' : j < e.attributes.length := Nat.lt_trans hj hi
    simpa [hj'] using hbefore j hj
  · intro hbefore
    refine ⟨hi, beq_self_eq_true _, fun j hj => ?_⟩
    have hj' : j < e.attributes.length := Nat.lt_trans hj hi
    simpa [hj'] using hbefore j hj

/-- Look-up finds every attribute just when no name comes twice. -/
theorem nodup_attributeNames_iff : e.attributeNames.Nodup
    ↔ ∀ i a, e.attributes[i]? = some a → e.place? a.name = some i := by
  have hname : ∀ {i : Nat} {a : Attribute}, e.attributes[i]? = some a →
      e.attributeNames[i]? = some a.name := by
    intro i a ha
    rw [attributeNames, List.getElem?_map, ha, Option.map_some]
  rw [List.nodup_iff_getElem?_ne_getElem?]
  constructor
  · intro hdistinct i a ha
    rw [place?_eq_some_iff ha]
    intro j hj
    rw [← hname ha]
    have hi : i < e.attributeNames.length := (List.getElem?_eq_some_iff.mp (hname ha)).1
    exact hdistinct j i hj hi
  · intro hfound j i hj hi
    rw [attributeNames, List.length_map] at hi
    have ha : e.attributes[i]? = some e.attributes[i] := List.getElem?_eq_getElem hi
    rw [hname ha]
    exact (place?_eq_some_iff ha).mp (hfound i _ ha) j hj

end Entity

namespace Literal

variable {α : Type} {v : Json} {fields : List (Text × Json)} {s : Schema}

/-! ## The names in a document -/

/-- The items of the list in a field, none if there is no list. -/
def itemsWritten (name : Text) : Json → List Json
  | .object fields => match fieldValue fields [name] with
    | some (.list items) => items
    | _ => []
  | _ => []

/-- The text in a field, empty if there is none. -/
def textWritten (name : Text) : Json → Text
  | .object fields => match fieldValue fields [name] with
    | some (.text t) => t
    | _ => []
  | _ => []

/-- The names of the attributes in a document, entity by entity. -/
def namesWritten (document : Json) : List (List Text) :=
  (itemsWritten "entities" document).map fun entity =>
    (itemsWritten "attributes" entity).map (textWritten "name")

theorem forall₂_itemsWritten {Means : Json → α → Prop} {name : Text} {as : List α}
    (h : OrDefault (MeansList Means) [] (fieldValue fields [name]) as) :
    List.Forall₂ Means (itemsWritten name (.object fields)) as := by
  simp only [itemsWritten]
  cases hfield : fieldValue fields [name] with
  | none =>
    rw [hfield] at h
    obtain rfl : as = [] := h
    exact .nil
  | some v =>
    rw [hfield] at h
    obtain ⟨hitems⟩ := h
    exact hitems

theorem map_eq_of_forall₂ {β : Type} {Means : Json → α → Prop} {f : Json → β} {g : α → β}
    {items : List Json} {as : List α} (hread : ∀ item a, Means item a → f item = g a)
    (h : List.Forall₂ Means items as) : items.map f = as.map g := by
  rw [← List.forall₂_eq_eq_eq, List.forall₂_map_left_iff, List.forall₂_map_right_iff]
  exact h.imp fun item a => hread item a

theorem forall_mem_of_forall₂ {Means : Json → α → Prop} {P : α → Prop} {items : List Json}
    {as : List α} (hread : ∀ item a, Means item a → P a) (h : List.Forall₂ Means items as) :
    ∀ a ∈ as, P a := by
  induction h with
  | nil => exact List.forall_mem_nil P
  | cons hitem _ ih => exact List.forall_mem_cons.mpr ⟨hread _ _ hitem, ih⟩

theorem textWritten_of_describes (item : Json) (a : Attribute) (h : DescribesAttribute item a) :
    textWritten "name" item = a.name := by
  obtain ⟨h⟩ := h
  rw [textWritten, h.name]

theorem names_of_describes (item : Json) (e : Entity) (h : DescribesEntity item e) :
    (itemsWritten "attributes" item).map (textWritten "name") = e.attributeNames := by
  obtain ⟨h⟩ := h
  exact map_eq_of_forall₂ textWritten_of_describes (forall₂_itemsWritten h.attributes)

/-- The names read are the names written, in order and as often. -/
theorem names_read (h : read v = .ok s) : s.entities.map (·.attributeNames) = namesWritten v := by
  obtain ⟨⟨h⟩, -⟩ := read_ok_iff.mp h
  exact (map_eq_of_forall₂ names_of_describes (forall₂_itemsWritten h.entities)).symm

/-! ## The schemas that are read -/

theorem full_of_describesAttribute (item : Json) (a : Attribute) (h : DescribesAttribute item a) :
    a.Full := by
  obtain ⟨h⟩ := h
  refine ⟨h.named, ?_⟩
  obtain ⟨type, -, htype⟩ := h.type
  rw [htype]
  split
  · decide
  · next hne => exact hne

theorem full_of_describesEntity (item : Json) (e : Entity) (h : DescribesEntity item e) :
    e.Full := by
  obtain ⟨h⟩ := h
  refine ⟨h.named, ?_,
    forall_mem_of_forall₂ full_of_describesAttribute (forall₂_itemsWritten h.attributes)⟩
  · obtain ⟨table, -, htable⟩ := h.tableName
    rw [htable]
    split
    · exact defaultTableName_ne_nil e.name
    · next hne => exact hne

/-- What is read from documents is every schema with entities and without empty texts where the format
    has none. Their names may be the same or different. -/
theorem exists_read_eq_ok_iff : (∃ v, read v = .ok s) ↔ s.Full := by
  constructor
  · rintro ⟨v, h⟩
    obtain ⟨⟨h⟩, hsome⟩ := read_ok_iff.mp h
    exact ⟨hsome, forall_mem_of_forall₂ full_of_describesEntity (forall₂_itemsWritten h.entities)⟩
  · intro h
    exact ⟨s.documentWith fun _ => [], read_documentWith_iff.mpr h⟩

/-- **Names are read as they are written, be they different or not.** A document that is read gives its
    entities the very names that it writes. So in what is read no entity has a name twice just when no
    entity of the document has, and look-up finds all the attributes of an entity just when it has no
    name twice. -/
theorem read_keeps_names (h : read v = .ok s) :
    s.entities.map (·.attributeNames) = namesWritten v
      ∧ ((∀ e ∈ s.entities, e.attributeNames.Nodup) ↔ ∀ names ∈ namesWritten v, names.Nodup)
      ∧ ∀ e ∈ s.entities, e.attributeNames.Nodup
        ↔ ∀ i a, e.attributes[i]? = some a → e.place? a.name = some i := by
  refine ⟨names_read h, ?_, fun e _ => Entity.nodup_attributeNames_iff⟩
  rw [← names_read h, List.forall_mem_map]

/-- A document with two attributes of one name. -/
def twoEmails : Json :=
  .object [("entities", .list [.object [
    ("name", .text "User"),
    ("attributes", .list [
      .object [("name", .text "email")],
      .object [("name", .text "email"), ("type", .text "text")]])]])]

/-- The entity that is read from it. -/
def userWithTwoEmails : Entity :=
  ⟨"User", "users", [⟨"email", "string", false, false⟩, ⟨"email", "text", false, false⟩]⟩

/-- The law at work: both are read, and the second is not the one that look-up finds. -/
theorem read_keeps_names_twice :
    read twoEmails = .ok ⟨[userWithTwoEmails], []⟩
      ∧ namesWritten twoEmails = ([["email", "email"]] : List (List Text))
      ∧ userWithTwoEmails.attribute? "email" = some ⟨"email", "string", false, false⟩
      ∧ ¬ ∀ i a, userWithTwoEmails.attributes[i]? = some a
          → userWithTwoEmails.place? a.name = some i := by
  have hread : read twoEmails = .ok ⟨[userWithTwoEmails], []⟩ := by decide +kernel
  obtain ⟨hnames, -, hfound⟩ := read_keeps_names hread
  refine ⟨hread, hnames.symm, by decide, ?_⟩
  rw [← hfound userWithTwoEmails List.mem_cons_self]
  decide

end Literal
end EntityDiagram
