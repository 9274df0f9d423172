import EntityDiagram.Proofs.Literal

/-!
# The format of a schema written by hand

The checks of a document are functions that collect issues. The format that they check is said here
without them, as a relation between a document and the schema that it describes: what a value means,
which fields a record has and under which names, what stands for a field that is left out.

The two agree in both directions (`checkSchema_iff`): a document passes just when it describes a
schema, and the schema that comes out is the one it describes, item by item in the order written. So
reading has three outcomes, each with its exact condition, and the first of the two failures goes
before the second (`read_exactly`).

The format also says what does not count. `known` leaves of a document only the fields that have a
meaning where they stand, at every depth, and a document is read as its known part is, issues
included (`read_known`).
-/

namespace EntityDiagram
namespace Literal

variable {α : Type} {v : Json} {fields : List (Text × Json)} {names : List Text}

/-! ## What a value means -/

/-- The value of a field, under the first of its names that is given. -/
def fieldValue (fields : List (Text × Json)) (names : List Text) : Option Json :=
  names.findSome? (Json.field? fields)

/-- A field that may be left out. What is given has a meaning, and nothing given means the default. -/
def OrDefault (Means : Json → α → Prop) (default : α) : Option Json → α → Prop
  | some v, a => Means v a
  | none, a => a = default

inductive MeansText : Json → Text → Prop
  | text (t : Text) : MeansText (.text t) t

inductive MeansTextOrNull : Json → Option Text → Prop
  | null : MeansTextOrNull .null none
  | text (t : Text) : MeansTextOrNull (.text t) (some t)

/-- A flag may be given as such, as the number one or zero in either notation, or as a word in any letter
    case. -/
inductive MeansFlag : Json → Bool → Prop
  | flag (b : Bool) : MeansFlag (.bool b) b
  | one : MeansFlag (.integer 1) true
  | zero : MeansFlag (.integer 0) false
  | decimalOne {d : Json.Decimal} (h : d.integer? = some 1) : MeansFlag (.decimal d) true
  | decimalZero {d : Json.Decimal} (h : d.integer? = some 0) : MeansFlag (.decimal d) false
  | yes {t : Text} (h : t.map asciiLower ∈ yesWords) : MeansFlag (.text t) true
  | no {t : Text} (h : t.map asciiLower ∈ noWords) : MeansFlag (.text t) false

/-- A list means the list of what its items mean. -/
inductive MeansList (Means : Json → α → Prop) : Json → List α → Prop
  | list {items : List Json} {as : List α} (h : List.Forall₂ Means items as) :
      MeansList Means (.list items) as

/-- An object means what its fields say. -/
inductive MeansRecord (Says : List (Text × Json) → α → Prop) : Json → α → Prop
  | object {fields : List (Text × Json)} {a : α} (h : Says fields a) :
      MeansRecord Says (.object fields) a

/-! ## What the fields of a record say -/

structure SaysAttribute (fields : List (Text × Json)) (a : Attribute) : Prop where
  name : fieldValue fields ["name"] = some (.text a.name)
  named : a.name ≠ []
  type : ∃ type, OrDefault MeansText ColumnType.string.name (fieldValue fields ["type"]) type
    ∧ a.type = if type = [] then ColumnType.string.name else type
  primary : OrDefault MeansFlag false (fieldValue fields ["primary"]) a.primary
  nullable : OrDefault MeansFlag false (fieldValue fields ["nullable"]) a.nullable

abbrev DescribesAttribute : Json → Attribute → Prop := MeansRecord SaysAttribute

structure SaysEntity (fields : List (Text × Json)) (e : Entity) : Prop where
  name : fieldValue fields ["name"] = some (.text e.name)
  named : e.name ≠ []
  tableName : ∃ table, OrDefault MeansTextOrNull none
      (fieldValue fields ["tableName", "table_name"]) table
    ∧ e.tableName = if table.getD [] = [] then Naming.defaultTableName e.name else table.getD []
  attributes : OrDefault (MeansList DescribesAttribute) [] (fieldValue fields ["attributes"])
    e.attributes

abbrev DescribesEntity : Json → Entity → Prop := MeansRecord SaysEntity

structure SaysRelationship (fields : List (Text × Json)) (r : Relationship) : Prop where
  source : fieldValue fields ["from", "from_entity"] = some (.text r.source)
  target : fieldValue fields ["to", "to_entity"] = some (.text r.target)
  label : OrDefault MeansText [] (fieldValue fields ["name"]) r.label
  type : fieldValue fields ["type"] = some (.text r.type)
  description : OrDefault MeansTextOrNull none (fieldValue fields ["description"]) r.description

abbrev DescribesRelationship : Json → Relationship → Prop := MeansRecord SaysRelationship

structure SaysSchema (fields : List (Text × Json)) (s : Schema) : Prop where
  entities : OrDefault (MeansList DescribesEntity) [] (fieldValue fields ["entities"]) s.entities
  relationships : OrDefault (MeansList DescribesRelationship) []
    (fieldValue fields ["relationships"]) s.relationships

abbrev DescribesSchema : Json → Schema → Prop := MeansRecord SaysSchema

/-! ## Checking is understanding -/

theorem meansText_iff {t : Text} : MeansText v t ↔ v = .text t := by
  constructor
  · rintro ⟨⟩
    rfl
  · rintro rfl
    exact .text t

theorem checkText_iff {t : Text} : checkText v = .valid t ↔ MeansText v t := by
  rw [meansText_iff]
  cases v <;> simp [checkText, Checked.fail]

theorem checkName_iff {t : Text} : checkName v = .valid t ↔ v = .text t ∧ t ≠ [] := by
  cases v with
  | text u =>
    rw [checkName_text_iff, Json.text.injEq]
    constructor
    · rintro ⟨hne, rfl⟩
      exact ⟨rfl, hne⟩
    · rintro ⟨rfl, hne⟩
      exact ⟨hne, rfl⟩
  | _ => simp [checkName, Checked.fail]

theorem checkTextOrNull_iff {t : Option Text} :
    checkTextOrNull v = .valid t ↔ MeansTextOrNull v t := by
  cases v with
  | null =>
    constructor
    · intro h
      obtain rfl := Checked.valid.inj h
      exact .null
    · rintro ⟨⟩
      rfl
  | text u =>
    constructor
    · intro h
      obtain rfl := Checked.valid.inj h
      exact .text u
    · rintro ⟨⟩
      rfl
  | _ =>
    constructor
    · intro h
      simp [checkTextOrNull, Checked.fail] at h
    · rintro ⟨⟩

theorem integerFlag_iff {i : Int} {b : Bool} :
    integerFlag i = .valid b ↔ i = 0 ∧ b = false ∨ i = 1 ∧ b = true := by
  unfold integerFlag
  split
  · next h => simp [eq_of_beq h, eq_comm]
  · next hzero =>
    split
    · next h => simp [eq_of_beq h, eq_comm]
    · next hone =>
      have hno : ¬ (i = 0 ∧ b = false ∨ i = 1 ∧ b = true) := by
        rintro (⟨rfl, -⟩ | ⟨rfl, -⟩)
        · exact hzero rfl
        · exact hone rfl
      split <;> simp [Checked.fail, hno]

/-- The words for yes are none for no. -/
theorem not_mem_noWords : ∀ w ∈ yesWords, w ∉ noWords := by decide

theorem readFlag_iff {t : Text} {b : Bool} : readFlag t = .valid b
    ↔ t.map asciiLower ∈ yesWords ∧ b = true ∨ t.map asciiLower ∈ noWords ∧ b = false := by
  unfold readFlag
  simp only [List.contains_iff_mem]
  split
  · next hyes => simp [hyes, not_mem_noWords _ hyes, eq_comm]
  · next hyes =>
    split
    · next hno => simp [hyes, hno, eq_comm]
    · next hno => simp [hyes, hno, Checked.fail]

/-- A number in decimal notation stands for a flag as the integer does that it comes to. -/
theorem checkFlag_decimal_iff {d : Json.Decimal} {b : Bool} : checkFlag (.decimal d) = .valid b
    ↔ d.integer? = some 0 ∧ b = false ∨ d.integer? = some 1 ∧ b = true := by
  simp only [checkFlag]
  cases d.integer? with
  | none => simp [Checked.fail]
  | some i =>
    by_cases hi : i = -wordLimit
    · have hzero : -wordLimit ≠ 0 := by decide
      have hone : -wordLimit ≠ 1 := by decide
      simp [hi, hzero, hone, Checked.fail]
    · simp [hi, integerFlag_iff]

theorem checkFlag_iff {b : Bool} : checkFlag v = .valid b ↔ MeansFlag v b := by
  cases v with
  | bool c =>
    constructor
    · intro h
      obtain rfl := Checked.valid.inj h
      exact .flag c
    · rintro ⟨⟩
      rfl
  | integer i =>
    rw [checkFlag, integerFlag_iff]
    constructor
    · rintro (⟨rfl, rfl⟩ | ⟨rfl, rfl⟩)
      · exact .zero
      · exact .one
    · rintro ⟨⟩
      · exact .inr ⟨rfl, rfl⟩
      · exact .inl ⟨rfl, rfl⟩
  | decimal d =>
    rw [checkFlag_decimal_iff]
    constructor
    · rintro (⟨hd, rfl⟩ | ⟨hd, rfl⟩)
      · exact .decimalZero hd
      · exact .decimalOne hd
    · rintro ⟨⟩
      · exact .inr ⟨‹_›, rfl⟩
      · exact .inl ⟨‹_›, rfl⟩
  | text t =>
    rw [checkFlag, readFlag_iff]
    constructor
    · rintro (⟨ht, rfl⟩ | ⟨ht, rfl⟩)
      · exact .yes ht
      · exact .no ht
    · rintro ⟨⟩
      · exact .inl ⟨‹_›, rfl⟩
      · exact .inr ⟨‹_›, rfl⟩
  | _ =>
    constructor
    · intro h
      simp [checkFlag, Checked.fail] at h
    · rintro ⟨⟩

theorem checkList_iff_means {check : Json → Checked α} {Means : Json → α → Prop} {as : List α}
    (hcheck : ∀ {v a}, check v = .valid a ↔ Means v a) :
    checkList check v = .valid as ↔ MeansList Means v as := by
  have hitems : ∀ {items as}, List.Forall₂ (fun item a => check item = .valid a) items as
      ↔ List.Forall₂ Means items as := by
    simp only [hcheck, implies_true]
  cases v with
  | list items =>
    rw [checkList_iff, hitems]
    constructor
    · exact .list
    · rintro ⟨h⟩
      exact h
  | _ =>
    constructor
    · intro h
      simp [checkList, Checked.fail] at h
    · rintro ⟨⟩

/-! ## Fields -/

theorem given?_eq (fields : List (Text × Json)) (names : List Text) :
    (given? fields names).map (·.2) = fieldValue fields names := by
  unfold given? fieldValue
  induction names with
  | nil => rfl
  | cons name names ih =>
    rw [List.findSome?_cons, List.findSome?_cons]
    cases Json.field? fields name with
    | none => exact ih
    | some v => rfl

theorem required_iff {check : Json → Checked α} {name : Text} {others : List Text} {a : α} :
    required fields name others check = .valid a
      ↔ ∃ v, fieldValue fields (name :: others) = some v ∧ check v = .valid a := by
  unfold required
  rw [← given?_eq]
  cases given? fields (name :: others) with
  | none => simp [Checked.within_eq_valid, Checked.fail]
  | some found => simp [Checked.within_eq_valid]

/-- A required text is the very text that comes out. -/
theorem required_text_iff {name : Text} {others : List Text} {t : Text} :
    required fields name others checkText = .valid t
      ↔ fieldValue fields (name :: others) = some (.text t) := by
  simp [required_iff, checkText_iff, meansText_iff]

theorem required_name_iff {name : Text} {others : List Text} {t : Text} :
    required fields name others checkName = .valid t
      ↔ fieldValue fields (name :: others) = some (.text t) ∧ t ≠ [] := by
  simp [required_iff, checkName_iff]

theorem optional_iff {check : Json → Checked α} {Means : Json → α → Prop} {default a : α}
    (hcheck : ∀ {v a}, check v = .valid a ↔ Means v a) :
    optional fields names default check = .valid a
      ↔ OrDefault Means default (fieldValue fields names) a := by
  unfold optional
  rw [← given?_eq]
  cases given? fields names with
  | none => simp [OrDefault, eq_comm]
  | some found => simp [OrDefault, Checked.within_eq_valid, hcheck]

/-! ## Records -/

/-- A check that refuses all but objects, and objects by their fields, is that of a record. -/
theorem checkRecord_iff {check : Json → Checked α} {Says : List (Text × Json) → α → Prop} {a : α}
    (hobject : ∀ fields, check (.object fields) = .valid a ↔ Says fields a)
    (hother : ∀ {v}, check v = .valid a → ∃ fields, v = .object fields) :
    check v = .valid a ↔ MeansRecord Says v a := by
  constructor
  · intro h
    obtain ⟨fields, rfl⟩ := hother h
    exact .object ((hobject fields).mp h)
  · rintro ⟨h⟩
    exact (hobject _).mpr h

theorem checkAttribute_iff {a : Attribute} : checkAttribute v = .valid a ↔ DescribesAttribute v a := by
  refine checkRecord_iff (fun fields => ?_) fun {v} h => ?_
  · simp only [checkAttribute, Checked.seq_eq_valid, Checked.map_eq_valid, required_name_iff,
      optional_iff checkText_iff, optional_iff checkFlag_iff]
    constructor
    · rintro ⟨_, nullable, ⟨_, primary, ⟨_, type, ⟨name, ⟨hname, hne⟩, rfl⟩, htype, rfl⟩, hprimary,
        rfl⟩, hnullable, rfl⟩
      exact ⟨hname, hne, ⟨type, htype, by simp [List.isEmpty_iff]⟩, hprimary, hnullable⟩
    · intro h
      obtain ⟨type, htype, heq⟩ := h.type
      refine ⟨_, _, ⟨_, _, ⟨_, type, ⟨_, ⟨h.name, h.named⟩, rfl⟩, htype, rfl⟩, h.primary, rfl⟩,
        h.nullable, ?_⟩
      simp only [List.isEmpty_iff, ← heq]
  · cases v <;> simp [checkAttribute, Checked.fail] at h ⊢

theorem tableOr_eq (name : Text) (table : Option Text) : tableOr name table
    = if table.getD [] = [] then Naming.defaultTableName name else table.getD [] := by
  rcases table with _ | _ | ⟨c, t⟩
  · rfl
  · rfl
  · simp [tableOr]

theorem checkEntity_iff {e : Entity} : checkEntity v = .valid e ↔ DescribesEntity v e := by
  refine checkRecord_iff (fun fields => ?_) fun {v} h => ?_
  · simp only [checkEntity, Checked.seq_eq_valid, Checked.map_eq_valid, required_name_iff,
      optional_iff checkTextOrNull_iff, optional_iff (checkList_iff_means checkAttribute_iff)]
    constructor
    · rintro ⟨_, attributes, ⟨_, table, ⟨name, ⟨hname, hne⟩, rfl⟩, htable, rfl⟩, hattributes, rfl⟩
      exact ⟨hname, hne, ⟨table, htable, tableOr_eq name table⟩, hattributes⟩
    · intro h
      obtain ⟨table, htable, heq⟩ := h.tableName
      refine ⟨_, _, ⟨_, table, ⟨_, ⟨h.name, h.named⟩, rfl⟩, htable, rfl⟩, h.attributes, ?_⟩
      rw [tableOr_eq, ← heq]
  · cases v <;> simp [checkEntity, Checked.fail] at h ⊢

theorem checkRelationship_iff {r : Relationship} :
    checkRelationship v = .valid r ↔ DescribesRelationship v r := by
  refine checkRecord_iff (fun fields => ?_) fun {v} h => ?_
  · simp only [checkRelationship, Checked.seq_eq_valid, Checked.map_eq_valid, required_text_iff,
      optional_iff checkText_iff, optional_iff checkTextOrNull_iff]
    constructor
    · rintro ⟨_, description, ⟨_, type, ⟨_, label, ⟨_, target, ⟨source, hsource, rfl⟩, htarget, rfl⟩,
        hlabel, rfl⟩, htype, rfl⟩, hdescription, rfl⟩
      exact ⟨hsource, htarget, hlabel, htype, hdescription⟩
    · intro h
      exact ⟨_, _, ⟨_, _, ⟨_, _, ⟨_, _, ⟨_, h.source, rfl⟩, h.target, rfl⟩, h.label, rfl⟩, h.type, rfl⟩,
        h.description, rfl⟩
  · cases v <;> simp [checkRelationship, Checked.fail] at h ⊢

/-- **A document passes the checks just when it describes a schema**, and then it is that schema. -/
theorem checkSchema_iff {s : Schema} : checkSchema v = .valid s ↔ DescribesSchema v s := by
  refine checkRecord_iff (fun fields => ?_) fun {v} h => ?_
  · simp only [checkSchema, Checked.seq_eq_valid, Checked.map_eq_valid,
      optional_iff (checkList_iff_means checkEntity_iff),
      optional_iff (checkList_iff_means checkRelationship_iff)]
    constructor
    · rintro ⟨_, relationships, ⟨entities, hentities, rfl⟩, hrelationships, rfl⟩
      exact ⟨hentities, hrelationships⟩
    · intro h
      exact ⟨_, _, ⟨_, h.entities, rfl⟩, h.relationships, rfl⟩
  · cases v <;> simp [checkSchema, Checked.fail] at h ⊢

/-! ## The fields that count -/

/-- The fields with one of the names, with their values cut down too. -/
def keptFields (names : List Text) (cut : Text → Json → Json) (fields : List (Text × Json)) :
    List (Text × Json) :=
  (fields.filter fun f => names.contains f.1).map fun f => (f.1, cut f.1 f.2)

def keep (names : List Text) (cut : Text → Json → Json) : Json → Json
  | .object fields => .object (keptFields names cut fields)
  | v => v

def eachItem (cut : Json → Json) : Json → Json
  | .list items => .list (items.map cut)
  | v => v

def knownAttribute : Json → Json := keep ["name", "type", "primary", "nullable"] fun _ v => v

def knownEntity : Json → Json :=
  keep ["name", "tableName", "table_name", "attributes"] fun name v =>
    if name = "attributes".toList then eachItem knownAttribute v else v

def knownRelationship : Json → Json :=
  keep ["from", "from_entity", "to", "to_entity", "name", "type", "description"] fun _ v => v

/-- A document without the fields that have no meaning where they stand, at every depth. -/
def known : Json → Json :=
  keep ["entities", "relationships"] fun name v =>
    if name = "entities".toList then eachItem knownEntity v else eachItem knownRelationship v

section Kept

variable {kept : List Text} {cut : Text → Json → Json}

theorem field?_keptFields (name : Text) : Json.field? (keptFields kept cut fields) name
    = if name ∈ kept then (Json.field? fields name).map (cut name) else none := by
  unfold Json.field? keptFields
  induction fields with
  | nil => simp
  | cons f rest ih =>
    obtain ⟨n, v⟩ := f
    by_cases hn : n ∈ kept
    · by_cases hname : name = n
      · subst hname
        simp [hn]
      · have hne : (name == n) = false := beq_false_of_ne hname
        simpa [hn, List.lookup_cons, hne] using ih
    · by_cases hname : name = n
      · subst hname
        simpa [hn] using ih
      · have hne : (name == n) = false := beq_false_of_ne hname
        simpa [hn, List.lookup_cons, hne] using ih

theorem given?_keptFields (h : ∀ n ∈ names, n ∈ kept) : given? (keptFields kept cut fields) names
    = (given? fields names).map fun f => (f.1, cut f.1 f.2) := by
  unfold given?
  induction names with
  | nil => rfl
  | cons n names ih =>
    rw [List.findSome?_cons, List.findSome?_cons, field?_keptFields, if_pos (h n List.mem_cons_self)]
    cases Json.field? fields n with
    | none => exact ih fun m hm => h m (List.mem_cons_of_mem n hm)
    | some v => rfl

theorem mem_of_given? {found : Text × Json} (h : given? fields names = some found) :
    found.1 ∈ names := by
  unfold given? at h
  obtain ⟨n, hn, heq⟩ := List.exists_of_findSome?_eq_some h
  obtain ⟨v, -, rfl⟩ := Option.map_eq_some_iff.mp heq
  exact hn

variable {check : Json → Checked α}

theorem required_keptFields {name : Text} {others : List Text} (h : ∀ n ∈ name :: others, n ∈ kept)
    (hcut : ∀ n ∈ name :: others, ∀ v, check (cut n v) = check v) :
    required (keptFields kept cut fields) name others check = required fields name others check := by
  unfold required
  rw [given?_keptFields h]
  cases hfound : given? fields (name :: others) with
  | none => rfl
  | some found => simp [hcut _ (mem_of_given? hfound)]

theorem optional_keptFields {default : α} (h : ∀ n ∈ names, n ∈ kept)
    (hcut : ∀ n ∈ names, ∀ v, check (cut n v) = check v) :
    optional (keptFields kept cut fields) names default check
      = optional fields names default check := by
  unfold optional
  rw [given?_keptFields h]
  cases hfound : given? fields names with
  | none => rfl
  | some found => simp [hcut _ (mem_of_given? hfound)]

theorem checkList_eachItem {cut : Json → Json} (hcut : ∀ v, check (cut v) = check v) (v : Json) :
    checkList check (eachItem cut v) = checkList check v := by
  cases v with
  | list items =>
    have hitems : ∀ i, Checked.itemsFrom check i (items.map cut) = Checked.itemsFrom check i items := by
      induction items with
      | nil => exact fun _ => rfl
      | cons item items ih =>
        intro i
        rw [List.map_cons, Checked.itemsFrom, Checked.itemsFrom, hcut, ih]
    exact hitems 0
  | _ => rfl

end Kept

theorem checkAttribute_known (v : Json) : checkAttribute (knownAttribute v) = checkAttribute v := by
  cases v with
  | object fields =>
    unfold knownAttribute keep
    simp only [checkAttribute]
    rw [required_keptFields (by decide) (by simp), optional_keptFields (by decide) (by simp),
      optional_keptFields (by decide) (by simp), optional_keptFields (by decide) (by simp)]
  | _ => rfl

theorem checkRelationship_known (v : Json) :
    checkRelationship (knownRelationship v) = checkRelationship v := by
  cases v with
  | object fields =>
    unfold knownRelationship keep
    simp only [checkRelationship]
    rw [required_keptFields (by decide) (by simp), required_keptFields (by decide) (by simp),
      optional_keptFields (by decide) (by simp), required_keptFields (by decide) (by simp),
      optional_keptFields (by decide) (by simp)]
  | _ => rfl

theorem checkEntity_known (v : Json) : checkEntity (knownEntity v) = checkEntity v := by
  cases v with
  | object fields =>
    have hname : ∀ n ∈ (["name"] : List Text), n ≠ "attributes".toList := by decide
    have htable : ∀ n ∈ (["tableName", "table_name"] : List Text), n ≠ "attributes".toList := by
      decide
    have hattributes : ∀ n ∈ (["attributes"] : List Text), ∀ v, checkList checkAttribute
        (if n = "attributes".toList then eachItem knownAttribute v else v)
          = checkList checkAttribute v := by
      intro n hn v
      rw [if_pos (List.mem_singleton.mp hn), checkList_eachItem checkAttribute_known]
    unfold knownEntity keep
    simp only [checkEntity]
    rw [required_keptFields (by decide) fun n hn v => by rw [if_neg (hname n hn)],
      optional_keptFields (by decide) fun n hn v => by rw [if_neg (htable n hn)],
      optional_keptFields (by decide) hattributes]
  | _ => rfl

theorem checkSchema_known (v : Json) : checkSchema (known v) = checkSchema v := by
  cases v with
  | object fields =>
    have hentities : ∀ n ∈ (["entities"] : List Text), ∀ v, checkList checkEntity
        (if n = "entities".toList then eachItem knownEntity v else eachItem knownRelationship v)
          = checkList checkEntity v := by
      intro n hn v
      rw [if_pos (List.mem_singleton.mp hn), checkList_eachItem checkEntity_known]
    have hrelationships : ∀ n ∈ (["relationships"] : List Text), ∀ v, checkList checkRelationship
        (if n = "entities".toList then eachItem knownEntity v else eachItem knownRelationship v)
          = checkList checkRelationship v := by
      intro n hn v
      have hne : n ≠ "entities".toList := by
        rw [List.mem_singleton.mp hn]
        decide
      rw [if_neg hne, checkList_eachItem checkRelationship_known]
    unfold known keep
    simp only [checkSchema]
    rw [optional_keptFields (by decide) hentities, optional_keptFields (by decide) hrelationships]
  | _ => rfl

/-- **Fields that the format does not know count for nothing**, wherever they stand. -/
theorem read_known (v : Json) : read (known v) = read v := by
  unfold read
  rw [checkSchema_known]

/-! ## The three outcomes -/

theorem read_ok_iff {s : Schema} : read v = .ok s ↔ DescribesSchema v s ∧ s.entities ≠ [] := by
  rw [← checkSchema_iff]
  unfold read
  cases checkSchema v with
  | invalid issues => simp
  | valid found =>
    by_cases hempty : found.entities = []
    · simp only [hempty, List.isEmpty_nil, if_true, reduceCtorEq, Checked.valid.injEq, false_iff]
      rintro ⟨rfl, hne⟩
      exact hne hempty
    · simp only [List.isEmpty_iff, hempty, if_false, Except.ok.injEq, Checked.valid.injEq]
      constructor
      · rintro rfl
        exact ⟨rfl, hempty⟩
      · exact fun h => h.1

theorem read_noEntities_iff :
    read v = .error .noEntities ↔ ∃ s, DescribesSchema v s ∧ s.entities = [] := by
  simp only [← checkSchema_iff]
  unfold read
  cases checkSchema v with
  | invalid issues => simp
  | valid found =>
    by_cases hempty : found.entities = []
    · simp [hempty]
    · simp [hempty]

theorem read_invalid_iff :
    (∃ issues, read v = .error (.invalid issues)) ↔ ¬ ∃ s, DescribesSchema v s := by
  simp only [← checkSchema_iff]
  unfold read
  cases checkSchema v with
  | invalid issues => simp
  | valid found =>
    by_cases hempty : found.entities = []
    · simp [hempty]
    · simp [hempty]

theorem orDefault_nil_iff {Means : Json → α → Prop} {given : Option Json} :
    OrDefault (MeansList Means) [] given [] ↔ given = none ∨ given = some (.list []) := by
  cases given with
  | none => simp [OrDefault]
  | some v =>
    rw [OrDefault]
    constructor
    · rintro ⟨h⟩
      rw [List.forall₂_nil_right_iff] at h
      rw [h]
      exact .inr rfl
    · rintro (h | h)
      · exact absurd h (by simp)
      · rw [Option.some.inj h]
        exact .list .nil

/-- **Reading, exactly.** A document is read just when it describes a schema with entities, and as that
    schema; it has no entities just when all else is right and it lists none; and in every other case
    it does not have the format. Documents that differ in unknown fields only are read alike. -/
theorem read_exactly (v : Json) :
    (∀ s, read v = .ok s ↔ DescribesSchema v s ∧ s.entities ≠ [])
      ∧ (read v = .error .noEntities ↔ ∃ fields, v = .object fields
        ∧ (fieldValue fields ["entities"] = none ∨ fieldValue fields ["entities"] = some (.list []))
        ∧ ∃ rs, OrDefault (MeansList DescribesRelationship) []
          (fieldValue fields ["relationships"]) rs)
      ∧ ((∃ issues, read v = .error (.invalid issues)) ↔ ¬ ∃ s, DescribesSchema v s)
      ∧ ∀ w, known w = known v → read w = read v := by
  refine ⟨fun s => read_ok_iff, ?_, read_invalid_iff, fun w hw => ?_⟩
  · rw [read_noEntities_iff]
    constructor
    · rintro ⟨s, ⟨h⟩, hempty⟩
      have hentities := h.entities
      rw [hempty, orDefault_nil_iff] at hentities
      exact ⟨_, rfl, hentities, s.relationships, h.relationships⟩
    · rintro ⟨fields, rfl, hentities, rs, hrelationships⟩
      exact ⟨⟨[], rs⟩, .object ⟨orDefault_nil_iff.mpr hentities, hrelationships⟩, rfl⟩
  · rw [← read_known w, hw, read_known]

end Literal
end EntityDiagram
