import EntityDiagram.Proofs.Model.Products

/-!
# The entity of a model file, exactly

Whether a file has an entity depends on two words of it, and the columns of the entity depend on
four findings. This module says both without the patterns and without the passes. A file has no
entity if it declares an abstract class or no class (`entity?_eq_none_iff`), where what it is to
declare one is said of the text itself. The columns of an entity are the names declared, each at its
first place, and what each column is can be told from its name (`DeclaredBy`).

Type and key of a column are settled by different findings. The last cast of a name settles its type
wherever the name came from, also for the counting key, which stays primary all the same.
-/

namespace EntityDiagram
namespace Model

open Pattern

variable {b : Option Char} {t source model : Text}

/-! ## Class declarations -/

/-- The words `abstract` and `class` stand in the text, with white space between them. -/
def DeclaresAbstractClass (source : Text) : Prop :=
  ∃ front space back : Text,
    source = front ++ ("abstract".toList ++ (space ++ ("class".toList ++ back)))
      ∧ front.getLast?.any Text.isWord = false ∧ space ≠ [] ∧ AllBlank space
      ∧ back.head?.any Text.isWord = false

/-- The word `class` stands in the text, and behind white space what begins like a name. -/
def DeclaresClass (source : Text) : Prop :=
  ∃ (front space : Text) (c : Char) (back : Text),
    source = front ++ ("class".toList ++ (space ++ c :: back))
      ∧ front.getLast?.any Text.isWord = false ∧ space ≠ [] ∧ AllBlank space
      ∧ Text.isIdentifierStart c = true

theorem runs_abstractClass_ne_nil :
    abstractClass.runs ⟨b, t⟩ [] ≠ [] ↔ b.any Text.isWord = false
      ∧ ∃ space back, t = "abstract".toList ++ (space ++ ("class".toList ++ back))
        ∧ space ≠ [] ∧ AllBlank space ∧ back.head?.any Text.isWord = false := by
  have hedge : ∀ z, (⟨b, "abstract".toList ++ z⟩ : Cursor).atWordEdge = !b.any Text.isWord :=
    fun _ => atWordEdge_before (by decide)
  have hbehind : ∀ z, (⟨some 's', z⟩ : Cursor).atWordEdge = !z.head?.any Text.isWord :=
    fun _ => atWordEdge_behind (by decide)
  unfold abstractClass
  simp only [runs_append_assoc]
  constructor
  · intro h
    obtain ⟨run, hrun⟩ := List.exists_mem_of_ne_nil _ h
    simp only [mem_runs_append] at hrun
    obtain ⟨_, hbefore, _, hkeyword, _, hspace, _, hclass, hafter⟩ := hrun
    obtain ⟨hb, rfl⟩ := mem_runs_wordEdge.mp hbefore
    obtain ⟨t, rfl, rfl⟩ := mem_runs_literal.mp hkeyword
    obtain ⟨w, t, rfl, hne, hw, rfl⟩ := exists_of_mem_runs_space hspace
    obtain ⟨back, rfl, rfl⟩ := mem_runs_literal.mp hclass
    obtain ⟨hend, -⟩ := mem_runs_wordEdge.mp hafter
    rw [hedge] at hb
    rw [show pass (pass (pass b "abstract".toList) w) "class".toList = some 's' from rfl,
      hbehind] at hend
    exact ⟨by simpa using hb, w, back, rfl, hne, hw, by simpa using hend⟩
  · rintro ⟨hb, w, back, rfl, hne, hw, hend⟩
    have hlast : (⟨pass (pass (pass b "abstract".toList) w) "class".toList, back⟩
        : Cursor).atWordEdge = true := by
      show (⟨some 's', back⟩ : Cursor).atWordEdge = true
      rw [hbehind, hend]
      rfl
    rw [runs_wordEdge_append, if_pos (by rw [hedge, hb]; rfl), runs_literal_append,
      runs_space_literal_append hw hne (by decide), runs, if_pos hlast]
    exact List.cons_ne_nil _ _

theorem runs_classDeclaration_ne_nil :
    classDeclaration.runs ⟨b, t⟩ [] ≠ [] ↔ b.any Text.isWord = false
      ∧ ∃ space c back, t = "class".toList ++ (space ++ c :: back)
        ∧ space ≠ [] ∧ AllBlank space ∧ Text.isIdentifierStart c = true := by
  have hedge : ∀ z, (⟨b, "class".toList ++ z⟩ : Cursor).atWordEdge = !b.any Text.isWord :=
    fun _ => atWordEdge_before (by decide)
  unfold classDeclaration
  simp only [runs_append_assoc]
  constructor
  · intro h
    obtain ⟨run, hrun⟩ := List.exists_mem_of_ne_nil _ h
    simp only [mem_runs_append] at hrun
    obtain ⟨_, hbefore, _, hkeyword, _, hspace, _, hname, -⟩ := hrun
    obtain ⟨hb, rfl⟩ := mem_runs_wordEdge.mp hbefore
    obtain ⟨t, rfl, rfl⟩ := mem_runs_literal.mp hkeyword
    obtain ⟨w, t, rfl, hne, hw, rfl⟩ := exists_of_mem_runs_space hspace
    obtain ⟨c, back, rfl, hc, rfl⟩ := mem_runs_one.mp hname
    rw [hedge] at hb
    exact ⟨by simpa using hb, w, c, back, rfl, hne, hw, hc⟩
  · rintro ⟨hb, w, c, back, rfl, hne, hw, hc⟩
    have hstart : Stops Text.isBlank (c :: back) := Text.not_isBlank_of_isIdentifierStart hc
    have hname : (one Text.isIdentifierStart ++ most Text.isWord).Rejects Text.isBlank :=
      (rejects_one fun x hx => not_isIdentifierStart_of_isBlank hx).append
    rw [runs_wordEdge_append, if_pos (by rw [hedge, hb]; rfl), runs_literal_append,
      runs_space_append hw hne hstart hname, runs_one_append hc, runs]
    -- The rest of the name may be as long as one likes, and no more than one run is wanted.
    cases back <;> simp [Cursor.passing]

theorem occursIn_abstractClass_iff :
    abstractClass.occursIn source = true ↔ DeclaresAbstractClass source := by
  rw [occursIn_iff]
  simp only [runs_abstractClass_ne_nil, pass_none]
  constructor
  · rintro ⟨front, _, rfl, hfront, space, back, rfl, hne, hspace, hback⟩
    exact ⟨front, space, back, rfl, hfront, hne, hspace, hback⟩
  · rintro ⟨front, space, back, rfl, hfront, hne, hspace, hback⟩
    exact ⟨front, _, rfl, hfront, space, back, rfl, hne, hspace, hback⟩

theorem occursIn_classDeclaration_iff :
    classDeclaration.occursIn source = true ↔ DeclaresClass source := by
  rw [occursIn_iff]
  simp only [runs_classDeclaration_ne_nil, pass_none]
  constructor
  · rintro ⟨front, _, rfl, hfront, space, c, back, rfl, hne, hspace, hc⟩
    exact ⟨front, space, c, back, rfl, hfront, hne, hspace, hc⟩
  · rintro ⟨front, space, c, back, rfl, hfront, hne, hspace, hc⟩
    exact ⟨front, _, rfl, hfront, space, c, back, rfl, hne, hspace, hc⟩

theorem entity?_eq_none_iff :
    entity? model source = none ↔ DeclaresAbstractClass source ∨ ¬ DeclaresClass source := by
  rw [← occursIn_abstractClass_iff, ← occursIn_classDeclaration_iff]
  unfold entity? isConcrete
  cases abstractClass.occursIn source <;> cases classDeclaration.occursIn source <;> simp

/-! ## Columns -/

/-- What the columns of an entity are, by what the source declares. -/
structure DeclaredBy (source : Text) (attributes : List Attribute) : Prop where
  /-- The names declared, each kept at its first place. -/
  names : attributes.map (·.name) = ((if hasSyntheticKey source then ["id".toList] else [])
    ++ fillable source ++ (casts source).map (·.1)
    ++ (if hasTimestamps source then ["created_at".toList, "updated_at".toList] else [])).eraseDups
  distinct : (attributes.map (·.name)).Nodup
  /-- The last cast of a name settles the type. -/
  cast : ∀ a ∈ attributes, ∀ earlier cast later, casts source = earlier ++ (a.name, cast) :: later →
    a.name ∉ later.map (·.1) → a.type = (castType cast).name
  /-- Without a cast, the type is that of the counting key, of a field or of a time stamp. -/
  uncast : ∀ a ∈ attributes, a.name ∉ (casts source).map (·.1) →
    a.type = ColumnType.name (if hasSyntheticKey source = true ∧ a.name = "id".toList then .bigint
      else if a.name ∈ fillable source then .string else .timestamp)
  primary : ∀ a ∈ attributes,
    a.primary = true ↔ hasSyntheticKey source = true ∧ a.name = "id".toList
  keyFirst : hasSyntheticKey source = true → ∃ key others, attributes = key :: others
    ∧ key.name = "id".toList
  nullable : ∀ a ∈ attributes, a.nullable = false

theorem mem_keyNames (source : Text) {name : Text} :
    name ∈ (declarations source).keyNames
      ↔ hasSyntheticKey source = true ∧ name = "id".toList := by
  show name ∈ (if hasSyntheticKey source = true then ["id".toList] else []) ↔ _
  split <;> simp_all

theorem names_columns (d : Declarations) : d.columns.map (·.name) = d.columnNames := by
  rw [Declarations.columns, List.map_map]
  exact List.map_id _

/-- **The columns of a source** are what its declarations say, whatever overlaps among them. -/
theorem declaredBy_columns (source : Text) : DeclaredBy source (declarations source).columns where
  names := names_columns (declarations source)
  distinct := by
    rw [names_columns]
    exact nodup_eraseDups _
  cast := by
    intro a ha earlier cast later hcasts hlater
    obtain ⟨name, rfl⟩ := Declarations.exists_of_mem_columns ha
    have hlast : lastCast? (declarations source).casts name = some cast :=
      lastCast?_eq_some_iff.mpr ⟨earlier, later, hcasts, hlater⟩
    show ((declarations source).columnType name).name = (castType cast).name
    rw [Declarations.columnType, hlast]
  uncast := by
    intro a ha huncast
    obtain ⟨name, rfl⟩ := Declarations.exists_of_mem_columns ha
    have hlast : lastCast? (declarations source).casts name = none := lastCast?_eq_none huncast
    show ((declarations source).columnType name).name = _
    rw [Declarations.columnType, hlast]
    exact congrArg ColumnType.name
      (ite_congr (propext (mem_keyNames source)) (fun _ => rfl) fun _ => rfl)
  primary := by
    intro a ha
    obtain ⟨name, rfl⟩ := Declarations.exists_of_mem_columns ha
    show decide (name ∈ (declarations source).keyNames) = true ↔ _
    rw [decide_eq_true_iff, mem_keyNames]
    rfl
  keyFirst := by
    intro hkeyed
    have hkey : (declarations source).keyNames = ["id".toList] := if_pos hkeyed
    rw [Declarations.columns, Declarations.columnNames, hkey, List.append_assoc,
      List.append_assoc, List.singleton_append, List.eraseDups_cons, List.map_cons]
    exact ⟨_, _, rfl, rfl⟩
  nullable := by
    intro a ha
    obtain ⟨name, rfl⟩ := Declarations.exists_of_mem_columns ha
    rfl

/-- **The entity of a model file, exactly**: when there is one, and what its columns are. -/
theorem entity?_exactly (model source : Text) :
    (entity? model source = none ↔ DeclaresAbstractClass source ∨ ¬ DeclaresClass source)
      ∧ ∀ e, entity? model source = some e → e.name = model
        ∧ e.tableName = tableName model source ∧ DeclaredBy source e.attributes := by
  refine ⟨entity?_eq_none_iff, fun e he => ?_⟩
  obtain rfl := eq_of_entity? he
  exact ⟨rfl, rfl, declaredBy_columns source⟩

/-- The key is a field and has a cast, a field is listed twice and cast twice, and one of the time
    stamps is cast. -/
def overlappingSource : Text :=
  "class Order extends Model \x7b
    protected $fillable = ['id', 'total', 'total'];
    protected $casts = ['id' => 'string', 'total' => 'int', 'created_at' => 'date',
        'total' => 'decimal:2'];
\x7d"

def overlappingEntity : Entity where
  name := "Order"
  tableName := "orders"
  attributes := [
    ⟨"id", ColumnType.string.name, true, false⟩,
    ⟨"total", ColumnType.decimal.name, false, false⟩,
    ⟨"created_at", ColumnType.date.name, false, false⟩,
    ⟨"updated_at", ColumnType.timestamp.name, false, false⟩]

set_option maxRecDepth 4000 in
theorem entity?_exactly_overlapping :
    entity? "Order" overlappingSource = some overlappingEntity
      ∧ DeclaredBy overlappingSource overlappingEntity.attributes := by
  -- A literal is decoded at every step of the evaluation, a list is not.
  have hsource : overlappingSource = _ := String.toList_ofList
  have hsome : entity? "Order" overlappingSource = some overlappingEntity := by
    rw [hsource]
    decide +kernel
  obtain ⟨-, -, hdeclared⟩ := (entity?_exactly "Order" overlappingSource).2 overlappingEntity hsome
  exact ⟨hsome, hdeclared⟩

end Model
end EntityDiagram
