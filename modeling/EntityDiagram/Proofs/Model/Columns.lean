import EntityDiagram.Model.Declaration
import EntityDiagram.Proofs.Distinct

/-!
# The columns that declarations come to

`Model.described` puts an entity together in four passes over its growing list of attributes, and a
later pass may change what an earlier one put there. What the list is in the end can be said without
passes: the names declared, each at its first place, and for each name a type that depends on the
declarations alone. That is `Declarations.columns`, and `described_eq` says that the passes come to
it.

The invariant of the passes is that the list is always the image of the names so far under one
function, `Declarations.column`. Only the pass over the casts changes that function, and it changes
it at one name at a time.
-/

namespace EntityDiagram
namespace Model

variable {model table : Text}

structure Declarations where
  keyed : Bool
  fillable : List Text
  casts : List (Text × Text)
  stamped : Bool
  deriving DecidableEq

def declarations (source : Text) : Declarations :=
  ⟨hasSyntheticKey source, fillable source, casts source, hasTimestamps source⟩

/-- The cast that counts for a name: the last one. -/
def lastCast? (casts : List (Text × Text)) (name : Text) : Option Text :=
  ((casts.filter (·.1 == name)).getLast?).map (·.2)

namespace Declarations

/-- The names of the counting key, if there is one. -/
def keyNames (d : Declarations) : List Text := if d.keyed then [syntheticKey.name] else []

/-- The names of the time stamps, if there are any. -/
def stampNames (d : Declarations) : List Text := if d.stamped then timestampNames else []

/-- All names declared, each at its first place. -/
def columnNames (d : Declarations) : List Text :=
  (d.keyNames ++ d.fillable ++ d.casts.map (·.1) ++ d.stampNames).eraseDups

/-- The type of a column: by its last cast, else by where its name was declared first. -/
def columnType (d : Declarations) (name : Text) : ColumnType :=
  match lastCast? d.casts name with
  | some cast => castType cast
  | none =>
    if name ∈ d.keyNames then .bigint else if name ∈ d.fillable then .string else .timestamp

/-- A column. The counting key is the only primary one. -/
def column (d : Declarations) (name : Text) : Attribute :=
  ⟨name, (d.columnType name).name, decide (name ∈ d.keyNames), false⟩

def columns (d : Declarations) : List Attribute := d.columnNames.map d.column

end Declarations

/-! ## One name more -/

theorem eraseDups_snoc (names : List Text) (name : Text) :
    (names ++ [name]).eraseDups
      = if name ∈ names then names.eraseDups else names.eraseDups ++ [name] := by
  rw [List.eraseDups_append]
  by_cases h : name ∈ names
  · simp [h, List.removeAll]
  · simp [h, List.removeAll, List.eraseDups_cons]

theorem lastCast?_snoc (casts : List (Text × Text)) (name cast other : Text) :
    lastCast? (casts ++ [(name, cast)]) other
      = if name = other then some cast else lastCast? casts other := by
  unfold lastCast?
  by_cases h : name = other <;> simp [List.filter_append, h]

theorem lastCast?_eq_none {casts : List (Text × Text)} {name : Text}
    (h : name ∉ casts.map (·.1)) : lastCast? casts name = none := by
  unfold lastCast?
  have hnil : casts.filter (·.1 == name) = [] := by
    rw [List.filter_eq_nil_iff]
    intro pair hpair heq
    exact h (List.mem_map.mpr ⟨pair, hpair, eq_of_beq heq⟩)
  rw [hnil]
  rfl

/-- The cast that counts is the one of a pair that no later pair of that name follows. -/
theorem lastCast?_eq_some_iff {casts : List (Text × Text)} {name cast : Text} :
    lastCast? casts name = some cast
      ↔ ∃ earlier later, casts = earlier ++ (name, cast) :: later ∧ name ∉ later.map (·.1) := by
  have hno : ∀ pairs : List (Text × Text),
      pairs.filter (·.1 == name) = [] ↔ name ∉ pairs.map (·.1) := by
    intro pairs
    rw [List.filter_eq_nil_iff, List.mem_map]
    constructor
    · rintro h ⟨pair, hpair, rfl⟩
      exact h pair hpair (beq_self_eq_true _)
    · intro h pair hpair heq
      exact h ⟨pair, hpair, eq_of_beq heq⟩
  unfold lastCast?
  rw [Option.map_eq_some_iff]
  constructor
  · rintro ⟨⟨other, _⟩, hlast, rfl⟩
    obtain ⟨front, hfilter⟩ := List.getLast?_eq_some_iff.mp hlast
    obtain ⟨before, rest, rfl, -, hrest⟩ := List.filter_eq_append_iff.mp hfilter
    obtain ⟨between, later, rfl, -, hname, hlater⟩ := List.filter_eq_cons_iff.mp hrest
    obtain rfl : other = name := eq_of_beq hname
    exact ⟨before ++ between, later, by simp, (hno later).mp hlater⟩
  · rintro ⟨earlier, later, rfl, hlater⟩
    refine ⟨(name, cast), ?_, rfl⟩
    have hkept : ((name, cast) :: later).filter (·.1 == name) = [(name, cast)] := by
      rw [List.filter_cons_of_pos (by simp), (hno later).mpr hlater]
    rw [List.filter_append, hkept]
    exact List.getLast?_concat

theorem hasAttribute_iff {e : Entity} {name : Text} :
    e.hasAttribute name = true ↔ name ∈ e.attributeNames := by
  unfold Entity.hasAttribute Entity.attribute? Entity.attributeNames
  simp [List.find?_isSome]

/-- An entity with one column ensured, when its columns are the image of the names so far. -/
theorem ensure_map {names : List Text} {f : Text → Attribute} {a : Attribute}
    (hname : ∀ name, (f name).name = name) (h : a.name ∉ names → f a.name = a) :
    ensure a ⟨model, table, names.map f⟩
      = ⟨model, table, (if a.name ∈ names then names else names ++ [a.name]).map f⟩ := by
  have hnames : (⟨model, table, names.map f⟩ : Entity).attributeNames = names := by
    simp [Entity.attributeNames, Function.comp_def, hname]
  have hhas : (⟨model, table, names.map f⟩ : Entity).hasAttribute a.name = true ↔ a.name ∈ names :=
    hasAttribute_iff.trans (by rw [hnames])
  unfold ensure
  by_cases hmem : a.name ∈ names
  · rw [if_pos (hhas.mpr hmem), if_pos hmem]
  · rw [if_neg (mt hhas.mp hmem), if_neg hmem, List.map_append, List.map_singleton, h hmem]

/-- The list of columns with a type assigned. The names must be distinct, because a type is assigned
    to the first column of a name only. -/
theorem assignTypeIn_map {names : List Text} {f g : Text → Attribute} {name : Text}
    {type : ColumnType} (hname : ∀ name, (f name).name = name) (hnodup : names.Nodup)
    (hold : name ∈ names → g name = ⟨name, type.name, (f name).primary, (f name).nullable⟩)
    (hnew : name ∉ names → g name = ⟨name, type.name, false, false⟩)
    (hother : ∀ other, other ≠ name → g other = f other) :
    assignTypeIn name type (names.map f)
      = (if name ∈ names then names else names ++ [name]).map g := by
  induction names with
  | nil => simp [assignTypeIn, hnew]
  | cons first rest ih =>
    obtain ⟨hfirst, hrest⟩ := List.nodup_cons.mp hnodup
    rw [List.map_cons, assignTypeIn, hname]
    by_cases heq : first = name
    · subst heq
      -- No other column has the name, so the rest stays as it is.
      have hsame : rest.map g = rest.map f := by
        refine List.map_congr_left fun other hmem => hother other ?_
        rintro rfl
        exact hfirst hmem
      simp [hold List.mem_cons_self, hsame]
    · have hne : name ≠ first := fun h => heq h.symm
      have hstep := ih hrest (fun hmem => hold (List.mem_cons_of_mem first hmem)) fun hmem => by
        apply hnew
        rw [List.mem_cons, not_or]
        exact ⟨hne, hmem⟩
      by_cases hmem : name ∈ rest
      · simp [heq, hmem, hstep, hother first heq]
      · simp [heq, hne, hmem, hstep, hother first heq]

/-! ## The passes -/

/-- The pass over the fillable fields, and the one over the time stamps. -/
theorem foldl_ensure {f : Text → Attribute} (hname : ∀ name, (f name).name = name)
    (type : ColumnType) (listed done : List Text)
    (h : ∀ name ∈ listed, name ∉ done → f name = ⟨name, type.name, false, false⟩) :
    listed.foldl (fun e name => ensure ⟨name, type.name, false, false⟩ e)
        ⟨model, table, done.eraseDups.map f⟩
      = ⟨model, table, (done ++ listed).eraseDups.map f⟩ := by
  induction listed generalizing done with
  | nil => simp
  | cons name rest ih =>
    have hnew : name ∉ done.eraseDups → f name = ⟨name, type.name, false, false⟩ := by
      intro hno
      exact h name List.mem_cons_self fun hmem => hno (List.mem_eraseDups.mpr hmem)
    have hstep : ensure ⟨name, type.name, false, false⟩ ⟨model, table, done.eraseDups.map f⟩
        = ⟨model, table, (done ++ [name]).eraseDups.map f⟩ := by
      rw [ensure_map hname hnew, eraseDups_snoc]
      simp
    rw [List.foldl_cons, hstep, ih (done ++ [name])]
    · simp
    · intro other hother hno
      refine h other (List.mem_cons_of_mem name hother) fun hmem => hno ?_
      exact List.mem_append_left [name] hmem

namespace Declarations

variable (d : Declarations)

/-- The declarations when only so many casts have been read. -/
def upTo (done : List (Text × Text)) : Declarations := { d with casts := done }

/-- One cast more changes one column, in its type only. -/
theorem column_upTo_snoc (done : List (Text × Text)) (name cast other : Text) :
    (d.upTo (done ++ [(name, cast)])).column other
      = if name = other then ⟨other, (castType cast).name, decide (other ∈ d.keyNames), false⟩
        else (d.upTo done).column other := by
  unfold column columnType
  simp only [upTo, lastCast?_snoc]
  by_cases h : name = other
  · simp only [if_pos h]
    rfl
  · simp only [if_neg h]
    rfl

theorem foldl_assignType (names : List Text) (hkey : ∀ name ∈ d.keyNames, name ∈ names)
    (rest done : List (Text × Text)) :
    rest.foldl (fun e (name, cast) => assignType name (castType cast) e)
        ⟨model, table, (names ++ done.map (·.1)).eraseDups.map (d.upTo done).column⟩
      = ⟨model, table,
          (names ++ (done ++ rest).map (·.1)).eraseDups.map (d.upTo (done ++ rest)).column⟩ := by
  induction rest generalizing done with
  | nil => simp
  | cons pair rest ih =>
    obtain ⟨name, cast⟩ := pair
    -- A cast gives a column of its name another type, or adds one behind all that there are.
    have hstep : assignType name (castType cast)
          ⟨model, table, (names ++ done.map (·.1)).eraseDups.map (d.upTo done).column⟩
        = ⟨model, table, (names ++ (done ++ [(name, cast)]).map (·.1)).eraseDups.map
            (d.upTo (done ++ [(name, cast)])).column⟩ := by
      rw [assignType, assignTypeIn_map (g := (d.upTo (done ++ [(name, cast)])).column) (fun _ => rfl)
        (nodup_eraseDups _)]
      · simp only [List.mem_eraseDups, List.map_append, List.map_cons, List.map_nil]
        rw [← List.append_assoc, eraseDups_snoc]
      · intro _
        rw [column_upTo_snoc, if_pos rfl]
        rfl
      · intro hno
        have hkeyless : name ∉ d.keyNames := by
          intro hmem
          exact hno (List.mem_eraseDups.mpr (List.mem_append_left _ (hkey name hmem)))
        rw [column_upTo_snoc, if_pos rfl]
        simp [hkeyless]
      · intro other hne
        rw [column_upTo_snoc, if_neg (Ne.symm hne)]
    rw [List.foldl_cons]
    dsimp only
    rw [hstep, ih (done ++ [(name, cast)])]
    simp

/-- What the passes begin with. -/
theorem start_eq : (if d.keyed then [syntheticKey] else [])
    = d.keyNames.eraseDups.map (d.upTo []).column := by
  unfold column columnType keyNames
  cases hk : d.keyed with
  | false => rfl
  | true => simp [List.eraseDups_cons, upTo, hk, lastCast?, syntheticKey]

theorem foldl_fillable :
    d.fillable.foldl (fun e name => ensure ⟨name, ColumnType.string.name, false, false⟩ e)
        ⟨model, table, d.keyNames.eraseDups.map (d.upTo []).column⟩
      = ⟨model, table, (d.keyNames ++ d.fillable).eraseDups.map (d.upTo []).column⟩ := by
  refine foldl_ensure (fun _ => rfl) .string d.fillable d.keyNames fun name hmem hno => ?_
  have hno' : name ∉ (d.upTo []).keyNames := hno
  have hmem' : name ∈ (d.upTo []).fillable := hmem
  have hnone : lastCast? (d.upTo []).casts name = none := rfl
  simp [column, columnType, hno', hmem', hnone]

theorem foldl_casts :
    d.casts.foldl (fun e (name, cast) => assignType name (castType cast) e)
        ⟨model, table, (d.keyNames ++ d.fillable).eraseDups.map (d.upTo []).column⟩
      = ⟨model, table,
          (d.keyNames ++ d.fillable ++ d.casts.map (·.1)).eraseDups.map d.column⟩ := by
  have hkey : ∀ name ∈ d.keyNames, name ∈ d.keyNames ++ d.fillable :=
    fun name hmem => List.mem_append_left _ hmem
  simpa [upTo] using d.foldl_assignType (d.keyNames ++ d.fillable) hkey d.casts []

/-- The pass over the time stamps. A time stamp is a column of its own only if nothing else named
    it. -/
theorem foldl_stamps :
    (if d.stamped then
        timestampNames.foldl
          (fun e name => ensure ⟨name, ColumnType.timestamp.name, false, false⟩ e)
          ⟨model, table, (d.keyNames ++ d.fillable ++ d.casts.map (·.1)).eraseDups.map d.column⟩
      else ⟨model, table,
        (d.keyNames ++ d.fillable ++ d.casts.map (·.1)).eraseDups.map d.column⟩)
      = ⟨model, table, d.columns⟩ := by
  unfold columns columnNames stampNames
  cases d.stamped with
  | false => simp
  | true =>
    rw [if_pos rfl, if_pos rfl]
    apply foldl_ensure (fun _ => rfl)
    intro name _ hno
    simp only [List.mem_append, not_or] at hno
    obtain ⟨⟨hkeyless, hunlisted⟩, huncast⟩ := hno
    simp [column, columnType, hkeyless, hunlisted, lastCast?_eq_none huncast]

end Declarations

/-- **The columns of an entity.** The passes come to the names declared, each once, with the types
    that the declarations give them. -/
theorem described_eq (model source : Text) :
    described model source
      = ⟨model, tableName model source, (declarations source).columns⟩ := by
  let d := declarations source
  have hpasses : described model source = if d.stamped then
        timestampNames.foldl
          (fun e name => ensure ⟨name, ColumnType.timestamp.name, false, false⟩ e)
          (d.casts.foldl (fun e (name, cast) => assignType name (castType cast) e)
            (d.fillable.foldl
              (fun e name => ensure ⟨name, ColumnType.string.name, false, false⟩ e)
              ⟨model, tableName model source, if d.keyed then [syntheticKey] else []⟩))
      else d.casts.foldl (fun e (name, cast) => assignType name (castType cast) e)
        (d.fillable.foldl
          (fun e name => ensure ⟨name, ColumnType.string.name, false, false⟩ e)
          ⟨model, tableName model source, if d.keyed then [syntheticKey] else []⟩) := rfl
  rw [hpasses, d.start_eq, d.foldl_fillable, d.foldl_casts]
  exact d.foldl_stamps

theorem Declarations.exists_of_mem_columns {d : Declarations} {a : Attribute} (h : a ∈ d.columns) :
    ∃ name, a = d.column name := by
  obtain ⟨name, -, rfl⟩ := List.mem_map.mp h
  exact ⟨name, rfl⟩

end Model
end EntityDiagram
