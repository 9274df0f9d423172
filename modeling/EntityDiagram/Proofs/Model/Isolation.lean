import EntityDiagram.Model.Assembly
import EntityDiagram.Proofs.Model.Columns

/-!
# A batch is its files, one by one

`examineAll` threads the entities known so far through the batch, because the notes on a file depend
on them: a relationship whose target is not known *yet* is worth a remark. Threading is also how one
file could come to influence another. This module shows that it does not. Leave the notes out, and
what a file adds is a function of that file and of what interrupts it alone:

> `(examineAll o i known us).findings` is `us.map (contribution o i)`, put together.

Everything else is read off that equation. The findings of two batches together are the findings of
the two, one after the other (`findings_assemble_append`). Passing over the files that do not look
like models is the same as leaving them out beforehand (`findings_assemble_prefilter`). And what a
single file can do is a question about `contribution`, in which nothing is threaded any more.
-/

namespace EntityDiagram
namespace Model

/-! ## Assemblies under `++` -/

namespace Assembly

/-- What an assembly found: all of it but the notes on the way. -/
def findings (a : Assembly) : Assembly := { a with log := [] }

@[simp] theorem entities_append (a b : Assembly) :
    (a ++ b).entities = a.entities ++ b.entities := rfl

@[simp] theorem relationships_append (a b : Assembly) :
    (a ++ b).relationships = a.relationships ++ b.relationships := rfl

@[simp] theorem skipped_append (a b : Assembly) : (a ++ b).skipped = a.skipped ++ b.skipped := rfl

@[simp] theorem log_append (a b : Assembly) : (a ++ b).log = a.log ++ b.log := rfl

/-- Two assemblies are equal when they found the same things and made the same notes. -/
theorem ext_parts {a b : Assembly} (he : a.entities = b.entities)
    (hr : a.relationships = b.relationships) (hs : a.skipped = b.skipped) (hl : a.log = b.log) :
    a = b := by
  cases a
  cases b
  simp_all

@[simp] theorem empty_append (a : Assembly) : ({} : Assembly) ++ a = a :=
  ext_parts rfl rfl rfl rfl

@[simp] theorem append_empty (a : Assembly) : a ++ ({} : Assembly) = a := by
  apply ext_parts <;> simp

theorem append_assoc (a b c : Assembly) : a ++ b ++ c = a ++ (b ++ c) := by
  apply ext_parts <;> simp

@[simp] theorem findings_append (a b : Assembly) :
    (a ++ b).findings = a.findings ++ b.findings := rfl

@[simp] theorem entities_findings (a : Assembly) : a.findings.entities = a.entities := rfl

@[simp] theorem relationships_findings (a : Assembly) :
    a.findings.relationships = a.relationships := rfl

@[simp] theorem skipped_findings (a : Assembly) : a.findings.skipped = a.skipped := rfl

@[simp] theorem entities_schema (a : Assembly) : a.schema.entities = a.entities := rfl

@[simp] theorem findings_notes (log : Log) : ({ log := log } : Assembly).findings = {} := rfl

/-- Assemblies one after another. -/
def sum (as : List Assembly) : Assembly := as.foldr (· ++ ·) {}

@[simp] theorem sum_nil : sum [] = {} := rfl

@[simp] theorem sum_cons (a : Assembly) (as : List Assembly) : sum (a :: as) = a ++ sum as := rfl

theorem sum_append (as bs : List Assembly) : sum (as ++ bs) = sum as ++ sum bs := by
  induction as with
  | nil => simp
  | cons a as ih => rw [List.cons_append, sum_cons, sum_cons, ih, append_assoc]

end Assembly

/-! ## What one file adds -/

variable {options : Options} {interruptions : Interruptions} {u : SourceUnit}

def contribution (options : Options) (interruptions : Interruptions) (u : SourceUnit) : Assembly :=
  (examine options interruptions [] u).findings

theorem findings_examineRelations (known known' : List Entity) :
    (examineRelations interruptions known u).findings
      = (examineRelations interruptions known' u).findings := by
  unfold examineRelations
  cases interruptions .relationships u <;> rfl

/-- And so does the whole examination: the entities known reach it through the relationship step
    only. -/
theorem findings_examine (known : List Entity) :
    (examine options interruptions known u).findings = contribution options interruptions u := by
  unfold contribution examine
  split
  · rfl
  · cases interruptions .attributes u with
    | some cause => rfl
    | none =>
      cases entity? u.name u.content with
      | none => rfl
      | some e =>
        cases options.includeRelations with
        | false => rfl
        | true =>
          simp only [if_true, Assembly.findings_append]
          rw [findings_examineRelations]

/-- **Nothing is threaded.** The findings of a batch are the contributions of its files. -/
theorem findings_examineAll (known : List Entity) (us : List SourceUnit) :
    (examineAll options interruptions known us).findings
      = Assembly.sum (us.map (contribution options interruptions)) := by
  induction us generalizing known with
  | nil => rfl
  | cons u us ih =>
    rw [examineAll, Assembly.findings_append, findings_examine, ih, List.map_cons,
      Assembly.sum_cons]

/-- The closing note finds nothing, so the same holds of an assembled batch. -/
theorem findings_assemble (us : List SourceUnit) :
    (assemble options interruptions us).findings
      = Assembly.sum (us.map (contribution options interruptions)) :=
  findings_examineAll [] us

/-! ## Batches -/

theorem findings_assemble_append (us vs : List SourceUnit) :
    (assemble options interruptions (us ++ vs)).findings
      = (assemble options interruptions us).findings
        ++ (assemble options interruptions vs).findings := by
  simp only [findings_assemble, List.map_append, Assembly.sum_append]

theorem findings_assemble_single :
    (assemble options interruptions [u]).findings = contribution options interruptions u := by
  simp [findings_assemble]

/-- A file that does not look like a model contributes nothing when such files are passed over. -/
theorem contribution_of_unlikely (hp : options.prefilter = true)
    (hl : isLikely u.content u.name = false) : contribution options interruptions u = {} := by
  simp [contribution, examine, hp, hl]

def Examined (options : Options) (u : SourceUnit) : Prop :=
  options.prefilter = true → isLikely u.content u.name = true

/-- A file that is examined contributes the same with the pre-filter off. -/
theorem contribution_of_examined (h : Examined options u) :
    contribution options interruptions u
      = contribution { options with prefilter := false } interruptions u := by
  unfold Examined at h
  unfold contribution examine
  cases hp : options.prefilter with
  | false => simp
  | true => simp [h hp]

/-- Passing over files that do not look like models is leaving them out. -/
theorem findings_assemble_prefilter (includeRelations : Bool) (us : List SourceUnit) :
    (assemble ⟨includeRelations, true⟩ interruptions us).findings
      = (assemble ⟨includeRelations, false⟩ interruptions
          (us.filter fun u => isLikely u.content u.name)).findings := by
  simp only [findings_assemble]
  induction us with
  | nil => rfl
  | cons u us ih =>
    rw [List.map_cons, Assembly.sum_cons, ih, List.filter_cons]
    cases hl : isLikely u.content u.name with
    | false =>
      have hnone : contribution ⟨includeRelations, true⟩ interruptions u = {} :=
        contribution_of_unlikely rfl hl
      rw [hnone, Assembly.empty_append]
      simp
    | true =>
      have h : Examined ⟨includeRelations, true⟩ u := fun _ => hl
      rw [contribution_of_examined h, if_pos rfl, List.map_cons, Assembly.sum_cons]

/-! ## What a single file can do -/

theorem name_of_entity? {model source : Text} {e : Entity} (h : entity? model source = some e) :
    e.name = model := by
  unfold entity? at h
  split at h
  · simp only [Option.some.injEq] at h
    rw [← h, described_eq]
  · exact absurd h (by simp)

theorem source_of_mem_relationships {model source : Text} {r : Relationship}
    (h : r ∈ relationships model source) : r.source = model := by
  obtain ⟨call, -, hcall⟩ := List.mem_filterMap.mp h
  unfold RelationCall.relationship? at hcall
  split at hcall
  · exact absurd hcall (by simp)
  · simp only [Option.some.injEq] at hcall
    rw [← hcall]

/-- What the relationship step adds: the relationships of the file and no more, or its report. -/
theorem contribution_of_entity {e : Entity} (hx : Examined options u)
    (ha : interruptions .attributes u = none) (he : entity? u.name u.content = some e) :
    contribution options interruptions u
      = { entities := [e] } ++ (if options.includeRelations then
          (examineRelations interruptions [] u).findings else {}) := by
  rw [contribution_of_examined hx]
  unfold contribution examine
  simp only [Bool.false_and, Bool.false_eq_true, if_false, ha, he]
  cases options.includeRelations with
  | false => rfl
  | true =>
    simp only [if_true, Assembly.findings_append, findings_examineRelations ([] ++ [e]) []]
    rfl

/-- An interrupted attribute step leaves the report of it and nothing else. -/
theorem contribution_attributes_interrupted {cause : Text} (hx : Examined options u)
    (ha : interruptions .attributes u = some cause) :
    contribution options interruptions u = { skipped := [⟨u.label, cause⟩] } := by
  rw [contribution_of_examined hx]
  unfold contribution examine
  simp only [Bool.false_and, Bool.false_eq_true, if_false, ha]
  rfl

theorem contribution_relationships_interrupted {e : Entity} {cause : Text}
    (hx : Examined options u) (hi : options.includeRelations = true)
    (ha : interruptions .attributes u = none) (he : entity? u.name u.content = some e)
    (hr : interruptions .relationships u = some cause) :
    contribution options interruptions u
      = { entities := [e], skipped := [⟨u.label, cause⟩] } := by
  rw [contribution_of_entity hx ha he, if_pos hi]
  unfold examineRelations
  rw [hr]
  rfl

/-- What a contribution is made of: nothing, a report, or the entity that the file declares, with its
    relationships, without them, or with a report. -/
theorem contribution_cases (options : Options) (interruptions : Interruptions) (u : SourceUnit) :
    contribution options interruptions u = {}
      ∨ (∃ s, contribution options interruptions u = { skipped := [s] })
      ∨ ∃ e, entity? u.name u.content = some e
          ∧ ((∃ rs, (rs = [] ∨ rs = relationships u.name u.content)
              ∧ contribution options interruptions u = { entities := [e], relationships := rs })
            ∨ ∃ s, contribution options interruptions u = { entities := [e], skipped := [s] }) := by
  by_cases hx : Examined options u
  · cases ha : interruptions .attributes u with
    | some cause => exact .inr (.inl ⟨_, contribution_attributes_interrupted hx ha⟩)
    | none =>
      cases he : entity? u.name u.content with
      | none =>
        left
        rw [contribution_of_examined hx]
        simp [contribution, examine, ha, he]
      | some e =>
        have hc := contribution_of_entity hx ha he
        refine .inr (.inr ⟨e, rfl, ?_⟩)
        cases hi : options.includeRelations with
        | false => exact .inl ⟨[], .inl rfl, by simpa [hi] using hc⟩
        | true =>
          cases hr : interruptions .relationships u with
          | some cause =>
            exact .inr ⟨_, contribution_relationships_interrupted hx hi ha he hr⟩
          | none =>
            refine .inl ⟨relationships u.name u.content, .inr rfl, ?_⟩
            rw [hc, if_pos hi]
            unfold examineRelations
            rw [hr]
            rfl
  · left
    obtain ⟨hp, hl⟩ := Classical.not_imp.mp hx
    exact contribution_of_unlikely hp (Bool.eq_false_iff.mpr hl)

/-- A contribution has one of four shapes: nothing, a report, an entity with relationships of its
    own, or an entity with a report. -/
theorem contribution_shape (options : Options) (interruptions : Interruptions) (u : SourceUnit) :
    contribution options interruptions u = {}
      ∨ (∃ s, contribution options interruptions u = { skipped := [s] })
      ∨ (∃ e rs, contribution options interruptions u = { entities := [e], relationships := rs }
          ∧ ∀ r ∈ rs, r.source = e.name)
      ∨ (∃ e s, contribution options interruptions u = { entities := [e], skipped := [s] }) := by
  rcases contribution_cases options interruptions u with h | h | ⟨e, he, ⟨rs, hrs, h⟩ | ⟨s, h⟩⟩
  · exact .inl h
  · exact .inr (.inl h)
  · refine .inr (.inr (.inl ⟨e, rs, h, fun r hmem => ?_⟩))
    rcases hrs with rfl | rfl
    · exact absurd hmem List.not_mem_nil
    · -- Relationships start at the name of the file, which is that of its entity.
      rw [source_of_mem_relationships hmem, name_of_entity? he]
  · exact .inr (.inr (.inr ⟨e, s, h⟩))

/-- **A batch is its files, and a file harms no other.** For every way in which steps may be
    interrupted: two batches together find what the two find; a file adds at most one entity and at
    most one report, and relationships of its own entity alone; an interrupted attribute step adds
    its report only, an interrupted relationship step the entity and its report; and the pre-filter
    leaves out the files that do not look like models, no more. -/
theorem assemble_compositional (options : Options) (interruptions : Interruptions) :
    (∀ us vs, (assemble options interruptions (us ++ vs)).findings
      = (assemble options interruptions us).findings
        ++ (assemble options interruptions vs).findings)
    ∧ (∀ u, (assemble options interruptions [u]).entities.length ≤ 1
        ∧ (assemble options interruptions [u]).skipped.length ≤ 1
        ∧ ∀ r ∈ (assemble options interruptions [u]).relationships,
            ∃ e, (assemble options interruptions [u]).entities = [e] ∧ r.source = e.name)
    ∧ (∀ u cause, Examined options u → interruptions .attributes u = some cause →
        (assemble options interruptions [u]).findings
          = { skipped := [⟨if u.path = [] then u.name else u.path, cause⟩] })
    ∧ (∀ u e cause, Examined options u → options.includeRelations = true →
        interruptions .attributes u = none → entity? u.name u.content = some e →
        interruptions .relationships u = some cause →
        (assemble options interruptions [u]).findings
          = { entities := [e]
              skipped := [⟨if u.path = [] then u.name else u.path, cause⟩] })
    ∧ (∀ us, (assemble { options with prefilter := true } interruptions us).findings
        = (assemble { options with prefilter := false } interruptions
            (us.filter fun u => isLikely u.content u.name)).findings) := by
  have hlabel : ∀ u : SourceUnit, u.label = if u.path = [] then u.name else u.path := by
    intro u
    simp [SourceUnit.label, List.isEmpty_iff]
  refine ⟨findings_assemble_append, ?_, ?_, ?_, findings_assemble_prefilter _⟩
  · intro u
    rw [← Assembly.entities_findings, ← Assembly.skipped_findings,
      ← Assembly.relationships_findings, findings_assemble_single]
    rcases contribution_shape options interruptions u with
      h | ⟨s, h⟩ | ⟨e, rs, h, hsource⟩ | ⟨e, s, h⟩ <;> rw [h]
    · simp
    · simp
    · exact ⟨Nat.le_refl _, Nat.zero_le _, fun r hmem => ⟨e, rfl, hsource r hmem⟩⟩
    · simp
  · intro u cause hx ha
    rw [findings_assemble_single, contribution_attributes_interrupted hx ha, hlabel]
  · intro u e cause hx hi ha he hr
    rw [findings_assemble_single, contribution_relationships_interrupted hx hi ha he hr, hlabel]

/-- The law at work: of three files the first is passed over, the second loses its relationships and
    the third everything, and what the second has left is what it would have alone. -/
theorem assemble_compositional_three_files :
    let content : Text := "class A extends Model \x7b function b() \x7b $this->hasOne(B::class"
    let helper : SourceUnit := ⟨"Helper", "class Helper", []⟩
    let first : SourceUnit := ⟨"A", content, "a.php"⟩
    let last : SourceUnit := ⟨"Z", content, []⟩
    let faults : Interruptions := fun step u => match step with
      | .attributes => if u.name = ("Z" : Text) then some "lost" else none
      | .relationships => some "cut"
    let entity : Entity := ⟨"A", "as", [⟨"id", "bigint", true, false⟩,
      ⟨"created_at", "timestamp", false, false⟩, ⟨"updated_at", "timestamp", false, false⟩]⟩
    (assemble {} faults ([helper, first] ++ [last])).findings
      = { entities := [entity]
          skipped := [⟨"a.php", "cut"⟩] } ++ { skipped := [⟨"Z", "lost"⟩] } := by
  intro content helper first last faults entity
  obtain ⟨happend, -, hattributes, hrelationships, hprefilter⟩ := assemble_compositional {} faults
  have hfirst : (assemble {} faults [first]).findings
      = { entities := [entity], skipped := [⟨"a.php", "cut"⟩] } :=
    hrelationships first entity "cut" (fun _ => by decide +kernel) rfl rfl
      (by decide +kernel) rfl
  have hlast : (assemble {} faults [last]).findings = { skipped := [⟨"Z", "lost"⟩] } :=
    hattributes last "lost" (fun _ => by decide +kernel) rfl
  have hhelper : ([helper, first].filter fun u => isLikely u.content u.name)
      = ([first].filter fun u => isLikely u.content u.name) := by
    decide +kernel
  have hskip : (assemble {} faults [helper, first]).findings
      = (assemble {} faults [first]).findings := by
    rw [show ({} : Options) = { ({} : Options) with prefilter := true } from rfl, hprefilter,
      hprefilter, hhelper]
  rw [happend, hskip, hfirst, hlast]

end Model
end EntityDiagram
