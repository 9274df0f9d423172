import EntityDiagram.Model.Loading
import EntityDiagram.Proofs.FileTree.Asking
import EntityDiagram.Proofs.Model.Isolation

/-!
# Which files become which entities

Between the pattern and the entities stand four filters: a path that the pattern selects must lead
to a file, the file must be readable, its text must look like a model, and a class must be declared
in it. Each is a function of its own, and two of them sort what passes. This module says what is
left when all four have been applied, without the order: which files are selected (`mem_files_iff`),
which source units they give (`mem_units_iff`), and which units give an entity
(`entities_assemble`).
-/

namespace EntityDiagram
namespace Model

open FileTree

variable {t : FileTree} {here : Location} {unreadable : List Location}

/-! ## Files -/

theorem filesAmong_ok {paths files : List Path} (h : filesAmong t here paths = .ok files) :
    (∀ p ∈ paths, ¬ t.TooLong here p) ∧ ∀ q, q ∈ files ↔ q ∈ paths ∧ t.LeadsToFile here q := by
  unfold filesAmong at h
  obtain ⟨hall, hmem⟩ := mem_of_collect_ok h
  constructor
  · intro p hp hlong
    obtain ⟨xs, hxs⟩ := hall p hp
    obtain ⟨b, hb, -⟩ := map_ok_iff.mp hxs
    rw [isFile_error_iff.mpr ⟨hlong, rfl⟩] at hb
    exact absurd hb (by simp)
  · intro q
    rw [hmem]
    constructor
    · rintro ⟨p, hp, xs, hxs, hq⟩
      obtain ⟨b, hf, rfl⟩ := map_ok_iff.mp hxs
      cases b with
      | false => simp at hq
      | true =>
        simp only [if_true, List.mem_singleton] at hq
        subst hq
        exact ⟨hp, isFile_true_iff.mp hf⟩
    · rintro ⟨hq, hfile⟩
      exact ⟨q, hq, [q], by simp [isFile_true_iff.mpr hfile, Except.map], List.mem_singleton_self q⟩

theorem filesAmong_error {paths : List Path} {f : FileFault}
    (h : filesAmong t here paths = .error f) :
    f.cause = .nameTooLong ∧ ∃ p ∈ paths, t.TooLong here p := by
  unfold filesAmong at h
  obtain ⟨p, hp, hask⟩ := exists_of_collect_error h
  obtain ⟨hlong, hcause⟩ := isFile_error_iff.mp (map_error_iff.mp hask)
  exact ⟨by rw [hcause]; rfl, p, hp, hlong⟩

/-- Some path that scanning a directory by a pattern asks about is too long to be answered for. -/
def ScanTooLong (t : FileTree) (here : Location) (directory : Path) (g : Glob) : Prop :=
  t.TooLong here directory ∨ (∃ f, t.glob here g directory = .error f)
    ∨ ∃ paths, t.glob here g directory = .ok paths ∧ ∃ p ∈ paths, t.TooLong here p

section Select

variable {directory : Path} {pattern : Text} {g : Glob}

/-- Only a pattern that is one selects files. -/
theorem exists_glob_of_selectFiles {files : List Path}
    (h : selectFiles t here directory pattern = .ok files) :
    ∃ g, Glob.ofText pattern = .ok g := by
  cases hg : Glob.ofText pattern with
  | error f => simp [selectFiles, hg] at h
  | ok g => exact ⟨g, rfl⟩

variable (hg : Glob.ofText pattern = .ok g)
include hg

theorem selectFiles_ok_iff {files : List Path} : selectFiles t here directory pattern = .ok files
    ↔ ∃ paths found, t.glob here g directory = .ok paths ∧ filesAmong t here paths = .ok found
      ∧ files = found.mergeSort fun p q => Text.atMostPiecewise p.parts q.parts := by
  rw [selectFiles, hg]
  dsimp only
  cases t.glob here g directory with
  | error f => simp
  | ok paths => cases hf : filesAmong t here paths <;> simp [hf, eq_comm]

/-- The files selected are the files among the paths that the pattern gives. -/
theorem mem_files_iff {files : List Path}
    (h : selectFiles t here directory pattern = .ok files) :
    ∃ paths, t.glob here g directory = .ok paths ∧ (∀ p ∈ paths, ¬ t.TooLong here p)
      ∧ ∀ q, q ∈ files ↔ q ∈ paths ∧ t.LeadsToFile here q := by
  obtain ⟨paths, found, hp, hf, rfl⟩ := (selectFiles_ok_iff hg).mp h
  obtain ⟨hshort, hmem⟩ := filesAmong_ok hf
  exact ⟨paths, hp, hshort, fun q => by rw [List.mem_mergeSort, hmem]⟩

/-- A pattern that is one selects no files only when a path is too long. -/
theorem selectFiles_error {fault : LoadFault}
    (h : selectFiles t here directory pattern = .error fault) :
    (∃ f, fault = .file f ∧ f.cause = .nameTooLong) ∧ ScanTooLong t here directory g := by
  unfold selectFiles at h
  rw [hg] at h
  dsimp only at h
  cases hp : t.glob here g directory with
  | error f =>
    simp only [hp, Except.error.injEq] at h
    exact ⟨⟨f, h.symm, glob_error hp⟩, .inr (.inl ⟨f, hp⟩)⟩
  | ok paths =>
    rw [hp] at h
    dsimp only at h
    cases hf : filesAmong t here paths with
    | ok found => simp [hf] at h
    | error f =>
      simp only [hf, Except.error.injEq] at h
      obtain ⟨hcause, p, hpath, hlong⟩ := filesAmong_error hf
      exact ⟨⟨f, h.symm, hcause⟩, .inr (.inr ⟨paths, hp, p, hpath, hlong⟩)⟩

theorem not_scanTooLong_of_ok {files : List Path} (hshort : ¬ t.TooLong here directory)
    (h : selectFiles t here directory pattern = .ok files) : ¬ ScanTooLong t here directory g := by
  obtain ⟨paths, hp, hall, -⟩ := mem_files_iff hg h
  rintro (hlong | ⟨f, hf⟩ | ⟨paths', hp', p, hmem, hlong⟩)
  · exact hshort hlong
  · rw [hp] at hf
    exact absurd hf (by simp)
  · rw [hp, Except.ok.injEq] at hp'
    subst hp'
    exact hall p hmem hlong

end Select

/-! ## Source units -/

theorem mem_unitsOf {results : List ReadResult} {u : SourceUnit} :
    u ∈ unitsOf results ↔ .ok u ∈ results := by
  unfold unitsOf
  rw [List.mem_filterMap]
  constructor
  · rintro ⟨r, hr, hu⟩
    cases r with
    | ok v =>
      simp only [Option.some.injEq] at hu
      exact hu ▸ hr
    | error s => simp at hu
  · intro h
    exact ⟨_, h, rfl⟩

theorem mem_reportsOf {results : List ReadResult} {s : Skipped} :
    s ∈ reportsOf results ↔ .error s ∈ results := by
  unfold reportsOf
  rw [List.mem_filterMap]
  constructor
  · rintro ⟨r, hr, hs⟩
    cases r with
    | ok v => simp at hs
    | error s' =>
      simp only [Option.some.injEq] at hs
      exact hs ▸ hr
  · intro h
    exact ⟨_, h, rfl⟩

/-- Loading gives each selected file as a unit or as a report, and it makes up none. -/
theorem mem_units_iff {directory : Path} {pattern : Text} {loaded : Loaded}
    (h : load t here unreadable directory pattern = .ok loaded) :
    ∃ files, selectFiles t here directory pattern = .ok files
      ∧ (∀ u, u ∈ loaded.units ↔ ∃ p ∈ files, readUnit t here unreadable p = .ok u)
      ∧ ∀ s, s ∈ loaded.unread ↔ ∃ p ∈ files, readUnit t here unreadable p = .error s := by
  obtain ⟨files, hs, rfl⟩ := map_ok_iff.mp h
  refine ⟨files, hs, ?_, ?_⟩
  · intro u
    simp only [gather, List.mem_mergeSort, mem_unitsOf, List.mem_map]
  · intro s
    simp only [gather, List.mem_mergeSort, mem_reportsOf, List.mem_map]

theorem selectFiles_of_load_error {directory : Path} {pattern : Text} {fault : LoadFault}
    (h : load t here unreadable directory pattern = .error fault) :
    selectFiles t here directory pattern = .error fault :=
  map_error_iff.mp h

/-! ## Entities -/

/-- An unhindered batch has the entities of the files that look like models, and no reports. -/
theorem contribution_uninterrupted {includeRelations : Bool} (u : SourceUnit) :
    (contribution ⟨includeRelations, true⟩ uninterrupted u).entities
      = if isLikely u.content u.name then (entity? u.name u.content).toList else [] := by
  cases hl : isLikely u.content u.name with
  | false => rw [contribution_of_unlikely rfl hl]; rfl
  | true =>
    have hx : Examined ⟨includeRelations, true⟩ u := fun _ => hl
    cases he : entity? u.name u.content with
    | none =>
      rw [contribution_of_examined hx]
      simp [contribution, examine, uninterrupted, he]
    | some e =>
      rw [contribution_of_entity hx rfl he]
      cases includeRelations <;> rfl

theorem entities_sum (as : List Assembly) :
    (Assembly.sum as).entities = as.flatMap (·.entities) := by
  induction as with
  | nil => rfl
  | cons a as ih => rw [Assembly.sum_cons, Assembly.entities_append, ih, List.flatMap_cons]

theorem entities_assemble {includeRelations : Bool} (us : List SourceUnit) :
    (assemble ⟨includeRelations, true⟩ uninterrupted us).entities
      = us.flatMap fun u =>
          if isLikely u.content u.name then (entity? u.name u.content).toList else [] := by
  rw [← Assembly.entities_findings, findings_assemble, entities_sum, List.flatMap_map]
  simp only [contribution_uninterrupted]

def SourceUnit.IsModel (u : SourceUnit) : Prop :=
  isLikely u.content u.name = true ∧ (entity? u.name u.content).isSome = true

/-- A batch has no entities exactly when none of its files is a model. -/
theorem entities_assemble_eq_nil {includeRelations : Bool} {us : List SourceUnit} :
    (assemble ⟨includeRelations, true⟩ uninterrupted us).entities = []
      ↔ ∀ u ∈ us, ¬ SourceUnit.IsModel u := by
  rw [entities_assemble, List.flatMap_eq_nil_iff]
  refine forall_congr' fun u => imp_congr_right fun _ => ?_
  unfold SourceUnit.IsModel
  cases isLikely u.content u.name with
  | false => simp
  | true => cases entity? u.name u.content <;> simp

end Model
end EntityDiagram
