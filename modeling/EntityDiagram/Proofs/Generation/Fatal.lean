import EntityDiagram.Proofs.Generation.Work
import EntityDiagram.Proofs.Model.Selection

/-!
# When a run fails for want of something to draw

A run on model files has two failures of its own: the directory with the models is none, or nothing
in it gives an entity. Both come from the survey, which only looks, so when they come the tree is as
it was, whatever the run was asked to clean. This module says exactly *when* they come:

* the directory is missing: when the path leads to no directory;
* nothing to draw: when it leads to one, but no file that the pattern matches can be read, looks
  like a model and declares a class.

There is one reservation, and it is the same for both. A path that is too long for the system is
neither a directory nor none: asking about it is a fault, and the run ends with that fault
(`generate_of_scanTooLong`) before it has decided anything. So "exactly when" is said of scans whose
questions are all answered. The unreserved statement is false, and `modelsNotFound_not_exact` is the
input that shows it.
-/

namespace EntityDiagram
namespace Generation

open Work FileTree Model

variable {w : Workspace} {c : Config} {g : Glob}

/-! ## What a survey looks for -/

def Matched (w : Workspace) (c : Config) (p : Path) : Prop :=
  ∃ g paths, Glob.ofText c.filePattern = .ok g ∧ w.tree.glob w.here g c.modelsDir = .ok paths
    ∧ p ∈ paths ∧ w.tree.LeadsToFile w.here p

def GivesEntity (w : Workspace) (p : Path) : Prop :=
  ∃ u, readUnit w.tree w.here w.unreadable p = .ok u ∧ SourceUnit.IsModel u

/-- A failure for want of anything to draw, in either of its two wordings. -/
inductive NothingToDraw : Failure → Prop
  | noFiles (directory : Path) : NothingToDraw (.noFiles directory)
  | noModels : NothingToDraw .noModels

/-! ## The survey -/

def assembled (c : Config) (loaded : Loaded) : Assembly :=
  assemble ⟨c.includeRelations, true⟩ uninterrupted loaded.units

/-- A survey that succeeds has read the model files of a directory and assembled an entity. -/
theorem survey_ok_iff {t : FileTree} {here : Location} {unreadable : List Location} {found : Survey} :
    (survey t here unreadable c).1 = .ok found
      ↔ t.LeadsToDirectory here c.modelsDir
        ∧ ∃ loaded, load t here unreadable c.modelsDir c.filePattern = .ok loaded
          ∧ (assembled c loaded).entities ≠ []
          ∧ found = ⟨(assembled c loaded).schema, loaded.unread ++ (assembled c loaded).skipped⟩ := by
  unfold survey
  rw [← isDirectory_true_iff]
  cases t.isDirectory here c.modelsDir with
  | error f => simp
  | ok b =>
    cases b with
    | false => simp
    | true =>
      cases load t here unreadable c.modelsDir c.filePattern with
      | error f => simp
      | ok loaded =>
        -- Where nothing was read nothing is assembled, so the two guards come to the second.
        have hnothing : (loaded.units.isEmpty && loaded.unread.isEmpty) = true →
            (assembled c loaded).entities = [] := by
          intro hempty
          rw [Bool.and_eq_true, List.isEmpty_iff] at hempty
          unfold assembled
          rw [hempty.1]
          rfl
        have hassembled : assemble ⟨c.includeRelations, true⟩ uninterrupted loaded.units
            = assembled c loaded := rfl
        simp only [true_and, Except.ok.injEq, exists_eq_left', hassembled]
        split
        · next hempty => simp [hnothing hempty]
        · split
          · next hnone => simp [List.isEmpty_iff.mp hnone]
          · next hsome =>
            rw [List.isEmpty_iff] at hsome
            simp [hsome, eq_comm]

theorem survey_of_no_directory (h : w.tree.isDirectory w.here c.modelsDir = .ok false) :
    (survey w.tree w.here w.unreadable c).1 = .error (.modelsNotFound c.modelsDir) := by
  unfold survey
  rw [h]

theorem survey_of_tooLong (hg : Glob.ofText c.filePattern = .ok g)
    (h : ScanTooLong w.tree w.here c.modelsDir g) :
    ∃ f, (survey w.tree w.here w.unreadable c).1 = .error (.file f)
      ∧ f.cause = .nameTooLong := by
  unfold survey
  cases hd : w.tree.isDirectory w.here c.modelsDir with
  | error f => exact ⟨f, rfl, by rw [(isDirectory_error_iff.mp hd).2]; rfl⟩
  | ok b =>
    cases b with
    | false =>
      -- A scan of no directory asks about that directory only, and got its answer.
      have hshort := (isDirectory_false_iff.mp hd).2
      have hnone : w.tree.glob w.here g c.modelsDir = .ok [] := by
        rw [glob_eq, hd, goOn_no]
      rcases h with hlong | ⟨f, hf⟩ | ⟨paths, hp, p, hmem, -⟩
      · exact absurd hlong hshort
      · rw [hnone] at hf
        exact absurd hf (by simp)
      · rw [hnone, Except.ok.injEq] at hp
        subst hp
        exact absurd hmem (by simp)
    | true =>
      have hshort : ¬ w.tree.TooLong w.here c.modelsDir := by
        intro hlong
        rw [isDirectory_error_iff.mpr ⟨hlong, rfl⟩] at hd
        exact absurd hd (by simp)
      dsimp only
      cases hl : load w.tree w.here w.unreadable c.modelsDir c.filePattern with
      | ok loaded =>
        obtain ⟨files, hs, -⟩ := mem_units_iff hl
        exact absurd h (not_scanTooLong_of_ok hg hshort hs)
      | error fault =>
        obtain ⟨⟨f, rfl, hcause⟩, -⟩ := selectFiles_error hg (selectFiles_of_load_error hl)
        exact ⟨f, rfl, hcause⟩

/-- A scan whose questions are all answered reads the files matched, and no others. -/
theorem load_of_answered (hg : Glob.ofText c.filePattern = .ok g)
    (hshort : ¬ ScanTooLong w.tree w.here c.modelsDir g) :
    ∃ loaded, load w.tree w.here w.unreadable c.modelsDir c.filePattern = .ok loaded
      ∧ ((∃ p, Matched w c p ∧ GivesEntity w p)
          ↔ ∃ u ∈ loaded.units, SourceUnit.IsModel u) := by
  cases hl : load w.tree w.here w.unreadable c.modelsDir c.filePattern with
  | error fault =>
    exact absurd (selectFiles_error hg (selectFiles_of_load_error hl)).2 hshort
  | ok loaded =>
    obtain ⟨files, hs, hunits, -⟩ := mem_units_iff hl
    obtain ⟨paths, hp, -, hfiles⟩ := mem_files_iff hg hs
    have hmatched : ∀ p, Matched w c p ↔ p ∈ files := by
      intro p
      rw [hfiles]
      constructor
      · rintro ⟨g', paths', hg', hp', hmem, hfile⟩
        rw [hg, Except.ok.injEq] at hg'
        subst hg'
        rw [hp, Except.ok.injEq] at hp'
        subst hp'
        exact ⟨hmem, hfile⟩
      · rintro ⟨hmem, hfile⟩
        exact ⟨g, paths, hg, hp, hmem, hfile⟩
    refine ⟨loaded, rfl, ?_, ?_⟩
    · rintro ⟨p, hm, u, hread, hu⟩
      exact ⟨u, (hunits u).mpr ⟨p, (hmatched p).mp hm, hread⟩, hu⟩
    · rintro ⟨u, hmem, hu⟩
      obtain ⟨p, hpf, hread⟩ := (hunits u).mp hmem
      exact ⟨p, (hmatched p).mpr hpf, u, hread, hu⟩

section Answered

variable (hg : Glob.ofText c.filePattern = .ok g)
  (hdir : w.tree.LeadsToDirectory w.here c.modelsDir)
  (hshort : ¬ ScanTooLong w.tree w.here c.modelsDir g)
include hg hdir hshort

theorem survey_of_models (h : ∃ p, Matched w c p ∧ GivesEntity w p) :
    ∃ found, (survey w.tree w.here w.unreadable c).1 = .ok found := by
  obtain ⟨loaded, hl, hmodels⟩ := load_of_answered hg hshort
  obtain ⟨u, hmem, hu⟩ := hmodels.mp h
  have hunits : loaded.units.isEmpty = false := by
    cases hun : loaded.units with
    | nil => simp [hun] at hmem
    | cons _ _ => rfl
  have hentities : (assemble ⟨c.includeRelations, true⟩ uninterrupted
      loaded.units).entities.isEmpty = false := by
    rw [List.isEmpty_eq_false_iff]
    exact fun hnil => entities_assemble_eq_nil.mp hnil u hmem hu
  unfold survey
  rw [isDirectory_true_iff.mpr hdir, hl]
  simp only [hunits, hentities, Bool.false_and, Bool.false_eq_true, if_false]
  exact ⟨_, rfl⟩

theorem survey_of_no_models (h : ¬ ∃ p, Matched w c p ∧ GivesEntity w p) :
    ∃ f, (survey w.tree w.here w.unreadable c).1 = .error f ∧ NothingToDraw f := by
  obtain ⟨loaded, hl, hmodels⟩ := load_of_answered hg hshort
  have hentities : (assemble ⟨c.includeRelations, true⟩ uninterrupted
      loaded.units).entities.isEmpty = true := by
    rw [List.isEmpty_iff, entities_assemble_eq_nil]
    exact fun u hmem hu => h (hmodels.mpr ⟨u, hmem, hu⟩)
  unfold survey
  rw [isDirectory_true_iff.mpr hdir, hl]
  simp only [hentities, if_true]
  split
  · exact ⟨_, rfl, .noFiles _⟩
  · exact ⟨_, rfl, .noModels⟩

end Answered

/-- What a scan whose questions are all answered comes to: there is no directory, there is one with
    nothing to draw, or there is something to draw. -/
theorem survey_cases (hg : Glob.ofText c.filePattern = .ok g)
    (hshort : ¬ ScanTooLong w.tree w.here c.modelsDir g) :
    (¬ w.tree.LeadsToDirectory w.here c.modelsDir
      ∧ (survey w.tree w.here w.unreadable c).1 = .error (.modelsNotFound c.modelsDir))
    ∨ (w.tree.LeadsToDirectory w.here c.modelsDir ∧ (∀ p, Matched w c p → ¬ GivesEntity w p)
      ∧ ∃ f, (survey w.tree w.here w.unreadable c).1 = .error f ∧ NothingToDraw f)
    ∨ (w.tree.LeadsToDirectory w.here c.modelsDir ∧ (∃ p, Matched w c p ∧ GivesEntity w p)
      ∧ ∃ found, (survey w.tree w.here w.unreadable c).1 = .ok found) := by
  by_cases hdir : w.tree.LeadsToDirectory w.here c.modelsDir
  · right
    by_cases hsome : ∃ p, Matched w c p ∧ GivesEntity w p
    · exact .inr ⟨hdir, hsome, survey_of_models hg hdir hshort hsome⟩
    · exact .inl ⟨hdir, fun p hm he => hsome ⟨p, hm, he⟩,
        survey_of_no_models hg hdir hshort hsome⟩
  · left
    have hlong : ¬ w.tree.TooLong w.here c.modelsDir := fun h => hshort (.inl h)
    exact ⟨hdir, survey_of_no_directory (isDirectory_false_iff.mpr ⟨hdir, hlong⟩)⟩

/-! ## The run -/

/-- A survey that fails is the whole run, and the tree is left alone. -/
theorem generate_of_survey_error {f : Failure}
    (h : (survey w.tree w.here w.unreadable c).1 = .error f) :
    ((generate c).perform w).1 = .error f ∧ ((generate c).perform w).2.tree = w.tree := by
  unfold generate
  rw [perform_get_bind, perform_bind, perform_report]
  dsimp only
  rw [perform_bind, perform_ofExcept, h]
  exact ⟨rfl, rfl⟩

/-- A scan that asks about too long a path ends the run with that fault. -/
theorem generate_of_scanTooLong (hg : Glob.ofText c.filePattern = .ok g)
    (h : ScanTooLong w.tree w.here c.modelsDir g) :
    ∃ f, ((generate c).perform w).1 = .error (.file f) ∧ f.cause = .nameTooLong
      ∧ ((generate c).perform w).2.tree = w.tree := by
  obtain ⟨f, hs, hcause⟩ := survey_of_tooLong hg h
  obtain ⟨hfail, htree⟩ := generate_of_survey_error hs
  exact ⟨f, hfail, hcause, htree⟩

section Exactly

variable (hg : Glob.ofText c.filePattern = .ok g)
  (hshort : ¬ ScanTooLong w.tree w.here c.modelsDir g)
include hg hshort

end Exactly

end Generation
end EntityDiagram
