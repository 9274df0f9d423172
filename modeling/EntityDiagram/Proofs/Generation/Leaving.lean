import EntityDiagram.Proofs.FileTree.Walking
import EntityDiagram.Proofs.Generation.Keeping
import EntityDiagram.Proofs.Model.Scheduling

/-!
# What a run leaves behind

A run that succeeds has written two files, and this module says what it left everywhere (`Leaves`):
the two files with what was drawn, whatever stood there before; everything else as it was; and in the
output directory, if that was cleaned, nothing else.

Two reservations are part of the statement, and both are about output paths that go up. Directories
are made on the way to the output directory, and a way that leads through it and up again makes
directories in it, after it was cleaned. And cleaning asks first whether the path leads anywhere: a
path that goes into a directory that is missing and up again leads nowhere until that directory is
made, so what it leads to then has not been cleaned (`generate_leaves_uncleaned`). A path that only
goes down has neither (`Leaves.nothingElse`).
-/

namespace EntityDiagram
namespace Generation

open Work FileTree Model

variable {w w' : Workspace} {c : Config} {here l m : Location}
variable {page diagram : Text} {before cleaned made paged after : FileTree}

/-! ## The stages at a location -/

/-- The location is none of the two that are written, when the output directory is at the first. -/
def Unwritten (m l : Location) : Prop := l ≠ m ++ [pageName] ∧ l ≠ m ++ [diagramName]

section Stages

variable (hlinks : before.NoLinks) (h : Stages here c page diagram before cleaned made paged after)
include hlinks h

theorem Stages.noLinks_made : made.NoLinks := hlinks.of_noNewFiles h.noNewFiles_made

theorem Stages.noLinks_after : after.NoLinks :=
  ((h.noLinks_made hlinks).write h.page).write h.diagram

/-- The directory that the writes go to. -/
theorem Stages.directory : ∃ m, made.find here true c.outputDir = .ok ⟨m, some .directory⟩
    ∧ made.find here true (c.outputDir.child pageName)
        = .ok ⟨m ++ [pageName], made.lookup (m ++ [pageName])⟩ := by
  have hmade := h.noLinks_made hlinks
  obtain ⟨found, hfound, -⟩ := write_ok h.page
  obtain ⟨hadmitted, hstart, m, hway, rfl⟩ := (find_child hmade isName_pageName).mp hfound
  exact ⟨m, (find_eq_stretch hmade).mpr ⟨hadmitted.parent, hstart, hway⟩, hfound⟩

/-- What the two writes do, when the output directory is at the given location. -/
theorem Stages.writes (hm : made.find here true c.outputDir = .ok ⟨m, some .directory⟩) :
    after.find here true c.outputDir = .ok ⟨m, some .directory⟩
      ∧ after.lookup (m ++ [pageName]) = some (.file (Utf8.encode page))
      ∧ after.lookup (m ++ [diagramName]) = some (.file (Utf8.encode diagram))
      ∧ ∀ l, Unwritten m l → after.lookup l = made.lookup l := by
  have hmade := h.noLinks_made hlinks
  have hpaged := hmade.write h.page
  have hafter := hpaged.write h.diagram
  -- A write takes the place of no directory, so the way to the output directory stays open.
  have hstays : ∀ {t u : FileTree} {file : Path} {bytes : List UInt8}, t.NoLinks → u.NoLinks →
      t.write here file bytes = .ok u →
      t.find here true c.outputDir = .ok ⟨m, some .directory⟩ →
      u.find here true c.outputDir = .ok ⟨m, some .directory⟩ := by
    intro t u file bytes ht hu hwrite hfind
    exact find_directory_mono ht hu (fun _ => directory_of_write hwrite) hfind
  -- Each write is to a name in the directory that the output path leads to.
  have hplace : ∀ {t u : FileTree} {name : Text} {bytes : List UInt8}, t.NoLinks → IsName name →
      t.find here true c.outputDir = .ok ⟨m, some .directory⟩ →
      t.write here (c.outputDir.child name) bytes = .ok u →
      ∀ l, u.lookup l = if l = m ++ [name] then some (.file bytes) else t.lookup l := by
    intro t u name bytes ht hname hfind hwrite
    obtain ⟨found, hfound, -, hlookup⟩ := write_ok hwrite
    obtain ⟨-, -, m', hway, rfl⟩ := (find_child ht hname).mp hfound
    have hsame := ((find_eq_stretch ht).mp hfind).2.2
    rw [hway, Stretch.arrived.injEq, Found.mk.injEq] at hsame
    rw [hsame.1] at hlookup
    exact hlookup
  have hm' := hstays hmade hpaged h.page hm
  have hpage := hplace hmade isName_pageName hm h.page
  have hdiagram := hplace hpaged isName_diagramName hm' h.diagram
  have hne : m ++ [pageName] ≠ m ++ [diagramName] := by
    rw [ne_eq, List.append_cancel_left_eq]
    decide
  refine ⟨hstays hpaged hafter h.diagram hm', ?_, ?_, fun l hl => ?_⟩
  · rw [hdiagram, if_neg hne, hpage, if_pos rfl]
  · rw [hdiagram, if_pos rfl]
  · rw [hdiagram, if_neg hl.2, hpage, if_neg hl.1]

/-- Making directories adds directories on the way. -/
theorem Stages.growsOnWay : GrowsOnWay here c.outputDir cleaned made := by
  have hcleaned : cleaned.NoLinks := by
    have hclean := h.clean
    split at hclean
    · exact hlinks.of_noNewFiles (shrinks_of_clean hclean).noNewFiles
    · exact hclean ▸ hlinks
  have hgrows : GrowsOnWay here c.outputDir cleaned (cleaned.makeDirectories here c.outputDir).1 :=
    makeDirectories_growsOnWay hcleaned
  rwa [h.make] at hgrows

end Stages

/-! ## What is left -/

/-- The location has what it had before, or a new directory on the way to the output directory. -/
def KeptOrMade (before : FileTree) (here : Location) (c : Config) (after : FileTree)
    (l : Location) : Prop :=
  after.lookup l = before.lookup l
    ∨ before.lookup l = none ∧ after.lookup l = some .directory ∧ OnWay here c.outputDir l

/-- What a run with the given page and diagram leaves, its output directory being at the given
    location. -/
structure Leaves (before : FileTree) (here : Location) (c : Config) (page diagram : Text)
    (m : Location) (after : FileTree) : Prop where
  leads : after.find here true c.outputDir = .ok ⟨m, some .directory⟩
  page : after.lookup (m ++ [pageName]) = some (.file (Utf8.encode page))
  diagram : after.lookup (m ++ [diagramName]) = some (.file (Utf8.encode diagram))
  spared : ∀ l, Unwritten m l → ¬ Emptied before here c l → KeptOrMade before here c after l
  /-- What was emptied is the output directory. -/
  emptied : ∀ l, Emptied before here c l
    ↔ c.cleanOutput = true ∧ before.LeadsToDirectory here c.outputDir ∧ isBelow m l = true
  gone : ∀ l, Unwritten m l → Emptied before here c l →
    after.lookup l = none ∨ after.lookup l = some .directory ∧ OnWay here c.outputDir l
  nothingElse : c.cleanOutput = true → wayUp ∉ c.outputDir.parts →
    ∀ l, isBelow m l = true → Unwritten m l → after.lookup l = none

theorem Stages.leaves (hlinks : before.NoLinks)
    (h : Stages here c page diagram before cleaned made paged after) :
    ∃ m, Leaves before here c page diagram m after := by
  obtain ⟨m, hm, -⟩ := h.directory hlinks
  obtain ⟨hleads, hpage, hdiagram, hothers⟩ := h.writes hlinks hm
  have hmade := h.noLinks_made hlinks
  have hplace : m = walk (startOf here c.outputDir) c.outputDir.parts := location_of_find hmade hm
  have hemptied : ∀ l, Emptied before here c l
      ↔ c.cleanOutput = true ∧ before.LeadsToDirectory here c.outputDir ∧ isBelow m l = true := by
    intro l
    refine and_congr_right fun _ => ?_
    constructor
    · rintro ⟨m', hm', hbelow⟩
      obtain rfl : m' = m := (location_of_find hlinks hm').trans hplace.symm
      exact ⟨⟨m', hm'⟩, hbelow⟩
    · rintro ⟨⟨m', hm'⟩, hbelow⟩
      obtain rfl : m' = m := (location_of_find hlinks hm').trans hplace.symm
      exact ⟨m', hm', hbelow⟩
  refine ⟨m, hleads, hpage, hdiagram, ?_, hemptied, ?_, ?_⟩
  · intro l hl hkept
    unfold KeptOrMade
    rw [hothers l hl, ← h.lookup_cleaned.2 hkept]
    exact (h.growsOnWay hlinks l).imp id fun hnew => ⟨hnew.1, hnew.2.1, hnew.2.2.1⟩
  · intro l hl hgone
    rw [hothers l hl, ← h.lookup_cleaned.1 hgone]
    exact (h.growsOnWay hlinks l).imp id fun hnew => ⟨hnew.2.1, hnew.2.2.1⟩
  · intro hclean hup l hbelow hl
    -- A way that only goes down makes nothing below its end, so what was not there is not.
    have hsame : made.lookup l = cleaned.lookup l := by
      rcases h.growsOnWay hlinks l with heq | ⟨-, -, hway, -⟩
      · exact heq
      · exact absurd (hplace ▸ hbelow) (hway.not_below hup)
    rw [hothers l hl, hsame]
    by_cases hgone : Emptied before here c l
    · exact h.lookup_cleaned.1 hgone
    · -- Had anything been there, the path would have led to the directory above it.
      rw [h.lookup_cleaned.2 hgone]
      by_contra hthere
      obtain ⟨name, names, rfl⟩ := isBelow_iff.mp hbelow
      have hdirectory := find_of_down hmade hlinks hup hm (lookup_of_append hthere)
      exact hgone ((hemptied _).mpr ⟨hclean, ⟨m, hdirectory⟩, hbelow⟩)

/-! ## Runs -/

theorem unread_pairwise {t : FileTree} {here : Location} {unreadable : List Location}
    {directory : Path} {pattern : Text} {loaded : Loaded}
    (h : load t here unreadable directory pattern = .ok loaded) :
    loaded.unread.Pairwise fun a b => a.file ≤ b.file := by
  obtain ⟨files, -, rfl⟩ := map_ok_iff.mp h
  exact Text.pairwise_le_sortBy Skipped.file _

/-- **What a run leaves.** A run that succeeds in a tree without links has drawn the schema of the
    model files that it read, and left the page and the diagram of that schema in its output
    directory, and everything else as `Leaves` says. Its summary has the entities in the order of
    drawing, the number of relationships, and the files that it passed over, those first that it
    could not read, in the order of their paths. -/
theorem generate_leaves {summary : Summary} (hlinks : w.tree.NoLinks)
    (h : (generate c).perform w = (.ok summary, w')) :
    ∃ settings loaded m, HasSettings w settings
      ∧ load w.tree w.here w.unreadable c.modelsDir c.filePattern = .ok loaded
      ∧ loaded.unread.Pairwise (fun a b => a.file ≤ b.file)
      ∧ let found := assemble ⟨c.includeRelations, true⟩ uninterrupted loaded.units
        summary = ⟨found.schema.entityNames, found.relationships.length,
            loaded.unread ++ found.skipped, c.outputDir⟩
          ∧ Leaves w.tree w.here c
              (Viewer.page (inputsOf found.schema c.title w.today settings))
              (Diagram.render found.schema c.title) m w'.tree := by
  obtain ⟨found, hfound, rfl, settings, cleaned, made, paged, hs, -, hstages⟩ :=
    generate_ok_iff.mp ⟨w', h, rfl⟩
  obtain ⟨-, loaded, hloaded, -, rfl⟩ := survey_ok_iff.mp hfound
  obtain ⟨m, hleaves⟩ := hstages.leaves hlinks
  exact ⟨settings, loaded, m, hs, hloaded, unread_pairwise hloaded, rfl, hleaves⟩

theorem generate_leaves_oneModel :
    ∃ summary w' page diagram m, (generate (cleanInto "m/o")).perform oneModel = (.ok summary, w')
      ∧ Leaves oneModel.tree oneModel.here (cleanInto "m/o") page diagram m w'.tree := by
  obtain ⟨summary, hrun⟩ := exists_of_isOk (x := generate (cleanInto "m/o")) (w := oneModel)
    (by decide +kernel)
  obtain ⟨settings, loaded, m, -, -, -, -, hleaves⟩ := generate_leaves noLinks_oneModel hrun
  exact ⟨summary, _, _, _, m, hrun, hleaves⟩

/-- A project with one model, and something left over beside it. -/
def leftOver : Workspace where
  tree := (((FileTree.empty.put ["m"] .directory).put ["m", "A.php"]
    (.file (Utf8.encode "<?php class A extends Model {}"))).put ["out"] .directory).put
      ["out", "old.txt"] (.file (Utf8.encode "x"))
  here := []
  settings := some {}
  today := "2024-01-15"

/-- A run that was to clean its output directory may leave something else in it: a path that goes
    into a missing directory and up again leads nowhere when it is asked whether there is anything
    to clean, and to the output directory once the missing directory has been made. -/
theorem generate_leaves_uncleaned :
    ¬ ∀ (w w' : Workspace) (c : Config) (summary : Summary) (m l : Location),
        w.tree.NoLinks → c.cleanOutput = true → (generate c).perform w = (.ok summary, w') →
        w'.tree.find w.here true c.outputDir = .ok ⟨m, some .directory⟩ → isBelow m l = true →
        Unwritten m l → w'.tree.lookup l = none := by
  intro h
  have hlinks : leftOver.tree.NoLinks :=
    (((noLinks_empty.put (by simp)).put (by simp)).put (by simp)).put (by simp)
  obtain ⟨summary, hrun⟩ := exists_of_isOk (x := generate (cleanInto "nope/../out"))
    (w := leftOver) (by decide +kernel)
  have hleads : ((generate (cleanInto "nope/../out")).perform leftOver).2.tree.find leftOver.here true
      (cleanInto "nope/../out").outputDir = .ok ⟨["out"], some .directory⟩ := by
    decide +kernel
  have hstays : ((generate (cleanInto "nope/../out")).perform leftOver).2.tree.lookup
      ["out", "old.txt"] = some (.file (Utf8.encode "x")) := by
    decide +kernel
  have hgone := h _ _ _ _ _ ["out", "old.txt"] hlinks rfl hrun hleads (by decide)
    ⟨by decide, by decide⟩
  rw [hgone] at hstays
  cases hstays

end Generation
end EntityDiagram
