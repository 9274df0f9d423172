import EntityDiagram.Proofs.FileTree.Selecting
import EntityDiagram.Proofs.Generation.Fatal
import EntityDiagram.Proofs.Generation.Publishing

/-!
# What a run leaves of the files that it read

A run reads from one directory and writes into another, and which directories these are is up to the
caller: they may be the same one, or either may hold the other. So one has to ask whether a run can
destroy what it was made from. It can in one way only. Making directories and writing the page and
the diagram spare every file that has not the name of one of the two (`Stages.lookup_eq_made`), and
a file with such a name is no model. But the output directory may be cleaned first, and cleaning asks
nothing about what it takes away. What is lost of the models is therefore exactly what the output
directory holds of them when it is cleaned (`generate_keeps_models`).

All this is about trees without links. The paths of the configuration may go up and down as they
like; what counts is where they lead.
-/

namespace EntityDiagram
namespace Generation

open Work FileTree

variable {w w' : Workspace} {c : Config} {t u : FileTree} {here l : Location}

/-! ## Publishing and the other files -/

theorem write_child_lookup {directory : Path} {name : Text} {bytes : List UInt8}
    (hlinks : t.NoLinks) (hname : name ≠ wayUp)
    (h : t.write here (directory.child name) bytes = .ok u) (hl : l.getLast? ≠ some name) :
    u.lookup l = t.lookup l := by
  obtain ⟨found, hfind, -, hlookup⟩ := write_ok h
  obtain ⟨m, hm⟩ := location_of_find_child hlinks hname hfind
  rw [hlookup, if_neg]
  rintro rfl
  exact hl (by simp [hm])

section Stages

variable {page diagram : Text} {before cleaned made paged after : FileTree}
  (h : Stages here c page diagram before cleaned made paged after)
include h

theorem Stages.grows : cleaned.Grows made := by
  have hgrows : cleaned.Grows (cleaned.makeDirectories here c.outputDir).1 := makeDirectories_grows
  rwa [h.make] at hgrows

theorem Stages.noNewFiles_made : before.NoNewFiles made := by
  have hcleaned : before.NoNewFiles cleaned := by
    have hclean := h.clean
    split at hclean
    · exact (shrinks_of_clean hclean).noNewFiles
    · exact hclean ▸ (Grows.refl _).noNewFiles
  intro l e he hno
  exact hcleaned l e (h.grows.noNewFiles l e he hno) hno

/-- The two writes spare whatever has not one of the two names. -/
theorem Stages.lookup_eq_made (hlinks : before.NoLinks) (hpage : l.getLast? ≠ some pageName)
    (hdiagram : l.getLast? ≠ some diagramName) : after.lookup l = made.lookup l := by
  have hmade : made.NoLinks := hlinks.of_noNewFiles h.noNewFiles_made
  have hpaged := hmade.write h.page
  rw [write_child_lookup hpaged isName_diagramName.notUp h.diagram hdiagram,
    write_child_lookup hmade isName_pageName.notUp h.page hpage]

end Stages

/-- The location lies in the output directory, and the run is to clean that directory first. -/
def Emptied (t : FileTree) (here : Location) (c : Config) (l : Location) : Prop :=
  c.cleanOutput = true
    ∧ ∃ m, t.find here true c.outputDir = .ok ⟨m, some .directory⟩ ∧ isBelow m l = true

section Stages

variable {page diagram : Text} {before cleaned made paged after : FileTree}
  (h : Stages here c page diagram before cleaned made paged after)
include h

theorem Stages.lookup_cleaned :
    (Emptied before here c l → cleaned.lookup l = none)
      ∧ (¬ Emptied before here c l → cleaned.lookup l = before.lookup l) := by
  have hclean := h.clean
  split at hclean
  · next hasked =>
    rcases clean_keep_ok hclean with ⟨m, hm, hlookup⟩ | ⟨hnone, rfl⟩
    · rw [hlookup]
      constructor
      · rintro ⟨-, m', hm', hbelow⟩
        rw [hm, Except.ok.injEq, Found.mk.injEq] at hm'
        rw [hm'.1, if_pos hbelow]
      · intro hno
        rw [if_neg fun hbelow => hno ⟨hasked, m, hm, hbelow⟩]
    · exact ⟨fun ⟨_, m, hm, _⟩ => absurd hm (hnone m), fun _ => rfl⟩
  · next hasked => exact ⟨fun hemptied => absurd hemptied.1 hasked, fun _ => by rw [hclean]⟩

/-- A file with another name than the two is there afterwards unless it was cleaned away. -/
theorem Stages.file_iff {bytes : List UInt8} (hlinks : before.NoLinks)
    (hpage : l.getLast? ≠ some pageName) (hdiagram : l.getLast? ≠ some diagramName)
    (hfile : before.lookup l = some (.file bytes)) :
    after.lookup l = some (.file bytes) ↔ ¬ Emptied before here c l := by
  obtain ⟨hemptied, hkept⟩ := h.lookup_cleaned (l := l)
  rw [h.lookup_eq_made hlinks hpage hdiagram]
  constructor
  · intro hafter hin
    have hcleaned := h.grows.noNewFiles l _ hafter (by simp)
    rw [hemptied hin] at hcleaned
    exact absurd hcleaned (by simp)
  · intro hout
    exact h.grows.lookup_of_some ((hkept hout).trans hfile)

end Stages

/-! ## The files read -/

/-- A file that the usual pattern matches has not the name of one of the files written. -/
theorem name_of_matched {p : Path} {found : Found} (hlinks : w.tree.NoLinks)
    (hpattern : c.filePattern = "**/*.php") (hp : Matched w c p)
    (hfind : w.tree.find w.here true p = .ok found) :
    found.location.getLast? ≠ some pageName ∧ found.location.getLast? ≠ some diagramName := by
  obtain ⟨g, paths, hg, hpaths, hmem, -⟩ := hp
  have hsteps : g.steps = [.anywhere] ++ [.covered (Wildcard.tokens "*.php")] := by
    rw [hpattern] at hg
    exact congrArg Glob.steps (Except.ok.inj hg).symm
  obtain ⟨r, name, rfl, hcovers⟩ := glob_covered hsteps hpaths hmem
  -- None of the three names is covered by the pattern.
  have hne : ∀ other : Text, Wildcard.covers (Wildcard.tokens "*.php") other = false →
      name ≠ other := by
    rintro other hother rfl
    rw [hother] at hcovers
    exact absurd hcovers (by simp)
  obtain ⟨m, hm⟩ := location_of_find_child hlinks (hne wayUp (by decide)) hfind
  rw [hm, List.getLast?_concat]
  exact ⟨fun h => hne pageName (by decide) (Option.some.inj h),
    fun h => hne diagramName (by decide) (Option.some.inj h)⟩

/-- **What a run leaves of the models.** However the two directories lie to each other, a model file
    that a run has read stands where it stood, with what it held, unless it lies in the output
    directory and that was to be cleaned. -/
theorem generate_keeps_models {summary : Summary} {p : Path} {bytes : List UInt8}
    (hlinks : w.tree.NoLinks) (hpattern : c.filePattern = "**/*.php")
    (h : (generate c).perform w = (.ok summary, w')) (hp : Matched w c p)
    (hfile : w.tree.find w.here true p = .ok ⟨l, some (.file bytes)⟩) :
    w'.tree.lookup l = some (.file bytes) ↔ ¬ Emptied w.tree w.here c l := by
  obtain ⟨found, -, settings, cleaned, made, paged, -, -, hstages⟩ := generate_ok h
  obtain ⟨hpage, hdiagram⟩ := name_of_matched hlinks hpattern hp hfile
  exact hstages.file_iff hlinks hpage hdiagram (find_ok hfile).1.symm

/-! ### At work -/

/-- A project with one model, and a directory for the diagram beside it. -/
def oneModel : Workspace where
  tree := ((FileTree.empty.put ["m"] .directory).put ["m", "A.php"]
    (.file (Utf8.encode "<?php class A extends Model {}"))).put ["m", "o"] .directory
  here := []
  settings := some {}
  today := "2024-01-15"

/-- A run that reads from one directory and cleans the one it writes to. -/
def cleanInto (directory : Text) : Config :=
  Config.of {} { modelsDir := some "m", outputDir := some directory, cleanOutput := some true }

theorem noLinks_oneModel : oneModel.tree.NoLinks :=
  ((noLinks_empty.put (by simp)).put (by simp)).put (by simp)

theorem find_oneModel : oneModel.tree.find oneModel.here true ⟨.here, ["m", "A.php"]⟩
    = .ok ⟨["m", "A.php"], some (.file (Utf8.encode "<?php class A extends Model {}"))⟩ := rfl

theorem matched_oneModel (directory : Text) :
    Matched oneModel (cleanInto directory) ⟨.here, ["m", "A.php"]⟩ := by
  let g : Glob := ⟨[.anywhere, .covered (Wildcard.tokens "*.php")], false⟩
  have hg : Glob.ofText (cleanInto directory).filePattern = .ok g := rfl
  have hpaths : oneModel.tree.glob oneModel.here g ⟨.here, ["m"]⟩
      = .ok [⟨.here, ["m", "A.php"]⟩] := by
    decide +kernel
  exact ⟨g, _, hg, hpaths, by simp, _, _, find_oneModel⟩

/-- The law at work: the directory cleaned lies in the one with the model, and the model stays. -/
theorem generate_keeps_models_nested :
    ∃ summary w', (generate (cleanInto "m/o")).perform oneModel = (.ok summary, w')
      ∧ w'.tree.lookup ["m", "A.php"]
        = some (.file (Utf8.encode "<?php class A extends Model {}")) := by
  obtain ⟨summary, hrun⟩ := exists_of_isOk (x := generate (cleanInto "m/o")) (w := oneModel)
    (by decide +kernel)
  refine ⟨summary, _, hrun, ?_⟩
  refine (generate_keeps_models noLinks_oneModel rfl hrun (matched_oneModel "m/o")
    find_oneModel).mpr ?_
  rintro ⟨-, m, hm, hbelow⟩
  have hfound : oneModel.tree.find oneModel.here true (cleanInto "m/o").outputDir
      = .ok ⟨["m", "o"], some .directory⟩ := rfl
  rw [hfound, Except.ok.injEq, Found.mk.injEq] at hm
  rw [← hm.1] at hbelow
  exact absurd hbelow (by decide)

/-- With the models in the directory to be cleaned the run succeeds, and they are gone. -/
theorem generate_loses_models :
    ¬ ∀ (w w' : Workspace) (c : Config) (summary : Summary) (p : Path) (l : Location)
        (bytes : List UInt8), w.tree.NoLinks → c.filePattern = "**/*.php" →
        (generate c).perform w = (.ok summary, w') → Matched w c p →
        w.tree.find w.here true p = .ok ⟨l, some (.file bytes)⟩ →
        w'.tree.lookup l = some (.file bytes) := by
  intro h
  obtain ⟨summary, hrun⟩ := exists_of_isOk (x := generate (cleanInto "m")) (w := oneModel)
    (by decide +kernel)
  have hgone : ((generate (cleanInto "m")).perform oneModel).2.tree.lookup ["m", "A.php"] = none := by
    decide +kernel
  have hkept := h _ _ _ _ _ _ _ noLinks_oneModel rfl hrun (matched_oneModel "m") find_oneModel
  rw [hgone] at hkept
  cases hkept

end Generation
end EntityDiagram
