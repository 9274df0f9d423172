import EntityDiagram.Proofs.Generation.Leaving
import EntityDiagram.Proofs.Model.DeepScan

/-!
# Running again

A run changes the tree that the next run scans: there may be new directories below the models, and
two files in one of them. So that a second run comes to what the first came to is no matter of
course, and it rests on three things. The files written have names that the usual pattern does not
cover, and directories are no files, so both runs read the same files (`Leaves.file_iff_covered`).
With the same models, settings and date they draw the same. And the second run writes what is there
already (`Stages.again`).

One thing can come between. A scan asks about every directory below the models, and one that the
first run has made may have a path too long for the system, seen from there (`Outgrown`). Then the
second run fails where the first succeeded, and changes nothing; and that is the only case in which
it does not succeed (`generate_again`).
-/

namespace EntityDiagram

namespace Work

theorem hasSettings_of_kept {w : Workspace} {s : Settings} (h : w.settings = some s) :
    HasSettings w s := by
  unfold HasSettings
  rw [perform_settings, h]

end Work

namespace Generation

open Work FileTree Model

variable {w w' v : Workspace} {c : Config} {here l m : Location} {names : List Text} {name : Text}
variable {page diagram : Text} {before cleaned made paged after : FileTree}

/-! ## The workspace of the second run -/

/-- A workspace for another run after one that led from the first workspace to the second: with the
    tree that was left, and what else a run depends on as it was. -/
structure Again (w w' v : Workspace) : Prop where
  tree : v.tree = w'.tree
  here : v.here = w.here
  unreadable : v.unreadable = w.unreadable
  obstacle? : v.obstacle? = w.obstacle?
  today : v.today = w.today
  settings : ∀ s, HasSettings w s → HasSettings v s

theorem goesOn_putOut (c : Config) (page diagram : Text) : GoesOn (putOut c page diagram) := by
  have hfiles : GoesOn (writeFiles c page diagram) :=
    (goesOn_change _).bind fun _ => (goesOn_change _).bind fun _ => goesOn_change _
  unfold putOut
  cases c.cleanOutput with
  | false => exact hfiles
  | true => exact (goesOn_clean _ _).bind fun _ => hfiles

/-- Publishing reads the settings, and forgets nothing after. -/
theorem publish_kept {schema : Schema} (h : (publish c schema).perform w = (.ok (), w')) :
    Continues w w' ∧ ∃ s, HasSettings w s ∧ w'.settings = some s := by
  obtain ⟨s, hs⟩ := hasSettings_of_publish h
  have hbefore := goesOn_settings w
  rw [perform_settings_of_has hs] at hbefore
  have hafter := goesOn_putOut c (Viewer.page (inputsOf schema c.title w.today s))
    (Diagram.render schema c.title) { w with settings := some s }
  rw [← perform_publish hs, h] at hafter
  exact ⟨hbefore.trans hafter, s, hs, hafter.settings s rfl⟩

/-- The workspace that a run leaves is one for another run. -/
theorem again_self {summary : Summary} (h : (generate c).perform w = (.ok summary, w')) :
    Again w w' w' := by
  unfold generate at h
  rw [perform_get_bind, perform_bind, perform_report] at h
  dsimp only at h
  obtain ⟨found, w₁, hfound, h⟩ := perform_bind_ok h
  rw [perform_ofExcept, Prod.mk.injEq] at hfound
  obtain ⟨_, w₂, hpublish, h⟩ := perform_bind_ok h
  rw [perform_pure, Prod.mk.injEq] at h
  obtain ⟨-, rfl⟩ := h
  obtain ⟨hcontinues, s, hs, hkept⟩ := publish_kept hpublish
  have hreported : Continues w w₁ := hfound.2 ▸ goesOn_report _ w
  have hall := hreported.trans hcontinues
  rw [← hfound.2, hasSettings_report] at hs
  refine ⟨rfl, hall.here, hall.unreadable, hall.obstacle?, hall.today, fun s' hs' => ?_⟩
  have hsame : s' = s := Except.ok.inj (hs'.symm.trans hs)
  exact hasSettings_of_kept (hsame ▸ hkept)

/-! ## The same files -/

/-- The names that the usual pattern takes. -/
def phpNames : List Wildcard.Token := Wildcard.tokens "*.php"

theorem ofText_usual : Glob.ofText "**/*.php" = .ok (everywhere phpNames) := rfl

theorem unwritten_of_covered (h : Wildcard.covers phpNames name = true) :
    Unwritten m (l ++ (names ++ [name])) := by
  have hne : ∀ other : Text, Wildcard.covers phpNames other = false →
      l ++ (names ++ [name]) ≠ m ++ [other] := by
    intro other hother heq
    rw [← List.append_assoc] at heq
    rw [(List.append_inj' heq rfl).2 |> List.singleton_inj.mp, hother] at h
    exact absurd h (by simp)
  exact ⟨hne pageName (by decide), hne diagramName (by decide)⟩

section Leaves

variable (hclean : c.cleanOutput = false) (h : Leaves before here c page diagram m after)
include hclean h

theorem Leaves.keptOrMade (hl : Unwritten m l) : KeptOrMade before here c after l := by
  refine h.spared l hl ?_
  rintro ⟨hasked, -⟩
  rw [hclean] at hasked
  exact absurd hasked (by simp)

/-- The files that the usual pattern may select are the same before and after. -/
theorem Leaves.file_iff_covered {bytes : List UInt8} (hcovers : Wildcard.covers phpNames name = true) :
    before.lookup (l ++ (names ++ [name])) = some (.file bytes)
      ↔ after.lookup (l ++ (names ++ [name])) = some (.file bytes) := by
  rcases h.keptOrMade hclean (unwritten_of_covered hcovers) with heq | ⟨hnone, hdir, -⟩
  · rw [heq]
  · rw [hnone, hdir]
    simp

/-- What is asked about after and was not before is a new directory. -/
theorem Leaves.asked (hasked : Asked after phpNames l names) : Asked before phpNames l names
    ∨ before.lookup (l ++ names) = none ∧ after.lookup (l ++ names) = some .directory := by
  have hunwritten : Unwritten m (l ++ names) := by
    rcases hasked with hdir | ⟨-, front, name, rfl, hcovers⟩
    · constructor
      · intro heq
        rw [heq, h.page] at hdir
        exact absurd hdir (by simp)
      · intro heq
        rw [heq, h.diagram] at hdir
        exact absurd hdir (by simp)
    · exact unwritten_of_covered hcovers
  rcases h.keptOrMade hclean hunwritten with heq | ⟨hnone, hdir, -⟩
  · unfold Asked at hasked ⊢
    rw [heq] at hasked
    exact .inl hasked
  · exact .inr ⟨hnone, hdir⟩

end Leaves

/-! ## Writing again -/

/-- Publishing the same once more goes through, and changes nothing. -/
theorem Stages.again (hlinks : before.NoLinks) (hclean : c.cleanOutput = false)
    (h : Stages here c page diagram before cleaned made paged after) :
    ∃ paged' after', Stages here c page diagram after after after paged' after'
      ∧ ∀ l, after'.lookup l = after.lookup l := by
  obtain ⟨m, hm, hplace⟩ := h.directory hlinks
  obtain ⟨hleads, hpage, hdiagram, -⟩ := h.writes hlinks hm
  have hafter := h.noLinks_after hlinks
  obtain ⟨hadmitted, hstart, hway⟩ := (find_eq_stretch hafter).mp hleads
  have hfind : ∀ name, IsName name → Admitted (c.outputDir.child name) →
      after.find here true (c.outputDir.child name)
        = .ok ⟨m ++ [name], after.lookup (m ++ [name])⟩ := by
    intro name hname hfits
    exact (find_child hafter hname).mpr ⟨hfits, hstart, m, hway, rfl⟩
  -- Both paths passed the first time, so they pass again.
  have hpageFits : Admitted (c.outputDir.child pageName) :=
    ((find_eq_stretch (h.noLinks_made hlinks)).mp hplace).1
  have hdiagramFits : Admitted (c.outputDir.child diagramName) := by
    obtain ⟨found, hfound, -⟩ := write_ok h.diagram
    exact (find_eq_follow.mp hfound).1
  obtain ⟨paged', hpaged', hsame⟩ :=
    write_again ((hfind _ isName_pageName hpageFits).trans (by rw [hpage]))
  have hfind' : paged'.find here true (c.outputDir.child diagramName)
      = .ok ⟨m ++ [diagramName], some (.file (Utf8.encode diagram))⟩ := by
    rw [find_congr hsame, hfind _ isName_diagramName hdiagramFits, hdiagram]
  obtain ⟨after', hafter', hsame'⟩ := write_again hfind'
  refine ⟨paged', after', ⟨by simp [hclean], ?_, hpaged', hafter'⟩, fun l => ?_⟩
  · exact makeDirectories_of_directory hafter hleads
  · rw [hsame', hsame]

/-! ## The second run -/

/-- A directory that a run has made below its models has, seen from there, a path that is too long
    for the system. -/
def Outgrown (before : FileTree) (here : Location) (c : Config) (after : FileTree) : Prop :=
  ∃ l names, before.find here true c.modelsDir = .ok ⟨l, some .directory⟩
    ∧ before.lookup (l ++ names) = none ∧ after.lookup (l ++ names) = some .directory
    ∧ after.TooLong here (c.modelsDir.descend names)

section Again

variable (hlinks : before.NoLinks) (hclean : c.cleanOutput = false)
  (h : Stages here c page diagram before cleaned made paged after)
include hlinks hclean h

omit hlinks in
theorem Stages.directory_stays (hl : before.lookup l = some .directory) :
    after.lookup l = some .directory := by
  have hcleaned := h.clean
  simp only [hclean, Bool.false_eq_true, if_false] at hcleaned
  have hmade := h.grows.lookup_of_some (hcleaned ▸ hl)
  exact directory_of_write h.diagram (directory_of_write h.page hmade)

theorem Stages.find_modelsDir
    (hmodels : before.find here true c.modelsDir = .ok ⟨l, some .directory⟩) :
    after.find here true c.modelsDir = .ok ⟨l, some .directory⟩ :=
  find_directory_mono hlinks (h.noLinks_after hlinks)
    (fun _ hk => h.directory_stays hclean hk) hmodels

/-- After a scan that had an outcome, another one fails only for a directory that is new. -/
theorem Stages.outgrown_iff
    (hmodels : before.find here true c.modelsDir = .ok ⟨l, some .directory⟩)
    (hshort : ¬ ScanTooLong before here c.modelsDir (everywhere phpNames)) :
    ScanTooLong after here c.modelsDir (everywhere phpNames) ↔ Outgrown before here c after := by
  have hafter := h.noLinks_after hlinks
  have hmodels' := h.find_modelsDir hlinks hclean hmodels
  rw [scanTooLong_everywhere_iff hafter hmodels']
  rw [scanTooLong_everywhere_iff hlinks hmodels] at hshort
  constructor
  · rintro ⟨names, hasked, hlong⟩
    obtain ⟨m, hleaves⟩ := h.leaves hlinks
    rcases hleaves.asked hclean hasked with hbefore | ⟨hnone, hdir⟩
    · exact absurd ⟨names, hbefore, hlong⟩ hshort
    · exact ⟨l, names, hmodels, hnone, hdir, (tooLong_descend_iff hafter hmodels' hdir).mpr hlong⟩
  · rintro ⟨k, names, hk, -, hdir, hlong⟩
    obtain rfl : l = k := congrArg Found.location (Except.ok.inj (hmodels.symm.trans hk))
    exact ⟨names, .inl hdir, (tooLong_descend_iff hafter hmodels' hdir).mp hlong⟩

end Again

/-- **Running again.** After a run that succeeded without links, with the usual pattern and without
    cleaning, another run with the same configuration, settings and date succeeds with the same
    summary, and everything has the kind and the content that it had after the first run. The one
    exception is a directory made by the first run whose path, seen from the models, is too long for
    the system: then the second run fails for that path, and leaves the tree as it is. -/
theorem generate_again {summary : Summary} (hlinks : w.tree.NoLinks)
    (hpattern : c.filePattern = "**/*.php") (hclean : c.cleanOutput = false)
    (h : (generate c).perform w = (.ok summary, w')) (hv : Again w w' v) :
    (¬ Outgrown w.tree w.here c w'.tree →
      ∃ v', (generate c).perform v = (.ok summary, v')
        ∧ ∀ l, v'.tree.lookup l = w'.tree.lookup l)
    ∧ (Outgrown w.tree w.here c w'.tree →
      ∃ f, ((generate c).perform v).1 = .error (.file f) ∧ f.cause = .nameTooLong
        ∧ ((generate c).perform v).2.tree = w'.tree) := by
  obtain ⟨found, hfound, hsummary, settings, cleaned, made, paged, hs, hclear, hstages⟩ :=
    generate_ok_iff.mp ⟨w', h, rfl⟩
  obtain ⟨⟨l, hmodels⟩, loaded, hloaded, hentities, hfound'⟩ := survey_ok_iff.mp hfound
  have hg : Glob.ofText c.filePattern = .ok (everywhere phpNames) := hpattern ▸ ofText_usual
  have hshort : ¬ ScanTooLong w.tree w.here c.modelsDir (everywhere phpNames) := by
    intro hlong
    obtain ⟨f, hf, -⟩ := generate_of_scanTooLong hg hlong
    rw [h] at hf
    exact absurd hf (by simp)
  have houtgrown := hstages.outgrown_iff hlinks hclean hmodels hshort
  constructor
  · intro hfits
    have hafter := hstages.noLinks_after hlinks
    have hmodels' := hstages.find_modelsDir hlinks hclean hmodels
    obtain ⟨m, hleaves⟩ := hstages.leaves hlinks
    have hload : load w'.tree w.here w.unreadable c.modelsDir c.filePattern = .ok loaded :=
      load_everywhere_eq hlinks hafter hmodels hmodels' hg
        (fun _ _ _ hcovers => hleaves.file_iff_covered hclean hcovers) hloaded
        (fun hlong => hfits (houtgrown.mp hlong))
    obtain ⟨paged', after', hstages', hsame⟩ := hstages.again hlinks hclean
    have hrun : ∃ v', (generate c).perform v = (.ok summary, v') ∧ v'.tree = after' := by
      refine generate_ok_iff.mpr ⟨found, ?_, hsummary, settings, w'.tree, w'.tree, paged',
        hv.settings settings hs, hv.obstacle? ▸ hclear, ?_⟩
      · rw [hv.tree, hv.here, hv.unreadable]
        exact survey_ok_iff.mpr ⟨⟨l, hmodels'⟩, loaded, hload, hentities, hfound'⟩
      · rw [hv.tree, hv.here, hv.today]
        exact hstages'
    obtain ⟨v', hperform, rfl⟩ := hrun
    exact ⟨v', hperform, hsame⟩
  · intro hout
    have hlong : ScanTooLong v.tree v.here c.modelsDir (everywhere phpNames) := by
      rw [hv.tree, hv.here]
      exact houtgrown.mpr hout
    obtain ⟨f, hf, hcause, htree⟩ := generate_of_scanTooLong hg hlong
    exact ⟨f, hf, hcause, htree.trans hv.tree⟩

/-- A run that reads from one directory and makes two others in it, one in the other. -/
def intoModels : Config :=
  Config.of {} { modelsDir := some "m", outputDir := some "m/new/deep" }

theorem generate_again_intoModels :
    ∃ summary w' v', (generate intoModels).perform oneModel = (.ok summary, w')
      ∧ (generate intoModels).perform w' = (.ok summary, v')
      ∧ ∀ l, v'.tree.lookup l = w'.tree.lookup l := by
  obtain ⟨summary, hrun⟩ := exists_of_isOk (x := generate intoModels) (w := oneModel)
    (by decide +kernel)
  have hok : ((generate intoModels).perform
      ((generate intoModels).perform oneModel).2).1.isOk = true := by
    decide +kernel
  obtain ⟨hsame, hfails⟩ := generate_again noLinks_oneModel rfl rfl hrun (again_self hrun)
  obtain ⟨v', hperform, hlookup⟩ := hsame fun hout => by
    obtain ⟨f, hf, -⟩ := hfails hout
    rw [hf] at hok
    cases hok
  exact ⟨summary, _, v', hrun, hperform, hlookup⟩

/-- Nine characters, so that a file with a short name in the directory can still be reached by a path
    that goes twenty times into another one and out again. -/
def tightName : Text := List.replicate 9 'm'

/-- A directory with a long name, and beside it one that holds a model. -/
def tight : Workspace where
  tree := ((FileTree.empty.put [deepName] .directory).put [tightName] .directory).put
    [tightName, "A.php"] (.file (Utf8.encode "<?php class A extends Model {}"))
  here := []
  settings := some {}
  today := "2024-01-15"

/-- A run whose path to the models is nearly as long as a path may be, and which makes a directory
    there by a shorter one. -/
def throughDeep : Config :=
  { Config.of {} {} with
    modelsDir := ⟨.here, (List.replicate 20 [deepName, wayUp]).flatten ++ [tightName]⟩
    outputDir := ⟨.here, [tightName, "diagram"]⟩ }

/-- Without the exception the law fails: the directory that the first run has made is one that the
    second cannot ask about. -/
theorem generate_again_fails :
    ¬ ∀ (w w' v : Workspace) (c : Config) (summary : Summary), w.tree.NoLinks →
        c.filePattern = "**/*.php" → c.cleanOutput = false →
        (generate c).perform w = (.ok summary, w') → Again w w' v →
        ∃ v', (generate c).perform v = (.ok summary, v') := by
  intro h
  have hlinks : tight.tree.NoLinks := by
    unfold tight
    dsimp only
    exact ((noLinks_empty.put (by simp)).put (by simp)).put (by simp)
  obtain ⟨summary, hrun⟩ := exists_of_isOk (x := generate throughDeep) (w := tight)
    (by decide +kernel)
  obtain ⟨v', hagain⟩ := h _ _ _ _ _ hlinks rfl rfl hrun (again_self hrun)
  have hfails : ((generate throughDeep).perform
      ((generate throughDeep).perform tight).2).1.isOk = false := by
    decide +kernel
  rw [hagain] at hfails
  cases hfails

end Generation
end EntityDiagram
