import EntityDiagram.Proofs.Generation.Outputs

/-!
# What a run that succeeds has done

The equations of the single steps say what each of them does to a workspace. A run that succeeds has
done all of them, and this module reads off what that comes to: the trees between which it went
(`Stages`), for the half of a run that publishes (`publish_ok`) and for whole runs (`generate_ok`,
`generateFromLiteral_ok`). A statement about what a run leaves behind starts here and needs to know
of a workspace no more than where it stands and what its settings are.

The other direction is what shows that a run *will* succeed: where there are such trees publishing
goes between them (`publish_of_publishes`), so a run on model files succeeds exactly when what it
surveyed can be published (`generate_ok_iff`).
-/

namespace EntityDiagram

namespace Work

variable {α β : Type}

/-- Work in sequence succeeds when each part does, the second where the first has left off. -/
theorem perform_bind_ok {x : Work α} {f : α → Work β} {w w'' : Workspace} {b : β}
    (h : (x >>= f).perform w = (.ok b, w'')) :
    ∃ a w', x.perform w = (.ok a, w') ∧ (f a).perform w' = (.ok b, w'') := by
  rw [perform_bind] at h
  generalize x.perform w = r at h
  obtain ⟨r, w'⟩ := r
  cases r with
  | ok a => exact ⟨a, w', rfl, h⟩
  | error e => simp at h

theorem exists_of_isOk {x : Work α} {w : Workspace} (h : (x.perform w).1.isOk = true) :
    ∃ a, x.perform w = (.ok a, (x.perform w).2) := by
  generalize x.perform w = r at h ⊢
  obtain ⟨r, w'⟩ := r
  cases r with
  | ok a => exact ⟨a, rfl⟩
  | error e => cases h

/-- The settings that a workspace has, read before or to be read now. -/
def HasSettings (w : Workspace) (s : Settings) : Prop := (settings.perform w).1 = .ok s

/-- What was reported so far has nothing to do with the settings. -/
theorem hasSettings_report {w : Workspace} {s : Settings} {log : Log} :
    HasSettings { w with log } s ↔ HasSettings w s := by
  unfold HasSettings
  rw [perform_settings, perform_settings]
  have hread : ({ w with log } : Workspace).readSettings = w.readSettings := rfl
  rw [hread]
  cases w.settings with
  | some s => rfl
  | none => cases w.readSettings <;> rfl

/-- Reading the settings changes nothing but that they are read. -/
theorem perform_settings_of_has {w : Workspace} {s : Settings} (h : HasSettings w s) :
    settings.perform w = (.ok s, { w with settings := some s }) := by
  unfold HasSettings at h
  rw [perform_settings] at h ⊢
  cases hs : w.settings with
  | some s' =>
    simp only [hs, Except.ok.injEq] at h
    subst h
    obtain ⟨tree, here, unreadable, obstacle, environment, kept, today, log⟩ := w
    cases hs
    rfl
  | none =>
    rw [hs] at h
    dsimp only at h ⊢
    cases hr : w.readSettings with
    | ok s' =>
      simp only [hr, Except.ok.injEq] at h
      subst h
      rfl
    | error f => simp [hr] at h

end Work

namespace Generation

open Work FileTree

variable {w w' : Workspace} {c : Config} {after : FileTree}

/-! ## Single steps -/

theorem perform_clean_ok {directory : Path} {keep : Bool}
    (h : (clean directory keep).perform w = (.ok (), w')) :
    w.tree.clean w.here directory keep = (w'.tree, none) := by
  obtain ⟨log, hw⟩ := perform_clean directory keep w
  rw [hw] at h
  split at h
  · next hc =>
    simp only [Prod.mk.injEq] at h
    simp [hc, ← h.2]
  · simp at h

theorem perform_makeDirectories_ok {directory : Path}
    (h : (makeDirectories directory).perform w = (.ok (), w')) :
    w.tree.makeDirectories w.here directory = (w'.tree, none) := by
  rw [perform_makeDirectories] at h
  split at h
  · next hm =>
    simp only [Prod.mk.injEq] at h
    simp [hm, ← h.2]
  · simp at h

theorem perform_write_ok {file : Path} {text : Text}
    (h : (write file text).perform w = (.ok (), w')) :
    w.obstacle? file = none ∧ w.tree.write w.here file (Utf8.encode text) = .ok w'.tree := by
  refine writeAgainst_ok_iff.mp ?_
  rw [perform_write] at h
  split at h
  · next hw =>
    simp only [Prod.mk.injEq] at h
    simp [hw, ← h.2]
  · simp at h

/-! ## Publishing -/

/-- The trees between which publishing goes: from the one before to one that is cleaned, if that was
    asked for, to one with the output directory, to one with the page, to one with the diagram. -/
structure Stages (here : Location) (c : Config) (page diagram : Text)
    (before cleaned made paged after : FileTree) : Prop where
  clean : if c.cleanOutput then before.clean here c.outputDir true = (cleaned, none)
    else cleaned = before
  make : cleaned.makeDirectories here c.outputDir = (made, none)
  page : made.write here (c.outputDir.child pageName) (Utf8.encode page) = .ok paged
  diagram : paged.write here (c.outputDir.child diagramName) (Utf8.encode diagram) = .ok after

/-- What publishing a schema in a workspace leads to, if nothing keeps the files from being written. -/
def Publishes (w : Workspace) (c : Config) (schema : Schema) (after : FileTree) : Prop :=
  ∃ settings cleaned made paged, HasSettings w settings ∧ Unobstructed w.obstacle? c.outputDir
    ∧ Stages w.here c (Viewer.page (inputsOf schema c.title w.today settings))
        (Diagram.render schema c.title) w.tree cleaned made paged after

theorem writeFiles_ok {page diagram : Text}
    (h : (writeFiles c page diagram).perform w = (.ok (), w')) :
    Unobstructed w.obstacle? c.outputDir
      ∧ ∃ made paged, w.tree.makeDirectories w.here c.outputDir = (made, none)
        ∧ made.write w.here (c.outputDir.child pageName) (Utf8.encode page) = .ok paged
        ∧ paged.write w.here (c.outputDir.child diagramName) (Utf8.encode diagram) = .ok w'.tree := by
  obtain ⟨_, w₁, hmake, h⟩ := perform_bind_ok h
  have hmade := (goesOn_change _).continues hmake
  obtain ⟨_, w₂, hpage, hdiagram⟩ := perform_bind_ok h
  have hpaged := hmade.trans ((goesOn_change _).continues hpage)
  obtain ⟨hclear, hpage⟩ := perform_write_ok hpage
  obtain ⟨hclear', hdiagram⟩ := perform_write_ok hdiagram
  rw [hmade.here] at hpage
  rw [hpaged.here] at hdiagram
  exact ⟨⟨hmade.obstacle? ▸ hclear, hpaged.obstacle? ▸ hclear'⟩, w₁.tree, w₂.tree,
    perform_makeDirectories_ok hmake, hpage, hdiagram⟩

theorem putOut_ok {page diagram : Text} (h : (putOut c page diagram).perform w = (.ok (), w')) :
    Unobstructed w.obstacle? c.outputDir
      ∧ ∃ cleaned made paged, Stages w.here c page diagram w.tree cleaned made paged w'.tree := by
  unfold putOut at h
  cases hclean : c.cleanOutput with
  | false =>
    rw [hclean] at h
    obtain ⟨hclear, made, paged, hmade, hpaged, hafter⟩ := writeFiles_ok h
    exact ⟨hclear, w.tree, made, paged, by simp [hclean], hmade, hpaged, hafter⟩
  | true =>
    rw [hclean] at h
    obtain ⟨_, w₁, hcleaned, h⟩ := perform_bind_ok h
    have hsame := (goesOn_clean _ _).continues hcleaned
    have hc := perform_clean_ok hcleaned
    obtain ⟨hclear, made, paged, hmade, hpaged, hafter⟩ := writeFiles_ok h
    rw [hsame.here] at hmade hpaged hafter
    exact ⟨hsame.obstacle? ▸ hclear, w₁.tree, made, paged, by simpa [hclean] using hc, hmade, hpaged,
      hafter⟩

/-- Where there are trees to go between, putting out goes between them. -/
theorem putOut_of_stages {page diagram : Text} {cleaned made paged : FileTree}
    (hclear : Unobstructed w.obstacle? c.outputDir)
    (h : Stages w.here c page diagram w.tree cleaned made paged after) :
    ∃ w', (putOut c page diagram).perform w = (.ok (), w') ∧ w'.tree = after := by
  have hfiles : ∀ w₁ : Workspace, w₁.here = w.here → w₁.obstacle? = w.obstacle? →
      w₁.tree = cleaned →
      ∃ w', (writeFiles c page diagram).perform w₁ = (.ok (), w') ∧ w'.tree = after := by
    intro w₁ hhere hsame htree
    refine ⟨{ w₁ with tree := after }, ?_, rfl⟩
    rw [writeFiles, perform_bind, perform_makeDirectories, htree, hhere, h.make]
    dsimp only
    rw [perform_bind, perform_write]
    dsimp only
    rw [hsame, hclear.page, writeAgainst_ok_iff.mpr ⟨rfl, h.page⟩]
    dsimp only
    rw [perform_write]
    dsimp only
    rw [hclear.diagram, writeAgainst_ok_iff.mpr ⟨rfl, h.diagram⟩]
  have hclean := h.clean
  unfold putOut
  cases hasked : c.cleanOutput with
  | false =>
    rw [hasked] at hclean
    exact hfiles w rfl rfl hclean.symm
  | true =>
    rw [hasked] at hclean
    obtain ⟨log, hperform⟩ := perform_clean c.outputDir true w
    rw [if_pos rfl, perform_bind, hperform, hclean]
    exact hfiles _ rfl rfl rfl

/-- Publishing is putting out, once the settings are read. -/
theorem perform_publish {schema : Schema} {s : Settings} (hs : HasSettings w s) :
    (publish c schema).perform w
      = (putOut c (Viewer.page (inputsOf schema c.title w.today s))
          (Diagram.render schema c.title)).perform { w with settings := some s } := by
  rw [publish_eq, perform_bind, perform_settings_of_has hs]
  dsimp only
  rw [perform_get_bind]

theorem hasSettings_of_publish {schema : Schema}
    (h : (publish c schema).perform w = (.ok (), w')) : ∃ s, HasSettings w s := by
  rw [publish_eq] at h
  obtain ⟨s, w₁, hsettings, -⟩ := perform_bind_ok h
  exact ⟨s, congrArg Prod.fst hsettings⟩

theorem publish_ok {schema : Schema} (h : (publish c schema).perform w = (.ok (), w')) :
    Publishes w c schema w'.tree := by
  obtain ⟨s, hs⟩ := hasSettings_of_publish h
  rw [perform_publish hs] at h
  obtain ⟨hclear, cleaned, made, paged, hstages⟩ := putOut_ok h
  exact ⟨s, cleaned, made, paged, hs, hclear, hstages⟩

/-- What can be published is. -/
theorem publish_of_publishes {schema : Schema} (h : Publishes w c schema after) :
    ∃ w', (publish c schema).perform w = (.ok (), w') ∧ w'.tree = after := by
  obtain ⟨s, cleaned, made, paged, hs, hclear, hstages⟩ := h
  rw [perform_publish hs]
  exact putOut_of_stages hclear hstages

/-- With the settings at hand, publishing fails only because a file could not be reached. -/
theorem publish_error {schema : Schema} {s : Settings} {f : Failure} (hs : HasSettings w s)
    (h : ((publish c schema).perform w).1 = .error f) : ∃ fault, f = .file fault := by
  have hputOut : ∀ page diagram : Text,
      FailsWith (fun f => ∃ fault, f = .file fault) (putOut c page diagram) :=
    failsWith_putOut (fun fault => ⟨fault, rfl⟩) c
  rw [perform_publish hs] at h
  exact hputOut _ _ _ f h

/-! ## Runs -/

/-- **A run succeeds** exactly when it surveys something that can be published, and then its summary
    is that of what it surveyed. -/
theorem generate_ok_iff {summary : Summary} :
    (∃ w', (generate c).perform w = (.ok summary, w') ∧ w'.tree = after)
      ↔ ∃ found, (survey w.tree w.here w.unreadable c).1 = .ok found
        ∧ summary = summarize c found.schema found.skipped
        ∧ Publishes w c found.schema after := by
  have hreported : ∀ (log : Log) (schema : Schema),
      Publishes { w with log } c schema after ↔ Publishes w c schema after := by
    intro log schema
    unfold Publishes
    simp only [hasSettings_report]
  unfold generate
  rw [perform_get_bind, perform_bind, perform_report]
  dsimp only
  rw [perform_bind, perform_ofExcept]
  cases (survey w.tree w.here w.unreadable c).1 with
  | error f => simp
  | ok found =>
    simp only [Except.ok.injEq, exists_eq_left']
    rw [← hreported (w.log ++ (survey w.tree w.here w.unreadable c).2)]
    constructor
    · rintro ⟨w', h, rfl⟩
      obtain ⟨_, w₁, hpublish, h⟩ := perform_bind_ok h
      rw [perform_pure, Prod.mk.injEq, Except.ok.injEq] at h
      obtain ⟨rfl, rfl⟩ := h
      exact ⟨rfl, publish_ok hpublish⟩
    · rintro ⟨rfl, h⟩
      obtain ⟨w', hpublish, htree⟩ := publish_of_publishes h
      refine ⟨w', ?_, htree⟩
      rw [perform_bind, hpublish]
      rfl

/-- With the settings at hand, a run whose survey succeeds fails for a file's sake only. -/
theorem file_of_survey_ok {found : Survey} {s : Settings} {f : Failure}
    (hfound : (survey w.tree w.here w.unreadable c).1 = .ok found) (hs : HasSettings w s)
    (h : ((generate c).perform w).1 = .error f) : ∃ fault, f = .file fault := by
  have hpublish : ∀ log, ((publish c found.schema).perform { w with log }).1 = .error f →
      ∃ fault, f = .file fault :=
    fun log => publish_error (hasSettings_report.mpr hs)
  unfold generate at h
  rw [perform_get_bind, perform_bind, perform_report] at h
  dsimp only at h
  rw [perform_bind, perform_ofExcept, hfound] at h
  dsimp only at h
  rw [perform_bind] at h
  refine hpublish (w.log ++ (survey w.tree w.here w.unreadable c).2) ?_
  generalize (publish c found.schema).perform _ = r at h ⊢
  obtain ⟨r, w'⟩ := r
  cases r with
  | ok u => simp at h
  | error e =>
    simp only [Except.error.injEq] at h
    rw [h]

/-- A run on model files that succeeds publishes what its survey found. -/
theorem generate_ok {summary : Summary} (h : (generate c).perform w = (.ok summary, w')) :
    ∃ found, (survey w.tree w.here w.unreadable c).1 = .ok found
      ∧ Publishes w c found.schema w'.tree := by
  obtain ⟨found, hfound, -, hpublishes⟩ := generate_ok_iff.mp ⟨w', h, rfl⟩
  exact ⟨found, hfound, hpublishes⟩

/-- A run on a schema written by hand publishes that schema if it succeeds. -/
theorem generateFromLiteral_ok {document : Json} {summary : Summary}
    (h : (generateFromLiteral document c).perform w = (.ok summary, w')) :
    ∃ schema, Literal.read document = .ok schema ∧ Publishes w c schema w'.tree := by
  unfold generateFromLiteral at h
  cases hr : Literal.read document with
  | error f => simp [hr] at h
  | ok schema =>
    rw [hr] at h
    obtain ⟨_, w₁, hpublish, h⟩ := perform_bind_ok h
    rw [perform_pure, Prod.mk.injEq] at h
    obtain ⟨-, rfl⟩ := h
    exact ⟨schema, rfl, publish_ok hpublish⟩

end Generation
end EntityDiagram
