import EntityDiagram.Generation.Run

/-!
# Work, step by step

A run is written in `do` notation, and a statement about a run is a statement about its steps in
order. This module has the equation of each step, so that no later proof opens the transformers that
`Work` is made of: `perform_bind` says that work stops at its first failure with the workspace that
it has come to, and the rest say what the single steps do to a workspace.

Three facts are shared by everything that follows a run. No step changes anything but the tree, the
log and whether the settings are read (`GoesOn.bind`). What every step keeps true of the tree, the
run keeps true of it, failures included (`Preserves.bind`). And publishing fails for reasons of its
own only, none of which is one that a survey gives (`failsWith_publish`), so a failure tells which
half of the run it came from.
-/

namespace EntityDiagram
namespace Work

open FileTree

variable {α β : Type}

/-! ## The equations of the steps -/

@[simp] theorem perform_pure (a : α) (w : Workspace) :
    (pure a : Work α).perform w = (.ok a, w) := rfl

@[simp] theorem perform_throw (f : Failure) (w : Workspace) :
    (throw f : Work α).perform w = (.error f, w) := rfl

theorem perform_bind (x : Work α) (f : α → Work β) (w : Workspace) :
    (x >>= f).perform w = match x.perform w with
      | (.ok a, w') => (f a).perform w'
      | (.error e, w') => (.error e, w') := by
  unfold perform
  simp only [ExceptT.run_bind, StateT.run_bind]
  generalize StateT.run (ExceptT.run x) w = r
  obtain ⟨r, w'⟩ := r
  cases r <;> rfl

@[simp] theorem perform_map (f : α → β) (x : Work α) (w : Workspace) :
    (f <$> x).perform w = ((x.perform w).1.map f, (x.perform w).2) := by
  rw [map_eq_pure_bind, perform_bind]
  generalize x.perform w = r
  obtain ⟨r, w'⟩ := r
  cases r <;> rfl

@[simp] theorem perform_get (w : Workspace) :
    (get : Work Workspace).perform w = (.ok w, w) := rfl

theorem perform_get_bind (f : Workspace → Work α) (w : Workspace) :
    (get >>= f : Work α).perform w = (f w).perform w := by
  rw [perform_bind, perform_get]

@[simp] theorem perform_modify (f : Workspace → Workspace) (w : Workspace) :
    (modify f : Work Unit).perform w = (.ok (), f w) := rfl

@[simp] theorem perform_report (records : Log) (w : Workspace) :
    (report records).perform w = (.ok (), { w with log := w.log ++ records }) := rfl

@[simp] theorem perform_ofExcept (result : Except Failure α) (w : Workspace) :
    (ofExcept result).perform w = (result, w) := by
  cases result <;> rfl

theorem perform_change (operation : Workspace → FileTree × Option FileFault) (w : Workspace) :
    (change operation).perform w = match operation w with
      | (tree, none) => (.ok (), { w with tree })
      | (tree, some f) => (.error (.file f), { w with tree }) := by
  unfold change
  rw [perform_get_bind]
  generalize operation w = r
  obtain ⟨tree, fault⟩ := r
  cases fault <;> rfl

theorem perform_settings (w : Workspace) :
    settings.perform w = match w.settings with
      | some s => (.ok s, w)
      | none => match w.readSettings with
        | .ok s => (.ok s, { w with settings := some s })
        | .error f => (.error f, w) := by
  unfold settings
  rw [perform_get_bind]
  cases w.settings with
  | some s => rfl
  | none =>
    dsimp only
    rw [perform_bind, perform_ofExcept]
    cases w.readSettings <;> rfl

/-! ## What stays around a tree -/

/-- The second workspace differs from the first in its tree and its log, and by the settings if they
    were not read before. -/
structure Continues (w w' : Workspace) : Prop where
  here : w'.here = w.here
  unreadable : w'.unreadable = w.unreadable
  obstacle? : w'.obstacle? = w.obstacle?
  today : w'.today = w.today
  settings : ∀ s, w.settings = some s → w'.settings = some s

theorem Continues.refl (w : Workspace) : Continues w w := ⟨rfl, rfl, rfl, rfl, fun _ h => h⟩

theorem Continues.trans {w w' w'' : Workspace} (h : Continues w w') (h' : Continues w' w'') :
    Continues w w'' :=
  ⟨h'.here.trans h.here, h'.unreadable.trans h.unreadable, h'.obstacle?.trans h.obstacle?,
    h'.today.trans h.today, fun s hs => h'.settings s (h.settings s hs)⟩

/-- Work that changes nothing but what continuing allows, whether it fails or not. -/
def GoesOn (x : Work α) : Prop := ∀ w, Continues w (x.perform w).2

theorem GoesOn.bind {x : Work α} {f : α → Work β} (hx : GoesOn x) (hf : ∀ a, GoesOn (f a)) :
    GoesOn (x >>= f) := by
  intro w
  have hstep := hx w
  rw [perform_bind]
  generalize x.perform w = r at hstep ⊢
  obtain ⟨r, w'⟩ := r
  cases r with
  | ok a => exact hstep.trans (hf a w')
  | error e => exact hstep

theorem GoesOn.continues {x : Work α} {w w' : Workspace} {r : Except Failure α} (hx : GoesOn x)
    (h : x.perform w = (r, w')) : Continues w w' := by
  have hstep := hx w
  rwa [h] at hstep

theorem goesOn_report (records : Log) : GoesOn (report records) :=
  fun _ => ⟨rfl, rfl, rfl, rfl, fun _ h => h⟩

theorem goesOn_change (operation : Workspace → FileTree × Option FileFault) :
    GoesOn (change operation) := by
  intro w
  rw [perform_change]
  split <;> exact ⟨rfl, rfl, rfl, rfl, fun _ h => h⟩

theorem goesOn_settings : GoesOn settings := by
  intro w
  rw [perform_settings]
  cases hs : w.settings with
  | some s => exact Continues.refl w
  | none =>
    cases w.readSettings with
    | ok s =>
      exact ⟨rfl, rfl, rfl, rfl, fun s' hs' => by rw [hs] at hs'; exact absurd hs' (by simp)⟩
    | error f => exact Continues.refl w

/-! ## What work keeps true of the tree -/

/-- Work after which a property holds if it held before, whether the work fails or not. The property
    is one of the tree and of what keeps files from being written. -/
def Preserves (I : FileTree → (Path → Option Obstacle) → Prop) (x : Work α) : Prop :=
  ∀ w, I w.tree w.obstacle? → I (x.perform w).2.tree (x.perform w).2.obstacle?

section Preserves

variable {I : FileTree → (Path → Option Obstacle) → Prop}

theorem Preserves.bind {x : Work α} {f : α → Work β} (hx : Preserves I x)
    (hf : ∀ a, Preserves I (f a)) : Preserves I (x >>= f) := by
  intro w hw
  have hstep := hx w hw
  rw [perform_bind]
  generalize x.perform w = r at hstep ⊢
  obtain ⟨r, w'⟩ := r
  cases r with
  | ok a => exact hf a w' hstep
  | error e => exact hstep

theorem Preserves.map {x : Work α} (f : α → β) (hx : Preserves I x) : Preserves I (f <$> x) := by
  intro w hw
  rw [perform_map]
  exact hx w hw

theorem preserves_pure (a : α) : Preserves I (pure a : Work α) := fun _ hw => hw

theorem preserves_throw (f : Failure) : Preserves I (throw f : Work α) := fun _ hw => hw

theorem preserves_get : Preserves I (get : Work Workspace) := fun _ hw => hw

theorem preserves_report (records : Log) : Preserves I (report records) := fun _ hw => hw

theorem preserves_ofExcept (result : Except Failure α) : Preserves I (ofExcept result) := by
  intro w hw
  rw [perform_ofExcept]
  exact hw

theorem preserves_change {operation : Workspace → FileTree × Option FileFault}
    (h : ∀ w, I w.tree w.obstacle? → I (operation w).1 w.obstacle?) :
    Preserves I (change operation) := by
  intro w hw
  have hchanged := h w hw
  rw [perform_change]
  generalize operation w = r at hchanged ⊢
  obtain ⟨tree, fault⟩ := r
  cases fault <;> exact hchanged

/-- Settings are read from the tree, and nothing is written to it. -/
theorem preserves_settings : Preserves I settings := by
  refine preserves_get.bind fun w => ?_
  cases w.settings with
  | some s => exact preserves_pure s
  | none => exact (preserves_ofExcept _).bind fun s => fun _ hw => hw

end Preserves

/-! ## Why work fails -/

def FailsWith (P : Failure → Prop) (x : Work α) : Prop :=
  ∀ w f, (x.perform w).1 = .error f → P f

theorem FailsWith.bind {P : Failure → Prop} {x : Work α} {f : α → Work β} (hx : FailsWith P x)
    (hf : ∀ a, FailsWith P (f a)) : FailsWith P (x >>= f) := by
  intro w e h
  have hw := hx w
  rw [perform_bind] at h
  generalize x.perform w = r at hw h
  obtain ⟨r, w'⟩ := r
  cases r with
  | ok a => exact hf a w' e h
  | error e' =>
    simp only [Except.error.injEq] at h
    exact h ▸ hw e' rfl

theorem failsWith_change {P : Failure → Prop} (hfile : ∀ fault, P (.file fault))
    (operation : Workspace → FileTree × Option FileFault) : FailsWith P (change operation) := by
  intro w f h
  rw [perform_change] at h
  split at h
  · exact absurd h (by simp)
  · simp only [Except.error.injEq] at h
    exact h ▸ hfile _

end Work

namespace Generation

open Work FileTree

/-! ## Writing steps -/

/-- Cleaning leaves the tree that `FileTree.clean` leaves, and fails when that does. -/
theorem perform_clean (directory : Path) (keep : Bool) (w : Workspace) :
    ∃ log, (clean directory keep).perform w
      = match w.tree.clean w.here directory keep with
        | (tree, none) => (.ok (), { w with tree, log })
        | (tree, some f) => (.error (.file f), { w with tree, log }) := by
  unfold clean
  rw [perform_get_bind]
  dsimp only
  split
  · rw [if_pos rfl, perform_bind, perform_report]
    exact ⟨w.log ++ [nothingToClean], perform_change _ _⟩
  · exact ⟨w.log, perform_change _ w⟩

theorem goesOn_clean (directory : Path) (keep : Bool) : GoesOn (clean directory keep) := by
  intro w
  obtain ⟨log, hw⟩ := perform_clean directory keep w
  rw [hw]
  split <;> exact ⟨rfl, rfl, rfl, rfl, fun _ h => h⟩

theorem perform_makeDirectories (directory : Path) (w : Workspace) :
    (makeDirectories directory).perform w
      = match w.tree.makeDirectories w.here directory with
        | (tree, none) => (.ok (), { w with tree })
        | (tree, some f) => (.error (.file f), { w with tree }) :=
  perform_change _ w

theorem perform_write (file : Path) (text : Text) (w : Workspace) :
    (write file text).perform w
      = match w.tree.writeAgainst w.here (w.obstacle? file) file (Utf8.encode text) with
        | (tree, none) => (.ok (), { w with tree })
        | (tree, some f) => (.error (.file f), { w with tree }) :=
  perform_change _ w

/-- Nothing keeps the two files from being written. -/
structure Unobstructed (obstacle? : Path → Option Obstacle) (directory : Path) : Prop where
  page : obstacle? (directory.child pageName) = none
  diagram : obstacle? (directory.child diagramName) = none

/-! ## Publishing in two parts -/

/-- The directory made, and both files written to it. -/
def writeFiles (c : Config) (page diagram : Text) : Work Unit := do
  makeDirectories c.outputDir
  write (c.outputDir.child pageName) page
  write (c.outputDir.child diagramName) diagram

/-- What publishing does with a page and a diagram once it has them. -/
def putOut (c : Config) (page diagram : Text) : Work Unit := do
  if c.cleanOutput then clean c.outputDir true
  writeFiles c page diagram

def inputsOf (schema : Schema) (title today : Text) (settings : Settings) : Viewer.Inputs :=
  ⟨Diagram.render schema title, title, today, settings.scriptUrl⟩

/-- Publishing makes its texts without touching the tree, and puts them out. -/
theorem publish_eq (c : Config) (schema : Schema) : publish c schema = (do
    let settings ← Work.settings
    let w ← get
    putOut c (Viewer.page (inputsOf schema c.title w.today settings))
      (Diagram.render schema c.title)) := rfl

/-! ## Why publishing fails -/

section FailsWith

variable {P : Failure → Prop} (hfile : ∀ fault, P (.file fault))
include hfile

theorem failsWith_clean (directory : Path) (keep : Bool) : FailsWith P (clean directory keep) := by
  intro w f h
  obtain ⟨log, hw⟩ := perform_clean directory keep w
  rw [hw] at h
  split at h
  · exact absurd h (by simp)
  · simp only [Except.error.injEq] at h
    exact h ▸ hfile _

theorem failsWith_putOut (c : Config) (page diagram : Text) :
    FailsWith P (putOut c page diagram) := by
  have hfiles : FailsWith P (writeFiles c page diagram) :=
    (failsWith_change hfile _).bind fun _ =>
      (failsWith_change hfile _).bind fun _ => failsWith_change hfile _
  unfold putOut
  cases c.cleanOutput with
  | false => exact hfiles
  | true => exact (failsWith_clean hfile _ _).bind fun _ => hfiles

end FailsWith

end Generation
end EntityDiagram
