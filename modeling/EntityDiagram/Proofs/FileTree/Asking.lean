import EntityDiagram.FileTree.Glob

/-!
# What a question about a path can answer

A program asks three things of a path before it does anything: is something there, is it a
directory, is it a file. `FileTree.find` has nine ways to fail, and the questions fold all of them
but one into the answer "no". This module says so once, in terms of where a path leads:

* `LeadsToDirectory` and `LeadsToFile` are what the two questions are about;
* `TooLong` is the one case in which they are not answered, and then each of them fails with the
  same fault.

Selecting files by a pattern only asks questions, so the same case is the only one in which it gives
no paths (`glob_error`): whatever else is the matter with a tree, a pattern selects what is there.
-/

namespace EntityDiagram
namespace FileTree

variable {t : FileTree} {here : Location} {p : Path}

/-! ## Where a path leads -/

/-- The path leads to a directory, links followed. -/
def LeadsToDirectory (t : FileTree) (here : Location) (p : Path) : Prop :=
  ∃ l, t.find here true p = .ok ⟨l, some .directory⟩

/-- The path leads to a file, links followed. -/
def LeadsToFile (t : FileTree) (here : Location) (p : Path) : Prop :=
  ∃ l bytes, t.find here true p = .ok ⟨l, some (.file bytes)⟩

/-- The path, or a name on the way, is too long to be followed. -/
def TooLong (t : FileTree) (here : Location) (p : Path) : Prop :=
  t.find here true p = .error .nameTooLong

/-- A path that is too long gives no answer, and every other path does. -/
theorem probe_error_iff {f : FileFault} :
    t.probe here p = .error f ↔ t.TooLong here p ∧ f = faultAt p .nameTooLong := by
  unfold probe TooLong
  cases hf : t.find here true p with
  | ok found => simp
  | error cause => cases cause <;> simp [eq_comm]

theorem probe_ok_iff {e : Entry} :
    t.probe here p = .ok (some e) ↔ ∃ l, t.find here true p = .ok ⟨l, some e⟩ := by
  unfold probe
  cases hf : t.find here true p with
  | ok found =>
    obtain ⟨l, entry⟩ := found
    simp
  | error cause => cases cause <;> simp

/-- An answer that is not "a directory" says that no directory is there. -/
theorem isDirectory_true_iff : t.isDirectory here p = .ok true ↔ t.LeadsToDirectory here p := by
  unfold isDirectory LeadsToDirectory
  rw [← probe_ok_iff]
  cases t.probe here p with
  | error f => simp [Except.map]
  | ok e => simp [Except.map]

theorem isDirectory_error_iff {f : FileFault} :
    t.isDirectory here p = .error f ↔ t.TooLong here p ∧ f = faultAt p .nameTooLong := by
  rw [← probe_error_iff]
  unfold isDirectory
  cases t.probe here p <;> simp [Except.map]

theorem isDirectory_false_iff :
    t.isDirectory here p = .ok false ↔ ¬ t.LeadsToDirectory here p ∧ ¬ t.TooLong here p := by
  rw [← isDirectory_true_iff]
  cases h : t.isDirectory here p with
  | error f =>
    have hlong := (isDirectory_error_iff.mp h).1
    simp [hlong]
  | ok b =>
    have hshort : ¬ t.TooLong here p := by
      intro hlong
      have := isDirectory_error_iff.mpr ⟨hlong, rfl⟩
      rw [h] at this
      exact absurd this (by simp)
    cases b <;> simp [hshort]

theorem isFile_true_iff : t.isFile here p = .ok true ↔ t.LeadsToFile here p := by
  have hprobe : t.LeadsToFile here p ↔ ∃ bytes, t.probe here p = .ok (some (.file bytes)) := by
    simp only [probe_ok_iff]
    exact exists_comm
  rw [hprobe]
  unfold isFile
  cases t.probe here p with
  | error f => simp [Except.map]
  | ok e =>
    cases e with
    | none => simp [Except.map]
    | some e => cases e <;> simp [Except.map]

theorem isFile_error_iff {f : FileFault} :
    t.isFile here p = .error f ↔ t.TooLong here p ∧ f = faultAt p .nameTooLong := by
  rw [← probe_error_iff]
  unfold isFile
  cases t.probe here p <;> simp [Except.map]

theorem readBytes_ok_iff {unreadable : List Location} {bytes : List UInt8} :
    t.readBytes here unreadable p = .ok bytes
      ↔ ∃ l, t.find here true p = .ok ⟨l, some (.file bytes)⟩ ∧ l ∉ unreadable := by
  unfold readBytes read
  cases t.find here true p with
  | error cause => simp
  | ok found =>
    obtain ⟨l, entry⟩ := found
    simp only [Except.ok.injEq, Found.mk.injEq, and_assoc, exists_eq_left', List.contains_eq_mem,
      decide_eq_true_iff]
    by_cases hl : l ∈ unreadable
    · simp [hl]
    · rcases entry with _ | _ | content | target <;> simp [hl]

theorem existsAt_error_iff {f : FileFault} :
    t.existsAt here p = .error f ↔ t.TooLong here p ∧ f = faultAt p .nameTooLong := by
  rw [← probe_error_iff]
  unfold existsAt
  cases t.probe here p <;> simp [Except.map]

/-! ## Outcomes turned into others -/

section Turned

variable {ε α β : Type} {x : Except ε α} {f : α → β}

theorem map_ok_iff {b : β} : x.map f = .ok b ↔ ∃ a, x = .ok a ∧ f a = b := by
  cases x <;> simp [Except.map]

theorem map_error_iff {e : ε} : x.map f = .error e ↔ x = .error e := by
  cases x <;> simp [Except.map]

end Turned

/-! ## Collecting outcomes -/

section Collect

variable {α β : Type} {things : List β} {ask : β → Except FileFault (List α)}

/-- What an outcome gives; nothing if it is a fault. -/
def given : Except FileFault (List α) → List α
  | .ok xs => xs
  | .error _ => []

/-- The outcomes are collected one after another, if there is one for each. -/
theorem collect_ok_iff {found : List α} : collect things ask = .ok found
    ↔ (∀ p ∈ things, ∃ xs, ask p = .ok xs) ∧ found = things.flatMap fun p => given (ask p) := by
  induction things generalizing found with
  | nil => simp [collect, eq_comm]
  | cons p rest ih =>
    unfold collect
    cases hp : ask p with
    | error f => simp [hp]
    | ok xs =>
      cases hr : collect rest ask with
      | error f =>
        have hnone : ¬ ∀ q ∈ rest, ∃ ys, ask q = .ok ys := by
          intro hall
          rw [(ih.mpr ⟨hall, rfl⟩)] at hr
          exact absurd hr (by simp)
        simp [Except.map, hnone]
      | ok ys =>
        obtain ⟨hall, rfl⟩ := ih.mp hr
        have hcons : ∀ q ∈ p :: rest, ∃ ys, ask q = .ok ys := by
          intro q hq
          rcases List.mem_cons.mp hq with rfl | hq
          · exact ⟨xs, hp⟩
          · exact hall q hq
        rw [List.flatMap_cons, hp]
        exact ⟨fun h => ⟨hcons, (Except.ok.inj h).symm⟩, fun h => congrArg Except.ok h.2.symm⟩

/-- What was collected is what one or another gives. -/
theorem mem_of_collect_ok {found : List α} (h : collect things ask = .ok found) :
    (∀ p ∈ things, ∃ xs, ask p = .ok xs)
      ∧ ∀ x, x ∈ found ↔ ∃ p ∈ things, ∃ xs, ask p = .ok xs ∧ x ∈ xs := by
  obtain ⟨hall, rfl⟩ := collect_ok_iff.mp h
  refine ⟨hall, fun x => ?_⟩
  rw [List.mem_flatMap]
  refine exists_congr fun p => and_congr_right fun _ => ?_
  cases ask p with
  | ok xs => simp [given]
  | error f => simp [given]

/-- A fault in collecting is the fault of one of the outcomes. -/
theorem exists_of_collect_error {f : FileFault} (h : collect things ask = .error f) :
    ∃ p ∈ things, ask p = .error f := by
  induction things with
  | nil => simp [collect] at h
  | cons p rest ih =>
    unfold collect at h
    cases hp : ask p with
    | error f' =>
      simp only [hp, Except.error.injEq] at h
      exact ⟨p, List.mem_cons_self, by rw [hp, h]⟩
    | ok xs =>
      rw [hp] at h
      obtain ⟨q, hq, haq⟩ := ih (map_error_iff.mp h)
      exact ⟨q, List.mem_cons_of_mem p hq, haq⟩

end Collect

/-! ## Selecting by a pattern -/

/-- The answer to a question decides: after a yes it goes on, and after a no nothing is selected. -/
def goOn (asked : Except FileFault Bool) (next : Except FileFault (List Path)) :
    Except FileFault (List Path) :=
  match asked with
  | .error f => .error f
  | .ok false => .ok []
  | .ok true => next

section GoOn

variable {asked : Except FileFault Bool} {next : Except FileFault (List Path)}

@[simp] theorem goOn_error {f : FileFault} : goOn (.error f) next = .error f := rfl

@[simp] theorem goOn_no : goOn (.ok false) next = .ok [] := rfl

@[simp] theorem goOn_yes : goOn (.ok true) next = next := rfl

theorem goOn_ok_iff {paths : List Path} : goOn asked next = .ok paths
    ↔ asked = .ok false ∧ paths = [] ∨ asked = .ok true ∧ next = .ok paths := by
  rcases asked with f | b
  · simp
  · cases b <;> simp [eq_comm]

theorem goOn_error_iff {f : FileFault} : goOn asked next = .error f
    ↔ asked = .error f ∨ asked = .ok true ∧ next = .error f := by
  rcases asked with f | b
  · simp
  · cases b <;> simp

end GoOn

section Select

variable {directoriesOnly : Bool} {rest : List GlobStep} {paths : List Path} {f : FileFault}

theorem select_named {name : Text} : t.select here directoriesOnly (.named name :: rest) p
    = goOn (t.leadsOn here (directoriesOnly || !rest.isEmpty) (p.child name))
        (t.select here directoriesOnly rest (p.child name)) := rfl

/-- What a step that covers names makes of one of the names in a directory. -/
def selectIn (t : FileTree) (here : Location) (directoriesOnly : Bool)
    (tokens : List Wildcard.Token) (rest : List GlobStep) (p : Path) (name : Text) :
    Except FileFault (List Path) :=
  goOn (t.leadsOnIn here (directoriesOnly || !rest.isEmpty) tokens p name)
    (t.select here directoriesOnly rest (p.child name))

theorem select_covers_ok_iff {tokens : List Wildcard.Token} :
    t.select here directoriesOnly (.covered tokens :: rest) p = .ok paths
      ↔ (∃ b, t.isDirectory here p = .ok b)
        ∧ collect (t.namesAt here p) (t.selectIn here directoriesOnly tokens rest p) = .ok paths := by
  rw [select]
  cases t.isDirectory here p with
  | error f => simp
  | ok b => exact ⟨fun h => ⟨⟨b, rfl⟩, h⟩, fun h => h.2⟩

theorem select_covers_error_iff {tokens : List Wildcard.Token} :
    t.select here directoriesOnly (.covered tokens :: rest) p = .error f
      ↔ t.isDirectory here p = .error f ∨ (∃ b, t.isDirectory here p = .ok b)
        ∧ collect (t.namesAt here p) (t.selectIn here directoriesOnly tokens rest p) = .error f := by
  rw [select]
  cases t.isDirectory here p with
  | error f => simp
  | ok b => exact ⟨fun h => .inr ⟨⟨b, rfl⟩, h⟩, fun h => h.elim nofun And.right⟩

theorem select_anywhere : t.select here directoriesOnly (.anywhere :: rest) p
    = (collect (t.directoriesFrom here p) (t.select here directoriesOnly rest)).map
        (·.eraseDups) := rfl

theorem select_anywhere_ok_iff :
    t.select here directoriesOnly (.anywhere :: rest) p = .ok paths
      ↔ ∃ all, collect (t.directoriesFrom here p) (t.select here directoriesOnly rest) = .ok all
        ∧ all.eraseDups = paths := by
  rw [select_anywhere, map_ok_iff]

theorem glob_eq {g : Glob} : t.glob here g p
    = goOn (t.isDirectory here p) (t.select here g.directoriesOnly g.steps p) := rfl

end Select

/-! ## What makes a selection fail -/

/-- Asking about a step fails in the one case only, whichever question it is. -/
theorem leadsOn_error {directory : Bool} {f : FileFault}
    (h : t.leadsOn here directory p = .error f) : f.cause = .nameTooLong := by
  unfold leadsOn at h
  split at h
  · rw [(isDirectory_error_iff.mp h).2]
    rfl
  · rw [(existsAt_error_iff.mp h).2]
    rfl

theorem isDirectoryIn_error {name : Text} {f : FileFault}
    (h : t.isDirectoryIn here p name = .error f) : f.cause = .nameTooLong := by
  unfold isDirectoryIn at h
  split at h
  · split at h
    · rw [(isDirectory_error_iff.mp h).2]
      rfl
    · exact absurd h (by simp)
  · exact absurd h (by simp)

theorem leadsOnIn_error {directory : Bool} {tokens : List Wildcard.Token} {name : Text}
    {f : FileFault} (h : t.leadsOnIn here directory tokens p name = .error f) :
    f.cause = .nameTooLong := by
  unfold leadsOnIn at h
  rw [map_error_iff] at h
  split at h
  · exact isDirectoryIn_error h
  · exact absurd h (by simp)

/-- The induction is on the steps; only a step that names something asks a question whose fault it
    hands on. -/
theorem select_error {directoriesOnly : Bool} {steps : List GlobStep} {f : FileFault}
    (h : t.select here directoriesOnly steps p = .error f) : f.cause = .nameTooLong := by
  induction steps generalizing p with
  | nil => simp [select] at h
  | cons step rest ih =>
    cases step with
    | named name =>
      rw [select_named] at h
      rcases goOn_error_iff.mp h with hl | ⟨-, hrest⟩
      · exact leadsOn_error hl
      · exact ih hrest
    | covered tokens =>
      rcases select_covers_error_iff.mp h with hd | ⟨-, hc⟩
      · rw [(isDirectory_error_iff.mp hd).2]
        rfl
      · obtain ⟨name, -, hname⟩ := exists_of_collect_error hc
        rcases goOn_error_iff.mp hname with hl | ⟨-, hrest⟩
        · exact leadsOnIn_error hl
        · exact ih hrest
    | anywhere =>
      rw [select_anywhere, map_error_iff] at h
      obtain ⟨q, -, hq⟩ := exists_of_collect_error h
      exact ih hq

/-- **A pattern gives no paths only when one it asks about is too long.** -/
theorem glob_error {g : Glob} {f : FileFault} (h : t.glob here g p = .error f) :
    f.cause = .nameTooLong := by
  rw [glob_eq] at h
  rcases goOn_error_iff.mp h with hd | ⟨-, hselect⟩
  · rw [(isDirectory_error_iff.mp hd).2]
    rfl
  · exact select_error hselect

end FileTree
end EntityDiagram
