import Mathlib.Data.List.Nodup
import Mathlib.Data.List.Perm.Basic
import EntityDiagram.Proofs.Distinct
import EntityDiagram.Proofs.FileTree.Asking
import EntityDiagram.Proofs.FileTree.Following
import EntityDiagram.Proofs.Path

/-!
# The paths that a pattern selects

A pattern is worked off step by step, and at each step a directory is listed in whatever order the
system keeps it. Three things can be said of the paths that come out.

* Each of them leads down from the directory searched, through names that the tree lists or the
  pattern gives (`glob_descends`).
* None of them comes twice (`glob_nodup`). Going down by one name keeps different paths different,
  so only the step that may go down by any number of names has to remove repetitions.
* Which of them come does not depend on the order in which directories are listed (`glob_relisted`).
  Only their order does, and, if the selection fails, the path that it fails at.
-/

namespace EntityDiagram
namespace FileTree

variable {t u : FileTree} {here l : Location} {p q : Path}

/-! ## The same tree, listed in another order -/

/-- The two trees hold the same entries, perhaps listed in another order. -/
def Relisted (t u : FileTree) : Prop := t.entries.Perm u.entries

theorem Relisted.symm (h : t.Relisted u) : u.Relisted t := List.Perm.symm h

theorem Relisted.lookup_eq (h : t.Relisted u) (l : Location) : t.lookup l = u.lookup l := by
  by_cases hl : l = []
  · rw [hl, lookup_nil, lookup_nil]
  · rw [lookup_of_ne hl, lookup_of_ne hl]
    have hkept : ∀ {t u : FileTree} {e : Entry}, t.Relisted u → t.entries.lookup l = some e →
        u.entries.lookup l = some e := by
      intro t u e h he
      exact lookup_eq_some_of_mem u.nodup (h.mem_iff.mp (mem_of_lookup_eq_some he))
    cases he : u.entries.lookup l with
    | some e => exact hkept h.symm he
    | none =>
      cases ht : t.entries.lookup l with
      | none => rfl
      | some e =>
        rw [hkept h ht] at he
        exact absurd he (by simp)

section SameLookup

variable (h : ∀ l, t.lookup l = u.lookup l)
include h

theorem stretch_congr (followLast : Bool) (l : Location) (names : List Text) :
    t.stretch followLast l names = u.stretch followLast l names := by
  induction names generalizing l with
  | nil => simp only [stretch, h]
  | cons name ahead ih => simp only [stretch, h, ih]

theorem follow_congr (followLast : Bool) (n : Nat) (l : Location) (names : List Text) :
    t.follow followLast n l names = u.follow followLast n l names := by
  induction n generalizing l names with
  | zero => rfl
  | succ n ih => simp only [follow, stretch_congr h, ih]

/-- Where a path leads is a matter of what stands where, and of nothing else. -/
theorem find_congr (followLast : Bool) (p : Path) :
    t.find here followLast p = u.find here followLast p := by
  have hdir : ∀ l, t.isDirectoryAt l = u.isDirectoryAt l := fun l => by simp only [isDirectoryAt, h]
  simp only [find, hdir, follow_congr h]

end SameLookup

section Relisted

variable (h : t.Relisted u)
include h

theorem Relisted.find_eq (followLast : Bool) (p : Path) :
    t.find here followLast p = u.find here followLast p := find_congr h.lookup_eq followLast p

theorem Relisted.probe_eq (p : Path) : t.probe here p = u.probe here p := by
  simp only [probe, h.find_eq]

theorem Relisted.isDirectory_eq (p : Path) : t.isDirectory here p = u.isDirectory here p := by
  simp only [isDirectory, h.probe_eq]

theorem Relisted.leadsOn_eq (directory : Bool) (p : Path) :
    t.leadsOn here directory p = u.leadsOn here directory p := by
  simp only [leadsOn, existsAt, h.isDirectory_eq, h.probe_eq]

theorem Relisted.leadsOnIn_eq (directory : Bool) (tokens : List Wildcard.Token) (p : Path)
    (name : Text) : t.leadsOnIn here directory tokens p name
      = u.leadsOnIn here directory tokens p name := by
  simp only [leadsOnIn, isDirectoryIn, h.find_eq, h.lookup_eq, h.isDirectory_eq]

theorem Relisted.namesAt_perm (p : Path) : (t.namesAt here p).Perm (u.namesAt here p) := by
  unfold namesAt
  rw [h.find_eq]
  split
  · exact h.filterMap _
  · exact .refl _

theorem Relisted.directoriesFrom_perm (p : Path) :
    (t.directoriesFrom here p).Perm (u.directoriesFrom here p) := by
  unfold directoriesFrom
  rw [h.find_eq]
  split
  · refine ((List.reverse_perm _).trans ?_).map _ |>.cons p
    exact (h.filterMap _).trans (List.reverse_perm _).symm
  · exact .refl _

end Relisted

/-! ## Collecting -/

section Collect

variable {α β : Type} {things things' : List β} {ask ask' : β → Except FileFault (List α)}

/-- Collecting the same outcomes for the same things comes to the same, but for the order. -/
theorem collect_perm {found : List α} (hthings : things.Perm things')
    (hask : ∀ p ∈ things, ∀ xs, ask p = .ok xs → ∃ ys, ask' p = .ok ys ∧ xs.Perm ys)
    (h : collect things ask = .ok found) :
    ∃ found', collect things' ask' = .ok found' ∧ found.Perm found' := by
  obtain ⟨hall, rfl⟩ := collect_ok_iff.mp h
  refine ⟨_, collect_ok_iff.mpr ⟨?_, rfl⟩, hthings.flatMap ?_⟩
  · intro p hp
    obtain ⟨xs, hxs⟩ := hall p (hthings.mem_iff.mpr hp)
    obtain ⟨ys, hys, -⟩ := hask p (hthings.mem_iff.mpr hp) xs hxs
    exact ⟨ys, hys⟩
  · intro p hp
    obtain ⟨xs, hxs⟩ := hall p hp
    obtain ⟨ys, hys, hperm⟩ := hask p hp xs hxs
    rw [hxs, hys]
    exact hperm

/-- Nothing is collected twice from different things whose outcomes have nothing in common. -/
theorem nodup_of_collect_ok {found : List α} (h : collect things ask = .ok found)
    (hthings : things.Nodup) (hnodup : ∀ p ∈ things, ∀ xs, ask p = .ok xs → xs.Nodup)
    (hapart : ∀ p q, p ≠ q → ∀ xs ys, ask p = .ok xs → ask q = .ok ys → List.Disjoint xs ys) :
    found.Nodup := by
  obtain ⟨hall, rfl⟩ := collect_ok_iff.mp h
  rw [List.nodup_flatMap]
  constructor
  · intro p hp
    obtain ⟨xs, hxs⟩ := hall p hp
    rw [hxs]
    exact hnodup p hp xs hxs
  · refine hthings.imp_of_mem ?_
    intro p q hp hq hne
    obtain ⟨xs, hxs⟩ := hall p hp
    obtain ⟨ys, hys⟩ := hall q hq
    simp only [Function.onFun, hxs, hys]
    exact hapart p q hne xs ys hxs hys

end Collect

/-! ## Downwards -/

theorem noSlash_of_mem_namesAt {name : Text} (h : name ∈ t.namesAt here p) : Path.NoSlash name := by
  unfold namesAt at h
  split at h
  · exact (isName_of_mem_namesIn h).noSlash
  · exact absurd h (by simp)

/-- A path that leads down from another one through names without slashes. -/
def LeadsDown (p q : Path) : Prop :=
  ∃ names : List Text, (∀ name ∈ names, Path.NoSlash name) ∧ q = p.descend names

theorem LeadsDown.refl (p : Path) : LeadsDown p p := ⟨[], by simp, by simp [Path.descend]⟩

theorem LeadsDown.trans {r : Path} (h : LeadsDown p q) (h' : LeadsDown q r) : LeadsDown p r := by
  obtain ⟨names, hnames, rfl⟩ := h
  obtain ⟨more, hmore, rfl⟩ := h'
  refine ⟨names ++ more, ?_, by simp [Path.descend]⟩
  intro name hname
  rcases List.mem_append.mp hname with hname | hname
  · exact hnames name hname
  · exact hmore name hname

theorem leadsDown_child {name : Text} (h : Path.NoSlash name) : LeadsDown p (p.child name) :=
  ⟨[name], by simpa using h, rfl⟩

theorem leadsDown_of_mem_directoriesFrom (h : q ∈ t.directoriesFrom here p) : LeadsDown p q := by
  unfold directoriesFrom at h
  split at h
  · rcases List.mem_cons.mp h with rfl | h
    · exact .refl q
    · obtain ⟨names, hnames, rfl⟩ := List.mem_map.mp h
      obtain ⟨x, hx, hdrop⟩ := List.mem_filterMap.mp (List.mem_reverse.mp hnames)
      split at hdrop
      · simp only [Option.some.injEq] at hdrop
        subst hdrop
        exact ⟨_, fun name hname => (t.named x hx name (List.mem_of_mem_drop hname)).noSlash, rfl⟩
      · exact absurd hdrop (by simp)
  · rw [List.mem_singleton] at h
    exact h ▸ .refl p

/-- The names that a pattern gives outright have no slashes in them. -/
def StepsNoSlash (steps : List GlobStep) : Prop :=
  ∀ name, .named name ∈ steps → Path.NoSlash name

theorem StepsNoSlash.tail {step : GlobStep} {rest : List GlobStep}
    (h : StepsNoSlash (step :: rest)) : StepsNoSlash rest :=
  fun name hname => h name (List.mem_cons_of_mem _ hname)

theorem covers_of_leadsOnIn {directory : Bool} {tokens : List Wildcard.Token} {name : Text}
    (h : t.leadsOnIn here directory tokens p name = .ok true) :
    Wildcard.covers tokens name = true := by
  unfold leadsOnIn at h
  obtain ⟨b, -, hb⟩ := map_ok_iff.mp h
  exact (Bool.and_eq_true_iff.mp hb).2

/-- What a step that covers names selects is selected below one of the names. -/
theorem select_covered_cases {directoriesOnly : Bool} {tokens : List Wildcard.Token}
    {rest : List GlobStep} {paths : List Path}
    (h : t.select here directoriesOnly (.covered tokens :: rest) p = .ok paths) (hq : q ∈ paths) :
    ∃ name ∈ t.namesAt here p, Wildcard.covers tokens name = true
      ∧ ∃ found, t.select here directoriesOnly rest (p.child name) = .ok found ∧ q ∈ found := by
  obtain ⟨-, hc⟩ := select_covers_ok_iff.mp h
  obtain ⟨name, hname, found, hfound, hq⟩ := ((mem_of_collect_ok hc).2 q).mp hq
  rcases goOn_ok_iff.mp hfound with ⟨-, rfl⟩ | ⟨hl, hrest⟩
  · exact absurd hq (by simp)
  · exact ⟨name, hname, covers_of_leadsOnIn hl, found, hrest, hq⟩

/-- What a step selects that goes down by any number of names is selected from a directory below. -/
theorem select_anywhere_cases {directoriesOnly : Bool} {rest : List GlobStep} {paths : List Path}
    (h : t.select here directoriesOnly (.anywhere :: rest) p = .ok paths) (hq : q ∈ paths) :
    ∃ r ∈ t.directoriesFrom here p,
      ∃ found, t.select here directoriesOnly rest r = .ok found ∧ q ∈ found := by
  obtain ⟨all, hc, rfl⟩ := select_anywhere_ok_iff.mp h
  exact ((mem_of_collect_ok hc).2 q).mp (List.mem_eraseDups.mp hq)

theorem select_descends {directoriesOnly : Bool} {steps : List GlobStep} {paths : List Path}
    (hsteps : StepsNoSlash steps) (h : t.select here directoriesOnly steps p = .ok paths)
    (hq : q ∈ paths) : LeadsDown p q := by
  induction steps generalizing p paths with
  | nil =>
    simp only [select, Except.ok.injEq] at h
    subst h
    rw [List.mem_singleton] at hq
    exact hq ▸ .refl p
  | cons step rest ih =>
    cases step with
    | named name =>
      rw [select_named] at h
      rcases goOn_ok_iff.mp h with ⟨-, rfl⟩ | ⟨-, hrest⟩
      · exact absurd hq (by simp)
      · exact (leadsDown_child (hsteps name List.mem_cons_self)).trans (ih hsteps.tail hrest hq)
    | covered tokens =>
      obtain ⟨name, hname, -, found, hfound, hq⟩ := select_covered_cases h hq
      have hlisted := noSlash_of_mem_namesAt hname
      exact (leadsDown_child hlisted).trans (ih hsteps.tail hfound hq)
    | anywhere =>
      obtain ⟨r, hr, found, hfound, hq⟩ := select_anywhere_cases h hq
      exact (leadsDown_of_mem_directoriesFrom hr).trans (ih hsteps.tail hfound hq)

/-! ## The last name -/

/-- A pattern that ends in a wildcard selects paths that end in a name it covers. The induction is on
    the steps before the last. -/
theorem select_covered {directoriesOnly : Bool} {steps : List GlobStep}
    {tokens : List Wildcard.Token} {paths : List Path}
    (h : t.select here directoriesOnly (steps ++ [.covered tokens]) p = .ok paths) (hq : q ∈ paths) :
    ∃ (r : Path) (name : Text), q = r.child name ∧ Wildcard.covers tokens name = true := by
  induction steps generalizing p paths with
  | nil =>
    rw [List.nil_append] at h
    obtain ⟨name, -, hcovered, found, hfound, hmem⟩ := select_covered_cases h hq
    simp only [select, Except.ok.injEq] at hfound
    subst hfound
    exact ⟨p, name, List.mem_singleton.mp hmem, hcovered⟩
  | cons step rest ih =>
    rw [List.cons_append] at h
    cases step with
    | named name =>
      rw [select_named] at h
      rcases goOn_ok_iff.mp h with ⟨-, rfl⟩ | ⟨-, hrest⟩
      · exact absurd hq (by simp)
      · exact ih hrest hq
    | covered _ =>
      obtain ⟨name, -, -, found, hfound, hmem⟩ := select_covered_cases h hq
      exact ih hfound hmem
    | anywhere =>
      obtain ⟨r, -, found, hfound, hmem⟩ := select_anywhere_cases h hq
      exact ih hfound hmem

/-! ## Without repetitions -/

theorem nodup_namesIn (t : FileTree) (l : Location) : (t.namesIn l).Nodup := by
  let nameIn : Location → Option Text := fun m => if m.dropLast = l then m.getLast? else none
  have hmap : t.namesIn l = (t.entries.map (·.1)).filterMap nameIn := by
    rw [List.filterMap_map]
    rfl
  rw [hmap]
  refine t.nodup.filterMap ?_
  intro m m' name hm hm'
  have hback : ∀ {k : Location}, name ∈ nameIn k → k = l ++ [name] := by
    intro k hk
    simp only [nameIn, Option.mem_def] at hk
    split at hk
    · next hl => rw [← hl, List.dropLast_append_getLast? name hk]
    · exact absurd hk (by simp)
  rw [hback hm, hback hm']

theorem nodup_namesAt (t : FileTree) (p : Path) : (t.namesAt here p).Nodup := by
  unfold namesAt
  split
  · exact nodup_namesIn t _
  · exact List.nodup_nil

/-- Two paths down by different names have nothing below them in common. -/
theorem descend_child_ne {name other : Text} (hne : name ≠ other) (names others : List Text) :
    (p.child name).descend names ≠ (p.child other).descend others := by
  intro h
  have hparts := congrArg Path.parts h
  simp only [Path.descend, Path.child, List.append_assoc, List.singleton_append,
    List.append_cancel_left_eq, List.cons.injEq] at hparts
  exact hne hparts.1

/-- What a name leads to is below it. -/
theorem descends_of_selectIn {directoriesOnly : Bool} {tokens : List Wildcard.Token}
    {rest : List GlobStep} {name : Text} {found : List Path} (hsteps : StepsNoSlash rest)
    (h : t.selectIn here directoriesOnly tokens rest p name = .ok found) (hq : q ∈ found) :
    ∃ names, q = (p.child name).descend names := by
  rcases goOn_ok_iff.mp h with ⟨-, rfl⟩ | ⟨-, hrest⟩
  · exact absurd hq (by simp)
  · obtain ⟨names, -, hdown⟩ := select_descends hsteps hrest hq
    exact ⟨names, hdown⟩

theorem select_nodup {directoriesOnly : Bool} {steps : List GlobStep} {paths : List Path}
    (hsteps : StepsNoSlash steps) (h : t.select here directoriesOnly steps p = .ok paths) :
    paths.Nodup := by
  induction steps generalizing p paths with
  | nil =>
    simp only [select, Except.ok.injEq] at h
    subst h
    exact List.nodup_singleton p
  | cons step rest ih =>
    cases step with
    | named name =>
      rw [select_named] at h
      rcases goOn_ok_iff.mp h with ⟨-, rfl⟩ | ⟨-, hrest⟩
      · exact List.nodup_nil
      · exact ih hsteps.tail hrest
    | covered tokens =>
      obtain ⟨-, hc⟩ := select_covers_ok_iff.mp h
      refine nodup_of_collect_ok hc (nodup_namesAt t p) ?_ ?_
      · intro name _ found hfound
        rcases goOn_ok_iff.mp hfound with ⟨-, rfl⟩ | ⟨-, hrest⟩
        · exact List.nodup_nil
        · exact ih hsteps.tail hrest
      · -- The paths selected go down by different names, so they have nothing in common.
        intro name other hne found found' hfound hfound' q hq hq'
        obtain ⟨names, hdown⟩ := descends_of_selectIn hsteps.tail hfound hq
        obtain ⟨others, hdown'⟩ := descends_of_selectIn hsteps.tail hfound' hq'
        exact descend_child_ne hne names others (hdown.symm.trans hdown')
    | anywhere =>
      obtain ⟨all, -, rfl⟩ := select_anywhere_ok_iff.mp h
      exact nodup_eraseDups all

/-! ## In whatever order directories are listed -/

/-- Going on after the same answer comes to the same, but for the order, if what follows does. -/
theorem goOn_perm {asked : Except FileFault Bool} {next next' : Except FileFault (List Path)}
    {paths : List Path}
    (hnext : ∀ {xs}, next = .ok xs → ∃ ys, next' = .ok ys ∧ xs.Perm ys)
    (h : goOn asked next = .ok paths) :
    ∃ paths', goOn asked next' = .ok paths' ∧ paths.Perm paths' := by
  rcases goOn_ok_iff.mp h with ⟨hno, rfl⟩ | ⟨hyes, hrest⟩
  · exact ⟨[], goOn_ok_iff.mpr (.inl ⟨hno, rfl⟩), .refl _⟩
  · obtain ⟨paths', hrest', hperm⟩ := hnext hrest
    exact ⟨paths', goOn_ok_iff.mpr (.inr ⟨hyes, hrest'⟩), hperm⟩

theorem select_relisted {directoriesOnly : Bool} {steps : List GlobStep} {paths : List Path}
    (ht : t.Relisted u) (h : t.select here directoriesOnly steps p = .ok paths) :
    ∃ paths', u.select here directoriesOnly steps p = .ok paths' ∧ paths.Perm paths' := by
  induction steps generalizing p paths with
  | nil =>
    simp only [select, Except.ok.injEq] at h
    subst h
    exact ⟨_, rfl, .refl _⟩
  | cons step rest ih =>
    cases step with
    | named name =>
      rw [select_named, ht.leadsOn_eq] at h
      exact goOn_perm ih h
    | covered tokens =>
      obtain ⟨hd, hc⟩ := select_covers_ok_iff.mp h
      have hperm : ∀ name ∈ t.namesAt here p, ∀ found,
          t.selectIn here directoriesOnly tokens rest p name = .ok found →
          ∃ found', u.selectIn here directoriesOnly tokens rest p name = .ok found'
            ∧ found.Perm found' := by
        intro name _ found hfound
        rw [selectIn, ht.leadsOnIn_eq] at hfound
        exact goOn_perm ih hfound
      obtain ⟨paths', hc', hpaths⟩ := collect_perm (ht.namesAt_perm p) hperm hc
      rw [ht.isDirectory_eq] at hd
      exact ⟨paths', select_covers_ok_iff.mpr ⟨hd, hc'⟩, hpaths⟩
    | anywhere =>
      obtain ⟨all, hc, rfl⟩ := select_anywhere_ok_iff.mp h
      obtain ⟨all', hall', hperm⟩ :=
        collect_perm (ht.directoriesFrom_perm p) (fun q _ xs hq => ih hq) hc
      exact ⟨_, select_anywhere_ok_iff.mpr ⟨all', hall', rfl⟩, eraseDups_perm hperm⟩

/-! ## From a directory -/

section Glob

variable {g : Glob} {paths : List Path}

/-- A pattern selects only from what is a directory. -/
theorem select_of_mem_glob (h : t.glob here g p = .ok paths) (hq : q ∈ paths) :
    t.LeadsToDirectory here p ∧ t.select here g.directoriesOnly g.steps p = .ok paths := by
  rw [glob_eq] at h
  rcases goOn_ok_iff.mp h with ⟨-, rfl⟩ | ⟨hd, hselect⟩
  · exact absurd hq (by simp)
  · exact ⟨isDirectory_true_iff.mp hd, hselect⟩

theorem glob_descends (hg : StepsNoSlash g.steps) (h : t.glob here g p = .ok paths)
    (hq : q ∈ paths) : LeadsDown p q := by
  obtain ⟨-, hselect⟩ := select_of_mem_glob h hq
  exact select_descends hg hselect hq

theorem leadsToDirectory_of_mem_glob (h : t.glob here g p = .ok paths) (hq : q ∈ paths) :
    t.LeadsToDirectory here p :=
  (select_of_mem_glob h hq).1

theorem glob_covered {steps : List GlobStep} {tokens : List Wildcard.Token}
    (hg : g.steps = steps ++ [.covered tokens]) (h : t.glob here g p = .ok paths) (hq : q ∈ paths) :
    ∃ (r : Path) (name : Text), q = r.child name ∧ Wildcard.covers tokens name = true := by
  obtain ⟨-, hselect⟩ := select_of_mem_glob h hq
  rw [hg] at hselect
  exact select_covered hselect hq

/-- **A pattern selects no path twice.** -/
theorem glob_nodup (hg : StepsNoSlash g.steps) (h : t.glob here g p = .ok paths) : paths.Nodup := by
  rw [glob_eq] at h
  rcases goOn_ok_iff.mp h with ⟨-, rfl⟩ | ⟨-, hselect⟩
  · exact List.nodup_nil
  · exact select_nodup hg hselect

/-- **Listing directories in another order** selects the same paths. -/
theorem glob_relisted (ht : t.Relisted u) (h : t.glob here g p = .ok paths) :
    ∃ paths', u.glob here g p = .ok paths' ∧ paths.Perm paths' := by
  rw [glob_eq, ht.isDirectory_eq] at h
  exact goOn_perm (select_relisted ht) h

theorem stepsNoSlash_of_stepsOf {names : List Text} {steps : List GlobStep}
    (hnames : ∀ name ∈ names, Path.NoSlash name) (h : Glob.stepsOf names = .ok steps) :
    StepsNoSlash steps := by
  induction names generalizing steps with
  | nil =>
    simp only [Glob.stepsOf, Except.ok.injEq] at h
    subst h
    intro name hname
    exact absurd hname (by simp)
  | cons first rest ih =>
    unfold Glob.stepsOf at h
    split at h
    · next step others hstep hothers =>
      simp only [Except.ok.injEq] at h
      subst h
      have hrest := ih (fun name hname => hnames name (List.mem_cons_of_mem _ hname)) hothers
      intro name hname
      rcases List.mem_cons.mp hname with heq | hname
      · -- Only the name itself makes a step that is a name.
        have hfirst : name = first := by
          subst heq
          unfold Glob.stepOf at hstep
          split at hstep
          · exact absurd hstep (by simp)
          · split at hstep
            · exact absurd hstep (by simp)
            · split at hstep <;> simp at hstep
              exact hstep.symm
        exact hfirst ▸ hnames first List.mem_cons_self
      · exact hrest name hname
    · exact absurd h (by simp)
    · exact absurd h (by simp)

theorem stepsNoSlash_of_ofText {pattern : Text} (h : Glob.ofText pattern = .ok g) :
    StepsNoSlash g.steps := by
  unfold Glob.ofText at h
  split at h
  · exact absurd h (by simp)
  · dsimp only at h
    split at h
    · exact absurd h (by simp)
    · split at h
      · exact absurd h (by simp)
      · obtain ⟨steps, hs, rfl⟩ := map_ok_iff.mp h
        exact stepsNoSlash_of_stepsOf (fun name => Path.noSlash_of_mem_parts) hs

end Glob

end FileTree
end EntityDiagram
