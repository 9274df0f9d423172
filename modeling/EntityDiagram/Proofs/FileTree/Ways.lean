import EntityDiagram.Proofs.FileTree.Changing

/-!
# When two trees lead the same way

Where a path leads depends on directories and links only. Files are where it ends. So in two trees
with the same directories and the same links a path that leads somewhere leads to the same location
(`SameWays.find`), whatever the two trees have in their files. Writing a file never makes or breaks
a way (`sameWays_write`), because it ends at no link and is refused at a directory: what is written
to one path does not decide where the next one leads.
-/

namespace EntityDiagram
namespace FileTree

variable {t u v : FileTree} {here l : Location} {followLast : Bool} {p : Path} {found : Found}

/-- The two trees have the same directories and the same links. -/
structure SameWays (t u : FileTree) : Prop where
  directory : ∀ l, t.lookup l = some .directory ↔ u.lookup l = some .directory
  link : ∀ l target, t.lookup l = some (.link target) ↔ u.lookup l = some (.link target)

theorem SameWays.trans (h : t.SameWays u) (h' : u.SameWays v) : t.SameWays v :=
  ⟨fun l => (h.directory l).trans (h'.directory l),
    fun l target => (h.link l target).trans (h'.link l target)⟩

theorem SameWays.symm (h : t.SameWays u) : u.SameWays t :=
  ⟨fun l => (h.directory l).symm, fun l target => (h.link l target).symm⟩

/-! ## Following -/

/-- The same location, with what stands there in another tree. -/
def Found.over (u : FileTree) (found : Found) : Found := ⟨found.location, u.lookup found.location⟩

def Stretch.over (u : FileTree) : Stretch → Stretch
  | .arrived found => .arrived (found.over u)
  | s => s

/-- No way leads on from the location: a file stands there, or nothing. -/
def EndsWay (t : FileTree) (l : Location) : Prop :=
  t.lookup l ≠ some .directory ∧ ∀ target, t.lookup l ≠ some (.link target)

theorem SameWays.endsWay (h : t.SameWays u) (he : t.EndsWay l) : u.EndsWay l :=
  ⟨fun hd => he.1 ((h.directory l).mpr hd), fun target hl => he.2 target ((h.link l target).mpr hl)⟩

section EndsWay

variable {name : Text} (hname : IsName name) (h : t.EndsWay (l ++ [name]))
include hname h

theorem stretch_last : t.stretch followLast l [name]
    = .arrived ⟨l ++ [name], t.lookup (l ++ [name])⟩ :=
  stretch_singleton hname fun _ => h.2

/-- The cause of the failure is all that tells a file from nothing. -/
theorem stretch_stuck (next : Text) (ahead : List Text) :
    ∃ cause, t.stretch followLast l (name :: next :: ahead) = .failed cause := by
  rw [FileTree.stretch, if_neg hname.notUp, if_pos hname]
  dsimp only
  cases he : t.lookup (l ++ [name]) with
  | none => exact ⟨_, rfl⟩
  | some e =>
    cases e with
    | directory => exact absurd he h.1
    | file bytes => exact ⟨_, rfl⟩
    | link target => exact absurd he (h.2 target)

end EndsWay

theorem SameWays.stretch (h : t.SameWays u) (followLast : Bool) (names : List Text) (l : Location) :
    (∃ cause, t.stretch followLast l names = .failed cause)
      ∨ u.stretch followLast l names = (t.stretch followLast l names).over u := by
  induction names generalizing l with
  | nil => exact .inr rfl
  | cons name ahead ih =>
    by_cases hup : name = wayUp
    · simp only [FileTree.stretch, if_pos hup]
      exact ih _
    by_cases hname : IsName name
    swap
    · simp only [FileTree.stretch, if_neg hup, if_neg hname]
      exact .inl ⟨_, rfl⟩
    by_cases hdir : t.lookup (l ++ [name]) = some .directory
    · simp only [FileTree.stretch, if_neg hup, if_pos hname, hdir, (h.directory _).mp hdir]
      exact ih _
    by_cases hlink : ∃ target, t.lookup (l ++ [name]) = some (.link target)
    · obtain ⟨target, hlink⟩ := hlink
      have hlink' := (h.link _ _).mp hlink
      simp only [FileTree.stretch, if_neg hup, if_pos hname, hlink, hlink']
      right
      split
      · simp [Stretch.over, Found.over, hlink']
      · rfl
    · have hends : t.EndsWay (l ++ [name]) := ⟨hdir, fun target hl => hlink ⟨target, hl⟩⟩
      cases ahead with
      | nil =>
        rw [stretch_last hname hends, stretch_last hname (h.endsWay hends)]
        exact .inr rfl
      | cons next more => exact .inl (stretch_stuck hname hends next more)

theorem SameWays.stretch_eq (h : t.SameWays u) {names : List Text} {s : Stretch}
    (hs : t.stretch followLast l names = s) (hgoes : ∀ cause, s ≠ .failed cause) :
    u.stretch followLast l names = s.over u := by
  rcases h.stretch followLast names l with ⟨cause, hfailed⟩ | hsame
  · exact absurd (hs.symm.trans hfailed) (hgoes cause)
  · rw [hsame, hs]

theorem SameWays.follow (h : t.SameWays u) {n : Nat} {names : List Text}
    (hf : t.follow followLast n l names = .ok found) :
    u.follow followLast n l names = .ok (found.over u) := by
  induction n generalizing l names with
  | zero => simp [FileTree.follow] at hf
  | succ n ih =>
    rcases follow_succ_ok_iff.mp hf with hs | ⟨d, target, ahead, hs, hrest⟩
    · exact follow_succ_ok_iff.mpr (.inl (h.stretch_eq hs (by simp)))
    · exact follow_succ_ok_iff.mpr (.inr ⟨d, target, ahead, h.stretch_eq hs (by simp), ih hrest⟩)

/-- **A path leads the same way in both trees.** -/
theorem SameWays.find (h : t.SameWays u) (hf : t.find here followLast p = .ok found) :
    u.find here followLast p = .ok (found.over u) := by
  rw [find_eq_follow] at hf ⊢
  obtain ⟨hadmitted, hstart, hfollow⟩ := hf
  exact ⟨hadmitted, (h.directory _).mp hstart, h.follow hfollow⟩

/-! ## Writing makes no ways -/

theorem stretch_not_link {names : List Text} {target : Text} (hl : t.lookup l = some .directory)
    (h : t.stretch true l names = .arrived found) : found.entry ≠ some (.link target) := by
  induction names generalizing l with
  | nil =>
    simp only [stretch, Stretch.arrived.injEq] at h
    simp [← h, hl]
  | cons name ahead ih =>
    rcases stretch_cons_iff.mp h with ⟨-, h⟩ | ⟨-, he, h⟩ | ⟨-, ⟨-, hlink⟩, -, rfl⟩
    · exact ih (lookup_dropLast (by simp [hl])) h
    · exact ih he h
    · exact hlink rfl target

theorem follow_not_link {n : Nat} {names : List Text} {target : Text}
    (hl : t.lookup l = some .directory) (h : t.follow true n l names = .ok found) :
    found.entry ≠ some (.link target) := by
  induction n generalizing l names with
  | zero => simp [follow] at h
  | succ n ih =>
    rcases follow_succ_ok_iff.mp h with hs | ⟨directory, _, _, hs, hrest⟩
    · exact stretch_not_link hl hs
    · exact ih (lookup_startOf (lookup_of_detour hl hs)) hrest

/-- A path that is followed to the very end ends at no link. -/
theorem find_not_link {target : Text} (h : t.find here true p = .ok found) :
    found.entry ≠ some (.link target) := by
  obtain ⟨-, hd, hf⟩ := find_eq_follow.mp h
  exact follow_not_link hd hf

theorem sameWays_write {bytes : List UInt8} (h : t.write here p bytes = .ok u) : t.SameWays u := by
  obtain ⟨found, hfind, hdir, hlookup⟩ := write_ok h
  obtain ⟨hstands, -⟩ := find_ok hfind
  rw [hstands] at hdir
  have hlink : ∀ target, t.lookup found.location ≠ some (.link target) := by
    intro target
    rw [← hstands]
    exact find_not_link hfind
  constructor
  · intro l
    rw [hlookup]
    by_cases hl : l = found.location
    · simp [hl, hdir]
    · simp [hl]
  · intro l target
    rw [hlookup]
    by_cases hl : l = found.location
    · simp [hl, hlink target]
    · simp [hl]

end FileTree
end EntityDiagram
