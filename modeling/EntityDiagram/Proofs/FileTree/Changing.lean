import EntityDiagram.Proofs.FileTree.Following

/-!
# What an operation changes

Each operation that adds to a tree has one statement here that says all it does, read off `lookup`:
writing puts a file at the one location the path leads to (`write_ok`), and making directories only
adds directories where nothing stood (`makeDirectories_grows`). Writing that fails leaves the tree as
it was. Directories made before a fault stay, and the statement about them is about the tree that is
left either way.

Often it suffices that nothing new stands in the tree but directories. That is `NoNewFiles`.
-/

namespace EntityDiagram
namespace FileTree

variable {t u v : FileTree} {here l : Location} {p : Path}

/-! ## Writing -/

theorem canPut_of_standing {found : Found} (h : found.Standing t)
    (hno : found.entry ≠ some .directory) : t.canPut found.location = true := by
  obtain ⟨hentry, hparent, hnamed⟩ := h
  rw [hentry] at hno
  have hne : found.location ≠ [] := by
    intro hnil
    rw [hnil] at hno
    exact hno (lookup_nil t)
  simpa [canPut, isDirectoryAt, hparent, hno, hne] using hnamed

theorem write_ok {bytes : List UInt8} (h : t.write here p bytes = .ok u) :
    ∃ found, t.find here true p = .ok found ∧ found.entry ≠ some .directory
      ∧ ∀ m, u.lookup m = if m = found.location then some (.file bytes) else t.lookup m := by
  unfold write at h
  split at h
  · exact absurd h (by simp)
  · next found hno hfind =>
    simp only [Except.ok.injEq] at h
    have hdir : found.entry ≠ some .directory := by
      intro hd
      exact hno found.location (by rw [← hd])
    exact ⟨found, hfind, hdir, h ▸ lookup_put (canPut_of_standing (find_ok hfind) hdir)⟩
  · exact absurd h (by simp)

/-- Writing fails where the path leads to a directory, and otherwise only where it leads nowhere. -/
theorem write_error {bytes : List UInt8} {f : FileFault} {found : Found}
    (h : t.write here p bytes = .error f) (hfind : t.find here true p = .ok found) :
    found.entry = some .directory := by
  obtain ⟨location, entry⟩ := found
  unfold write at h
  rw [hfind] at h
  cases entry with
  | none => simp at h
  | some e =>
    cases e with
    | directory => rfl
    | file bytes => simp at h
    | link target => simp at h

/-- Writing succeeds where the path leads to anything but a directory, be it nothing. -/
theorem write_of_find {bytes : List UInt8} {found : Found} (h : t.find here true p = .ok found)
    (hno : found.entry ≠ some .directory) : ∃ u, t.write here p bytes = .ok u := by
  obtain ⟨location, entry⟩ := found
  unfold write
  rw [h]
  cases entry with
  | none => exact ⟨_, rfl⟩
  | some e =>
    cases e with
    | directory => exact absurd rfl hno
    | file _ => exact ⟨_, rfl⟩
    | link _ => exact ⟨_, rfl⟩

theorem writeAgainst_ok_iff {obstacle : Option Obstacle} {bytes : List UInt8} :
    t.writeAgainst here obstacle p bytes = (u, none)
      ↔ obstacle = none ∧ t.write here p bytes = .ok u := by
  unfold writeAgainst
  rcases obstacle with _ | f | ⟨taken, f⟩
  · cases t.write here p bytes <;> simp
  · simp
  · dsimp only
    cases t.write here p (bytes.take taken) <;> simp

theorem writeAgainst_of_error {bytes : List UInt8} {f : FileFault}
    (h : t.write here p bytes = .error f) : t.writeAgainst here none p bytes = (t, some f) := by
  unfold writeAgainst
  rw [h]

/-- Where nothing can be written nothing is, whatever the obstacle. -/
theorem writeAgainst_of_ne_ok {obstacle : Option Obstacle} {bytes : List UInt8}
    (h : ∀ part u, t.write here p part ≠ .ok u) : (t.writeAgainst here obstacle p bytes).1 = t := by
  unfold writeAgainst
  split
  · split
    · next hwrite => exact absurd hwrite (h _ _)
    · rfl
  · rfl
  · split
    · next hwrite => exact absurd hwrite (h _ _)
    · rfl

/-- A write takes the place of no directory. -/
theorem directory_of_write {bytes : List UInt8} (h : t.write here p bytes = .ok u)
    (hl : t.lookup l = some .directory) : u.lookup l = some .directory := by
  obtain ⟨found, hfind, hno, hlookup⟩ := write_ok h
  rw [hlookup, if_neg]
  · exact hl
  · rintro rfl
    rw [(find_ok hfind).entry] at hno
    exact hno hl

/-- Writing what a file holds already leaves everything as it is. -/
theorem write_again {bytes : List UInt8} (h : t.find here true p = .ok ⟨l, some (.file bytes)⟩) :
    ∃ u, t.write here p bytes = .ok u ∧ ∀ m, u.lookup m = t.lookup m := by
  obtain ⟨u, hu⟩ : ∃ u, t.write here p bytes = .ok u := write_of_find h (by simp)
  refine ⟨u, hu, fun m => ?_⟩
  obtain ⟨found, hfind, -, hlookup⟩ := write_ok hu
  obtain rfl : ⟨l, some (.file bytes)⟩ = found := Except.ok.inj (h.symm.trans hfind)
  rw [hlookup]
  split
  · next hm => rw [hm, ← (find_ok h).entry]
  · rfl

/-! ## Making directories -/

/-- The second tree is the first with directories where nothing stood. -/
def Grows (t u : FileTree) : Prop :=
  ∀ m, u.lookup m = t.lookup m ∨ t.lookup m = none ∧ u.lookup m = some .directory

theorem Grows.refl (t : FileTree) : t.Grows t := fun _ => .inl rfl

theorem Grows.trans (h : t.Grows u) (h' : u.Grows v) : t.Grows v := by
  intro m
  rcases h' m with heq | ⟨hnone, hdir⟩
  · rcases h m with heq' | ⟨hnone', hdir'⟩
    · exact .inl (heq.trans heq')
    · exact .inr ⟨hnone', heq.trans hdir'⟩
  · rcases h m with heq' | ⟨-, hdir'⟩
    · exact .inr ⟨heq' ▸ hnone, hdir⟩
    · rw [hnone] at hdir'
      exact absurd hdir' (by simp)

/-- What stands in a tree stands in it when it has grown. -/
theorem Grows.lookup_of_some {e : Entry} (h : t.Grows u) (he : t.lookup l = some e) :
    u.lookup l = some e := by
  rcases h l with heq | ⟨hnone, -⟩
  · exact heq.trans he
  · rw [hnone] at he
    exact absurd he (by simp)

theorem makeDirectory_grows (h : t.makeDirectory here p = .ok u) : t.Grows u := by
  unfold makeDirectory at h
  split at h
  · next location hfind =>
    simp only [Except.ok.injEq] at h
    subst h
    have hstands := find_ok hfind
    intro m
    rw [lookup_put (canPut_of_standing hstands (by simp))]
    by_cases hm : m = location
    · subst hm
      exact .inr ⟨hstands.1.symm, if_pos rfl⟩
    · exact .inl (if_neg hm)
  · exact absurd h (by simp)
  · exact absurd h (by simp)

theorem unlessThere_fst {f : FileFault} : (t.unlessThere here p f).1 = t := by
  unfold unlessThere
  split <;> rfl

/-- What holds of making any one directory on a way, and of doing nothing, and of doing one after the
    other, holds of making the way. The induction is on the way; where a part of it had to be made
    first, two steps are put together. -/
theorem makeWay_induction {R : FileTree → FileTree → Prop} (refl : ∀ t, R t t)
    (trans : ∀ {t u v}, R t u → R u v → R t v) {anchor : Anchor} {names : List Text}
    (make : ∀ front, front <+: names.reverse → ∀ {t u},
      t.makeDirectory here ⟨anchor, front⟩ = .ok u → R t u) :
    R t (makeWay here anchor names t).1 := by
  induction names with
  | nil =>
    unfold makeWay
    dsimp only
    split
    · next h => exact make [] List.prefix_rfl h
    · split
      · exact refl t
      · rw [unlessThere_fst]
        exact refl t
  | cons name up ih =>
    have hup : R t (makeWay here anchor up t).1 := ih fun front hfront =>
      make front (hfront.trans (by rw [List.reverse_cons]; exact List.prefix_append _ _))
    unfold makeWay
    dsimp only
    split
    · next h => exact make _ List.prefix_rfl h
    · split
      · split
        · next hway =>
          rw [hway] at hup
          exact hup
        · next hway =>
          rw [hway] at hup
          split
          · next h => exact trans hup (make _ List.prefix_rfl h)
          · split
            · exact hup
            · rw [unlessThere_fst]
              exact hup
      · rw [unlessThere_fst]
        exact refl t

theorem makeWay_grows {anchor : Anchor} {names : List Text} :
    t.Grows (makeWay here anchor names t).1 :=
  makeWay_induction Grows.refl Grows.trans fun _ _ _ _ h => makeDirectory_grows h

theorem makeDirectories_grows : t.Grows (t.makeDirectories here p).1 := makeWay_grows

/-- A directory that is there already is not made again. -/
theorem makeDirectories_of_directory (hlinks : t.NoLinks)
    (h : t.find here true p = .ok ⟨l, some .directory⟩) :
    t.makeDirectories here p = (t, none) := by
  have hthere : t.makeDirectory here p = .error (faultAt p .alreadyThere) := by
    unfold makeDirectory
    rw [find_followLast hlinks h false]
  have hdir : t.isDirectory here p = .ok true := by
    unfold isDirectory probe
    rw [h]
    rfl
  have hunless : ∀ f, t.unlessThere here p f = (t, none) := by
    intro f
    unfold unlessThere
    rw [hdir]
  -- What keeps the attempt from making it is that it is there, so no parent is tried.
  have hcause : (faultAt p .alreadyThere).cause ≠ .notFound := by
    simp [faultAt]
  have hway : ∀ names : List Text, p.parts = names.reverse →
      makeWay here p.anchor names t = (t, none) := by
    intro names hnames
    have hp : (⟨p.anchor, names.reverse⟩ : Path) = p := by
      rw [← hnames]
    cases names with
    | nil =>
      unfold makeWay
      simp only [List.reverse_nil] at hp
      simp only [hp, hthere, if_neg hcause, hunless]
    | cons name up =>
      unfold makeWay
      simp only [hp, hthere, if_neg hcause, hunless]
  exact hway p.parts.reverse (by simp)

/-! ## Nothing new but directories -/

/-- Whatever stands in the second tree and is no directory stands in the first one too. -/
def NoNewFiles (t u : FileTree) : Prop :=
  ∀ m e, u.lookup m = some e → e ≠ .directory → t.lookup m = some e

theorem Grows.noNewFiles (h : t.Grows u) : t.NoNewFiles u := by
  intro m e he hno
  rcases h m with heq | ⟨-, hdir⟩
  · exact heq ▸ he
  · rw [hdir, Option.some.injEq] at he
    exact absurd he.symm hno

theorem NoLinks.of_noNewFiles (hlinks : t.NoLinks) (h : t.NoNewFiles u) : u.NoLinks := by
  intro m target hm
  exact hlinks m target (h m _ hm (by simp))

theorem noLinks_empty : FileTree.empty.NoLinks := by
  intro m target hm
  by_cases hne : m = []
  · simp [hne] at hm
  · rw [lookup_of_ne hne] at hm
    exact absurd hm (by simp [FileTree.empty])

theorem NoLinks.put {e : Entry} (hlinks : t.NoLinks) (he : ∀ target, e ≠ .link target) :
    (t.put l e).NoLinks := by
  cases hput : t.canPut l with
  | false =>
    rw [put_of_not_canPut hput]
    exact hlinks
  | true =>
    intro m target hm
    rw [lookup_put hput] at hm
    split at hm
    · exact he target (Option.some.inj hm)
    · exact hlinks m target hm

theorem NoLinks.write {bytes : List UInt8} (hlinks : t.NoLinks)
    (h : t.write here p bytes = .ok u) : u.NoLinks := by
  obtain ⟨found, -, -, hlookup⟩ := write_ok h
  intro m target hm
  rw [hlookup] at hm
  split at hm
  · simp at hm
  · exact hlinks m target hm

end FileTree
end EntityDiagram
