import EntityDiagram.Proofs.FileTree.Changing

/-!
# What cleaning removes

Cleaning removes the entries of a directory one after the other, each by a path of its own, and every
removal changes the tree in which the next path is followed. What makes it come out right all the
same is that removing opens no new ways: a path that leads somewhere in what is left led to the same
location before (`Shrinks.find`), with links anywhere. So a removal that succeeds has taken away what
the path named from the start, and cleaning that succeeds has taken away everything in the directory
and nothing else (`clean_keep_ok`).

Cleaning that fails half-way leaves something in between. Of that it is said here only that nothing
stands in it which did not stand there before (`shrinks_of_clean`).
-/

namespace EntityDiagram
namespace FileTree

variable {t u v : FileTree} {here l m : Location} {p : Path} {found : Found}
variable {names ahead : List Text} {name : Text}

/-! ## Trees with something gone -/

/-- The second tree is the first with some of it gone. -/
def Shrinks (t u : FileTree) : Prop :=
  ∀ m, u.lookup m = t.lookup m ∨ u.lookup m = none

theorem Shrinks.refl (t : FileTree) : t.Shrinks t := fun _ => .inl rfl

theorem Shrinks.trans (h : t.Shrinks u) (h' : u.Shrinks v) : t.Shrinks v := by
  intro m
  rcases h' m with heq | hnone
  · exact (h m).imp heq.trans heq.trans
  · exact .inr hnone

theorem Shrinks.lookup_of_some {e : Entry} (h : t.Shrinks u) (he : u.lookup l = some e) :
    t.lookup l = some e := by
  rcases h l with heq | hnone
  · exact heq ▸ he
  · rw [hnone] at he
    exact absurd he (by simp)

theorem shrinks_clearBelow : t.Shrinks (t.clearBelow l) := by
  intro m
  rw [lookup_clearBelow]
  split
  · exact .inr rfl
  · exact .inl rfl

theorem shrinks_removeAt : t.Shrinks (t.removeAt l) := by
  intro m
  by_cases hm : m = []
  · simp [hm]
  · rw [lookup_removeAt t l hm]
    split
    · exact .inr rfl
    · exact .inl rfl

theorem Shrinks.noNewFiles (h : t.Shrinks u) : t.NoNewFiles u :=
  fun _ _ he _ => h.lookup_of_some he

/-! ## Ways in what is left -/

/-- What a stretch was like before the tree shrank. Of a stretch that fails now nothing is said. -/
def Stretch.Was (t : FileTree) (now before : Stretch) : Prop :=
  match now with
  | .arrived found => before = .arrived ⟨found.location, t.lookup found.location⟩
  | .detour directory target ahead => before = .detour directory target ahead
  | .failed _ => True

theorem Shrinks.stretch (h : t.Shrinks u) :
    (u.stretch false l names).Was t (t.stretch false l names) := by
  induction names generalizing l with
  | nil => rfl
  | cons name ahead ih =>
    unfold FileTree.stretch
    split
    · exact ih
    · split
      · -- What stands in the tree that is left stood there, so only a name that is gone is open.
        dsimp only
        cases he : u.lookup (l ++ [name]) with
        | none =>
          cases ahead with
          | cons next rest => trivial
          | nil =>
            cases hbefore : t.lookup (l ++ [name]) with
            | none => simp [Stretch.Was, hbefore]
            | some e => cases e <;> simp [Stretch.Was, FileTree.stretch, hbefore]
        | some e =>
          rw [h.lookup_of_some he]
          cases e with
          | directory => exact ih
          | file bytes =>
            cases ahead with
            | nil => simp [Stretch.Was, h.lookup_of_some he]
            | cons next rest => trivial
          | link target =>
            cases ahead with
            | nil => simp [Stretch.Was, h.lookup_of_some he]
            | cons next rest => rfl
      · trivial

theorem Shrinks.follow (h : t.Shrinks u) {n : Nat} (hu : u.follow false n l names = .ok found) :
    t.follow false n l names = .ok ⟨found.location, t.lookup found.location⟩ := by
  induction n generalizing l names with
  | zero => simp [FileTree.follow] at hu
  | succ n ih =>
    have hwas : (u.stretch false l names).Was t (t.stretch false l names) := h.stretch
    rcases follow_succ_ok_iff.mp hu with hs | ⟨directory, target, ahead, hs, hrest⟩
    · rw [hs] at hwas
      exact follow_succ_ok_iff.mpr (.inl hwas)
    · rw [hs] at hwas
      exact follow_succ_ok_iff.mpr (.inr ⟨directory, target, ahead, hwas, ih hrest⟩)

/-- **Removing opens no new ways.** -/
theorem Shrinks.find (h : t.Shrinks u) (hu : u.find here false p = .ok found) :
    t.find here false p = .ok ⟨found.location, t.lookup found.location⟩ := by
  obtain ⟨hadmitted, hstart, hfollow⟩ := find_eq_follow.mp hu
  exact find_eq_follow.mpr ⟨hadmitted, h.lookup_of_some hstart, h.follow hfollow⟩

/-! ## Names in a directory -/

/-- A stretch with one name more goes as far as the stretch did, and on from there. -/
def Stretch.onward (t : FileTree) (name : Text) : Stretch → Stretch
  | .arrived found => match found.entry with
    | some .directory => t.stretch false found.location [name]
    | some _ => .failed .notDirectory
    | none => .failed .notFound
  | .detour directory target ahead => .detour directory target (ahead ++ [name])
  | .failed cause => .failed cause

theorem stretch_onward (hl : t.lookup l = some .directory) :
    t.stretch false l (names ++ [name]) = (t.stretch true l names).onward t name := by
  induction names generalizing l with
  | nil => simp [stretch, Stretch.onward, hl]
  | cons first ahead ih =>
    rw [List.cons_append]
    conv => lhs; unfold stretch
    conv => rhs; unfold stretch
    have hmore : (ahead ++ [name]).isEmpty = false := by simp
    split
    · exact ih (lookup_dropLast (by simp [hl]))
    · split
      · dsimp only
        rw [hmore]
        split
        · cases ahead <;> rfl
        · next he => exact ih he
        · cases ahead <;> rfl
        · cases ahead <;> rfl
      · rfl

theorem location_of_stretch_name (hname : name ≠ wayUp)
    (h : t.stretch false l [name] = .arrived found) : found.location = l ++ [name] := by
  rw [stretch, if_neg hname] at h
  split at h
  · dsimp only at h
    split at h <;> exact (congrArg Found.location (Stretch.arrived.inj h)).symm
  · exact absurd h (by simp)

theorem stretch_name_ne_detour {d : Location} {target : Text} (hname : name ≠ wayUp) :
    t.stretch false l [name] ≠ .detour d target ahead := by
  intro h
  rw [stretch, if_neg hname] at h
  split at h
  · dsimp only at h
    split at h <;> simp [stretch] at h
  · exact absurd h (by simp)

/-- Following one name more: on from where the first stretch arrived, or from where it was left. -/
theorem follow_snoc_of_arrived {n : Nat} (hl : t.lookup l = some .directory)
    (hs : t.stretch true l names = .arrived ⟨m, some .directory⟩) :
    t.follow false (n + 1) l (names ++ [name]) = t.follow false (n + 1) m [name] := by
  rw [FileTree.follow, stretch_onward hl, hs, FileTree.follow]
  rfl

theorem follow_snoc_of_detour {n : Nat} {directory : Location} {target : Text}
    (hl : t.lookup l = some .directory)
    (hs : t.stretch true l names = .detour directory target ahead) :
    t.follow false (n + 1) l (names ++ [name])
      = t.follow false n (startOf directory (Path.ofText target))
          ((Path.ofText target).parts ++ ahead ++ [name]) := by
  rw [FileTree.follow, stretch_onward hl, hs, List.append_assoc]
  rfl

theorem location_of_follow_name {n : Nat} (hname : name ≠ wayUp)
    (h : t.follow false n l [name] = .ok found) : found.location = l ++ [name] := by
  cases n with
  | zero => simp [FileTree.follow] at h
  | succ n =>
    rcases follow_succ_ok_iff.mp h with hs | ⟨_, _, _, hs, -⟩
    · exact location_of_stretch_name hname hs
    · exact absurd hs (stretch_name_ne_detour hname)

theorem follow_name {n : Nat} (hname : name ≠ wayUp) (hl : t.lookup l = some .directory)
    (h : t.follow true n l names = .ok ⟨m, some .directory⟩)
    (hchild : t.follow false n l (names ++ [name]) = .ok found) : found.location = m ++ [name] := by
  induction n generalizing l names with
  | zero => simp [follow] at h
  | succ n ih =>
    rcases follow_succ_ok_iff.mp h with hs | ⟨directory, target, ahead, hs, hrest⟩
    · rw [follow_snoc_of_arrived hl hs] at hchild
      exact location_of_follow_name hname hchild
    · rw [follow_snoc_of_detour hl hs] at hchild
      exact ih (lookup_startOf (lookup_of_detour hl hs)) hrest hchild

/-- The path to a name in a directory leads to that name, with links anywhere. -/
theorem location_of_child (hname : name ≠ wayUp)
    (h : t.find here true p = .ok ⟨l, some .directory⟩)
    (hchild : t.find here false (p.child name) = .ok found) : found.location = l ++ [name] := by
  obtain ⟨-, hstart, hfollow⟩ := find_eq_follow.mp h
  obtain ⟨-, -, hfollow'⟩ := find_eq_follow.mp hchild
  exact follow_name hname hstart hfollow hfollow'

/-! ## Removing -/

theorem removeEmptied_shrinks : t.Shrinks (t.removeEmptied here p).1 := by
  unfold removeEmptied
  split
  · split
    · exact Shrinks.refl t
    · exact shrinks_removeAt
  all_goals exact Shrinks.refl t

theorem removeDirectory_shrinks : t.Shrinks (t.removeDirectory here p).1 := by
  unfold removeDirectory
  split
  · exact shrinks_clearBelow.trans removeEmptied_shrinks
  all_goals exact Shrinks.refl t

theorem unlink_shrinks : t.Shrinks (t.unlink here p).1 := by
  unfold unlink
  split
  · exact Shrinks.refl t
  · exact shrinks_removeAt
  all_goals exact Shrinks.refl t

theorem remove_shrinks : t.Shrinks (t.remove here p).1 := by
  unfold remove
  split
  · exact Shrinks.refl t
  · split
    · exact removeDirectory_shrinks
    · exact unlink_shrinks

theorem removeEach_shrinks {paths : List Path} : t.Shrinks (removeEach here paths t).1 := by
  induction paths generalizing t with
  | nil => exact Shrinks.refl t
  | cons p rest ih =>
    have hfirst : t.Shrinks (t.remove here p).1 := remove_shrinks
    unfold removeEach
    split
    · next hremove => exact (hremove ▸ hfirst).trans ih
    · next hremove => exact hremove ▸ hfirst

theorem removeEmptied_ok (h : t.removeEmptied here p = (u, none)) :
    ∃ l, t.find here false p = .ok ⟨l, some .directory⟩ ∧ u = t.removeAt l := by
  unfold removeEmptied at h
  split at h
  · next l hfind =>
    split at h
    · exact absurd (congrArg Prod.snd h) (by simp)
    · exact ⟨l, hfind, (congrArg Prod.fst h).symm⟩
  all_goals exact absurd (congrArg Prod.snd h) (by simp)

/-- A directory that is removed is gone with all that was in it. -/
theorem removeDirectory_ok (h : t.removeDirectory here p = (u, none)) :
    ∃ l, t.find here false p = .ok ⟨l, some .directory⟩
      ∧ ∀ m, m ≠ [] → u.lookup m = if l.isPrefixOf m then none else t.lookup m := by
  unfold removeDirectory at h
  split at h
  · next l hfind =>
    obtain ⟨l', hfind', rfl⟩ := removeEmptied_ok h
    -- What is left of the way leads to the directory that was emptied.
    have hsame := (shrinks_clearBelow (t := t) (l := l)).find hfind'
    rw [hfind] at hsame
    obtain rfl : l = l' := congrArg Found.location (Except.ok.inj hsame)
    refine ⟨l, hfind, fun m hm => ?_⟩
    rw [lookup_removeAt _ _ hm, lookup_clearBelow]
    by_cases hbelow : l.isPrefixOf m = true
    · simp [hbelow]
    · simp [hbelow, isBelow]
  all_goals exact absurd (congrArg Prod.snd h) (by simp)

theorem unlink_ok (h : t.unlink here p = (u, none)) :
    ∃ found, t.find here false p = .ok found ∧ u = t.removeAt found.location := by
  unfold unlink at h
  split at h
  · exact absurd (congrArg Prod.snd h) (by simp)
  · next l e _ hfind => exact ⟨_, hfind, (congrArg Prod.fst h).symm⟩
  all_goals exact absurd (congrArg Prod.snd h) (by simp)

/-- What is removed is gone, and all that was below it. -/
theorem remove_ok (h : t.remove here p = (u, none)) :
    ∃ found, t.find here false p = .ok found
      ∧ ∀ m, m ≠ [] → u.lookup m = if found.location.isPrefixOf m then none else t.lookup m := by
  unfold remove at h
  split at h
  · exact absurd (congrArg Prod.snd h) (by simp)
  · split at h
    · obtain ⟨l, hfind, hlookup⟩ := removeDirectory_ok h
      exact ⟨_, hfind, hlookup⟩
    · obtain ⟨found, hfind, rfl⟩ := unlink_ok h
      exact ⟨found, hfind, fun m hm => lookup_removeAt t _ hm⟩

/-- Removing names from a directory removes what is at these names and below. The tree has shrunk
    since the directory was found, and each removal shrinks it further. -/
theorem removeEach_ok (hfind : t.find here true p = .ok ⟨l, some .directory⟩) (hu : t.Shrinks u)
    (hnames : ∀ name ∈ names, IsName name)
    (h : removeEach here (names.map p.child) u = (v, none)) (m : Location) :
    v.lookup m
      = if names.any fun name => (l ++ [name]).isPrefixOf m then none else u.lookup m := by
  induction names generalizing u with
  | nil =>
    have hv : u = v := congrArg Prod.fst h
    simp [hv]
  | cons name rest ih =>
    obtain ⟨hname, hrest⟩ := List.forall_mem_cons.mp hnames
    rw [List.map_cons, removeEach] at h
    split at h
    · next w hremove =>
      have hw : t.Shrinks w := by
        have hshrinks : u.Shrinks (u.remove here (p.child name)).1 := remove_shrinks
        rw [hremove] at hshrinks
        exact hu.trans hshrinks
      obtain ⟨found, hchild, hlookup⟩ := remove_ok hremove
      have hplace := location_of_child hname.notUp hfind (hu.find hchild)
      dsimp only at hplace
      rw [ih hw hrest h, List.any_cons]
      by_cases hm : m = []
      · simp [hm]
      · rw [hlookup m hm, hplace]
        cases (l ++ [name]).isPrefixOf m <;> simp
    · exact absurd (congrArg Prod.snd h) (by simp)

/-! ## Cleaning -/

/-- Whatever stands below a directory stands at one of its names or below. -/
theorem exists_namesIn_of_isBelow (hbelow : isBelow l m = true) (h : t.lookup m ≠ none) :
    ∃ name ∈ t.namesIn l, (l ++ [name]).isPrefixOf m = true := by
  obtain ⟨name, names, rfl⟩ := isBelow_iff.mp hbelow
  have hsplit : l ++ name :: names = l ++ [name] ++ names := by simp
  refine ⟨name, mem_namesIn.mpr ?_, List.isPrefixOf_iff_prefix.mpr ⟨names, hsplit.symm⟩⟩
  cases names with
  | nil => exact h
  | cons next rest =>
    rw [hsplit] at h
    rw [lookup_of_append h]
    simp

theorem emptyDirectory_ok (h : t.emptyDirectory here p = (u, none)) :
    ∃ l, t.find here true p = .ok ⟨l, some .directory⟩
      ∧ ∀ m, u.lookup m = if isBelow l m then none else t.lookup m := by
  unfold emptyDirectory at h
  split at h
  · next l hfind =>
    refine ⟨l, hfind, fun m => ?_⟩
    rw [removeEach_ok hfind (Shrinks.refl t) (fun _ => isName_of_mem_namesIn) h]
    by_cases hbelow : isBelow l m = true
    · rw [if_pos hbelow]
      split
      · rfl
      · next hno =>
        by_contra hthere
        obtain ⟨name, hname, hprefix⟩ := exists_namesIn_of_isBelow hbelow hthere
        exact hno (List.any_eq_true.mpr ⟨name, hname, hprefix⟩)
    · rw [if_neg hbelow, if_neg]
      intro hany
      obtain ⟨name, -, hprefix⟩ := List.any_eq_true.mp hany
      obtain ⟨names, rfl⟩ := List.isPrefixOf_iff_prefix.mp hprefix
      exact hbelow (isBelow_iff.mpr ⟨name, names, by simp⟩)
  all_goals exact absurd (congrArg Prod.snd h) (by simp)

/-- Whether it fails or not, cleaning adds nothing. -/
theorem shrinks_of_clean {keep : Bool} {fault : Option FileFault}
    (h : t.clean here p keep = (u, fault)) : t.Shrinks u := by
  rw [show u = (t.clean here p keep).1 from (congrArg Prod.fst h).symm]
  unfold clean
  split
  · exact Shrinks.refl t
  · exact Shrinks.refl t
  · split
    · unfold emptyDirectory
      split
      · exact removeEach_shrinks
      all_goals exact Shrinks.refl t
    · exact removeDirectory_shrinks

/-- **Cleaning** a directory that is kept takes away all that is in it and nothing else, and if the
    path leads to no directory it does nothing. -/
theorem clean_keep_ok (h : t.clean here p true = (u, none)) :
    (∃ l, t.find here true p = .ok ⟨l, some .directory⟩
        ∧ ∀ m, u.lookup m = if isBelow l m then none else t.lookup m)
      ∨ (∀ l, t.find here true p ≠ .ok ⟨l, some .directory⟩) ∧ u = t := by
  unfold clean at h
  split at h
  · exact absurd (congrArg Prod.snd h) (by simp)
  · next he =>
    refine .inr ⟨?_, (congrArg Prod.fst h).symm⟩
    intro l hfind
    have hthere : t.existsAt here p = .ok true := by
      unfold existsAt probe
      rw [hfind]
      rfl
    rw [hthere] at he
    exact absurd he (by simp)
  · rw [if_pos rfl] at h
    exact .inl (emptyDirectory_ok h)

end FileTree
end EntityDiagram
