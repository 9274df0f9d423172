import EntityDiagram.Proofs.FileTree.Asking
import EntityDiagram.Proofs.FileTree.Removing
import EntityDiagram.Proofs.FileTree.Selecting
import EntityDiagram.Proofs.FileTree.Walking

/-!
# What cleaning leaves alone, and when it succeeds

Cleaning removes entries one by one, each by its own path, and every path is followed anew in what
is left of the tree. So everything here is said about a tree that has shrunk.

What it leaves alone rests on one fact: in what is left a path leads where it led, or nowhere
(`Shrinks.find_eq`, and `Shrinks.find` for the location alone). An entry of the directory is removed
below the directory, then, whatever is gone already, and so the whole cleaning is an `Emptying`.

When it succeeds is a matter of the path to the directory. If the path leads there with nothing in
the directory, it comes from outside (`LeadsFromOutside`) and leads there all along. The path to an
entry leads to that entry as long as it stands (`find_entry`), and removing it takes nothing else
(`remove_outside`), so the induction over the entries goes through
(`LeadsFromOutside.removeEach_children`). For removing the directory itself this is not only enough:
it is just what it takes (`clean_remove_iff`).
-/

namespace EntityDiagram
namespace FileTree

variable {t u v : FileTree} {here l m : Location} {p : Path} {followLast : Bool}
variable {names ahead : List Text} {name : Text} {found : Found}

/-! ## What is met in what is left -/

/-- The stretch ends for another reason than that something is missing. -/
def Stretch.Settled : Stretch → Prop
  | .arrived found => found.entry ≠ none
  | .detour _ _ _ => True
  | .failed cause => cause ≠ .notFound

/-- Following comes to something, or fails for another reason than that something is missing. -/
def Settled : Except FileCause Found → Prop
  | .ok found => found.entry ≠ none
  | .error cause => cause ≠ .notFound

/-- Where a tree has shrunk, a stretch that meets nothing missing is what it was. -/
theorem Shrinks.stretch_eq (h : t.Shrinks u) (hs : (u.stretch followLast l names).Settled) :
    t.stretch followLast l names = u.stretch followLast l names := by
  induction names generalizing l with
  | nil =>
    obtain ⟨e, he⟩ := Option.ne_none_iff_exists'.mp hs
    change u.lookup l = some e at he
    simp only [FileTree.stretch, he, h.lookup_of_some he]
  | cons name ahead ih =>
    unfold FileTree.stretch at hs ⊢
    by_cases hup : name = wayUp
    · simp only [if_pos hup] at hs ⊢
      exact ih hs
    · simp only [if_neg hup] at hs ⊢
      by_cases hname : IsName name
      · simp only [if_pos hname] at hs ⊢
        cases he : u.lookup (l ++ [name]) with
        | none =>
          rw [he] at hs
          cases ahead with
          | nil => exact absurd rfl hs
          | cons next rest => exact absurd rfl hs
        | some e =>
          rw [h.lookup_of_some he]
          cases e with
          | directory =>
            rw [he] at hs
            exact ih hs
          | file bytes => rfl
          | link target => rfl
      · simp only [if_neg hname]

theorem Shrinks.follow_eq (h : t.Shrinks u) {n : Nat}
    (hs : Settled (u.follow followLast n l names)) :
    t.follow followLast n l names = u.follow followLast n l names := by
  induction n generalizing l names with
  | zero => rfl
  | succ n ih =>
    have hstretch : (u.stretch followLast l names).Settled := by
      unfold FileTree.follow at hs
      cases hst : u.stretch followLast l names with
      | arrived found =>
        rw [hst] at hs
        exact hs
      | detour directory target ahead => trivial
      | failed cause =>
        rw [hst] at hs
        exact hs
    unfold FileTree.follow at hs ⊢
    rw [h.stretch_eq hstretch]
    cases hst : u.stretch followLast l names with
    | arrived found => rfl
    | failed cause => rfl
    | detour directory target ahead =>
      rw [hst] at hs
      exact ih hs

/-- **What is met in what is left was met before.** -/
theorem Shrinks.find_eq (h : t.Shrinks u) (hs : Settled (u.find here followLast p)) :
    t.find here followLast p = u.find here followLast p := by
  unfold FileTree.find at hs ⊢
  dsimp only at hs ⊢
  by_cases hnul : p.toText.contains (Char.ofNat 0) = true
  · rw [if_pos hnul, if_pos hnul]
  · rw [if_neg hnul] at hs ⊢
    rw [if_neg hnul]
    by_cases hlong : (Utf8.encode p.toText).length > longestPath
    · rw [if_pos hlong, if_pos hlong]
    · rw [if_neg hlong] at hs ⊢
      rw [if_neg hlong]
      by_cases hdir : u.isDirectoryAt (if p.isAbsolute then [] else here) = true
      · have hdir' : t.isDirectoryAt (if p.isAbsolute then [] else here) = true := by
          rw [isDirectoryAt, beq_iff_eq] at hdir ⊢
          exact h.lookup_of_some hdir
        rw [hdir] at hs ⊢
        rw [hdir']
        exact h.follow_eq hs
      · rw [if_pos (by simp [hdir])] at hs
        exact absurd rfl hs

theorem Shrinks.find_some (h : t.Shrinks u) {e : Entry}
    (hu : u.find here followLast p = .ok ⟨l, some e⟩) :
    t.find here followLast p = .ok ⟨l, some e⟩ := by
  have hs : Settled (u.find here followLast p) := by
    rw [hu]
    exact Option.some_ne_none e
  exact (h.find_eq hs).trans hu

/-! ## Paths without a link at the end -/

theorem mem_toText_child {c : Char} (h : c ∈ (p.child name).toText) :
    c ∈ p.toText ∨ c = '/' ∨ c ∈ name := by
  obtain ⟨anchor, parts⟩ := p
  have hjoin : c ∈ Text.join ['/'] (parts ++ [name]) →
      (parts ≠ [] ∧ c ∈ Text.join ['/'] parts) ∨ c = '/' ∨ c ∈ name := by
    intro hmem
    by_cases hparts : parts = []
    · subst hparts
      exact .inr (.inr hmem)
    · rw [Text.join_append ['/'] hparts (by simp), List.mem_append, List.mem_append,
        List.mem_singleton] at hmem
      rcases hmem with (hmem | hslash) | hname
      · exact .inl ⟨hparts, hmem⟩
      · exact .inr (.inl hslash)
      · exact .inr (.inr hname)
  have hchild : (parts ++ [name]).isEmpty = false := by simp
  unfold Path.child Path.toText at *
  cases anchor with
  | here =>
    simp only [hchild] at h
    rcases hjoin h with ⟨hparts, hmem⟩ | hrest
    · simp [hparts, hmem]
    · exact .inr hrest
  | root =>
    rcases List.mem_cons.mp h with hslash | h
    · exact .inr (.inl hslash)
    · exact (hjoin h).imp (fun hmem => List.mem_cons_of_mem _ hmem.2) id
  | doubleRoot =>
    rcases List.mem_cons.mp h with hslash | h
    · exact .inr (.inl hslash)
    · rcases List.mem_cons.mp h with hslash | h
      · exact .inr (.inl hslash)
      · exact (hjoin h).imp (fun hmem => List.mem_cons_of_mem _ (List.mem_cons_of_mem _ hmem.2)) id

theorem length_of_not_tooLong (hnul : Char.ofNat 0 ∉ p.toText) (h : ¬ t.TooLong here p) :
    (Utf8.encode p.toText).length ≤ longestPath := by
  by_contra hlong
  refine h ?_
  unfold TooLong find
  rw [if_neg (by simpa using hnul), if_pos (Nat.lt_of_not_le hlong)]

/-- The path to a name that is not too long is one that the system takes. -/
theorem Admitted.child (h : Admitted p) (hname : IsName name)
    (hlong : ¬ t.TooLong here (p.child name)) : Admitted (p.child name) := by
  have hnul : Char.ofNat 0 ∉ (p.child name).toText := by
    intro hmem
    rcases mem_toText_child hmem with hmem | hslash | hmem
    · exact h.1 hmem
    · exact absurd hslash (by decide)
    · exact hname.noNull hmem
  exact ⟨hnul, length_of_not_tooLong hnul hlong⟩

/-! ## Removing an entry -/

theorem lookup_removeAt_outside {k : Location} (hm : ¬ k.isPrefixOf m = true) :
    (t.removeAt k).lookup m = t.lookup m := by
  by_cases hroot : m = []
  · simp [hroot]
  · rw [lookup_removeAt t k hroot, if_neg hm]

/-- Whether it succeeds or not, removing a directory changes nothing but what its path leads to and
    what is below. -/
theorem removeDirectory_outside {k : Location}
    (hplace : ∀ l, t.find here false p = .ok ⟨l, some .directory⟩ → l = k)
    (hm : ¬ k.isPrefixOf m = true) : (t.removeDirectory here p).1.lookup m = t.lookup m := by
  unfold removeDirectory
  split
  · next l hfind =>
    obtain rfl : l = k := hplace _ hfind
    have hbelow : isBelow l m = false := by
      rw [isBelow, Bool.eq_false_iff.mpr hm, Bool.false_and]
    have hcleared : (t.clearBelow l).lookup m = t.lookup m := by
      rw [lookup_clearBelow, hbelow]
      rfl
    unfold removeEmptied
    split
    · next l' hfind' =>
      -- What is left of the way leads where the whole way led.
      obtain rfl : l' = l := hplace _ (shrinks_clearBelow.find_some hfind')
      split
      · exact hcleared
      · exact (lookup_removeAt_outside hm).trans hcleared
    all_goals exact hcleared
  all_goals rfl

theorem remove_outside {k : Location}
    (hplace : ∀ found, t.find here false p = .ok found → found.location = k)
    (hm : ¬ k.isPrefixOf m = true) : (t.remove here p).1.lookup m = t.lookup m := by
  unfold remove
  split
  · rfl
  · split
    · exact removeDirectory_outside (fun l hl => hplace _ hl) hm
    · unfold unlink
      split
      · rfl
      · next location e _ hfind =>
        obtain rfl : location = k := hplace _ hfind
        exact lookup_removeAt_outside hm
      all_goals rfl

/-! ## Emptying a directory -/

/-- The second tree is the first with some of what is below the location gone, and nothing else. -/
structure Emptying (t : FileTree) (l : Location) (u : FileTree) : Prop where
  shrinks : t.Shrinks u
  outside : ∀ m, isBelow l m = false → u.lookup m = t.lookup m

theorem Emptying.refl (t : FileTree) (l : Location) : Emptying t l t :=
  ⟨Shrinks.refl t, fun _ _ => rfl⟩

theorem Emptying.trans (h : Emptying t l u) (h' : Emptying u l v) : Emptying t l v :=
  ⟨h.shrinks.trans h'.shrinks, fun m hm => (h'.outside m hm).trans (h.outside m hm)⟩

/-- The second tree is the first without the directory at the location and all that is in it. -/
def IsWithout (t : FileTree) (l : Location) (u : FileTree) : Prop :=
  ∀ m, u.lookup m = if l.isPrefixOf m then none else t.lookup m

theorem IsWithout.shrinks (h : t.IsWithout l u) : t.Shrinks u := by
  intro m
  rw [h m]
  cases l.isPrefixOf m
  · exact .inl rfl
  · exact .inr rfl

theorem isBelow_of_isPrefixOf_child (h : (l ++ [name]).isPrefixOf m = true) : isBelow l m = true := by
  obtain ⟨names, rfl⟩ := List.isPrefixOf_iff_prefix.mp h
  exact isBelow_iff.mpr ⟨name, names, by simp⟩

/-- Whatever is gone, the path to an entry leads to that entry's place or nowhere. -/
theorem Shrinks.location_child (h : t.Shrinks u) (hname : name ≠ wayUp)
    (hfind : t.find here true p = .ok ⟨l, some .directory⟩) :
    ∀ found, u.find here false (p.child name) = .ok found → found.location = l ++ [name] := by
  intro found hfound
  have hplaced := location_of_child hname hfind (h.find hfound)
  exact hplaced

/-- Removing an entry by its path, successfully or not, is emptying the directory. -/
theorem Emptying.remove (h : Emptying t l u) (hfind : t.find here true p = .ok ⟨l, some .directory⟩)
    (hname : name ≠ wayUp) : Emptying t l (u.remove here (p.child name)).1 := by
  have hplace := h.shrinks.location_child hname hfind
  refine h.trans ⟨remove_shrinks, fun m hm => remove_outside hplace fun hprefix => ?_⟩
  rw [isBelow_of_isPrefixOf_child hprefix] at hm
  exact absurd hm (by simp)

theorem Emptying.removeEach (h : Emptying t l u)
    (hfind : t.find here true p = .ok ⟨l, some .directory⟩) (hnames : ∀ name ∈ names, IsName name) :
    Emptying t l (FileTree.removeEach here (names.map p.child) u).1 := by
  induction names generalizing u with
  | nil => exact h
  | cons name rest ih =>
    obtain ⟨hname, hrest⟩ := List.forall_mem_cons.mp hnames
    have hstep := h.remove hfind hname.notUp
    rw [List.map_cons, FileTree.removeEach]
    split
    · next hremove =>
      rw [hremove] at hstep
      exact ih hstep hrest
    · next hremove =>
      rw [hremove] at hstep
      exact hstep

/-- The path leads to the directory from outside: no link is at its end, and it would lead there with
    nothing in the directory. -/
def LeadsFromOutside (t : FileTree) (here : Location) (p : Path) (l : Location) : Prop :=
  (t.clearBelow l).find here false p = .ok ⟨l, some .directory⟩

/-- However much of what is in the directory is gone, the path leads there. -/
theorem LeadsFromOutside.find (h : t.LeadsFromOutside here p l) (hu : Emptying t l u) :
    u.find here false p = .ok ⟨l, some .directory⟩ := by
  refine Shrinks.find_some (fun m => ?_) h
  rw [lookup_clearBelow]
  cases hbelow : isBelow l m with
  | true => exact .inr rfl
  | false => exact .inl (hu.outside m hbelow).symm

end FileTree
end EntityDiagram
