import EntityDiagram.Text.Utf8

/-!
# File trees

A file tree says what stands at each location: a directory, a file with its bytes, or a symbolic
link with the text of its target. A location is the list of names from the root, so the locations
below a directory are those its own is a prefix of, and emptying or removing a directory is a filter
on locations. The root itself is always a directory and is not listed.

Three things are part of what a file tree is. No location is listed twice; whatever is listed stands
in a directory that is listed too; and its names are names as a file system has them (`IsName`). The
second is what makes statements about what lies *below* a directory statements about real directories
only: no location below another is reached through a link. The third is what makes a name found in a
directory lead back into it, whatever path it is put behind.

The view of a tree is `lookup`. Each operation has one equation through it.
-/

namespace EntityDiagram

/-- A location: the names from the root. -/
abbrev Location := List Text

inductive Entry where
  | directory
  | file (bytes : List UInt8)
  | link (target : Text)
  deriving DecidableEq

namespace FileTree

/-- The name by which a path goes up. -/
def wayUp : Text := ['.', '.']

def longestName : Nat := 255

/-- A name that something may have in a directory. The two that mean the directory itself and the one
    above it are none. -/
structure IsName (name : Text) : Prop where
  nonempty : name ≠ []
  notHere : name ≠ ['.']
  notUp : name ≠ wayUp
  noSlash : '/' ∉ name
  noNull : Char.ofNat 0 ∉ name
  short : (Utf8.encode name).length ≤ longestName

instance (name : Text) : Decidable (IsName name) :=
  decidable_of_iff (name ≠ [] ∧ name ≠ ['.'] ∧ name ≠ wayUp ∧ '/' ∉ name ∧ Char.ofNat 0 ∉ name
      ∧ (Utf8.encode name).length ≤ longestName)
    ⟨fun ⟨h₁, h₂, h₃, h₄, h₅, h₆⟩ => ⟨h₁, h₂, h₃, h₄, h₅, h₆⟩,
      fun ⟨h₁, h₂, h₃, h₄, h₅, h₆⟩ => ⟨h₁, h₂, h₃, h₄, h₅, h₆⟩⟩

end FileTree

/-- Whether a listed entry stands in the root or in a directory that is listed. -/
def StandsIn (entries : List (Location × Entry)) (l : Location) : Prop :=
  l ≠ [] ∧ (l.dropLast = [] ∨ (l.dropLast, Entry.directory) ∈ entries)

structure FileTree where
  entries : List (Location × Entry)
  nodup : (entries.map (·.1)).Nodup
  rooted : ∀ x ∈ entries, StandsIn entries x.1
  named : ∀ x ∈ entries, ∀ name ∈ x.1, FileTree.IsName name

namespace FileTree

def empty : FileTree := ⟨[], List.nodup_nil, by simp, by simp⟩

def lookup (t : FileTree) (l : Location) : Option Entry :=
  if l = [] then some .directory else t.entries.lookup l

def isDirectoryAt (t : FileTree) (l : Location) : Bool := t.lookup l == some .directory

@[simp] theorem lookup_nil (t : FileTree) : t.lookup [] = some .directory := by simp [lookup]

theorem lookup_of_ne {t : FileTree} {l : Location} (h : l ≠ []) :
    t.lookup l = t.entries.lookup l := by simp [lookup, h]

/-! ## Look-up in a list of pairs -/

theorem lookup_eq_some_of_mem {entries : List (Location × Entry)} {l : Location} {e : Entry}
    (nodup : (entries.map (·.1)).Nodup) (h : (l, e) ∈ entries) :
    entries.lookup l = some e := by
  induction entries with
  | nil => simp at h
  | cons x rest ih =>
    obtain ⟨m, f⟩ := x
    simp only [List.map_cons, List.nodup_cons] at nodup
    rcases List.mem_cons.mp h with heq | hmem
    · obtain ⟨rfl, rfl⟩ := Prod.mk.inj heq
      simp
    · have hne : l ≠ m := by
        rintro rfl
        exact nodup.1 (List.mem_map.mpr ⟨(l, e), hmem, rfl⟩)
      have hb : (l == m) = false := by simp [hne]
      rw [List.lookup_cons, hb]
      exact ih nodup.2 hmem

theorem mem_of_lookup_eq_some {entries : List (Location × Entry)} {l : Location} {e : Entry}
    (h : entries.lookup l = some e) : (l, e) ∈ entries := by
  induction entries with
  | nil => simp at h
  | cons x rest ih =>
    obtain ⟨m, f⟩ := x
    rw [List.lookup_cons] at h
    split at h
    · next hb =>
      have hx := eq_of_beq hb
      simp only [Option.some.injEq] at h
      exact List.mem_cons.mpr (.inl (by rw [hx, h]))
    · exact List.mem_cons_of_mem _ (ih h)

theorem lookup_filter {entries : List (Location × Entry)} (keep : Location → Bool)
    (l : Location) :
    (entries.filter fun x => keep x.1).lookup l = if keep l then entries.lookup l else none := by
  induction entries with
  | nil => simp
  | cons x rest ih =>
    obtain ⟨m, f⟩ := x
    rw [List.filter_cons]
    by_cases hl : l = m
    · subst hl
      by_cases hk : keep l = true
      · simp [hk]
      · simp [hk, ih]
    · have hb : (l == m) = false := by simp [hl]
      by_cases hk : keep m = true <;> simp [hk, List.lookup_cons, hb, ih]

/-! ## Removing -/

/-- The tree with only those entries whose location is kept. The locations that are not kept must
    be closed downwards. -/
def restrict (t : FileTree) (keep : Location → Bool)
    (closed : ∀ l, keep l = true → l.dropLast = [] ∨ keep l.dropLast = true) : FileTree where
  entries := t.entries.filter fun x => keep x.1
  nodup := (List.filter_sublist.map _).nodup t.nodup
  rooted x hx := by
    obtain ⟨hx, hk⟩ := List.mem_filter.mp hx
    obtain ⟨hne, hd⟩ := t.rooted x hx
    refine ⟨hne, ?_⟩
    rcases hd with hd | hd
    · exact .inl hd
    · rcases closed x.1 hk with h | h
      · exact .inl h
      · exact .inr (List.mem_filter.mpr ⟨hd, h⟩)
  named x hx := t.named x (List.mem_filter.mp hx).1

theorem lookup_restrict (t : FileTree) (keep : Location → Bool) (closed) {l : Location}
    (h : l ≠ []) : (t.restrict keep closed).lookup l = if keep l then t.lookup l else none := by
  rw [lookup_of_ne h, lookup_of_ne h]
  exact lookup_filter keep l

/-- Whether the second location lies below the first. -/
def isBelow (l m : Location) : Bool := l.isPrefixOf m && l != m

theorem isPrefixOf_of_dropLast {l m : Location} (h : l.isPrefixOf m.dropLast = true) :
    l.isPrefixOf m = true := by
  rw [List.isPrefixOf_iff_prefix] at h ⊢
  exact h.trans (List.dropLast_prefix m)

theorem isBelow_of_dropLast {l m : Location} (h : isBelow l m.dropLast = true) :
    isBelow l m = true := by
  simp only [isBelow, Bool.and_eq_true, bne_iff_ne, ne_eq] at h ⊢
  refine ⟨isPrefixOf_of_dropLast h.1, ?_⟩
  rintro rfl
  have hp := (List.isPrefixOf_iff_prefix.mp h.1).length_le
  simp at hp
  have hl : l = [] := by
    apply List.eq_nil_of_length_eq_zero
    omega
  subst hl
  exact h.2 rfl

def clearBelow (t : FileTree) (l : Location) : FileTree :=
  t.restrict (fun m => !isBelow l m) fun m h => by
    right
    simp only [Bool.not_eq_true'] at h ⊢
    exact Bool.eq_false_iff.mpr fun h' => by simp [isBelow_of_dropLast h'] at h

def removeAt (t : FileTree) (l : Location) : FileTree :=
  t.restrict (fun m => !l.isPrefixOf m) fun m h => by
    right
    simp only [Bool.not_eq_true'] at h ⊢
    exact Bool.eq_false_iff.mpr fun h' => by simp [isPrefixOf_of_dropLast h'] at h

@[simp] theorem lookup_clearBelow (t : FileTree) (l m : Location) :
    (t.clearBelow l).lookup m = if isBelow l m then none else t.lookup m := by
  by_cases hm : m = []
  · subst hm
    cases l <;> simp [isBelow]
  · rw [clearBelow, lookup_restrict _ _ _ hm]
    cases isBelow l m <;> rfl

theorem lookup_removeAt (t : FileTree) (l : Location) {m : Location} (hm : m ≠ []) :
    (t.removeAt l).lookup m = if l.isPrefixOf m then none else t.lookup m := by
  rw [removeAt, lookup_restrict _ _ _ hm]
  cases l.isPrefixOf m <;> rfl

/-! ## Putting -/

/-- Whether an entry may be put at a location: the names on the way there are names, it has a
    directory to stand in, and it does not take the place of one. -/
def canPut (t : FileTree) (l : Location) : Bool :=
  !l.isEmpty && l.all (fun name => IsName name) && t.isDirectoryAt l.dropLast && !t.isDirectoryAt l

/-- The tree with the entry at the location, if it may be put there. -/
def put (t : FileTree) (l : Location) (e : Entry) : FileTree :=
  if h : t.canPut l = true then
    { entries := (l, e) :: t.entries.filter fun x => x.1 != l
      nodup := by
        rw [List.map_cons, List.nodup_cons]
        constructor
        · simp
        · exact (List.filter_sublist.map _).nodup t.nodup
      rooted := by
        simp only [canPut, Bool.and_eq_true, Bool.not_eq_true', List.isEmpty_eq_false_iff,
          isDirectoryAt, beq_iff_eq, beq_eq_false_iff_ne] at h
        obtain ⟨⟨⟨hne, -⟩, hparent⟩, hhere⟩ := h
        have keepsDirectory : ∀ m, (m, Entry.directory) ∈ t.entries →
            (m, Entry.directory) ∈ (l, e) :: t.entries.filter fun x => x.1 != l := by
          intro m hm
          refine List.mem_cons_of_mem _ (List.mem_filter.mpr ⟨hm, ?_⟩)
          rw [bne_iff_ne]
          rintro rfl
          rw [lookup_of_ne hne] at hhere
          exact hhere (lookup_eq_some_of_mem t.nodup hm)
        intro x hx
        rcases List.mem_cons.mp hx with rfl | hx
        · refine ⟨hne, ?_⟩
          by_cases hd : l.dropLast = []
          · exact .inl hd
          · rw [lookup_of_ne hd] at hparent
            exact .inr (keepsDirectory _ (mem_of_lookup_eq_some hparent))
        · obtain ⟨hx', hd⟩ := t.rooted x (List.mem_filter.mp hx).1
          refine ⟨hx', ?_⟩
          rcases hd with hd | hd
          · exact .inl hd
          · exact .inr (keepsDirectory _ hd)
      named := by
        simp only [canPut, Bool.and_eq_true, List.all_eq_true, decide_eq_true_eq] at h
        intro x hx
        rcases List.mem_cons.mp hx with rfl | hx
        · exact h.1.1.2
        · exact t.named x (List.mem_filter.mp hx).1 }
  else t

theorem lookup_put {t : FileTree} {l : Location} {e : Entry} (h : t.canPut l = true)
    (m : Location) : (t.put l e).lookup m = if m = l then some e else t.lookup m := by
  have hl : l ≠ [] := by
    rintro rfl
    simp [canPut] at h
  by_cases hm : m = []
  · subst hm
    simp [Ne.symm hl]
  · rw [lookup_of_ne hm, lookup_of_ne hm]
    simp only [put, h, dif_pos, List.lookup_cons]
    by_cases hml : m = l
    · subst hml
      simp
    · have hb : (m == l) = false := by simp [hml]
      rw [hb, lookup_filter (fun x => x != l) m]
      simp [hml]

theorem put_of_not_canPut {t : FileTree} {l : Location} {e : Entry} (h : t.canPut l = false) :
    t.put l e = t := by
  simp [put, h]

/-! ## Listing -/

/-- The names in the directory at a location, in no particular order. -/
def namesIn (t : FileTree) (l : Location) : List Text :=
  t.entries.filterMap fun x => if x.1.dropLast = l then x.1.getLast? else none

/-- The ways down from a location to the directories below it, in no particular order. -/
def directoriesBelow (t : FileTree) (l : Location) : List (List Text) :=
  t.entries.filterMap fun x =>
    if x.2 = .directory && isBelow l x.1 then some (x.1.drop l.length) else none

def Entry.mark : Entry → Text
  | .directory => ['/']
  | .file _ => []
  | .link _ => ['@']

/-- Everything below a location, seen from there, directories and links marked, in the order by
    code point. -/
def listing (t : FileTree) (l : Location) : List Text :=
  (t.entries.filterMap fun x =>
    if isBelow l x.1 then some (Text.join ['/'] (x.1.drop l.length) ++ Entry.mark x.2)
    else none).mergeSort Text.atMost

end FileTree
end EntityDiagram
