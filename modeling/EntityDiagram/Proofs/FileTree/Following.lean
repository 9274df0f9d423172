import Mathlib.Data.List.Basic
import Mathlib.Data.List.Induction
import EntityDiagram.FileTree.Access

/-!
# Where a path leads

`FileTree.find` follows a path stretch by stretch. What a caller needs to know of where it arrives
is little: the entry found is the one that stands there, and it stands in a directory
(`find_ok`). That holds with links anywhere.

A path is followed in stretches (`follow_succ_ok_iff`), and a stretch goes name by name: up, through a
directory, or to its end (`stretch_cons_iff`). What is said of ways here and elsewhere is by
induction on their names, with one case for each of the three.

Where there are no links, following a path is following its names. So a path to a name in a
directory leads to that name in the directory that the rest of the path leads to (`find_child`), and
two paths that differ in the last name only lead into the same directory, provided that the system
takes both of them at their length.
-/

namespace EntityDiagram
namespace FileTree

variable {t u : FileTree} {here l m : Location} {followLast : Bool} {p : Path} {found : Found}

/-! ## What is found -/

theorem lookup_dropLast (h : t.lookup l ≠ none) : t.lookup l.dropLast = some .directory := by
  by_cases hl : l = []
  · simp [hl]
  · rw [lookup_of_ne hl] at h
    obtain ⟨e, he⟩ := Option.ne_none_iff_exists'.mp h
    rcases (t.rooted _ (mem_of_lookup_eq_some he)).2 with hd | hd
    · simp only at hd
      simp [hd]
    · by_cases hne : l.dropLast = []
      · simp [hne]
      · rw [lookup_of_ne hne]
        exact lookup_eq_some_of_mem t.nodup hd

/-- Above whatever stands there are directories. -/
theorem lookup_of_append {name : Text} {names : List Text} (h : t.lookup (l ++ name :: names) ≠ none) :
    t.lookup l = some .directory := by
  induction names using List.reverseRecOn with
  | nil => simpa using lookup_dropLast h
  | append_singleton names last ih =>
    apply ih
    have habove := lookup_dropLast h
    rw [← List.cons_append, ← List.append_assoc, List.dropLast_concat] at habove
    rw [habove]
    simp

theorem isBelow_iff : isBelow l m = true ↔ ∃ name names, m = l ++ name :: names := by
  rw [isBelow, Bool.and_eq_true, List.isPrefixOf_iff_prefix, bne_iff_ne]
  constructor
  · rintro ⟨⟨names, rfl⟩, hne⟩
    cases names with
    | nil => simp at hne
    | cons name names => exact ⟨name, names, rfl⟩
  · rintro ⟨name, names, rfl⟩
    exact ⟨List.prefix_append _ _, by simp⟩

/-- Whatever stands in a tree is reached by names. -/
theorem isName_of_mem (h : t.lookup l ≠ none) : ∀ name ∈ l, IsName name := by
  by_cases hl : l = []
  · simp [hl]
  · rw [lookup_of_ne hl] at h
    obtain ⟨e, he⟩ := Option.ne_none_iff_exists'.mp h
    exact t.named _ (mem_of_lookup_eq_some he)

theorem mem_namesIn {name : Text} : name ∈ t.namesIn l ↔ t.lookup (l ++ [name]) ≠ none := by
  have hne : l ++ [name] ≠ [] := by simp
  rw [namesIn, List.mem_filterMap, lookup_of_ne hne]
  constructor
  · rintro ⟨⟨k, e⟩, hmem, hname⟩
    dsimp only at hname
    split at hname
    · next hk =>
      have hk' : k = l ++ [name] := by
        rw [← hk]
        exact (List.dropLast_append_getLast? name hname).symm
      rw [← hk', lookup_eq_some_of_mem t.nodup hmem]
      simp
    · exact absurd hname (by simp)
  · intro h
    obtain ⟨e, he⟩ := Option.ne_none_iff_exists'.mp h
    exact ⟨(l ++ [name], e), mem_of_lookup_eq_some he, by simp⟩

theorem isName_of_mem_namesIn {name : Text} (h : name ∈ t.namesIn l) : IsName name :=
  isName_of_mem (mem_namesIn.mp h) name (List.mem_append_right l (List.mem_singleton_self name))

/-- The entry found is the one at the location found, which is one where something may stand: a
    directory is above it, and the way there is one of names. -/
structure Found.Standing (t : FileTree) (found : Found) : Prop where
  entry : found.entry = t.lookup found.location
  above : t.lookup found.location.dropLast = some .directory
  named : ∀ name ∈ found.location, IsName name

theorem standing_of_directory (h : t.lookup l = some .directory) :
    Found.Standing t ⟨l, t.lookup l⟩ :=
  have hthere : t.lookup l ≠ none := by simp [h]
  ⟨rfl, lookup_dropLast hthere, isName_of_mem hthere⟩

theorem standing_child {name : Text} {e : Option Entry} (hname : IsName name)
    (h : t.lookup l = some .directory) (he : t.lookup (l ++ [name]) = e) :
    Found.Standing t ⟨l ++ [name], e⟩ := by
  refine ⟨he.symm, by simpa using h, fun other hother => ?_⟩
  rcases List.mem_append.mp hother with hmem | hlast
  · have hthere : t.lookup l ≠ none := by simp [h]
    exact isName_of_mem hthere other hmem
  · rwa [List.mem_singleton.mp hlast]

/-- A stretch ends well: at something standing, or with a detour from a directory. -/
def Stretch.EndsWell (t : FileTree) : Stretch → Prop
  | .arrived found => found.Standing t
  | .detour directory _ _ => t.lookup directory = some .directory
  | .failed _ => True

theorem stretch_endsWell {names : List Text} (hl : t.lookup l = some .directory) :
    (t.stretch followLast l names).EndsWell t := by
  induction names generalizing l with
  | nil => exact standing_of_directory hl
  | cons name ahead ih =>
    unfold stretch
    split
    · exact ih (lookup_dropLast (by simp [hl]))
    · split
      · next hname =>
        dsimp only
        split
        · next he =>
          split
          · exact standing_child hname hl he
          · trivial
        · next he => exact ih he
        · next he =>
          split
          · exact standing_child hname hl he
          · trivial
        · next he =>
          split
          · exact standing_child hname hl he
          · exact hl
      · trivial

def startOf (here : Location) (p : Path) : Location := if p.isAbsolute then [] else here

theorem lookup_startOf (h : t.lookup here = some .directory) :
    t.lookup (startOf here p) = some .directory := by
  unfold startOf
  split
  · exact lookup_nil t
  · exact h

/-- A path arrives at the end of its first stretch, or goes on from there with another one. -/
theorem follow_succ_ok_iff {n : Nat} {names : List Text} :
    t.follow followLast (n + 1) l names = .ok found
      ↔ t.stretch followLast l names = .arrived found
        ∨ ∃ directory target ahead, t.stretch followLast l names = .detour directory target ahead
          ∧ t.follow followLast n (startOf directory (Path.ofText target))
              ((Path.ofText target).parts ++ ahead) = .ok found := by
  rw [follow]
  cases hs : t.stretch followLast l names with
  | arrived other => simp
  | failed cause => simp
  | detour directory target ahead =>
    constructor
    · exact fun h => .inr ⟨directory, target, ahead, rfl, h⟩
    · rintro (h | ⟨_, _, _, h, hfollow⟩)
      · exact absurd h (by simp)
      · cases h
        exact hfollow

theorem lookup_of_detour {names ahead : List Text} {directory : Location} {target : Text}
    (hl : t.lookup l = some .directory)
    (h : t.stretch followLast l names = .detour directory target ahead) :
    t.lookup directory = some .directory := by
  have hends : (t.stretch followLast l names).EndsWell t := stretch_endsWell hl
  rwa [h] at hends

theorem follow_standing {n : Nat} {names : List Text} (hl : t.lookup l = some .directory)
    (h : t.follow followLast n l names = .ok found) : found.Standing t := by
  induction n generalizing l names with
  | zero => simp [follow] at h
  | succ n ih =>
    rcases follow_succ_ok_iff.mp h with hs | ⟨directory, target, ahead, hs, hrest⟩
    · have hends : (t.stretch followLast l names).EndsWell t := stretch_endsWell hl
      rwa [hs] at hends
    · -- The next stretch begins at the root or where the link stands, a directory either way.
      exact ih (lookup_startOf (lookup_of_detour hl hs)) hrest

/-- A path that the system takes: not too long, and without the character that no path may have. -/
def Admitted (p : Path) : Prop :=
  Char.ofNat 0 ∉ p.toText ∧ (Utf8.encode p.toText).length ≤ longestPath

theorem find_eq_follow :
    t.find here followLast p = .ok found
      ↔ Admitted p ∧ t.lookup (startOf here p) = some .directory
        ∧ t.follow followLast (mostLinks + 1) (startOf here p) p.parts = .ok found := by
  change (if p.toText.contains (Char.ofNat 0) then _ else if _ then _ else
    if !t.isDirectoryAt (startOf here p) then _ else
      t.follow followLast (mostLinks + 1) (startOf here p) p.parts) = _ ↔ _
  have hd : t.isDirectoryAt (startOf here p) = true
      ↔ t.lookup (startOf here p) = some .directory := by
    simp [isDirectoryAt]
  unfold Admitted
  by_cases hnul : Char.ofNat 0 ∈ p.toText
  · simp [hnul]
  · by_cases hlong : (Utf8.encode p.toText).length > longestPath
    · simp [hnul, hlong, Nat.not_le.mpr hlong]
    · by_cases hdir : t.isDirectoryAt (startOf here p) = true
      · simp [hnul, hlong, hdir, hd.mp hdir, Nat.le_of_not_lt hlong]
      · have hno : t.lookup (startOf here p) ≠ some .directory := fun h => hdir (hd.mpr h)
        simp [hnul, hlong, hdir, hno]

/-- **What is found stands there.** -/
theorem find_ok (h : t.find here followLast p = .ok found) : found.Standing t := by
  obtain ⟨-, hd, hf⟩ := find_eq_follow.mp h
  exact follow_standing hd hf

/-! ## One name at a time -/

/-- The way does not go on from what stands there: it is no directory, and no link to be followed. -/
def EndsAt (t : FileTree) (followLast : Bool) (l : Location) : Prop :=
  t.lookup l ≠ some .directory ∧ (followLast = true → ∀ target, t.lookup l ≠ some (.link target))

section Cons

variable {name : Text} {ahead : List Text}

theorem stretch_up :
    t.stretch followLast l (wayUp :: ahead) = t.stretch followLast l.dropLast ahead := by
  rw [stretch, if_pos rfl]

theorem stretch_through (hname : IsName name) (he : t.lookup (l ++ [name]) = some .directory) :
    t.stretch followLast l (name :: ahead) = t.stretch followLast (l ++ [name]) ahead := by
  rw [stretch, if_neg hname.notUp, if_pos hname]
  simp only [he]

theorem not_isName_wayUp : ¬ IsName wayUp := fun h => h.notUp rfl

/-- A way arrives by its first name in one of three ways: it goes up and on from there, it goes on
    through a directory of that name, or the name is the last one and it ends there. -/
theorem stretch_cons_iff : t.stretch followLast l (name :: ahead) = .arrived found
    ↔ name = wayUp ∧ t.stretch followLast l.dropLast ahead = .arrived found
      ∨ IsName name ∧ t.lookup (l ++ [name]) = some .directory
        ∧ t.stretch followLast (l ++ [name]) ahead = .arrived found
      ∨ IsName name ∧ t.EndsAt followLast (l ++ [name]) ∧ ahead = []
        ∧ found = ⟨l ++ [name], t.lookup (l ++ [name])⟩ := by
  by_cases hup : name = wayUp
  · subst hup
    simp [stretch_up, not_isName_wayUp]
  by_cases hname : IsName name
  swap
  · simp [stretch, hup, hname]
  by_cases hdir : t.lookup (l ++ [name]) = some .directory
  · simp [stretch_through hname hdir, EndsAt, hup, hname, hdir]
  rw [stretch, if_neg hup, if_pos hname]
  cases he : t.lookup (l ++ [name]) with
  | none => cases ahead <;> simp [EndsAt, hup, hname, he, eq_comm]
  | some e =>
    cases e with
    | directory => exact absurd he hdir
    | file bytes => cases ahead <;> simp [EndsAt, hup, hname, he, eq_comm]
    | link target => cases ahead <;> cases followLast <;> simp [EndsAt, hup, hname, he, eq_comm]

/-- A single name leads to what stands under it, unless that is a link to be followed. -/
theorem stretch_singleton (hname : IsName name)
    (hlink : followLast = true → ∀ target, t.lookup (l ++ [name]) ≠ some (.link target)) :
    t.stretch followLast l [name] = .arrived ⟨l ++ [name], t.lookup (l ++ [name])⟩ := by
  by_cases hdir : t.lookup (l ++ [name]) = some .directory
  · rw [stretch_through hname hdir, stretch]
  · exact stretch_cons_iff.mpr (.inr (.inr ⟨hname, ⟨hdir, hlink⟩, rfl, rfl⟩))

end Cons

/-- The way to a directory stays open when directories stay, with links or without. -/
theorem stretch_directory_mono {names : List Text}
    (hkeep : ∀ k, t.lookup k = some .directory → u.lookup k = some .directory)
    (h : t.stretch followLast l names = .arrived ⟨m, some .directory⟩) :
    u.stretch followLast l names = .arrived ⟨m, some .directory⟩ := by
  induction names generalizing l with
  | nil =>
    simp only [stretch, Stretch.arrived.injEq, Found.mk.injEq] at h ⊢
    obtain ⟨rfl, h⟩ := h
    exact ⟨rfl, hkeep _ h⟩
  | cons name ahead ih =>
    rcases stretch_cons_iff.mp h with ⟨rfl, h⟩ | ⟨hname, he, h⟩ | ⟨-, ⟨hdir, -⟩, -, hfound⟩
    · exact stretch_cons_iff.mpr (.inl ⟨rfl, ih h⟩)
    · exact stretch_cons_iff.mpr (.inr (.inl ⟨hname, hkeep _ he, ih h⟩))
    · exact absurd (congrArg Found.entry hfound).symm hdir

/-- A way that ends with a name other than the way up arrives at a location of that name. -/
theorem location_of_stretch_snoc {name : Text} {names : List Text} (hname : name ≠ wayUp)
    (h : t.stretch followLast l (names ++ [name]) = .arrived found) :
    ∃ m, found.location = m ++ [name] := by
  induction names generalizing l with
  | nil =>
    rcases stretch_cons_iff.mp h with ⟨hup, -⟩ | ⟨-, -, h⟩ | ⟨-, -, -, rfl⟩
    · exact absurd hup hname
    · exact ⟨l, congrArg Found.location (Stretch.arrived.inj h).symm⟩
    · exact ⟨l, rfl⟩
  | cons first ahead ih =>
    -- With more to come, the way does not end with the first name.
    rcases stretch_cons_iff.mp h with ⟨-, h⟩ | ⟨-, -, h⟩ | ⟨-, -, hend, -⟩
    · exact ih h
    · exact ih h
    · exact absurd hend (by simp)

/-! ## Without links -/

def NoLinks (t : FileTree) : Prop := ∀ l target, t.lookup l ≠ some (.link target)

/-- Following one name more is arriving in a directory and then looking at that name. -/
theorem stretch_snoc {name : Text} {names : List Text} (hlinks : t.NoLinks) (hname : IsName name)
    (hl : t.lookup l = some .directory) :
    t.stretch followLast l (names ++ [name]) = .arrived found
      ↔ ∃ m, t.stretch followLast l names = .arrived ⟨m, some .directory⟩
        ∧ found = ⟨m ++ [name], t.lookup (m ++ [name])⟩ := by
  induction names generalizing l with
  | nil =>
    rw [List.nil_append, stretch_singleton hname fun _ => hlinks _]
    simp only [stretch, Stretch.arrived.injEq, Found.mk.injEq]
    constructor
    · rintro rfl
      exact ⟨l, ⟨rfl, hl⟩, rfl⟩
    · rintro ⟨m, ⟨rfl, -⟩, rfl⟩
      rfl
  | cons first ahead ih =>
    have hup : t.lookup l.dropLast = some .directory := lookup_dropLast (by simp [hl])
    constructor
    · intro h
      rcases stretch_cons_iff.mp h with ⟨rfl, h⟩ | ⟨hfirst, he, h⟩ | ⟨-, -, hend, -⟩
      · obtain ⟨m, hm, rfl⟩ := (ih hup).mp h
        exact ⟨m, stretch_cons_iff.mpr (.inl ⟨rfl, hm⟩), rfl⟩
      · obtain ⟨m, hm, rfl⟩ := (ih he).mp h
        exact ⟨m, stretch_cons_iff.mpr (.inr (.inl ⟨hfirst, he, hm⟩)), rfl⟩
      · exact absurd hend (by simp)
    · rintro ⟨m, hm, rfl⟩
      rcases stretch_cons_iff.mp hm with ⟨rfl, hm⟩ | ⟨hfirst, he, hm⟩ | ⟨-, ⟨hdir, -⟩, -, hfound⟩
      · exact stretch_cons_iff.mpr (.inl ⟨rfl, (ih hup).mpr ⟨m, hm, rfl⟩⟩)
      · exact stretch_cons_iff.mpr (.inr (.inl ⟨hfirst, he, (ih he).mpr ⟨m, hm, rfl⟩⟩))
      · -- A way that ends in no directory has no name more.
        exact absurd (congrArg Found.entry hfound).symm hdir

theorem stretch_ne_detour {names : List Text} {d : Location} {target : Text} {ahead : List Text}
    (hlinks : t.NoLinks) : t.stretch followLast l names ≠ .detour d target ahead := by
  induction names generalizing l with
  | nil => simp [stretch]
  | cons name rest ih =>
    unfold stretch
    split
    · exact ih
    · split
      · dsimp only
        split
        · split <;> simp
        · exact ih
        · split <;> simp
        · next he => exact absurd he (hlinks _ _)
      · simp

theorem stretch_followLast {names : List Text} (hlinks : t.NoLinks)
    (h : t.stretch followLast l names = .arrived found) (other : Bool) :
    t.stretch other l names = .arrived found := by
  induction names generalizing l with
  | nil => exact h
  | cons name ahead ih =>
    refine stretch_cons_iff.mpr ?_
    rcases stretch_cons_iff.mp h with ⟨rfl, h⟩ | ⟨hname, he, h⟩ | ⟨hname, ⟨hdir, -⟩, hend, hfound⟩
    · exact .inl ⟨rfl, ih h⟩
    · exact .inr (.inl ⟨hname, he, ih h⟩)
    · exact .inr (.inr ⟨hname, ⟨hdir, fun _ target => hlinks _ target⟩, hend, hfound⟩)

/-- Without links a path is followed in one stretch. -/
theorem find_eq_stretch (hlinks : t.NoLinks) :
    t.find here followLast p = .ok found
      ↔ Admitted p ∧ t.lookup (startOf here p) = some .directory
        ∧ t.stretch followLast (startOf here p) p.parts = .arrived found := by
  rw [find_eq_follow]
  refine and_congr_right fun _ => and_congr_right fun _ => ?_
  rw [follow_succ_ok_iff]
  exact or_iff_left fun ⟨_, _, _, hs, _⟩ => stretch_ne_detour hlinks hs

theorem find_followLast (hlinks : t.NoLinks) (h : t.find here followLast p = .ok found)
    (other : Bool) : t.find here other p = .ok found := by
  rw [find_eq_stretch hlinks] at h ⊢
  obtain ⟨hadmitted, hd, hs⟩ := h
  exact ⟨hadmitted, hd, stretch_followLast hlinks hs other⟩

/-- A path to a name in a directory: what it leads to is what the directory has under that name. -/
theorem find_child {name : Text} (hlinks : t.NoLinks) (hname : IsName name) :
    t.find here followLast (p.child name) = .ok found
      ↔ Admitted (p.child name) ∧ t.lookup (startOf here p) = some .directory
        ∧ ∃ m, t.stretch followLast (startOf here p) p.parts = .arrived ⟨m, some .directory⟩
          ∧ found = ⟨m ++ [name], t.lookup (m ++ [name])⟩ := by
  rw [find_eq_stretch hlinks]
  have hstart : startOf here (p.child name) = startOf here p := rfl
  rw [hstart]
  refine and_congr_right fun _ => and_congr_right fun hd => ?_
  exact stretch_snoc hlinks hname hd

theorem location_of_find_child {name : Text} (hlinks : t.NoLinks) (hname : name ≠ wayUp)
    (h : t.find here followLast (p.child name) = .ok found) : ∃ m, found.location = m ++ [name] :=
  location_of_stretch_snoc hname ((find_eq_stretch hlinks).mp h).2.2

/-! ## Siblings -/

theorem join_snoc (parts : List Text) :
    ∃ front, ∀ name, Text.join ['/'] (parts ++ [name]) = front ++ name := by
  induction parts with
  | nil => exact ⟨[], fun _ => rfl⟩
  | cons part rest ih =>
    obtain ⟨front, hfront⟩ := ih
    refine ⟨part ++ ['/'] ++ front, fun name => ?_⟩
    have hstep : Text.join ['/'] (part :: (rest ++ [name]))
        = part ++ ['/'] ++ Text.join ['/'] (rest ++ [name]) := by
      cases rest <;> rfl
    rw [List.cons_append, hstep, hfront]
    simp

/-- The texts of the paths to the names in a directory have all but the name in common. -/
theorem toText_child (p : Path) : ∃ front, ∀ name, (p.child name).toText = front ++ name := by
  obtain ⟨front, hfront⟩ := join_snoc p.parts
  unfold Path.child Path.toText
  dsimp only
  cases p.anchor with
  | here => exact ⟨front, fun name => by simp [hfront]⟩
  | root => exact ⟨'/' :: front, fun name => by simp [hfront]⟩
  | doubleRoot => exact ⟨'/' :: '/' :: front, fun name => by simp [hfront]⟩

theorem Admitted.sibling {name other : Text} (h : Admitted (p.child name))
    (hnul : Char.ofNat 0 ∉ other)
    (hlong : (Utf8.encode (p.child other).toText).length ≤ longestPath) :
    Admitted (p.child other) := by
  refine ⟨?_, hlong⟩
  obtain ⟨front, hfront⟩ := toText_child p
  have hchars := h.1
  rw [hfront] at hchars ⊢
  simp only [List.mem_append, not_or] at hchars ⊢
  exact ⟨hchars.1, hnul⟩

end FileTree
end EntityDiagram
