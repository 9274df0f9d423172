import EntityDiagram.Proofs.FileTree.Changing
import EntityDiagram.Proofs.Path

/-!
# Walking without links

Where there are no links, the location that a path leads to can be read off the path: each name goes
down and each way up goes up (`walk`). The tree decides only whether the path leads there, not where
it leads. So one path leads to one location in any two trees without links, and that is what makes
the trees before and after a run comparable.

Making directories on the way to one puts directories at the locations that parts of the path lead
to, and nowhere else (`makeDirectories_growsOnWay`). A path that only goes down has all of these
above or at its end.
-/

namespace EntityDiagram
namespace FileTree

variable {t u v : FileTree} {here l m k : Location} {followLast : Bool} {p : Path} {found : Found}
variable {names : List Text}

theorem lookup_of_prefix (h : t.lookup l = some .directory) (hk : k <+: l) :
    t.lookup k = some .directory := by
  obtain ⟨names, rfl⟩ := hk
  cases names with
  | nil => simpa using h
  | cons name names => exact lookup_of_append (by rw [h]; simp)

/-! ## Walking -/

/-- The location reached from another by going down the names, and up where they say so. -/
def walk (l : Location) (names : List Text) : Location :=
  names.foldl (fun l name => if name = wayUp then l.dropLast else l ++ [name]) l

@[simp] theorem walk_nil (l : Location) : walk l [] = l := rfl

theorem walk_cons (l : Location) (name : Text) (names : List Text) :
    walk l (name :: names) = walk (if name = wayUp then l.dropLast else l ++ [name]) names := rfl

/-- Names that never go up are the names on the way down. -/
theorem walk_of_down (h : wayUp ∉ names) : walk l names = l ++ names := by
  induction names generalizing l with
  | nil => simp
  | cons name ahead ih =>
    rw [List.mem_cons, not_or] at h
    rw [walk_cons, if_neg (Ne.symm h.1), ih h.2, List.append_assoc, List.singleton_append]

theorem location_of_stretch (h : t.stretch followLast l names = .arrived found) :
    found.location = walk l names := by
  induction names generalizing l with
  | nil =>
    simp only [stretch, Stretch.arrived.injEq] at h
    rw [← h]
    rfl
  | cons name ahead ih =>
    rw [walk_cons]
    rcases stretch_cons_iff.mp h with ⟨hup, h⟩ | ⟨hname, -, h⟩ | ⟨hname, -, rfl, rfl⟩
    · rw [if_pos hup, ih h]
    · rw [if_neg hname.notUp, ih h]
    · rw [if_neg hname.notUp]
      rfl

/-- Without links, where a path leads to is read off the path. -/
theorem location_of_find (hlinks : t.NoLinks) (h : t.find here followLast p = .ok found) :
    found.location = walk (startOf here p) p.parts :=
  location_of_stretch ((find_eq_stretch hlinks).mp h).2.2

/-- A path to a directory leads there as long as directories stay. -/
theorem find_directory_mono (hlinks : t.NoLinks) (hlinks' : u.NoLinks)
    (hkeep : ∀ k, t.lookup k = some .directory → u.lookup k = some .directory)
    (h : t.find here true p = .ok ⟨m, some .directory⟩) :
    u.find here true p = .ok ⟨m, some .directory⟩ := by
  obtain ⟨hadmitted, hstart, hway⟩ := (find_eq_stretch hlinks).mp h
  exact (find_eq_stretch hlinks').mpr
    ⟨hadmitted, hkeep _ hstart, stretch_directory_mono hkeep hway⟩

/-! ## Ways down -/

/-- A way that arrives in a directory goes on from there. -/
theorem stretch_append {more : List Text}
    (h : t.stretch followLast l names = .arrived ⟨m, some .directory⟩) :
    t.stretch followLast l (names ++ more) = t.stretch followLast m more := by
  induction names generalizing l with
  | nil =>
    simp only [stretch, Stretch.arrived.injEq, Found.mk.injEq] at h
    rw [h.1, List.nil_append]
  | cons name ahead ih =>
    rw [List.cons_append]
    rcases stretch_cons_iff.mp h with ⟨rfl, h⟩ | ⟨hname, he, h⟩ | ⟨-, ⟨hdir, -⟩, -, hfound⟩
    · rw [stretch_up]
      exact ih h
    · rw [stretch_through hname he]
      exact ih h
    · exact absurd (congrArg Found.entry hfound).symm hdir

/-- The way down to what stands somewhere, if that is no link, arrives there. -/
theorem stretch_of_standing {e : Entry} (hno : ∀ target, e ≠ .link target)
    (he : t.lookup (l ++ names) = some e) :
    t.stretch followLast l names = .arrived ⟨l ++ names, some e⟩ := by
  induction names generalizing l with
  | nil => simpa [stretch] using he
  | cons name ahead ih =>
    have hthere : t.lookup (l ++ name :: ahead) ≠ none := by simp [he]
    have hname : IsName name := isName_of_mem hthere name (by simp)
    have hsplit : l ++ name :: ahead = l ++ [name] ++ ahead := by simp
    cases ahead with
    | nil =>
      rw [stretch_singleton hname fun _ target => by simp [he, hno], he]
    | cons next rest =>
      have hnext : t.lookup (l ++ [name]) = some .directory :=
        lookup_of_append (by rw [← hsplit, he]; simp)
      rw [hsplit] at he ⊢
      rw [stretch_through hname hnext, ih he]

/-- What the system says to a path that leads down from another one through the given names, whatever
    the tree: nothing, unless it has the character that no path may have or is too long. -/
def passage (p : Path) (names : List Text) : Except FileCause Unit :=
  if Char.ofNat 0 ∈ (p.descend names).toText then .error .badCharacter
  else if (Utf8.encode (p.descend names).toText).length ≤ longestPath then .ok ()
  else .error .nameTooLong

/-- **A path down from a directory** leads to what stands there, if the system lets it pass. -/
theorem find_descend {e : Entry} (hlinks : t.NoLinks)
    (hdirectory : t.find here true p = .ok ⟨l, some .directory⟩)
    (he : t.lookup (l ++ names) = some e) :
    t.find here true (p.descend names) = (passage p names).map fun _ => ⟨l ++ names, some e⟩ := by
  obtain ⟨-, hstart, hway⟩ := (find_eq_stretch hlinks).mp hdirectory
  have hno : ∀ target, e ≠ .link target := by
    rintro target rfl
    exact hlinks _ _ he
  have hdir : t.isDirectoryAt (startOf here p) = true := by simp [isDirectoryAt, hstart]
  change (if (p.descend names).toText.contains (Char.ofNat 0) then _ else if _ then _ else
    if !t.isDirectoryAt (startOf here p) then _ else
      t.follow true (mostLinks + 1) (startOf here p) (p.parts ++ names)) = _
  unfold passage
  by_cases hnul : Char.ofNat 0 ∈ (p.descend names).toText
  · simp [hnul, Except.map]
  · by_cases hlong : (Utf8.encode (p.descend names).toText).length > longestPath
    · simp [hnul, hlong, Nat.not_le.mpr hlong, Except.map]
    · have hshort := Nat.le_of_not_lt hlong
      unfold follow
      rw [stretch_append hway, stretch_of_standing hno he]
      simp [hnul, hlong, hshort, hdir, Except.map]

/-- A path that leads down to a directory in one tree leads to it in any tree that has it. -/
theorem find_of_down (hlinks : t.NoLinks) (hlinks' : u.NoLinks) (hup : wayUp ∉ p.parts)
    (h : t.find here true p = .ok ⟨m, some .directory⟩) (hm : u.lookup m = some .directory) :
    u.find here true p = .ok ⟨m, some .directory⟩ := by
  obtain ⟨hadmitted, -, hway⟩ := (find_eq_stretch hlinks).mp h
  obtain rfl : m = startOf here p ++ p.parts := (location_of_stretch hway).trans (walk_of_down hup)
  exact (find_eq_stretch hlinks').mpr
    ⟨hadmitted, lookup_of_prefix hm (List.prefix_append _ _), stretch_of_standing (by simp) hm⟩

/-! ## The parts of a path -/

theorem encode_length_mono {a b : Text} (h : a <+: b) :
    (Utf8.encode a).length ≤ (Utf8.encode b).length := by
  obtain ⟨rest, rfl⟩ := h
  unfold Utf8.encode
  rw [List.flatMap_append, List.length_append]
  exact Nat.le_add_right _ _

/-- The text of a path begins the text of every path one name further down, unless it says no more
    than "here". -/
theorem toText_prefix_child (p : Path) (name : Text) :
    p.toText = ['.'] ∨ p.toText <+: (p.child name).toText := by
  obtain ⟨anchor, parts⟩ := p
  have hjoin : Text.join ['/'] parts <+: Text.join ['/'] (parts ++ [name]) := by
    by_cases hparts : parts = []
    · subst hparts
      exact List.nil_prefix
    · rw [Text.join_append ['/'] hparts (by simp), List.append_assoc]
      exact List.prefix_append _ _
  have hchild : (parts ++ [name]).isEmpty = false := by simp
  unfold Path.child Path.toText
  cases anchor with
  | here =>
    cases parts with
    | nil => exact .inl rfl
    | cons part rest => exact .inr (by simpa [hchild] using hjoin)
  | root => exact .inr ((List.cons_prefix_cons).mpr ⟨rfl, hjoin⟩)
  | doubleRoot =>
    exact .inr ((List.cons_prefix_cons).mpr ⟨rfl, (List.cons_prefix_cons).mpr ⟨rfl, hjoin⟩⟩)

/-- A path that the system takes is one whose beginnings it takes too. -/
theorem Admitted.parent {name : Text} (h : Admitted (p.child name)) : Admitted p := by
  rcases toText_prefix_child p name with hhere | hprefix
  · unfold Admitted
    rw [hhere]
    decide
  · refine ⟨fun hnul => h.1 ?_, Nat.le_trans (encode_length_mono hprefix) h.2⟩
    exact hprefix.subset hnul

/-! ## Directories on the way -/

/-- The location is one that a part of the path leads to. -/
def OnWay (here : Location) (p : Path) (l : Location) : Prop :=
  ∃ front, front <+: p.parts ∧ l = walk (startOf here p) front

/-- The second tree is the first with directories where nothing stood, all of them on the way; and if
    there are any, the path starts from a directory. -/
def GrowsOnWay (here : Location) (p : Path) (t u : FileTree) : Prop :=
  ∀ l, u.lookup l = t.lookup l
    ∨ t.lookup l = none ∧ u.lookup l = some .directory ∧ OnWay here p l
      ∧ t.lookup (startOf here p) = some .directory

theorem GrowsOnWay.grows (h : GrowsOnWay here p t u) : t.Grows u := fun l =>
  (h l).imp id fun hnew => ⟨hnew.1, hnew.2.1⟩

theorem GrowsOnWay.trans (h : GrowsOnWay here p t u) (h' : GrowsOnWay here p u v) :
    GrowsOnWay here p t v := by
  intro l
  rcases h l, h' l with ⟨heq | ⟨hnone, hdir, hway, hstart⟩, heq' | ⟨hnone', hdir', hway', hstart'⟩⟩
  · exact .inl (heq'.trans heq)
  · refine .inr ⟨heq ▸ hnone', hdir', hway', ?_⟩
    rcases h (startOf here p) with hsame | ⟨-, -, -, hstart⟩
    · exact hsame ▸ hstart'
    · exact hstart
  · exact .inr ⟨hnone, heq'.trans hdir, hway, hstart⟩
  · rw [hdir] at hnone'
    exact absurd hnone' (by simp)

/-- On a way that only goes down nothing lies below its end. -/
theorem OnWay.not_below (h : OnWay here p l) (hup : wayUp ∉ p.parts) :
    ¬ isBelow (walk (startOf here p) p.parts) l = true := by
  obtain ⟨front, hfront, rfl⟩ := h
  intro hbelow
  obtain ⟨name, names, heq⟩ := isBelow_iff.mp hbelow
  rw [walk_of_down hup, walk_of_down fun hmem => hup (hfront.subset hmem)] at heq
  have hlength := congrArg List.length heq
  have hshort := hfront.length_le
  simp only [List.length_append, List.length_cons] at hlength
  omega

theorem makeDirectory_growsOnWay {front : List Text} (hlinks : t.NoLinks) (hfront : front <+: p.parts)
    (h : t.makeDirectory here ⟨p.anchor, front⟩ = .ok u) : GrowsOnWay here p t u := by
  have hgrows := makeDirectory_grows h
  unfold makeDirectory at h
  split at h
  · next location hfind =>
    obtain rfl := Except.ok.inj h
    have hstretch := (find_eq_stretch hlinks).mp hfind
    have hlocation : location = walk (startOf here p) front := location_of_stretch hstretch.2.2
    intro l
    rcases hgrows l with heq | ⟨hnone, hdir⟩
    · exact .inl heq
    · rw [lookup_put (canPut_of_standing (find_ok hfind) (by simp))] at hdir
      split at hdir
      · next hl => exact .inr ⟨hnone, by rw [lookup_put (canPut_of_standing (find_ok hfind)
          (by simp)), if_pos hl], ⟨front, hfront, hl.trans hlocation⟩, hstretch.2.1⟩
      · rw [hnone] at hdir
        exact absurd hdir (by simp)
  · exact absurd h (by simp)
  · exact absurd h (by simp)

/-- **Making directories** adds directories on the way, and changes nothing else. -/
theorem makeDirectories_growsOnWay (hlinks : t.NoLinks) :
    GrowsOnWay here p t (t.makeDirectories here p).1 := by
  -- A tree that has grown has no links either, so the steps can be put together.
  let R (t u : FileTree) : Prop := t.NoLinks → GrowsOnWay here p t u
  have hway : R t (makeWay here p.anchor p.parts.reverse t).1 := by
    refine makeWay_induction (fun t _ l => .inl rfl) ?_ ?_
    · intro t u v htu huv hlinks
      have hgrown := htu hlinks
      exact hgrown.trans (huv (hlinks.of_noNewFiles hgrown.grows.noNewFiles))
    · intro front hfront t u h hlinks
      rw [List.reverse_reverse] at hfront
      exact makeDirectory_growsOnWay hlinks hfront h
  exact hway hlinks

end FileTree
end EntityDiagram
