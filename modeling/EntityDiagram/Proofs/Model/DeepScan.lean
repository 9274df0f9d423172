import EntityDiagram.Proofs.FileTree.Walking
import EntityDiagram.Proofs.Model.Scanning

/-!
# Scanning everything below a directory

The pattern that stands in the settings goes to every directory below the one that is scanned and
takes the names there that a wildcard covers. Without links what it selects can be said outright: the
files below the directory whose own name is covered, and whose path the system lets pass
(`mem_files_everywhere`). And so can what it asks about: every directory below, and whatever has a
name that is covered (`scanTooLong_everywhere_iff`).

Whether the system lets a path pass is a matter of the path, and not of the tree. So two trees with
the same such files are scanned with the same outcome, whatever else is in them, if either scan has
one (`load_everywhere_eq`).
-/

namespace EntityDiagram
namespace Model

open FileTree

variable {t u : FileTree} {here l : Location} {unreadable : List Location} {directory p q : Path}
variable {tokens : List Wildcard.Token} {names : List Text} {name : Text}

/-! ## Paths down -/

theorem child_descend : (p.descend names).child name = p.descend (names ++ [name]) := by
  simp [Path.child, Path.descend]

theorem descend_nil : p.descend [] = p := by simp [Path.descend]

theorem passage_error {cause : FileCause} (h : passage p names = .error cause) :
    cause = .badCharacter ∨ cause = .nameTooLong := by
  unfold passage at h
  split at h
  · exact .inl (Except.error.inj h).symm
  · split at h
    · exact absurd h (by simp)
    · exact .inr (Except.error.inj h).symm

/-- A path with the character that no path may have keeps it further down. -/
theorem passage_snoc_of_badCharacter (h : passage p names = .error .badCharacter) :
    passage p (names ++ [name]) = .error .badCharacter := by
  unfold passage at h ⊢
  split at h
  · next hnul =>
    rw [← child_descend, if_pos]
    rcases toText_prefix_child (p.descend names) name with hhere | hprefix
    · rw [hhere] at hnul
      exact absurd hnul (by decide)
    · exact hprefix.subset hnul
  · split at h <;> simp at h

/-- What passes does so as far as it goes. -/
theorem passage_of_snoc_ok (h : passage p (names ++ [name]) = .ok ()) : passage p names = .ok () := by
  unfold passage at h ⊢
  split at h
  · exact absurd h (by simp)
  · next hnul =>
    split at h
    · next hshort =>
      rw [← child_descend] at hnul hshort
      have hadmitted : Admitted (p.descend names) := Admitted.parent ⟨hnul, hshort⟩
      rw [if_neg hadmitted.1, if_pos hadmitted.2]
    · exact absurd h (by simp)

/-- Whatever there is stands in a directory. -/
theorem lookup_above (h : t.lookup (l ++ (names ++ [name])) ≠ none) :
    t.lookup (l ++ names) = some .directory := by
  rw [← List.append_assoc] at h
  simpa using lookup_dropLast h

/-! ## What is selected -/

/-- The pattern that takes the names that are covered in every directory below. -/
def everywhere (tokens : List Wildcard.Token) : Glob := ⟨[.anywhere, .covered tokens], false⟩

/-- A last step that covers names asks about its directory and takes the names in it. -/
theorem select_last : t.select here false [.covered tokens] p
    = (t.isDirectory here p).map fun _ =>
        ((t.namesAt here p).filter (Wildcard.covers tokens)).map p.child := by
  unfold select
  cases t.isDirectory here p with
  | error f => rfl
  | ok b =>
    refine collect_ok_iff.mpr ⟨fun name _ => ?_, ?_⟩
    · cases hc : Wildcard.covers tokens name <;> simp [leadsOnIn, Except.map, hc, select]
    · induction t.namesAt here p with
      | nil => rfl
      | cons name rest ih =>
        rw [List.flatMap_cons, ← ih]
        cases hc : Wildcard.covers tokens name <;>
          simp [leadsOnIn, Except.map, hc, select, given]

section Below

variable (hlinks : t.NoLinks) (hdirectory : t.find here true directory = .ok ⟨l, some .directory⟩)
include hlinks hdirectory

theorem tooLong_descend_iff {e : Entry} (he : t.lookup (l ++ names) = some e) :
    t.TooLong here (directory.descend names) ↔ passage directory names = .error .nameTooLong := by
  unfold TooLong
  rw [find_descend hlinks hdirectory he]
  cases passage directory names <;> simp [Except.map]

omit hlinks in
theorem mem_directoriesFrom : q ∈ t.directoriesFrom here directory
    ↔ ∃ names, q = directory.descend names ∧ t.lookup (l ++ names) = some .directory := by
  unfold directoriesFrom
  rw [hdirectory]
  have hl : t.lookup l = some .directory := (find_ok hdirectory).entry.symm
  simp only [List.mem_cons, List.mem_map, List.mem_reverse]
  constructor
  · rintro (rfl | ⟨names, hnames, rfl⟩)
    · exact ⟨[], descend_nil.symm, by simpa using hl⟩
    · refine ⟨names, rfl, ?_⟩
      obtain ⟨⟨k, e⟩, hk, hdrop⟩ := List.mem_filterMap.mp hnames
      split at hdrop
      · next hbelow =>
        simp only [Bool.and_eq_true, decide_eq_true_eq] at hbelow
        obtain ⟨name, rest, rfl⟩ := isBelow_iff.mp hbelow.2
        simp only [List.drop_left, Option.some.injEq] at hdrop
        rw [← hdrop, lookup_of_ne (by simp), lookup_eq_some_of_mem t.nodup hk, hbelow.1]
      · exact absurd hdrop (by simp)
  · rintro ⟨names, rfl, hlookup⟩
    cases names with
    | nil => exact .inl descend_nil
    | cons name rest =>
      have hne : l ++ name :: rest ≠ [] := by simp
      rw [lookup_of_ne hne] at hlookup
      refine .inr ⟨name :: rest, List.mem_filterMap.mpr ⟨_, mem_of_lookup_eq_some hlookup, ?_⟩, rfl⟩
      have hbelow : isBelow l (l ++ name :: rest) = true := isBelow_iff.mpr ⟨name, rest, rfl⟩
      simp [hbelow]

theorem mem_namesAt_descend (hd : t.lookup (l ++ names) = some .directory) :
    name ∈ t.namesAt here (directory.descend names)
      ↔ passage directory names = .ok () ∧ t.lookup (l ++ (names ++ [name])) ≠ none := by
  unfold namesAt
  rw [find_descend hlinks hdirectory hd]
  cases passage directory names with
  | error cause => simp [Except.map]
  | ok _ => simp [Except.map, mem_namesIn]

/-- What the pattern takes, seen from the directory at a location: a name that is covered, in a
    directory below whose path the system lets pass. -/
def Taken (t : FileTree) (tokens : List Wildcard.Token) (directory : Path) (l : Location)
    (names : List Text) (name : Text) : Prop :=
  Wildcard.covers tokens name = true ∧ passage directory names = .ok ()
    ∧ t.lookup (l ++ (names ++ [name])) ≠ none

variable (tokens) in
/-- What the last step makes of a directory below: a fault if the system does not let its path pass,
    and otherwise the names in it that are covered. -/
theorem select_last_cases (hd : t.lookup (l ++ names) = some .directory) :
    (passage directory names = .error .nameTooLong
      ∧ ∃ f, t.select here false [.covered tokens] (directory.descend names) = .error f)
    ∨ passage directory names ≠ .error .nameTooLong
      ∧ ∃ found, t.select here false [.covered tokens] (directory.descend names) = .ok found
        ∧ ∀ q, q ∈ found ↔ ∃ name, q = directory.descend (names ++ [name])
          ∧ Taken t tokens directory l names name := by
  have hlong_iff := tooLong_descend_iff hlinks hdirectory hd
  rw [select_last]
  cases hdir : t.isDirectory here (directory.descend names) with
  | error f => exact .inl ⟨hlong_iff.mp (isDirectory_error_iff.mp hdir).1, f, rfl⟩
  | ok b =>
    right
    constructor
    · intro hlong
      rw [isDirectory_error_iff.mpr ⟨hlong_iff.mpr hlong, rfl⟩] at hdir
      exact absurd hdir (by simp)
    · refine ⟨_, rfl, fun q => ?_⟩
      simp only [List.mem_map, List.mem_filter, mem_namesAt_descend hlinks hdirectory hd,
        child_descend]
      constructor
      · rintro ⟨name, ⟨⟨hpass, hthere⟩, hcovers⟩, rfl⟩
        exact ⟨name, rfl, hcovers, hpass, hthere⟩
      · rintro ⟨name, rfl, hcovers, hpass, hthere⟩
        exact ⟨name, ⟨⟨hpass, hthere⟩, hcovers⟩, rfl⟩

omit hlinks in
theorem glob_everywhere : t.glob here (everywhere tokens) directory
    = (collect (t.directoriesFrom here directory) (t.select here false [.covered tokens])).map
        (·.eraseDups) := by
  rw [glob_eq, isDirectory_true_iff.mpr ⟨l, hdirectory⟩, goOn_yes]
  rfl

theorem glob_everywhere_error {f : FileFault}
    (h : t.glob here (everywhere tokens) directory = .error f) :
    ∃ names, t.lookup (l ++ names) = some .directory
      ∧ passage directory names = .error .nameTooLong := by
  rw [glob_everywhere hdirectory, map_error_iff] at h
  obtain ⟨q, hq, hselect⟩ := exists_of_collect_error h
  obtain ⟨names, rfl, hd⟩ := (mem_directoriesFrom hdirectory).mp hq
  rcases select_last_cases tokens hlinks hdirectory hd with ⟨hlong, -⟩ | ⟨-, found, hfound, -⟩
  · exact ⟨names, hd, hlong⟩
  · rw [hselect] at hfound
    exact absurd hfound (by simp)

/-- The paths selected. -/
theorem mem_glob_everywhere {paths : List Path}
    (h : t.glob here (everywhere tokens) directory = .ok paths) :
    paths.Nodup
      ∧ (∀ names, t.lookup (l ++ names) = some .directory →
          passage directory names ≠ .error .nameTooLong)
      ∧ ∀ q, q ∈ paths ↔ ∃ names name, q = directory.descend (names ++ [name])
          ∧ Taken t tokens directory l names name := by
  rw [glob_everywhere hdirectory] at h
  obtain ⟨all, hc, rfl⟩ := map_ok_iff.mp h
  obtain ⟨hall, hmem⟩ := mem_of_collect_ok hc
  have hselected : ∀ names, t.lookup (l ++ names) = some .directory →
      passage directory names ≠ .error .nameTooLong
      ∧ ∃ found, t.select here false [.covered tokens] (directory.descend names) = .ok found
        ∧ ∀ q, q ∈ found ↔ ∃ name, q = directory.descend (names ++ [name])
          ∧ Taken t tokens directory l names name := by
    intro names hd
    rcases select_last_cases tokens hlinks hdirectory hd with ⟨-, f, hf⟩ | hgood
    · obtain ⟨xs, hxs⟩ := hall _ ((mem_directoriesFrom hdirectory).mpr ⟨names, rfl, hd⟩)
      rw [hf] at hxs
      exact absurd hxs (by simp)
    · exact hgood
  refine ⟨nodup_eraseDups all, fun names hd => (hselected names hd).1, fun q => ?_⟩
  rw [List.mem_eraseDups, hmem]
  constructor
  · rintro ⟨r, hr, xs, hxs, hq⟩
    obtain ⟨names, rfl, hd⟩ := (mem_directoriesFrom hdirectory).mp hr
    obtain ⟨-, found, hfound, hin⟩ := hselected names hd
    obtain rfl : found = xs := Except.ok.inj (hfound.symm.trans hxs)
    exact ⟨names, (hin q).mp hq⟩
  · rintro ⟨names, name, hq, hcovers, hpass, hthere⟩
    have hd := lookup_above hthere
    obtain ⟨-, found, hfound, hin⟩ := hselected names hd
    exact ⟨_, (mem_directoriesFrom hdirectory).mpr ⟨names, rfl, hd⟩, found, hfound,
      (hin q).mpr ⟨name, hq, hcovers, hpass, hthere⟩⟩

/-- What a scan asks about: the directories below, and what has a name that is covered. -/
def Asked (t : FileTree) (tokens : List Wildcard.Token) (l : Location) (names : List Text) : Prop :=
  t.lookup (l ++ names) = some .directory
    ∨ t.lookup (l ++ names) ≠ none
      ∧ ∃ front name, names = front ++ [name] ∧ Wildcard.covers tokens name = true

/-- A scan fails when the system does not let a path pass that it asks about. -/
theorem scanTooLong_everywhere_iff : ScanTooLong t here directory (everywhere tokens)
    ↔ ∃ names, Asked t tokens l names ∧ passage directory names = .error .nameTooLong := by
  constructor
  · rintro (hlong | ⟨f, hf⟩ | ⟨paths, hpaths, q, hq, hlong⟩)
    · unfold TooLong at hlong
      rw [hdirectory] at hlong
      exact absurd hlong (by simp)
    · obtain ⟨names, hd, hlong⟩ := glob_everywhere_error hlinks hdirectory hf
      exact ⟨names, .inl hd, hlong⟩
    · obtain ⟨-, -, hmem⟩ := mem_glob_everywhere hlinks hdirectory hpaths
      obtain ⟨front, name, rfl, hcovers, -, hthere⟩ := (hmem q).mp hq
      obtain ⟨e, he⟩ := Option.ne_none_iff_exists'.mp hthere
      exact ⟨front ++ [name], .inr ⟨hthere, front, name, rfl, hcovers⟩,
        (tooLong_descend_iff hlinks hdirectory he).mp hlong⟩
  · rintro ⟨names, hasked, hlong⟩
    cases hglob : t.glob here (everywhere tokens) directory with
    | error f => exact .inr (.inl ⟨f, hglob⟩)
    | ok paths =>
      obtain ⟨-, hpass, hmem⟩ := mem_glob_everywhere hlinks hdirectory hglob
      rcases hasked with hd | ⟨hthere, front, name, rfl, hcovers⟩
      · exact absurd hlong (hpass names hd)
      · -- The way there passes, so the path is selected, and then asked about.
        obtain ⟨e, he⟩ := Option.ne_none_iff_exists'.mp hthere
        have hfront : passage directory front = .ok () := by
          cases hf : passage directory front with
          | ok _ => rfl
          | error cause =>
            rcases passage_error hf with rfl | rfl
            · rw [passage_snoc_of_badCharacter hf] at hlong
              exact absurd hlong (by simp)
            · exact absurd hf (hpass front (lookup_above hthere))
        exact .inr (.inr ⟨paths, hglob, _, (hmem _).mpr ⟨front, name, rfl, hcovers, hfront, hthere⟩,
          (tooLong_descend_iff hlinks hdirectory he).mpr hlong⟩)

/-! ## Files -/

variable {pattern : Text} (hpattern : Glob.ofText pattern = .ok (everywhere tokens))
include hpattern

/-- **The files selected.** -/
theorem mem_files_everywhere {files : List Path}
    (h : selectFiles t here directory pattern = .ok files) :
    files.Nodup ∧ ∀ q, q ∈ files ↔ ∃ names name bytes, q = directory.descend (names ++ [name])
      ∧ Wildcard.covers tokens name = true ∧ passage directory (names ++ [name]) = .ok ()
      ∧ t.lookup (l ++ (names ++ [name])) = some (.file bytes) := by
  obtain ⟨paths, hpaths, -, hfiles⟩ := mem_files_iff hpattern h
  obtain ⟨hnodup, -, hmem⟩ := mem_glob_everywhere hlinks hdirectory hpaths
  refine ⟨nodup_files_of_glob hpattern hpaths hnodup h, fun q => ?_⟩
  rw [hfiles, hmem]
  constructor
  · rintro ⟨⟨names, name, rfl, hcovers, -, hthere⟩, k, bytes, hfind⟩
    obtain ⟨e, he⟩ := Option.ne_none_iff_exists'.mp hthere
    rw [find_descend hlinks hdirectory he] at hfind
    obtain ⟨⟨⟩, hpass, hfound⟩ := map_ok_iff.mp hfind
    simp only [Found.mk.injEq, Option.some.injEq] at hfound
    exact ⟨names, name, bytes, rfl, hcovers, hpass, by rw [he, hfound.2]⟩
  · rintro ⟨names, name, bytes, rfl, hcovers, hpass, he⟩
    refine ⟨⟨names, name, rfl, hcovers, passage_of_snoc_ok hpass, by simp [he]⟩, ?_⟩
    refine ⟨l ++ (names ++ [name]), bytes, ?_⟩
    rw [find_descend hlinks hdirectory he, hpass]
    rfl

end Below

/-! ## Two trees -/

theorem selectFiles_sorted {pattern : Text} {files : List Path}
    (h : selectFiles t here directory pattern = .ok files) :
    ∃ found : List Path, files = found.mergeSort fun p q => Text.atMostPiecewise p.parts q.parts := by
  obtain ⟨g, hg⟩ := exists_glob_of_selectFiles h
  obtain ⟨-, found, -, -, hfiles⟩ := (selectFiles_ok_iff hg).mp h
  exact ⟨found, hfiles⟩

/-- Sorting tells apart the paths that lead down from one directory. -/
theorem files_eq_of_perm {found found' : List Path}
    (hdown : ∀ q ∈ found, ∃ names, q = directory.descend names) (h : found.Perm found') :
    (found.mergeSort fun p q => Text.atMostPiecewise p.parts q.parts)
      = found'.mergeSort fun p q => Text.atMostPiecewise p.parts q.parts := by
  refine Text.mergeSort_eq_of_perm ?_ ?_ ?_ h
  · intro a b c hab hbc
    rw [Text.atMostPiecewise_iff_le] at hab hbc ⊢
    exact le_trans hab hbc
  · intro a b
    rw [Bool.or_eq_true, Text.atMostPiecewise_iff_le, Text.atMostPiecewise_iff_le]
    exact le_total _ _
  · intro a ha b hb hab hba
    rw [Text.atMostPiecewise_iff_le] at hab hba
    obtain ⟨names, rfl⟩ := hdown a ha
    obtain ⟨others, rfl⟩ := hdown b hb
    exact congrArg (Path.mk directory.anchor) (le_antisymm hab hba)

section TwoTrees

variable {pattern : Text} (ht : t.NoLinks) (hu : u.NoLinks)
  (hdt : t.find here true directory = .ok ⟨l, some .directory⟩)
  (hdu : u.find here true directory = .ok ⟨l, some .directory⟩)
  (hpattern : Glob.ofText pattern = .ok (everywhere tokens))
  (hsame : ∀ names name bytes, Wildcard.covers tokens name = true →
    (t.lookup (l ++ (names ++ [name])) = some (.file bytes)
      ↔ u.lookup (l ++ (names ++ [name])) = some (.file bytes)))
include ht hu hdt hdu hpattern hsame

theorem selectFiles_everywhere_eq {files files' : List Path}
    (h : selectFiles t here directory pattern = .ok files)
    (h' : selectFiles u here directory pattern = .ok files') : files' = files := by
  obtain ⟨hnodup, hmem⟩ := mem_files_everywhere ht hdt hpattern h
  obtain ⟨hnodup', hmem'⟩ := mem_files_everywhere hu hdu hpattern h'
  have hperm : files'.Perm files := by
    refine (List.perm_ext_iff_of_nodup hnodup' hnodup).mpr fun q => ?_
    rw [hmem, hmem']
    refine exists_congr fun names => exists_congr fun name => exists_congr fun bytes => ?_
    refine and_congr_right fun _ => and_congr_right fun hcovers => and_congr_right fun _ => ?_
    exact (hsame names name bytes hcovers).symm
  have hdown : ∀ q ∈ files', ∃ names, q = directory.descend names := by
    intro q hq
    obtain ⟨names, name, -, hq, -⟩ := (hmem' q).mp hq
    exact ⟨_, hq⟩
  obtain ⟨found, rfl⟩ := selectFiles_sorted h
  obtain ⟨found', rfl⟩ := selectFiles_sorted h'
  refine files_eq_of_perm (fun q hq => hdown q (List.mem_mergeSort.mpr hq)) ?_
  exact (List.mergeSort_perm found' _).symm.trans (hperm.trans (List.mergeSort_perm found _))

/-- A file selected is read with the same outcome in both. -/
theorem readUnit_everywhere_eq {files : List Path}
    (h : selectFiles t here directory pattern = .ok files) (hq : q ∈ files) :
    readUnit u here unreadable q = readUnit t here unreadable q := by
  obtain ⟨names, name, bytes, rfl, hcovers, -, he⟩ :=
    ((mem_files_everywhere ht hdt hpattern h).2 q).mp hq
  have he' := (hsame names name bytes hcovers).mp he
  have hfind : u.find here true (directory.descend (names ++ [name]))
      = t.find here true (directory.descend (names ++ [name])) :=
    (find_descend hu hdu he').trans (find_descend ht hdt he).symm
  simp only [readUnit, readBytes, FileTree.read, hfind]

/-- **Two trees with the same such files** are scanned with the same outcome. -/
theorem load_everywhere_eq {loaded : Loaded}
    (h : load t here unreadable directory pattern = .ok loaded)
    (hshort : ¬ ScanTooLong u here directory (everywhere tokens)) :
    load u here unreadable directory pattern = .ok loaded := by
  cases hs' : selectFiles u here directory pattern with
  | error fault => exact absurd (selectFiles_error hpattern hs').2 hshort
  | ok files' =>
    obtain ⟨files, hs, hloaded⟩ := map_ok_iff.mp h
    obtain rfl : files' = files := selectFiles_everywhere_eq ht hu hdt hdu hpattern hsame hs hs'
    have hreads : files'.map (readUnit u here unreadable) = files'.map (readUnit t here unreadable) :=
      List.map_congr_left fun q hq =>
        readUnit_everywhere_eq ht hu hdt hdu hpattern hsame hs hq
    refine map_ok_iff.mpr ⟨files', hs', ?_⟩
    rw [hreads]
    exact hloaded

end TwoTrees

end Model
end EntityDiagram
