import EntityDiagram.Proofs.FileTree.Selecting
import EntityDiagram.Proofs.Model.Scheduling
import EntityDiagram.Proofs.Model.Selection

/-!
# A scan loses nothing and leaves nothing to chance

Three things about a scan are left to the system: the order in which directories list what they hold,
how many files are read at a time, and the order in which the reads are done. This module says that
none of them shows. Every file that the pattern selects is found in the outcome exactly once, as a
unit or as a report (`Scanned`), and the outcome is the same however the directories are listed and
whatever the schedule (`scan_independent`).

The one reservation is the one that every question about a path is under. If a path that the scan asks
about is too long for the system, the scan has no outcome at all: it fails with that fault.
-/

namespace EntityDiagram
namespace Model

open FileTree

variable {t u : FileTree} {here : Location} {unreadable : List Location}

/-! ## The files selected -/

theorem filesAmong_sublist {paths files : List Path} (h : filesAmong t here paths = .ok files) :
    files.Sublist paths := by
  obtain ⟨-, rfl⟩ := collect_ok_iff.mp h
  clear h
  induction paths with
  | nil => exact .slnil
  | cons p rest ih =>
    rw [List.flatMap_cons]
    have hstep : given ((t.isFile here p).map fun b => if b then [p] else []) = [p]
        ∨ given ((t.isFile here p).map fun b => if b then [p] else []) = [] := by
      cases t.isFile here p with
      | error f => exact .inr rfl
      | ok b => cases b <;> simp [given, Except.map]
    rcases hstep with heq | heq <;> rw [heq]
    · exact ih.cons_cons p
    · exact ih.cons p

section Relisted

variable (ht : t.Relisted u)
include ht

theorem filesAmong_relisted {paths paths' files : List Path} (hpaths : paths.Perm paths')
    (h : filesAmong t here paths = .ok files) :
    ∃ files', filesAmong u here paths' = .ok files' ∧ files.Perm files' := by
  refine collect_perm hpaths ?_ h
  intro p _ xs hxs
  refine ⟨xs, ?_, .refl xs⟩
  simpa only [isFile, ht.probe_eq] using hxs

theorem selectFiles_relisted {directory : Path} {pattern : Text} {files : List Path}
    (h : selectFiles t here directory pattern = .ok files) :
    ∃ files', selectFiles u here directory pattern = .ok files' ∧ files.Perm files' := by
  obtain ⟨g, hg⟩ := exists_glob_of_selectFiles h
  obtain ⟨paths, found, hpaths, hfound, rfl⟩ := (selectFiles_ok_iff hg).mp h
  obtain ⟨paths', hpaths', hperm⟩ := glob_relisted ht hpaths
  obtain ⟨found', hfound', hperm'⟩ := filesAmong_relisted ht hperm hfound
  refine ⟨_, (selectFiles_ok_iff hg).mpr ⟨paths', found', hpaths', hfound', rfl⟩, ?_⟩
  exact (List.mergeSort_perm _ _).trans (hperm'.trans (List.mergeSort_perm _ _).symm)

theorem readUnit_relisted (p : Path) :
    readUnit t here unreadable p = readUnit u here unreadable p := by
  simp only [readUnit, readBytes, FileTree.read, ht.find_eq]

end Relisted

section Select

variable {directory : Path} {pattern : Text} {g : Glob} {files : List Path}
  (hg : Glob.ofText pattern = .ok g)
include hg

theorem nodup_files_of_glob {paths : List Path} (hpaths : t.glob here g directory = .ok paths)
    (hnodup : paths.Nodup) (h : selectFiles t here directory pattern = .ok files) :
    files.Nodup := by
  obtain ⟨paths', found, hpaths', hfound, rfl⟩ := (selectFiles_ok_iff hg).mp h
  obtain rfl : paths = paths' := Except.ok.inj (hpaths.symm.trans hpaths')
  exact (List.mergeSort_perm _ _).nodup_iff.mpr ((filesAmong_sublist hfound).nodup hnodup)

variable (h : selectFiles t here directory pattern = .ok files)
include h

theorem nodup_files : files.Nodup := by
  obtain ⟨paths, hpaths, -⟩ := mem_files_iff hg h
  exact nodup_files_of_glob hg hpaths (glob_nodup (stepsNoSlash_of_ofText hg) hpaths) h

/-- No two of the files selected have the same path as text. -/
theorem nodup_toText_files : (files.map Path.toText).Nodup := by
  obtain ⟨paths, hpaths, -, hfiles⟩ := mem_files_iff hg h
  have hdown : ∀ p ∈ files, ∃ names : List Text, names ≠ [] ∧ (∀ name ∈ names, Path.NoSlash name)
      ∧ p = directory.descend names := by
    intro p hp
    obtain ⟨hmem, l, bytes, hfile⟩ := (hfiles p).mp hp
    obtain ⟨names, hnames, hp⟩ := glob_descends (stepsNoSlash_of_ofText hg) hpaths hmem
    refine ⟨names, ?_, hnames, hp⟩
    -- The directory searched is no file, so the file is further down.
    rintro rfl
    obtain ⟨l', hdirectory⟩ := leadsToDirectory_of_mem_glob hpaths hmem
    have hsame : p = directory := by simp [hp, Path.descend]
    rw [hsame, hdirectory] at hfile
    exact absurd hfile (by simp)
  refine (nodup_files hg h).map_on ?_
  intro p hp q hq heq
  obtain ⟨names, hne, hnames, rfl⟩ := hdown p hp
  obtain ⟨others, hne', hothers, rfl⟩ := hdown q hq
  rw [Path.toText_descend_injective hne hne' hnames hothers heq]

theorem nodup_labels_files : ((files.map (readUnit t here unreadable)).map label).Nodup := by
  have hlabels : (files.map (readUnit t here unreadable)).map label = files.map Path.toText := by
    rw [List.map_map]
    exact List.map_congr_left fun p _ => label_readUnit t here unreadable p
  rw [hlabels]
  exact nodup_toText_files hg h

end Select

/-! ## The outcome -/

/-- What is to be found after a scan of the paths that a pattern gives: of every path that leads to a
    file its unit if the file can be read and a report if not, each path once in all, no others, and
    both lists in the order of the paths. -/
structure Scanned (t : FileTree) (here : Location) (unreadable : List Location) (paths : List Path)
    (units : List SourceUnit) (unread : List Skipped) : Prop where
  unit : ∀ p ∈ paths, t.LeadsToFile here p → ∀ bytes, t.readBytes here unreadable p = .ok bytes →
    ⟨p.stem, Utf8.unifyLineEnds (Utf8.decodeTolerant bytes), p.toText⟩ ∈ units
  report : ∀ p ∈ paths, t.LeadsToFile here p → ∀ f, t.readBytes here unreadable p = .error f →
    ⟨p.toText, f.message⟩ ∈ unread
  once : (units.map (·.path) ++ unread.map (·.file)).Nodup
  only : ∀ text ∈ units.map (·.path) ++ unread.map (·.file),
    ∃ p ∈ paths, t.LeadsToFile here p ∧ p.toText = text
  units_increase : units.Pairwise fun a b => a.path < b.path
  reports_increase : unread.Pairwise fun a b => a.file < b.file

theorem scanned_gather {paths files : List Path}
    (hfiles : ∀ q, q ∈ files ↔ q ∈ paths ∧ t.LeadsToFile here q)
    (hdistinct : ((files.map (readUnit t here unreadable)).map label).Nodup) :
    Scanned t here unreadable paths (gather (files.map (readUnit t here unreadable))).1
      (gather (files.map (readUnit t here unreadable))).2 := by
  have hunits := Text.sortBy_perm (·.path) (unitsOf (files.map (readUnit t here unreadable)))
  have hreports := Text.sortBy_perm (·.file) (reportsOf (files.map (readUnit t here unreadable)))
  have hlabels := ((hunits.map (·.path)).append (hreports.map (·.file))).trans
    (labels_perm (files.map (readUnit t here unreadable)))
  refine ⟨?_, ?_, hlabels.nodup_iff.mpr hdistinct, ?_,
    Text.pairwise_lt_sortBy (nodup_unit_paths hdistinct),
    Text.pairwise_lt_sortBy (nodup_report_paths hdistinct)⟩
  · intro p hp hfile bytes hread
    refine hunits.mem_iff.mpr (mem_unitsOf.mpr (List.mem_map.mpr ⟨p, (hfiles p).mpr ⟨hp, hfile⟩, ?_⟩))
    rw [readUnit, hread]
  · intro p hp hfile f hread
    refine hreports.mem_iff.mpr
      (mem_reportsOf.mpr (List.mem_map.mpr ⟨p, (hfiles p).mpr ⟨hp, hfile⟩, ?_⟩))
    rw [readUnit, hread]
  · intro text htext
    obtain ⟨r, hr, rfl⟩ := List.mem_map.mp (hlabels.mem_iff.mp htext)
    obtain ⟨p, hp, rfl⟩ := List.mem_map.mp hr
    obtain ⟨hmem, hfile⟩ := (hfiles p).mp hp
    exact ⟨p, hmem, hfile, (label_readUnit t here unreadable p).symm⟩

/-- However the directories are listed and whatever the schedule, the scan comes to these units and
    these reports: `load` gives them, every schedule that cannot go on has finished with them, and no
    schedule goes on for ever. -/
def ComesTo (t : FileTree) (here : Location) (unreadable : List Location) (directory : Path)
    (pattern : Text) (units : List SourceUnit) (unread : List Skipped) : Prop :=
  ∀ u : FileTree, t.Relisted u → ∃ files log,
    selectFiles u here directory pattern = .ok files
    ∧ load u here unreadable directory pattern = .ok ⟨units, unread, log⟩
    ∧ ∀ maxParallel : Int,
        let Step := Reads.Step (readUnit u here unreadable) (readsAtATime maxParallel)
        (WellFounded fun r' r => Step r r')
        ∧ ∀ r, Relation.ReflTransGen Step { waiting := files } r →
            (∃ r', Step r r') ∨ r.Finished ∧ r.outcome = (units, unread)

theorem comesTo_gather {directory : Path} {pattern : Text} {g : Glob} {files : List Path}
    (hg : Glob.ofText pattern = .ok g)
    (h : selectFiles t here directory pattern = .ok files) :
    ComesTo t here unreadable directory pattern
      (gather (files.map (readUnit t here unreadable))).1
      (gather (files.map (readUnit t here unreadable))).2 := by
  intro u hu
  obtain ⟨files', hfiles', hperm⟩ := selectFiles_relisted hu h
  have hread : readUnit u here unreadable = readUnit t here unreadable :=
    funext fun p => (readUnit_relisted hu p).symm
  have hdistinct : ((files.map (readUnit t here unreadable)).map label).Nodup :=
    nodup_labels_files hg h
  have hdistinct' : ((files'.map (readUnit t here unreadable)).map label).Nodup :=
    ((hperm.map _).map _).nodup_iff.mp hdistinct
  have hgather : gather (files'.map (readUnit u here unreadable))
      = gather (files.map (readUnit t here unreadable)) := by
    rw [hread]
    exact (gather_eq_of_perm hdistinct (hperm.map _)).symm
  refine ⟨files', (reportsOf (files'.map (readUnit u here unreadable))).map unreadNote, hfiles',
    ?_, ?_⟩
  · unfold load
    rw [hfiles', ← hgather]
    rfl
  · intro maxParallel
    refine ⟨Reads.wellFounded_step _ _, ?_⟩
    intro r hr
    by_cases hfinished : r.Finished
    · refine .inr ⟨hfinished, ?_⟩
      rw [Reads.outcome_of_finished (hread ▸ hdistinct') hr hfinished, hgather]
    · exact .inl (Reads.exists_step (readsAtATime_pos maxParallel) hfinished)

theorem load_of_scanTooLong {directory : Path} {pattern : Text} {g : Glob}
    (hg : Glob.ofText pattern = .ok g) (h : ScanTooLong t here directory g) :
    ∃ f, load t here unreadable directory pattern = .error (.file f) ∧ f.cause = .nameTooLong := by
  cases hl : load t here unreadable directory pattern with
  | error fault =>
    obtain ⟨⟨f, rfl, hcause⟩, -⟩ := selectFiles_error hg (selectFiles_of_load_error hl)
    exact ⟨f, rfl, hcause⟩
  | ok loaded =>
    obtain ⟨files, hs, -⟩ := mem_units_iff hl
    obtain ⟨paths, hpaths, -⟩ := mem_files_iff hg hs
    -- A directory whose path is too long is not even searched.
    have hshort : ¬ t.TooLong here directory := by
      intro hlong
      rw [glob_eq, isDirectory_error_iff.mpr ⟨hlong, rfl⟩, goOn_error] at hpaths
      exact absurd hpaths (by simp)
    exact absurd h (not_scanTooLong_of_ok hg hshort hs)

/-- **A scan loses nothing and leaves nothing to chance.** Unless a path that it asks about is too
    long, in which case it fails with that fault, a scan by a pattern finds every file that the
    pattern selects exactly once, read or reported, in the order of the paths; and it does so however
    directories are listed, however many files are read at a time, and in whatever order the reads are
    done. -/
theorem scan_independent (t : FileTree) (here : Location) (unreadable : List Location)
    (directory : Path) (pattern : Text) (g : Glob) (hg : Glob.ofText pattern = .ok g) :
    (¬ ScanTooLong t here directory g →
      ∃ paths units unread, t.glob here g directory = .ok paths ∧ paths.Nodup
        ∧ Scanned t here unreadable paths units unread
        ∧ ComesTo t here unreadable directory pattern units unread)
    ∧ (ScanTooLong t here directory g →
        ∃ f, load t here unreadable directory pattern = .error (.file f)
          ∧ f.cause = .nameTooLong) := by
  refine ⟨?_, load_of_scanTooLong hg⟩
  intro hshort
  cases hs : selectFiles t here directory pattern with
  | error fault => exact absurd (selectFiles_error hg hs).2 hshort
  | ok files =>
    obtain ⟨paths, hpaths, -, hfiles⟩ := mem_files_iff hg hs
    exact ⟨paths, _, _, hpaths, glob_nodup (stepsNoSlash_of_ofText hg) hpaths,
      scanned_gather hfiles (nodup_labels_files hg hs), comesTo_gather hg hs⟩


/-! ### At work -/

/-- A directory with two files that can be read and, listed before them, one that cannot. -/
def threeFiles : FileTree :=
  (((FileTree.empty.put ["m"] .directory).put ["m", "B.php"] (.file (Utf8.encode "<?php // b"))).put
    ["m", "A.php"] (.file (Utf8.encode "<?php // a"))).put ["m", "A-B.php"] (.file [])

/-- The paths of its files, in the order in which they are looked at. -/
def threePaths : List Path :=
  [⟨.here, ["m", "A-B.php"]⟩, ⟨.here, ["m", "A.php"]⟩, ⟨.here, ["m", "B.php"]⟩]

/-- What their reading gives, when the first of them may not be read. -/
def threeUnits : List SourceUnit := [⟨"A", "<?php // a", "m/A.php"⟩, ⟨"B", "<?php // b", "m/B.php"⟩]

def threeReports : List Skipped := [⟨"m/A-B.php", "[Errno 13] Permission denied: 'm/A-B.php'"⟩]

theorem selectFiles_threeFiles :
    selectFiles threeFiles [] ⟨.here, ["m"]⟩ "**/*.php" = .ok threePaths := by
  have hsort : selectFiles threeFiles [] ⟨.here, ["m"]⟩ "**/*.php"
      = .ok (threePaths.mergeSort fun p q => Text.atMostPiecewise p.parts q.parts) := rfl
  rw [hsort, List.mergeSort_of_pairwise (by decide)]

theorem reads_threePaths : threePaths.map (readUnit threeFiles [] [["m", "A-B.php"]])
    = threeReports.map .error ++ threeUnits.map .ok := by
  decide +kernel

theorem gather_threePaths : gather (threePaths.map (readUnit threeFiles [] [["m", "A-B.php"]]))
    = (threeUnits, threeReports) := by
  have hsort : gather (threeReports.map .error ++ threeUnits.map .ok)
      = (threeUnits.mergeSort fun u v => Text.atMost u.path v.path,
        threeReports.mergeSort fun s s' => Text.atMost s.file s'.file) := rfl
  rw [reads_threePaths, hsort, List.mergeSort_of_pairwise (by decide), threeReports,
    List.mergeSort_singleton]

/-- All three are begun in order, and then each is done before the one that was begun before it. -/
theorem steps_threePaths : Reads.Steps (readUnit threeFiles [] [["m", "A-B.php"]]) (readsAtATime 3)
    { waiting := threePaths } ⟨[], [], threeUnits.reverse, threeReports⟩ := by
  have hreads := reads_threePaths
  simp only [threePaths, threeReports, threeUnits, List.map_cons, List.map_nil, List.cons_append,
    List.nil_append, List.cons.injEq, and_true] at hreads
  obtain ⟨hab, ha, hb⟩ := hreads
  refine .head (Reads.Step.begin [] _ _ (by decide)) ?_
  refine .head (Reads.Step.begin [] _ _ (by decide)) ?_
  refine .head (Reads.Step.begin [] [] _ (by decide)) ?_
  refine .head (Reads.Step.done [] _ _) ?_
  rw [hb]
  refine .head (Reads.Step.done [] _ _) ?_
  rw [ha]
  refine .head (Reads.Step.done [] [] _) ?_
  rw [hab]
  exact .refl

/-- The law at work: with room for three reads, the file that was begun last is done first, and comes
    second all the same. -/
theorem scan_independent_three_files :
    ∃ r, Reads.Steps (readUnit threeFiles [] [["m", "A-B.php"]]) (readsAtATime 3)
        { waiting := [⟨.here, ["m", "A-B.php"]⟩, ⟨.here, ["m", "A.php"]⟩, ⟨.here, ["m", "B.php"]⟩] } r
      ∧ r.units = [⟨"B", "<?php // b", "m/B.php"⟩, ⟨"A", "<?php // a", "m/A.php"⟩]
      ∧ r.outcome = ([⟨"A", "<?php // a", "m/A.php"⟩, ⟨"B", "<?php // b", "m/B.php"⟩],
          [⟨"m/A-B.php", "[Errno 13] Permission denied: 'm/A-B.php'"⟩]) := by
  have hg : Glob.ofText "**/*.php"
      = .ok ⟨[.anywhere, .covered (Wildcard.tokens "*.php")], false⟩ := rfl
  have hshort : ¬ ScanTooLong threeFiles [] ⟨.here, ["m"]⟩
      ⟨[.anywhere, .covered (Wildcard.tokens "*.php")], false⟩ :=
    not_scanTooLong_of_ok hg nofun selectFiles_threeFiles
  obtain ⟨-, units, unread, -, -, -, hcomes⟩ :=
    (scan_independent threeFiles [] [["m", "A-B.php"]] ⟨.here, ["m"]⟩ "**/*.php" _ hg).1 hshort
  obtain ⟨files, log, hfiles, hload, hschedules⟩ := hcomes threeFiles (.refl _)
  have houtcome : (units, unread) = (threeUnits, threeReports) := by
    obtain ⟨files', hfiles', hloaded⟩ := map_ok_iff.mp hload
    obtain rfl : threePaths = files' := Except.ok.inj (selectFiles_threeFiles.symm.trans hfiles')
    dsimp only at hloaded
    rw [gather_threePaths, Loaded.mk.injEq] at hloaded
    rw [← hloaded.1, ← hloaded.2.1]
  obtain rfl : threePaths = files := Except.ok.inj (selectFiles_threeFiles.symm.trans hfiles)
  rcases (hschedules 3).2 _ steps_threePaths with ⟨r', h⟩ | ⟨-, h⟩
  · exact absurd h.eventsLeft_lt (Nat.not_lt_zero _)
  · exact ⟨_, steps_threePaths, rfl, h.trans houtcome⟩

/-! ### Where the system gives up -/

def deepName : Text := List.replicate 200 'd'

def modelsName : Text := List.replicate 15 'm'

/-- A directory with a long name, and beside it one that holds a model file. -/
def besideDeep : FileTree :=
  ((FileTree.empty.put [deepName] .directory).put [modelsName] .directory).put
    [modelsName, "A.php"] (.file (Utf8.encode "<?php"))

/-- Twenty times into the long directory and out again, and then to the models. -/
def roundabout : Path := ⟨.here, (List.replicate 20 [deepName, wayUp]).flatten ++ [modelsName]⟩

/-- The path to the directory is as long as a path may be, so those to its files are too long. -/
theorem load_fails_at_longestPath :
    ¬ ∀ (t : FileTree) (here : Location) (unreadable : List Location) (directory : Path)
        (pattern : Text) (g : Glob), Glob.ofText pattern = .ok g →
        ∃ loaded, load t here unreadable directory pattern = .ok loaded := by
  intro h
  obtain ⟨loaded, hloaded⟩ := h besideDeep [] [] roundabout "**/*.php"
    ⟨[.anywhere, .covered (Wildcard.tokens "*.php")], false⟩ rfl
  have hfails : (load besideDeep [] [] roundabout "**/*.php").isOk = false := by
    decide +kernel
  rw [hloaded] at hfails
  cases hfails

end Model
end EntityDiagram
