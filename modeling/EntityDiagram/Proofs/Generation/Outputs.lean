import EntityDiagram.Proofs.FileTree.Removing
import EntityDiagram.Proofs.FileTree.Walking
import EntityDiagram.Proofs.Generation.Work
import EntityDiagram.Proofs.Viewer.Page

/-!
# The page and the diagram belong together

A run writes two files, the page before the diagram, and nothing is put back when a write fails. So
one may fear for a directory in which the page shows another diagram than the one beside it. The
invariant that rules this out is `Paired`: wherever both files stand, the page is made from the very
diagram beside it. Cleaning and making directories keep it because they bring no file into being,
wherever they stop, and the two writes keep it together, although the first of them alone does not.

As far as the tree goes hardly anything can come between the two writes. Without links the two paths
lead into the same directory (`find_child`), so after the page was written the diagram fails to
follow only if a directory stands in its place, and then there is no diagram beside the page; or if
its path, the longer of the two by one byte, is the first that is too long (`RoomForBoth`). What is no
matter of the tree can come between them at any time: a page that breaks off, a diagram that may not
be written. Runs in which nothing does are `Whole`, and these lead to paired trees only, whatever else
makes them fail (`paired_after`). A run that is `Torn` replaces the page and leaves the diagram as it
was (`publish_torn`), and so the invariant fails, even when no more is in the way than the length of a
path (`mixed_at_longestPath`).
-/

namespace EntityDiagram
namespace Generation

open Work FileTree

variable {t u : FileTree} {here : Location} {directory : Path}

/-! ## The invariant -/

/-- A page and a diagram that belong together: the page is made from that diagram. -/
def BelongTogether (page diagram : List UInt8) : Prop :=
  ∃ inputs : Viewer.Inputs,
    page = Utf8.encode (Viewer.page inputs) ∧ diagram = Utf8.encode inputs.diagram

/-- Wherever a page and a diagram stand in one directory, they belong together. -/
def Paired (t : FileTree) : Prop :=
  ∀ l page diagram, t.lookup (l ++ [pageName]) = some (.file page) →
    t.lookup (l ++ [diagramName]) = some (.file diagram) → BelongTogether page diagram

def NoPair (t : FileTree) : Prop :=
  ∀ l, t.lookup (l ++ [pageName]) = none ∨ t.lookup (l ++ [diagramName]) = none

theorem NoPair.paired (h : NoPair t) : Paired t := by
  intro l page diagram hpage hdiagram
  rcases h l with hnone | hnone
  · rw [hnone] at hpage
    exact absurd hpage (by simp)
  · rw [hnone] at hdiagram
    exact absurd hdiagram (by simp)

theorem Paired.of_noNewFiles (h : Paired t) (hnew : t.NoNewFiles u) : Paired u := by
  intro l page diagram hpage hdiagram
  exact h l page diagram (hnew _ _ hpage (by simp)) (hnew _ _ hdiagram (by simp))

/-- What is kept true of the tree: no links, and pages beside their diagrams. -/
structure Sound (t : FileTree) : Prop where
  noLinks : t.NoLinks
  paired : Paired t

theorem Sound.of_noNewFiles (h : Sound t) (hnew : t.NoNewFiles u) : Sound u :=
  ⟨h.noLinks.of_noNewFiles hnew, h.paired.of_noNewFiles hnew⟩

/-! ## The two writes -/

/-- The path to the page has not exactly the length at which the path to the diagram, longer by one
    byte, is too long. -/
def RoomForBoth (directory : Path) : Prop :=
  (Utf8.encode (directory.child pageName).toText).length ≠ longestPath

/-- Nothing comes between the two writes into the directory: the page is not even opened, or nothing
    keeps either file from being written, and there is room for both. -/
def Untorn (obstacle? : Path → Option Obstacle) (directory : Path) : Prop :=
  (∃ f, obstacle? (directory.child pageName) = some (.refused f))
    ∨ Unobstructed obstacle? directory ∧ RoomForBoth directory

/-- A tree to write into the directory from. -/
structure Ready (directory : Path) (t : FileTree) (obstacle? : Path → Option Obstacle) : Prop where
  sound : Sound t
  untorn : Untorn obstacle? directory

theorem isName_pageName : IsName pageName := by decide

theorem isName_diagramName : IsName diagramName := by decide

/-- The paths to the two files differ by one byte in length. -/
theorem length_diagram (directory : Path) :
    (Utf8.encode (directory.child diagramName).toText).length
      = (Utf8.encode (directory.child pageName).toText).length + 1 := by
  obtain ⟨front, hfront⟩ := toText_child directory
  have hpage : (Utf8.encode pageName).length = 10 := by decide
  have hdiagram : (Utf8.encode diagramName).length = 11 := by decide
  rw [hfront, hfront]
  unfold Utf8.encode at hpage hdiagram ⊢
  rw [List.flatMap_append, List.flatMap_append, List.length_append, List.length_append, hpage,
    hdiagram]

theorem admitted_diagram (hroom : RoomForBoth directory)
    (h : Admitted (directory.child pageName)) : Admitted (directory.child diagramName) := by
  refine h.sibling (by decide) ?_
  have hshort := h.2
  unfold RoomForBoth at hroom
  rw [length_diagram]
  omega

/-- **The two writes as one step.** Either nothing is written, or the page is and a directory stands
    where the diagram belongs, or both files are. -/
theorem write_both {page diagram : List UInt8} (hlinks : t.NoLinks) (hroom : RoomForBoth directory)
    (h : t.write here (directory.child pageName) page = .ok u) :
    ∃ m, (∀ l, u.lookup l = if l = m ++ [pageName] then some (.file page) else t.lookup l)
      ∧ ((∃ f, u.write here (directory.child diagramName) diagram = .error f
            ∧ u.lookup (m ++ [diagramName]) = some .directory)
        ∨ ∃ v, u.write here (directory.child diagramName) diagram = .ok v
            ∧ ∀ l, v.lookup l
              = if l = m ++ [diagramName] then some (.file diagram) else u.lookup l) := by
  obtain ⟨found, hfind, hentry, hu⟩ := write_ok h
  obtain ⟨hadmitted, hstart, m, hway, rfl⟩ := (find_child hlinks isName_pageName).mp hfind
  -- The way to the directory stays open, because no directory was overwritten.
  have hkeep : ∀ k, t.lookup k = some .directory → u.lookup k = some .directory := by
    intro k hk
    rw [hu]
    split
    · next heq =>
      subst heq
      exact absurd hk hentry
    · exact hk
  have hdiagram : u.find here true (directory.child diagramName)
      = .ok ⟨m ++ [diagramName], u.lookup (m ++ [diagramName])⟩ :=
    (find_child (hlinks.write h) isName_diagramName).mpr ⟨admitted_diagram hroom hadmitted,
      hkeep _ hstart, m, stretch_directory_mono hkeep hway, rfl⟩
  refine ⟨m, hu, ?_⟩
  cases hw : u.write here (directory.child diagramName) diagram with
  | error f => exact .inl ⟨f, rfl, write_error hw hdiagram⟩
  | ok v =>
    obtain ⟨found, hfound, -, hv⟩ := write_ok hw
    rw [hdiagram, Except.ok.injEq] at hfound
    subst hfound
    exact .inr ⟨v, rfl, hv⟩

theorem diagram_ne_page {l m : Location} : l ++ [diagramName] ≠ m ++ [pageName] := by
  intro h
  exact absurd (List.append_singleton_inj.mp h).2 (by decide)

/-- The page alone is written, and where the diagram belongs a directory stands. -/
theorem Paired.of_page {m : Location} {bytes : List UInt8} (h : Paired t)
    (hu : ∀ l, u.lookup l = if l = m ++ [pageName] then some (.file bytes) else t.lookup l)
    (hdir : u.lookup (m ++ [diagramName]) = some .directory) : Paired u := by
  intro l page diagram hp hd
  by_cases hl : l = m
  · subst hl
    rw [hdir] at hd
    exact absurd hd (by simp)
  · rw [hu, if_neg (by simpa using hl)] at hp
    rw [hu, if_neg diagram_ne_page] at hd
    exact h l page diagram hp hd

/-- Both files are written, and belong together. -/
theorem Paired.of_both {v : FileTree} {m : Location} {inputs : Viewer.Inputs} (h : Paired t)
    (hu : ∀ l, u.lookup l = if l = m ++ [pageName] then
      some (.file (Utf8.encode (Viewer.page inputs))) else t.lookup l)
    (hv : ∀ l, v.lookup l = if l = m ++ [diagramName] then
      some (.file (Utf8.encode inputs.diagram)) else u.lookup l) : Paired v := by
  intro l page diagram hp hd
  rw [hv, if_neg diagram_ne_page.symm, hu] at hp
  by_cases hl : l = m
  · subst hl
    rw [if_pos rfl, Option.some.injEq, Entry.file.injEq] at hp
    rw [hv, if_pos rfl, Option.some.injEq, Entry.file.injEq] at hd
    exact ⟨inputs, hp.symm, hd.symm⟩
  · rw [if_neg (by simpa using hl)] at hp
    rw [hv, if_neg (by simpa using hl), hu, if_neg diagram_ne_page] at hd
    exact h l page diagram hp hd

theorem preserves_writes {inputs : Viewer.Inputs} : Preserves (Ready directory) (do
    write (directory.child pageName) (Viewer.page inputs)
    write (directory.child diagramName) inputs.diagram) := by
  intro w hready
  obtain ⟨hsound, huntorn⟩ := hready
  rw [perform_bind, perform_write]
  rcases huntorn with ⟨f, hrefused⟩ | ⟨hclear, hroom⟩
  · rw [hrefused]
    exact ⟨hsound, .inl ⟨f, hrefused⟩⟩
  rw [hclear.page]
  cases hpage : w.tree.write w.here (directory.child pageName)
      (Utf8.encode (Viewer.page inputs)) with
  | error f =>
    rw [writeAgainst_of_error hpage]
    exact ⟨hsound, .inr ⟨hclear, hroom⟩⟩
  | ok u =>
    rw [writeAgainst_ok_iff.mpr ⟨rfl, hpage⟩]
    dsimp only
    rw [perform_write]
    dsimp only
    rw [hclear.diagram]
    refine ⟨?_, by split <;> exact .inr ⟨hclear, hroom⟩⟩
    -- Between the writes the tree is not sound, so the second is judged together with the first.
    obtain ⟨m, hu, ⟨f, hf, hdir⟩ | ⟨v, hv, hlookup⟩⟩ := write_both hsound.noLinks hroom hpage
    · rw [writeAgainst_of_error hf]
      exact ⟨hsound.noLinks.write hpage, hsound.paired.of_page hu hdir⟩
    · rw [writeAgainst_ok_iff.mpr ⟨rfl, hv⟩]
      exact ⟨(hsound.noLinks.write hpage).write hv, hsound.paired.of_both hu hlookup⟩

/-! ## Every step of a run -/

section NoNewFiles

variable {I : FileTree → (Path → Option Obstacle) → Prop}
  (hI : ∀ t u obstacle?, I t obstacle? → t.NoNewFiles u → I u obstacle?)
include hI

theorem preserves_makeDirectories (directory : Path) : Preserves I (makeDirectories directory) :=
  preserves_change fun _ hw => hI _ _ _ hw makeDirectories_grows.noNewFiles

theorem preserves_clean (directory : Path) (keep : Bool) : Preserves I (clean directory keep) := by
  have hchange : Preserves I (change fun w => w.tree.clean w.here directory keep) :=
    preserves_change fun _ hw => hI _ _ _ hw (shrinks_of_clean rfl).noNewFiles
  unfold clean
  refine preserves_get.bind fun w => ?_
  split
  · exact (preserves_report _).bind fun _ => hchange
  · exact hchange

end NoNewFiles

theorem preserves_putOut {c : Config} (inputs : Viewer.Inputs) :
    Preserves (Ready c.outputDir) (putOut c (Viewer.page inputs) inputs.diagram) := by
  have hnew : ∀ t u obstacle?, Ready c.outputDir t obstacle? → t.NoNewFiles u →
      Ready c.outputDir u obstacle? :=
    fun t u _ h hnew => ⟨h.sound.of_noNewFiles hnew, h.untorn⟩
  have hfiles : Preserves (Ready c.outputDir) (writeFiles c (Viewer.page inputs) inputs.diagram) :=
    (preserves_makeDirectories hnew _).bind fun _ => preserves_writes
  unfold putOut
  cases c.cleanOutput with
  | false => exact hfiles
  | true => exact (preserves_clean hnew _ true).bind fun _ => hfiles

theorem preserves_publish {c : Config} (schema : Schema) :
    Preserves (Ready c.outputDir) (publish c schema) := by
  rw [publish_eq]
  refine preserves_settings.bind fun settings => ?_
  exact preserves_get.bind fun w => preserves_putOut (inputsOf schema c.title w.today settings)

theorem preserves_generate {c : Config} : Preserves (Ready c.outputDir) (generate c) := by
  unfold generate
  refine preserves_get.bind fun w => ?_
  refine (preserves_report _).bind fun _ => ?_
  refine (preserves_ofExcept _).bind fun found => ?_
  exact (preserves_publish _).bind fun _ => preserves_pure _

theorem preserves_generateFromLiteral {c : Config} (document : Json) :
    Preserves (Ready c.outputDir) (generateFromLiteral document c) := by
  unfold generateFromLiteral
  cases Literal.read document with
  | error f => exact preserves_throw _
  | ok schema => exact (preserves_publish _).bind fun _ => preserves_pure _

/-! ## Calls -/

inductive Call where
  | generate (c : Config)
  | generateFromLiteral (document : Json) (c : Config)
  | generateProject (root : Path) (o : Overrides)
  | clean (directory : Path) (keep : Bool)

/-- The work that a call asks for, without its result. -/
def Call.work : Call → Work Unit
  | .generate c => (fun _ => ()) <$> Generation.generate c
  | .generateFromLiteral document c => (fun _ => ()) <$> Generation.generateFromLiteral document c
  | .generateProject root o => (fun _ => ()) <$> Generation.generateProject root o
  | .clean directory keep => Generation.clean directory keep

inductive Call.WritesInto (w : Workspace) : Call → Path → Prop
  | generate (c : Config) : WritesInto w (.generate c) c.outputDir
  | generateFromLiteral (document : Json) (c : Config) :
      WritesInto w (.generateFromLiteral document c) c.outputDir
  | generateProject (root : Path) (o : Overrides) {s : Settings}
      (h : (settings.perform w).1 = .ok s) :
      WritesInto w (.generateProject root o) (root.join (Config.of s o).outputDir)

/-- Nothing comes between the two writes of the call, if it comes to write. -/
def Whole (w : Workspace) (call : Call) : Prop :=
  ∀ directory, call.WritesInto w directory → Untorn w.obstacle? directory

/-- A tree that calls lead to, whether they fail or not. Between two calls everything about the
    workspace may change but its tree. -/
inductive After (allowed : Workspace → Call → Prop) (start : FileTree) : FileTree → Prop
  | start : After allowed start start
  | call {w : Workspace} (call : Call) (before : After allowed start w.tree)
      (h : allowed w call) : After allowed start (call.work.perform w).2.tree
  /-- A call was stopped, for whatever reason, before it opened the page: it has at most cleaned and
      made directories. All that is said of where that leaves the tree is that no file has come into
      being. What could have kept the files from being written does not matter then. -/
  | stopped {t u : FileTree} (before : After allowed start t) (h : t.NoNewFiles u) :
      After allowed start u

theorem perform_config (o : Overrides) (w : Workspace) :
    (config o).perform w
      = ((settings.perform w).1.map (Config.of · o), (settings.perform w).2) := by
  unfold config
  rw [perform_bind]
  generalize settings.perform w = r
  obtain ⟨r, w'⟩ := r
  cases r <;> rfl

theorem sound_generateProject {root : Path} {o : Overrides} {w : Workspace} (hw : Sound w.tree)
    (hwhole : Whole w (.generateProject root o)) :
    Sound ((generateProject root o).perform w).2.tree := by
  unfold generateProject
  rw [perform_bind, perform_config]
  cases hs : (settings.perform w).1 with
  | error f => exact (preserves_settings (I := fun t _ => Sound t)) w hw
  | ok s =>
    let c := (Config.of s o).within root none
    have hready : Ready c.outputDir w.tree w.obstacle? :=
      ⟨hw, hwhole _ (.generateProject root o hs)⟩
    refine ((preserves_get.bind fun w => ?_) _ (preserves_settings w hready)).sound
    split
    · exact preserves_generate (c := c)
    · exact (preserves_ofExcept _).bind fun detected =>
        preserves_generate (c := (Config.of s o).within root detected)

/-- **One call** keeps the invariant. -/
theorem Sound.call {w : Workspace} (hw : Sound w.tree) (call : Call) (hwhole : Whole w call) :
    Sound (call.work.perform w).2.tree := by
  cases call with
  | generate c =>
    exact (preserves_generate.map _ w ⟨hw, hwhole _ (.generate c)⟩).sound
  | generateFromLiteral document c =>
    exact ((preserves_generateFromLiteral document).map _ w
      ⟨hw, hwhole _ (.generateFromLiteral document c)⟩).sound
  | generateProject root o =>
    rw [Call.work, perform_map]
    exact sound_generateProject hw hwhole
  | clean directory keep =>
    exact preserves_clean (fun _ _ _ h hnew => Sound.of_noNewFiles h hnew) directory keep w hw

/-- **The two outputs never come from different runs.** Whatever calls lead from a tree without links
    and without a page beside a diagram, whether they succeed, fail or are stopped, as long as nothing
    comes between the two writes of one: in every directory with both files the page is made from the
    diagram beside it. -/
theorem paired_after {t u : FileTree} (hlinks : t.NoLinks) (hnone : NoPair t)
    (h : After Whole t u) : Paired u := by
  have hsound : Sound u := by
    induction h with
    | start => exact ⟨hlinks, hnone.paired⟩
    | call call _ hwhole ih => exact ih.call call hwhole
    | stopped _ hnew ih => exact ih.of_noNewFiles hnew
  exact hsound.paired

/-! ## Torn runs -/

/-- A run into the directory is torn: the page is opened, and holds what is given in the end, but the
    diagram is not even opened. -/
inductive Torn (obstacle? : Path → Option Obstacle) (directory : Path) (page : List UInt8) :
    List UInt8 → Prop
  | pageBreaksOff {taken : Nat} {f : FileFault}
      (h : obstacle? (directory.child pageName) = some (.brokenOff taken f)) :
      Torn obstacle? directory page (page.take taken)
  | diagramRefused {f : FileFault} (h : obstacle? (directory.child pageName) = none)
      (hdiagram : obstacle? (directory.child diagramName) = some (.refused f)) :
      Torn obstacle? directory page page
  | noRoom (h : obstacle? (directory.child pageName) = none) (hroom : ¬ RoomForBoth directory) :
      Torn obstacle? directory page page

theorem write_diagram_ne_ok {bytes : List UInt8} (hroom : ¬ RoomForBoth directory) :
    t.write here (directory.child diagramName) bytes ≠ .ok u := by
  intro h
  obtain ⟨found, hfound, -⟩ := write_ok h
  have hlong := (find_eq_follow.mp hfound).1.2
  unfold RoomForBoth at hroom
  rw [length_diagram] at hlong
  omega

theorem perform_writes_of_torn {w : Workspace} {inputs : Viewer.Inputs} {left : List UInt8}
    (h : Torn w.obstacle? directory (Utf8.encode (Viewer.page inputs)) left)
    (hleft : w.tree.write w.here (directory.child pageName) left = .ok u) :
    (Work.perform (do
      write (directory.child pageName) (Viewer.page inputs)
      write (directory.child diagramName) inputs.diagram) w).2.tree = u := by
  rw [perform_bind, perform_write]
  cases h with
  | pageBreaksOff h =>
    rw [h, writeAgainst, hleft]
  | diagramRefused h hdiagram =>
    rw [h, writeAgainst_ok_iff.mpr ⟨rfl, hleft⟩]
    dsimp only
    rw [perform_write]
    dsimp only
    rw [hdiagram]
    rfl
  | noRoom h hroom =>
    rw [h, writeAgainst_ok_iff.mpr ⟨rfl, hleft⟩]
    dsimp only
    rw [perform_write]
    dsimp only
    have hkept : (u.writeAgainst w.here (w.obstacle? (directory.child diagramName))
        (directory.child diagramName) (Utf8.encode inputs.diagram)).1 = u :=
      writeAgainst_of_ne_ok fun _ _ => write_diagram_ne_ok hroom
    split <;> next hwrite => rw [hwrite] at hkept; exact hkept

/-- **A torn run**, into a directory that is there, leaves something in the page's place and the
    diagram as it was. -/
theorem publish_torn {w : Workspace} {c : Config} {settings : Settings} {m : Location}
    {left : List UInt8} (schema : Schema) (hsettings : w.settings = some settings)
    (hlinks : w.tree.NoLinks) (hkeep : c.cleanOutput = false)
    (hdir : w.tree.find w.here true c.outputDir = .ok ⟨m, some .directory⟩)
    (hfile : w.tree.lookup (m ++ [pageName]) ≠ some .directory)
    (hadmitted : Admitted (c.outputDir.child pageName))
    (htorn : Torn w.obstacle? c.outputDir
      (Utf8.encode (Viewer.page (inputsOf schema c.title w.today settings))) left)
    (l : Location) :
    ((publish c schema).perform w).2.tree.lookup l
      = if l = m ++ [pageName] then some (.file left) else w.tree.lookup l := by
  obtain ⟨-, hstart, hway⟩ := (find_eq_stretch hlinks).mp hdir
  have hpage : w.tree.find w.here true (c.outputDir.child pageName)
      = .ok ⟨m ++ [pageName], w.tree.lookup (m ++ [pageName])⟩ :=
    (find_child hlinks isName_pageName).mpr ⟨hadmitted, hstart, m, hway, rfl⟩
  -- The path to the page is admitted still, and no directory stands at its end.
  obtain ⟨u, hwrite⟩ : ∃ u, w.tree.write w.here (c.outputDir.child pageName) left = .ok u :=
    write_of_find hpage hfile
  have hrun : ((publish c schema).perform w).2.tree = u := by
    have hs : Work.settings.perform w = (.ok settings, w) := by
      rw [perform_settings, hsettings]
    rw [publish_eq, perform_bind, hs]
    dsimp only
    rw [perform_get_bind, putOut, hkeep]
    show ((writeFiles c (Viewer.page (inputsOf schema c.title w.today settings))
      (Diagram.render schema c.title)).perform w).2.tree = u
    rw [writeFiles, perform_bind, perform_makeDirectories, makeDirectories_of_directory hlinks hdir]
    exact perform_writes_of_torn htorn hwrite
  obtain ⟨found, hfound, -, hu⟩ := write_ok hwrite
  rw [hpage, Except.ok.injEq] at hfound
  subst hfound
  rw [hrun, hu]

/-- In and out of a directory, however often, leads back. -/
theorem stretch_inAndOut {name : Text} (n : Nat) (names : List Text) (hname : IsName name)
    (hdir : t.lookup (here ++ [name]) = some .directory) :
    t.stretch true here ((List.replicate n [name, wayUp]).flatten ++ names)
      = t.stretch true here names := by
  induction n with
  | zero => rfl
  | succ n ih =>
    rw [List.replicate_succ, List.flatten_cons, List.append_assoc, List.cons_append,
      List.cons_append, List.nil_append]
    rw [stretch_through hname hdir, stretch_up, List.dropLast_concat, ih]

/-- The call that draws a schema with one entity. -/
def drawInto (name : Text) (outputDir : Path) : Call :=
  .generateFromLiteral (.object [("entities", .list [.object [("name", .text name)]])])
    { Config.of {} {} with outputDir }

def workspaceOf (t : FileTree) : Workspace :=
  { tree := t, here := [], settings := some {}, today := "2024-01-15" }

theorem After.callOn {allowed : Workspace → Call → Prop} {start : FileTree}
    (before : After allowed start t) (call : Call) (h : allowed (workspaceOf t) call) :
    After allowed start (call.work.perform (workspaceOf t)).2.tree :=
  .call (w := workspaceOf t) call before h

theorem Sound.callOn (ht : Sound t) (call : Call) (h : Whole (workspaceOf t) call) :
    Sound (call.work.perform (workspaceOf t)).2.tree := Sound.call (w := workspaceOf t) ht call h

def drawing (name : Text) : Viewer.Inputs :=
  let settings : Settings := {}
  inputsOf ⟨[⟨name, Naming.defaultTableName name, []⟩], []⟩ settings.title "2024-01-15" settings

def deepName : Text := List.replicate 200 'd'

def outputLocation : Location := ["oooo"]

def shortWay : Path := ⟨.here, ["oooo"]⟩

/-- The path to it after twenty times in and out of another one. -/
def longWay : Path := ⟨.here, (List.replicate 20 [deepName, wayUp]).flatten ++ shortWay.parts⟩

/-- The tree before the first run. -/
def deepTree : FileTree := FileTree.empty.put [deepName] .directory

/-- The tree after the first run. -/
def afterShort : FileTree := ((drawInto "<" shortWay).work.perform (workspaceOf deepTree)).2.tree

theorem lookup_deepTree {l : Location} (hl : l ≠ []) :
    deepTree.lookup l = if l = [deepName] then some .directory else none := by
  have hput : deepTree.lookup l
      = if l = [deepName] then some .directory else FileTree.empty.lookup l :=
    lookup_put (by decide +kernel) l
  rw [hput, lookup_of_ne hl]
  rfl

theorem noLinks_deepTree : deepTree.NoLinks := noLinks_empty.put (by simp)

theorem noPair_deepTree : NoPair deepTree := by
  intro l
  left
  rw [lookup_deepTree (by simp), if_neg]
  intro h
  rw [← List.nil_append [deepName]] at h
  exact absurd (List.append_singleton_inj.mp h).2 (by decide +kernel)

theorem whole_shortWay : Whole (workspaceOf deepTree) (drawInto "<" shortWay) := by
  intro directory h
  cases h
  refine .inr ⟨⟨rfl, rfl⟩, ?_⟩
  show (Utf8.encode (shortWay.child pageName).toText).length ≠ longestPath
  decide

/-- The diagram of the first run, as it stands after it. -/
theorem diagram_afterShort : afterShort.lookup (outputLocation ++ [diagramName])
    = some (.file (Utf8.encode (drawing "<").diagram)) := by
  decide +kernel

theorem sound_afterShort : Sound afterShort :=
  Sound.callOn ⟨noLinks_deepTree, noPair_deepTree.paired⟩ _ whole_shortWay

theorem page_afterShort :
    ∃ page, afterShort.lookup (outputLocation ++ [pageName]) = some (.file page) := by
  have hlinks : afterShort.NoLinks := sound_afterShort.noLinks
  have hthere : (afterShort.lookup (outputLocation ++ [pageName])).isSome = true := by
    decide +kernel
  have hfile : afterShort.lookup (outputLocation ++ [pageName]) ≠ some .directory := by
    decide +kernel
  cases he : afterShort.lookup (outputLocation ++ [pageName]) with
  | none => simp [he] at hthere
  | some e =>
    cases e with
    | directory => exact absurd he hfile
    | file page => exact ⟨page, rfl⟩
    | link target => exact absurd he (hlinks _ target)

/-- The law at work: after the first run both files are there, and belong together. -/
theorem paired_afterShort :
    ∃ page diagram, afterShort.lookup (outputLocation ++ [pageName]) = some (.file page)
      ∧ afterShort.lookup (outputLocation ++ [diagramName]) = some (.file diagram)
      ∧ BelongTogether page diagram := by
  have hafter : After Whole deepTree afterShort :=
    After.start.callOn (drawInto "<" shortWay) whole_shortWay
  obtain ⟨page, hpage⟩ := page_afterShort
  exact ⟨_, _, hpage, diagram_afterShort, paired_after noLinks_deepTree noPair_deepTree hafter
    outputLocation _ _ hpage diagram_afterShort⟩

/-- The second run writes the page and not the diagram, wherever the two directories stand. -/
theorem lookup_after_longWay (hlinks : t.NoLinks) (hdeep : t.lookup [deepName] = some .directory)
    (hout : t.lookup outputLocation = some .directory)
    (hfile : t.lookup (outputLocation ++ [pageName]) ≠ some .directory) (l : Location) :
    ((drawInto "B" longWay).work.perform (workspaceOf t)).2.tree.lookup l
      = if l = outputLocation ++ [pageName] then some (.file (Utf8.encode (Viewer.page (drawing "B"))))
        else t.lookup l := by
  let c : Config := { Config.of {} {} with outputDir := longWay }
  let schema : Schema := ⟨[⟨"B", Naming.defaultTableName "B", []⟩], []⟩
  have hrun : ((drawInto "B" longWay).work.perform (workspaceOf t)).2.tree
      = ((publish c schema).perform (workspaceOf t)).2.tree := by
    have hread : Literal.read (.object [("entities", .list [.object [("name", .text "B")]])])
        = .ok schema := rfl
    rw [drawInto, Call.work, perform_map]
    unfold generateFromLiteral
    rw [hread]
    dsimp only
    rw [perform_bind]
    generalize (publish c schema).perform (workspaceOf t) = r
    obtain ⟨r, w⟩ := r
    cases r <;> rfl
  have hway : t.stretch true [] longWay.parts = .arrived ⟨outputLocation, some .directory⟩ := by
    have hdeepName : IsName deepName := by decide +kernel
    have houtput : IsName "oooo" := by decide
    rw [← hout]
    exact (stretch_inAndOut 20 shortWay.parts hdeepName hdeep).trans
      (stretch_singleton houtput fun _ target h => absurd (hout.symm.trans h) (by simp))
  have hlength : (Utf8.encode (longWay.child pageName).toText).length = longestPath := by
    decide +kernel
  have hroom : ¬ RoomForBoth longWay := fun h => h hlength
  have hadmitted : Admitted (longWay.child pageName) := ⟨by decide +kernel, Nat.le_of_eq hlength⟩
  have hdir : t.find [] true longWay = .ok ⟨outputLocation, some .directory⟩ :=
    (find_eq_stretch hlinks).mpr ⟨hadmitted.parent, lookup_nil _, hway⟩
  rw [hrun]
  exact publish_torn (w := workspaceOf t) (c := c) (m := outputLocation) schema
    rfl hlinks rfl hdir hfile hadmitted (.noRoom rfl hroom) l

/-- Though nothing keeps a file from being written, two runs come to a page beside a diagram that is
    not its own. -/
theorem mixed_at_longestPath :
    ¬ ∀ t u : FileTree, t.NoLinks → NoPair t →
        After (fun w _ => ∀ file, w.obstacle? file = none) t u → Paired u := by
  intro hall
  have hshort : After (fun w _ => ∀ file, w.obstacle? file = none) deepTree afterShort :=
    After.start.callOn (drawInto "<" shortWay) fun _ => rfl
  have hlong := hshort.callOn (drawInto "B" longWay) fun _ => rfl
  have hpaired := hall _ _ noLinks_deepTree noPair_deepTree hlong
  have hlinks : afterShort.NoLinks := sound_afterShort.noLinks
  -- After the second run the page shows the second schema, and the diagram is still the first.
  have hlookup := lookup_after_longWay hlinks (by decide +kernel) (by decide +kernel)
    (by decide +kernel)
  have hpage := (hlookup (outputLocation ++ [pageName])).trans (if_pos rfl)
  have hdiagram := (hlookup (outputLocation ++ [diagramName])).trans
    ((if_neg diagram_ne_page).trans diagram_afterShort)
  obtain ⟨inputs, hp, hd⟩ := hpaired outputLocation _ _ hpage hdiagram
  -- Only the diagram adds markup, and the first diagram has a bracket that the second has not.
  have hascii : '<'.toNat < 0x80 := by decide
  have hpages := congrArg (List.count (UInt8.ofNat '<'.toNat)) hp
  have hdiagrams := congrArg (List.count (UInt8.ofNat '<'.toNat)) hd
  rw [Utf8.count_encode hascii, Utf8.count_encode hascii, Viewer.count_page (.inl rfl),
    Viewer.count_page (.inl rfl) inputs] at hpages
  rw [Utf8.count_encode hascii, Utf8.count_encode hascii] at hdiagrams
  have hfirst : (drawing "<").diagram.count '<' = 1 := by decide +kernel
  have hsecond : (drawing "B").diagram.count '<' = 0 := by decide +kernel
  omega

end Generation
end EntityDiagram
