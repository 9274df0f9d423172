import EntityDiagram.CommandLine.Command
import EntityDiagram.Proofs.Generation.Again
import EntityDiagram.Proofs.Generation.Fatal

/-!
# Exit codes

A command line that asks for a diagram ends in one of three ways, and this module says exactly when
in each of them (`generate_ends`): with 0 when both files were written; with 1 and one line of
complaint when there is nothing to draw, and then the tree is as it was; and without an exit code
when the file system refused something on the way.

The third way is a gap. The command answers the failures that a run has of its own, and a fault of
the file system is none of them, so it leaves as it came: nobody is told by an exit code, and nothing
is written to the error output. A file that stands where the output directory belongs is enough
(`generate_ends_fileInTheWay`), although the command that prepares a project meets that same fault
with a line and with 1.

The three ways exclude one another and there is no fourth (`run_cases`), so it is enough to say of
each what the reply is.
-/

namespace EntityDiagram
namespace CommandLine

open Generation Work FileTree Model

variable {w : Workspace} {c : Config} {g : Glob} {s : Settings} {o : Options} {after : FileTree}

/-! ## What can come of a run -/

/-- There is something to draw, and both files can be written; this is the tree after it. -/
def Writes (w : Workspace) (c : Config) (after : FileTree) : Prop :=
  ∃ found, (survey w.tree w.here w.unreadable c).1 = .ok found ∧ Publishes w c found.schema after

/-- All questions of the scan are answered, and there is no directory with a model in it. -/
def FindsNothing (w : Workspace) (c : Config) (g : Glob) : Prop :=
  ¬ ScanTooLong w.tree w.here c.modelsDir g
    ∧ (w.tree.LeadsToDirectory w.here c.modelsDir → ∀ p, Matched w c p → ¬ GivesEntity w p)

/-- The file system refuses something: a path that the scan asks about is too long, or what it found
    cannot be published. -/
def Breaks (w : Workspace) (c : Config) (g : Glob) : Prop :=
  ScanTooLong w.tree w.here c.modelsDir g
    ∨ ∃ found, (survey w.tree w.here w.unreadable c).1 = .ok found
      ∧ ∀ after, ¬ Publishes w c found.schema after

/-- The line by which the command says what it lacks. -/
inductive Complaint (t : FileTree) (here : Location) (c : Config) : Text → Prop
  | noDirectory (h : ¬ t.LeadsToDirectory here c.modelsDir) :
      Complaint t here c ("Error: " ++ (Failure.modelsNotFound c.modelsDir).message)
  | nothingToDraw {f : Failure} (h : t.LeadsToDirectory here c.modelsDir) (hn : NothingToDraw f) :
      Complaint t here c ("Error generating ERD: " ++ f.message)

/-- What an exit code says: the reply to a run, and the tree that the run leaves. -/
structure Ends (w : Workspace) (c : Config) (g : Glob) (r : Reply) (after : FileTree) : Prop where
  code : ∀ n, r.ending = .ok n → n = 0 ∨ n = 1
  zero : r.ending = .ok 0 ↔ ∃ t, Writes w c t
  written : r.ending = .ok 0 → Writes w c after
  one : r.ending = .ok 1 ↔ FindsNothing w c g
  complaint : r.ending = .ok 1 →
    after = w.tree ∧ ∃ line, Complaint w.tree w.here c line ∧ r.errors = ofLines [line]
  noCode : (∃ f, r.ending = .error f) ↔ Breaks w c g
  /-- A failure that ends the command comes from a file, and the error output does not tell of it. -/
  silent : ∀ f, r.ending = .error f → (∃ fault, f = .file fault) ∧ r.errors = []

/-! ## The run -/

theorem reply_of_writes (h : Writes w c after) (log : Log) :
    (replyTo ((Generation.generate c).perform w).1 log).ending = .ok 0
      ∧ Writes w c ((Generation.generate c).perform w).2.tree := by
  obtain ⟨found, hfound, hafter⟩ := h
  obtain ⟨w', hrun, rfl⟩ := generate_ok_iff.mpr ⟨found, hfound, rfl, hafter⟩
  rw [hrun]
  exact ⟨rfl, found, hfound, hafter⟩

section Run

variable (hg : Glob.ofText c.filePattern = .ok g)
include hg

/-- There is no fourth way to end. -/
theorem run_cases (w : Workspace) :
    (∃ after, Writes w c after) ∨ FindsNothing w c g ∨ Breaks w c g := by
  by_cases hlong : ScanTooLong w.tree w.here c.modelsDir g
  · exact .inr (.inr (.inl hlong))
  · rcases survey_cases hg hlong with ⟨hdir, -⟩ | ⟨-, hnone, -⟩ | ⟨-, -, found, hfound⟩
    · exact .inr (.inl ⟨hlong, fun h => absurd h hdir⟩)
    · exact .inr (.inl ⟨hlong, fun _ => hnone⟩)
    · by_cases hsome : ∃ after, Publishes w c found.schema after
      · obtain ⟨after, hafter⟩ := hsome
        exact .inl ⟨after, found, hfound, hafter⟩
      · exact .inr (.inr (.inr ⟨found, hfound, not_exists.mp hsome⟩))

theorem reply_of_findsNothing (h : FindsNothing w c g) (log : Log) :
    (replyTo ((Generation.generate c).perform w).1 log).ending = .ok 1
      ∧ ((Generation.generate c).perform w).2.tree = w.tree
      ∧ ∃ line, Complaint w.tree w.here c line
        ∧ (replyTo ((Generation.generate c).perform w).1 log).errors = ofLines [line] := by
  obtain ⟨hshort, hnone⟩ := h
  rcases survey_cases hg hshort with ⟨hdir, hs⟩ | ⟨hdir, -, f, hs, hn⟩ | ⟨hdir, ⟨p, hm, he⟩, -⟩
  · obtain ⟨hfail, htree⟩ := generate_of_survey_error hs
    rw [hfail]
    exact ⟨rfl, htree, _, .noDirectory hdir, rfl⟩
  · obtain ⟨hfail, htree⟩ := generate_of_survey_error hs
    have hanswer : answer? f = some ("Error generating ERD: " ++ f.message) := by
      cases hn <;> rfl
    rw [hfail, replyTo, hanswer]
    exact ⟨rfl, htree, _, .nothingToDraw hdir hn, rfl⟩
  · exact absurd he (hnone hdir p hm)

/-- With the settings at hand, what breaks a run is a fault of the file system. -/
theorem run_of_breaks (hs : HasSettings w s) (h : Breaks w c g) :
    ∃ fault, ((Generation.generate c).perform w).1 = .error (.file fault) := by
  rcases h with hlong | ⟨found, hfound, hnone⟩
  · obtain ⟨fault, hfail, -⟩ := generate_of_scanTooLong hg hlong
    exact ⟨fault, hfail⟩
  · cases hrun : ((Generation.generate c).perform w).1 with
    | ok summary =>
      obtain ⟨found', hfound', hafter⟩ := generate_ok (Prod.ext hrun rfl)
      rw [hfound, Except.ok.injEq] at hfound'
      subst hfound'
      exact absurd hafter (hnone _)
    | error f =>
      obtain ⟨fault, rfl⟩ := file_of_survey_ok hfound hs hrun
      exact ⟨fault, rfl⟩

theorem reply_of_breaks (hs : HasSettings w s) (h : Breaks w c g) (log : Log) :
    ∃ fault, (replyTo ((Generation.generate c).perform w).1 log).ending = .error (.file fault)
      ∧ (replyTo ((Generation.generate c).perform w).1 log).errors = [] := by
  obtain ⟨fault, hrun⟩ := run_of_breaks hg hs h
  rw [hrun]
  exact ⟨fault, rfl, rfl⟩

/-- The reply to a run tells by its ending which way it went. -/
theorem ends_replyTo (hs : HasSettings w s) (log : Log) :
    Ends w c g (replyTo ((Generation.generate c).perform w).1 log)
      ((Generation.generate c).perform w).2.tree := by
  have hzero := fun t (h : Writes w c t) => reply_of_writes h log
  have hone := fun (h : FindsNothing w c g) => reply_of_findsNothing hg h log
  have hnoCode := fun (h : Breaks w c g) => reply_of_breaks hg hs h log
  generalize ((Generation.generate c).perform w).2.tree = after at hzero hone ⊢
  generalize replyTo ((Generation.generate c).perform w).1 log = r at hzero hone hnoCode ⊢
  -- Each way has an ending of its own, so the ending tells which of the three it was.
  have hways : (r.ending = .ok 0 ∧ ∃ t, Writes w c t) ∨ (r.ending = .ok 1 ∧ FindsNothing w c g)
      ∨ ∃ fault, r.ending = .error (.file fault) ∧ Breaks w c g := by
    rcases run_cases hg w with ⟨t, hway⟩ | hway | hway
    · exact .inl ⟨(hzero t hway).1, t, hway⟩
    · exact .inr (.inl ⟨(hone hway).1, hway⟩)
    · obtain ⟨fault, hending, -⟩ := hnoCode hway
      exact .inr (.inr ⟨fault, hending, hway⟩)
  have hwritten : r.ending = .ok 0 → ∃ t, Writes w c t := fun h => by simpa [h] using hways
  have hnothing : r.ending = .ok 1 → FindsNothing w c g := fun h => by simpa [h] using hways
  have hbroken : ∀ f, r.ending = .error f → Breaks w c g := by
    intro f h
    rw [h] at hways
    rcases hways with ⟨hending, -⟩ | ⟨hending, -⟩ | ⟨fault, -, hway⟩
    · cases hending
    · cases hending
    · exact hway
  constructor
  case code =>
    intro n h
    rw [h] at hways
    rcases hways with ⟨hending, -⟩ | ⟨hending, -⟩ | ⟨fault, hending, -⟩
    · exact .inl (Except.ok.inj hending)
    · exact .inr (Except.ok.inj hending)
    · cases hending
  case zero => exact ⟨hwritten, fun ⟨t, hway⟩ => (hzero t hway).1⟩
  case written =>
    intro h
    obtain ⟨t, hway⟩ := hwritten h
    exact (hzero t hway).2
  case one => exact ⟨hnothing, fun hway => (hone hway).1⟩
  case complaint => exact fun h => (hone (hnothing h)).2
  case noCode =>
    refine ⟨fun ⟨f, h⟩ => hbroken f h, fun hway => ?_⟩
    obtain ⟨fault, hfault, -⟩ := hnoCode hway
    exact ⟨_, hfault⟩
  case silent =>
    intro f h
    obtain ⟨fault, hfault, herrors⟩ := hnoCode (hbroken f h)
    exact ⟨⟨fault, Except.error.inj (h.symm.trans hfault)⟩, herrors⟩

end Run

/-! ## The command -/

/-- The workspace that the command starts to work in: nothing reported, the settings read. -/
def ready (w : Workspace) (s : Settings) : Workspace := { w with log := [], settings := some s }

theorem publishes_ready {schema : Schema} (hs : HasSettings w s) :
    Publishes (ready w s) c schema after ↔ Publishes w c schema after := by
  have hready : HasSettings (ready w s) s := hasSettings_of_kept rfl
  constructor
  · rintro ⟨s', cleaned, made, paged, hs', hstages⟩
    obtain rfl : s = s' := Except.ok.inj (hready.symm.trans hs')
    exact ⟨s, cleaned, made, paged, hs, hstages⟩
  · rintro ⟨s', cleaned, made, paged, hs', hstages⟩
    obtain rfl : s = s' := Except.ok.inj (hs.symm.trans hs')
    exact ⟨s, cleaned, made, paged, hready, hstages⟩

theorem Ends.of_ready {r : Reply} (hs : HasSettings w s) (h : Ends (ready w s) c g r after) :
    Ends w c g r after := by
  have hwrites : ∀ t, Writes (ready w s) c t ↔ Writes w c t := by
    intro t
    unfold Writes
    simp only [publishes_ready hs]
    rfl
  have hbreaks : Breaks (ready w s) c g ↔ Breaks w c g := by
    unfold Breaks
    simp only [publishes_ready hs]
    rfl
  refine { h with zero := ?_, written := ?_, noCode := h.noCode.trans hbreaks }
  · rw [h.zero]
    exact exists_congr hwrites
  · exact fun hzero => (hwrites after).mp (h.written hzero)

/-- The settings are read before the arguments, so the work finds them read. -/
theorem generate_eq {arguments : List Text}
    (hrequest : request .generate {} (parse generateVocabulary arguments) = .work o)
    (hs : HasSettings w s) (hc : Config.of s (o.overrides w.herePath) = c) :
    ∃ log, generate arguments w
      = (replyTo ((Generation.generate c).perform (ready w s)).1 log,
          ((Generation.generate c).perform (ready w s)).2) := by
  have hread : settings.perform { w with log := [] } = (.ok s, ready w s) :=
    perform_settings_of_has (hasSettings_report.mpr hs)
  have hgeneration : (generation o w.herePath).perform (ready w s)
      = (Generation.generate c).perform (ready w s) := by
    have hkept : settings.perform (ready w s) = (.ok s, ready w s) :=
      perform_settings_of_has (hasSettings_of_kept rfl)
    rw [generation, config, perform_bind, perform_bind, hkept, ← hc]
    rfl
  unfold generate
  rw [hread, hrequest, ← hgeneration]
  exact ⟨_, rfl⟩

/-- **How a command line ends** that asks for a diagram, under valid settings and a pattern that is
    one: with 0 exactly when both files were written, with 1 and a line of complaint exactly when
    there is nothing to draw, and in every other case without a code and without a word. -/
theorem generate_ends (arguments : List Text) (w : Workspace) (o : Options) (s : Settings) (g : Glob)
    (hrequest : request .generate {} (parse generateVocabulary arguments) = .work o)
    (hs : HasSettings w s) (hg : Glob.ofText s.filePattern = .ok g) :
    Ends w (Config.of s (o.overrides w.herePath)) g (generate arguments w).1
      (generate arguments w).2.tree := by
  obtain ⟨log, hgenerate⟩ := generate_eq hrequest hs rfl
  have hends : Ends (ready w s) (Config.of s (o.overrides w.herePath)) g _ _ :=
    ends_replyTo hg (hasSettings_of_kept rfl) log
  rw [hgenerate]
  exact hends.of_ready hs

/-! ### At work -/

/-- A project with one model, in which a file stands where its public directory belongs. -/
def fileInTheWay : Workspace where
  tree := (((FileTree.empty.put ["app"] .directory).put ["app", "Models"] .directory).put
    ["app", "Models", "User.php"] (.file (Utf8.encode "<?php class User extends Model {}"))).put
    ["public"] (.file [])
  here := []
  settings := some {}
  today := "2024-01-15"

/-- The law at work: the model is there to be drawn, and nobody is told why it was not. -/
theorem generate_ends_fileInTheWay :
    ∃ fault, (generate [] fileInTheWay).1.ending = .error (.file fault)
      ∧ (generate [] fileInTheWay).1.errors = [] := by
  have hends := generate_ends [] fileInTheWay {} {} _ rfl (hasSettings_of_kept rfl) rfl
  have hfails : (generate [] fileInTheWay).1.ending.isOk = false := by decide +kernel
  cases hending : (generate [] fileInTheWay).1.ending with
  | ok n => simp [hending, Except.isOk, Except.toBool] at hfails
  | error f =>
    obtain ⟨⟨fault, rfl⟩, herrors⟩ := hends.silent f hending
    exact ⟨fault, rfl, herrors⟩

end CommandLine
end EntityDiagram
