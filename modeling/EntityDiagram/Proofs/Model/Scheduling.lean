import Mathlib.Logic.Relation
import EntityDiagram.Model.Loading
import EntityDiagram.Proofs.Text.Order

/-!
# Reading files several at a time

`Model.load` reads the selected files one after another, and it must not matter that it does. In a
system that reads several at a time a file may begin to be read whenever there is room, reads finish
in any order, and each leaves a unit or a report at the end of one of two lists that all of them
share. `Reads.Step` is such a system, one event at a time, with every choice left open.

What holds after any number of events is that the two lists are what came of *some* list of files
read so far, and that these files together with those still pending are the files there were
(`Steps.reading`). Events come to an end, and they end nowhere but with no file pending. So whatever
the schedule, the two lists are what came of all the files in some order, and `gather` forgets the
order if no two of them have the same path (`outcome_of_finished`).
-/

namespace EntityDiagram
namespace Model

/-! ## Reads under way -/

/-- Reads at some moment: the files that wait, the files that are being read, and the two lists in
    which the reads that are done have left what came of them. -/
structure Reads where
  waiting : List Path
  underWay : List Path := []
  units : List SourceUnit := []
  unread : List Skipped := []

/-- How many files are read at a time: as many as asked for, but at least one. -/
def readsAtATime (maxParallel : Int) : Nat := (max 1 maxParallel).toNat

theorem readsAtATime_pos (maxParallel : Int) : 0 < readsAtATime maxParallel := by
  unfold readsAtATime
  omega

namespace Reads

variable {read : Path → ReadResult} {limit : Nat} {r r' r'' : Reads}

def pending (r : Reads) : List Path := r.waiting ++ r.underWay

def Finished (r : Reads) : Prop := r.pending = []

/-- What came of a read is left at the end of the list that it belongs to. -/
def leave (r : Reads) : ReadResult → Reads
  | .ok u => { r with units := r.units ++ [u] }
  | .error s => { r with unread := r.unread ++ [s] }

/-- Both lists in the order of their paths. -/
def outcome (r : Reads) : List SourceUnit × List Skipped :=
  (Text.sortBy (·.path) r.units, Text.sortBy (·.file) r.unread)

/-- One event: some file that waits begins to be read, if fewer than the limit are being read, or the
    read of some file is done. -/
inductive Step (read : Path → ReadResult) (limit : Nat) : Reads → Reads → Prop
  | begin (before after : List Path) (p : Path) {underWay : List Path}
      {units : List SourceUnit} {unread : List Skipped} (room : underWay.length < limit) :
      Step read limit ⟨before ++ p :: after, underWay, units, unread⟩
        ⟨before ++ after, p :: underWay, units, unread⟩
  | done (before after : List Path) (p : Path) {waiting : List Path}
      {units : List SourceUnit} {unread : List Skipped} :
      Step read limit ⟨waiting, before ++ p :: after, units, unread⟩
        (leave ⟨waiting, before ++ after, units, unread⟩ (read p))

/-- Any number of events. -/
abbrev Steps (read : Path → ReadResult) (limit : Nat) : Reads → Reads → Prop :=
  Relation.ReflTransGen (Step read limit)

/-! ### What steps keep -/

/-- From one moment to a later one some files are read, in some order; what came of them is added to
    the lists, and they are pending no more. -/
def Reading (read : Path → ReadResult) (r r' : Reads) (done : List Path) : Prop :=
  r'.units = r.units ++ unitsOf (done.map read)
    ∧ r'.unread = r.unread ++ reportsOf (done.map read)
    ∧ r.pending.Perm (done ++ r'.pending)

theorem Step.reading (h : Step read limit r r') : ∃ done, Reading read r r' done := by
  cases h with
  | begin before after p room =>
    refine ⟨[], by simp [unitsOf], by simp [reportsOf], ?_⟩
    simp only [pending, List.nil_append, List.append_assoc, List.cons_append]
    exact List.Perm.append_left before List.perm_middle.symm
  | @done before after p waiting units unread =>
    have hpending : (waiting ++ (before ++ p :: after)).Perm ([p] ++ (waiting ++ (before ++ after))) := by
      rw [← List.append_assoc, ← List.append_assoc waiting]
      exact List.perm_middle
    refine ⟨[p], ?_⟩
    cases hp : read p with
    | ok u => exact ⟨by simp [leave, unitsOf, hp], by simp [leave, reportsOf, hp], hpending⟩
    | error s => exact ⟨by simp [leave, unitsOf, hp], by simp [leave, reportsOf, hp], hpending⟩

theorem Reading.trans {done done' : List Path} (h : Reading read r r' done)
    (h' : Reading read r' r'' done') : Reading read r r'' (done ++ done') := by
  obtain ⟨hunits, hunread, hpending⟩ := h
  obtain ⟨hunits', hunread', hpending'⟩ := h'
  refine ⟨?_, ?_, ?_⟩
  · rw [hunits', hunits, List.map_append, unitsOf, unitsOf, unitsOf, List.filterMap_append,
      List.append_assoc]
  · rw [hunread', hunread, List.map_append, reportsOf, reportsOf, reportsOf,
      List.filterMap_append, List.append_assoc]
  · rw [List.append_assoc]
    exact hpending.trans (hpending'.append_left done)

/-- **Whatever the schedule,** the lists hold what came of some of the files, and the others are
    pending. -/
theorem Steps.reading (h : Steps read limit r r') : ∃ done, Reading read r r' done := by
  induction h with
  | refl => exact ⟨[], by simp [unitsOf], by simp [reportsOf], .refl _⟩
  | tail _ step ih =>
    obtain ⟨done, hdone⟩ := ih
    obtain ⟨more, hmore⟩ := step.reading
    exact ⟨done ++ more, hdone.trans hmore⟩

/-! ### That steps come to an end -/

/-- A file that waits has two events before it, and one that is being read has one. -/
def eventsLeft (r : Reads) : Nat := 2 * r.waiting.length + r.underWay.length

theorem Step.eventsLeft_lt (h : Step read limit r r') : r'.eventsLeft < r.eventsLeft := by
  cases h with
  | begin before after p room =>
    simp only [eventsLeft, List.length_append, List.length_cons]
    omega
  | done before after p =>
    unfold leave
    split <;> simp only [eventsLeft, List.length_append, List.length_cons] <;> omega

/-- No schedule goes on for ever. -/
theorem wellFounded_step (read : Path → ReadResult) (limit : Nat) :
    WellFounded fun r' r => Step read limit r r' :=
  Subrelation.wf Step.eventsLeft_lt (measure eventsLeft).wf

/-- As long as a file is pending, something can happen. -/
theorem exists_step (hlimit : 0 < limit) (h : ¬ r.Finished) : ∃ r', Step read limit r r' := by
  obtain ⟨waiting, underWay, units, unread⟩ := r
  cases underWay with
  | cons p rest => exact ⟨_, .done [] rest p⟩
  | nil =>
    cases waiting with
    | cons p rest => exact ⟨_, .begin [] rest p hlimit⟩
    | nil => exact absurd rfl h

end Reads

/-! ## Gathering forgets the order -/

/-- The path that a result is known by. -/
def label : ReadResult → Text
  | .ok u => u.path
  | .error s => s.file

theorem label_readUnit (t : FileTree) (here : Location) (unreadable : List Location) (p : Path) :
    label (readUnit t here unreadable p) = p.toText := by
  unfold readUnit
  cases t.readBytes here unreadable p <;> rfl

/-- Units and reports together are known by the paths of the results, each once. -/
theorem labels_perm (results : List ReadResult) :
    ((unitsOf results).map (·.path) ++ (reportsOf results).map (·.file)).Perm
      (results.map label) := by
  induction results with
  | nil => exact .refl _
  | cons r rest ih =>
    cases r with
    | ok u => exact ih.cons u.path
    | error s => exact List.perm_middle.trans (ih.cons s.file)

theorem gather_eq (results : List ReadResult) :
    gather results = (Text.sortBy (·.path) (unitsOf results),
      Text.sortBy (·.file) (reportsOf results)) := rfl

section Gather

variable {results results' : List ReadResult} (hdistinct : (results.map label).Nodup)
include hdistinct

theorem nodup_labels :
    ((unitsOf results).map (·.path) ++ (reportsOf results).map (·.file)).Nodup :=
  (labels_perm results).nodup_iff.mpr hdistinct

theorem nodup_unit_paths : ((unitsOf results).map (·.path)).Nodup :=
  (nodup_labels hdistinct).of_append_left

theorem nodup_report_paths : ((reportsOf results).map (·.file)).Nodup :=
  (nodup_labels hdistinct).of_append_right

theorem gather_eq_of_perm (h : results.Perm results') : gather results = gather results' := by
  rw [gather_eq, gather_eq,
    Text.sortBy_eq_of_perm (nodup_unit_paths hdistinct) (h.filterMap _),
    Text.sortBy_eq_of_perm (nodup_report_paths hdistinct) (h.filterMap _)]
  rfl

end Gather

/-- **A schedule that has finished** comes to what the files give in the order in which they were. -/
theorem Reads.outcome_of_finished {read : Path → ReadResult} {limit : Nat} {files : List Path}
    {r : Reads} (hdistinct : ((files.map read).map label).Nodup)
    (h : Reads.Steps read limit { waiting := files } r) (hfinished : r.Finished) :
    r.outcome = gather (files.map read) := by
  obtain ⟨done, hunits, hunread, hpending⟩ := h.reading
  have hdone : files.Perm done := by
    rw [hfinished, List.append_nil] at hpending
    simpa [Reads.pending] using hpending
  rw [gather_eq_of_perm hdistinct (hdone.map read), gather_eq, Reads.outcome, hunits, hunread]
  rfl

end Model
end EntityDiagram
