import EntityDiagram.Pattern.Basic

/-!
# Patterns over a text that is known

`Pattern.runs` lists every way to match. Two questions come up about it, and each has its lemmas
here.

*What can a run have covered?* Every run covers a stretch of the text, and the `mem_runs` lemmas say
of each constructor which stretches. They are what a proof needs that some text does not match.

*Which run is preferred on this very text?* Where the text is written out up to its variable parts,
there is mostly one run only: a repetition that stops at the wrong place is followed by a pattern
that cannot go on there (`Rejects`). So the equations `runs_…_append` consume the text from the left
and leave the rest of the pattern with the rest of the text. Only a repetition at the very end of a
pattern has several runs, and there the first of them is what counts.
-/

namespace EntityDiagram
namespace Pattern

/-- The character before what follows a text, given the character before the text. -/
def pass (b : Option Char) : Text → Option Char
  | [] => b
  | c :: w => pass (some c) w

@[simp] theorem pass_nil (b : Option Char) : pass b [] = b := rfl

@[simp] theorem pass_cons (b : Option Char) (c : Char) (w : Text) :
    pass b (c :: w) = pass (some c) w := rfl

@[simp] theorem pass_append (b : Option Char) (v w : Text) :
    pass b (v ++ w) = pass (pass b v) w := by
  induction v generalizing b with
  | nil => rfl
  | cons c v ih => exact ih (some c)

theorem any_or_eq_false {test : Char → Bool} {o o' : Option Char} (h : o.any test = false)
    (h' : o'.any test = false) : (o.or o').any test = false := by
  cases o with
  | none => exact h'
  | some c => exact h

theorem any_eq_false_of_or {test : Char → Bool} {o o' : Option Char}
    (h : (o.or o').any test = false) : o.any test = false := by
  cases o with
  | none => rfl
  | some c => exact h

/-- The character before a place is the last one passed, if any was. -/
theorem pass_eq_or (b : Option Char) (w : Text) : pass b w = w.getLast?.or b := by
  induction w generalizing b with
  | nil => rfl
  | cons c w ih =>
    rw [pass_cons, ih, List.getLast?_cons]
    cases w.getLast? with
    | none => rfl
    | some d => rfl

/-- From the start of a text on, the character before is the last one passed. -/
theorem pass_none (w : Text) : pass none w = w.getLast? := by
  rw [pass_eq_or, Option.or_none]

variable {p q r : Pattern} {test first : Char → Bool} {b : Option Char} {t w z : Text} {x : Char}
variable {c : Cursor} {found : Captures} {run : Cursor × Captures}

/-! ## What a run covers -/

theorem mem_runs_append :
    run ∈ (p ++ q).runs c found ↔ ∃ mid ∈ p.runs c found, run ∈ q.runs mid.1 mid.2 :=
  List.mem_flatMap

theorem mem_runs_one :
    run ∈ (one test).runs ⟨b, t⟩ found
      ↔ ∃ x z, t = x :: z ∧ test x = true ∧ run = (⟨some x, z⟩, found) := by
  cases t with
  | nil => simp [runs]
  | cons y rest =>
    simp only [runs, List.cons.injEq]
    split
    · next hy =>
      constructor
      · intro h
        exact ⟨y, rest, ⟨rfl, rfl⟩, hy, List.mem_singleton.mp h⟩
      · rintro ⟨x, z, ⟨rfl, rfl⟩, -, rfl⟩
        exact List.mem_singleton.mpr rfl
    · next hy =>
      constructor
      · intro h
        simp at h
      · rintro ⟨x, z, ⟨rfl, rfl⟩, hx, -⟩
        exact absurd hx hy

theorem mem_runs_literal :
    run ∈ (literal w).runs ⟨b, t⟩ found ↔ ∃ z, t = w ++ z ∧ run = (⟨pass b w, z⟩, found) := by
  induction w generalizing b t with
  | nil =>
    rw [literal, List.foldr_nil, runs, List.mem_singleton]
    constructor
    · intro h
      exact ⟨t, rfl, h⟩
    · rintro ⟨z, rfl, h⟩
      exact h
  | cons y w ih =>
    have hcons : literal (y :: w) = one (· == y) ++ literal w := rfl
    rw [hcons, mem_runs_append]
    constructor
    · rintro ⟨mid, hmid, hrun⟩
      obtain ⟨x, z, rfl, hx, rfl⟩ := mem_runs_one.mp hmid
      obtain ⟨z, rfl, rfl⟩ := ih.mp hrun
      rw [eq_of_beq hx]
      exact ⟨z, rfl, rfl⟩
    · rintro ⟨z, rfl, rfl⟩
      exact ⟨(⟨some y, w ++ z⟩, found), mem_runs_one.mpr ⟨y, w ++ z, rfl, beq_self_eq_true y, rfl⟩,
        ih.mpr ⟨z, rfl, rfl⟩⟩

theorem mem_passing :
    c ∈ Cursor.passing test b t
      ↔ ∃ w z, t = w ++ z ∧ (∀ x ∈ w, test x = true) ∧ c = ⟨pass b w, z⟩ := by
  induction t generalizing b with
  | nil =>
    rw [Cursor.passing, List.mem_singleton]
    constructor
    · rintro rfl
      exact ⟨[], [], rfl, by simp, rfl⟩
    · rintro ⟨w, z, h, -, rfl⟩
      obtain ⟨rfl, rfl⟩ := List.nil_eq_append_iff.mp h
      rfl
  | cons y t ih =>
    rw [Cursor.passing, List.mem_cons]
    constructor
    · rintro (rfl | h)
      · exact ⟨[], y :: t, rfl, by simp, rfl⟩
      · split at h
        · next hy =>
          obtain ⟨w, z, rfl, hw, rfl⟩ := ih.mp h
          refine ⟨y :: w, z, rfl, ?_, rfl⟩
          intro x hx
          rcases List.mem_cons.mp hx with rfl | hx
          · exact hy
          · exact hw x hx
        · simp at h
    · rintro ⟨w, z, h, hw, rfl⟩
      cases w with
      | nil => exact .inl (by rw [h]; rfl)
      | cons x w =>
        rw [List.cons_append, List.cons.injEq] at h
        obtain ⟨rfl, rfl⟩ := h
        right
        rw [if_pos (hw y List.mem_cons_self)]
        exact ih.mpr ⟨w, z, rfl, fun x hx => hw x (List.mem_cons_of_mem y hx), rfl⟩

theorem mem_runs_most :
    run ∈ (most test).runs ⟨b, t⟩ found
      ↔ ∃ w z, t = w ++ z ∧ (∀ x ∈ w, test x = true) ∧ run = (⟨pass b w, z⟩, found) := by
  rw [runs, List.mem_map]
  simp only [List.mem_reverse, mem_passing]
  constructor
  · rintro ⟨c, ⟨w, z, h, hw, rfl⟩, rfl⟩
    exact ⟨w, z, h, hw, rfl⟩
  · rintro ⟨w, z, h, hw, rfl⟩
    exact ⟨_, ⟨w, z, h, hw, rfl⟩, rfl⟩

theorem mem_runs_several :
    run ∈ (several test).runs ⟨b, t⟩ found
      ↔ ∃ x w z, t = x :: w ++ z ∧ test x = true ∧ (∀ y ∈ w, test y = true)
        ∧ run = (⟨pass b (x :: w), z⟩, found) := by
  rw [several, mem_runs_append]
  constructor
  · rintro ⟨mid, hmid, hrun⟩
    obtain ⟨x, t, rfl, hx, rfl⟩ := mem_runs_one.mp hmid
    obtain ⟨w, z, rfl, hw, rfl⟩ := mem_runs_most.mp hrun
    exact ⟨x, w, z, rfl, hx, hw, rfl⟩
  · rintro ⟨x, w, z, rfl, hx, hw, rfl⟩
    exact ⟨_, mem_runs_one.mpr ⟨x, w ++ z, rfl, hx, rfl⟩, mem_runs_most.mpr ⟨w, z, rfl, hw, rfl⟩⟩

theorem mem_runs_wordEdge :
    run ∈ wordEdge.runs c found ↔ c.atWordEdge = true ∧ run = (c, found) := by
  rw [runs]
  split
  · next h => simp [h]
  · next h => simp [h]

/-- A word begins where none goes on. -/
theorem atWordEdge_before (hx : Text.isWord x = true) :
    (⟨b, x :: t⟩ : Cursor).atWordEdge = !b.any Text.isWord := by
  simp [Cursor.atWordEdge, hx]

/-- And it ends where none goes on. -/
theorem atWordEdge_behind (hx : Text.isWord x = true) :
    (⟨some x, t⟩ : Cursor).atWordEdge = !t.head?.any Text.isWord := by
  simp [Cursor.atWordEdge, hx]

theorem runs_wordEdge_append (q : Pattern) (c : Cursor) (found : Captures) :
    (wordEdge ++ q).runs c found = if c.atWordEdge then q.runs c found else [] := by
  show (wordEdge.runs c found).flatMap (fun run => q.runs run.1 run.2) = _
  rw [runs]
  split <;> simp

/-! ## The run on a known text -/

theorem runs_one_append (hx : test x = true) :
    (one test ++ q).runs ⟨b, x :: z⟩ found = q.runs ⟨some x, z⟩ found := by
  rw [runs_append, runs]
  simp [hx]

theorem runs_one_append_of_not (hx : test x = false) :
    (one test ++ q).runs ⟨b, x :: z⟩ found = [] := by
  rw [runs_append, runs]
  simp [hx]

theorem runs_literal (w z : Text) (b : Option Char) (found : Captures) :
    (literal w).runs ⟨b, w ++ z⟩ found = [(⟨pass b w, z⟩, found)] := by
  induction w generalizing b with
  | nil => rfl
  | cons y w ih =>
    have hfirst : (literal (y :: w)).runs ⟨b, y :: (w ++ z)⟩ found
        = (literal w).runs ⟨some y, w ++ z⟩ found :=
      runs_one_append (beq_self_eq_true y)
    rw [List.cons_append, hfirst]
    exact ih (some y)

@[simp] theorem runs_literal_append (w z : Text) (q : Pattern) (b : Option Char)
    (found : Captures) :
    (literal w ++ q).runs ⟨b, w ++ z⟩ found = q.runs ⟨pass b w, z⟩ found := by
  rw [runs_append, runs_literal]
  simp

def clashes : Text → Text → Bool
  | x :: w, y :: t => x != y || clashes w t
  | _, _ => false

theorem clashes_append (w t z : Text) (h : clashes w t = true) : clashes w (t ++ z) = true := by
  induction w generalizing t with
  | nil => simp [clashes] at h
  | cons x w ih =>
    cases t with
    | nil => simp [clashes] at h
    | cons y t =>
      simp only [clashes, List.cons_append, Bool.or_eq_true] at h ⊢
      exact h.imp id (ih t)

theorem clashes_append_append (v : Text) {w t : Text} (h : clashes w t = true) :
    clashes (v ++ w) (v ++ t) = true := by
  induction v with
  | nil => exact h
  | cons x v ih => simp [clashes, ih]

theorem not_clashes_self_append (w z : Text) : clashes w (w ++ z) = false := by
  induction w with
  | nil => rfl
  | cons x w ih => simp [clashes, ih]

theorem runs_literal_of_clashes (h : clashes w t = true) :
    (literal w).runs ⟨b, t⟩ found = [] := by
  rw [List.eq_nil_iff_forall_not_mem]
  intro run hrun
  obtain ⟨z, rfl, -⟩ := mem_runs_literal.mp hrun
  rw [not_clashes_self_append] at h
  exact absurd h (by simp)

theorem runs_literal_append_of_clashes (h : clashes w t = true) :
    (literal w ++ q).runs ⟨b, t⟩ found = [] := by
  rw [runs_append, runs_literal_of_clashes h, List.flatMap_nil]

def Rejects (q : Pattern) (test : Char → Bool) : Prop :=
  ∀ x, test x = true → ∀ b z found, q.runs ⟨b, x :: z⟩ found = []

theorem rejects_literal (h : w.head?.any (!test ·) = true) : (literal w).Rejects test := by
  intro x hx b z found
  cases w with
  | nil => simp at h
  | cons y w =>
    have hne : y ≠ x := by
      rintro rfl
      simp [hx] at h
    exact runs_literal_of_clashes (by simp [clashes, hne])

theorem rejects_one (h : ∀ x, test x = true → first x = false) : (one first).Rejects test := by
  intro x hx b z found
  simp [runs, h x hx]

theorem Rejects.append (h : p.Rejects test) : (p ++ q).Rejects test := by
  intro x hx b z found
  rw [runs_append, h x hx, List.flatMap_nil]

theorem Rejects.most_append (h : ∀ x, test x = true → first x = false) (hq : q.Rejects test) :
    (most first ++ q).Rejects test := by
  intro x hx b z found
  simp [runs_append, runs, Cursor.passing_of_stops (h x hx), hq x hx b z found]

theorem Rejects.either (hp : p.Rejects test) (hq : q.Rejects test) : (either p q).Rejects test := by
  intro x hx b z found
  rw [runs, hp x hx, hq x hx]
  rfl

theorem Rejects.captured (hp : p.Rejects test) : (captured p).Rejects test := by
  intro x hx b z found
  rw [runs, hp x hx, List.map_nil]

def Stops (test : Char → Bool) (z : Text) : Prop := z.head?.any test = false

theorem passing_of_stops (h : Stops test z) : Cursor.passing test b z = [⟨b, z⟩] := by
  cases z with
  | nil => rfl
  | cons x z => exact Cursor.passing_of_stops h b z

/-- What a repetition is followed by decides where it stops: if it can go on only where the
    repetition cannot, the repetition takes all it can. -/
theorem flatMap_passing {β : Type} {g : Cursor → List β} (hw : ∀ y ∈ w, test y = true)
    (hz : Stops test z) (hg : ∀ x, test x = true → ∀ b z, g ⟨b, x :: z⟩ = []) :
    (Cursor.passing test b (w ++ z)).reverse.flatMap g = g ⟨pass b w, z⟩ := by
  induction w generalizing b with
  | nil => simp [passing_of_stops hz]
  | cons y w ih =>
    have hy := hw y List.mem_cons_self
    rw [List.cons_append, Cursor.passing_of_passes hy, List.reverse_cons, List.flatMap_append,
      ih fun v hv => hw v (List.mem_cons_of_mem y hv)]
    simp [hg y hy b (w ++ z)]

theorem runs_most_append (hw : ∀ y ∈ w, test y = true) (hz : Stops test z)
    (hq : q.Rejects test) :
    (most test ++ q).runs ⟨b, w ++ z⟩ found = q.runs ⟨pass b w, z⟩ found := by
  rw [runs_append, runs, List.flatMap_map]
  exact flatMap_passing hw hz fun x hx b z => hq x hx b z found

theorem runs_several_append (hw : ∀ y ∈ w, test y = true) (hne : w ≠ []) (hz : Stops test z)
    (hq : q.Rejects test) :
    (several test ++ q).runs ⟨b, w ++ z⟩ found = q.runs ⟨pass b w, z⟩ found := by
  obtain ⟨y, w, rfl⟩ := List.exists_cons_of_ne_nil hne
  rw [several, runs_append_assoc, List.cons_append, runs_one_append (hw y List.mem_cons_self)]
  exact runs_most_append (fun v hv => hw v (List.mem_cons_of_mem y hv)) hz hq

theorem runs_optional_append (p q : Pattern) (c : Cursor) (found : Captures) :
    (optional p ++ q).runs c found = (p ++ q).runs c found ++ q.runs c found := by
  rw [optional, runs_either_append, runs_nothing_append]

theorem Rejects.optional_append (hp : p.Rejects test) (hq : q.Rejects test) :
    (optional p ++ q).Rejects test := by
  intro x hx b z found
  rw [runs_optional_append, hp.append x hx, hq x hx]
  rfl

/-- A captured word, of a first character and others: all of it is captured. -/
theorem runs_captured_word_append {y : Char} (hy : first y = true) (hw : ∀ x ∈ w, test x = true)
    (hz : Stops test z) (hq : q.Rejects test) :
    (captured (one first ++ most test) ++ q).runs ⟨b, y :: w ++ z⟩ found
      = q.runs ⟨pass b (y :: w), z⟩ (found ++ [(⟨b, y :: w ++ z⟩, ⟨pass b (y :: w), z⟩)]) := by
  rw [runs_captured_append, List.cons_append, runs_one_append hy, runs, List.flatMap_map]
  exact flatMap_passing (g := fun c => q.runs c (found ++ [(_, c)])) hw hz
    fun x hx b z => hq x hx b z _

theorem runs_captured_several_append (hw : ∀ y ∈ w, test y = true) (hne : w ≠ [])
    (hz : Stops test z) (hq : q.Rejects test) :
    (captured (several test) ++ q).runs ⟨b, w ++ z⟩ found
      = q.runs ⟨pass b w, z⟩ (found ++ [(⟨b, w ++ z⟩, ⟨pass b w, z⟩)]) := by
  obtain ⟨y, w, rfl⟩ := List.exists_cons_of_ne_nil hne
  exact runs_captured_word_append (hw y List.mem_cons_self)
    (fun x hx => hw x (List.mem_cons_of_mem y hx)) hz hq

/-! ## The preferred run at the end of a pattern -/

theorem getLast?_passing (hw : ∀ y ∈ w, test y = true) (hz : Stops test z) :
    (Cursor.passing test b (w ++ z)).getLast? = some ⟨pass b w, z⟩ := by
  induction w generalizing b with
  | nil => simp [passing_of_stops hz]
  | cons y w ih =>
    rw [List.cons_append, Cursor.passing_of_passes (hw y List.mem_cons_self), List.getLast?_cons,
      ih fun v hv => hw v (List.mem_cons_of_mem y hv)]
    rfl

/-- A repetition is preferred that takes all it can, provided that what follows it goes on there. -/
theorem head?_runs_most_append (hw : ∀ y ∈ w, test y = true) (hz : Stops test z)
    (h : (q.runs ⟨pass b w, z⟩ found).head? = some run) :
    ((most test ++ q).runs ⟨b, w ++ z⟩ found).head? = some run := by
  have hlast : (Cursor.passing test b (w ++ z)).getLast? = some ⟨pass b w, z⟩ := getLast?_passing hw hz
  obtain ⟨shorter, hpassing⟩ := List.getLast?_eq_some_iff.mp hlast
  rw [runs_append, runs, List.flatMap_map, hpassing, List.reverse_append, List.reverse_singleton,
    List.singleton_append, List.flatMap_cons, List.head?_append, h, Option.some_or]

/-- A captured repetition at the end of a pattern: the longest comes first. -/
theorem head?_runs_captured_several (hw : ∀ y ∈ w, test y = true) (hne : w ≠ [])
    (hz : Stops test z) :
    ((captured (several test)).runs ⟨b, w ++ z⟩ found).head?
      = some (⟨pass b w, z⟩, found ++ [(⟨b, w ++ z⟩, ⟨pass b w, z⟩)]) := by
  obtain ⟨y, w, rfl⟩ := List.exists_cons_of_ne_nil hne
  have hlast : (Cursor.passing test (some y) (w ++ z)).getLast? = some ⟨pass (some y) w, z⟩ :=
    getLast?_passing (fun v hv => hw v (List.mem_cons_of_mem y hv)) hz
  rw [runs, List.head?_map, several, List.cons_append, runs_one_append (hw y List.mem_cons_self),
    runs, List.head?_map, List.head?_reverse, hlast]
  rfl

/-- The shortest stretch up to a character is the one up to its first occurrence. -/
theorem head?_runs_captured_fewest (hw : x ∉ w) :
    ((captured (fewest fun _ => true) ++ literal [x]).runs ⟨b, w ++ x :: z⟩ found).head?
      = some (⟨some x, z⟩, found ++ [(⟨b, w ++ x :: z⟩, ⟨pass b w, x :: z⟩)]) := by
  rw [runs_captured_append, runs, List.flatMap_map]
  generalize hc : (⟨b, w ++ x :: z⟩ : Cursor) = c
  -- Ends are tried from the nearest on, and before `x` there is none where the literal goes on.
  have hgo : ∀ (w : Text) (b : Option Char), x ∉ w →
      ((Cursor.passing (fun _ => true) b (w ++ x :: z)).flatMap fun d =>
        (literal [x]).runs d (found ++ [(c, d)])).head?
        = some (⟨some x, z⟩, found ++ [(c, ⟨pass b w, x :: z⟩)]) := by
    intro w
    induction w with
    | nil =>
      intro b _
      have hone : (literal [x]).runs ⟨b, x :: z⟩ (found ++ [(c, ⟨b, x :: z⟩)])
          = [(⟨some x, z⟩, found ++ [(c, ⟨b, x :: z⟩)])] := runs_literal [x] z b _
      rw [List.nil_append, Cursor.passing, List.flatMap_cons, hone]
      rfl
    | cons y w ih =>
      intro b hmem
      have hne : x ≠ y := fun h => hmem (h ▸ List.mem_cons_self)
      have hno : (literal [x]).runs ⟨b, y :: (w ++ x :: z)⟩
          (found ++ [(c, ⟨b, y :: (w ++ x :: z)⟩)]) = [] :=
        runs_literal_of_clashes (by simp [clashes, hne])
      rw [List.cons_append, Cursor.passing, List.flatMap_cons, hno]
      exact ih (some y) fun h => hmem (List.mem_cons_of_mem y h)
  subst hc
  exact hgo w b hw

end Pattern
end EntityDiagram
