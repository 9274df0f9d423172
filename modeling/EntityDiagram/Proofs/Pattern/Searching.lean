import EntityDiagram.Proofs.Pattern.Running
import EntityDiagram.Proofs.Text.Splitting

/-!
# Searching a text piece by piece

A search goes through a text from the left, so a statement about it wants to be put together from
the left too: this piece has nothing in it, then comes the match, then again nothing. `Quiet` is
"nothing in it": wherever in the piece a match were to begin, there is none, *whatever follows the
piece*. Quantifying over what follows is what makes pieces composable. It also means that a piece
must not end in the middle of something, as `"protected $t"` would for a search for `"$table"`.

Three kinds of pieces are quiet for a pattern that begins with given characters: pieces that differ
from these characters wherever one tries (`quiet_of_free`, checked by evaluation for fixed text),
and pieces with a single character that the pattern cannot begin with (`quiet_of_not_mem`). The
third kind depends on what comes after the characters and is left to the patterns that need it.
-/

namespace EntityDiagram

/-! ## Captured texts -/

theorem Cursor.upTo_append (b b' : Option Char) (w z : Text) :
    Cursor.upTo ⟨b, w ++ z⟩ ⟨b', z⟩ = w := by
  unfold Cursor.upTo
  rw [List.length_append, Nat.add_sub_cancel, List.take_left]

namespace Pattern

variable {p q : Pattern} {b : Option Char} {a t w z : Text} {m : Match}

/-! ## Quiet pieces -/

/-- No match begins in the piece, whatever follows it. -/
def Quiet (p : Pattern) : Option Char → Text → Prop
  | _, [] => True
  | b, x :: a => (∀ z found, p.runs ⟨b, x :: a ++ z⟩ found = []) ∧ Quiet p (some x) a

@[simp] theorem quiet_nil : Quiet p b [] := trivial

theorem Quiet.append {v : Text} (ha : Quiet p b a) (hv : Quiet p (pass b a) v) :
    Quiet p b (a ++ v) := by
  induction a generalizing b with
  | nil => exact hv
  | cons x a ih =>
    refine ⟨fun z found => ?_, ih ha.2 hv⟩
    have hx := ha.1 (v ++ z) found
    rw [List.cons_append, ← List.append_assoc] at hx
    exact hx

theorem quiet_flatMap {α : Type} {f : α → Text} {xs : List α}
    (h : ∀ x ∈ xs, ∀ b, Quiet p b (f x)) : Quiet p b (xs.flatMap f) := by
  induction xs generalizing b with
  | nil => exact quiet_nil
  | cons x xs ih =>
    rw [List.flatMap_cons]
    exact (h x List.mem_cons_self b).append (ih fun y hy => h y (List.mem_cons_of_mem x hy))

theorem Quiet.runs_eq_nil {v : Text} (h : Quiet p b (a ++ v)) (hv : v ≠ []) (z : Text)
    (found : Captures) : p.runs ⟨pass b a, v ++ z⟩ found = [] := by
  induction a generalizing b with
  | nil =>
    cases v with
    | nil => exact absurd rfl hv
    | cons x v => exact h.1 z found
  | cons x a ih => exact ih h.2

theorem quiet_of_rejects {test : Char → Bool} (h : p.Rejects test) (ha : ∀ x ∈ a, test x = true) :
    Quiet p b a := by
  induction a generalizing b with
  | nil => exact quiet_nil
  | cons x a ih =>
    refine ⟨fun z found => h x (ha x List.mem_cons_self) b (a ++ z) found, ih fun y hy => ?_⟩
    exact ha y (List.mem_cons_of_mem x hy)

/-! ## Searching on -/

theorem searchFrom?_skip
    (h : ∀ v w, a = v ++ w → w ≠ [] → p.matchAt? ⟨pass b v, w ++ t⟩ = none) :
    p.searchFrom? b (a ++ t) = p.searchFrom? (pass b a) t := by
  induction a generalizing b with
  | nil => rfl
  | cons x a ih =>
    have hno : p.matchAt? ⟨b, x :: (a ++ t)⟩ = none := h [] (x :: a) rfl (by simp)
    rw [List.cons_append, searchFrom?_of_none hno]
    exact ih fun v w heq hne => h (x :: v) w (by rw [heq]; rfl) hne

theorem searchFrom?_append (h : Quiet p b a) :
    p.searchFrom? b (a ++ t) = p.searchFrom? (pass b a) t := by
  apply searchFrom?_skip
  rintro v w rfl hne
  exact matchAt?_eq_none.mpr (h.runs_eq_nil hne t [])

/-- The first match is the one behind a piece that has none. -/
theorem search?_of_match (h : Quiet p none a) (hm : p.matchAt? ⟨pass none a, t⟩ = some m) :
    p.search? (a ++ t) = some m := by
  show p.searchFrom? none (a ++ t) = some m
  rw [searchFrom?_append h]
  exact searchFrom?_of_match hm

theorem searchFrom?_of_quiet (h : Quiet p b a) (hend : p.runs ⟨pass b a, []⟩ [] = []) :
    p.searchFrom? b a = none := by
  have happend := searchFrom?_append (t := []) h
  rw [List.append_nil] at happend
  rw [happend]
  exact matchAt?_eq_none.mpr hend

/-- What a search finds is a match, and before it there is none. -/
theorem searchFrom?_eq_some (h : p.searchFrom? b t = some m) :
    ∃ a z, t = a ++ z ∧ p.matchAt? ⟨pass b a, z⟩ = some m
      ∧ ∀ a' z', t = a' ++ z' → a'.length < a.length → p.matchAt? ⟨pass b a', z'⟩ = none := by
  induction t generalizing b with
  | nil => exact ⟨[], [], rfl, h, fun _ _ _ hlt => absurd hlt (Nat.not_lt_zero _)⟩
  | cons x t ih =>
    cases hm : p.matchAt? ⟨b, x :: t⟩ with
    | some m' =>
      rw [searchFrom?_of_match hm] at h
      exact ⟨[], x :: t, rfl, hm.trans h, fun _ _ _ hlt => absurd hlt (Nat.not_lt_zero _)⟩
    | none =>
      rw [searchFrom?_of_none hm] at h
      obtain ⟨a, z, rfl, hmatch, hbefore⟩ := ih h
      refine ⟨x :: a, z, rfl, hmatch, ?_⟩
      intro a' z' heq hlt
      cases a' with
      | nil =>
        rw [List.nil_append] at heq
        rw [← heq]
        exact hm
      | cons y a' =>
        rw [List.cons_append, List.cons.injEq] at heq
        obtain ⟨rfl, heq⟩ := heq
        exact hbefore a' z' heq (Nat.lt_of_succ_lt_succ hlt)

theorem search?_eq_some (h : p.search? t = some m) :
    ∃ a z, t = a ++ z ∧ p.matchAt? ⟨pass none a, z⟩ = some m
      ∧ ∀ a' z', t = a' ++ z' → a'.length < a.length → p.matchAt? ⟨pass none a', z'⟩ = none :=
  searchFrom?_eq_some h

theorem searchFrom?_eq_none :
    p.searchFrom? b t = none ↔ ∀ a z, t = a ++ z → p.matchAt? ⟨pass b a, z⟩ = none := by
  induction t generalizing b with
  | nil =>
    constructor
    · intro h a z heq
      obtain ⟨rfl, rfl⟩ := List.nil_eq_append_iff.mp heq
      exact h
    · intro h
      exact h [] [] rfl
  | cons x t ih =>
    constructor
    · intro h a z heq
      cases hm : p.matchAt? ⟨b, x :: t⟩ with
      | some m => simp [searchFrom?_of_match hm] at h
      | none =>
        rw [searchFrom?_of_none hm] at h
        cases a with
        | nil =>
          rw [List.nil_append] at heq
          rw [← heq]
          exact hm
        | cons y a =>
          rw [List.cons_append, List.cons.injEq] at heq
          obtain ⟨rfl, heq⟩ := heq
          exact ih.mp h a z heq
    · intro h
      have hx : p.matchAt? ⟨b, x :: t⟩ = none := h [] (x :: t) rfl
      rw [searchFrom?_of_none hx]
      exact ih.mpr fun a z heq => h (x :: a) z (by rw [heq]; rfl)

theorem occursIn_eq_false :
    p.occursIn t = false ↔ ∀ a z, t = a ++ z → p.matchAt? ⟨pass none a, z⟩ = none := by
  rw [← searchFrom?_eq_none, occursIn, Option.isSome_eq_false_iff, Option.isNone_iff_eq_none]
  rfl

theorem occursIn_iff :
    p.occursIn t = true ↔ ∃ a z, t = a ++ z ∧ p.runs ⟨pass none a, z⟩ [] ≠ [] := by
  rw [← Bool.not_eq_false, occursIn_eq_false]
  simp only [matchAt?_eq_none]
  grind

theorem occursIn_of_runs (h : p.runs ⟨pass none a, z⟩ [] ≠ []) : p.occursIn (a ++ z) = true :=
  occursIn_iff.mpr ⟨a, z, rfl, h⟩

/-! ## All matches -/

theorem allFrom_append (h : Quiet p b a) :
    p.allFrom 0 b (a ++ t) = p.allFrom 0 (pass b a) t := by
  induction a generalizing b with
  | nil => rfl
  | cons x a ih =>
    have hno : p.matchAt? ⟨b, x :: (a ++ t)⟩ = none := matchAt?_eq_none.mpr (h.1 t [])
    rw [List.cons_append, allFrom_zero_of_none hno]
    exact ih h.2

theorem allFrom_cons {x : Char} (h : p.runs ⟨b, x :: t⟩ [] = []) :
    p.allFrom 0 b (x :: t) = p.allFrom 0 (some x) t :=
  allFrom_zero_of_none (matchAt?_eq_none.mpr h)

theorem allFrom_skip : p.allFrom w.length b (w ++ t) = p.allFrom 0 (pass b w) t := by
  induction w generalizing b with
  | nil => rfl
  | cons x w ih =>
    rw [List.length_cons, List.cons_append, allFrom_succ]
    exact ih

theorem allFrom_of_match (hw : w ≠ []) (h : p.matchAt? ⟨b, w ++ t⟩ = some m)
    (hstop : m.stop.rest = t) :
    p.allFrom 0 b (w ++ t) = m :: p.allFrom 0 (pass b w) t := by
  obtain ⟨x, w, rfl⟩ := List.exists_cons_of_ne_nil hw
  rw [List.cons_append] at h ⊢
  have hlength : (x :: (w ++ t)).length - m.stop.rest.length - 1 = w.length := by
    rw [hstop, List.length_cons, List.length_append]
    omega
  rw [allFrom_zero_of_match h, hlength, allFrom_skip]
  rfl

theorem allFrom_of_quiet (h : Quiet p b a) : p.allFrom 0 b a = [] := by
  have happend := allFrom_append (t := []) h
  rw [List.append_nil] at happend
  rw [happend, allFrom_nil]

/-- Each of the matches is a match at some place of the text. -/
theorem exists_of_mem_allFrom {n : Nat} (h : m ∈ p.allFrom n b t) :
    ∃ a z, t = a ++ z ∧ p.matchAt? ⟨pass b a, z⟩ = some m := by
  induction t generalizing n b with
  | nil =>
    rw [allFrom_nil] at h
    exact absurd h List.not_mem_nil
  | cons x t ih =>
    have hlater : ∀ {n}, m ∈ p.allFrom n (some x) t →
        ∃ a z, x :: t = a ++ z ∧ p.matchAt? ⟨pass b a, z⟩ = some m := by
      intro n hm
      obtain ⟨a, z, rfl, hmatch⟩ := ih hm
      exact ⟨x :: a, z, rfl, hmatch⟩
    cases n with
    | succ n => exact hlater h
    | zero =>
      cases hm' : p.matchAt? ⟨b, x :: t⟩ with
      | some m' =>
        rw [allFrom_zero_of_match hm'] at h
        rcases List.mem_cons.mp h with rfl | h
        · exact ⟨[], x :: t, rfl, hm'⟩
        · exact hlater h
      | none =>
        rw [allFrom_zero_of_none hm'] at h
        exact hlater h

/-- The matches begin behind the characters that belong to the match before. -/
theorem length_start_of_mem_allFrom {n : Nat} (h : m ∈ p.allFrom n b t) :
    m.start.rest.length + n ≤ t.length := by
  induction t generalizing n b with
  | nil =>
    rw [allFrom_nil] at h
    exact absurd h List.not_mem_nil
  | cons x t ih =>
    cases n with
    | succ n => exact Nat.succ_le_succ (ih h)
    | zero =>
      have hlater : ∀ {n b}, m ∈ p.allFrom n b t → m.start.rest.length + 0 ≤ (x :: t).length :=
        fun hm => Nat.le_succ_of_le (Nat.le_of_add_right_le (ih hm))
      cases hm' : p.matchAt? ⟨b, x :: t⟩ with
      | some m' =>
        rw [allFrom_zero_of_match hm'] at h
        rcases List.mem_cons.mp h with rfl | h
        · rw [start_of_matchAt? hm']
          exact Nat.le_refl _
        · exact hlater h
      | none =>
        rw [allFrom_zero_of_none hm'] at h
        exact hlater h

/-- **Matches do not overlap**, and they come in the order of their places. -/
theorem pairwise_allFrom {n : Nat} :
    (p.allFrom n b t).Pairwise fun m m' => m'.start.rest.length ≤ m.stop.rest.length := by
  induction t generalizing n b with
  | nil =>
    rw [allFrom_nil]
    exact .nil
  | cons x t ih =>
    cases n with
    | succ n => exact ih
    | zero =>
      cases hm : p.matchAt? ⟨b, x :: t⟩ with
      | some m =>
        rw [allFrom_zero_of_match hm]
        refine List.pairwise_cons.mpr ⟨fun m' hm' => ?_, ih⟩
        have hstart := length_start_of_mem_allFrom hm'
        rw [List.length_cons] at hstart
        omega
      | none =>
        rw [allFrom_zero_of_none hm]
        exact ih

/-! ## Patterns that begin with given characters -/

def Begins (p : Pattern) (w : Text) : Prop :=
  ∀ {b t found}, p.runs ⟨b, t⟩ found ≠ [] → w <+: t

theorem begins_literal_append : (literal w ++ q).Begins w := by
  intro b t found h
  obtain ⟨run, hrun⟩ := List.exists_mem_of_ne_nil _ h
  obtain ⟨mid, hmid, -⟩ := mem_runs_append.mp hrun
  obtain ⟨z, rfl, -⟩ := mem_runs_literal.mp hmid
  exact List.prefix_append w z

theorem Begins.runs_eq_nil (h : p.Begins w) {found : Captures} (hno : clashes w t = true) :
    p.runs ⟨b, t⟩ found = [] := by
  refine Classical.byContradiction fun hne => ?_
  obtain ⟨z, rfl⟩ := h hne
  rw [not_clashes_self_append] at hno
  exact absurd hno (by simp)

theorem Begins.runs_eq_nil_of_nil {x : Char} {found : Captures} (h : p.Begins (x :: w)) :
    p.runs ⟨b, []⟩ found = [] := by
  refine Classical.byContradiction fun hne => ?_
  exact absurd (h hne) (by simp)

/-- A text that differs from the given characters wherever one begins in it. -/
def free (w : Text) : Text → Bool
  | [] => true
  | x :: a => clashes w (x :: a) && free w a

theorem quiet_of_free (h : p.Begins w) (ha : free w a = true) : Quiet p b a := by
  induction a generalizing b with
  | nil => exact quiet_nil
  | cons x a ih =>
    rw [free, Bool.and_eq_true] at ha
    refine ⟨fun z found => h.runs_eq_nil (clashes_append w (x :: a) z ha.1), ih ha.2⟩

theorem free_of_not_mem {x : Char} (ha : x ∉ a) : free (x :: w) a = true := by
  induction a with
  | nil => rfl
  | cons y a ih =>
    rw [List.mem_cons, not_or] at ha
    simp [free, clashes, ha.1, ih ha.2]

theorem quiet_of_not_mem {x : Char} (h : p.Begins (x :: w)) (ha : x ∉ a) : Quiet p b a :=
  quiet_of_free h (free_of_not_mem ha)

/-! ## Texts in which the given characters do not occur -/

theorem Begins.infix_of_matchAt? (h : p.Begins w) (hm : p.matchAt? ⟨b, z⟩ = some m) (a : Text) :
    w <:+: a ++ z :=
  (h (runs_ne_nil_of_matchAt? hm)).isInfix.trans (List.suffix_append a z).isInfix

theorem searchFrom?_of_absent (h : p.Begins w) (ha : ¬ w <:+: a) : p.searchFrom? b a = none := by
  refine Classical.byContradiction fun hne => ha ?_
  obtain ⟨m, hm⟩ := Option.ne_none_iff_exists'.mp hne
  obtain ⟨v, z, rfl, hmatch, -⟩ := searchFrom?_eq_some hm
  exact h.infix_of_matchAt? hmatch v

/-- **A match is found where it stands** if it needs a word that does not occur before it. Up to that word
    the first character of the match must not come again, or an earlier match might run into this one. -/
theorem search?_of_absent_before {x : Char} {name : Text}
    (h : ∀ {b t}, p.runs ⟨b, t⟩ [] ≠ [] → ∃ u, x :: u <+: t ∧ x ∉ u ∧ name <:+: x :: u)
    (ha : ¬ name <:+: a) (hm : p.matchAt? ⟨pass none a, x :: z⟩ = some m) :
    p.search? (a ++ x :: z) = some m := by
  have hskip : ∀ v w, a = v ++ w → w ≠ [] → p.matchAt? ⟨pass none v, w ++ x :: z⟩ = none := by
    rintro v w rfl hw
    refine matchAt?_eq_none.mpr (Classical.byContradiction fun hne => ha ?_)
    obtain ⟨u, hprefix, hx, hname⟩ := h hne
    obtain ⟨y, w, rfl⟩ := List.exists_cons_of_ne_nil hw
    obtain ⟨rfl, hu⟩ := List.cons_prefix_cons.mp hprefix
    have hwithin : x :: u <+: x :: w :=
      List.cons_prefix_cons.mpr ⟨rfl, Text.prefix_of_prefix_append_cons hu hx⟩
    exact hname.trans (hwithin.isInfix.trans (List.suffix_append v _).isInfix)
  show p.searchFrom? none (a ++ x :: z) = some m
  rw [searchFrom?_skip hskip]
  exact searchFrom?_of_match hm

theorem allFrom_of_absent (h : p.Begins w) (ha : ¬ w <:+: a) : p.allFrom 0 b a = [] := by
  rw [List.eq_nil_iff_forall_not_mem]
  intro m hm
  obtain ⟨v, z, rfl, hmatch⟩ := exists_of_mem_allFrom hm
  exact ha (h.infix_of_matchAt? hmatch v)

/-- A text may end in the beginning of the given characters, but not if a character follows that is
    none of them. -/
theorem quiet_of_absent {x : Char} (h : p.Begins w) (ha : ¬ w <:+: a) (hx : x ∉ w) :
    Quiet p b (a ++ [x]) := by
  have hrefuse : ∀ v, ¬ w <:+: v → ∀ b z found, p.runs ⟨b, v ++ x :: z⟩ found = [] := by
    intro v hv b z found
    refine Classical.byContradiction fun hne => hv ?_
    exact (Text.prefix_of_prefix_append_cons (h hne) hx).isInfix
  induction a generalizing b with
  | nil => exact ⟨hrefuse [] ha b, quiet_nil⟩
  | cons c a ih =>
    refine ⟨fun z found => ?_, ih fun hin => ha (List.infix_cons hin)⟩
    have hc := hrefuse (c :: a) ha b z found
    simpa using hc

end Pattern

theorem Match.text_eq {m : Match} {i : Nat} {b b' : Option Char} {w z : Text}
    (h : m.captures[i]? = some (⟨b, w ++ z⟩, ⟨b', z⟩)) : m.text i = w := by
  rw [Match.text, h]
  exact Cursor.upTo_append b b' w z

end EntityDiagram
