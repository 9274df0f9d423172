import EntityDiagram.Text.Blank
import EntityDiagram.Text.Word

/-!
# Patterns

Models are read by looking for declarations of a known shape in the text around them. A shape is a
`Pattern`: characters that pass a test, one after another, in alternatives, repeated, with some of
what they cover captured. Only single characters are repeated. That is all the shapes need, and it
is why matching ends by recursion on the pattern and the text with nothing to be bounded.

A pattern is matched at a `Cursor`, a place in a text that remembers the character before it, since
whether a word begins or ends here depends on both sides.

`Pattern.runs` gives *every* way to match, in order of preference: the first alternative before the
second, a long repetition before a short one unless the pattern asks for the fewest. What matches is
the first of them. So a statement that some text can never be captured is a statement about all
runs and needs no order, and a statement about the run chosen adds only the order.
-/

namespace EntityDiagram

/-! ## Places in a text -/

/-- A place in a text: the character before it, if any, and all that follows. -/
structure Cursor where
  before : Option Char
  rest : Text
  deriving DecidableEq

namespace Cursor

def start (t : Text) : Cursor := ⟨none, t⟩

def atWordEdge (c : Cursor) : Bool :=
  c.before.any Text.isWord != c.rest.head?.any Text.isWord

/-- The places reached by passing characters that satisfy the test, this place first. -/
def passing (test : Char → Bool) (before : Option Char) : Text → List Cursor
  | [] => [⟨before, []⟩]
  | c :: rest =>
    ⟨before, c :: rest⟩ :: if test c then passing test (some c) rest else []

theorem passing_of_passes {test : Char → Bool} {x : Char} (h : test x = true)
    (before : Option Char) (rest : Text) : passing test before (x :: rest)
      = ⟨before, x :: rest⟩ :: passing test (some x) rest := by
  rw [passing, if_pos h]

theorem passing_of_stops {test : Char → Bool} {x : Char} (h : test x = false)
    (before : Option Char) (rest : Text) : passing test before (x :: rest)
      = [⟨before, x :: rest⟩] := by
  simp [passing, h]

/-- The text between two places of one text, the first at or before the second. -/
def upTo (a b : Cursor) : Text := a.rest.take (a.rest.length - b.rest.length)

end Cursor

/-! ## Syntax -/

/-- What a match captured so far: where each capture begins and ends, in the order of their ends. -/
abbrev Captures := List (Cursor × Cursor)

inductive Pattern where
  | nothing
  | one (test : Char → Bool)
  /-- The first, then the second. -/
  | inOrder (first second : Pattern)
  /-- The first if that leads to a match, else the second. -/
  | either (first second : Pattern)
  /-- As many characters that pass the test as lead to a match, perhaps none. -/
  | most (test : Char → Bool)
  /-- As few characters that pass the test as lead to a match, perhaps none. -/
  | fewest (test : Char → Bool)
  /-- What the pattern covers, kept as a capture. -/
  | captured (inner : Pattern)
  /-- No characters, at a place where a word begins or ends. -/
  | wordEdge

namespace Pattern

instance : Append Pattern := ⟨inOrder⟩

instance : OrElse Pattern := ⟨fun p q => either p (q ())⟩

/-- The given characters, one after another. -/
def literal (t : Text) : Pattern := t.foldr (fun c p => one (· == c) ++ p) nothing

instance : Coe String Pattern := ⟨fun s => literal s.toList⟩

/-- At least one character that passes the test, and as many as lead to a match. -/
def several (test : Char → Bool) : Pattern := one test ++ most test

/-- The pattern if it leads to a match, else nothing. -/
def optional (p : Pattern) : Pattern := either p nothing

/-- White space, perhaps none. -/
def blanks : Pattern := most Text.isBlank

/-- White space, at least one character of it. -/
def space : Pattern := several Text.isBlank

/-- Whether two characters are the same letter when case is left aside, the first being a small
    ASCII letter. The letters i and s have foreign forms, the dotted and the dotless i and the long
    s, that count as the same letter too. -/
def sameLetter (small c : Char) : Bool :=
  c == small || (Text.isAsciiLetter c && Char.ofNat (c.toNat + 32) == small)
    || (small == 'i' && (c.toNat == 0x130 || c.toNat == 0x131))
    || (small == 's' && c.toNat == 0x17F)

/-- The given characters, small ASCII letters among them in any case. -/
def literalAnyCase (t : Text) : Pattern :=
  t.foldr (fun c p => one (fun d => if 'a' ≤ c && c ≤ 'z' then sameLetter c d else d == c) ++ p)
    nothing

/-! ## Matching -/

/-- Every way to match at the cursor, in order of preference: where the match ends, and what it
    captured on top of what had been captured before. -/
def runs : Pattern → Cursor → Captures → List (Cursor × Captures)
  | nothing, c, found => [(c, found)]
  | one test, c, found => match c.rest with
    | [] => []
    | x :: rest => if test x then [(⟨some x, rest⟩, found)] else []
  | inOrder p q, c, found => (p.runs c found).flatMap fun r => q.runs r.1 r.2
  | either p q, c, found => p.runs c found ++ q.runs c found
  | most test, c, found => (Cursor.passing test c.before c.rest).reverse.map (·, found)
  | fewest test, c, found => (Cursor.passing test c.before c.rest).map (·, found)
  | captured p, c, found => (p.runs c found).map fun r => (r.1, r.2 ++ [(c, r.1)])
  | wordEdge, c, found => if c.atWordEdge then [(c, found)] else []

theorem runs_append (p q : Pattern) (c : Cursor) (found : Captures) :
    (p ++ q).runs c found = (p.runs c found).flatMap fun run => q.runs run.1 run.2 := rfl

/-- Patterns in order may be grouped from the right, which is how a text is consumed. -/
theorem runs_append_assoc (p q r : Pattern) (c : Cursor) (found : Captures) :
    ((p ++ q) ++ r).runs c found = (p ++ (q ++ r)).runs c found := by
  simp only [runs_append, List.flatMap_assoc]

theorem runs_nothing_append (q : Pattern) (c : Cursor) (found : Captures) :
    (nothing ++ q).runs c found = q.runs c found := by
  simp [runs_append, runs]

theorem runs_either_append (p q r : Pattern) (c : Cursor) (found : Captures) :
    (either p q ++ r).runs c found = (p ++ r).runs c found ++ (q ++ r).runs c found :=
  List.flatMap_append

theorem runs_captured_append (p q : Pattern) (c : Cursor) (found : Captures) :
    (captured p ++ q).runs c found
      = (p.runs c found).flatMap fun run => q.runs run.1 (run.2 ++ [(c, run.1)]) := by
  rw [runs_append, runs, List.flatMap_map]

end Pattern

/-! ## Searching -/

/-- A match: where it begins and ends, and what it captured. -/
structure Match where
  start : Cursor
  stop : Cursor
  captures : Captures

/-- The text of the capture with the given number, counted from zero; empty if there is none. -/
def Match.text (m : Match) (i : Nat) : Text :=
  match m.captures[i]? with
  | some (a, b) => a.upTo b
  | none => []

namespace Pattern

variable {p : Pattern} {b : Option Char} {t : Text} {m : Match}

def matchAt? (p : Pattern) (c : Cursor) : Option Match :=
  match p.runs c [] with
  | [] => none
  | (stop, captures) :: _ => some ⟨c, stop, captures⟩

theorem matchAt?_eq_none {c : Cursor} : p.matchAt? c = none ↔ p.runs c [] = [] := by
  unfold matchAt?
  cases p.runs c [] with
  | nil => simp
  | cons r rs => simp

/-- A match is made of the run preferred to all others. -/
theorem exists_runs_of_matchAt? {c : Cursor} (h : p.matchAt? c = some m) :
    ∃ others, p.runs c [] = (m.stop, m.captures) :: others ∧ m.start = c := by
  unfold matchAt? at h
  cases hr : p.runs c [] with
  | nil => simp [hr] at h
  | cons run others =>
    rw [hr, Option.some.injEq] at h
    rw [← h]
    exact ⟨others, rfl, rfl⟩

theorem runs_ne_nil_of_matchAt? {c : Cursor} (h : p.matchAt? c = some m) : p.runs c [] ≠ [] := by
  obtain ⟨others, hruns, -⟩ := exists_runs_of_matchAt? h
  rw [hruns]
  exact List.cons_ne_nil _ _

theorem start_of_matchAt? {c : Cursor} (h : p.matchAt? c = some m) : m.start = c := by
  obtain ⟨-, -, hstart⟩ := exists_runs_of_matchAt? h
  exact hstart

theorem matchAt?_of_head {c stop : Cursor} {captures : Captures}
    (h : (p.runs c []).head? = some (stop, captures)) :
    p.matchAt? c = some ⟨c, stop, captures⟩ := by
  unfold matchAt?
  cases hr : p.runs c [] with
  | nil => simp [hr] at h
  | cons r rs =>
    rw [hr, List.head?_cons, Option.some.injEq] at h
    rw [h]

theorem matchAt?_of_runs {c stop : Cursor} {captures : Captures} {others : List (Cursor × Captures)}
    (h : p.runs c [] = (stop, captures) :: others) : p.matchAt? c = some ⟨c, stop, captures⟩ :=
  matchAt?_of_head (by rw [h]; rfl)

/-- The first match at or after a place, given by the character before it and what follows. -/
def searchFrom? (p : Pattern) (before : Option Char) : Text → Option Match
  | [] => p.matchAt? ⟨before, []⟩
  | x :: rest => match p.matchAt? ⟨before, x :: rest⟩ with
    | some m => some m
    | none => p.searchFrom? (some x) rest

theorem searchFrom?_of_match (h : p.matchAt? ⟨b, t⟩ = some m) : p.searchFrom? b t = some m := by
  cases t with
  | nil => exact h
  | cons x t => rw [searchFrom?, h]

theorem searchFrom?_of_none {x : Char} (h : p.matchAt? ⟨b, x :: t⟩ = none) :
    p.searchFrom? b (x :: t) = p.searchFrom? (some x) t := by
  rw [searchFrom?, h]

/-- The first match at or after the cursor. -/
def searchAt? (p : Pattern) (c : Cursor) : Option Match := p.searchFrom? c.before c.rest

/-- The first match in a text. -/
def search? (p : Pattern) (t : Text) : Option Match := p.searchAt? (Cursor.start t)

def occursIn (p : Pattern) (t : Text) : Bool := (p.search? t).isSome

/-- The matches from a place on that do not overlap, each beginning where it can soonest. The number
    says how many characters still belong to the match before. -/
def allFrom (p : Pattern) : Nat → Option Char → Text → List Match
  | _, _, [] => []
  | skip + 1, _, x :: rest => p.allFrom skip (some x) rest
  | 0, before, x :: rest => match p.matchAt? ⟨before, x :: rest⟩ with
    | some m =>
      m :: p.allFrom ((x :: rest).length - m.stop.rest.length - 1) (some x) rest
    | none => p.allFrom 0 (some x) rest

@[simp] theorem allFrom_nil (n : Nat) : p.allFrom n b [] = [] := by rw [allFrom]

theorem allFrom_succ (n : Nat) (x : Char) :
    p.allFrom (n + 1) b (x :: t) = p.allFrom n (some x) t := by rw [allFrom]

theorem allFrom_zero_of_match {x : Char} (h : p.matchAt? ⟨b, x :: t⟩ = some m) :
    p.allFrom 0 b (x :: t)
      = m :: p.allFrom ((x :: t).length - m.stop.rest.length - 1) (some x) t := by
  rw [allFrom, h]

theorem allFrom_zero_of_none {x : Char} (h : p.matchAt? ⟨b, x :: t⟩ = none) :
    p.allFrom 0 b (x :: t) = p.allFrom 0 (some x) t := by
  rw [allFrom, h]

/-- The matches in a text that do not overlap, each beginning where it can soonest. The pattern is
    one that covers at least one character. -/
def all (p : Pattern) (t : Text) : List Match := p.allFrom 0 none t

end Pattern
end EntityDiagram
