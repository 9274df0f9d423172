import EntityDiagram.Proofs.Pattern.Searching

/-!
# What a pattern can capture

What a declaration gives is the text of a capture. Most shapes capture one thing, between a front and
a back that capture nothing, and of such a shape one sentence says all that can be known of the
capture without knowing the text: it is a stretch that the captured pattern covers
(`text_of_matchAt?`). Nothing depends on which run is preferred, or on where in a text the match
begins, so the sentence holds of whatever a search finds.
-/

namespace EntityDiagram
namespace Pattern

variable {p q r front back : Pattern} {test first : Char → Bool} {b : Option Char} {t w : Text}
variable {c : Cursor} {found : Captures} {run : Cursor × Captures} {m : Match}

/-! ## Patterns that capture nothing -/

def capturesNothing : Pattern → Bool
  | nothing => true
  | one _ => true
  | inOrder p q => p.capturesNothing && q.capturesNothing
  | either p q => p.capturesNothing && q.capturesNothing
  | most _ => true
  | fewest _ => true
  | captured _ => false
  | wordEdge => true

theorem captures_of_capturesNothing (hp : p.capturesNothing = true) (h : run ∈ p.runs c found) :
    run.2 = found := by
  induction p generalizing c found run with
  | nothing => rw [List.mem_singleton.mp h]
  | one test =>
    obtain ⟨b, t⟩ := c
    obtain ⟨x, z, -, -, rfl⟩ := mem_runs_one.mp h
    rfl
  | inOrder p q ihp ihq =>
    rw [capturesNothing, Bool.and_eq_true] at hp
    obtain ⟨mid, hmid, hrun⟩ := mem_runs_append.mp h
    rw [ihq hp.2 hrun, ihp hp.1 hmid]
  | either p q ihp ihq =>
    rw [capturesNothing, Bool.and_eq_true] at hp
    exact (List.mem_append.mp h).elim (ihp hp.1) (ihq hp.2)
  | most test =>
    obtain ⟨d, -, rfl⟩ := List.mem_map.mp h
    rfl
  | fewest test =>
    obtain ⟨d, -, rfl⟩ := List.mem_map.mp h
    rfl
  | captured p _ => exact absurd hp (by simp [capturesNothing])
  | wordEdge => rw [(mem_runs_wordEdge.mp h).2]

/-! ## Texts that a pattern covers -/

/-- Somewhere, with something before it and something behind it, the pattern matches just this. -/
def Covers (p : Pattern) (w : Text) : Prop :=
  ∃ b z found, ∃ run ∈ p.runs ⟨b, w ++ z⟩ found, run.1 = ⟨pass b w, z⟩

/-- A run goes on from where it begins, over characters that are there. -/
theorem stretch_of_mem_runs (h : run ∈ p.runs ⟨b, t⟩ found) :
    ∃ w, t = w ++ run.1.rest ∧ run.1.before = pass b w := by
  induction p generalizing b t found run with
  | nothing =>
    rw [List.mem_singleton.mp h]
    exact ⟨[], rfl, rfl⟩
  | one test =>
    obtain ⟨x, z, rfl, -, rfl⟩ := mem_runs_one.mp h
    exact ⟨[x], rfl, rfl⟩
  | inOrder p q ihp ihq =>
    obtain ⟨⟨⟨b', t'⟩, found'⟩, hmid, hrun⟩ := mem_runs_append.mp h
    obtain ⟨v, rfl, rfl⟩ := ihp hmid
    obtain ⟨w, rfl, hbefore⟩ := ihq hrun
    exact ⟨v ++ w, by simp, by rw [hbefore, pass_append]⟩
  | either p q ihp ihq => exact (List.mem_append.mp h).elim ihp ihq
  | most test =>
    obtain ⟨w, z, rfl, -, rfl⟩ := mem_runs_most.mp h
    exact ⟨w, rfl, rfl⟩
  | fewest test =>
    obtain ⟨d, hd, rfl⟩ := List.mem_map.mp h
    obtain ⟨w, z, rfl, -, rfl⟩ := mem_passing.mp hd
    exact ⟨w, rfl, rfl⟩
  | captured p ih =>
    obtain ⟨inner, hinner, rfl⟩ := List.mem_map.mp h
    obtain ⟨w, ht, hbefore⟩ := ih hinner
    exact ⟨w, ht, hbefore⟩
  | wordEdge =>
    rw [(mem_runs_wordEdge.mp h).2]
    exact ⟨[], rfl, rfl⟩

theorem covers_upTo (h : run ∈ p.runs c found) : p.Covers (c.upTo run.1) := by
  obtain ⟨b, t⟩ := c
  obtain ⟨⟨b', z⟩, captures⟩ := run
  obtain ⟨w, rfl, hbefore⟩ := stretch_of_mem_runs h
  rw [Cursor.upTo_append]
  exact ⟨b, z, found, _, h, by rw [show b' = pass b w from hbefore]⟩

/-- Two stretches before the same rest are the same. -/
theorem eq_of_covered {v y z : Text} {b' : Option Char} (ht : w ++ z = v ++ y)
    (hrun : (⟨b', y⟩ : Cursor) = ⟨pass b w, z⟩) : w = v := by
  obtain ⟨-, rfl⟩ := Cursor.mk.inj hrun
  exact List.append_cancel_right ht

theorem covers_of_runs (h : p.runs ⟨b, t⟩ found ≠ []) : ∃ w z, t = w ++ z ∧ p.Covers w := by
  obtain ⟨⟨⟨b', z⟩, captures⟩, hrun⟩ := List.exists_mem_of_ne_nil _ h
  obtain ⟨w, rfl, hbefore⟩ := stretch_of_mem_runs hrun
  exact ⟨w, z, rfl, b, z, found, _, hrun, by rw [show b' = pass b w from hbefore]⟩

/-- What patterns in order cover comes apart into what each covers. -/
theorem covers_append (h : (p ++ q).Covers w) : ∃ u v, w = u ++ v ∧ p.Covers u ∧ q.Covers v := by
  obtain ⟨b, z, found, run, hrun, hend⟩ := h
  obtain ⟨⟨⟨b', t⟩, captures⟩, hfirst, hsecond⟩ := mem_runs_append.mp hrun
  obtain ⟨u, ht, hbefore⟩ := stretch_of_mem_runs hfirst
  obtain ⟨v, hv, hstop⟩ := stretch_of_mem_runs hsecond
  obtain rfl : b' = pass b u := hbefore
  obtain rfl : t = v ++ z := by rw [show t = v ++ run.1.rest from hv, hend]
  have hw : w = u ++ v := by
    apply List.append_cancel_right
    rw [List.append_assoc]
    exact ht
  refine ⟨u, v, hw, ?_, pass b u, z, captures, run, hsecond, ?_⟩
  · exact ⟨b, v ++ z, found, (⟨pass b u, v ++ z⟩, captures), ht ▸ hfirst, rfl⟩
  · rw [hend, hw, pass_append]

theorem covers_literal {u : Text} (h : (literal u).Covers w) : w = u := by
  obtain ⟨b, z, found, run, hrun, hend⟩ := h
  obtain ⟨y, ht, rfl⟩ := mem_runs_literal.mp hrun
  exact eq_of_covered ht hend

theorem covers_most (h : (most test).Covers w) : ∀ x ∈ w, test x = true := by
  obtain ⟨b, z, found, run, hrun, hend⟩ := h
  obtain ⟨v, y, ht, hv, rfl⟩ := mem_runs_most.mp hrun
  rw [eq_of_covered ht hend]
  exact hv

theorem covers_captured (h : (captured p).Covers w) : p.Covers w := by
  obtain ⟨b, z, found, run, hrun, hend⟩ := h
  obtain ⟨inner, hinner, rfl⟩ := List.mem_map.mp hrun
  exact ⟨b, z, found, inner, hinner, hend⟩

theorem covers_either (h : (either p q).Covers w) : p.Covers w ∨ q.Covers w := by
  obtain ⟨b, z, found, run, hrun, hend⟩ := h
  rcases List.mem_append.mp hrun with hrun | hrun
  · exact .inl ⟨b, z, found, run, hrun, hend⟩
  · exact .inr ⟨b, z, found, run, hrun, hend⟩

theorem covers_optional (h : (optional p).Covers w) : p.Covers w ∨ w = [] := by
  rcases covers_either h with h | ⟨b, z, found, run, hrun, hend⟩
  · exact .inl h
  · right
    obtain rfl := List.mem_singleton.mp hrun
    exact eq_of_covered (v := []) rfl hend

theorem covers_several (h : (several test).Covers w) :
    w ≠ [] ∧ ∀ x ∈ w, test x = true := by
  obtain ⟨b, z, found, run, hrun, hend⟩ := h
  obtain ⟨x, v, y, ht, hx, hv, rfl⟩ := mem_runs_several.mp hrun
  rw [eq_of_covered ht hend]
  refine ⟨by simp, fun d hd => ?_⟩
  rcases List.mem_cons.mp hd with rfl | hd
  · exact hx
  · exact hv d hd

theorem covers_word (h : (one first ++ most test).Covers w) :
    ∃ x v, w = x :: v ∧ first x = true ∧ ∀ d ∈ v, test d = true := by
  obtain ⟨b, z, found, run, hrun, hend⟩ := h
  obtain ⟨mid, hmid, hrun⟩ := mem_runs_append.mp hrun
  obtain ⟨x, t, ht, hx, rfl⟩ := mem_runs_one.mp hmid
  obtain ⟨v, y, rfl, hv, rfl⟩ := mem_runs_most.mp hrun
  exact ⟨x, v, eq_of_covered (v := x :: v) ht hend, hx, hv⟩

/-! ## The text of a capture -/

/-- How a pattern is put together does not matter, only how it runs. -/
theorem matchAt?_congr (h : ∀ c found, p.runs c found = q.runs c found) :
    p.matchAt? c = q.matchAt? c := by
  unfold matchAt?
  rw [h]

/-- **A capture between a front and a back** is a stretch that the captured pattern covers. -/
theorem text_of_matchAt? (hfront : front.capturesNothing = true) (hp : p.capturesNothing = true)
    (hback : back.capturesNothing = true) (h : (front ++ captured p ++ back).matchAt? c = some m) :
    p.Covers (m.text 0) := by
  obtain ⟨others, hruns, -⟩ := exists_runs_of_matchAt? h
  have hrun : (m.stop, m.captures) ∈ (front ++ captured p ++ back).runs c [] :=
    hruns ▸ List.mem_cons_self
  obtain ⟨mid, hmid, hrun⟩ := mem_runs_append.mp hrun
  obtain ⟨start, hstart, hmid⟩ := mem_runs_append.mp hmid
  obtain ⟨stop, hstop, rfl⟩ := List.mem_map.mp hmid
  -- Neither the front nor the back captures, so the capture is the only one.
  have hcaptures : m.captures = [(start.1, stop.1)] := by
    have hbehind : m.captures = stop.2 ++ [(start.1, stop.1)] :=
      captures_of_capturesNothing hback hrun
    rw [hbehind, captures_of_capturesNothing hp hstop, captures_of_capturesNothing hfront hstart]
    rfl
  have htext : m.text 0 = start.1.upTo stop.1 := by
    rw [Match.text]
    simp only [hcaptures]
    rfl
  rw [htext]
  exact covers_upTo hstop

/-- What a search finds is a match at some place. -/
theorem exists_of_search? (h : p.search? t = some m) : ∃ c, p.matchAt? c = some m := by
  obtain ⟨a, z, -, hmatch, -⟩ := search?_eq_some h
  exact ⟨_, hmatch⟩

theorem exists_of_mem_all (h : m ∈ p.all t) : ∃ c, p.matchAt? c = some m := by
  obtain ⟨a, z, -, hmatch⟩ := exists_of_mem_allFrom h
  exact ⟨_, hmatch⟩

end Pattern
end EntityDiagram
