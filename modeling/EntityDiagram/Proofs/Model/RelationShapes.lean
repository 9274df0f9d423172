import EntityDiagram.Proofs.Model.Headers

/-!
# The call of a builder on a text that has one

The builders need a word: the name of one is the beginning of the name of another, and the shorter
one is tried first. What saves the longer name is the parenthesis behind it
(`runs_builderName_append`).

Up to that parenthesis a text opens at most one call (`OpensCall.unique`), and there is one way to read
it. Behind it there is a choice, because white space may be passed or be part of the argument.
-/

namespace EntityDiagram
namespace Model

open Pattern

variable {q : Pattern} {b : Option Char} {w z : Text} {x : Char} {found : Captures}

/-! ## Calls -/

theorem runs_captured_literal_append (w z : Text) :
    (captured (literal w) ++ q).runs ⟨b, w ++ z⟩ found
      = q.runs ⟨pass b w, z⟩ (found ++ [(⟨b, w ++ z⟩, ⟨pass b w, z⟩)]) := by
  rw [runs_captured_append, runs_literal]
  simp

theorem runs_captured_literal_append_of_clashes (h : clashes w z = true) :
    (captured (literal w) ++ q).runs ⟨b, z⟩ found = [] := by
  rw [runs_captured_append, runs_literal_of_clashes h, List.flatMap_nil]

theorem runs_captured_either_append (p r : Pattern) (c : Cursor) :
    (captured (either p r) ++ q).runs c found
      = (captured p ++ q).runs c found ++ (captured r ++ q).runs c found := by
  simp only [runs_captured_append]
  exact List.flatMap_append

/-- The name of another builder leads nowhere. Where it is the beginning of this one's name, a letter
    follows, and where this one's name is the beginning of it, no letter does. -/
theorem runs_other_builder {builder other : Builder} (hne : other ≠ builder)
    (hx : Text.isWord x = false) (hq : q.Rejects Text.isWord) :
    (captured (literal other.method) ++ q).runs ⟨b, builder.method ++ x :: z⟩ found = [] := by
  have hclash : clashes other.method builder.method = true →
      (captured (literal other.method) ++ q).runs ⟨b, builder.method ++ x :: z⟩ found = [] :=
    fun h => runs_captured_literal_append_of_clashes (clashes_append _ _ _ h)
  have hlonger : ∀ {y v}, other.method = builder.method ++ y :: v → Text.isWord y = true →
      (captured (literal other.method) ++ q).runs ⟨b, builder.method ++ x :: z⟩ found = [] := by
    intro y v heq hy
    have hxy : y ≠ x := by
      rintro rfl
      rw [hy] at hx
      exact absurd hx (by simp)
    apply runs_captured_literal_append_of_clashes
    rw [heq]
    exact clashes_append_append _ (by simp [clashes, hxy])
  have hshorter : ∀ {y v}, builder.method = other.method ++ y :: v → Text.isWord y = true →
      (captured (literal other.method) ++ q).runs ⟨b, builder.method ++ x :: z⟩ found = [] := by
    intro y v heq hy
    rw [heq, List.append_assoc, runs_captured_literal_append]
    exact hq y hy _ _ _
  -- All names differ somewhere but for two pairs, in which one name begins the other.
  cases other <;> cases builder <;> first | exact absurd rfl hne | exact hclash (by decide) | skip
  · exact hshorter (y := 'M') (v := "any".toList) rfl (by decide)
  · exact hshorter (y := 'T') (v := "hrough".toList) rfl (by decide)
  · exact hlonger (y := 'M') (v := "any".toList) rfl (by decide)
  · exact hlonger (y := 'T') (v := "hrough".toList) rfl (by decide)

theorem runs_builderName_append (builder : Builder) (hx : Text.isWord x = false)
    (hq : q.Rejects Text.isWord) :
    (captured builderName ++ q).runs ⟨b, builder.method ++ x :: z⟩ found
      = q.runs ⟨pass b builder.method, x :: z⟩
          (found ++ [(⟨b, builder.method ++ x :: z⟩, ⟨pass b builder.method, x :: z⟩)]) := by
  let tried (other : Builder) : List (Cursor × Captures) :=
    (captured (literal other.method) ++ q).runs ⟨b, builder.method ++ x :: z⟩ found
  have hflat : (captured builderName ++ q).runs ⟨b, builder.method ++ x :: z⟩ found
      = tried .hasOne ++ (tried .belongsTo ++ (tried .hasMany ++ (tried .belongsToMany
        ++ tried .hasManyThrough))) := by
    show (captured (either _ (either _ (either _ (either _ _)))) ++ q).runs _ _ = _
    simp only [runs_captured_either_append]
    rfl
  have hothers : ∀ other, other ≠ builder → tried other = [] :=
    fun other hne => runs_other_builder hne hx hq
  have hthis : tried builder = _ := runs_captured_literal_append builder.method (x :: z)
  rw [hflat, ← hthis]
  cases builder <;> simp [hothers]

/-- A text that begins with a call of a method on the model itself, in whatever layout: what follows is
    the text behind the parenthesis. -/
def OpensCall (w method t : Text) : Prop :=
  ∃ s₁ s₂ s₃, AllBlank s₁ ∧ AllBlank s₂ ∧ AllBlank s₃
    ∧ w = "$this".toList ++ (s₁ ++ ("->".toList ++ (s₂ ++ (method ++ (s₃ ++ ("(".toList ++ t))))))

theorem OpensCall.append {method t : Text} (h : OpensCall w method t) (z : Text) :
    OpensCall (w ++ z) method (t ++ z) := by
  obtain ⟨s₁, s₂, s₃, hs₁, hs₂, hs₃, rfl⟩ := h
  exact ⟨s₁, s₂, s₃, hs₁, hs₂, hs₃, by simp only [List.append_assoc]⟩

/-- From the arrow on, the text is cut where white space ends and where words end. -/
theorem OpensCall.unique {method method' t t' : Text} (h : OpensCall w method t)
    (h' : OpensCall w method' t') (hword : ∀ x ∈ method, Text.isWord x = true) (hne : method ≠ [])
    (hword' : ∀ x ∈ method', Text.isWord x = true) (hne' : method' ≠ []) :
    method = method' ∧ t = t' := by
  obtain ⟨s₁, s₂, s₃, hs₁, hs₂, hs₃, rfl⟩ := h
  obtain ⟨r₁, r₂, r₃, hr₁, hr₂, hr₃, heq⟩ := h'
  have harrow : ∀ t, Stops Text.isBlank ("->".toList ++ t) := fun _ => rfl
  have hopen : ∀ t, Stops Text.isWord ("(".toList ++ t) := fun _ => rfl
  have hopen' : ∀ t, Stops Text.isBlank ("(".toList ++ t) := fun _ => rfl
  have hstart : ∀ {v t : Text}, (∀ x ∈ v, Text.isWord x = true) → v ≠ [] → Stops Text.isBlank (v ++ t) := by
    intro v t hv hne
    obtain ⟨x, v, rfl⟩ := List.exists_cons_of_ne_nil hne
    exact Text.not_isBlank_of_isWord (hv x List.mem_cons_self)
  have hthis := List.append_cancel_left heq
  obtain rfl : s₁ = r₁ := eq_of_append_stops Text.isBlank hs₁ hr₁ (harrow _) (harrow _) hthis
  have hgap := List.append_cancel_left (List.append_cancel_left hthis)
  obtain rfl : s₂ = r₂ :=
    eq_of_append_stops Text.isBlank hs₂ hr₂ (hstart hword hne) (hstart hword' hne') hgap
  have hname := List.append_cancel_left hgap
  obtain rfl : method = method' := eq_of_append_stops Text.isWord hword hword'
    (hs₃.stops_isWord (hopen _)) (hr₃.stops_isWord (hopen _)) hname
  have hbehind := List.append_cancel_left hname
  obtain rfl : s₃ = r₃ := eq_of_append_stops Text.isBlank hs₃ hr₃ (hopen' _) (hopen' _) hbehind
  exact ⟨rfl, List.append_cancel_left (List.append_cancel_left hbehind)⟩

theorem Builder.isWord_of_mem_method (builder : Builder) :
    ∀ x ∈ builder.method, Text.isWord x = true := by
  apply List.all_eq_true.mp
  cases builder <;> decide

theorem Builder.method_ne_nil (builder : Builder) : builder.method ≠ [] := by
  cases builder <;> decide

/-- No two builders have the same method. -/
theorem Builder.ofMethod?_method (builder : Builder) : ofMethod? builder.method = some builder := by
  cases builder <;> rfl

/-- Up to the parenthesis there is one way to read a call of a builder. -/
theorem exists_runs_builderCall {builder : Builder} {t : Text} (h : OpensCall w builder.method t) :
    ∃ b' start stop, start.upTo stop = builder.method ∧ ∀ found, builderCall.runs ⟨b, w⟩ found
      = (blanks ++ captured (several isArgumentCharacter)).runs ⟨b', t⟩ (found ++ [(start, stop)]) := by
  obtain ⟨s₁, s₂, s₃, hs₁, hs₂, hs₃, rfl⟩ := h
  let behind := s₃ ++ ("(".toList ++ t)
  have hbehind : Stops Text.isWord behind := hs₃.stops_isWord rfl
  obtain ⟨x, z, heq⟩ : ∃ x z, behind = x :: z := List.exists_cons_of_ne_nil (by simp [behind])
  have hx : Text.isWord x = false := by
    rw [heq] at hbehind
    exact hbehind
  have hmethod : Stops Text.isBlank (builder.method ++ behind) := by
    cases builder <;> rfl
  have hcall : (blanks ++ (literal "(".toList ++ (blanks
      ++ captured (several isArgumentCharacter)))).Rejects Text.isWord :=
    Rejects.most_append (fun x hx => Text.not_isBlank_of_isWord hx)
      (rejects_literal (by decide)).append
  have hname : (captured builderName).Rejects Text.isBlank := by
    apply Rejects.captured
    exact Rejects.either (rejects_literal (by decide)) (Rejects.either (rejects_literal (by decide))
      (Rejects.either (rejects_literal (by decide)) (Rejects.either (rejects_literal (by decide))
        (rejects_literal (by decide)))))
  let beforeName := pass (pass (pass (pass b "$this".toList) s₁) "->".toList) s₂
  refine ⟨pass (pass (pass beforeName builder.method) s₃) "(".toList,
    ⟨beforeName, builder.method ++ behind⟩, ⟨pass beforeName builder.method, behind⟩,
    Cursor.upTo_append _ _ _ _, fun found => ?_⟩
  show builderCall.runs ⟨b, "$this".toList ++ (s₁ ++ ("->".toList ++ (s₂
    ++ (builder.method ++ behind))))⟩ found = _
  unfold builderCall
  simp only [runs_append_assoc]
  rw [runs_literal_append, runs_blanks_literal_append hs₁ (by decide),
    runs_blanks_append hs₂ hmethod hname.append, heq, runs_builderName_append builder hx hcall,
    ← heq, runs_blanks_literal_append hs₃ (by decide)]

/-- A call on a text that has one, with any white space where the shape allows it. -/
theorem matchAt?_builderCall {builder : Builder} {s₄ argument : Text}
    (h : OpensCall w builder.method (s₄ ++ (argument ++ z))) (hs₄ : AllBlank s₄)
    (hargument : ∀ y ∈ argument, isArgumentCharacter y = true)
    (hstart : argument.head?.any (!Text.isBlank ·) = true) (hz : Stops isArgumentCharacter z) :
    ∃ m, builderCall.matchAt? ⟨b, w⟩ = some m ∧ m.text 0 = builder.method ∧ m.text 1 = argument := by
  obtain ⟨b', start, stop, hname, hruns⟩ := exists_runs_builderCall (b := b) h
  have hne : argument ≠ [] := by
    rintro rfl
    simp at hstart
  -- White space before the argument could be part of it, but the call prefers to pass it first.
  have hhead : (builderCall.runs ⟨b, w⟩ []).head? = some (⟨pass (pass b' s₄) argument, z⟩,
      [(start, stop), (⟨pass b' s₄, argument ++ z⟩, ⟨pass (pass b' s₄) argument, z⟩)]) := by
    rw [hruns]
    exact head?_runs_most_append hs₄ (stops_append hstart)
      (head?_runs_captured_several hargument hne hz)
  exact ⟨_, matchAt?_of_head hhead, hname, Match.text_eq rfl⟩

theorem isArgumentCharacter_of_isBlank (h : Text.isBlank x = true) : isArgumentCharacter x = true := by
  have hparen : x ≠ ')' := by
    rintro rfl
    exact absurd h (by decide)
  have hcomma : x ≠ ',' := by
    rintro rfl
    exact absurd h (by decide)
  simp [isArgumentCharacter, hparen, hcomma]

/-- And where a call is found, there is one. -/
theorem exists_of_covers_builderCall (h : builderCall.Covers w) :
    ∃ (builder : Builder) (t : Text), OpensCall w builder.method t ∧ t ≠ []
      ∧ ∀ y ∈ t, isArgumentCharacter y = true := by
  obtain ⟨_, argument, rfl, h, hargument⟩ := covers_append h
  obtain ⟨_, s₄, rfl, h, hs₄⟩ := covers_append h
  obtain ⟨_, opening, rfl, h, hopening⟩ := covers_append h
  obtain ⟨_, s₃, rfl, h, hs₃⟩ := covers_append h
  obtain ⟨_, name, rfl, h, hname⟩ := covers_append h
  obtain ⟨_, s₂, rfl, h, hs₂⟩ := covers_append h
  obtain ⟨_, arrow, rfl, h, harrow⟩ := covers_append h
  obtain ⟨this, s₁, rfl, hthis, hs₁⟩ := covers_append h
  have hbuilder : ∃ builder : Builder, name = builder.method := by
    rcases covers_either (covers_captured hname) with h | h
    · exact ⟨.hasOne, covers_literal h⟩
    rcases covers_either h with h | h
    · exact ⟨.belongsTo, covers_literal h⟩
    rcases covers_either h with h | h
    · exact ⟨.hasMany, covers_literal h⟩
    rcases covers_either h with h | h
    · exact ⟨.belongsToMany, covers_literal h⟩
    · exact ⟨.hasManyThrough, covers_literal h⟩
  obtain ⟨builder, rfl⟩ := hbuilder
  obtain rfl := covers_literal hthis
  obtain rfl := covers_literal harrow
  obtain rfl := covers_literal hopening
  obtain ⟨hne, hall⟩ := covers_several (covers_captured hargument)
  refine ⟨builder, s₄ ++ argument, ⟨s₁, s₂, s₃, covers_most hs₁, covers_most hs₂, covers_most hs₃, ?_⟩,
    by simp [hne], ?_⟩
  · simp only [List.append_assoc]
  · intro y hy
    rcases List.mem_append.mp hy with hy | hy
    · exact isArgumentCharacter_of_isBlank (covers_most hs₄ y hy)
    · exact hall y hy

end Model
end EntityDiagram
