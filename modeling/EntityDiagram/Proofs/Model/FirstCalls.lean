import EntityDiagram.Proofs.Model.RelationShapes
import EntityDiagram.Proofs.Naming

/-!
# The first call in a body

An accessor declares what the first builder call in its body says. This module says what that is without
the pattern that looks for it (`FirstCall`), and shows that it is what is read (`call?_eq_some_iff`).

The pattern has a choice where the argument begins, because white space may stand before an argument and
may be one. It makes no difference to the class that the argument stands for, so here the argument begins
right behind the parenthesis. It ends before the first comma or closing parenthesis, whatever stands
there.
-/

namespace EntityDiagram
namespace Model

open Pattern

variable {w body argument : Text} {b : Option Char} {builder : Builder}

/-! ## Calls -/

/-- The text begins with a call of the builder that has a first argument. -/
def BeginsCall (w : Text) (builder : Builder) (argument : Text) : Prop :=
  ∃ t, OpensCall w builder.method t ∧ argument = t.takeWhile isArgumentCharacter ∧ argument ≠ []

/-- The first call in a text is of this builder and has this argument. -/
def FirstCall (body : Text) (builder : Builder) (argument : Text) : Prop :=
  ∃ v w, body = v ++ w ∧ BeginsCall w builder argument
    ∧ ∀ v' w', body = v' ++ w' → v'.length < v.length →
        ∀ other argument', ¬ BeginsCall w' other argument'

theorem isArgumentCharacter_of_beginsCall (h : BeginsCall w builder argument) :
    ∀ y ∈ argument, isArgumentCharacter y = true := by
  obtain ⟨t, -, rfl, -⟩ := h
  intro y hy
  exact List.mem_takeWhile_imp hy

theorem exists_of_beginsCall (h : BeginsCall w builder argument) : ∃ y, w = "$this".toList ++ y := by
  obtain ⟨t, ⟨s₁, s₂, s₃, -, -, -, heq⟩, -⟩ := h
  exact ⟨_, heq⟩

/-- A call is the first one if no dollar sign stands before it. -/
theorem firstCall_of_not_mem {v : Text} (hv : '$' ∉ v) (h : BeginsCall w builder argument) :
    FirstCall (v ++ w) builder argument := by
  refine ⟨v, w, rfl, h, fun v' w' heq hlt other argument' hbegins => hv ?_⟩
  obtain ⟨y, rfl⟩ := exists_of_beginsCall hbegins
  obtain ⟨s, rfl⟩ : v' <+: v :=
    List.prefix_of_prefix_length_le ⟨_, heq.symm⟩ (List.prefix_append v w) (Nat.le_of_lt hlt)
  rw [List.append_assoc] at heq
  cases s with
  | nil => exact absurd hlt (by simp)
  | cons x s =>
    obtain rfl : x = '$' := (List.cons.inj (List.append_cancel_left heq)).1
    exact List.mem_append_right v' List.mem_cons_self

theorem beginsCall_of_opensCall {z : Text} (h : OpensCall w builder.method (argument ++ z))
    (hargument : ∀ y ∈ argument, isArgumentCharacter y = true) (hne : argument ≠ [])
    (hz : Stops isArgumentCharacter z) : BeginsCall w builder argument := by
  refine ⟨_, h, ?_, hne⟩
  rw [List.takeWhile_append_of_pos hargument]
  cases z with
  | nil => exact (List.append_nil argument).symm
  | cons x z =>
    have hx : isArgumentCharacter x = false := hz
    rw [List.takeWhile_cons, hx]
    exact (List.append_nil argument).symm

theorem exists_beginsCall (h : builderCall.runs ⟨b, w⟩ [] ≠ []) :
    ∃ builder argument, BeginsCall w builder argument := by
  obtain ⟨v, z, rfl, hcovers⟩ := covers_of_runs h
  obtain ⟨builder, t, hopens, hne, hall⟩ := exists_of_covers_builderCall hcovers
  refine ⟨builder, _, t ++ z, hopens.append z, rfl, ?_⟩
  rw [List.takeWhile_append_of_pos hall]
  simp [hne]

/-- An argument that has no character but white space: some of it is captured, it does not matter how
    much. -/
theorem matchAt?_builderCall_blank {t : Text} (h : OpensCall w builder.method t)
    (hne : t.takeWhile isArgumentCharacter ≠ [])
    (hblank : AllBlank (t.takeWhile isArgumentCharacter)) :
    ∃ m, builderCall.matchAt? ⟨b, w⟩ = some m ∧ m.text 0 = builder.method ∧ AllBlank (m.text 1) := by
  obtain ⟨b', start, stop, hname, hruns⟩ := exists_runs_builderCall (b := b) h
  let behind : Pattern := blanks ++ captured (several isArgumentCharacter)
  have hexists : behind.runs ⟨b', t⟩ [(start, stop)] ≠ [] := by
    obtain ⟨x, argument, heq⟩ := List.exists_cons_of_ne_nil hne
    have hall : ∀ y ∈ x :: argument, isArgumentCharacter y = true := by
      intro y hy
      rw [← heq] at hy
      exact List.mem_takeWhile_imp hy
    have ht : t = [] ++ (x :: argument ++ t.dropWhile isArgumentCharacter) := by
      rw [← heq, List.nil_append, List.takeWhile_append_dropWhile]
    refine List.ne_nil_of_mem (mem_runs_append.mpr ⟨_, mem_runs_most.mpr ⟨[], _, ht, by simp, rfl⟩,
      List.mem_map.mpr ⟨_, mem_runs_several.mpr ⟨x, argument, _, rfl, hall x List.mem_cons_self,
        fun y hy => hall y (List.mem_cons_of_mem x hy), rfl⟩, rfl⟩⟩)
  cases hbehind : behind.runs ⟨b', t⟩ [(start, stop)] with
  | nil => exact absurd hbehind hexists
  | cons run others =>
    -- Whatever is captured, it is within the argument.
    obtain ⟨mid, hmid, hrun⟩ := mem_runs_append.mp (hbehind ▸ List.mem_cons_self : run ∈ behind.runs _ _)
    obtain ⟨s₄, z, ht, hs₄, rfl⟩ := mem_runs_most.mp hmid
    obtain ⟨inner, hinner, rfl⟩ := List.mem_map.mp hrun
    obtain ⟨x, v, z, rfl, hx, hv, rfl⟩ := mem_runs_several.mp hinner
    have hmatch : builderCall.matchAt? ⟨b, w⟩ = some _ := matchAt?_of_runs ((hruns []).trans hbehind)
    refine ⟨_, hmatch, hname, ?_⟩
    have htext : Match.text ⟨⟨b, w⟩, ⟨pass (pass b' s₄) (x :: v), z⟩,
        [(start, stop), (⟨pass b' s₄, x :: v ++ z⟩, ⟨pass (pass b' s₄) (x :: v), z⟩)]⟩ 1 = x :: v :=
      Match.text_eq rfl
    have hall : ∀ y ∈ s₄ ++ (x :: v), isArgumentCharacter y = true := by
      intro y hy
      rcases List.mem_append.mp hy with hy | hy
      · exact isArgumentCharacter_of_isBlank (hs₄ y hy)
      · rcases List.mem_cons.mp hy with rfl | hy
        · exact hx
        · exact hv y hy
    intro y hy
    apply hblank
    rw [ht, ← List.append_assoc, List.takeWhile_append_of_pos hall]
    exact List.mem_append_left _ (List.mem_append_right s₄ (htext ▸ hy))

theorem matchAt?_of_beginsCall (h : BeginsCall w builder argument) :
    ∃ m, builderCall.matchAt? ⟨b, w⟩ = some m ∧ m.text 0 = builder.method
      ∧ Naming.classBasename (m.text 1) = Naming.classBasename argument := by
  obtain ⟨t, hopens, rfl, hne⟩ := h
  let argument := t.takeWhile isArgumentCharacter
  have hsplit : argument = argument.takeWhile Text.isBlank ++ argument.dropWhile Text.isBlank :=
    List.takeWhile_append_dropWhile.symm
  have hpassed : AllBlank (argument.takeWhile Text.isBlank) := fun y hy => List.mem_takeWhile_imp hy
  cases hdrop : argument.dropWhile Text.isBlank with
  | nil =>
    have hblank : AllBlank argument := List.dropWhile_eq_nil_iff.mp hdrop
    obtain ⟨m, hmatch, hname, htext⟩ := matchAt?_builderCall_blank (b := b) hopens hne hblank
    refine ⟨m, hmatch, hname, ?_⟩
    rw [Naming.classBasename_blank htext, Naming.classBasename_blank hblank]
  | cons x rest =>
    rw [hdrop] at hsplit
    have hx : Text.isBlank x = false := by
      have hhead := Text.head?_dropWhile Text.isBlank argument
      rw [hdrop] at hhead
      exact hhead
    have hall : ∀ y ∈ x :: rest, isArgumentCharacter y = true := by
      intro y hy
      have hmem : y ∈ argument := by
        rw [hsplit]
        exact List.mem_append_right _ hy
      exact List.mem_takeWhile_imp hmem
    have ht : t = argument.takeWhile Text.isBlank ++ (x :: rest ++ t.dropWhile isArgumentCharacter) := by
      rw [← List.append_assoc, ← hsplit]
      exact List.takeWhile_append_dropWhile.symm
    rw [ht] at hopens
    obtain ⟨m, hmatch, hname, htext⟩ := matchAt?_builderCall (b := b) hopens hpassed hall (by simp [hx])
      (Text.head?_dropWhile isArgumentCharacter t)
    refine ⟨m, hmatch, hname, ?_⟩
    show Naming.classBasename (m.text 1) = Naming.classBasename argument
    rw [htext, hsplit, Naming.classBasename_blank_append hpassed]

theorem not_beginsCall_of_matchAt? (h : builderCall.matchAt? ⟨b, w⟩ = none) :
    ¬ BeginsCall w builder argument := by
  intro hbegins
  obtain ⟨m, hmatch, -⟩ := matchAt?_of_beginsCall (b := b) hbegins
  rw [h] at hmatch
  exact absurd hmatch (by simp)

/-! ## The first call -/

/-- A call that is found is the first one. -/
theorem firstCall_of_search? {m : Match} (h : builderCall.search? body = some m) :
    ∃ v w builder argument, body = v ++ w ∧ BeginsCall w builder argument
      ∧ builderCall.matchAt? ⟨pass none v, w⟩ = some m ∧ FirstCall body builder argument := by
  obtain ⟨v, w, heq, hmatch, hbefore⟩ := search?_eq_some h
  obtain ⟨builder, argument, hbegins⟩ := exists_beginsCall (runs_ne_nil_of_matchAt? hmatch)
  refine ⟨v, w, builder, argument, heq, hbegins, hmatch, v, w, heq, hbegins, ?_⟩
  intro v' w' heq' hlt other argument'
  exact not_beginsCall_of_matchAt? (hbefore v' w' heq' hlt)

/-- And the first call is found. -/
theorem search?_of_firstCall (h : FirstCall body builder argument) :
    ∃ v w m, BeginsCall w builder argument ∧ builderCall.matchAt? ⟨pass none v, w⟩ = some m
      ∧ builderCall.search? body = some m := by
  obtain ⟨v, w, rfl, hbegins, hfirst⟩ := h
  obtain ⟨m, hmatch, -⟩ := matchAt?_of_beginsCall (b := pass none v) hbegins
  refine ⟨v, w, m, hbegins, hmatch, ?_⟩
  show builderCall.searchFrom? none (v ++ w) = some m
  rw [searchFrom?_skip, searchFrom?_of_match hmatch]
  intro v' w' hv hw
  refine matchAt?_eq_none.mpr (Classical.byContradiction fun hne => ?_)
  obtain ⟨other, argument', hbegins'⟩ := exists_beginsCall hne
  have hlt : v'.length < v.length := by
    rw [hv, List.length_append]
    exact Nat.lt_add_of_pos_right (List.length_pos_iff.mpr hw)
  exact hfirst v' (w' ++ w) (by rw [hv, List.append_assoc]) hlt other argument' hbegins'

section Accessors

variable {a : Accessor} {call : RelationCall}

/-- A match gives the call that begins where it does. -/
theorem call?_of_match {m : Match} (hbegins : BeginsCall w builder argument)
    (hmatch : builderCall.matchAt? ⟨b, w⟩ = some m) (hsearch : builderCall.search? a.body = some m) :
    a.call? = some ⟨a.name, builder, Naming.classBasename argument⟩ := by
  obtain ⟨m', hmatch', hname, htarget⟩ := matchAt?_of_beginsCall (b := b) hbegins
  obtain rfl : m = m' := Option.some.inj (hmatch.symm.trans hmatch')
  unfold Accessor.call?
  rw [hsearch]
  show (Builder.ofMethod? (m.text 0)).bind (fun builder => some
    (⟨a.name, builder, Naming.classBasename (m.text 1)⟩ : RelationCall)) = _
  rw [hname, htarget, builder.ofMethod?_method]
  rfl

/-- **What an accessor calls** is said by the first call in its body. -/
theorem call?_eq_some_iff : a.call? = some call ↔ ∃ builder argument,
    FirstCall a.body builder argument ∧ call = ⟨a.name, builder, Naming.classBasename argument⟩ := by
  constructor
  · intro h
    cases hsearch : builderCall.search? a.body with
    | none =>
      unfold Accessor.call? at h
      rw [hsearch] at h
      exact absurd h (by simp)
    | some m =>
      obtain ⟨v, w, builder, argument, -, hbegins, hmatch, hfirst⟩ := firstCall_of_search? hsearch
      have hcall := call?_of_match hbegins hmatch hsearch
      exact ⟨builder, argument, hfirst, Option.some.inj (h.symm.trans hcall)⟩
  · rintro ⟨builder, argument, hfirst, rfl⟩
    obtain ⟨v, w, m, hbegins, hmatch, hsearch⟩ := search?_of_firstCall hfirst
    exact call?_of_match hbegins hmatch hsearch

end Accessors

end Model
end EntityDiagram
