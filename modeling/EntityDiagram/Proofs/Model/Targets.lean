import EntityDiagram.Proofs.Model.FirstCalls
import EntityDiagram.Proofs.Model.Names

/-!
# What edges lead to

An edge leads to what is left of the first argument of a call when its marks and its namespace are gone.
This is the name of a class if the argument refers to one (`Naming.Refers`), and nobody checks that it
does. There is no edge only where nothing at all is left.

So of an argument that is computed there is an edge as well, to whatever its text comes to: to `$class`
for a variable, to `$this->owner(` for a call, which is read up to its parenthesis, and to `. $name` for
what is joined to a namespace. It takes one character in the last segment that neither names nor marks
have (`IsForeign`). `edges_of_first_calls` says all this of every source.
-/

namespace EntityDiagram
namespace Model

open Pattern

variable {source model argument t : Text}

/-! ## Accessors and their first calls -/

/-- An accessor of the source, and the first builder call in its body. -/
structure AccessorCall (source : Text) where
  accessor : Accessor
  builder : Builder
  argument : Text
  listed : accessor ∈ accessors source
  first : FirstCall accessor.body builder argument

namespace AccessorCall

variable (c : AccessorCall source)

def target : Text := Naming.classBasename c.argument

def edge (model : Text) : Relationship :=
  ⟨model, c.target, c.accessor.name, c.builder.cardinality.code, c.builder.description⟩

end AccessorCall

theorem mem_relationships_iff {r : Relationship} : r ∈ relationships model source
    ↔ ∃ c : AccessorCall source, c.target ≠ [] ∧ r = c.edge model := by
  unfold relationships relationCalls
  simp only [List.mem_filterMap]
  constructor
  · rintro ⟨call, ⟨a, ha, hcall⟩, hr⟩
    obtain ⟨builder, argument, hfirst, rfl⟩ := call?_eq_some_iff.mp hcall
    unfold RelationCall.relationship? at hr
    split at hr
    · exact absurd hr (by simp)
    · next hne =>
      refine ⟨⟨a, builder, argument, ha, hfirst⟩, ?_, (Option.some.inj hr).symm⟩
      exact fun hnil => hne (List.isEmpty_iff.mpr hnil)
  · rintro ⟨c, hne, rfl⟩
    refine ⟨_, ⟨c.accessor, c.listed, call?_eq_some_iff.mpr ⟨c.builder, c.argument, c.first, rfl⟩⟩, ?_⟩
    exact if_neg fun hnil => hne (List.isEmpty_iff.mp hnil)

theorem isArgumentCharacter_of_firstCall {body : Text} {builder : Builder}
    (h : FirstCall body builder argument) : ∀ x ∈ argument, isArgumentCharacter x = true := by
  obtain ⟨v, w, -, hbegins, -⟩ := h
  exact isArgumentCharacter_of_beginsCall hbegins

/-! ## Names of classes -/

/-- A name that a class can have: letters, digits and underscores, no digit first. -/
structure IsClassName (t : Text) : Prop where
  nonempty : t ≠ []
  word : ∀ x ∈ t, Text.isWord x = true
  start : t.head?.any Text.isDecimalDigit = false

theorem IsClassName.stripped (h : IsClassName t) : Text.Stripped t :=
  Text.stripped_of_not_blank fun x hx => Text.not_isBlank_of_isWord (h.word x hx)

theorem IsClassName.not_mem (h : IsClassName t) : '\\' ∉ t := by
  intro hmem
  exact absurd (h.word _ hmem) (by decide)

/-- What comes of an argument is the name of a class just when it refers to that name. -/
theorem isClassName_classBasename_iff : IsClassName (Naming.classBasename argument)
    ↔ ∃ name, IsClassName name ∧ Naming.Refers argument name := by
  constructor
  · intro h
    exact ⟨_, h, (Naming.classBasename_eq_iff_refers h.stripped h.not_mem).mp rfl⟩
  · rintro ⟨name, h, hrefers⟩
    rw [(Naming.classBasename_eq_iff_refers h.stripped h.not_mem).mpr hrefers]
    exact h

/-- A character that neither names nor marks have. -/
structure IsForeign (x : Char) : Prop where
  word : Text.isWord x = false
  blank : Text.isBlank x = false
  quotation : Naming.isQuotation x = false
  colon : x ≠ ':'

theorem IsForeign.not_mem_constant {x : Char} (h : IsForeign x) : x ∉ "::class".toList := by
  intro hmem
  rcases Naming.eq_or_isWord_of_mem_constant hmem with rfl | hword
  · exact h.colon rfl
  · rw [h.word] at hword
    exact absurd hword (by simp)

/-- Such a character stays, and so there is a target, but no class has its name. -/
theorem not_isClassName_of_isForeign {x : Char} (hx : x ∈ Text.afterLast '\\' argument)
    (h : IsForeign x) : Naming.classBasename argument ≠ []
      ∧ ¬ IsClassName (Naming.classBasename argument) := by
  have hmem : x ∈ Naming.classBasename argument :=
    Naming.mem_classBasename hx h.blank h.quotation h.not_mem_constant
  refine ⟨List.ne_nil_of_mem hmem, fun hname => ?_⟩
  have hword := hname.word x hmem
  rw [h.word] at hword
  exact absurd hword (by simp)

/-! ## Edges -/

/-- **What edges lead to.** Edges come of first calls, one of each that leaves a target. A target has
    neither marks nor white space around it, nor a namespace. It is the name of a class just when the
    argument refers to one, and an argument with a foreign character in its last segment gives an edge to
    a target that is none. -/
theorem edges_of_first_calls (model source : Text) :
    (∀ r, r ∈ relationships model source
        ↔ ∃ c : AccessorCall source, c.target ≠ [] ∧ r = c.edge model)
      ∧ ∀ c : AccessorCall source,
          Text.Stripped c.target
          ∧ (∀ x ∈ c.target, isArgumentCharacter x = true ∧ x ≠ '\\' ∧ Naming.isQuotation x = false)
          ∧ (IsClassName c.target ↔ ∃ name, IsClassName name ∧ Naming.Refers c.argument name)
          ∧ ∀ x ∈ Text.afterLast '\\' c.argument, IsForeign x →
              c.edge model ∈ relationships model source ∧ ¬ IsClassName c.target := by
  refine ⟨fun r => mem_relationships_iff, fun c => ⟨Naming.stripped_classBasename c.argument, ?_,
    isClassName_classBasename_iff, ?_⟩⟩
  · intro x hx
    obtain ⟨hmem, hslash, hquote⟩ := Naming.mem_of_mem_classBasename hx
    exact ⟨isArgumentCharacter_of_firstCall c.first x hmem, hslash, hquote⟩
  · intro x hx hforeign
    obtain ⟨hne, hname⟩ := not_isClassName_of_isForeign hx hforeign
    exact ⟨mem_relationships_iff.mpr ⟨c, hne, rfl⟩, hname⟩

/-- A model with one relationship, to a class that is known only when the program runs. -/
def computedTarget : Text := "<?php
class Comment extends Model
\x7b
    public function owner() \x7b return $this->belongsTo($class); \x7d
\x7d
"

set_option maxRecDepth 4000 in
/-- The law at work on a variable, which refers to no class and yet gives an edge. -/
theorem edges_of_first_calls_variable :
    relationships "Comment" computedTarget
        = [⟨"Comment", "$class", "owner", "N-1", some "belongs to"⟩]
      ∧ ¬ IsClassName "$class"
      ∧ ∃ c : AccessorCall computedTarget, c.target = "$class".toList
          ∧ ¬ ∃ name, IsClassName name ∧ Naming.Refers c.argument name := by
  -- A literal is decoded at every step of the evaluation, a list is not.
  have hsource : computedTarget = _ := String.toList_ofList
  have hedges : relationships "Comment" computedTarget
      = [⟨"Comment", "$class", "owner", "N-1", some "belongs to"⟩] := by
    rw [hsource]
    decide +kernel
  have hname : ¬ IsClassName "$class" := by
    intro h
    exact absurd (h.word '$' (by decide)) (by decide)
  obtain ⟨hiff, hcalls⟩ := edges_of_first_calls "Comment" computedTarget
  obtain ⟨c, -, hedge⟩ := (hiff _).mp (hedges ▸ List.mem_singleton.mpr rfl)
  have htarget : c.target = "$class".toList := (congrArg Relationship.target hedge).symm
  refine ⟨hedges, hname, c, htarget, fun hrefers => hname ?_⟩
  obtain ⟨-, -, hclass, -⟩ := hcalls c
  show IsClassName "$class".toList
  rw [← htarget]
  exact hclass.mpr hrefers

end Model
end EntityDiagram
