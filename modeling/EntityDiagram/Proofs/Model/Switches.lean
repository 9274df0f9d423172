import EntityDiagram.Proofs.Model.Properties

/-!
# What a printed file says by having it or not

A model file turns a default off by saying so anywhere, and it is a model at all by two phrases. What
is looked for here is only whether it occurs. Where the description asks for it, the place where it
stands is exhibited. Where it does not, the name is not in the file.

The two switches are one shape with two names, and their names count in any case of letters. So a
switch is absent only if no other word of the file reads like its name in any case (`differs`).
-/

namespace EntityDiagram
namespace Model

open Pattern

variable {q : Pattern} {b : Option Char} {w z t : Text} {found : Captures}

/-! ## Characters in any case -/

/-- Whether a character counts as the given one, small letters in any case. -/
def sameInAnyCase (c d : Char) : Bool :=
  if 'a' ≤ c && c ≤ 'z' then sameLetter c d else d == c

theorem literalAnyCase_cons (c : Char) (w : Text) :
    literalAnyCase (c :: w) = one (sameInAnyCase c) ++ literalAnyCase w := rfl

theorem sameInAnyCase_self (c : Char) : sameInAnyCase c c = true := by
  unfold sameInAnyCase
  split <;> simp [sameLetter]

theorem runs_literalAnyCase_append :
    (literalAnyCase w ++ q).runs ⟨b, w ++ z⟩ found = q.runs ⟨pass b w, z⟩ found := by
  induction w generalizing b with
  | nil => exact runs_nothing_append q _ found
  | cons c w ih =>
    rw [literalAnyCase_cons, runs_append_assoc, List.cons_append,
      runs_one_append (sameInAnyCase_self c)]
    exact ih

/-- Two texts that differ, in any case of letters, at a place both of them have. -/
def differs : Text → Text → Bool
  | c :: w, d :: t => !sameInAnyCase c d || differs w t
  | _, _ => false

theorem runs_literalAnyCase_of_differs (h : differs w t = true) :
    (literalAnyCase w ++ q).runs ⟨b, t ++ z⟩ found = [] := by
  induction w generalizing b t with
  | nil => simp [differs] at h
  | cons c w ih =>
    cases t with
    | nil => simp [differs] at h
    | cons d t =>
      rw [differs, Bool.or_eq_true, Bool.not_eq_true'] at h
      rw [literalAnyCase_cons, runs_append_assoc, List.cons_append]
      cases hsame : sameInAnyCase c d with
      | false => exact runs_one_append_of_not hsame
      | true =>
        rw [runs_one_append hsame]
        apply ih
        simpa [hsame] using h

/-! ## Switches -/

def switchOff (name : Text) : Pattern :=
  literalAnyCase name ++ blanks ++ "=" ++ blanks ++ literalAnyCase "false" ++ wordEdge

theorem runs_switchOff (name : Text) :
    (switchOff name).runs ⟨b, name ++ (" = false".toList ++ ';' :: z)⟩ found
      = [(⟨some 'e', ';' :: z⟩, found)] := by
  have hsplit : " = false".toList ++ ';' :: z
      = " ".toList ++ ("=".toList ++ (" ".toList ++ ("false".toList ++ ';' :: z))) := rfl
  have hspace : AllBlank " ".toList := by decide
  have hfalse : Stops Text.isBlank ("false".toList ++ ';' :: z) := rfl
  have hrejects : (literalAnyCase "false".toList ++ wordEdge).Rejects Text.isBlank := by
    -- No blank is a letter in any case, so the blanks end where the value begins.
    have hfirst : ∀ x, Text.isBlank x = true → sameInAnyCase 'f' x = false := by
      intro x hx
      rw [Bool.eq_false_iff]
      intro hsame
      have hletter : x = 'f' ∨ Text.isAsciiLetter x = true
          ∧ Char.ofNat (x.toNat + 32) = 'f' := by
        simpa [sameInAnyCase, sameLetter] using hsame
      rcases hletter with rfl | ⟨hletter, -⟩
      · exact absurd hx (by decide)
      · rw [Text.not_isBlank_of_isWord (Text.isWord_of_ascii (by simp [hletter]))] at hx
        exact absurd hx (by simp)
    exact ((rejects_one hfirst).append).append
  unfold switchOff
  simp only [runs_append_assoc]
  rw [runs_literalAnyCase_append, hsplit, runs_blanks_literal_append hspace (by decide),
    runs_blanks_append hspace hfalse hrejects, runs_literalAnyCase_append]
  rfl

theorem occursIn_switchOff {name : Text} (h : name ++ " = false;".toList <:+: t) :
    (switchOff name).occursIn t = true := by
  obtain ⟨a, z, rfl⟩ := h
  have hsplit : a ++ (name ++ " = false;".toList) ++ z
      = a ++ (name ++ (" = false".toList ++ ';' :: z)) := by
    simp only [List.append_assoc]
    rfl
  rw [hsplit]
  apply occursIn_of_runs
  rw [runs_switchOff]
  exact List.cons_ne_nil _ _

/-- A switch is in no text where no word behind a dollar sign reads like its name. -/
theorem occursIn_switchOff_of_marked {words : List Text} {v : Text} (h : marked words t = true)
    (hw : ∀ word ∈ words, differs v word = true) : (switchOff ('$' :: v)).occursIn t = false := by
  have hflat : ∀ c found, (switchOff ('$' :: v)).runs c found = (one (sameInAnyCase '$')
      ++ (literalAnyCase v ++ (blanks ++ (literal "=".toList ++ (blanks
      ++ (literalAnyCase "false".toList ++ wordEdge)))))).runs c found := by
    intro c found
    unfold switchOff
    rw [literalAnyCase_cons]
    simp only [runs_append_assoc]
  apply occursIn_of_marked h
  · intro x hx b z found
    have hne : sameInAnyCase '$' x = false := by
      simpa [sameInAnyCase] using hx
    rw [hflat, runs_one_append_of_not hne]
  · intro b
    rw [hflat, runs_append, runs]
    rfl
  · intro word hword b z
    rw [hflat, runs_one_append (sameInAnyCase_self '$')]
    exact runs_literalAnyCase_of_differs (hw word hword)

/-! ## Keys -/

theorem occursIn_ownKey (h : "protected $primaryKey ".toList <:+: t) : ownKey.occursIn t = true := by
  obtain ⟨a, z, rfl⟩ := h
  have hsplit : a ++ "protected $primaryKey ".toList ++ z
      = a ++ ("protected".toList ++ (" ".toList ++ ("$primaryKey".toList ++ ' ' :: z))) :=
    List.append_assoc a _ z
  rw [hsplit]
  apply occursIn_of_runs
  unfold ownKey
  simp only [runs_append_assoc]
  rw [runs_literal_append, runs_space_literal_append (by decide) (by decide) rfl]
  exact List.cons_ne_nil _ _

theorem occursIn_ownKey_eq_false (h : ¬ "$primaryKey".toList <:+: t) :
    ownKey.occursIn t = false := by
  rw [occursIn_eq_false]
  rintro a z rfl
  rw [matchAt?_eq_none]
  refine Classical.byContradiction fun hne => ?_
  unfold ownKey at hne
  simp only [runs_append_assoc] at hne
  obtain ⟨sp, y, -, -, rfl⟩ := exists_of_runs_named hne
  apply h
  exact ⟨a ++ ("protected".toList ++ sp), y, by simp⟩

/-! ## In print -/

namespace Description

variable (d : Description)

theorem timestampsOff_print : timestampsOff.occursIn d.print = !d.stamped := by
  cases hstamped : d.stamped with
  | true =>
    have hno : (switchOff "$timestamps".toList).occursIn d.print = false :=
      occursIn_switchOff_of_marked (d.lacks_stamps hstamped).marked_print (by decide)
    exact hno
  | false =>
    have hpart : "$timestamps".toList ++ " = false;".toList <:+: d.printStamps := by
      unfold printStamps
      rw [hstamped]
      exact ⟨"    public ".toList, "\n\n".toList, rfl⟩
    have hyes : (switchOff "$timestamps".toList).occursIn d.print = true :=
      occursIn_switchOff (hpart.trans (d.infix_of_mem_parts (by simp [parts])))
    exact hyes

theorem countingOff_print : Model.countingOff.occursIn d.print = d.countingOff := by
  cases hcounting : d.countingOff with
  | false =>
    have hno : (switchOff "$incrementing".toList).occursIn d.print = false :=
      occursIn_switchOff_of_marked (d.lacks_counting hcounting).marked_print (by decide)
    exact hno
  | true =>
    have hpart : "$incrementing".toList ++ " = false;".toList <:+: d.printCounting := by
      unfold printCounting
      rw [hcounting]
      exact ⟨"    public ".toList, "\n\n".toList, rfl⟩
    have hyes : (switchOff "$incrementing".toList).occursIn d.print = true :=
      occursIn_switchOff (hpart.trans (d.infix_of_mem_parts (by simp [parts])))
    exact hyes

theorem ownKey_print : Model.ownKey.occursIn d.print = d.ownKey.isSome := by
  cases hkey : d.ownKey with
  | none => exact occursIn_ownKey_eq_false ((d.lacks_key hkey).not_occurs (by decide))
  | some key =>
    have hpart : "protected $primaryKey ".toList <:+: d.printKey := by
      unfold printKey
      rw [hkey]
      refine ⟨"    ".toList, "= '".toList ++ (key.text ++ "';\n\n".toList), ?_⟩
      dsimp only
      simp only [List.append_assoc]
      rfl
    exact occursIn_ownKey (hpart.trans (d.infix_of_mem_parts (by simp [parts])))

theorem hasTimestamps_print : hasTimestamps d.print = d.stamped := by
  unfold hasTimestamps
  rw [d.timestampsOff_print, Bool.not_not]

theorem hasSyntheticKey_print :
    hasSyntheticKey d.print = (!d.countingOff && d.ownKey.isNone) := by
  unfold hasSyntheticKey
  rw [d.countingOff_print, d.ownKey_print, Bool.not_or, Option.not_isSome]

theorem classDeclaration_print : classDeclaration.occursIn d.print = true := by
  obtain ⟨c, w, hname, hc, -⟩ := d.name.exists_cons
  obtain ⟨z, hprint⟩ : ∃ z, d.print
      = "<?php\n\n".toList ++ ("class".toList ++ (" ".toList ++ c :: (w ++ z))) := by
    obtain ⟨rest, hrest⟩ : ∃ rest, d.print = d.opening ++ rest := ⟨_, rfl⟩
    refine ⟨" extends Model\n\x7b\n".toList ++ rest, ?_⟩
    unfold opening at hrest
    rw [hrest, hname]
    simp only [List.append_assoc]
    rfl
  have hstops : Stops Text.isBlank (c :: (w ++ z)) := Text.not_isBlank_of_isIdentifierStart hc
  have hedge : (⟨pass none "<?php\n\n".toList, "class".toList ++ (" ".toList ++ c :: (w ++ z))⟩
      : Cursor).atWordEdge = true := rfl
  have hfirst : (one Text.isIdentifierStart ++ most Text.isWord).Rejects Text.isBlank :=
    (rejects_one fun x hx => not_isIdentifierStart_of_isBlank hx).append
  rw [hprint]
  apply occursIn_of_runs
  unfold classDeclaration
  simp only [runs_append_assoc]
  rw [runs_wordEdge_append, if_pos hedge, runs_literal_append,
    runs_space_append (by decide) (by decide) hstops hfirst]
  apply List.ne_nil_of_mem
  apply mem_runs_append.mpr
  refine ⟨_, mem_runs_one.mpr ⟨c, w ++ z, rfl, hc, rfl⟩, ?_⟩
  exact mem_runs_most.mpr ⟨[], w ++ z, rfl, by simp, rfl⟩

theorem isConcrete_print : isConcrete d.print = true := by
  unfold isConcrete
  rw [occursIn_abstractClass_print, d.classDeclaration_print]
  rfl

theorem isLikely_print (name : Text) : isLikely d.print name = true := by
  have hopening : "extends Model".toList <:+: d.opening := by
    unfold opening
    refine ⟨"<?php\n\nclass ".toList ++ (d.name.text ++ " ".toList), "\n\x7b\n".toList, ?_⟩
    simp only [List.append_assoc]
    rfl
  have hmarker : Text.occursIn "extends Model".toList d.print = true := by
    rw [Text.occursIn_iff_infix]
    exact hopening.trans (d.infix_of_mem_parts (by simp [parts]))
  have hany : baseClassMarkers.any (Text.occursIn · d.print) = true :=
    List.any_eq_true.mpr ⟨_, List.mem_cons_self, hmarker⟩
  unfold isLikely
  rw [hany]
  rfl

end Description
end Model
end EntityDiagram
