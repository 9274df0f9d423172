import EntityDiagram.Model.Declaration
import EntityDiagram.Proofs.Pattern.Searching

/-!
# The shapes of declarations on the texts that have them

Each shape that declarations are looked for by gets its equation here: on a text of that shape, with
any white space where the shape allows it, there is the one match that one expects. Nothing here
knows what file the text stands in.

A property is looked for from the beginning of a file, past everything before it. That this finds
the property and nothing before it needs one thing only, which is that the name of the property does
not occur before (`search?_property`). The keyword in front of the name cannot belong to an earlier
match: only white space may stand between the two, and the keyword itself is none.
-/

namespace EntityDiagram
namespace Model

open Pattern

variable {p q : Pattern} {b : Option Char} {w z : Text} {x : Char} {found : Captures} {m : Match}

/-! ## White space -/

def AllBlank (w : Text) : Prop := ∀ c ∈ w, Text.isBlank c = true

instance (w : Text) : Decidable (AllBlank w) :=
  decidable_of_iff (w.all Text.isBlank = true) List.all_eq_true

theorem AllBlank.not_mem (hw : AllBlank w) (hx : Text.isBlank x = false) : x ∉ w := by
  intro hmem
  rw [hw x hmem] at hx
  exact absurd hx (by simp)

theorem allBlank_nil : AllBlank [] := by decide

theorem allBlank_space : AllBlank (" " : Text) := by decide

theorem allBlank_tab : AllBlank ("\t" : Text) := by decide

/-- The end of a line, and the indentation of the next one in a class. -/
theorem allBlank_indent : AllBlank ("\n    " : Text) := by decide

theorem space_ne_nil : (" " : Text) ≠ [] := by decide

theorem runs_blanks_append (hw : AllBlank w) (hz : Stops Text.isBlank z)
    (hq : q.Rejects Text.isBlank) :
    (blanks ++ q).runs ⟨b, w ++ z⟩ found = q.runs ⟨pass b w, z⟩ found :=
  runs_most_append hw hz hq

theorem runs_space_append (hw : AllBlank w) (hne : w ≠ []) (hz : Stops Text.isBlank z)
    (hq : q.Rejects Text.isBlank) :
    (space ++ q).runs ⟨b, w ++ z⟩ found = q.runs ⟨pass b w, z⟩ found :=
  runs_several_append hw hne hz hq

theorem exists_of_mem_runs_space {t : Text} {run : Cursor × Captures}
    (h : run ∈ space.runs ⟨b, t⟩ found) :
    ∃ w z, t = w ++ z ∧ w ≠ [] ∧ AllBlank w ∧ run = (⟨pass b w, z⟩, found) := by
  obtain ⟨x, w, z, rfl, hx, hw, rfl⟩ := mem_runs_several.mp h
  exact ⟨x :: w, z, rfl, by simp, List.forall_mem_cons.mpr ⟨hx, hw⟩, rfl⟩

section BeforeLiteral

variable {v : Text}

theorem stops_append (hv : v.head?.any (!Text.isBlank ·) = true) : Stops Text.isBlank (v ++ z) := by
  cases v with
  | nil => simp at hv
  | cons c v => simpa [Stops] using hv

theorem runs_blanks_literal_append (hw : AllBlank w) (hv : v.head?.any (!Text.isBlank ·) = true) :
    (blanks ++ (literal v ++ q)).runs ⟨b, w ++ (v ++ z)⟩ found
      = q.runs ⟨pass (pass b w) v, z⟩ found := by
  rw [runs_blanks_append hw (stops_append hv) (rejects_literal hv).append, runs_literal_append]

theorem runs_space_literal_append (hw : AllBlank w) (hne : w ≠ [])
    (hv : v.head?.any (!Text.isBlank ·) = true) :
    (space ++ (literal v ++ q)).runs ⟨b, w ++ (v ++ z)⟩ found
      = q.runs ⟨pass (pass b w) v, z⟩ found := by
  rw [runs_space_append hw hne (stops_append hv) (rejects_literal hv).append, runs_literal_append]

end BeforeLiteral

/-- Whatever else a match needs that begins with a keyword and a name, it needs the two and white space
    between them. -/
theorem exists_of_runs_named {keyword name t : Text}
    (h : (literal keyword ++ (space ++ (literal name ++ q))).runs ⟨b, t⟩ found ≠ []) :
    ∃ sp z, AllBlank sp ∧ sp ≠ [] ∧ t = keyword ++ (sp ++ (name ++ z)) := by
  obtain ⟨run, hrun⟩ := List.exists_mem_of_ne_nil _ h
  simp only [mem_runs_append] at hrun
  obtain ⟨_, hkeyword, _, hspace, _, hname, -⟩ := hrun
  obtain ⟨t, rfl, rfl⟩ := mem_runs_literal.mp hkeyword
  obtain ⟨w, t, rfl, hne, hw, rfl⟩ := exists_of_mem_runs_space hspace
  obtain ⟨z, rfl, -⟩ := mem_runs_literal.mp hname
  exact ⟨w, z, hw, hne, rfl⟩

/-! ## Properties -/

/-- The head of a property, with the white space that it has. -/
structure PropertyHead where
  name : Text
  afterKeyword : Text := " "
  afterName : Text := " "
  afterEquals : Text := " "
  named : name.head?.any (!Text.isBlank ·) = true
  parted : afterKeyword ≠ []
  blankAfterKeyword : AllBlank afterKeyword
  blankAfterName : AllBlank afterName
  blankAfterEquals : AllBlank afterEquals

namespace PropertyHead

def print (h : PropertyHead) : Text :=
  "protected" ++ (h.afterKeyword ++ (h.name ++ (h.afterName ++ ("=" ++ h.afterEquals : Text))))

theorem runs_append (h : PropertyHead) (hz : Stops Text.isBlank z) (hq : q.Rejects Text.isBlank) :
    (property (literal h.name) ++ q).runs ⟨b, h.print ++ z⟩ found
      = q.runs ⟨pass b h.print, z⟩ found := by
  unfold property print
  simp only [runs_append_assoc, List.append_assoc]
  rw [runs_literal_append, runs_space_literal_append h.blankAfterKeyword h.parted h.named,
    runs_blanks_literal_append h.blankAfterName, runs_blanks_append h.blankAfterEquals hz hq]
  · simp
  · rfl

theorem exists_of_runs {name t : Text} (h : (property (literal name) ++ q).runs ⟨b, t⟩ found ≠ []) :
    ∃ sp z, AllBlank sp ∧ sp ≠ [] ∧ t = "protected".toList ++ (sp ++ (name ++ z)) := by
  unfold property at h
  simp only [runs_append_assoc] at h
  exact exists_of_runs_named h

/-- A property is not found in a text without its name. -/
theorem search?_property_eq_none {name t : Text} (h : ¬ name <:+: t) :
    (property (literal name) ++ q).search? t = none := by
  apply searchFrom?_eq_none.mpr
  rintro a z rfl
  rw [matchAt?_eq_none]
  refine Classical.byContradiction fun hne => ?_
  obtain ⟨sp, y, -, -, rfl⟩ := exists_of_runs hne
  apply h
  exact ⟨a ++ ("protected".toList ++ sp), y, by simp⟩

/-- **A property is found where it stands**, if its name does not occur before it. -/
theorem search?_property (h : PropertyHead) {pre : Text} (hp : 'p' ∉ h.name)
    (hpre : ¬ h.name <:+: pre)
    (hm : (property (literal h.name) ++ q).matchAt? ⟨pass none pre, h.print ++ z⟩ = some m) :
    (property (literal h.name) ++ q).search? (pre ++ (h.print ++ z)) = some m := by
  refine search?_of_absent_before (x := 'p') (fun hne => ?_) hpre hm
  obtain ⟨sp, y, hsp, -, rfl⟩ := exists_of_runs hne
  refine ⟨"rotected".toList ++ (sp ++ h.name), ⟨y, by simp⟩, ?_, ?_⟩
  · simp only [List.mem_append, not_or]
    exact ⟨by decide, fun hmem => absurd (hsp _ hmem) (by decide), hp⟩
  · exact (List.suffix_append ("protected".toList ++ sp) h.name).isInfix.trans (by simp)

end PropertyHead

/-! ## Quotations -/

theorem runs_looselyQuoted {o c : Char} (ho : isQuote o = true) (hc : isQuote c = true)
    (hw : ∀ y ∈ w, isQuote y = false) (hne : w ≠ []) :
    looselyQuoted.runs ⟨b, o :: (w ++ c :: z)⟩ found
      = [(⟨some c, z⟩, found ++ [(⟨some o, w ++ c :: z⟩, ⟨pass (some o) w, c :: z⟩)])] := by
  have hrejects : (one isQuote).Rejects (!isQuote ·) := rejects_one (by simp)
  have hstops : Stops (!isQuote ·) (c :: z) := by simp [Stops, hc]
  rw [looselyQuoted, runs_append_assoc, runs_one_append ho,
    runs_captured_several_append (by simpa using hw) hne hstops hrejects, runs]
  exact if_pos hc

theorem runs_looselyQuoted_append {o c : Char} (ho : isQuote o = true) (hc : isQuote c = true)
    (hw : ∀ y ∈ w, isQuote y = false) (hne : w ≠ []) :
    (looselyQuoted ++ q).runs ⟨b, o :: (w ++ c :: z)⟩ found
      = q.runs ⟨some c, z⟩ (found ++ [(⟨some o, w ++ c :: z⟩, ⟨pass (some o) w, c :: z⟩)]) := by
  rw [Pattern.runs_append, runs_looselyQuoted ho hc hw hne]
  simp

theorem isQuote_single : isQuote '\'' = true := rfl

theorem isQuote_double : isQuote '"' = true := rfl

theorem not_isQuote_of_isBlank (hx : Text.isBlank x = true) : isQuote x = false := by
  rw [Bool.eq_false_iff]
  intro hq
  simp only [isQuote, Bool.or_eq_true, beq_iff_eq] at hq
  rcases hq with rfl | rfl <;> simp [Text.isBlank] at hx

theorem stops_of_isQuote (ho : isQuote x = true) : Stops Text.isBlank (x :: z) := by
  show Text.isBlank x = false
  rw [Bool.eq_false_iff]
  intro hblank
  rw [not_isQuote_of_isBlank hblank] at ho
  exact absurd ho (by simp)

theorem rejects_looselyQuoted : looselyQuoted.Rejects Text.isBlank :=
  ((rejects_one fun _ => not_isQuote_of_isBlank).append).append

theorem runs_quotedText {o : Char} (ho : isQuote o = true) (hw : o ∉ w) (hne : w ≠ []) :
    quotedText.runs ⟨b, o :: (w ++ o :: z)⟩ found
      = [(⟨some o, z⟩, found ++ [(⟨some o, w ++ o :: z⟩, ⟨pass (some o) w, o :: z⟩)])] := by
  have hone : ∀ {b}, ((literal [o] ++ captured (several (· != o))) ++ literal [o]).runs
      ⟨b, o :: (w ++ o :: z)⟩ found
        = [(⟨some o, z⟩, found ++ [(⟨some o, w ++ o :: z⟩, ⟨pass (some o) w, o :: z⟩)])] := by
    intro b
    have hwithin : ∀ y ∈ w, (y != o) = true := by
      intro y hy
      rw [bne_iff_ne]
      rintro rfl
      exact hw hy
    have hstart : o :: (w ++ o :: z) = [o] ++ (w ++ o :: z) := rfl
    have hend : (o :: z : Text) = [o] ++ z := rfl
    rw [runs_append_assoc, hstart, runs_literal_append,
      runs_captured_several_append hwithin hne (by simp [Stops]) (rejects_literal (by simp)),
      hend, runs_literal]
    rfl
  have hother : ∀ {c : Char} {b}, c ≠ o → ((literal [c] ++ captured (several (· != c)))
      ++ literal [c]).runs ⟨b, o :: (w ++ o :: z)⟩ found = [] := by
    intro c b hc
    rw [runs_append_assoc]
    exact runs_literal_append_of_clashes (by simp [clashes, hc])
  simp only [isQuote, Bool.or_eq_true, beq_iff_eq] at ho
  -- There is one alternative for each mark, and the mark at the start rules the other one out.
  have heither : quotedText.runs ⟨b, o :: (w ++ o :: z)⟩ found
      = ((literal ['\''] ++ captured (several (· != '\''))) ++ literal ['\'']).runs
          ⟨b, o :: (w ++ o :: z)⟩ found
        ++ ((literal ['"'] ++ captured (several (· != '"'))) ++ literal ['"']).runs
          ⟨b, o :: (w ++ o :: z)⟩ found := rfl
  rw [heither]
  rcases ho with rfl | rfl
  · rw [hone, hother (by decide), List.append_nil]
  · rw [hone, hother (by decide), List.nil_append]

/-! ## Array literals -/

theorem head?_runs_arrayLiteral (hw : ']' ∉ w) :
    (arrayLiteral.runs ⟨b, '[' :: (w ++ ']' :: z)⟩ found).head?
      = some (⟨some ']', z⟩,
          found ++ [(⟨some '[', w ++ ']' :: z⟩, ⟨pass (some '[') w, ']' :: z⟩)]) := by
  have hstart : '[' :: (w ++ ']' :: z) = ['['] ++ (w ++ ']' :: z) := rfl
  unfold arrayLiteral
  rw [runs_append_assoc, show "[".toList = ['['] from rfl, show "]".toList = [']'] from rfl, hstart,
    runs_literal_append]
  exact head?_runs_captured_fewest hw

theorem matchAt?_arrayProperty (h : PropertyHead) (hw : ']' ∉ w) :
    ∃ m, (property (literal h.name) ++ arrayLiteral).matchAt?
        ⟨b, h.print ++ '[' :: (w ++ ']' :: z)⟩ = some m ∧ m.text 0 = w := by
  have hrejects : arrayLiteral.Rejects Text.isBlank := ((rejects_literal (by decide)).append).append
  have hruns : ((property (literal h.name) ++ arrayLiteral).runs
      ⟨b, h.print ++ '[' :: (w ++ ']' :: z)⟩ []).head?
        = some (⟨some ']', z⟩, [(⟨some '[', w ++ ']' :: z⟩, ⟨pass (some '[') w, ']' :: z⟩)]) := by
    have hstops : Stops Text.isBlank ('[' :: (w ++ ']' :: z)) := rfl
    rw [h.runs_append hstops hrejects]
    exact head?_runs_arrayLiteral hw
  exact ⟨_, matchAt?_of_head hruns, Match.text_eq rfl⟩

theorem PropertyHead.search?_array (h : PropertyHead) {pre : Text} (hp : 'p' ∉ h.name)
    (hpre : ¬ h.name <:+: pre) (hw : ']' ∉ w) :
    ∃ m, (property (literal h.name) ++ arrayLiteral).search?
        (pre ++ (h.print ++ '[' :: (w ++ ']' :: z))) = some m ∧ m.text 0 = w := by
  obtain ⟨m, hmatch, htext⟩ := matchAt?_arrayProperty (b := pass none pre) (z := z) h hw
  exact ⟨m, h.search?_property hp hpre hmatch, htext⟩

theorem matchAt?_quotedProperty (h : PropertyHead) {o c : Char} (ho : isQuote o = true)
    (hc : isQuote c = true) (hw : ∀ y ∈ w, isQuote y = false) (hne : w ≠ []) :
    ∃ m, (property (literal h.name) ++ looselyQuoted).matchAt?
        ⟨b, h.print ++ o :: (w ++ c :: z)⟩ = some m ∧ m.text 0 = w := by
  have hstops : Stops Text.isBlank (o :: (w ++ c :: z)) := stops_of_isQuote ho
  have hruns : (property (literal h.name) ++ looselyQuoted).runs
      ⟨b, h.print ++ o :: (w ++ c :: z)⟩ []
        = [(⟨some c, z⟩, [(⟨some o, w ++ c :: z⟩, ⟨pass (some o) w, c :: z⟩)])] := by
    rw [h.runs_append hstops rejects_looselyQuoted]
    exact runs_looselyQuoted ho hc hw hne
  exact ⟨_, matchAt?_of_runs hruns, Match.text_eq rfl⟩

/-! ## The method that returns the casts -/

/-- The method that returns the casts, up to the array that it returns, with the white space that it
    has. -/
structure CastsMethodHead where
  /-- Whether it says what it returns, and if so the white space behind the colon and the type. -/
  returned : Option (Text × Text) := none
  afterKeyword : Text := " "
  afterName : Text := []
  inside : Text := []
  afterParameters : Text := " "
  afterBrace : Text := " "
  afterReturn : Text := " "
  parted : afterKeyword ≠ []
  blankReturned : ∀ gaps ∈ returned, AllBlank gaps.1 ∧ AllBlank gaps.2
  blankAfterKeyword : AllBlank afterKeyword
  blankAfterName : AllBlank afterName
  blankInside : AllBlank inside
  blankAfterParameters : AllBlank afterParameters
  blankAfterBrace : AllBlank afterBrace
  blankAfterReturn : AllBlank afterReturn

namespace CastsMethodHead

variable (h : CastsMethodHead)

def printReturned : Text :=
  match h.returned with
  | none => []
  | some (afterColon, afterType) => ":" ++ (afterColon ++ ("array" ++ afterType : Text))

def print : Text :=
  "function" ++ (h.afterKeyword ++ ("casts" ++ (h.afterName ++ ("(" ++ (h.inside ++ (")"
    ++ (h.afterParameters ++ (h.printReturned ++ ("\x7b" ++ (h.afterBrace ++ ("return"
      ++ h.afterReturn : Text)))))))))))

/-- The type is read if it is there, and where it is not, none is. -/
theorem runs_returned_append {t : Text} :
    (optional (literal ":".toList ++ blanks ++ literal "array".toList ++ blanks)
        ++ (literal "\x7b".toList ++ q)).runs ⟨b, h.printReturned ++ ("\x7b".toList ++ t)⟩ found
      = q.runs ⟨pass (pass b h.printReturned) "\x7b".toList, t⟩ found := by
  have hblank := h.blankReturned
  rw [runs_optional_append]
  simp only [runs_append_assoc]
  unfold printReturned
  cases hreturned : h.returned with
  | none =>
    have hno : (literal ":".toList ++ (blanks ++ (literal "array".toList ++ (blanks
        ++ (literal "\x7b".toList ++ q))))).runs ⟨b, "\x7b".toList ++ t⟩ found = [] :=
      runs_literal_append_of_clashes (clashes_append _ _ _ (by decide))
    dsimp only
    rw [List.nil_append, hno, List.nil_append, runs_literal_append, pass_nil]
  | some gaps =>
    obtain ⟨afterColon, afterType⟩ := gaps
    obtain ⟨hcolon, htype⟩ := hblank _ (by rw [hreturned]; rfl)
    have hno : ∀ t, (literal "\x7b".toList ++ q).runs ⟨b, ":".toList ++ t⟩ found = [] :=
      fun t => runs_literal_append_of_clashes (clashes_append _ _ _ (by decide))
    dsimp only
    simp only [List.append_assoc, pass_append]
    rw [hno, List.append_nil, runs_literal_append, runs_blanks_literal_append hcolon (by decide),
      runs_blanks_literal_append htype (by decide)]

theorem stops_returned (t : Text) : Stops Text.isBlank (h.printReturned ++ ("\x7b".toList ++ t)) := by
  unfold printReturned
  cases h.returned with
  | none => rfl
  | some gaps => rfl

theorem runs_append (hz : Stops Text.isBlank z) :
    castsMethod.runs ⟨b, h.print ++ z⟩ found = arrayLiteral.runs ⟨pass b h.print, z⟩ found := by
  have harray : arrayLiteral.Rejects Text.isBlank := ((rejects_literal (by decide)).append).append
  have hreturned : (optional (literal ":".toList ++ blanks ++ literal "array".toList ++ blanks)
      ++ (literal "\x7b".toList ++ (blanks ++ (literal "return".toList
        ++ (blanks ++ arrayLiteral))))).Rejects Text.isBlank :=
    Rejects.optional_append (((rejects_literal (by decide)).append).append).append
      (rejects_literal (by decide)).append
  unfold castsMethod print
  simp only [runs_append_assoc, List.append_assoc]
  rw [runs_literal_append, runs_space_literal_append h.blankAfterKeyword h.parted (by decide),
    runs_blanks_literal_append h.blankAfterName (by decide),
    runs_blanks_literal_append h.blankInside (by decide),
    runs_blanks_append h.blankAfterParameters (h.stops_returned _) hreturned,
    h.runs_returned_append, runs_blanks_literal_append h.blankAfterBrace (by decide),
    runs_blanks_append h.blankAfterReturn hz harray]
  simp only [pass_append]

theorem matchAt?_array (hw : ']' ∉ w) :
    ∃ m, castsMethod.matchAt? ⟨b, h.print ++ '[' :: (w ++ ']' :: z)⟩ = some m ∧ m.text 0 = w := by
  have hruns : (castsMethod.runs ⟨b, h.print ++ '[' :: (w ++ ']' :: z)⟩ []).head?
      = some (⟨some ']', z⟩, [(⟨some '[', w ++ ']' :: z⟩, ⟨pass (some '[') w, ']' :: z⟩)]) := by
    have hstops : Stops Text.isBlank ('[' :: (w ++ ']' :: z)) := rfl
    rw [h.runs_append hstops]
    exact head?_runs_arrayLiteral hw
  exact ⟨_, matchAt?_of_head hruns, Match.text_eq rfl⟩

/-- **The method is found where it stands**, if its name does not occur before it. -/
theorem search?_array {pre : Text} (hpre : ¬ "casts".toList <:+: pre) (hw : ']' ∉ w) :
    ∃ m, castsMethod.search? (pre ++ (h.print ++ '[' :: (w ++ ']' :: z))) = some m
      ∧ m.text 0 = w := by
  obtain ⟨m, hmatch, htext⟩ := h.matchAt?_array (b := pass none pre) (z := z) hw
  refine ⟨m, search?_of_absent_before (x := 'f') (fun hne => ?_) hpre hmatch, htext⟩
  unfold castsMethod at hne
  simp only [runs_append_assoc] at hne
  obtain ⟨sp, y, hsp, -, rfl⟩ := exists_of_runs_named hne
  refine ⟨"unction".toList ++ (sp ++ "casts".toList), ⟨y, by simp⟩, ?_, ?_⟩
  · simp only [List.mem_append, not_or]
    exact ⟨by decide, fun hmem => absurd (hsp _ hmem) (by decide), by decide⟩
  · exact (List.suffix_append ("function".toList ++ sp) "casts".toList).isInfix.trans (by simp)

end CastsMethodHead

/-- The head of that method in a printed file. -/
def castsMethodHead : Text := "function casts(): array\n    \x7b\n        return "

theorem matchAt?_castsMethod (hw : ']' ∉ w) :
    ∃ m, castsMethod.matchAt? ⟨b, castsMethodHead ++ '[' :: (w ++ ']' :: z)⟩ = some m
      ∧ m.text 0 = w := by
  let head : CastsMethodHead := {
    returned := some (" ", "\n    ")
    afterParameters := []
    afterBrace := "\n        "
    parted := space_ne_nil
    blankReturned := fun gaps hgaps => Option.mem_some.mp hgaps ▸ ⟨allBlank_space, allBlank_indent⟩
    blankAfterKeyword := allBlank_space
    blankAfterName := allBlank_nil
    blankInside := allBlank_nil
    blankAfterParameters := allBlank_nil
    blankAfterBrace := by decide
    blankAfterReturn := allBlank_space }
  exact head.matchAt?_array hw

/-! ## The entries of an array -/

theorem rejects_isQuote : (one isQuote).Rejects (!isQuote ·) := rejects_one (by simp)

theorem quotedText_rejects : quotedText.Rejects (!isQuote ·) :=
  Rejects.either ((rejects_literal (by decide)).append).append
    ((rejects_literal (by decide)).append).append

theorem castPair_rejects : castPair.Rejects (!isQuote ·) :=
  ((((rejects_isQuote.append).append).append).append).append.append

theorem quiet_quotedText {a : Text} (ha : a.all (!isQuote ·) = true) : Quiet quotedText b a :=
  quiet_of_rejects quotedText_rejects (List.all_eq_true.mp ha)

theorem quiet_castPair {a : Text} (ha : a.all (!isQuote ·) = true) : Quiet castPair b a :=
  quiet_of_rejects castPair_rejects (List.all_eq_true.mp ha)

/-- The next entry of a list of quotations, past what separates it from the one before. -/
theorem allFrom_quotedText {o : Char} {sep : Text} (hsep : sep.all (!isQuote ·) = true)
    (ho : isQuote o = true) (hw : o ∉ w) (hne : w ≠ []) :
    ∃ m, quotedText.allFrom 0 b (sep ++ o :: (w ++ o :: z)) = m :: quotedText.allFrom 0 (some o) z
      ∧ m.text 0 = w := by
  have hquiet : quotedText.Quiet b sep := quiet_quotedText hsep
  let m : Match := ⟨⟨pass b sep, o :: (w ++ o :: z)⟩, ⟨some o, z⟩,
    [(⟨some o, w ++ o :: z⟩, ⟨pass (some o) w, o :: z⟩)]⟩
  have hmatch : quotedText.matchAt? ⟨pass b sep, o :: (w ++ o :: z)⟩ = some m :=
    matchAt?_of_runs (runs_quotedText ho hw hne)
  refine ⟨m, ?_, Match.text_eq rfl⟩
  rw [allFrom_append hquiet]
  have hall : quotedText.allFrom 0 (pass b sep) (o :: (w ++ [o]) ++ z)
      = m :: quotedText.allFrom 0 (pass (pass b sep) (o :: (w ++ [o]))) z :=
    allFrom_of_match (by simp) (by simpa using hmatch) rfl
  simpa using hall

theorem allFrom_castPair {o₁ c₁ o₂ c₂ : Char} {sep sp₁ sp₂ v : Text}
    (hsep : sep.all (!isQuote ·) = true)
    (ho₁ : isQuote o₁ = true) (hc₁ : isQuote c₁ = true) (ho₂ : isQuote o₂ = true)
    (hc₂ : isQuote c₂ = true) (hsp₁ : AllBlank sp₁) (hsp₂ : AllBlank sp₂)
    (hw : ∀ y ∈ w, isQuote y = false) (hv : ∀ y ∈ v, isQuote y = false)
    (hwne : w ≠ []) (hvne : v ≠ []) :
    ∃ m, castPair.allFrom 0 b
        (sep ++ o₁ :: (w ++ c₁ :: (sp₁ ++ ("=>".toList ++ (sp₂ ++ o₂ :: (v ++ c₂ :: z))))))
        = m :: castPair.allFrom 0 (some c₂) z
      ∧ m.text 0 = w ∧ m.text 1 = v := by
  have hquiet : castPair.Quiet b sep := quiet_castPair hsep
  let tail := sp₁ ++ ("=>".toList ++ (sp₂ ++ o₂ :: (v ++ c₂ :: z)))
  have hruns : castPair.runs ⟨pass b sep, o₁ :: (w ++ c₁ :: tail)⟩ []
      = [(⟨some c₂, z⟩, [(⟨some o₁, w ++ c₁ :: tail⟩, ⟨pass (some o₁) w, c₁ :: tail⟩),
          (⟨some o₂, v ++ c₂ :: z⟩, ⟨pass (some o₂) v, c₂ :: z⟩)])] := by
    have harrow : (literal "=>".toList ++ (blanks ++ looselyQuoted)).Rejects Text.isBlank :=
      (rejects_literal (by decide)).append
    have hstops : Stops Text.isBlank (o₂ :: (v ++ c₂ :: z)) := stops_of_isQuote ho₂
    have hstops' : Stops Text.isBlank ("=>".toList ++ (sp₂ ++ o₂ :: (v ++ c₂ :: z))) := rfl
    unfold castPair
    simp only [runs_append_assoc]
    rw [runs_looselyQuoted_append ho₁ hc₁ hw hwne, runs_blanks_append hsp₁ hstops' harrow,
      runs_literal_append, runs_blanks_append hsp₂ hstops rejects_looselyQuoted,
      runs_looselyQuoted ho₂ hc₂ hv hvne]
    rfl
  let m : Match := ⟨⟨pass b sep, o₁ :: (w ++ c₁ :: tail)⟩, ⟨some c₂, z⟩,
    [(⟨some o₁, w ++ c₁ :: tail⟩, ⟨pass (some o₁) w, c₁ :: tail⟩),
      (⟨some o₂, v ++ c₂ :: z⟩, ⟨pass (some o₂) v, c₂ :: z⟩)]⟩
  have hmatch : castPair.matchAt? ⟨pass b sep, o₁ :: (w ++ c₁ :: tail)⟩ = some m :=
    matchAt?_of_runs hruns
  refine ⟨m, ?_, Match.text_eq rfl, Match.text_eq rfl⟩
  rw [allFrom_append hquiet]
  -- The search goes on behind the last mark, with nothing of the pair left to match.
  have hall : castPair.allFrom 0 (pass b sep)
        (o₁ :: (w ++ c₁ :: (sp₁ ++ ("=>".toList ++ (sp₂ ++ o₂ :: (v ++ [c₂]))))) ++ z)
      = m :: castPair.allFrom 0 (pass (pass b sep)
        (o₁ :: (w ++ c₁ :: (sp₁ ++ ("=>".toList ++ (sp₂ ++ o₂ :: (v ++ [c₂]))))))) z :=
    allFrom_of_match (by simp) (by simpa [tail] using hmatch) rfl
  simpa using hall

end Model
end EntityDiagram
