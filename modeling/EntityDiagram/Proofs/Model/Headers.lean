import EntityDiagram.Model.Relation
import EntityDiagram.Proofs.Model.Shapes
import EntityDiagram.Proofs.Pattern.Capturing
import EntityDiagram.Proofs.Pattern.Landmarks

/-!
# The headers of accessors

An `AccessorHead` is a method without parameters as it may be written down, up to its brace, with
whatever white space and whatever type it returns. The pattern for headers matches where one of these
stands and nowhere else, and it matches just that (`matchAt?_accessorHeader_iff`). So what holds of
headers can be shown by looking at how they are printed.

One such thing is that headers never overlap (`AccessorHead.of_overlap`). A header has one brace, at
its end, so of two that overlap the later one would be the end of the earlier one. It also has one
parenthesis that opens, and before that come a keyword, white space, a name and white space. Read from
the parenthesis backwards, this leaves no choice where the keyword begins.
-/

namespace EntityDiagram
namespace Model

open Pattern

variable {b : Option Char} {t v w z : Text} {x : Char} {found : Captures} {m : Match}

/-! ## Names and types -/

def IsMethodName (name : Text) : Prop :=
  ∃ c w, name = c :: w ∧ Text.isIdentifierStart c = true ∧ ∀ x ∈ w, Text.isWord x = true

theorem IsMethodName.isWord_of_mem {name : Text} (h : IsMethodName name) :
    ∀ x ∈ name, Text.isWord x = true := by
  obtain ⟨c, w, rfl, hc, hw⟩ := h
  exact List.forall_mem_cons.mpr ⟨Text.isWord_of_isIdentifierStart hc, hw⟩

theorem IsMethodName.ne_nil {name : Text} (h : IsMethodName name) : name ≠ [] := by
  obtain ⟨c, w, rfl, -, -⟩ := h
  exact List.cons_ne_nil c w

theorem not_isIdentifierStart_of_isBlank (hx : Text.isBlank x = true) :
    Text.isIdentifierStart x = false := by
  rw [Bool.eq_false_iff]
  intro hstart
  rw [Text.not_isBlank_of_isIdentifierStart hstart] at hx
  exact absurd hx (by simp)

theorem not_isTypeCharacter_of_isBlank (hx : Text.isBlank x = true) :
    isTypeCharacter x = false := by
  have hne : x ≠ '\\' := by
    rintro rfl
    exact absurd hx (by decide)
  simp [isTypeCharacter, Text.not_isWord_of_isBlank hx, hne]

theorem not_isBlank_of_isTypeCharacter (hx : isTypeCharacter x = true) :
    Text.isBlank x = false := by
  rw [Bool.eq_false_iff]
  intro hblank
  rw [not_isTypeCharacter_of_isBlank hblank] at hx
  exact absurd hx (by simp)

theorem AllBlank.stops_isWord (hw : AllBlank w) (hz : Stops Text.isWord z) :
    Stops Text.isWord (w ++ z) := by
  cases w with
  | nil => exact hz
  | cons c w => exact Text.not_isWord_of_isBlank (hw c List.mem_cons_self)

/-- The type that a method returns, and how it is written down. -/
structure ReturnedType where
  name : Text
  nullable : Bool := false
  beforeColon : Text := []
  afterColon : Text := " "
  nonempty : name ≠ []
  valid : ∀ x ∈ name, isTypeCharacter x = true
  blankBeforeColon : AllBlank beforeColon
  blankAfterColon : AllBlank afterColon

namespace ReturnedType

def mark (r : ReturnedType) : Text := if r.nullable then "?" else []

def print (r : ReturnedType) : Text :=
  r.beforeColon ++ (":".toList ++ (r.afterColon ++ (r.mark ++ r.name)))

end ReturnedType

/-! ## Headers -/

/-- A method without parameters up to its opening brace, and how it is written down. -/
structure AccessorHead where
  name : Text
  returned : Option ReturnedType := none
  afterKeyword : Text := " "
  afterName : Text := []
  inside : Text := []
  beforeBrace : Text := " "
  named : IsMethodName name
  parted : afterKeyword ≠ []
  blankAfterKeyword : AllBlank afterKeyword
  blankAfterName : AllBlank afterName
  blankInside : AllBlank inside
  blankBeforeBrace : AllBlank beforeBrace

namespace AccessorHead

variable (h : AccessorHead)

def printReturned : Text := h.returned.elim [] ReturnedType.print

def beforeName : Text := "function".toList ++ h.afterKeyword

def behindName : Text :=
  h.afterName ++ ("(".toList ++ (h.inside ++ (")".toList ++ (h.printReturned
    ++ (h.beforeBrace ++ "\x7b".toList)))))

def print : Text := h.beforeName ++ (h.name ++ h.behindName)

theorem print_append (z : Text) : h.print ++ z
    = "function".toList ++ (h.afterKeyword ++ (h.name ++ (h.behindName ++ z))) := by
  unfold print beforeName
  simp only [List.append_assoc]

/-- The match of a header, with what stands before it and behind it. -/
def matched (b : Option Char) (z : Text) : Match where
  start := ⟨b, h.print ++ z⟩
  stop := ⟨some '\x7b', z⟩
  captures := [(⟨pass b h.beforeName, h.name ++ (h.behindName ++ z)⟩,
    ⟨pass (pass b h.beforeName) h.name, h.behindName ++ z⟩)]

theorem text_matched : (h.matched b z).text 0 = h.name := Match.text_eq rfl

end AccessorHead

/-! ## Where there is a header, it matches -/

def returnType : Pattern :=
  optional (blanks ++ ":" ++ blanks ++ optional "?" ++ several isTypeCharacter)

/-- The question mark may be there or not, and no type begins with one. -/
theorem ReturnedType.runs_mark_append (r : ReturnedType) {q : Pattern} (hz : Stops isTypeCharacter z)
    (hq : q.Rejects isTypeCharacter) :
    (optional (literal "?".toList) ++ (several isTypeCharacter ++ q)).runs
        ⟨b, r.mark ++ (r.name ++ z)⟩ found
      = q.runs ⟨pass b (r.mark ++ r.name), z⟩ found := by
  have hname : ∀ b, (several isTypeCharacter ++ q).runs ⟨b, r.name ++ z⟩ found
      = q.runs ⟨pass b r.name, z⟩ found :=
    fun b => runs_several_append r.valid r.nonempty hz hq
  rw [runs_optional_append]
  unfold mark
  cases r.nullable with
  | true =>
    have hno : (several isTypeCharacter ++ q).runs ⟨b, "?".toList ++ (r.name ++ z)⟩ found = [] := by
      rw [several, runs_append_assoc]
      exact runs_one_append_of_not (by decide)
    rw [if_pos rfl, runs_literal_append, hname, hno, List.append_nil, pass_append]
  | false =>
    have hno : (literal "?".toList ++ (several isTypeCharacter ++ q)).runs
        ⟨b, r.name ++ z⟩ found = [] := by
      obtain ⟨c, w, hname⟩ := List.exists_cons_of_ne_nil r.nonempty
      have hc : isTypeCharacter c = true := r.valid c (by rw [hname]; exact List.mem_cons_self)
      have hne : '?' ≠ c := by
        rintro rfl
        exact absurd hc (by decide)
      rw [hname]
      exact runs_literal_append_of_clashes (by simp [clashes, hne])
    rw [if_neg Bool.false_ne_true, List.nil_append, List.nil_append, hno, hname, List.nil_append]

/-- Behind the colon, the blanks end where the type begins. -/
theorem ReturnedType.stops_mark_append (r : ReturnedType) (z : Text) :
    Stops Text.isBlank (r.mark ++ (r.name ++ z)) := by
  unfold mark
  cases r.nullable with
  | true => rfl
  | false =>
    obtain ⟨c, u, hname⟩ := List.exists_cons_of_ne_nil r.nonempty
    have hc : isTypeCharacter c = true := r.valid c (by rw [hname]; exact List.mem_cons_self)
    rw [hname]
    exact not_isBlank_of_isTypeCharacter hc

theorem runs_blanks_brace {w : Text} (hw : AllBlank w) :
    (blanks ++ literal "\x7b".toList).runs ⟨b, w ++ ("\x7b".toList ++ z)⟩ found
      = [(⟨some '\x7b', z⟩, found)] := by
  have hstops : Stops Text.isBlank ("\x7b".toList ++ z) := rfl
  rw [runs_blanks_append hw hstops (rejects_literal (by decide)), runs_literal]
  rfl

theorem runs_returnType_append (returned : Option ReturnedType) {w : Text} (hw : AllBlank w) :
    (returnType ++ (blanks ++ literal "\x7b".toList)).runs
        ⟨b, returned.elim [] ReturnedType.print ++ (w ++ ("\x7b".toList ++ z))⟩ found
      = [(⟨some '\x7b', z⟩, found)] := by
  unfold returnType
  rw [runs_optional_append]
  simp only [runs_append_assoc]
  cases returned with
  | none =>
    have hno : ∀ q b, (literal ":".toList ++ q).runs ⟨b, "\x7b".toList ++ z⟩ found = [] :=
      fun q b => runs_literal_append_of_clashes (clashes_append _ _ _ (by decide))
    have hstops : Stops Text.isBlank ("\x7b".toList ++ z) := rfl
    show _ ++ (blanks ++ literal "\x7b".toList).runs ⟨b, w ++ ("\x7b".toList ++ z)⟩ found = _
    rw [runs_blanks_brace hw]
    show (blanks ++ _).runs ⟨b, w ++ ("\x7b".toList ++ z)⟩ found ++ _ = _
    rw [runs_blanks_append hw hstops (rejects_literal (by decide)).append, hno, List.nil_append]
  | some r =>
    have hsplit : (some r).elim [] ReturnedType.print ++ (w ++ ("\x7b".toList ++ z))
        = r.beforeColon ++ (":".toList ++ (r.afterColon ++ (r.mark ++ (r.name
          ++ (w ++ ("\x7b".toList ++ z)))))) := by
      simp only [Option.elim_some, ReturnedType.print, List.append_assoc]
    have hcolon : ∀ z, Stops Text.isBlank (":".toList ++ z) := fun _ => rfl
    -- The type may be missing, but then the brace would have to stand where the colon is.
    have hno : ∀ b z, (literal "\x7b".toList).runs ⟨b, ":".toList ++ z⟩ found = [] :=
      fun b z => runs_literal_of_clashes (clashes_append _ _ _ (by decide))
    have hend : Stops isTypeCharacter (w ++ ("\x7b".toList ++ z)) := by
      cases w with
      | nil => rfl
      | cons c w => exact not_isTypeCharacter_of_isBlank (hw c List.mem_cons_self)
    have hreject : (blanks ++ literal "\x7b".toList).Rejects isTypeCharacter :=
      Rejects.most_append (fun x hx => not_isBlank_of_isTypeCharacter hx)
        (rejects_literal (by decide))
    have htype : (optional (literal "?".toList) ++ (several isTypeCharacter
        ++ (blanks ++ literal "\x7b".toList))).Rejects Text.isBlank :=
      Rejects.optional_append (rejects_literal (by decide))
        ((rejects_one fun x hx => not_isTypeCharacter_of_isBlank hx).append).append
    rw [hsplit, runs_blanks_append r.blankBeforeColon (hcolon _) (rejects_literal (by decide)), hno,
      List.append_nil, runs_blanks_append r.blankBeforeColon (hcolon _)
        (rejects_literal (by decide)).append, runs_literal_append,
      runs_blanks_append r.blankAfterColon (r.stops_mark_append _) htype,
      r.runs_mark_append hend hreject, runs_blanks_brace hw]

/-- The pattern for headers, one part after another. -/
theorem runs_accessorHeader_flat (c : Cursor) :
    accessorHeader.runs c found = (literal "function".toList ++ (space
      ++ (captured (one Text.isIdentifierStart ++ most Text.isWord) ++ (blanks
      ++ (literal "(".toList ++ (blanks ++ (literal ")".toList ++ (returnType
      ++ (blanks ++ literal "\x7b".toList))))))))).runs c found := by
  unfold accessorHeader
  simp only [runs_append_assoc]
  rfl

theorem AccessorHead.runs_print (h : AccessorHead) :
    accessorHeader.runs ⟨b, h.print ++ z⟩ [] = [((h.matched b z).stop, (h.matched b z).captures)] := by
  obtain ⟨c, w, hname, hc, hw⟩ := h.named
  have hsplit : h.print ++ z = "function".toList ++ (h.afterKeyword ++ (c :: w ++ (h.afterName
      ++ ("(".toList ++ (h.inside ++ (")".toList ++ (h.returned.elim [] ReturnedType.print
        ++ (h.beforeBrace ++ ("\x7b".toList ++ z))))))))) := by
    unfold print beforeName behindName printReturned
    rw [hname]
    simp only [List.append_assoc]
  have hstart : ∀ z, Stops Text.isBlank (c :: w ++ z) :=
    fun _ => Text.not_isBlank_of_isIdentifierStart hc
  have hbehind : ∀ z, Stops Text.isWord (h.afterName ++ ("(".toList ++ z)) :=
    fun _ => h.blankAfterName.stops_isWord rfl
  have hword : (captured (one Text.isIdentifierStart ++ most Text.isWord)).Rejects Text.isBlank :=
    ((rejects_one fun x hx => not_isIdentifierStart_of_isBlank hx).append).captured
  have hopen : (blanks ++ (literal "(".toList ++ (blanks ++ (literal ")".toList ++ (returnType
      ++ (blanks ++ literal "\x7b".toList)))))).Rejects Text.isWord :=
    Rejects.most_append (fun x hx => Text.not_isBlank_of_isWord hx)
      (rejects_literal (by decide)).append
  rw [runs_accessorHeader_flat, hsplit, runs_literal_append,
    runs_space_append h.blankAfterKeyword h.parted (hstart _) hword.append,
    runs_captured_word_append hc hw (hbehind _) hopen,
    runs_blanks_literal_append h.blankAfterName (by decide),
    runs_blanks_literal_append h.blankInside (by decide), runs_returnType_append _ h.blankBeforeBrace]
  unfold matched behindName printReturned beforeName
  rw [hname]
  simp only [List.append_assoc, pass_append, List.nil_append]

theorem AccessorHead.matchAt?_print (h : AccessorHead) :
    accessorHeader.matchAt? ⟨b, h.print ++ z⟩ = some (h.matched b z) :=
  matchAt?_of_runs h.runs_print

theorem AccessorHead.pass_print (h : AccessorHead) : pass b h.print = some '\x7b' := by
  unfold print behindName
  simp only [pass_append]
  rfl

/-- The next header, and the search from its brace on. -/
theorem AccessorHead.allFrom_print (h : AccessorHead) :
    accessorHeader.allFrom 0 b (h.print ++ z)
      = h.matched b z :: accessorHeader.allFrom 0 (some '\x7b') z := by
  have hne : h.print ≠ [] := by
    unfold print beforeName
    simp
  rw [allFrom_of_match hne h.matchAt?_print rfl, h.pass_print]

/-! ## Where a header matches, there is one -/

theorem exists_returned_of_covers (h : returnType.Covers w) :
    ∃ returned : Option ReturnedType, w = returned.elim [] ReturnedType.print := by
  rcases covers_optional h with h | rfl
  · obtain ⟨_, name, rfl, h, hname⟩ := covers_append h
    obtain ⟨_, mark, rfl, h, hmark⟩ := covers_append h
    obtain ⟨_, afterColon, rfl, h, hafterColon⟩ := covers_append h
    obtain ⟨beforeColon, _, rfl, hbeforeColon, hcolon⟩ := covers_append h
    obtain rfl := covers_literal hcolon
    obtain ⟨hne, hvalid⟩ := covers_several hname
    have hnullable : ∃ nullable : Bool, mark = if nullable then "?".toList else [] := by
      rcases covers_optional hmark with hmark | rfl
      · exact ⟨true, covers_literal hmark⟩
      · exact ⟨false, rfl⟩
    obtain ⟨nullable, rfl⟩ := hnullable
    refine ⟨some ⟨name, nullable, beforeColon, afterColon, hne, hvalid, covers_most hbeforeColon,
      covers_most hafterColon⟩, ?_⟩
    simp only [Option.elim_some, ReturnedType.print, ReturnedType.mark, List.append_assoc]
  · exact ⟨none, rfl⟩

theorem exists_head_of_covers (h : accessorHeader.Covers w) :
    ∃ head : AccessorHead, w = head.print := by
  obtain ⟨_, brace, rfl, h, hbrace⟩ := covers_append h
  obtain ⟨_, beforeBrace, rfl, h, hbeforeBrace⟩ := covers_append h
  obtain ⟨_, returned, rfl, h, hreturned⟩ := covers_append h
  obtain ⟨_, close, rfl, h, hclose⟩ := covers_append h
  obtain ⟨_, inside, rfl, h, hinside⟩ := covers_append h
  obtain ⟨_, opening, rfl, h, hopening⟩ := covers_append h
  obtain ⟨_, afterName, rfl, h, hafterName⟩ := covers_append h
  obtain ⟨_, name, rfl, h, hname⟩ := covers_append h
  obtain ⟨keyword, afterKeyword, rfl, hkeyword, hafterKeyword⟩ := covers_append h
  obtain rfl := covers_literal hkeyword
  obtain rfl := covers_literal hopening
  obtain rfl := covers_literal hclose
  obtain rfl := covers_literal hbrace
  obtain ⟨hne, hblank⟩ := covers_several hafterKeyword
  obtain ⟨returned, rfl⟩ := exists_returned_of_covers hreturned
  refine ⟨⟨name, returned, afterKeyword, afterName, inside, beforeBrace,
    covers_word (covers_captured hname), hne, hblank, covers_most hafterName, covers_most hinside,
    covers_most hbeforeBrace⟩, ?_⟩
  unfold AccessorHead.print AccessorHead.beforeName AccessorHead.behindName AccessorHead.printReturned
  dsimp only
  simp only [List.append_assoc]

theorem matchAt?_accessorHeader_iff :
    accessorHeader.matchAt? ⟨b, t⟩ = some m
      ↔ ∃ (h : AccessorHead) (z : Text), t = h.print ++ z ∧ m = h.matched b z := by
  constructor
  · intro hmatch
    obtain ⟨_, z, rfl, hcovers⟩ := covers_of_runs (runs_ne_nil_of_matchAt? hmatch)
    obtain ⟨h, rfl⟩ := exists_head_of_covers hcovers
    rw [h.matchAt?_print] at hmatch
    exact ⟨h, z, rfl, (Option.some.inj hmatch).symm⟩
  · rintro ⟨h, z, rfl, rfl⟩
    exact h.matchAt?_print

/-! ## Headers do not overlap -/

namespace AccessorHead

variable (h : AccessorHead)

/-- The header up to the parenthesis that opens. -/
def front : Text := h.beforeName ++ (h.name ++ h.afterName)

/-- The header between the parenthesis that opens and the brace. -/
def back : Text := h.inside ++ (")".toList ++ (h.printReturned ++ h.beforeBrace))

theorem print_eq : h.print = h.front ++ '(' :: h.back ++ ['\x7b'] := by
  unfold print front behindName back
  simp

theorem isWord_or_isBlank_of_mem_front (hx : x ∈ h.front) :
    Text.isWord x = true ∨ Text.isBlank x = true := by
  have hkeyword : ∀ x ∈ "function".toList, Text.isWord x = true := List.all_eq_true.mp (by decide)
  unfold front beforeName at hx
  simp only [List.mem_append] at hx
  rcases hx with (hx | hx) | hx | hx
  · exact .inl (hkeyword x hx)
  · exact .inr (h.blankAfterKeyword x hx)
  · exact .inl (h.named.isWord_of_mem x hx)
  · exact .inr (h.blankAfterName x hx)

theorem isTypeCharacter_or_isBlank_of_mem_back (hx : x ∈ h.back) :
    isTypeCharacter x = true ∨ Text.isBlank x = true ∨ x ∈ ")?:".toList := by
  simp only [back, printReturned, List.mem_append] at hx
  rcases hx with hx | hx | hx | hx
  · exact .inr (.inl (h.blankInside x hx))
  · right; right
    simp_all
  · cases hr : h.returned with
    | none =>
      rw [hr] at hx
      exact absurd hx List.not_mem_nil
    | some r =>
      rw [hr] at hx
      simp only [Option.elim_some, ReturnedType.print, ReturnedType.mark, List.mem_append] at hx
      rcases hx with hx | hx | hx | hx | hx
      · exact .inr (.inl (r.blankBeforeColon x hx))
      · right; right
        simp_all
      · exact .inr (.inl (r.blankAfterColon x hx))
      · right; right
        cases hn : r.nullable <;> simp_all
      · exact .inl (r.valid x hx)
  · exact .inr (.inl (h.blankBeforeBrace x hx))

theorem not_mem_front (hword : Text.isWord x = false) (hblank : Text.isBlank x = false) :
    x ∉ h.front := by
  intro hx
  rcases h.isWord_or_isBlank_of_mem_front hx with hx | hx
  · rw [hx] at hword
    exact absurd hword (by simp)
  · rw [hx] at hblank
    exact absurd hblank (by simp)

theorem not_mem_back (htype : isTypeCharacter x = false) (hblank : Text.isBlank x = false)
    (hmark : x ∉ ")?:".toList) : x ∉ h.back := by
  intro hx
  rcases h.isTypeCharacter_or_isBlank_of_mem_back hx with hx | hx | hx
  · rw [hx] at htype
    exact absurd htype (by simp)
  · rw [hx] at hblank
    exact absurd hblank (by simp)
  · exact hmark hx

/-- There is one brace, at the end. -/
theorem brace_not_mem : '\x7b' ∉ h.front ++ '(' :: h.back := by
  rw [List.mem_append, List.mem_cons, not_or, not_or]
  exact ⟨h.not_mem_front (by decide) (by decide), by decide,
    h.not_mem_back (by decide) (by decide) (by decide)⟩

/-- There is one parenthesis that opens. -/
theorem count_parenthesis : (h.front ++ '(' :: h.back).count '(' = 1 := by
  rw [List.count_append, List.count_cons_self,
    List.count_eq_zero.mpr (h.not_mem_front (by decide) (by decide)),
    List.count_eq_zero.mpr (h.not_mem_back (by decide) (by decide) (by decide))]

/-- Where the keyword of a header begins can be told from what stands before the parenthesis. -/
theorem eq_nil_of_front_eq {h' : AccessorHead} (heq : h.front = v ++ h'.front) : v = [] := by
  have hword : ∀ x ∈ "function".toList, Text.isBlank x = false :=
    Text.forall_of_all_not (by decide)
  have hnames : ∀ (h : AccessorHead), ∀ x ∈ h.name, Text.isBlank x = false :=
    fun h x hx => Text.not_isBlank_of_isWord (h.named.isWord_of_mem x hx)
  have hgaps : ∀ (h : AccessorHead), ∀ x ∈ h.afterKeyword, Text.isWord x = false :=
    fun h x hx => Text.not_isWord_of_isBlank (h.blankAfterKeyword x hx)
  -- The white space, the name, the white space and the keyword, from the end on.
  have hall : ("function".toList ++ h.afterKeyword ++ h.name) ++ h.afterName
      = (v ++ "function".toList ++ h'.afterKeyword ++ h'.name) ++ h'.afterName := by
    unfold front beforeName at heq
    simpa only [List.append_assoc] using heq
  obtain ⟨hname, -⟩ := eq_of_append_stops_behind Text.isBlank h.blankAfterName h'.blankAfterName
    (getLast?_append_any (hnames h) h.named.ne_nil)
    (getLast?_append_any (hnames h') h'.named.ne_nil) hall
  obtain ⟨hgap, -⟩ := eq_of_append_stops_behind Text.isWord h.named.isWord_of_mem
    h'.named.isWord_of_mem (getLast?_append_any (hgaps h) h.parted)
    (getLast?_append_any (hgaps h') h'.parted) hname
  obtain ⟨hkeyword, -⟩ := eq_of_append_stops_behind Text.isBlank h.blankAfterKeyword
    h'.blankAfterKeyword (getLast?_append_any (t := []) hword (by decide))
    (getLast?_append_any hword (by decide)) hgap
  exact List.append_cancel_right (List.nil_append _ ▸ hkeyword.symm)

/-- **Headers do not overlap.** Where one stands, another one that begins before it has ended. -/
theorem of_overlap {h' : AccessorHead} {z' : Text} (hv : v ≠ [])
    (heq : h.print ++ z = v ++ (h'.print ++ z')) : ∃ s, v = h.print ++ s := by
  rcases List.append_eq_append_iff.mp heq with ⟨s, hs, -⟩ | ⟨u, hu, hrest⟩
  · exact ⟨s, hs⟩
  rcases List.eq_nil_or_concat u with rfl | ⟨u, c, rfl⟩
  · exact ⟨[], by simpa using hu.symm⟩
  -- Both headers would end at the same brace, and have the same parenthesis that opens.
  rw [h.print_eq, List.concat_eq_append, ← List.append_assoc] at hu
  obtain ⟨hbody, hbrace⟩ := List.append_inj' hu rfl
  obtain rfl : '\x7b' = c := List.singleton_inj.mp hbrace
  have hu' : '\x7b' ∉ u := by
    intro hmem
    apply h.brace_not_mem
    rw [hbody]
    exact List.mem_append_right v hmem
  have hsame : h'.front ++ '(' :: h'.back = u := by
    apply eq_of_append_cons (v := z') (z := z) h'.brace_not_mem hu'
    simpa [h'.print_eq] using hrest
  subst hsame
  have hcount : v.count '(' = 0 := by
    have hone := h.count_parenthesis
    rw [hbody, List.count_append, h'.count_parenthesis] at hone
    exact Nat.add_right_cancel hone
  have hfront : h.front = v ++ h'.front := by
    rw [← List.append_assoc] at hbody
    refine eq_of_append_cons (h.not_mem_front (by decide) (by decide)) ?_ hbody
    rw [List.mem_append, not_or]
    exact ⟨List.count_eq_zero.mp hcount, h'.not_mem_front (by decide) (by decide)⟩
  exact absurd (h.eq_nil_of_front_eq hfront) hv

end AccessorHead
end Model
end EntityDiagram
