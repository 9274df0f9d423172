import EntityDiagram.Proofs.Model.FillableLists
import EntityDiagram.Proofs.Naming
import EntityDiagram.Proofs.Pattern.Landmarks

/-!
# Maps of casts in any layout

A map of casts stands in a property or in a method, in many layouts, and it may cast some of its fields to
classes. Reading gives the fields that are cast by a quoted text, in order, and passes over the classes
(`casts_written`).

A class is what makes this less than obvious. It leaves the closing mark of its field with nothing to
pair it with, so a pair is looked for from this mark on, and what is quoted then is everything up to the
opening mark of the next field. There is no such pair because an arrow would have to come next, and a
field begins there instead. So what an entry needs of the text behind it is that the first mark, if there
is one, stands before a word (`Onward`). Whatever entries follow, this is so.
-/

namespace EntityDiagram
namespace Model

open Pattern

variable {b : Option Char} {t v w z : Text} {c o : Char} {found : Captures}

/-! ## Entries -/

/-- Whether a character may occur in a quoted cast. -/
def isCastLetter (c : Char) : Bool := Text.isWord c || (":,-.\\" : Text).contains c

/-- Whether a character may occur in the path of a class. -/
def isPathLetter (c : Char) : Bool := Text.isWord c || c == '\\'

/-- What a field is cast to: a quoted cast, or a class. -/
inductive CastValue where
  | quoted (cast : Text) (mark : Char) (nonempty : cast ≠ [])
      (valid : ∀ c ∈ cast, isCastLetter c = true) (quotes : isQuote mark = true)
  | ofClass (path : Text) (valid : ∀ c ∈ path, isPathLetter c = true)

namespace CastValue

def print : CastValue → Text
  | quoted cast mark _ _ _ => mark :: (cast ++ [mark])
  | ofClass path _ => path ++ ("::class" : Text)

/-- The cast, if it is a quoted one. -/
def cast? : CastValue → Option Text
  | quoted cast _ _ _ _ => some cast
  | ofClass _ _ => none

end CastValue

/-- An entry of a map, with its marks and white space and with what separates it from the one before. -/
structure CastEntry where
  field : Text
  value : CastValue
  mark : Char := '\''
  separator : Text := []
  beforeArrow : Text := " "
  afterArrow : Text := " "
  nonempty : field ≠ []
  word : ∀ c ∈ field, Text.isWord c = true
  quotes : isQuote mark = true
  separates : Separates separator
  blankBeforeArrow : AllBlank beforeArrow
  blankAfterArrow : AllBlank afterArrow

namespace CastEntry

variable (e : CastEntry)

def print : Text :=
  e.separator ++ e.mark :: (e.field ++ e.mark :: (e.beforeArrow ++ ("=>".toList
    ++ (e.afterArrow ++ e.value.print))))

/-- The field and its cast, if that is a quoted one. -/
def pair? : Option (Text × Text) := e.value.cast?.map fun cast => (e.field, cast)

end CastEntry

/-! ## Characters -/

theorem not_isQuote_of_isWord (h : Text.isWord c = true) : isQuote c = false := by
  rw [Bool.eq_false_iff]
  intro hquote
  simp only [isQuote, Bool.or_eq_true, beq_iff_eq] at hquote
  rcases hquote with rfl | rfl
  · exact absurd h (by decide)
  · exact absurd h (by decide)

theorem eq_of_isCastLetter (h : isCastLetter c = true) : Text.isWord c = true ∨ c ∈ ":,-.\\".toList := by
  rw [isCastLetter, Bool.or_eq_true] at h
  exact h.imp id List.contains_iff_mem.mp

theorem eq_or_isWord_of_isPathLetter (h : isPathLetter c = true) : c = '\\' ∨ Text.isWord c = true := by
  rw [isPathLetter, Bool.or_eq_true, beq_iff_eq] at h
  exact h.symm

theorem not_isQuote_of_isCastLetter (h : isCastLetter c = true) : isQuote c = false := by
  have hall : ∀ d ∈ ":,-.\\".toList, isQuote d = false := Text.forall_of_all_not (by decide)
  rcases eq_of_isCastLetter h with h | h
  · exact not_isQuote_of_isWord h
  · exact hall c h

theorem not_isBlank_of_isCastLetter (h : isCastLetter c = true) : Text.isBlank c = false := by
  have hall : ∀ d ∈ ":,-.\\".toList, Text.isBlank d = false := Text.forall_of_all_not (by decide)
  rcases eq_of_isCastLetter h with h | h
  · exact Text.not_isBlank_of_isWord h
  · exact hall c h

/-- A class as it is written has neither marks nor white space in it. -/
theorem not_isQuote_and_not_isBlank_of_mem_class {path : Text}
    (h : ∀ c ∈ path, isPathLetter c = true) :
    ∀ c ∈ path ++ "::class".toList, isQuote c = false ∧ Text.isBlank c = false := by
  intro c hc
  have hcases : c = '\\' ∨ c = ':' ∨ Text.isWord c = true := by
    rcases List.mem_append.mp hc with hc | hc
    · rcases eq_or_isWord_of_isPathLetter (h c hc) with rfl | hword
      · exact .inl rfl
      · exact .inr (.inr hword)
    · exact .inr (Naming.eq_or_isWord_of_mem_constant hc)
  rcases hcases with rfl | rfl | hword
  · exact ⟨by decide, by decide⟩
  · exact ⟨by decide, by decide⟩
  · exact ⟨not_isQuote_of_isWord hword, Text.not_isBlank_of_isWord hword⟩

/-- Whether a character may occur in a map of casts. -/
def isMapLetter (c : Char) : Bool :=
  Text.isWord c || Text.isBlank c || isQuote c || ("=>:,-.\\" : Text).contains c

theorem isMapLetter_of_isWord (h : Text.isWord c = true) : isMapLetter c = true := by
  simp [isMapLetter, h]

theorem isMapLetter_of_isBlank (h : Text.isBlank c = true) : isMapLetter c = true := by
  simp [isMapLetter, h]

theorem isMapLetter_of_isQuote (h : isQuote c = true) : isMapLetter c = true := by
  simp [isMapLetter, h]

theorem isMapLetter_of_isCastLetter (h : isCastLetter c = true) : isMapLetter c = true := by
  have hall : ∀ d ∈ ":,-.\\".toList, isMapLetter d = true := List.all_eq_true.mp (by decide)
  rcases eq_of_isCastLetter h with hword | hmem
  · exact isMapLetter_of_isWord hword
  · exact hall c hmem

theorem isMapLetter_of_isPathLetter (h : isPathLetter c = true) : isMapLetter c = true := by
  rcases eq_or_isWord_of_isPathLetter h with rfl | hword
  · decide
  · exact isMapLetter_of_isWord hword

theorem Separates.isMapLetter_of_mem (hw : Separates w) (hc : c ∈ w) : isMapLetter c = true := by
  rcases hw c hc with hblank | rfl
  · exact isMapLetter_of_isBlank hblank
  · decide

theorem CastValue.isMapLetter_of_mem (value : CastValue) : ∀ c ∈ value.print, isMapLetter c = true := by
  cases value with
  | quoted cast mark nonempty valid quotes =>
    have hmark := isMapLetter_of_isQuote quotes
    simp only [print, List.forall_mem_cons, List.forall_mem_append]
    exact ⟨hmark, fun c hc => isMapLetter_of_isCastLetter (valid c hc), hmark, by simp⟩
  | ofClass path valid =>
    simp only [print, List.forall_mem_append]
    exact ⟨fun c hc => isMapLetter_of_isPathLetter (valid c hc), List.all_eq_true.mp (by decide)⟩

theorem CastEntry.isMapLetter_of_mem (e : CastEntry) : ∀ c ∈ e.print, isMapLetter c = true := by
  have hmark := isMapLetter_of_isQuote e.quotes
  simp only [print, List.forall_mem_append, List.forall_mem_cons]
  refine ⟨fun c => e.separates.isMapLetter_of_mem, hmark, fun c hc => isMapLetter_of_isWord (e.word c hc),
    hmark, fun c hc => isMapLetter_of_isBlank (e.blankBeforeArrow c hc), ?_,
    fun c hc => isMapLetter_of_isBlank (e.blankAfterArrow c hc), e.value.isMapLetter_of_mem⟩
  exact List.all_eq_true.mp (by decide)

/-! ## Where no pair begins -/

/-- The first mark of the text, if there is one, stands before a word. -/
def Onward (t : Text) : Prop :=
  ∃ u z, t = u ++ z ∧ (∀ c ∈ u, isQuote c = false)
    ∧ (z = [] ∨ ∃ o x y, z = o :: x :: y ∧ isQuote o = true ∧ Text.isWord x = true)

theorem exists_of_runs_castPair (h : castPair.runs ⟨b, t⟩ found ≠ []) :
    ∃ o w o' s z, t = o :: (w ++ o' :: (s ++ ("=>".toList ++ z))) ∧ (∀ y ∈ w, isQuote y = false)
      ∧ isQuote o' = true ∧ AllBlank s := by
  obtain ⟨run, hrun⟩ := List.exists_mem_of_ne_nil _ h
  unfold castPair looselyQuoted at hrun
  simp only [runs_append_assoc, mem_runs_append] at hrun
  obtain ⟨_, hopening, _, hname, _, hclosing, _, hgap, _, harrow, -⟩ := hrun
  obtain ⟨o, t, rfl, -, rfl⟩ := mem_runs_one.mp hopening
  obtain ⟨_, hinner, rfl⟩ := List.mem_map.mp hname
  obtain ⟨x, w, t, rfl, hx, hw, rfl⟩ := mem_runs_several.mp hinner
  obtain ⟨o', t, rfl, ho', rfl⟩ := mem_runs_one.mp hclosing
  obtain ⟨s, t, rfl, hs, rfl⟩ := mem_runs_most.mp hgap
  obtain ⟨z, rfl, -⟩ := mem_runs_literal.mp harrow
  refine ⟨o, x :: w, o', s, z, rfl, ?_, ho', hs⟩
  have hall : ∀ y ∈ x :: w, (!isQuote y) = true := List.forall_mem_cons.mpr ⟨hx, hw⟩
  simpa using hall

/-- A pair does not begin at a mark that closes, whatever stands between it and the next mark. -/
theorem runs_castPair_of_onward (hv : ∀ c ∈ v, isQuote c = false) (ht : Onward t) :
    castPair.runs ⟨b, o :: (v ++ t)⟩ found = [] := by
  refine Classical.byContradiction fun hne => ?_
  obtain ⟨u, z, rfl, hu, hz⟩ := ht
  obtain ⟨_, w, o', s, y, heq, hw, ho', hs⟩ := exists_of_runs_castPair hne
  have heq' : (v ++ u) ++ z = w ++ o' :: (s ++ ("=>".toList ++ y)) := by
    rw [List.append_assoc]
    exact (List.cons.inj heq).2
  have hvu : ∀ c ∈ v ++ u, isQuote c = false := by
    intro c hc
    exact (List.mem_append.mp hc).elim (hv c) (hu c)
  rcases hz with rfl | ⟨o₂, x, rest, rfl, ho₂, hx⟩
  · -- There is no second mark.
    rw [List.append_nil] at heq'
    rw [hvu o' (by rw [heq']; simp)] at ho'
    exact absurd ho' (by simp)
  · -- The second mark is the one before the word.
    obtain rfl : v ++ u = w := eq_of_append_stops (!isQuote ·) (by simpa using hvu) (by simpa using hw)
      (by simp [Stops, ho₂]) (by simp [Stops, ho']) heq'
    have hrest := (List.cons.inj (List.append_cancel_left heq')).2
    cases s with
    | nil =>
      obtain rfl : x = '=' := (List.cons.inj hrest).1
      exact absurd hx (by decide)
    | cons c s =>
      obtain rfl : x = c := (List.cons.inj hrest).1
      rw [Text.not_isWord_of_isBlank (hs x List.mem_cons_self)] at hx
      exact absurd hx (by simp)

/-- Nor does it begin at a field that is cast to a class. -/
theorem runs_castPair_ofClass {path s s' : Text} (ho : isQuote o = true)
    (hw : ∀ c ∈ w, isQuote c = false) (hne : w ≠ []) (hs : AllBlank s) (hs' : AllBlank s')
    (hpath : ∀ c ∈ path, isPathLetter c = true) :
    castPair.runs ⟨b, o :: (w ++ o :: (s ++ ("=>".toList ++ (s' ++ ((path ++ "::class".toList) ++ t)))))⟩
      found = [] := by
  have hclass := not_isQuote_and_not_isBlank_of_mem_class hpath
  obtain ⟨x, rest, heq⟩ := List.exists_cons_of_ne_nil (l := path ++ "::class".toList) (by simp)
  obtain ⟨hquote, hblank⟩ := hclass x (by rw [heq]; exact List.mem_cons_self)
  have harrow : (literal "=>".toList ++ (blanks ++ looselyQuoted)).Rejects Text.isBlank :=
    (rejects_literal (by decide)).append
  have hstops : Stops Text.isBlank ("=>".toList ++ (s' ++ (x :: rest ++ t))) := rfl
  have hstops' : Stops Text.isBlank (x :: rest ++ t) := hblank
  have hrejects : looselyQuoted.Rejects (!isQuote ·) := (rejects_isQuote.append).append
  rw [heq]
  unfold castPair
  simp only [runs_append_assoc]
  rw [runs_looselyQuoted_append ho ho hw hne, runs_blanks_append hs hstops harrow,
    runs_literal_append, runs_blanks_append hs' hstops' rejects_looselyQuoted]
  exact hrejects x (by simp [hquote]) _ _ _

/-! ## Reading the entries -/

theorem onward_entries (entries : List CastEntry) (hclosing : Separates w) :
    Onward (entries.flatMap CastEntry.print ++ w) := by
  have hquotes : ∀ {v}, Separates v → ∀ c ∈ v, isQuote c = false := by
    intro v hv
    simpa using hv.all_not_isQuote
  cases entries with
  | nil => exact ⟨w, [], (List.append_nil w).symm, hquotes hclosing, .inl rfl⟩
  | cons e rest =>
    obtain ⟨x, name, heq⟩ := List.exists_cons_of_ne_nil e.nonempty
    have hx : Text.isWord x = true := e.word x (by rw [heq]; exact List.mem_cons_self)
    let behind := name ++ e.mark :: (e.beforeArrow ++ ("=>".toList ++ (e.afterArrow ++ (e.value.print
      ++ (rest.flatMap CastEntry.print ++ w)))))
    have hprint : (e :: rest).flatMap CastEntry.print ++ w = e.separator ++ e.mark :: x :: behind := by
      rw [List.flatMap_cons, CastEntry.print, heq]
      simp only [behind, List.append_assoc, List.cons_append]
    exact ⟨e.separator, e.mark :: x :: behind, hprint, hquotes e.separates,
      .inr ⟨e.mark, x, behind, rfl, e.quotes, hx⟩⟩

/-- What is read of a text, behind the given character. -/
def pairsFrom (b : Option Char) (t : Text) : List (Text × Text) :=
  (castPair.allFrom 0 b t).map fun pair => (Text.strip (pair.text 0), Text.strip (pair.text 1))

namespace CastEntry

variable (e : CastEntry)

theorem not_isQuote_of_mem_field : ∀ c ∈ e.field, isQuote c = false :=
  fun c hc => not_isQuote_of_isWord (e.word c hc)

theorem strip_field : Text.strip e.field = e.field :=
  Text.strip_eq_self fun c hc => Text.not_isBlank_of_isWord (e.word c hc)

theorem pairsFrom_quoted {cast : Text} {mark : Char} {nonempty : cast ≠ []}
    {valid : ∀ c ∈ cast, isCastLetter c = true} {quotes : isQuote mark = true}
    (hvalue : e.value = .quoted cast mark nonempty valid quotes) :
    pairsFrom b (e.print ++ t) = (e.field, cast) :: pairsFrom (some mark) t := by
  have hquote : ∀ c ∈ cast, isQuote c = false := fun c hc => not_isQuote_of_isCastLetter (valid c hc)
  have hstrip : Text.strip cast = cast :=
    Text.strip_eq_self fun c hc => not_isBlank_of_isCastLetter (valid c hc)
  obtain ⟨m, hall, hname, hcast⟩ := allFrom_castPair (b := b) (z := t) e.separates.all_not_isQuote
    e.quotes e.quotes quotes quotes e.blankBeforeArrow e.blankAfterArrow e.not_isQuote_of_mem_field
    hquote e.nonempty nonempty
  unfold pairsFrom print
  rw [hvalue]
  simp only [CastValue.print, List.append_assoc, List.cons_append, List.nil_append]
  rw [hall, List.map_cons, hname, hcast, e.strip_field, hstrip]

/-- Neither mark of a field that is cast to a class begins a pair, and there is no other mark. -/
theorem pairsFrom_ofClass {path : Text} {valid : ∀ c ∈ path, isPathLetter c = true}
    (hvalue : e.value = .ofClass path valid) (ht : Onward t) :
    ∃ b', pairsFrom b (e.print ++ t) = pairsFrom b' t := by
  let behind := e.beforeArrow ++ ("=>".toList ++ (e.afterArrow ++ (path ++ "::class".toList)))
  have hbehind : ∀ c ∈ behind, isQuote c = false := by
    simp only [behind, List.forall_mem_append]
    have hclass := List.forall_mem_append.mp (not_isQuote_and_not_isBlank_of_mem_class valid)
    exact ⟨fun c hc => not_isQuote_of_isBlank (e.blankBeforeArrow c hc),
      Text.forall_of_all_not (by decide),
      fun c hc => not_isQuote_of_isBlank (e.blankAfterArrow c hc),
      fun c hc => (hclass.1 c hc).1, fun c hc => (hclass.2 c hc).1⟩
  have hopening : castPair.runs ⟨pass b e.separator, e.mark :: (e.field ++ e.mark :: (behind ++ t))⟩ []
      = [] := by
    simp only [behind, List.append_assoc]
    rw [← List.append_assoc path]
    exact runs_castPair_ofClass e.quotes e.not_isQuote_of_mem_field e.nonempty e.blankBeforeArrow
      e.blankAfterArrow valid
  have hclosing : castPair.runs ⟨pass (some e.mark) e.field, e.mark :: (behind ++ t)⟩ [] = [] :=
    runs_castPair_of_onward hbehind ht
  have hprint : e.print ++ t
      = e.separator ++ e.mark :: (e.field ++ e.mark :: (behind ++ t)) := by
    unfold print
    rw [hvalue]
    simp only [behind, CastValue.print, List.append_assoc, List.cons_append]
  refine ⟨pass (some e.mark) behind, ?_⟩
  unfold pairsFrom
  rw [hprint, allFrom_append (quiet_castPair e.separates.all_not_isQuote), allFrom_cons hopening,
    allFrom_append (quiet_castPair (by simpa using e.not_isQuote_of_mem_field)), allFrom_cons hclosing,
    allFrom_append (quiet_castPair (by simpa using hbehind))]

/-- The reading of an entry, when what follows is other entries. -/
theorem pairsFrom_print (ht : Onward t) :
    ∃ b', pairsFrom b (e.print ++ t) = e.pair?.toList ++ pairsFrom b' t := by
  unfold pair?
  cases hvalue : e.value with
  | quoted cast mark nonempty valid quotes => exact ⟨some mark, e.pairsFrom_quoted hvalue⟩
  | ofClass path valid => exact e.pairsFrom_ofClass hvalue ht

end CastEntry

theorem pairsFrom_entries (entries : List CastEntry) (hclosing : Separates w) :
    pairsFrom b (entries.flatMap CastEntry.print ++ w) = entries.filterMap CastEntry.pair? := by
  induction entries generalizing b with
  | nil =>
    have hquiet : Quiet castPair b w := quiet_castPair hclosing.all_not_isQuote
    unfold pairsFrom
    rw [List.flatMap_nil, List.nil_append, allFrom_of_quiet hquiet]
    rfl
  | cons e rest ih =>
    obtain ⟨b', hread⟩ := e.pairsFrom_print (b := b) (onward_entries rest hclosing)
    rw [List.flatMap_cons, List.append_assoc, hread, ih, List.filterMap_cons]
    cases e.pair? <;> rfl

/-! ## Maps -/

/-- A map of casts as it may be written down. -/
structure CastMap where
  entries : List CastEntry
  closing : Text := []
  separates : Separates closing

namespace CastMap

variable (casts : CastMap)

def content : Text := casts.entries.flatMap CastEntry.print ++ casts.closing

def print : Text := '[' :: (casts.content ++ [']'])

/-- The fields that are cast by a quoted text, with their casts. -/
def pairs : List (Text × Text) := casts.entries.filterMap CastEntry.pair?

theorem not_mem_content (hc : isMapLetter c = false) : c ∉ casts.content := by
  intro hmem
  have hletter : isMapLetter c = true := by
    rcases List.mem_append.mp hmem with hmem | hmem
    · obtain ⟨e, -, hprint⟩ := List.mem_flatMap.mp hmem
      exact e.isMapLetter_of_mem c hprint
    · exact casts.separates.isMapLetter_of_mem hmem
  rw [hc] at hletter
  exact absurd hletter (by simp)

theorem bracket_not_mem_content : ']' ∉ casts.content := casts.not_mem_content (by decide)

end CastMap

/-- A map of casts in a property. -/
structure CastsProperty where
  head : PropertyHead
  casts : CastMap
  named : head.name = "$casts".toList

def CastsProperty.print (p : CastsProperty) : Text := p.head.print ++ p.casts.print

/-- A map of casts that a method returns. -/
structure CastsMethod where
  head : CastsMethodHead
  casts : CastMap

def CastsMethod.print (m : CastsMethod) : Text := m.head.print ++ m.casts.print

theorem casts_of_search? {source : Text} {m : Match} {casts : CastMap}
    (h : (castsProperty.search? source <|> castsMethod.search? source) = some m)
    (htext : m.text 0 = casts.content) : Model.casts source = casts.pairs := by
  unfold Model.casts
  rw [h]
  dsimp only
  rw [htext]
  exact pairsFrom_entries casts.entries casts.separates

namespace CastsMethod

variable (m : CastsMethod)

theorem dollar_not_mem_head : '$' ∉ m.head.print := by
  have hreturned : '$' ∉ m.head.printReturned := by
    have hblank := m.head.blankReturned
    unfold CastsMethodHead.printReturned
    cases hgaps : m.head.returned with
    | none => exact List.not_mem_nil
    | some gaps =>
      obtain ⟨hcolon, htype⟩ := hblank gaps hgaps
      simp only [List.mem_append, not_or]
      exact ⟨by decide, hcolon.not_mem (by decide), by decide, htype.not_mem (by decide)⟩
  unfold CastsMethodHead.print
  simp only [List.mem_append, not_or]
  exact ⟨by decide, m.head.blankAfterKeyword.not_mem (by decide), by decide,
    m.head.blankAfterName.not_mem (by decide), by decide, m.head.blankInside.not_mem (by decide),
    by decide, m.head.blankAfterParameters.not_mem (by decide), hreturned, by decide,
    m.head.blankAfterBrace.not_mem (by decide), by decide, m.head.blankAfterReturn.not_mem (by decide)⟩

theorem dollar_not_mem_print : '$' ∉ m.print := by
  have hcontent : '$' ∉ m.casts.content := m.casts.not_mem_content (by decide)
  rw [print, List.mem_append, not_or]
  refine ⟨m.dollar_not_mem_head, ?_⟩
  simp only [CastMap.print, List.mem_cons, List.mem_append, List.not_mem_nil, or_false, not_or]
  exact ⟨by decide, hcontent, by decide⟩

/-- The method does not have the name of the property in it, nor at its ends. -/
theorem not_infix_around {before behind : Text} (hbefore : ¬ "$casts".toList <:+: before)
    (hbehind : ¬ "$casts".toList <:+: behind) :
    ¬ "$casts".toList <:+: before ++ (m.print ++ behind) := by
  intro h
  obtain ⟨rest, hrest⟩ : ∃ rest, m.print ++ behind = 'f' :: rest := by
    obtain ⟨rest, hhead⟩ : ∃ rest, m.head.print = 'f' :: rest := ⟨_, rfl⟩
    refine ⟨rest ++ (m.casts.print ++ behind), ?_⟩
    rw [print, hhead, List.append_assoc, List.cons_append]
  rw [hrest] at h
  rcases Text.infix_append_cons h (by decide) with h | h
  · exact hbefore h
  · rw [← hrest] at h
    exact not_infix_append_of_not_mem m.dollar_not_mem_print hbehind h

end CastsMethod

theorem casts_of_property (p : CastsProperty) {before : Text} (hbefore : ¬ "$casts".toList <:+: before)
    (behind : Text) : casts (before ++ (p.print ++ behind)) = p.casts.pairs := by
  have hname : ¬ p.head.name <:+: before := by
    rw [p.named]
    exact hbefore
  have hp : 'p' ∉ p.head.name := by
    rw [p.named]
    decide
  obtain ⟨m, hfound, htext⟩ :=
    p.head.search?_array (z := behind) hp hname p.casts.bracket_not_mem_content
  have hsearch : castsProperty.search? (before ++ (p.print ++ behind)) = some m := by
    rw [p.named] at hfound
    unfold CastsProperty.print CastMap.print
    simp only [List.append_assoc, List.cons_append, List.nil_append]
    exact hfound
  exact casts_of_search? (by rw [hsearch]; rfl) htext

theorem casts_of_method (m : CastsMethod) {before behind : Text} (hbefore : ¬ "casts".toList <:+: before)
    (hbehind : ¬ "$casts".toList <:+: behind) :
    casts (before ++ (m.print ++ behind)) = m.casts.pairs := by
  have hdollar : ¬ "$casts".toList <:+: before := by
    intro h
    exact hbefore ((List.suffix_cons '$' "casts".toList).isInfix.trans h)
  have hno : castsProperty.search? (before ++ (m.print ++ behind)) = none :=
    PropertyHead.search?_property_eq_none (m.not_infix_around hdollar hbehind)
  obtain ⟨found, hfound, htext⟩ :=
    m.head.search?_array (z := behind) hbefore m.casts.bracket_not_mem_content
  have hsearch : castsMethod.search? (before ++ (m.print ++ behind)) = some found := by
    unfold CastsMethod.print CastMap.print
    simp only [List.append_assoc, List.cons_append, List.nil_append]
    exact hfound
  exact casts_of_search? (by rw [hno, hsearch]; rfl) htext

/-- **Reading a map of casts undoes writing it**, whether it stands in a property or is returned by a
    method. Where both are there the property alone counts, whichever comes first. -/
theorem casts_written :
    (∀ (p : CastsProperty) (before behind : Text), ¬ "$casts".toList <:+: before →
        casts (before ++ (p.print ++ behind)) = p.casts.pairs)
      ∧ (∀ (m : CastsMethod) (before behind : Text), ¬ "casts".toList <:+: before →
          ¬ "$casts".toList <:+: behind → casts (before ++ (m.print ++ behind)) = m.casts.pairs)
      ∧ ∀ (p : CastsProperty) (m : CastsMethod) (before between behind : Text),
          ¬ "$casts".toList <:+: before →
          casts (before ++ (p.print ++ (between ++ (m.print ++ behind)))) = p.casts.pairs
            ∧ (¬ "$casts".toList <:+: between →
              casts (before ++ (m.print ++ (between ++ (p.print ++ behind)))) = p.casts.pairs) := by
  refine ⟨?property, ?method, ?both⟩
  case property =>
    intro p before behind hbefore
    exact casts_of_property p hbefore behind
  case method =>
    intro m before behind hbefore hbehind
    exact casts_of_method m hbefore hbehind
  case both =>
    intro p m before between behind hbefore
    refine ⟨casts_of_property p hbefore _, fun hbetween => ?_⟩
    have hsplit : before ++ (m.print ++ (between ++ (p.print ++ behind)))
        = (before ++ (m.print ++ between)) ++ (p.print ++ behind) := by
      simp only [List.append_assoc]
    rw [hsplit]
    exact casts_of_property p (m.not_infix_around hbefore hbetween) behind

/-- Two fields with quoted casts, and one between them that is cast to a class. -/
def mixedCasts : CastMap where
  entries := [
    { field := "is_admin"
      value := .quoted "boolean" '\'' (by decide) (List.all_eq_true.mp (by decide)) isQuote_single
      separator := "\n    "
      nonempty := by decide
      word := List.all_eq_true.mp (by decide)
      quotes := isQuote_single
      separates := by decide
      blankBeforeArrow := allBlank_space
      blankAfterArrow := allBlank_space },
    { field := "options"
      value := .ofClass "\\App\\Casts\\Options" (List.all_eq_true.mp (by decide))
      mark := '"'
      separator := ","
      beforeArrow := []
      nonempty := by decide
      word := List.all_eq_true.mp (by decide)
      quotes := isQuote_double
      separates := by decide
      blankBeforeArrow := allBlank_nil
      blankAfterArrow := allBlank_space },
    { field := "price"
      value := .quoted "decimal:2" '"' (by decide) (List.all_eq_true.mp (by decide)) isQuote_double
      separator := ",\n    "
      afterArrow := "\t"
      nonempty := by decide
      word := List.all_eq_true.mp (by decide)
      quotes := isQuote_single
      separates := by decide
      blankBeforeArrow := allBlank_space
      blankAfterArrow := allBlank_tab }]
  closing := ",\n"
  separates := separates_comma_line

def castsPropertyOf (casts : CastMap) : CastsProperty where
  head := {
    name := "$casts"
    named := by decide
    parted := space_ne_nil
    blankAfterKeyword := allBlank_space
    blankAfterName := allBlank_space
    blankAfterEquals := allBlank_space }
  casts := casts
  named := rfl

def castsMethodOf (casts : CastMap) : CastsMethod where
  head := {
    returned := some (" ", "\n")
    afterParameters := []
    parted := space_ne_nil
    blankReturned := fun gaps hgaps => Option.mem_some.mp hgaps ▸ ⟨allBlank_space, by decide⟩
    blankAfterKeyword := allBlank_space
    blankAfterName := allBlank_nil
    blankInside := allBlank_nil
    blankAfterParameters := allBlank_nil
    blankAfterBrace := allBlank_space
    blankAfterReturn := allBlank_space }
  casts := casts

/-- In either form the class is passed over, and with an empty map in the property nothing is read. -/
theorem casts_written_mixed :
    casts ("<?php ".toList ++ ((castsPropertyOf mixedCasts).print ++ "; // casts".toList))
        = [("is_admin".toList, "boolean".toList), ("price".toList, "decimal:2".toList)]
      ∧ casts ("<?php ".toList ++ ((castsMethodOf mixedCasts).print ++ "; \x7d // casts".toList))
        = [("is_admin".toList, "boolean".toList), ("price".toList, "decimal:2".toList)]
      ∧ casts ("<?php ".toList ++ ((castsMethodOf mixedCasts).print ++ ("; \x7d ".toList
          ++ ((castsPropertyOf ⟨[], [], by decide⟩).print ++ ";".toList)))) = [] := by
  obtain ⟨hproperty, hmethod, hboth⟩ := casts_written
  have hno : ∀ t : Text, '$' ∉ t → ¬ "$casts".toList <:+: t :=
    fun t ht h => ht (h.subset List.mem_cons_self)
  refine ⟨hproperty _ _ _ (hno _ (by decide)), hmethod _ _ _ ?_ (hno _ (by decide)),
    (hboth _ _ _ _ _ (hno _ (by decide))).2 (hno _ (by decide))⟩
  exact mt (Text.occursIn_iff_infix _ _).mpr (by decide)

end Model
end EntityDiagram
