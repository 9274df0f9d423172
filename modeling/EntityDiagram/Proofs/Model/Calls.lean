import EntityDiagram.Proofs.Model.ReadingRelations

/-!
# The edge of an accessor with one call

What an accessor declares is decided by two words of its body, the method that it calls on the model
and the class that it calls it with. This module says so for accessors that make one such call, in any
layout and with any other text around it (`SingleCall`). The method is taken as a whole: a method
that is not a builder gives no edge, however its name begins (`relationships_singleCall`).

There are two ways for it to go wrong. Some text of the accessor might be taken for another header or
for the keyword that ends the body, and as a part of a name the keyword may well be there. But a header
has a name behind its keyword, where there is a parenthesis or the end of the argument here, and where
the keyword is a word of its own it is the method called, which is then no builder. And a name might be
taken for one that it only begins with. But behind a builder's name a call has a parenthesis, and
behind its beginning there is the rest of the name.
-/

namespace EntityDiagram
namespace Model

open Pattern

variable {b : Option Char} {a s z : Text} {x : Char}

/-! ## Text that has no header in it -/

/-- A header has a name behind its keyword. Where there is a mark instead, there is no header. -/
theorem quiet_accessorHeader_marked (ha : ∀ y ∈ a, Text.isBlank y = false) (hs : AllBlank s)
    (hword : Text.isWord x = false) (hblank : Text.isBlank x = false) :
    Quiet accessorHeader b (a ++ (s ++ [x])) := by
  have hfree : free "function".toList (s ++ [x]) = true := by
    refine free_of_not_mem (x := 'f') (w := "unction".toList) ?_
    rw [List.mem_append, not_or, List.mem_singleton]
    refine ⟨hs.not_mem (by decide), ?_⟩
    rintro rfl
    exact absurd hword (by decide)
  cases s with
  | nil =>
    exact keywordShape_accessorHeader.quiet_dense_append ha (by simp [hword, hblank]) hfree
  | cons y s =>
    refine keywordShape_accessorHeader.quiet_before_blank ha (hs y List.mem_cons_self) ?_ hfree
    intro b z found
    refine Classical.byContradiction fun hne => ?_
    obtain ⟨_, t, heq, hcovers⟩ := covers_of_runs hne
    obtain ⟨head, rfl⟩ := exists_head_of_covers hcovers
    obtain ⟨c, w, hname, hc, -⟩ := head.named
    rw [head.print_append, hname, List.append_assoc] at heq
    have hrest : y :: s ++ x :: z = head.afterKeyword ++ (c :: w ++ (head.behindName ++ t)) :=
      List.append_cancel_left heq
    have hmark : Stops Text.isBlank (x :: z) := hblank
    have hstart : Stops Text.isBlank (c :: w ++ (head.behindName ++ t)) :=
      Text.not_isBlank_of_isIdentifierStart hc
    have hsame : y :: s = head.afterKeyword :=
      eq_of_append_stops Text.isBlank hs head.blankAfterKeyword hmark hstart hrest
    rw [hsame] at hrest
    obtain rfl : x = c := (List.cons.inj (List.append_cancel_left hrest)).1
    rw [Text.isWord_of_isIdentifierStart hc] at hword
    exact absurd hword (by simp)

/-! ## Accessors with one call -/

/-- An accessor that calls one method on the model itself, in whatever layout. The texts before the
    call and behind it have neither the word for the model nor the keyword in them. -/
structure SingleCall where
  head : AccessorHead
  method : Identifier
  argument : ClassArgument
  before : Text := []
  after : Text := []
  closing : Char := ')'
  afterThis : Text := []
  afterArrow : Text := []
  afterMethod : Text := []
  beforeArgument : Text := []
  afterArgument : Text := []
  closes : closing = ',' ∨ closing = ')'
  noThisBefore : ¬ "$this".toList <:+: before
  noThisAfter : ¬ "$this".toList <:+: after
  noKeywordBefore : ¬ "function".toList <:+: before
  noKeywordAfter : ¬ "function".toList <:+: after
  blankAfterThis : AllBlank afterThis
  blankAfterArrow : AllBlank afterArrow
  blankAfterMethod : AllBlank afterMethod
  blankBeforeArgument : AllBlank beforeArgument
  blankAfterArgument : AllBlank afterArgument

namespace SingleCall

variable (c : SingleCall)

/-- What stands between the word for the model and the method. -/
def toMethod : Text := c.afterThis ++ ("->".toList ++ c.afterArrow)

/-- What stands between the method and the text behind the call. -/
def toAfter : Text :=
  c.afterMethod ++ ("(".toList ++ (c.beforeArgument ++ (c.argument.print ++ (c.afterArgument
    ++ [c.closing]))))

def body : Text :=
  c.before ++ ("$this".toList ++ (c.toMethod ++ (c.method.text ++ (c.toAfter ++ c.after))))

def print : Text := c.head.print ++ c.body

theorem this_eq : "$this".toList = '$' :: "this".toList := rfl

theorem paren_eq : "(".toList = ['('] := rfl

theorem not_isWord_closing : Text.isWord c.closing = false := by
  rcases c.closes with h | h <;> rw [h] <;> decide

theorem not_isBlank_closing : Text.isBlank c.closing = false := by
  rcases c.closes with h | h <;> rw [h] <;> decide

theorem not_mem_toMethod (hblank : Text.isBlank x = false) (hx : x ∉ "->".toList) :
    x ∉ c.toMethod := by
  simp only [toMethod, List.mem_append, not_or]
  exact ⟨c.blankAfterThis.not_mem hblank, hx, c.blankAfterArrow.not_mem hblank⟩

/-! ## One accessor -/

theorem allFrom_body : accessorHeader.allFrom 0 b c.body = [] := by
  have hsplit : c.body = (c.before ++ ['$']) ++ (("this".toList ++ c.toMethod)
      ++ ((c.method.text ++ (c.afterMethod ++ ['('])) ++ (c.beforeArgument
        ++ ((c.argument.print ++ (c.afterArgument ++ [c.closing])) ++ c.after)))) := by
    simp only [body, toAfter, this_eq, paren_eq, List.append_assoc, List.cons_append,
      List.nil_append]
  have hbegins : accessorHeader.Begins ('f' :: "unction".toList) := keywordShape_accessorHeader.begins
  have hbefore : ∀ b, Quiet accessorHeader b (c.before ++ ['$']) :=
    fun b => quiet_of_absent hbegins c.noKeywordBefore (by decide)
  have htoMethod : ∀ b, Quiet accessorHeader b ("this".toList ++ c.toMethod) := by
    intro b
    apply quiet_of_not_mem hbegins
    rw [List.mem_append, not_or]
    exact ⟨by decide, c.not_mem_toMethod (by decide) (by decide)⟩
  have hmethod : ∀ b, Quiet accessorHeader b (c.method.text ++ (c.afterMethod ++ ['('])) :=
    fun b => quiet_accessorHeader_marked c.method.not_isBlank_of_mem c.blankAfterMethod (by decide)
      (by decide)
  have hblanks : ∀ b, Quiet accessorHeader b c.beforeArgument :=
    fun b => quiet_of_not_mem hbegins (c.blankBeforeArgument.not_mem (by decide))
  have hargument : ∀ b, Quiet accessorHeader b
      (c.argument.print ++ (c.afterArgument ++ [c.closing])) :=
    fun b => quiet_accessorHeader_marked c.argument.not_isBlank_of_mem c.blankAfterArgument
      c.not_isWord_closing c.not_isBlank_closing
  rw [hsplit, allFrom_append (hbefore _), allFrom_append (htoMethod _), allFrom_append (hmethod _),
    allFrom_append (hblanks _), allFrom_append (hargument _)]
  exact allFrom_of_absent hbegins c.noKeywordAfter

theorem accessors_print :
    accessors c.print = [⟨c.head.name, bodyAfter (c.head.matched none c.body)⟩] := by
  unfold accessors all print
  rw [c.head.allFrom_print, allFrom_body, List.map_cons, List.map_nil, c.head.text_matched]

/-! ## The edge of a builder -/

theorem quiet_functionKeyword_path (r : ClassArgument)
    (hz : z.head?.any (!Text.isWord ·) = true) (hno : 'f' ∉ z) :
    Quiet functionKeyword b (r.path ++ z) := by
  have hquiet : ∀ {b}, Quiet functionKeyword b z :=
    fun {b} => quiet_of_not_mem begins_functionKeyword hno
  unfold ClassArgument.path
  split
  · exact quiet_reference r.reference.noKeyword hz hquiet
  · have hsegments : ∀ segment ∈ r.reference.namespaces ++ [r.reference.name],
        segment.text ≠ "function".toList := r.reference.noKeyword
    unfold ClassReference.print
    cases hlist : r.reference.namespaces ++ [r.reference.name] with
    | nil => exact absurd hlist (by simp)
    | cons first others =>
      -- The first segment has no backslash before it, but it is a word all the same.
      rw [hlist] at hsegments
      obtain ⟨hfirst, hothers⟩ := List.forall_mem_cons.mp hsegments
      have hmark : ((others.flatMap fun segment => '\\' :: segment.text) ++ z).head?.any
          (!Text.isWord ·) = true := by
        cases others with
        | nil => exact hz
        | cons other rest => rfl
      show Quiet functionKeyword b ((first.text ++ others.flatMap _) ++ z)
      rw [List.append_assoc]
      exact quiet_other_word first.isWord_of_mem hfirst hmark (quiet_reference hothers hz hquiet)

/-- In a builder's accessor the keyword does not occur as a word, so the body goes to the end. -/
theorem searchFrom?_functionKeyword_body {builder : Builder} (h : c.method.text = builder.method) :
    functionKeyword.searchFrom? b c.body = none := by
  have hsplit : c.body = (c.before ++ ['$']) ++ (("this".toList ++ (c.toMethod ++ (c.method.text
      ++ (c.afterMethod ++ ("(".toList ++ (c.beforeArgument ++ c.argument.form.opening))))))
        ++ ((c.argument.path ++ (c.argument.form.closing ++ (c.afterArgument ++ [c.closing])))
          ++ c.after)) := by
    simp only [body, toAfter, ClassArgument.print, this_eq, List.append_assoc, List.cons_append,
      List.nil_append]
  have hmiddle : 'f' ∉ "this".toList ++ (c.toMethod ++ (c.method.text ++ (c.afterMethod
      ++ ("(".toList ++ (c.beforeArgument ++ c.argument.form.opening))))) := by
    simp only [List.mem_append, not_or, h]
    refine ⟨by decide, c.not_mem_toMethod (by decide) (by decide), ?_,
      c.blankAfterMethod.not_mem (by decide), by decide, c.blankBeforeArgument.not_mem (by decide), ?_⟩
    · cases builder <;> decide
    · cases c.argument.form <;> decide
  have hmark : (c.argument.form.closing ++ (c.afterArgument ++ [c.closing])).head?.any
      (!Text.isWord ·) = true := by
    cases c.argument.form with
    | bare =>
      have hclosing : Stops Text.isWord [c.closing] := c.not_isWord_closing
      have hstops : Stops Text.isWord (c.afterArgument ++ [c.closing]) :=
        c.blankAfterArgument.stops_isWord hclosing
      show (c.afterArgument ++ [c.closing]).head?.any (!Text.isWord ·) = true
      cases hend : c.afterArgument ++ [c.closing] with
      | nil => exact absurd hend (by simp)
      | cons x t =>
        rw [hend] at hstops
        have hx : Text.isWord x = false := hstops
        rw [List.head?_cons, Option.any_some, hx]
        rfl
    | constant => rfl
    | singleQuoted => rfl
    | doubleQuoted => rfl
  have hbehind : 'f' ∉ c.argument.form.closing ++ (c.afterArgument ++ [c.closing]) := by
    simp only [List.mem_append, List.mem_singleton, not_or]
    refine ⟨?_, c.blankAfterArgument.not_mem (by decide), ?_⟩
    · cases c.argument.form <;> decide
    · rintro heq
      have hclosing := c.not_isWord_closing
      rw [← heq] at hclosing
      exact absurd hclosing (by decide)
  rw [hsplit, searchFrom?_append (quiet_of_absent begins_functionKeyword c.noKeywordBefore
      (by decide)), searchFrom?_append (quiet_of_not_mem begins_functionKeyword hmiddle),
    searchFrom?_append (quiet_functionKeyword_path c.argument hmark hbehind)]
  exact searchFrom?_of_absent begins_functionKeyword c.noKeywordAfter

theorem not_mem_toAfter : '$' ∉ c.toAfter := by
  have hargument : '$' ∉ c.argument.print := by
    simp only [ClassArgument.print, List.mem_append, not_or]
    refine ⟨?_, c.argument.not_mem_path (by decide) (by decide), ?_⟩ <;>
      cases c.argument.form <;> decide
  have hclosing : '$' ≠ c.closing := by
    rcases c.closes with h | h <;> rw [h] <;> decide
  simp only [toAfter, List.mem_append, List.mem_singleton, not_or]
  exact ⟨c.blankAfterMethod.not_mem (by decide), by decide, c.blankBeforeArgument.not_mem (by decide),
    hargument, c.blankAfterArgument.not_mem (by decide), hclosing⟩

/-- The word for the model occurs in the body at one place. -/
theorem eq_before {v y : Text} (h : c.body = v ++ ("$this".toList ++ y)) : c.before = v := by
  have hrest : ¬ '$' :: "this".toList <:+: (c.toMethod ++ (c.method.text ++ c.toAfter)) ++ c.after := by
    refine not_infix_append_of_not_mem ?_ c.noThisAfter
    simp only [List.mem_append, not_or]
    exact ⟨c.not_mem_toMethod (by decide) (by decide), c.method.not_mem (by decide),
      c.not_mem_toAfter⟩
  have hbody : c.before ++ ("$this".toList ++ ((c.toMethod ++ (c.method.text ++ c.toAfter)) ++ c.after))
      = v ++ ("$this".toList ++ y) := by
    rw [← h, body]
    simp only [List.append_assoc]
  exact eq_of_occurs_once (x := '$') (w := "this".toList) (by decide) c.noThisBefore hrest hbody

/-- What stands in the parentheses, as far as it is read. -/
def given : Text := c.beforeArgument ++ (c.argument.print ++ c.afterArgument)

theorem opensCall : OpensCall ("$this".toList ++ (c.toMethod ++ (c.method.text ++ (c.toAfter ++ c.after))))
    c.method.text (c.given ++ c.closing :: c.after) := by
  refine ⟨c.afterThis, c.afterArrow, c.afterMethod, c.blankAfterThis, c.blankAfterArrow,
    c.blankAfterMethod, ?_⟩
  simp only [toMethod, toAfter, given, List.append_assoc, List.cons_append, List.nil_append]

theorem call?_builder {builder : Builder} (h : c.method.text = builder.method) :
    Accessor.call? ⟨c.head.name, c.body⟩
      = some ⟨c.head.name, builder, c.argument.reference.name.text⟩ := by
  have hargument : ∀ y ∈ c.given, isArgumentCharacter y = true := by
    intro y hy
    simp only [given, List.mem_append] at hy
    rcases hy with hy | hy | hy
    · exact isArgumentCharacter_of_isBlank (c.blankBeforeArgument y hy)
    · exact c.argument.isArgumentCharacter_of_mem y hy
    · exact isArgumentCharacter_of_isBlank (c.blankAfterArgument y hy)
  have hne : c.given ≠ [] := by
    simp [given, c.argument.print_ne_nil]
  have hstops : Stops isArgumentCharacter (c.closing :: c.after) := by
    rcases c.closes with h | h <;> rw [h] <;> rfl
  have hopens := c.opensCall
  rw [h] at hopens
  have hbegins := beginsCall_of_opensCall hopens hargument hne hstops
  rw [← h] at hbegins
  refine call?_eq_some_iff.mpr ⟨builder, c.given, ⟨c.before, _, rfl, hbegins, ?_⟩, ?_⟩
  · intro v w heq hlt other argument hother
    obtain ⟨y, rfl⟩ := exists_of_beginsCall hother
    have heq' : c.body = v ++ ("$this".toList ++ y) := heq
    rw [c.eq_before heq'] at hlt
    exact absurd hlt (Nat.lt_irrefl _)
  · have hbasename : Naming.classBasename c.given = c.argument.reference.name.text := by
      unfold given
      rw [Naming.classBasename_blank_append c.blankBeforeArgument,
        c.argument.classBasename_print c.blankAfterArgument]
    rw [hbasename]

/-! ## No edge of any other method -/

/-- What is found at the call is that the method is a builder, so if it is none nothing is found,
    wherever the body ends. -/
theorem call?_eq_none_of_not_builder {body : Text} (hbody : body <+: c.body)
    (h : ∀ builder : Builder, c.method.text ≠ builder.method) (name : Text) :
    Accessor.call? ⟨name, body⟩ = none := by
  refine Option.eq_none_iff_forall_ne_some.mpr fun call hcall => ?_
  obtain ⟨builder, argument, ⟨v, w, rfl, hbegins, -⟩, -⟩ := call?_eq_some_iff.mp hcall
  obtain ⟨q, hq⟩ := hbody
  obtain ⟨y, rfl⟩ := exists_of_beginsCall hbegins
  obtain ⟨t, hopens, -⟩ := hbegins
  have hwhole : c.body = v ++ ("$this".toList ++ (y ++ q)) := by
    rw [← hq]
    simp only [List.append_assoc]
  obtain rfl := c.eq_before hwhole
  -- Both are readings of the one call, so they agree in the method.
  have hsame : ("$this".toList ++ y) ++ q
      = "$this".toList ++ (c.toMethod ++ (c.method.text ++ (c.toAfter ++ c.after))) := by
    rw [List.append_assoc]
    exact List.append_cancel_left hwhole.symm
  have hother := hopens.append q
  rw [hsame] at hother
  exact h builder (c.opensCall.unique hother c.method.isWord_of_mem c.method.ne_nil
    builder.isWord_of_mem_method builder.method_ne_nil).1

/-! ## The edge -/

theorem relationships_of_call {call : Option RelationCall}
    (h : Accessor.call? ⟨c.head.name, bodyAfter (c.head.matched none c.body)⟩ = call) (model : Text) :
    relationships model c.print = (call.bind (·.relationship? model)).toList := by
  unfold relationships relationCalls
  rw [c.accessors_print, List.filterMap_cons, h]
  cases call with
  | none => rfl
  | some call =>
    dsimp only
    rw [List.filterMap_nil, List.filterMap_cons]
    show _ = (call.relationship? model).toList
    cases call.relationship? model <;> rfl

end SingleCall

/-- **The edge of an accessor with one call.** If the method called is a builder, there is the edge of
    this builder to the last segment of the reference. If it is none, there is no edge. -/
theorem relationships_singleCall (model : Text) (c : SingleCall) :
    (∀ builder : Builder, c.method.text = builder.method →
        relationships model c.print = [⟨model, c.argument.reference.name.text, c.head.name,
          builder.cardinality.code, builder.description⟩])
      ∧ ((∀ builder : Builder, c.method.text ≠ builder.method) →
        relationships model c.print = []) := by
  constructor
  · intro builder h
    have hbody : bodyAfter (c.head.matched none c.body) = c.body := by
      have hno : functionKeyword.searchAt? (c.head.matched none c.body).stop = none :=
        c.searchFrom?_functionKeyword_body h
      unfold bodyAfter
      rw [hno]
      rfl
    have hne : c.argument.reference.name.text.isEmpty = false := by
      rw [List.isEmpty_eq_false_iff]
      exact c.argument.reference.name.ne_nil
    have hcall : Accessor.call? ⟨c.head.name, bodyAfter (c.head.matched none c.body)⟩
        = some ⟨c.head.name, builder, c.argument.reference.name.text⟩ := by
      rw [hbody]
      exact c.call?_builder h
    rw [c.relationships_of_call hcall, Option.bind_some]
    unfold RelationCall.relationship?
    dsimp only
    rw [hne]
    rfl
  · intro h
    have hbody : bodyAfter (c.head.matched none c.body) <+: c.body := by
      refine bodyAfter_isPrefix (b := some '\x7b') (t := []) ?_ (.inl rfl)
      rw [List.append_nil]
      rfl
    have hcall : Accessor.call? ⟨c.head.name, bodyAfter (c.head.matched none c.body)⟩ = none :=
      c.call?_eq_none_of_not_builder hbody h c.head.name
    rw [c.relationships_of_call hcall]
    rfl

/-- An accessor that calls the method, in a layout with white space in every place. -/
def spacious (method : Identifier) : SingleCall where
  head := {
    name := "posts"
    returned := some ⟨"\\Shop\\Posts", true, " ", " ", by decide, List.all_eq_true.mp (by decide),
      allBlank_space, allBlank_space⟩
    afterKeyword := "\n  "
    afterName := " "
    inside := "\t"
    beforeBrace := "\n"
    named := ⟨'p', "osts".toList, rfl, by decide, List.all_eq_true.mp (by decide)⟩
    parted := by decide
    blankAfterKeyword := by decide
    blankAfterName := allBlank_space
    blankInside := allBlank_tab
    blankBeforeBrace := by decide }
  method := method
  argument := ⟨⟨[⟨"Shop", rfl⟩, ⟨"functional", rfl⟩], ⟨"Post", rfl⟩, by decide⟩, true, .constant⟩
  before := " // $thi, functio\n return "
  after := " 'user_id') -> latest(); \x7d"
  closing := ','
  afterThis := " "
  afterArrow := "\n  "
  afterMethod := " "
  beforeArgument := "\n    "
  afterArgument := " "
  closes := .inl rfl
  noThisBefore := mt (Text.occursIn_iff_infix _ _).mpr (by decide)
  noThisAfter := mt (Text.occursIn_iff_infix _ _).mpr (by decide)
  noKeywordBefore := mt (Text.occursIn_iff_infix _ _).mpr (by decide)
  noKeywordAfter := mt (Text.occursIn_iff_infix _ _).mpr (by decide)
  blankAfterThis := allBlank_space
  blankAfterArrow := by decide
  blankAfterMethod := allBlank_space
  blankBeforeArgument := allBlank_indent
  blankAfterArgument := allBlank_space

theorem relationships_singleCall_spacious :
    relationships "User" (spacious ⟨"hasMany", rfl⟩).print
        = [⟨"User", "Post", "posts", "1-N", some "has many"⟩]
      ∧ relationships "User" (spacious ⟨"hasManyThrough", rfl⟩).print
        = [⟨"User", "Post", "posts", "N-N", none⟩]
      ∧ relationships "User" (spacious ⟨"hasOneThrough", rfl⟩).print = [] := by
  refine ⟨?_, ?_, ?_⟩
  · exact (relationships_singleCall "User" (spacious ⟨"hasMany", rfl⟩)).1 .hasMany rfl
  · exact (relationships_singleCall "User" (spacious ⟨"hasManyThrough", rfl⟩)).1 .hasManyThrough rfl
  · refine (relationships_singleCall "User" (spacious ⟨"hasOneThrough", rfl⟩)).2 fun builder => ?_
    cases builder <;> decide

end Model
end EntityDiagram
