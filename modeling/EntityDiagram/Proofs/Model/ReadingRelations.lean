import EntityDiagram.Proofs.Model.FirstCalls
import EntityDiagram.Proofs.Model.Properties

/-!
# The relationships read from a printed file

Scanning credits to a header the first call before the next keyword `function`. So what there is to
show is that in a printed file the next such keyword is the one of the next accessor. Names are no
danger there, except for the segments of the class reference, which stand between marks that are no
part of a word, so that the keyword would be a word there too. This is where a description says that
none of them is the keyword.

The method that returns the casts has a header like those of accessors. It gets a body that depends on
its entries, for a field may well be named `function`; but whatever the body is, it has no dollar sign
in it, and so no call.
-/

namespace EntityDiagram
namespace Model

open Pattern

variable {a v t z : Text} {b : Option Char} {m : Match}

/-! ## The keyword as a word -/

theorem runs_functionKeyword {found : Captures} (hb : b.any Text.isWord = false)
    (hz : Stops Text.isWord z) :
    functionKeyword.runs ⟨b, "function".toList ++ z⟩ found = [(⟨some 'n', z⟩, found)] := by
  have hbefore : (⟨b, "function".toList ++ z⟩ : Cursor).atWordEdge = true := by
    rw [show "function".toList ++ z = 'f' :: ("unction".toList ++ z) from rfl,
      atWordEdge_before (by decide), hb]
    rfl
  have hbehind : (⟨some 'n', z⟩ : Cursor).atWordEdge = true := by
    rw [atWordEdge_behind (by decide), hz]
    rfl
  unfold functionKeyword
  rw [runs_append_assoc, runs_wordEdge_append, if_pos hbefore, runs_literal_append, runs]
  exact if_pos hbehind

/-- Where the keyword is found, it stands, and it stands as a word. -/
theorem word_of_runs_functionKeyword {found : Captures}
    (h : functionKeyword.runs ⟨b, t⟩ found ≠ []) :
    b.any Text.isWord = false ∧ ∃ z, t = "function".toList ++ z ∧ Stops Text.isWord z := by
  obtain ⟨run, hrun⟩ := List.exists_mem_of_ne_nil _ h
  unfold functionKeyword at hrun
  simp only [runs_append_assoc, mem_runs_append] at hrun
  obtain ⟨_, hbefore, _, hkeyword, hbehind⟩ := hrun
  obtain ⟨hb, rfl⟩ := mem_runs_wordEdge.mp hbefore
  obtain ⟨z, rfl, rfl⟩ := mem_runs_literal.mp hkeyword
  obtain ⟨hz, -⟩ := mem_runs_wordEdge.mp hbehind
  rw [show "function".toList ++ z = 'f' :: ("unction".toList ++ z) from rfl,
    atWordEdge_before (by decide), Bool.not_eq_true'] at hb
  rw [show pass b "function".toList = some 'n' from rfl, atWordEdge_behind (by decide),
    Bool.not_eq_true'] at hz
  exact ⟨hb, z, rfl, hz⟩

theorem begins_functionKeyword : functionKeyword.Begins "function".toList := by
  intro b t found h
  obtain ⟨-, z, rfl, -⟩ := word_of_runs_functionKeyword h
  exact List.prefix_append _ z

/-- The keyword does not begin within a word. -/
theorem quiet_within_word {x : Char} (hx : Text.isWord x = true)
    (ha : ∀ y ∈ a, Text.isWord y = true) : Quiet functionKeyword (some x) a := by
  induction a generalizing x with
  | nil => exact quiet_nil
  | cons y a ih =>
    have hy := ha y List.mem_cons_self
    refine ⟨fun z found => ?_, ih hy fun u hu => ha u (List.mem_cons_of_mem y hu)⟩
    refine Classical.byContradiction fun hruns => ?_
    obtain ⟨hb, -⟩ := word_of_runs_functionKeyword hruns
    rw [Option.any_some, hx] at hb
    exact absurd hb (by simp)

/-- And it is not another word. -/
theorem quiet_other_word (ha : ∀ y ∈ a, Text.isWord y = true) (hne : a ≠ "function".toList)
    (hv : v.head?.any (!Text.isWord ·) = true) (hquiet : ∀ {b}, Quiet functionKeyword b v) :
    Quiet functionKeyword b (a ++ v) := by
  cases a with
  | nil => exact hquiet
  | cons x a =>
    have hx := ha x List.mem_cons_self
    have hwithin : Quiet functionKeyword (some x) (a ++ v) :=
      (quiet_within_word hx fun y hy => ha y (List.mem_cons_of_mem x hy)).append hquiet
    refine ⟨fun z found => ?_, hwithin⟩
    refine Classical.byContradiction fun hruns => hne ?_
    -- The keyword ends where a word ends, and so does the word before the mark.
    obtain ⟨-, y, heq, hstop⟩ := word_of_runs_functionKeyword hruns
    have hmark : Stops Text.isWord (v ++ z) := by
      cases v with
      | nil => simp at hv
      | cons c v => simpa [Stops] using hv
    have hsplit : x :: a ++ (v ++ z) = "function".toList ++ y := by
      rw [← heq]
      simp
    have hword : ∀ y ∈ "function".toList, Text.isWord y = true := List.all_eq_true.mp (by decide)
    exact eq_of_append_stops Text.isWord ha hword hmark hstop hsplit

theorem quiet_reference {segments : List Identifier}
    (h : ∀ segment ∈ segments, segment.text ≠ "function".toList)
    (hv : v.head?.any (!Text.isWord ·) = true) (hquiet : ∀ {b}, Quiet functionKeyword b v) :
    Quiet functionKeyword b ((segments.flatMap fun segment => '\\' :: segment.text) ++ v) := by
  induction segments generalizing b with
  | nil => exact hquiet
  | cons segment rest ih =>
    have hrest : ∀ {b}, Quiet functionKeyword b
        ((rest.flatMap fun segment => '\\' :: segment.text) ++ v) :=
      ih fun other hother => h other (List.mem_cons_of_mem segment hother)
    have hmark : ((rest.flatMap fun segment => '\\' :: segment.text) ++ v).head?.any
        (!Text.isWord ·) = true := by
      cases rest with
      | nil => exact hv
      | cons other rest => rfl
    have hslash : Quiet functionKeyword b ['\\'] :=
      quiet_of_free begins_functionKeyword (by decide)
    rw [List.flatMap_cons, List.append_assoc]
    apply hslash.append
    exact quiet_other_word segment.isWord_of_mem (h segment List.mem_cons_self) hmark hrest

/-! ## Bodies -/

theorem quiet_functionKeyword_body (r : Relation) : Quiet functionKeyword b r.body := by
  have hmethod : free "function".toList (r.builder.method ++ "(".toList) = true := by
    cases r.builder <;> decide
  unfold Relation.body
  apply Quiet.append (quiet_of_free begins_functionKeyword (by decide))
  rw [← List.append_assoc]
  apply Quiet.append (quiet_of_free begins_functionKeyword hmethod)
  apply quiet_reference r.target.noKeyword (by decide)
  intro b
  exact quiet_of_free begins_functionKeyword (by decide)

/-- The text ends here, or the keyword stands here. -/
def EndsBody (b : Option Char) (t : Text) : Prop :=
  t = [] ∨ ∃ next, functionKeyword.matchAt? ⟨b, t⟩ = some next

theorem bodyAfter_eq (hstop : m.stop = ⟨b, a ++ t⟩) (hquiet : Quiet functionKeyword b a)
    (hend : EndsBody (pass b a) t) : bodyAfter m = a := by
  have hsearch : functionKeyword.searchAt? m.stop = functionKeyword.searchFrom? (pass b a) t := by
    rw [hstop]
    exact searchFrom?_append hquiet
  unfold bodyAfter
  rw [hsearch]
  rcases hend with rfl | ⟨next, hnext⟩
  · have hno : functionKeyword.searchFrom? (pass b a) [] = none := by
      apply matchAt?_eq_none.mpr
      exact begins_functionKeyword.runs_eq_nil_of_nil
    rw [hno, hstop]
    exact List.append_nil a
  · rw [searchFrom?_of_match hnext]
    dsimp only
    rw [start_of_matchAt? hnext, hstop]
    exact Cursor.upTo_append b _ a t

/-- A body goes on to the first keyword, or to the end when there is none. -/
theorem bodyAfter_split (hstop : m.stop = ⟨b, z⟩) : ∃ y, z = bodyAfter m ++ y
    ∧ EndsBody (pass b (bodyAfter m)) y
    ∧ ∀ v w, z = v ++ w → v.length < (bodyAfter m).length →
        functionKeyword.matchAt? ⟨pass b v, w⟩ = none := by
  unfold bodyAfter
  rw [hstop]
  cases hsearch : functionKeyword.searchAt? ⟨b, z⟩ with
  | none =>
    have hnone := searchFrom?_eq_none.mp hsearch
    exact ⟨[], (List.append_nil z).symm, .inl rfl, fun v w heq _ => hnone v w heq⟩
  | some next =>
    obtain ⟨body, y, heq, hmatch, hbefore⟩ := searchFrom?_eq_some hsearch
    have hz : z = body ++ y := heq
    subst hz
    dsimp only
    rw [start_of_matchAt? hmatch, Cursor.upTo_append]
    exact ⟨y, rfl, .inr ⟨next, hmatch⟩, hbefore⟩

/-- Whatever is before the next keyword, a body does not go beyond. -/
theorem bodyAfter_isPrefix (hstop : m.stop = ⟨b, a ++ t⟩) (hend : EndsBody (pass b a) t) :
    bodyAfter m <+: a := by
  obtain ⟨y, heq, -, hfirst⟩ := bodyAfter_split hstop
  have hle : (bodyAfter m).length ≤ a.length := by
    refine Nat.le_of_not_lt fun hlt => ?_
    rcases hend with rfl | ⟨next, hnext⟩
    · have hlength := congrArg List.length heq
      simp only [List.length_append, List.length_nil] at hlength
      omega
    · -- The end that is known would be before the first one.
      rw [hfirst a t rfl hlt] at hnext
      exact absurd hnext (by simp)
  exact List.prefix_of_prefix_length_le ⟨y, heq.symm⟩ (List.prefix_append a t) hle

/-! ## Calls -/

theorem begins_builderCall : builderCall.Begins "$this".toList := by
  intro b t found h
  unfold builderCall at h
  simp only [runs_append_assoc] at h
  exact begins_literal_append h

theorem call?_eq_none (name : Text) (h : '$' ∉ a) : Accessor.call? ⟨name, a⟩ = none := by
  have hquiet : Quiet builderCall none a := quiet_of_not_mem begins_builderCall h
  have hno : builderCall.search? a = none :=
    searchFrom?_of_quiet hquiet begins_builderCall.runs_eq_nil_of_nil
  unfold Accessor.call?
  rw [hno]
  rfl

def Relation.call (r : Relation) : RelationCall := ⟨r.accessor.text, r.builder, r.target.name.text⟩

theorem call?_body (r : Relation) (s : Text) :
    Accessor.call? ⟨r.accessor.text, r.body ++ s⟩ = some r.call := by
  let argument : ClassArgument := ⟨r.target, true, .constant⟩
  let call := "$this".toList ++ ("->".toList ++ (r.builder.method ++ ("(".toList
    ++ (argument.print ++ (");\n    \x7d\n\n".toList ++ s)))))
  have hsplit : r.body ++ s = "\n        return ".toList ++ call := by
    show r.body ++ s = "\n        return ".toList ++ ("$this".toList ++ ("->".toList
      ++ (r.builder.method ++ ("(".toList ++ ((r.target.print ++ "::class".toList)
        ++ (");\n    \x7d\n\n".toList ++ s))))))
    unfold Relation.body
    simp only [List.append_assoc]
    rfl
  have hopens : OpensCall call r.builder.method (argument.print ++ (");\n    \x7d\n\n".toList ++ s)) :=
    ⟨[], [], [], allBlank_nil, allBlank_nil, allBlank_nil, rfl⟩
  have hbegins : BeginsCall call r.builder argument.print :=
    beginsCall_of_opensCall hopens argument.isArgumentCharacter_of_mem argument.print_ne_nil rfl
  refine call?_eq_some_iff.mpr ⟨r.builder, argument.print, ?_, ?_⟩
  · rw [hsplit]
    exact firstCall_of_not_mem (by decide) hbegins
  · have hbasename : Naming.classBasename argument.print = r.target.name.text :=
      r.target.classBasename_print
    rw [hbasename]
    rfl

/-! ## Accessors -/

/-- The header of an accessor in print. -/
def Relation.head (r : Relation) : AccessorHead where
  name := r.accessor.text
  beforeBrace := "\n    "
  named := r.accessor.isMethodName
  parted := space_ne_nil
  blankAfterKeyword := allBlank_space
  blankAfterName := allBlank_nil
  blankInside := allBlank_nil
  blankBeforeBrace := allBlank_indent

theorem Relation.print_head (r : Relation) :
    r.head.print = "function ".toList ++ (r.accessor.text ++ "()\n    \x7b".toList) := rfl

/-- The header of the method that returns the casts. -/
def castsHead : AccessorHead where
  name := "casts"
  returned := some ⟨"array", false, [], " ", by decide, List.all_eq_true.mp (by decide),
    allBlank_nil, allBlank_space⟩
  beforeBrace := "\n    "
  named := ⟨'c', "asts".toList, rfl, by decide, List.all_eq_true.mp (by decide)⟩
  parted := space_ne_nil
  blankAfterKeyword := allBlank_space
  blankAfterName := allBlank_nil
  blankInside := allBlank_nil
  blankBeforeBrace := allBlank_indent

def behind (rest : List Relation) : Text :=
  (rest.flatMap fun r => "    public ".toList ++ r.print) ++ "\x7d\n".toList

theorem behind_cons (r : Relation) (rest : List Relation) :
    behind (r :: rest) = "    public ".toList ++ (r.head.print ++ (r.body ++ behind rest)) := by
  unfold behind
  rw [List.flatMap_cons, r.print_eq, r.print_head]
  simp only [List.append_assoc]

/-- The next keyword is the one of the next accessor, if there is one. -/
theorem exists_behind (rest : List Relation) : ∃ s t, behind rest = s ++ t ∧ '$' ∉ s
    ∧ (∀ {b}, Quiet functionKeyword b s) ∧ ∀ b, EndsBody (pass b s) t := by
  cases rest with
  | nil =>
    refine ⟨"\x7d\n".toList, [], rfl, by decide, ?_, fun b => .inl rfl⟩
    intro b
    exact quiet_of_free begins_functionKeyword (by decide)
  | cons r rest =>
    let z := r.accessor.text ++ ("()\n    \x7b".toList ++ (r.body ++ behind rest))
    have hbehind : behind (r :: rest) = "    public ".toList ++ ("function ".toList ++ z) := by
      rw [behind_cons, r.print_head]
      simp only [z, List.append_assoc]
    refine ⟨"    public ".toList, "function ".toList ++ z, hbehind, by decide, ?_, ?_⟩
    · intro b
      exact quiet_of_free begins_functionKeyword (by decide)
    · intro b
      right
      have hruns : functionKeyword.runs ⟨some ' ', "function".toList ++ ' ' :: z⟩ []
          = [(⟨some 'n', ' ' :: z⟩, [])] := runs_functionKeyword (by decide) rfl
      exact ⟨_, matchAt?_of_runs hruns⟩

def callsFrom (b : Option Char) (t : Text) : List RelationCall :=
  ((accessorHeader.allFrom 0 b t).map fun header =>
    (⟨header.text 0, bodyAfter header⟩ : Accessor)).filterMap (·.call?)

theorem callsFrom_append (h : Quiet accessorHeader b a) :
    callsFrom b (a ++ t) = callsFrom (pass b a) t := by
  unfold callsFrom
  rw [allFrom_append h]

theorem callsFrom_behind (rest : List Relation) :
    callsFrom b (behind rest) = rest.map Relation.call := by
  induction rest generalizing b with
  | nil =>
    have hquiet : Quiet accessorHeader b "\x7d\n".toList :=
      keywordShape_accessorHeader.quiet_fixed (by decide)
    show callsFrom b "\x7d\n".toList = []
    unfold callsFrom
    rw [allFrom_of_quiet hquiet]
    rfl
  | cons r rest ih =>
    have hpublic : Quiet accessorHeader b "    public ".toList :=
      keywordShape_accessorHeader.quiet_fixed (by decide)
    have hbody : ∀ {b}, Quiet accessorHeader b r.body := keywordShape_accessorHeader.quiet_body r
    obtain ⟨s, t, hbehind, -, hquiet, hend⟩ := exists_behind rest
    -- The body ends where the next accessor begins, or with the file when there is none.
    have hafter : bodyAfter (r.head.matched (pass b "    public ".toList) (r.body ++ behind rest))
        = r.body ++ s := by
      rw [hbehind, ← List.append_assoc]
      apply bodyAfter_eq rfl ((quiet_functionKeyword_body r).append hquiet)
      rw [pass_append]
      exact hend _
    have hcall : Accessor.call? ⟨r.head.name, r.body ++ s⟩ = some r.call := call?_body r s
    rw [behind_cons, callsFrom_append hpublic, callsFrom, r.head.allFrom_print, List.map_cons,
      r.head.text_matched, hafter, List.filterMap_cons_some hcall, List.map_cons]
    show r.call :: callsFrom _ (r.body ++ behind rest) = r.call :: rest.map Relation.call
    rw [callsFrom_append hbody, ih]

/-- The method that returns the casts has a header too, but makes no call. -/
theorem callsFrom_castsMethod {entries : Text} (rest : List Relation)
    (hquiet : ∀ {b}, Quiet accessorHeader b entries) (hdollar : '$' ∉ entries) :
    callsFrom b (castsHead.print ++ (entries ++ behind rest)) = rest.map Relation.call := by
  obtain ⟨s, t, hbehind, hnone, -, hend⟩ := exists_behind rest
  -- The method looks like an accessor, with a body that may reach to the next one. It gives no
  -- relationship, because a call begins with a dollar sign and there is none in it.
  have hbody : bodyAfter (castsHead.matched b (entries ++ behind rest)) <+: entries ++ s := by
    rw [hbehind, ← List.append_assoc]
    apply bodyAfter_isPrefix rfl
    rw [pass_append]
    exact hend _
  have hcall : '$' ∉ bodyAfter (castsHead.matched b (entries ++ behind rest)) := by
    intro hmem
    rcases List.mem_append.mp (hbody.subset hmem) with h | h
    · exact hdollar h
    · exact hnone h
  rw [callsFrom, castsHead.allFrom_print, List.map_cons,
    List.filterMap_cons_none (call?_eq_none _ hcall)]
  show callsFrom _ (entries ++ behind rest) = rest.map Relation.call
  rw [callsFrom_append hquiet, callsFrom_behind]

/-! ## In print -/

namespace Description

variable (d : Description)

theorem callsFrom_casts :
    callsFrom b (d.printCasts ++ behind d.relations) = d.relations.map Relation.call := by
  have hentries : ∀ {b}, Quiet accessorHeader b (d.casts.flatMap printCast) :=
    keywordShape_accessorHeader.quiet_castEntries d
  unfold printCasts
  cases d.castsForm with
  | property =>
    -- In this form there is nothing that looks like an accessor.
    have hquiet : Quiet accessorHeader b ("    protected $casts = [".toList
        ++ d.casts.flatMap printCast ++ "\n    ];\n\n".toList) := by
      rw [List.append_assoc]
      apply Quiet.append (keywordShape_accessorHeader.quiet_fixed (by decide))
      exact hentries.append (keywordShape_accessorHeader.quiet_fixed (by decide))
    exact (callsFrom_append hquiet).trans (callsFrom_behind d.relations)
  | method =>
    let entries := "\n        return [".toList ++ (d.casts.flatMap printCast
      ++ "\n    ];\n    \x7d\n\n".toList)
    have hquiet : ∀ {b}, Quiet accessorHeader b entries := by
      intro b
      apply Quiet.append (keywordShape_accessorHeader.quiet_fixed (by decide))
      exact hentries.append (keywordShape_accessorHeader.quiet_fixed (by decide))
    have hdollar : '$' ∉ entries := by
      intro h
      simp only [entries, List.mem_append] at h
      rcases h with h | h | h
      · exact absurd h (by decide)
      · exact d.not_mem_castEntries (by decide) (by decide) (by decide) h
      · exact absurd h (by decide)
    have hsplit : "    protected function casts(): array\n    \x7b\n        return [".toList
        ++ d.casts.flatMap printCast ++ "\n    ];\n    \x7d\n\n".toList ++ behind d.relations
        = "    protected ".toList ++ (castsHead.print ++ (entries ++ behind d.relations)) := by
      simp only [entries, List.append_assoc]
      rfl
    have hprotected : Quiet accessorHeader b "    protected ".toList :=
      keywordShape_accessorHeader.quiet_fixed (by decide)
    dsimp only
    rw [hsplit, callsFrom_append hprotected]
    exact callsFrom_castsMethod d.relations hquiet hdollar

/-- **One call for each accessor**, in order, whatever else is in the file. -/
theorem relationCalls_print : relationCalls d.print = d.relations.map Relation.call := by
  have hprint : d.print = d.beforeCasts ++ (d.printCasts ++ behind d.relations) := d.print_eq
  show callsFrom none d.print = d.relations.map Relation.call
  rw [hprint, callsFrom_append (keywordShape_accessorHeader.quiet_beforeCasts d),
    d.callsFrom_casts]

theorem relationships_print : Model.relationships d.name.text d.print = d.relationships := by
  unfold Model.relationships relationships
  rw [d.relationCalls_print, List.filterMap_map, ← List.filterMap_eq_map]
  congr 1
  funext r
  have hne : r.target.name.text.isEmpty = false := by
    rw [List.isEmpty_eq_false_iff]
    exact r.target.name.ne_nil
  show RelationCall.relationship? d.name.text r.call = _
  unfold RelationCall.relationship? Relation.call
  dsimp only
  rw [hne]
  rfl

end Description
end Model
end EntityDiagram
