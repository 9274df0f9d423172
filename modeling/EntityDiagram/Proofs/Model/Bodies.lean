import EntityDiagram.Proofs.Model.Locality

/-!
# Where the bodies of accessors lie

The call that an accessor is credited with is the first one in its body, and a body ends at the next
`function`. So that no call is credited twice, the body has to end before the next header begins. A
header begins with that keyword, and one would think that this settles it. It does not, because the
two look for the keyword in different ways. What ends a body is a word of its own, while the keyword
of a header may be the end of a longer word, as in `old_function posts() {`.

This module says exactly what comes of that (`Laid`, `credited_once_unless_joined`). Positions are
counted in characters from the beginning of the source. A body ends before any later header whose
keyword is a word. It holds a later header just when no keyword stands as a word on the way to the
brace of that header, and then the two bodies end at the same place, so that the earlier accessor has
the calls of the later one for its own.
-/

namespace EntityDiagram
namespace Model

open Pattern

variable {source a v w z : Text} {b : Option Char} {m m' : Match}

/-! ## Positions -/

/-- The headers of the accessors in a source, in order. -/
def headers (source : Text) : List Match := accessorHeader.all source

/-- Where a header begins. -/
def headerBegins (source : Text) (m : Match) : Nat := source.length - m.start.rest.length

/-- Where a header ends and the body behind it begins. -/
def bodyBegins (source : Text) (m : Match) : Nat := source.length - m.stop.rest.length

/-- Where the body behind a header ends. -/
def bodyEnds (source : Text) (m : Match) : Nat := bodyBegins source m + (bodyAfter m).length

/-- The keyword stands at this position, as a word of its own. -/
def KeywordAt (t : Text) (n : Nat) : Prop :=
  ∃ a z, t = a ++ ("function".toList ++ z) ∧ a.length = n ∧ a.getLast?.any Text.isWord = false
    ∧ Stops Text.isWord z

/-- The keyword of the header is joined to a word before it. -/
def Joined (m : Match) : Prop := m.start.before.any Text.isWord = true

theorem exists_of_mem_headers (h : m ∈ headers source) : ∃ (a : Text) (head : AccessorHead) (z : Text),
    source = a ++ (head.print ++ z) ∧ m = head.matched (pass none a) z := by
  obtain ⟨a, t, rfl, hmatch⟩ := exists_of_mem_allFrom h
  obtain ⟨head, z, rfl, rfl⟩ := matchAt?_accessorHeader_iff.mp hmatch
  exact ⟨a, head, z, rfl, rfl⟩

theorem headerBegins_matched (a : Text) (head : AccessorHead) (z : Text) :
    headerBegins (a ++ (head.print ++ z)) (head.matched (pass none a) z) = a.length := by
  unfold headerBegins AccessorHead.matched
  rw [List.length_append, Nat.add_sub_cancel]

/-! ## The keyword -/

theorem matchAt?_keyword_iff : (∃ next, functionKeyword.matchAt? ⟨pass none a, z⟩ = some next)
    ↔ KeywordAt (a ++ z) a.length := by
  constructor
  · rintro ⟨next, hnext⟩
    obtain ⟨hb, y, rfl, hy, -⟩ := matchAt?_functionKeyword_iff.mp hnext
    rw [pass_none] at hb
    exact ⟨a, y, rfl, rfl, hb, hy⟩
  · rintro ⟨a', y, heq, hlength, hb, hy⟩
    obtain ⟨rfl, rfl⟩ := List.append_inj heq hlength.symm
    rw [← pass_none] at hb
    exact ⟨_, matchAt?_functionKeyword_iff.mpr ⟨hb, y, rfl, hy, rfl⟩⟩

/-- The keyword of a header is a word, unless it is joined to one. -/
theorem keywordAt_headerBegins (hm : m ∈ headers source) (hjoined : ¬ Joined m) :
    KeywordAt source (headerBegins source m) := by
  obtain ⟨a, head, z, rfl, rfl⟩ := exists_of_mem_headers hm
  have hb : (pass none a).any Text.isWord = false := Bool.eq_false_iff.mpr hjoined
  rw [headerBegins_matched]
  exact matchAt?_keyword_iff.mp (head.exists_keyword hb)

/-! ## Bodies -/

section Stop

variable (hstop : m.stop = ⟨pass none a, z⟩)
include hstop

theorem bodyBegins_of_stop : bodyBegins (a ++ z) m = a.length := by
  unfold bodyBegins
  rw [hstop, List.length_append, Nat.add_sub_cancel]

theorem bodyAfter_isPrefix_of_stop : bodyAfter m <+: z := by
  obtain ⟨y, hz, -, -⟩ := bodyAfter_split hstop
  exact ⟨y, hz.symm⟩

theorem not_keywordAt_of_stop {n : Nat} (hn : a.length ≤ n)
    (hlt : n < a.length + (bodyAfter m).length) : ¬ KeywordAt (a ++ z) n := by
  rintro ⟨front, y, heq, rfl, hb, hy⟩
  obtain ⟨-, -, -, hfirst⟩ := bodyAfter_split hstop
  -- The position is behind the header, so it cuts the text behind the header in two.
  obtain ⟨v, rfl⟩ : a <+: front :=
    List.prefix_of_prefix_length_le (List.prefix_append a z) ⟨_, heq.symm⟩ hn
  rw [List.append_assoc] at heq
  obtain rfl := List.append_cancel_left heq
  rw [List.length_append] at hlt
  have hnone := hfirst v _ rfl (Nat.lt_of_add_lt_add_left hlt)
  rw [← pass_none, pass_append] at hb
  rw [matchAt?_functionKeyword_iff.mpr ⟨hb, y, rfl, hy, rfl⟩] at hnone
  exact absurd hnone (by simp)

theorem keywordAt_of_stop : bodyEnds (a ++ z) m = (a ++ z).length
    ∨ KeywordAt (a ++ z) (bodyEnds (a ++ z) m) := by
  obtain ⟨y, hz, hend, -⟩ := bodyAfter_split hstop
  have hends : bodyEnds (a ++ z) m = (a ++ bodyAfter m).length := by
    rw [bodyEnds, bodyBegins_of_stop hstop, List.length_append]
  have hsource : a ++ z = (a ++ bodyAfter m) ++ y := by
    rw [List.append_assoc, ← hz]
  rw [hends, hsource]
  rcases hend with rfl | hnext
  · exact .inl (by rw [List.append_nil])
  · rw [← pass_append] at hnext
    exact .inr (matchAt?_keyword_iff.mp hnext)

end Stop

/-- What a body is: the stretch from its header to the first keyword that stands as a word, or to the
    end of the source when there is none. -/
structure IsBody (source : Text) (m : Match) : Prop where
  header : headerBegins source m < bodyBegins source m
  within : bodyEnds source m ≤ source.length
  text : bodyAfter m = (source.drop (bodyBegins source m)).take (bodyAfter m).length
  first : ∀ n, bodyBegins source m ≤ n → n < bodyEnds source m → ¬ KeywordAt source n
  ends : bodyEnds source m = source.length ∨ KeywordAt source (bodyEnds source m)

theorem isBody_of_mem_headers (hm : m ∈ headers source) : IsBody source m := by
  obtain ⟨a, head, z, rfl, rfl⟩ := exists_of_mem_headers hm
  have hstop : (head.matched (pass none a) z).stop = ⟨pass none (a ++ head.print), z⟩ := by
    rw [pass_append, head.pass_print]
    rfl
  have hheader := headerBegins_matched a head z
  rw [← List.append_assoc] at hheader ⊢
  have hbegins := bodyBegins_of_stop hstop
  have hprefix := bodyAfter_isPrefix_of_stop hstop
  refine ⟨?_, ?_, ?_, ?_, keywordAt_of_stop hstop⟩
  · have hprint : 0 < head.print.length := by
      unfold AccessorHead.print AccessorHead.beforeName
      simp
    rw [hheader, hbegins, List.length_append]
    exact Nat.lt_add_of_pos_right hprint
  · have hle := hprefix.length_le
    have hsource : (a ++ head.print ++ z).length = (a ++ head.print).length + z.length :=
      List.length_append
    rw [bodyEnds, hbegins, hsource]
    exact Nat.add_le_add_left hle _
  · rw [hbegins, List.drop_left]
    exact List.prefix_iff_eq_take.mp hprefix
  · intro n hn hlt
    rw [bodyEnds] at hlt
    rw [hbegins] at hn hlt
    exact not_keywordAt_of_stop hstop hn hlt

/-! ## One header and a later one -/

/-- How a header and a later one lie to each other. -/
structure Laid (source : Text) (m m' : Match) : Prop where
  /-- The later header begins behind the brace of the earlier one. -/
  behind : bodyBegins source m ≤ headerBegins source m'
  /-- The body ends before the later header begins, unless the keyword there is joined to a word. -/
  apart : ¬ Joined m' → bodyEnds source m ≤ headerBegins source m'
  /-- The body holds the later header just when there is no keyword on the way to its brace. -/
  holds : bodyBegins source m' ≤ bodyEnds source m
    ↔ ∀ n, bodyBegins source m ≤ n → n < bodyBegins source m' → ¬ KeywordAt source n
  /-- And if it does, it ends where the later body ends. -/
  shared : bodyBegins source m' ≤ bodyEnds source m → bodyEnds source m' = bodyEnds source m

theorem laid_of_behind (hm : m ∈ headers source) (hm' : m' ∈ headers source)
    (hbehind : bodyBegins source m ≤ headerBegins source m') : Laid source m m' := by
  have body := isBody_of_mem_headers hm
  have body' := isBody_of_mem_headers hm'
  have hheader' := body'.header
  have hwithin := body.within
  have hwithin' := body'.within
  have hbegins : bodyBegins source m' ≤ bodyEnds source m' := Nat.le_add_right _ _
  refine ⟨hbehind, ?_, ⟨?_, ?_⟩, ?_⟩
  · intro hjoined
    by_contra hlt
    exact body.first _ hbehind (Nat.lt_of_not_le hlt) (keywordAt_headerBegins hm' hjoined)
  · intro hle n hn hlt
    exact body.first n hn (Nat.lt_of_lt_of_le hlt hle)
  · intro hnone
    by_contra hlt
    rcases body.ends with hend | hkeyword
    · omega
    · exact hnone _ (Nat.le_add_right _ _) (Nat.lt_of_not_le hlt) hkeyword
  · -- Both bodies end at the first keyword behind the later header.
    intro hle
    apply Nat.le_antisymm
    · by_contra hlt
      rcases body.ends with hend | hkeyword
      · omega
      · exact body'.first _ hle (Nat.lt_of_not_le hlt) hkeyword
    · by_contra hlt
      rcases body'.ends with hend | hkeyword
      · omega
      · exact body.first _ (by omega) (Nat.lt_of_not_le hlt) hkeyword

theorem pairwise_laid (source : Text) : (headers source).Pairwise (Laid source) := by
  have hpairs : (headers source).Pairwise fun m m' => m'.start.rest.length ≤ m.stop.rest.length :=
    pairwise_allFrom
  refine hpairs.imp_of_mem ?_
  intro m m' hm hm' hle
  refine laid_of_behind hm hm' ?_
  unfold bodyBegins headerBegins
  omega

/-! ## Calls -/

/-- A call of the builder begins at this position. -/
def CallAt (t : Text) (n : Nat) (builder : Builder) : Prop :=
  ∃ front w rest, t = front ++ w ∧ front.length = n ∧ OpensCall w builder.method rest

/-- A call that an accessor is credited with: the header of the accessor, and where in the source the
    call begins. -/
structure Credit where
  header : Match
  place : Nat
  call : RelationCall

/-- What the accessor of a header is credited with, if its body has a call. -/
def credit? (source : Text) (m : Match) : Option Credit := do
  let found ← builderCall.search? (bodyAfter m)
  let call ← (Accessor.ofHeader m).call?
  return ⟨m, bodyBegins source m + ((bodyAfter m).length - found.start.rest.length), call⟩

/-- All that the accessors in a source are credited with, in order. -/
def credits (source : Text) : List Credit := (headers source).filterMap (credit? source)

theorem credit?_map_call (source : Text) (m : Match) :
    (credit? source m).map (·.call) = (Accessor.ofHeader m).call? := by
  unfold credit? Accessor.call? Accessor.ofHeader
  dsimp only
  cases builderCall.search? (bodyAfter m) with
  | none => rfl
  | some found =>
    cases hbuilder : Builder.ofMethod? (found.text 0) with
    | none => simp [hbuilder]
    | some builder => simp [hbuilder]

theorem relationships_eq_credits (model source : Text) :
    relationships model source = (credits source).filterMap (·.call.relationship? model) := by
  have hcalls : relationCalls source = (credits source).map (·.call) := by
    unfold relationCalls credits
    rw [accessors_eq, List.filterMap_map, List.map_filterMap]
    congr 1
    funext m
    exact (credit?_map_call source m).symm
  unfold relationships
  rw [hcalls, List.filterMap_map]
  rfl

section Credited

variable {c c' : Credit}

/-- A credited call is in the body. -/
theorem exists_of_credit? (h : credit? source m = some c) : c.header = m
    ∧ ∃ v w argument, bodyAfter m = v ++ w ∧ BeginsCall w c.call.builder argument
      ∧ c.place = bodyBegins source m + v.length := by
  unfold credit? at h
  simp only [Option.bind_eq_bind, Option.bind_eq_some_iff] at h
  obtain ⟨found, hfound, call, hcall, hpure⟩ := h
  obtain rfl := Option.some.inj hpure
  obtain ⟨v, w, builder, argument, hbody, hbegins, hmatch, -⟩ := firstCall_of_search? hfound
  have hthis := hcall.symm.trans (call?_of_match hbegins hmatch hfound)
  obtain rfl := Option.some.inj hthis
  refine ⟨rfl, v, w, argument, hbody, hbegins, ?_⟩
  dsimp only
  rw [start_of_matchAt? hmatch, hbody, List.length_append, Nat.add_sub_cancel]

theorem place_of_credit? (h : credit? source m = some c) :
    bodyBegins source m ≤ c.place ∧ c.place < bodyEnds source m := by
  obtain ⟨-, v, w, argument, hbody, hbegins, hplace⟩ := exists_of_credit? h
  obtain ⟨y, rfl⟩ := exists_of_beginsCall hbegins
  unfold bodyEnds
  rw [hplace, hbody, List.length_append, List.length_append]
  have hthis : 0 < "$this".toList.length := by decide
  omega

theorem callAt_of_credit? (hm : m ∈ headers source) (h : credit? source m = some c) :
    CallAt source c.place c.call.builder := by
  have body := isBody_of_mem_headers hm
  obtain ⟨-, v, w, argument, hbody, ⟨t, hopens, -⟩, hplace⟩ := exists_of_credit? h
  -- The source goes on behind the body.
  have hwithin : bodyBegins source m ≤ source.length :=
    Nat.le_trans (Nat.le_add_right _ _) body.within
  obtain ⟨rest, hrest⟩ : bodyAfter m <+: source.drop (bodyBegins source m) := by
    rw [body.text]
    exact List.take_prefix _ _
  refine ⟨source.take (bodyBegins source m) ++ v, w ++ rest, t ++ rest, ?_, ?_, hopens.append rest⟩
  · rw [List.append_assoc, ← List.append_assoc v, ← hbody, hrest, List.take_append_drop]
  · rw [List.length_append, List.length_take_of_le hwithin, hplace]

theorem exists_of_mem_credits (h : c ∈ credits source) :
    c.header ∈ headers source ∧ credit? source c.header = some c := by
  obtain ⟨m, hm, hcredit⟩ := List.mem_filterMap.mp h
  obtain ⟨rfl, -⟩ := exists_of_credit? hcredit
  exact ⟨hm, hcredit⟩

/-- The later of two calls begins later, unless the later header is in the earlier body. -/
theorem place_lt_of_laid (hlaid : Laid source m m') (hm' : m' ∈ headers source)
    (h : credit? source m = some c) (h' : credit? source m' = some c') :
    c.place < c'.place ∨ Joined m' ∧ bodyBegins source m' ≤ bodyEnds source m := by
  have hplace := place_of_credit? h
  have hplace' := place_of_credit? h'
  have hheader := (isBody_of_mem_headers hm').header
  by_cases hholds : bodyBegins source m' ≤ bodyEnds source m
  · refine .inr ⟨?_, hholds⟩
    by_contra hjoined
    have hapart := hlaid.apart hjoined
    omega
  · left
    omega

end Credited

/-- **No call is credited twice, unless a header is joined to a word.** Bodies are stretches of the
    source that come one behind the other, and so are the calls that accessors are credited with; every
    relationship comes of one of these. The one exception is a header whose keyword is joined to a word
    before it: an earlier body may hold this header, and then it has the later body for its end. -/
theorem credited_once_unless_joined (source : Text) :
    accessors source = (headers source).map (fun m => ⟨m.text 0, bodyAfter m⟩)
      ∧ (∀ m ∈ headers source, IsBody source m)
      ∧ (headers source).Pairwise (Laid source)
      ∧ (∀ c ∈ credits source, c.header ∈ headers source ∧ CallAt source c.place c.call.builder
          ∧ bodyBegins source c.header ≤ c.place ∧ c.place < bodyEnds source c.header)
      ∧ (credits source).Pairwise (fun c c' => c.place < c'.place
          ∨ Joined c'.header ∧ bodyBegins source c'.header ≤ bodyEnds source c.header)
      ∧ ∀ model, relationships model source
          = (credits source).filterMap (·.call.relationship? model) := by
  refine ⟨rfl, fun m hm => isBody_of_mem_headers hm, pairwise_laid source, ?_, ?_,
    fun model => relationships_eq_credits model source⟩
  · intro c hc
    obtain ⟨hm, hcredit⟩ := exists_of_mem_credits hc
    exact ⟨hm, callAt_of_credit? hm hcredit, place_of_credit? hcredit⟩
  · have hlaid := (pairwise_laid source).imp_of_mem (S := fun m m' => Laid source m m' ∧ m' ∈ headers source)
      fun _ hm' h => ⟨h, hm'⟩
    refine hlaid.filterMap (credit? source) ?_
    intro m m' h c hcredit c' hcredit'
    have hplace := place_lt_of_laid h.1 h.2 hcredit hcredit'
    obtain ⟨rfl, -⟩ := exists_of_credit? hcredit
    obtain ⟨rfl, -⟩ := exists_of_credit? hcredit'
    exact hplace

/-- A model whose only call stands in a remark, in what looks like a method with a longer keyword. -/
def remarkedCall : Text := "<?php
class User extends Model
\x7b
    function nickname() \x7b \x7d
    // old_function posts() \x7b $this->hasMany(Post::class); \x7d
\x7d
"

set_option maxRecDepth 4000 in
/-- The law at work where its exception is needed: one call gives two relationships. -/
theorem credited_once_unless_joined_remarked :
    relationships "User" remarkedCall
        = [⟨"User", "Post", "nickname", "1-N", some "has many"⟩,
          ⟨"User", "Post", "posts", "1-N", some "has many"⟩]
      ∧ (credits remarkedCall).map (·.place) = [91, 91]
      ∧ ∃ c ∈ credits remarkedCall, Joined c.header := by
  -- A literal is decoded at every step of the evaluation, a list is not.
  have hsource : remarkedCall = _ := String.toList_ofList
  have hcredits : (credits remarkedCall).map (fun c => (c.place, c.call))
      = [(91, ⟨"nickname", .hasMany, "Post"⟩), (91, ⟨"posts", .hasMany, "Post"⟩)] := by
    rw [hsource]
    decide +kernel
  have hplaces : (credits remarkedCall).map (·.place) = [91, 91] := by
    have hfirst := congrArg (List.map Prod.fst) hcredits
    rwa [List.map_map] at hfirst
  obtain ⟨-, -, -, -, hpairs, hrelationships⟩ := credited_once_unless_joined remarkedCall
  refine ⟨?_, hplaces, ?_⟩
  · have hsecond := congrArg (List.filterMap fun call => call.2.relationship? "User") hcredits
    rw [List.filterMap_map] at hsecond
    rw [hrelationships]
    exact hsecond
  · by_contra hjoined
    have hincrease : (credits remarkedCall).Pairwise fun c c' => c.place < c'.place := by
      refine hpairs.imp_of_mem ?_
      intro c c' _ hc' h
      exact h.resolve_right fun hexception => hjoined ⟨c', hc', hexception.1⟩
    rw [← List.pairwise_map (f := Credit.place) (R := (· < ·)), hplaces] at hincrease
    exact absurd hincrease (by simp)

end Model
end EntityDiagram
