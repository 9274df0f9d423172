import EntityDiagram.Model.Assembly
import EntityDiagram.Proofs.Model.ReadingRelations
import EntityDiagram.Proofs.Pattern.Joining

/-!
# Relationships are local to their accessors

What an accessor declares depends on the text from its header to the next `function`, and on nothing
else. So a source can be cut in two before any header without a relationship being lost, gained or
credited elsewhere (`relationships_local`), and a source that is a list of accessors declares what
these declare (`relationships_flatten`).

Three things could go wrong at the cut. A header might begin before it and end behind it: headers do
not overlap, and one begins at the cut. The keyword that ends a body might be split by it: the keyword
is a word, and no word goes on there. And the last body before the cut might go beyond it: it ends at
the keyword of the header that begins there.
-/

namespace EntityDiagram
namespace Model

open Pattern

variable {b : Option Char} {a c₁ c₂ z model : Text} {m next : Match}

/-! ## Nothing goes beyond the next header -/

theorem AccessorHead.matched_onto (h : AccessorHead) (y z : Text) :
    (h.matched b y).onto z = h.matched b (y ++ z) := by
  simp only [Match.onto, Cursor.onto, matched, List.map_cons, List.map_nil, List.append_assoc]

/-- No header goes beyond the beginning of another one. -/
theorem parted_accessorHeader (head : AccessorHead) :
    accessorHeader.Parted b a (head.print ++ z) := by
  rintro v w rfl hw
  cases hm : accessorHeader.matchAt? ⟨pass b v, w⟩ with
  | some m =>
    obtain ⟨h, y, rfl, rfl⟩ := matchAt?_accessorHeader_iff.mp hm
    rw [List.append_assoc, h.matchAt?_print, Option.map_some, h.matched_onto]
  | none =>
    refine Classical.byContradiction fun hne => ?_
    obtain ⟨m, hmatch⟩ := Option.ne_none_iff_exists'.mp hne
    obtain ⟨h, y, heq, -⟩ := matchAt?_accessorHeader_iff.mp hmatch
    obtain ⟨s, rfl⟩ := h.of_overlap hw heq.symm
    rw [h.matchAt?_print] at hm
    exact absurd hm (by simp)

theorem matchAt?_functionKeyword_iff {t : Text} : functionKeyword.matchAt? ⟨b, t⟩ = some m
    ↔ b.any Text.isWord = false ∧ ∃ y, t = "function".toList ++ y ∧ Stops Text.isWord y
      ∧ m = ⟨⟨b, t⟩, ⟨some 'n', y⟩, []⟩ := by
  constructor
  · intro hmatch
    obtain ⟨hb, y, rfl, hy⟩ := word_of_runs_functionKeyword (runs_ne_nil_of_matchAt? hmatch)
    rw [matchAt?_of_runs (runs_functionKeyword hb hy)] at hmatch
    exact ⟨hb, y, rfl, hy, (Option.some.inj hmatch).symm⟩
  · rintro ⟨hb, y, rfl, hy, rfl⟩
    exact matchAt?_of_runs (runs_functionKeyword hb hy)

/-- The keyword does not go beyond a place where no word goes on. -/
theorem parted_functionKeyword (ha : a.getLast?.any Text.isWord = false) :
    functionKeyword.Parted b a z := by
  rintro v w rfl hw
  have hlast : Text.isWord (w.getLast hw) = false := by
    rw [List.getLast?_append, List.getLast?_eq_some_getLast hw] at ha
    exact ha
  have hword : ∀ x ∈ "function".toList, Text.isWord x = true := List.all_eq_true.mp (by decide)
  have hstops : ∀ {y}, w = "function".toList ++ y →
      (Stops Text.isWord (y ++ z) ↔ Stops Text.isWord y) := by
    rintro y rfl
    cases y with
    | nil => exact absurd (show Text.isWord 'n' = false from hlast) (by decide)
    | cons x y => rfl
  cases hm : functionKeyword.matchAt? ⟨pass b v, w⟩ with
  | some m =>
    obtain ⟨hb, y, rfl, hy, rfl⟩ := matchAt?_functionKeyword_iff.mp hm
    exact matchAt?_functionKeyword_iff.mpr
      ⟨hb, y ++ z, List.append_assoc _ _ _, (hstops rfl).mpr hy, rfl⟩
  | none =>
    refine Classical.byContradiction fun hne => ?_
    obtain ⟨m, hmatch⟩ := Option.ne_none_iff_exists'.mp hne
    obtain ⟨hb, y, heq, hy, -⟩ := matchAt?_functionKeyword_iff.mp hmatch
    -- The keyword would end before the cut, or else the cut would be within a word.
    rcases List.append_eq_append_iff.mp heq with ⟨s, hs, -⟩ | ⟨s, rfl, rfl⟩
    · have hmem : w.getLast hw ∈ "function".toList := by
        rw [hs]
        exact List.mem_append_left s (List.getLast_mem hw)
      rw [hword _ hmem] at hlast
      exact absurd hlast (by simp)
    · have hsome := matchAt?_functionKeyword_iff.mpr ⟨hb, s, rfl, (hstops rfl).mp hy, rfl⟩
      rw [hm] at hsome
      exact absurd hsome (by simp)

/-- A body does not go beyond a keyword, and what comes behind the keyword does not change it. -/
theorem bodyAfter_onto (hlast : m.stop.rest.getLast?.any Text.isWord = false)
    (hnext : functionKeyword.matchAt? ⟨pass m.stop.before m.stop.rest, z⟩ = some next) :
    bodyAfter (m.onto z) = bodyAfter m := by
  have hend : functionKeyword.matchAt? ⟨pass m.stop.before m.stop.rest, []⟩ = none :=
    matchAt?_eq_none.mpr begins_functionKeyword.runs_eq_nil_of_nil
  have hsearch : functionKeyword.searchAt? (m.onto z).stop
      = ((functionKeyword.searchAt? m.stop).map (·.onto z)).or (some next) := by
    rw [← searchFrom?_of_match hnext]
    exact (parted_functionKeyword hlast).searchFrom? hend
  unfold bodyAfter
  rw [hsearch]
  cases functionKeyword.searchAt? m.stop with
  | some first => exact Cursor.upTo_onto _ _ z
  | none =>
    dsimp only [Option.map_none, Option.none_or]
    rw [start_of_matchAt? hnext]
    exact Cursor.upTo_append _ _ _ z

/-- A header begins with the keyword. -/
theorem AccessorHead.exists_keyword (h : AccessorHead) (hb : b.any Text.isWord = false) :
    ∃ next, functionKeyword.matchAt? ⟨b, h.print ++ z⟩ = some next := by
  have hstops : Stops Text.isWord (h.afterKeyword ++ (h.name ++ (h.behindName ++ z))) := by
    obtain ⟨x, w, hw⟩ := List.exists_cons_of_ne_nil h.parted
    have hx : Text.isBlank x = true := h.blankAfterKeyword x (hw ▸ List.mem_cons_self)
    rw [hw]
    exact Text.not_isWord_of_isBlank hx
  rw [h.print_append]
  exact ⟨_, matchAt?_of_runs (runs_functionKeyword hb hstops)⟩

/-! ## The accessors of two texts joined -/

/-- The accessor that a header begins. -/
def Accessor.ofHeader (header : Match) : Accessor := ⟨header.text 0, bodyAfter header⟩

theorem accessors_eq (source : Text) :
    accessors source = (accessorHeader.all source).map Accessor.ofHeader := rfl

/-- What stands before a header does not matter to its accessor. -/
theorem map_ofHeader_allFrom (head : AccessorHead) :
    (accessorHeader.allFrom 0 b (head.print ++ z)).map Accessor.ofHeader
      = accessors (head.print ++ z) := by
  have hbody : bodyAfter (head.matched b z) = bodyAfter (head.matched none z) := rfl
  have hheader : Accessor.ofHeader (head.matched b z) = Accessor.ofHeader (head.matched none z) := by
    unfold Accessor.ofHeader
    rw [head.text_matched, head.text_matched, hbody]
  rw [accessors_eq, all, head.allFrom_print, head.allFrom_print, List.map_cons, List.map_cons,
    hheader]

/-- An accessor before the cut is the same one when the text goes on with a header. -/
theorem ofHeader_onto (hend : c₁.getLast?.any Text.isWord = false) (head : AccessorHead)
    (hm : m ∈ accessorHeader.all c₁) :
    Accessor.ofHeader (m.onto (head.print ++ z)) = Accessor.ofHeader m := by
  obtain ⟨v, t, rfl, hmatch⟩ := exists_of_mem_allFrom hm
  obtain ⟨h, y, rfl, rfl⟩ := matchAt?_accessorHeader_iff.mp hmatch
  rw [← List.append_assoc, List.getLast?_append] at hend
  have hlast : y.getLast?.any Text.isWord = false := any_eq_false_of_or hend
  have hpassed : (pass (some '\x7b') y).any Text.isWord = false := by
    rw [pass_eq_or]
    exact any_or_eq_false hlast (by decide)
  obtain ⟨next, hnext⟩ := head.exists_keyword (z := z) hpassed
  unfold Accessor.ofHeader
  rw [Match.text_onto, bodyAfter_onto (m := h.matched (pass none v) y) hlast hnext]

/-- **The accessors of two texts joined**, the second of which begins with a header. -/
theorem accessors_append (hend : c₁.getLast?.any Text.isWord = false)
    (hbegin : (accessorHeader.matchAt? (Cursor.start c₂)).isSome = true) :
    accessors (c₁ ++ c₂) = accessors c₁ ++ accessors c₂ := by
  obtain ⟨_, hmatch⟩ := Option.isSome_iff_exists.mp hbegin
  obtain ⟨head, z, rfl, -⟩ := matchAt?_accessorHeader_iff.mp hmatch
  have hbefore : (accessorHeader.all c₁).map (Accessor.ofHeader ∘ (·.onto (head.print ++ z)))
      = accessors c₁ :=
    List.map_congr_left fun m hm => ofHeader_onto hend head hm
  rw [accessors_eq, all, (parted_accessorHeader head).allFrom (Nat.zero_le _), List.map_append,
    List.map_map, map_ofHeader_allFrom, ← hbefore, all]

theorem relationCalls_append (hend : c₁.getLast?.any Text.isWord = false)
    (hbegin : (accessorHeader.matchAt? (Cursor.start c₂)).isSome = true) :
    relationCalls (c₁ ++ c₂) = relationCalls c₁ ++ relationCalls c₂ := by
  unfold relationCalls
  rw [accessors_append hend hbegin, List.filterMap_append]

theorem relationships_append (hend : c₁.getLast?.any Text.isWord = false)
    (hbegin : (accessorHeader.matchAt? (Cursor.start c₂)).isSome = true) :
    relationships model (c₁ ++ c₂) = relationships model c₁ ++ relationships model c₂ := by
  unfold relationships
  rw [relationCalls_append hend hbegin, List.filterMap_append]

theorem relationNotes_append {known : List Text} (hend : c₁.getLast?.any Text.isWord = false)
    (hbegin : (accessorHeader.matchAt? (Cursor.start c₂)).isSome = true) :
    relationNotes model (c₁ ++ c₂) known = relationNotes model c₁ known ++ relationNotes model c₂ known := by
  unfold relationNotes
  rw [relationCalls_append hend hbegin, List.filterMap_append]

/-! ## Sources that are lists of accessors -/

/-- A text that begins with a header and ends where no word goes on. -/
structure IsMethodText (method : Text) : Prop where
  begins : (accessorHeader.matchAt? (Cursor.start method)).isSome = true
  ends : method.getLast?.any Text.isWord = false

/-- **Every method declares its own relationships**, whatever methods stand before it and behind it:
    a source declares in order what its methods declare. -/
theorem relationships_flatten {methods : List Text} (h : ∀ method ∈ methods, IsMethodText method)
    (hend : c₁.getLast?.any Text.isWord = false) :
    relationships model (c₁ ++ methods.flatten)
      = relationships model c₁ ++ methods.flatMap (relationships model) := by
  induction methods generalizing c₁ with
  | nil => simp
  | cons method rest ih =>
    obtain ⟨hmethod, hrest⟩ := List.forall_mem_cons.mp h
    have hnext : (c₁ ++ method).getLast?.any Text.isWord = false := by
      rw [List.getLast?_append]
      exact any_or_eq_false hmethod.ends hend
    rw [List.flatten_cons, ← List.append_assoc, ih hrest hnext,
      relationships_append hend hmethod.begins, List.flatMap_cons, List.append_assoc]

/-- **Relationships are local.** A source cut before a header declares what its two parts declare,
    with the same notes on them, whatever entities are known. -/
theorem relationships_local (model : Text) (hend : c₁.getLast?.any Text.isWord = false)
    (hbegin : (accessorHeader.matchAt? (Cursor.start c₂)).isSome = true) :
    relationships model (c₁ ++ c₂) = relationships model c₁ ++ relationships model c₂
      ∧ ∀ (known : List Entity) (path : Text),
        examineRelations uninterrupted known ⟨model, c₁ ++ c₂, path⟩
          = examineRelations uninterrupted known ⟨model, c₁, path⟩
            ++ examineRelations uninterrupted known ⟨model, c₂, path⟩ := by
  refine ⟨relationships_append hend hbegin, fun known path => ?_⟩
  unfold examineRelations uninterrupted
  dsimp only
  rw [relationships_append hend hbegin, relationNotes_append hend hbegin]
  rfl

/-- A method, and the beginning of another one that breaks off in the type it returns. -/
def brokenOff : Text :=
  "function posts() \x7b return $this->hasMany(Post::class); \x7d function tags(): \\"

def wholeMethod : Text := "function phone() \x7b return $this->hasOne(Phone::class); \x7d"

theorem relationships_local_brokenOff :
    brokenOff.getLast?.any Text.isWord = false
      ∧ (accessorHeader.matchAt? (Cursor.start wholeMethod)).isSome = true
      ∧ relationships "User" (brokenOff ++ wholeMethod) = [
          ⟨"User", "Post", "posts", "1-N", some "has many"⟩,
          ⟨"User", "Phone", "phone", "1-1", some "has one"⟩] := by
  -- A literal is decoded at every step of the evaluation, a list is not.
  have hbroken : brokenOff = _ := String.toList_ofList
  have hwhole : wholeMethod = _ := String.toList_ofList
  have hend : brokenOff.getLast?.any Text.isWord = false := by decide +kernel
  have hbegin : (accessorHeader.matchAt? (Cursor.start wholeMethod)).isSome = true := by
    decide +kernel
  refine ⟨hend, hbegin, ?_⟩
  rw [(relationships_local "User" hend hbegin).1, hbroken, hwhole]
  decide +kernel

end Model
end EntityDiagram
