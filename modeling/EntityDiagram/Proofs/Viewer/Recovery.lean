import EntityDiagram.Proofs.Pattern.Landmarks
import EntityDiagram.Proofs.Viewer.Page

/-!
# What a page was made from

A page is one text, put together from four that may be of any length, and one of them, the diagram,
may have anything in it, even what looks like the rest of the page. All the same the page says what
the four were (`page_injective`), because the slots are read off in the right order.

The title and the script address are read from the front. They are escaped, so the first character
behind a slot that an escaped text cannot have is where the slot ends. The title has been read by the
time it comes again, so nothing is left in front of the diagram but what is known. Where the diagram
ends cannot be told from the front; but the date behind it is escaped too, and is read from the back.
What is left over between the two is the diagram.
-/

namespace EntityDiagram

namespace Text

/-! ## Reading an escaped text back -/

/-- The characters that are replaced, and the names by which they are referred to. -/
def references : List (Char × Text) :=
  [('&', "amp"), ('<', "lt"), ('>', "gt"), ('"', "#34"), ('\'', "#39")]

/-- A character stands for itself or is referred to by its name, and only references have an
    ampersand in front. -/
theorem escapedChar_cases (c : Char) : (c ≠ '&' ∧ escapedChar c = [c])
    ∨ ∃ name, (c, name) ∈ references ∧ escapedChar c = '&' :: (name ++ [';']) := by
  by_cases hamp : c = '&'
  · subst hamp
    exact .inr ⟨"amp", by decide, rfl⟩
  · by_cases hknown : c ∈ references.map (·.1)
    · right
      simp only [references, List.map_cons, List.map_nil, List.mem_cons, List.not_mem_nil,
        or_false] at hknown
      rcases hknown with rfl | rfl | rfl | rfl | rfl
      · exact absurd rfl hamp
      · exact ⟨"lt", by decide, rfl⟩
      · exact ⟨"gt", by decide, rfl⟩
      · exact ⟨"#34", by decide, rfl⟩
      · exact ⟨"#39", by decide, rfl⟩
    · left
      simp only [references, List.map_cons, List.map_nil, List.mem_cons, List.not_mem_nil,
        or_false, not_or] at hknown
      refine ⟨hamp, ?_⟩
      simp [escapedChar, hknown]

theorem references_inj : ∀ r ∈ references, ∀ r' ∈ references, r.2 = r'.2 → r = r' := by decide

theorem not_mem_reference : ∀ r ∈ references, ';' ∉ r.2 := by decide

/-- The first character of an escaped text can be told from it, and so can the rest. -/
theorem escapedChar_append_injective {c d : Char} {t u : Text}
    (h : escapedChar c ++ t = escapedChar d ++ u) : c = d ∧ t = u := by
  rcases escapedChar_cases c with ⟨hc, hplain⟩ | ⟨name, hname, hreferred⟩
  · rcases escapedChar_cases d with ⟨-, hplain'⟩ | ⟨name', -, hreferred'⟩
    · rw [hplain, hplain'] at h
      exact List.cons.inj h
    · rw [hplain, hreferred'] at h
      exact absurd (List.cons.inj h).1 hc
  · rcases escapedChar_cases d with ⟨hd, hplain'⟩ | ⟨name', hname', hreferred'⟩
    · rw [hreferred, hplain'] at h
      exact absurd (List.cons.inj h).1.symm hd
    · rw [hreferred, hreferred'] at h
      have hbehind : name ++ ';' :: t = name' ++ ';' :: u := by simpa using h
      obtain rfl : name = name' := Pattern.eq_of_append_cons (not_mem_reference _ hname)
        (not_mem_reference _ hname') hbehind
      have hsame : (c, name) = (d, name) := references_inj _ hname _ hname' rfl
      exact ⟨congrArg Prod.fst hsame, (List.cons.inj (List.append_cancel_left hbehind)).2⟩

/-- **Escaping loses nothing.** -/
theorem escaped_injective {t u : Text} (h : escaped t = escaped u) : t = u := by
  induction t generalizing u with
  | nil =>
    cases u with
    | nil => rfl
    | cons d u =>
      rcases escapedChar_cases d with ⟨-, hd⟩ | ⟨name, -, hd⟩ <;> simp [escaped, hd] at h
  | cons c t ih =>
    cases u with
    | nil => rcases escapedChar_cases c with ⟨-, hc⟩ | ⟨name, -, hc⟩ <;> simp [escaped, hc] at h
    | cons d u =>
      obtain ⟨rfl, hrest⟩ := escapedChar_append_injective h
      rw [ih hrest]

theorem not_mem_escaped {c : Char} (hc : IsMarkup c) (t : Text) : c ∉ escaped t :=
  List.count_eq_zero.mp (count_escaped hc t)

/-! ## Slots -/

/-- A slot with escaped text is read from the front if a character follows that such text does not
    have. -/
theorem escaped_append_injective {c : Char} (hc : IsMarkup c) {t u v w : Text}
    (h : escaped t ++ c :: v = escaped u ++ c :: w) : t = u ∧ v = w := by
  have hslot : escaped t = escaped u :=
    Pattern.eq_of_append_cons (not_mem_escaped hc t) (not_mem_escaped hc u) h
  rw [hslot] at h
  exact ⟨escaped_injective hslot, (List.cons.inj (List.append_cancel_left h)).2⟩

/-- And from the back if such a character comes before, with none behind it up to the slot. -/
theorem append_escaped_injective {c : Char} (hc : IsMarkup c) {t u v w fixed : Text}
    (hfixed : c ∉ fixed) (h : v ++ c :: (fixed ++ escaped t) = w ++ c :: (fixed ++ escaped u)) :
    v = w ∧ t = u := by
  have hend : ∀ t, ∀ x ∈ fixed ++ escaped t, (x != c) = true := by
    intro t x hx
    rw [bne_iff_ne]
    rintro rfl
    rcases List.mem_append.mp hx with hx | hx
    · exact hfixed hx
    · exact not_mem_escaped hc t hx
  have hsplit : (v ++ [c]) ++ (fixed ++ escaped t) = (w ++ [c]) ++ (fixed ++ escaped u) := by
    simpa using h
  obtain ⟨hfront, hback⟩ := Pattern.eq_of_append_stops_behind (· != c) (hend t) (hend u)
    (by simp) (by simp) hsplit
  exact ⟨List.append_cancel_right hfront, escaped_injective (List.append_cancel_left hback)⟩

end Text

namespace Viewer

open Text

/-! ## The page -/

/-- What a fixed piece of the page comes to. -/
def fixedText (lines : List String) : Text := Text.join ['\n'] (lines.map String.toList)

/-- The part of the page behind the diagram that does not depend on anything, up to the last tag before
    the date. -/
def toDate : Text := "\n            </div>\n        </div>\n\n        <div class=\"footer\">\n            <p"

theorem fixedText_footer : fixedText footer = toDate ++ '>' :: "Generated on ".toList := by
  decide +kernel

theorem page_eq (inputs : Inputs) : page inputs = fixedText documentHead ++ (escaped inputs.title
    ++ (fixedText scriptReference ++ (escaped inputs.script ++ (fixedText styleAndHeader
    ++ (escaped inputs.title ++ (fixedText controls ++ (inputs.diagram ++ (fixedText footer
    ++ (escaped inputs.date ++ fixedText behaviour))))))))) := by
  simp only [page, pieces, List.flatMap_cons, List.flatMap_nil, Piece.fill, fixedText,
    List.append_nil]

/-- **A page says what it was made from.** -/
theorem page_injective : Function.Injective page := by
  intro i j h
  obtain ⟨afterTitle, htagged⟩ : ∃ rest, fixedText scriptReference = '<' :: rest := ⟨_, rfl⟩
  obtain ⟨afterScript, hquoted⟩ : ∃ rest, fixedText styleAndHeader = '"' :: rest := ⟨_, rfl⟩
  have hless : IsMarkup '<' := .inl rfl
  have hgreater : IsMarkup '>' := .inr (.inl rfl)
  have hmark : IsMarkup '"' := .inr (.inr (.inl rfl))
  rw [page_eq, page_eq, htagged, hquoted, fixedText_footer] at h
  simp only [List.cons_append] at h
  obtain ⟨htitle, hbehindTitle⟩ := escaped_append_injective hless (List.append_cancel_left h)
  obtain ⟨hscript, hbehindScript⟩ :=
    escaped_append_injective hmark (List.append_cancel_left hbehindTitle)
  rw [htitle] at hbehindScript
  -- The title comes again, and what is left begins with the diagram and ends with the last piece.
  have hfromDiagram := List.append_cancel_left (List.append_cancel_left
    (List.append_cancel_left hbehindScript))
  have hback : (i.diagram ++ toDate) ++ '>' :: ("Generated on ".toList ++ escaped i.date)
        ++ fixedText behaviour
      = (j.diagram ++ toDate) ++ '>' :: ("Generated on ".toList ++ escaped j.date)
        ++ fixedText behaviour := by
    simpa only [List.append_assoc, List.cons_append] using hfromDiagram
  obtain ⟨hdiagram, hdate⟩ :=
    append_escaped_injective hgreater (by decide) (List.append_cancel_right hback)
  cases i
  cases j
  obtain rfl := List.append_cancel_right hdiagram
  subst htitle hscript hdate
  rfl

theorem diagram_infix_page (inputs : Inputs) : inputs.diagram <:+: page inputs := by
  rw [page_eq]
  refine ⟨fixedText documentHead ++ (escaped inputs.title ++ (fixedText scriptReference
    ++ (escaped inputs.script ++ (fixedText styleAndHeader ++ (escaped inputs.title
    ++ fixedText controls))))), fixedText footer ++ (escaped inputs.date ++ fixedText behaviour), ?_⟩
  simp only [List.append_assoc]

/-! ## Requests -/

section Requests

variable {today usualScript today' usualScript' d t g u d' t' g' u' : Text}

/-- What a request says in full is what the page is made from. -/
theorem pageFor_of_given (hu : u ≠ []) :
    pageFor today usualScript ⟨d, t, some g, some u⟩ = page ⟨d, t, g, u⟩ := by
  obtain ⟨c, u, rfl⟩ := List.exists_cons_of_ne_nil hu
  rfl

/-- **A page determines what it was asked to show, and only the diagram adds markup to it.** Whatever the
    date and the script are, and whatever stands in the diagram. -/
theorem pageFor_recoverable (hu : u ≠ []) (hu' : u' ≠ []) :
    (pageFor today usualScript ⟨d, t, some g, some u⟩
        = pageFor today' usualScript' ⟨d', t', some g', some u'⟩ →
      d = d' ∧ t = t' ∧ g = g' ∧ u = u')
      ∧ d <:+: pageFor today usualScript ⟨d, t, some g, some u⟩
      ∧ ∀ c, Text.IsMarkup c → (pageFor today usualScript ⟨d, t, some g, some u⟩).count c
        = (page ⟨[], [], [], []⟩).count c + d.count c := by
  rw [pageFor_of_given hu, pageFor_of_given hu']
  refine ⟨fun h => ?_, diagram_infix_page ⟨d, t, g, u⟩, fun c hc => count_page hc _⟩
  have hinputs := page_injective h
  rw [Inputs.mk.injEq] at hinputs
  exact hinputs

/-- The law at work: a tag in the title shows, but not as a tag. -/
theorem pageFor_recoverable_tagged :
    let shown (title : Text) := pageFor "2024-01-15" "usual.js"
      ⟨"erDiagram\n", title, some "2024-05-01", some "mermaid.js"⟩
    shown "<b>Shop</b>" ≠ shown "Shop"
      ∧ "erDiagram\n".toList <:+: shown "<b>Shop</b>"
      ∧ (shown "<b>Shop</b>").count '<' = (page ⟨[], [], [], []⟩).count '<' := by
  intro shown
  have hscript : ("mermaid.js" : Text) ≠ [] := by decide
  obtain ⟨hdetermined, hverbatim, hcount⟩ :=
    @pageFor_recoverable "2024-01-15" "usual.js" "2024-01-15" "usual.js" "erDiagram\n" "<b>Shop</b>"
      "2024-05-01" "mermaid.js" "erDiagram\n" "Shop" "2024-05-01" "mermaid.js" hscript hscript
  have hplain : ("erDiagram\n" : Text).count '<' = 0 := by decide
  refine ⟨fun h => ?_, hverbatim, ?_⟩
  · obtain ⟨-, htitle, -⟩ := hdetermined h
    exact absurd htitle (by decide)
  · rw [hcount '<' (.inl rfl), hplain, Nat.add_zero]

end Requests

end Viewer
end EntityDiagram
