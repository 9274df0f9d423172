import EntityDiagram.Proofs.Diagram
import EntityDiagram.Proofs.FileTree.Ways
import EntityDiagram.Proofs.Generation.Publishing

/-!
# What the title does to the page

The title comes into a page by two ways. As the name and the heading of the page it is escaped. But
it is also a comment in the diagram, and the diagram goes into the page as it stands. So the markup
of a title is markup of the page: of two runs that differ in the title only, the pages differ in
each of the characters that make markup by just as many as the titles do
(`title_adds_its_markup`).

To compare the pages of two runs one has to know that they were written to the same place. Links may
lead the path to the page anywhere, even to the file that the diagram is written to afterwards, but
what a file holds does not decide where a path leads (`SameWays`), and so neither does the title.
-/

namespace EntityDiagram

namespace Generation

open Work FileTree

variable {w w₁ w₂ : Workspace} {c : Config} {title title' : Text} {ch : Char}

/-! ## Where the page is read -/

section Stages

variable {here : Location} {page diagram page' diagram' : Text}
  {before cleaned made paged after cleaned' made' paged' after' : FileTree}
  (h : Stages here c page diagram before cleaned made paged after)
include h

/-- What is written does not decide which tree it is written into. -/
theorem Stages.made_eq (h' : Stages here c page' diagram' before cleaned' made' paged' after') :
    made = made' := by
  have hcleaned : cleaned = cleaned' := by
    have hc := h.clean
    have hc' := h'.clean
    cases hclean : c.cleanOutput with
    | false =>
      simp only [hclean, Bool.false_eq_true, if_false] at hc hc'
      rw [hc, hc']
    | true =>
      simp only [hclean, if_true] at hc hc'
      exact congrArg Prod.fst (hc.symm.trans hc')
  have hmade := h.make
  rw [hcleaned, h'.make] at hmade
  exact (congrArg Prod.fst hmade).symm

/-- The page is read where it was written, unless the diagram was written there too. -/
theorem Stages.read_page : ∃ toPage toDiagram : Found,
    made.find here true (c.outputDir.child pageName) = .ok toPage
      ∧ made.find here true (c.outputDir.child diagramName) = .ok toDiagram
      ∧ after.read here (c.outputDir.child pageName) = .ok (Utf8.encode
          (if toPage.location = toDiagram.location then diagram else page)) := by
  obtain ⟨toPage, hpage, -, hpaged⟩ := write_ok h.page
  obtain ⟨toDiagram, hdiagram, -, hafter⟩ := write_ok h.diagram
  have hways := sameWays_write h.page
  have hread := (hways.trans (sameWays_write h.diagram)).find hpage
  refine ⟨toPage, toDiagram.over made, hpage, hways.symm.find hdiagram, ?_⟩
  unfold FileTree.read
  rw [hread, Found.over, hafter, hpaged]
  by_cases hsame : toPage.location = toDiagram.location
  · simp [Found.over, hsame]
  · simp [Found.over, hsame]

end Stages

/-! ## Counting markup -/

theorem count_published {schema : Schema} {after after' : FileTree} (hch : Text.IsMarkup ch)
    (h : Publishes w { c with title } schema after)
    (h' : Publishes w { c with title := title' } schema after') :
    ∃ bytes bytes', after.read w.here (c.outputDir.child pageName) = .ok bytes
      ∧ after'.read w.here (c.outputDir.child pageName) = .ok bytes'
      ∧ bytes.count (UInt8.ofNat ch.toNat) + title'.count ch
        = bytes'.count (UInt8.ofNat ch.toNat) + title.count ch := by
  obtain ⟨settings, cleaned, made, paged, -, -, hstages⟩ := h
  obtain ⟨settings', cleaned', made', paged', -, -, hstages'⟩ := h'
  obtain rfl : made = made' := hstages.made_eq ⟨hstages'.1, hstages'.2, hstages'.3, hstages'.4⟩
  obtain ⟨toPage, toDiagram, hpage, hdiagram, hread⟩ := hstages.read_page
  obtain ⟨toPage', toDiagram', hpage', hdiagram', hread'⟩ := hstages'.read_page
  obtain rfl : toPage = toPage' := Except.ok.inj (hpage.symm.trans hpage')
  obtain rfl : toDiagram = toDiagram' := Except.ok.inj (hdiagram.symm.trans hdiagram')
  refine ⟨_, _, hread, hread', ?_⟩
  have hascii : ch.toNat < 0x80 := by
    rcases hch with rfl | rfl | rfl | rfl <;> decide
  rw [Utf8.count_encode hascii, Utf8.count_encode hascii]
  -- Whichever of the two texts is read, it has the markup of the title once.
  split
  · rw [Diagram.count_render schema title, Diagram.count_render schema title']
    omega
  · rw [Viewer.count_page hch, Viewer.count_page hch (inputsOf _ title' _ _)]
    simp only [inputsOf]
    rw [Diagram.count_render schema title, Diagram.count_render schema title']
    omega

/-- The commands that draw a diagram as a configuration says. -/
inductive Draws : (Config → Work Summary) → Prop
  | generate : Draws Generation.generate
  | generateFromLiteral (document : Json) : Draws (Generation.generateFromLiteral document)

/-- **A title adds its markup to the page.** The pages of two runs that differ in the title only
    differ, in each of the characters that make markup, by as many as the titles do. -/
theorem title_adds_its_markup {run : Config → Work Summary} {summary summary' : Summary}
    (hrun : Draws run) (hch : Text.IsMarkup ch)
    (h : (run { c with title }).perform w = (.ok summary, w₁))
    (h' : (run { c with title := title' }).perform w = (.ok summary', w₂)) :
    ∃ bytes bytes', w₁.tree.read w.here (c.outputDir.child pageName) = .ok bytes
      ∧ w₂.tree.read w.here (c.outputDir.child pageName) = .ok bytes'
      ∧ bytes.count (UInt8.ofNat ch.toNat) + title'.count ch
        = bytes'.count (UInt8.ofNat ch.toNat) + title.count ch := by
  cases hrun with
  | generate =>
    obtain ⟨found, hfound, hpublished⟩ := generate_ok h
    obtain ⟨found', hfound', hpublished'⟩ := generate_ok h'
    -- A survey takes no notice of the title.
    obtain rfl : found = found' := Except.ok.inj (hfound.symm.trans hfound')
    exact count_published hch hpublished hpublished'
  | generateFromLiteral document =>
    obtain ⟨schema, hschema, hpublished⟩ := generateFromLiteral_ok h
    obtain ⟨schema', hschema', hpublished'⟩ := generateFromLiteral_ok h'
    obtain rfl : schema = schema' := Except.ok.inj (hschema.symm.trans hschema')
    exact count_published hch hpublished hpublished'

/-- The law at work: a title with a tag in it brings that tag into the page. -/
theorem title_adds_its_markup_bold :
    let run := generateFromLiteral (.object [("entities", .list [.object [("name", .text "A")]])])
    let c : Config := Config.of {} {}
    ∃ summary w₁ summary' w₂,
      (run { c with title := "A" }).perform (workspaceOf .empty) = (.ok summary, w₁)
        ∧ (run { c with title := "<b>A" }).perform (workspaceOf .empty) = (.ok summary', w₂)
        ∧ ∃ bytes bytes', w₁.tree.read [] (c.outputDir.child pageName) = .ok bytes
          ∧ w₂.tree.read [] (c.outputDir.child pageName) = .ok bytes'
          ∧ bytes'.count (UInt8.ofNat '<'.toNat) = bytes.count (UInt8.ofNat '<'.toNat) + 1 := by
  intro run c
  obtain ⟨summary, h⟩ := exists_of_isOk (x := run { c with title := "A" }) (w := workspaceOf .empty)
    (by decide +kernel)
  obtain ⟨summary', h'⟩ := exists_of_isOk (x := run { c with title := "<b>A" })
    (w := workspaceOf .empty) (by decide +kernel)
  have hmarkup : Text.IsMarkup '<' := .inl rfl
  obtain ⟨bytes, bytes', hread, hread', hcount⟩ :=
    title_adds_its_markup (.generateFromLiteral _) hmarkup h h'
  refine ⟨summary, _, summary', _, h, h', bytes, bytes', hread, hread', ?_⟩
  have hplain : ("A" : Text).count '<' = 0 := by decide
  have hbold : ("<b>A" : Text).count '<' = 1 := by decide
  omega

end Generation
end EntityDiagram
