import EntityDiagram.Diagram
import EntityDiagram.Proofs.Text.Splitting
import EntityDiagram.Text.Blank

/-!
# What a diagram tells of its schema

A diagram is read back in two cuts. Cut at the line feeds it gives its lines, and a line cut at the
spaces gives its fields, of which the first four are empty, because every line of the body is
indented. What comes fifth tells the lines apart: nothing in the line of an attribute, which is
indented twice, a closing brace at the end of an entity, and otherwise a name. Behind a name an
opening brace begins an entity, and anything else is an edge. So the blocks of a diagram can be
taken off one after another, however long they are, and each line gives up all that was put into
it: two schemas with one diagram agree in everything that is drawn (`render_determines`).

The cuts find what was put in only if that has no separators of its own. Names and types must have
no white space in them, labels and the title no line feed. Labels may have quotation marks, because
a label goes up to the *last* mark of its line.
-/

namespace EntityDiagram

/-- A text in one piece: not empty, and without white space. -/
structure Text.Solid (t : Text) : Prop where
  ne_nil : t ≠ []
  notBlank : ∀ c ∈ t, Text.isBlank c = false

instance (t : Text) : Decidable t.Solid :=
  decidable_of_iff (t ≠ [] ∧ t.all (!Text.isBlank ·) = true)
    ⟨fun h => ⟨h.1, by simpa using h.2⟩, fun h => ⟨h.1, by simpa using h.2⟩⟩

theorem Text.Solid.not_mem {t : Text} (h : t.Solid) {c : Char} (hc : Text.isBlank c = true) :
    c ∉ t := by
  intro hmem
  rw [h.notBlank c hmem] at hc
  exact absurd hc (by simp)

/-- An entity whose names and types are each in one piece. -/
structure Entity.Legible (e : Entity) : Prop where
  name : e.name.Solid
  attributes : ∀ a ∈ e.attributes, a.name.Solid ∧ a.type.Solid

/-- A relationship between names in one piece, with a label of one line and of a type that is
    known. -/
structure Relationship.Legible (r : Relationship) : Prop where
  source : r.source.Solid
  target : r.target.Solid
  label : '\n' ∉ r.label
  type : ∃ k : Cardinality, r.type = k.code

structure Schema.Legible (s : Schema) : Prop where
  entities : ∀ e ∈ s.entities, e.Legible
  relationships : ∀ r ∈ s.relationships, r.Legible

/-- What is drawn of an entity: its name and its attributes. -/
def Entity.drawn (e : Entity) : Text × List Attribute := (e.name, e.attributes)

/-- What is drawn of a relationship: its ends, its label and its type. -/
def Relationship.drawn (r : Relationship) : Text × Text × Text × Text :=
  (r.source, r.target, r.label, r.type)

namespace Diagram

/-- The title stands in the diagram once, as it is. -/
theorem count_render (s : Schema) (title : Text) (c : Char) :
    (render s title).count c = (render s []).count c + title.count c := by
  simp only [render, lines, List.cons_append, List.nil_append, List.flatMap_cons, List.count_append,
    List.count_nil]
  omega

/-! ## The fields of a line -/

def fields (line : Text) : List Text := Text.split ' ' line

theorem fields_indent (t : Text) : fields (indent ++ t) = [[], [], [], []] ++ fields t := rfl

/-- A piece and a space behind it are the first field and the cut after it. -/
theorem fields_append {piece : Text} (h : piece.Solid) (t : Text) :
    fields (piece ++ ' ' :: t) = piece :: fields t := Text.split_append (h.not_mem rfl)

theorem fields_solid {piece : Text} (h : piece.Solid) : fields piece = [piece] :=
  Text.split_eq_singleton (h.not_mem rfl)

def flags (a : Attribute) : List Text :=
  (if a.primary then [("PK" : Text)] else []) ++ (if a.nullable then [("NULL" : Text)] else [])

theorem fields_attributeLine {a : Attribute} (hname : a.name.Solid) (htype : a.type.Solid) :
    fields (attributeLine a)
      = [[], [], [], [], [], [], [], []] ++ a.type :: a.name :: flags a := by
  have htypeOf : (if a.type.isEmpty then ColumnType.string.name else a.type) = a.type := by
    simp [htype.ne_nil]
  have hflags : ∀ front : Text, front.Solid → fields (front
      ++ ((if a.primary then (" PK" : Text) else []) ++ if a.nullable then (" NULL" : Text) else []))
        = front :: flags a := by
    intro front hfront
    unfold flags
    cases a.primary <;> cases a.nullable
    · simpa using fields_solid hfront
    · exact fields_append hfront _
    · exact fields_append hfront _
    · exact fields_append hfront _
  have hline : attributeLine a = indent ++ (indent ++ (a.type ++ ' ' :: (a.name
      ++ ((if a.primary then (" PK" : Text) else [])
        ++ if a.nullable then (" NULL" : Text) else [])))) := by
    unfold attributeLine
    rw [htypeOf]
    simp only [List.append_assoc]
    rfl
  rw [hline, fields_indent, fields_indent, fields_append htype, hflags a.name hname]
  rfl

theorem flags_injective {a b : Attribute} (h : flags a = flags b) :
    a.primary = b.primary ∧ a.nullable = b.nullable := by
  unfold flags at h
  cases hp : a.primary <;> cases hn : a.nullable <;> cases hp' : b.primary <;>
    cases hn' : b.nullable <;> simp [hp, hn, hp', hn'] at h ⊢

def header (e : Entity) : Text := indent ++ e.name ++ (" \x7b" : Text)

def closing : Text := indent ++ ("\x7d" : Text)

theorem fields_header {e : Entity} (h : e.Legible) :
    fields (header e) = [[], [], [], []] ++ [e.name, ("\x7b" : Text)] := by
  have hline : header e = indent ++ (e.name ++ ' ' :: ("\x7b" : Text)) := by
    simp only [header, List.append_assoc]
    rfl
  rw [hline, fields_indent, fields_append h.name]
  rfl

theorem fields_closing : fields closing = [[], [], [], []] ++ [("\x7d" : Text)] := rfl

theorem edgeSymbol_code (k : Cardinality) : edgeSymbol k.code = k.edge := by
  cases k <;> rfl

theorem solid_edge (k : Cardinality) : Text.Solid k.edge := by
  cases k <;> decide

theorem edge_injective {k k' : Cardinality} (h : k.edge = k'.edge) : k = k' := by
  revert h
  cases k <;> cases k' <;> decide

/-- The label with its marks is cut at its own spaces. -/
theorem fields_relationshipLine {r : Relationship} (h : r.Legible) {k : Cardinality}
    (hk : r.type = k.code) : fields (relationshipLine r) = [[], [], [], []]
      ++ r.source :: k.edge :: r.target :: (":" : Text) :: fields ('"' :: (r.label ++ ['"'])) := by
  have hedge : r.cardinality = k.edge := by
    rw [Relationship.cardinality, hk, edgeSymbol_code]
  have hline : relationshipLine r = indent ++ (r.source ++ ' ' :: (k.edge ++ ' ' :: (r.target
      ++ ' ' :: ((":" : Text) ++ ' ' :: '"' :: (r.label ++ ['"']))))) := by
    simp only [relationshipLine, hedge, List.append_assoc]
    rfl
  rw [hline, fields_indent, fields_append h.source, fields_append (solid_edge k),
    fields_append h.target, fields_append (by decide)]

/-! ## Lines apart -/

theorem attributeLine_injective {a b : Attribute} (ha : a.name.Solid ∧ a.type.Solid)
    (hb : b.name.Solid ∧ b.type.Solid) (h : attributeLine a = attributeLine b) : a = b := by
  have hfields := congrArg fields h
  rw [fields_attributeLine ha.1 ha.2, fields_attributeLine hb.1 hb.2] at hfields
  simp only [List.append_cancel_left_eq, List.cons.injEq] at hfields
  obtain ⟨htype, hname, hflags⟩ := hfields
  obtain ⟨hprimary, hnullable⟩ := flags_injective hflags
  cases a
  cases b
  simp_all

theorem relationshipLine_injective {r r' : Relationship} (hr : r.Legible) (hr' : r'.Legible)
    (h : relationshipLine r = relationshipLine r') : r.drawn = r'.drawn := by
  obtain ⟨k, hk⟩ := hr.type
  obtain ⟨k', hk'⟩ := hr'.type
  have hfields := congrArg fields h
  rw [fields_relationshipLine hr hk, fields_relationshipLine hr' hk'] at hfields
  simp only [List.append_cancel_left_eq, List.cons.injEq, true_and] at hfields
  obtain ⟨hsource, hedge, htarget, hquoted⟩ := hfields
  have hlabel := Text.split_injective hquoted
  simp only [List.cons.injEq, true_and, List.append_cancel_right_eq] at hlabel
  rw [Relationship.drawn, Relationship.drawn, hsource, htarget, hlabel, hk, hk', edge_injective hedge]

theorem closing_ne_attributeLine {a : Attribute} (ha : a.name.Solid ∧ a.type.Solid) :
    closing ≠ attributeLine a := by
  intro h
  have hfields := congrArg fields h
  rw [fields_closing, fields_attributeLine ha.1 ha.2] at hfields
  simp at hfields

theorem header_ne_relationshipLine {e : Entity} {r : Relationship} (he : e.Legible)
    (hr : r.Legible) : header e ≠ relationshipLine r := by
  intro h
  obtain ⟨k, hk⟩ := hr.type
  have hfields := congrArg fields h
  rw [fields_header he, fields_relationshipLine hr hk] at hfields
  simp at hfields

/-! ## Blocks apart -/

/-- The lines below the title: a block for each entity, and a line for each relationship. -/
def body (entities : List Entity) (relationships : List Relationship) : List Text :=
  entities.flatMap (fun e => entityBlock e ++ [[]]) ++ relationships.map relationshipLine

theorem body_cons (e : Entity) (entities : List Entity) (relationships : List Relationship) :
    body (e :: entities) relationships
      = header e :: (e.attributes.map attributeLine
          ++ closing :: [] :: body entities relationships) := by
  simp only [body, entityBlock, header, closing, List.flatMap_cons, List.append_assoc,
    List.cons_append, List.nil_append]

theorem lines_eq (s : Schema) (title : Text) : lines s title
    = ("erDiagram" : Text) :: (indent ++ ("%% " : Text) ++ title) :: []
      :: body s.entities s.relationships := by
  simp only [lines, body, List.append_assoc, List.cons_append, List.nil_append]

/-- The attributes of an entity end where the brace closes, so what follows is told from them. -/
theorem attributes_injective {as bs : List Attribute} {x y : List Text}
    (has : ∀ a ∈ as, a.name.Solid ∧ a.type.Solid) (hbs : ∀ b ∈ bs, b.name.Solid ∧ b.type.Solid)
    (h : as.map attributeLine ++ closing :: x = bs.map attributeLine ++ closing :: y) :
    as = bs ∧ x = y := by
  induction as generalizing bs with
  | nil =>
    cases bs with
    | nil => simpa using h
    | cons b bs =>
      simp only [List.map_nil, List.nil_append, List.map_cons, List.cons_append,
        List.cons.injEq] at h
      exact absurd h.1 (closing_ne_attributeLine (hbs b List.mem_cons_self))
  | cons a as ih =>
    cases bs with
    | nil =>
      simp only [List.map_nil, List.nil_append, List.map_cons, List.cons_append,
        List.cons.injEq] at h
      exact absurd h.1.symm (closing_ne_attributeLine (has a List.mem_cons_self))
    | cons b bs =>
      simp only [List.map_cons, List.cons_append, List.cons.injEq] at h
      obtain rfl := attributeLine_injective (has a List.mem_cons_self) (hbs b List.mem_cons_self) h.1
      obtain ⟨rfl, hxy⟩ := ih (fun a ha => has a (List.mem_cons_of_mem _ ha))
        (fun b hb => hbs b (List.mem_cons_of_mem _ hb)) h.2
      exact ⟨rfl, hxy⟩

theorem relationships_injective {rs rs' : List Relationship} (hrs : ∀ r ∈ rs, r.Legible)
    (hrs' : ∀ r ∈ rs', r.Legible) (h : rs.map relationshipLine = rs'.map relationshipLine) :
    rs.map (·.drawn) = rs'.map (·.drawn) := by
  induction rs generalizing rs' with
  | nil =>
    cases rs' with
    | nil => rfl
    | cons _ _ => simp at h
  | cons r rs ih =>
    cases rs' with
    | nil => simp at h
    | cons r' rs' =>
      simp only [List.map_cons, List.cons.injEq] at h ⊢
      exact ⟨relationshipLine_injective (hrs r List.mem_cons_self) (hrs' r' List.mem_cons_self) h.1,
        ih (fun r hr => hrs r (List.mem_cons_of_mem _ hr))
          (fun r hr => hrs' r (List.mem_cons_of_mem _ hr)) h.2⟩

/-- No entity can be taken for a relationship: the two begin with different lines. -/
theorem body_nil_ne_body_cons {e : Entity} {es : List Entity} {rs rs' : List Relationship}
    (he : e.Legible) (hrs' : ∀ r ∈ rs', r.Legible) : body (e :: es) rs ≠ body [] rs' := by
  rw [body_cons]
  cases rs' with
  | nil => simp [body]
  | cons r rs' =>
    intro h
    simp only [body, List.flatMap_nil, List.nil_append, List.map_cons, List.cons.injEq] at h
    exact header_ne_relationshipLine he (hrs' r List.mem_cons_self) h.1

/-- The induction is on the entities; when they are used up on both sides, edges are left. -/
theorem body_injective {es es' : List Entity} {rs rs' : List Relationship}
    (hes : ∀ e ∈ es, e.Legible) (hes' : ∀ e ∈ es', e.Legible) (hrs : ∀ r ∈ rs, r.Legible)
    (hrs' : ∀ r ∈ rs', r.Legible) (h : body es rs = body es' rs') :
    es.map (·.drawn) = es'.map (·.drawn) ∧ rs.map (·.drawn) = rs'.map (·.drawn) := by
  induction es generalizing es' with
  | nil =>
    cases es' with
    | nil => exact ⟨rfl, relationships_injective hrs hrs' h⟩
    | cons e' es' => exact absurd h.symm (body_nil_ne_body_cons (hes' e' List.mem_cons_self) hrs)
  | cons e es ih =>
    cases es' with
    | nil => exact absurd h (body_nil_ne_body_cons (hes e List.mem_cons_self) hrs')
    | cons e' es' =>
      have he := hes e List.mem_cons_self
      have he' := hes' e' List.mem_cons_self
      rw [body_cons, body_cons, List.cons.injEq] at h
      obtain ⟨hheader, hrest⟩ := h
      have hname : e.name = e'.name := by
        have hfields := congrArg fields hheader
        rw [fields_header he, fields_header he'] at hfields
        simpa using hfields
      obtain ⟨hattributes, hbelow⟩ := attributes_injective he.attributes he'.attributes hrest
      obtain ⟨hentities, hrelationships⟩ := ih (fun e he => hes e (List.mem_cons_of_mem _ he))
        (fun e he => hes' e (List.mem_cons_of_mem _ he)) (List.cons.inj hbelow).2
      refine ⟨?_, hrelationships⟩
      rw [List.map_cons, List.map_cons, hentities, Entity.drawn, Entity.drawn, hname, hattributes]

/-! ## The whole text -/

theorem singleLine_attributeLine {a : Attribute} (h : a.name.Solid ∧ a.type.Solid) :
    '\n' ∉ attributeLine a := by
  have hname : '\n' ∉ a.name := h.1.not_mem rfl
  have htype : '\n' ∉ a.type := h.2.not_mem rfl
  unfold attributeLine
  simp only [List.mem_append, not_or]
  refine ⟨⟨⟨⟨⟨⟨by decide, by decide⟩, ?_⟩, by decide⟩, hname⟩, ?_⟩, ?_⟩
  · split
    · decide
    · exact htype
  · split <;> decide
  · split <;> decide

theorem singleLine_entityBlock {e : Entity} (h : e.Legible) :
    ∀ line ∈ entityBlock e, '\n' ∉ line := by
  intro line hline
  have hname : '\n' ∉ e.name := h.name.not_mem rfl
  rw [entityBlock, List.mem_append, List.mem_append, List.mem_singleton, List.mem_singleton] at hline
  rcases hline with (rfl | hline) | rfl
  · simp only [List.mem_append, not_or]
    exact ⟨⟨by decide, hname⟩, by decide⟩
  · obtain ⟨a, ha, rfl⟩ := List.mem_map.mp hline
    exact singleLine_attributeLine (h.attributes a ha)
  · decide

theorem singleLine_relationshipLine {r : Relationship} (h : r.Legible) :
    '\n' ∉ relationshipLine r := by
  have hsource : '\n' ∉ r.source := h.source.not_mem rfl
  have htarget : '\n' ∉ r.target := h.target.not_mem rfl
  have hedge : '\n' ∉ r.cardinality := by
    obtain ⟨k, hk⟩ := h.type
    rw [Relationship.cardinality, hk, edgeSymbol_code]
    exact (solid_edge k).not_mem rfl
  unfold relationshipLine
  simp only [List.mem_append, not_or]
  exact ⟨⟨⟨⟨⟨⟨⟨⟨by decide, hsource⟩, by decide⟩, hedge⟩, by decide⟩, htarget⟩, by decide⟩, h.label⟩,
    by decide⟩

/-- Each line of a diagram is one line. -/
theorem singleLine_lines {s : Schema} {title : Text} (hs : s.Legible) (htitle : '\n' ∉ title) :
    ∀ line ∈ lines s title, '\n' ∉ line := by
  intro line hline
  rw [lines_eq, body] at hline
  simp only [List.mem_cons, List.mem_append, List.mem_flatMap, List.mem_map] at hline
  rcases hline with rfl | rfl | rfl | ⟨e, he, hline⟩ | ⟨r, hr, rfl⟩
  · decide
  · simp only [List.mem_append, not_or]
    exact ⟨⟨by decide, by decide⟩, htitle⟩
  · simp
  · rcases hline with hline | rfl | hline
    · exact singleLine_entityBlock (hs.entities e he) line hline
    · simp
    · exact absurd hline (List.not_mem_nil)
  · exact singleLine_relationshipLine (hs.relationships r hr)

/-- What is drawn is all that a diagram is made of. -/
theorem render_congr {s s' : Schema} (hentities : s.entities.map (·.drawn) = s'.entities.map (·.drawn))
    (hrelationships : s.relationships.map (·.drawn) = s'.relationships.map (·.drawn))
    (title : Text) : render s title = render s' title := by
  have hblocks : ∀ s : Schema, body s.entities s.relationships
      = (s.entities.map (·.drawn)).flatMap (fun d => entityBlock ⟨d.1, [], d.2⟩ ++ [[]])
        ++ (s.relationships.map (·.drawn)).map fun d =>
          relationshipLine ⟨d.1, d.2.1, d.2.2.1, d.2.2.2, none⟩ := by
    intro s
    rw [List.flatMap_map, List.map_map]
    rfl
  rw [render, render, lines_eq, lines_eq, hblocks, hblocks, hentities, hrelationships]

/-- **A diagram determines what is drawn.** If two schemas have the same diagram under two titles,
    then the titles are the same, and the schemas agree in their entities, with all attributes, and in
    their relationships, each in the order in which they are drawn. -/
theorem render_determines {s s' : Schema} {title title' : Text} (hs : s.Legible) (hs' : s'.Legible)
    (htitle : '\n' ∉ title) (htitle' : '\n' ∉ title') (h : render s title = render s' title') :
    title = title' ∧ s.entities.map (·.drawn) = s'.entities.map (·.drawn)
      ∧ s.relationships.map (·.drawn) = s'.relationships.map (·.drawn) := by
  have hlines : lines s title = lines s' title' := by
    have hcut := congrArg (Text.split '\n') h
    rw [render, render, Text.split_flatMap (singleLine_lines hs htitle),
      Text.split_flatMap (singleLine_lines hs' htitle')] at hcut
    exact List.append_cancel_right hcut
  rw [lines_eq, lines_eq] at hlines
  simp only [List.cons.injEq, true_and, List.append_cancel_left_eq] at hlines
  obtain ⟨htitles, hbody⟩ := hlines
  exact ⟨htitles, body_injective hs.entities hs'.entities hs.relationships hs'.relationships hbody⟩

/-! ### At work -/

def authorColumns : List Attribute :=
  [⟨"id", "bigint", true, false⟩, ⟨"PK", "string", false, true⟩]

/-- An author with books. The table name and the description are not drawn. -/
def library (tableName : Text) (description : Option Text) : Schema where
  entities := [⟨"Author", tableName, authorColumns⟩, ⟨"Book", "books", []⟩]
  relationships := [⟨"Author", "Book", "\"his\" books", "1-N", description⟩]

theorem legible_library (tableName : Text) (description : Option Text) :
    (library tableName description).Legible := by
  have hauthor : Text.Solid "Author" := by decide
  have hbook : Text.Solid "Book" := by decide
  have hcolumns : ∀ a ∈ authorColumns, a.name.Solid ∧ a.type.Solid := by decide
  have hlabel : '\n' ∉ ("\"his\" books" : Text) := by decide
  constructor
  · intro e he
    simp only [library, List.mem_cons, List.not_mem_nil, or_false] at he
    rcases he with rfl | rfl
    · exact ⟨hauthor, hcolumns⟩
    · exact ⟨hbook, by simp⟩
  · intro r hr
    rw [library, List.mem_singleton] at hr
    subst hr
    exact ⟨hauthor, hbook, hlabel, .oneToMany, rfl⟩

/-- The law at work: two schemas with one diagram, which differ where nothing is drawn. -/
theorem render_determines_library :
    let s := library "authors" none
    let s' := library "writers" (some "wrote")
    s ≠ s' ∧ render s "Shop" = render s' "Shop"
      ∧ s.entities.map (·.drawn) = s'.entities.map (·.drawn)
      ∧ s.relationships.map (·.drawn) = s'.relationships.map (·.drawn) := by
  intro s s'
  have hentities : ∀ t d, (library t d).entities.map (·.drawn)
      = ([("Author", authorColumns), ("Book", [])] : List (Text × List Attribute)) := fun _ _ => rfl
  have hrelationships : ∀ t d, (library t d).relationships.map (·.drawn)
      = ([("Author", "Book", "\"his\" books", "1-N")] : List (Text × Text × Text × Text)) :=
    fun _ _ => rfl
  have hrender : render s "Shop" = render s' "Shop" :=
    render_congr ((hentities _ _).trans (hentities _ _).symm)
      ((hrelationships _ _).trans (hrelationships _ _).symm) "Shop"
  have hdrawn := (render_determines (legible_library "authors" none)
    (legible_library "writers" (some "wrote")) (by decide) (by decide) hrender).2
  exact ⟨by decide, hrender, hdrawn⟩

end Diagram
end EntityDiagram
