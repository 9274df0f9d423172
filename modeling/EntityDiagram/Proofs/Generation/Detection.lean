import EntityDiagram.Generation.Detection
import EntityDiagram.Proofs.FileTree.Asking

/-!
# What detection answers, and when it does not

Detection asks two things: what the manifest says, and which directories there are. What a manifest
says is a matter of its bytes alone, and two predicates on bytes tell the outcomes of the test apart:

* `Manifest.NamesFramework`: they read as an object whose requirements mention one of the packages;
* `Manifest.Breaks`: they cannot be asked, and for what reason.

Whatever is neither, a malformed document or an object that requires something else or nothing, is a
manifest of some other project (`Manifest.ask_true_iff`, `Manifest.ask_error_iff`). The tree comes
in through `LeadsToDirectory` and `TooLong`, and `detectModels_exactly` puts the two together.
-/

namespace EntityDiagram
namespace Manifest

variable {bytes : List UInt8} {fields : List (Text × Json)} {items : List Json}
variable {required document : Json} {package t : Text} {f : Fault}

/-! ## What is required -/

/-- What is required mentions a package: under its name, as one of several texts, or inside a
    text. -/
inductive Mentions (package : Text) : Json → Prop
  | field {fields : List (Text × Json)} (h : ∃ value, (package, value) ∈ fields) :
      Mentions package (.object fields)
  | item {items : List Json} (h : .text package ∈ items) : Mentions package (.list items)
  | part {t : Text} (h : package <:+: t) : Mentions package (.text t)

/-- A value that was given, and in which nothing can be looked for. -/
inductive NoParts : Json → Prop
  | yes : NoParts (.bool true)
  | integer {n : Int} (h : n ≠ 0) : NoParts (.integer n)
  | decimal {d : Json.Decimal} (h : d.integer? ≠ some 0) : NoParts (.decimal d)
  | notFinite : NoParts .notFinite

theorem mentions_object_iff :
    Mentions package (.object fields) ↔ (Json.field? fields package).isSome = true := by
  have hfield : (Json.field? fields package).isSome = true ↔ ∃ value, (package, value) ∈ fields := by
    unfold Json.field?
    rw [← Option.ne_none_iff_isSome, Ne, List.lookup_eq_none_iff]
    simp
  rw [hfield]
  exact ⟨fun | .field h => h, .field⟩

theorem isText_iff : isText package document = true ↔ document = .text package := by
  cases document <;> simp [isText]

theorem mentions_list_iff :
    Mentions package (.list items) ↔ items.any (isText package) = true := by
  have hitem : items.any (isText package) = true ↔ .text package ∈ items := by
    simp [isText_iff]
  rw [hitem]
  exact ⟨fun | .item h => h, .item⟩

theorem mentions_text_iff : Mentions package (.text t) ↔ Text.occursIn package t = true := by
  rw [Text.occursIn_iff_infix]
  exact ⟨fun | .part h => h, .part⟩

/-- One of the packages is mentioned. -/
def MentionsOne (required : Json) : Prop := ∃ package ∈ packages, Mentions package required

/-- What counts as not given mentions nothing: it is empty, and the names of packages are not. -/
theorem MentionsOne.isGiven (h : MentionsOne required) : required.isGiven = true := by
  obtain ⟨package, hpackage, hmentions⟩ := h
  cases hmentions with
  | field h =>
    obtain ⟨value, hvalue⟩ := h
    simp [Json.isGiven, List.ne_nil_of_mem hvalue]
  | item h => simp [Json.isGiven, List.ne_nil_of_mem h]
  | @part t h =>
    have hname : package ≠ [] := by
      rintro rfl
      exact absurd hpackage (by decide)
    have ht : t ≠ [] := fun hnil => hname (List.infix_nil.mp (hnil ▸ h))
    simp [Json.isGiven, ht]

theorem NoParts.isGiven (h : NoParts required) : required.isGiven = true := by
  cases h with
  | yes => rfl
  | integer h => simp [Json.isGiven, h]
  | decimal h => simpa [Json.isGiven] using h
  | notFinite => rfl

theorem namesPackage_true_iff : namesPackage required = .ok true ↔ MentionsOne required := by
  unfold namesPackage
  by_cases hgiven : required.isGiven = true
  · simp only [hgiven, Bool.not_true, Bool.false_eq_true, if_false]
    cases required with
    | object fields => simp [MentionsOne, mentions_object_iff]
    | list items => simp only [MentionsOne, mentions_list_iff, Except.ok.injEq, List.any_eq_true]
    | text t => simp [MentionsOne, mentions_text_iff]
    | _ => exact ⟨fun h => absurd h (by simp), fun ⟨_, _, h⟩ => nomatch h⟩
  · rw [if_pos (by simp [hgiven])]
    exact ⟨fun h => absurd h (by simp), fun h => absurd h.isGiven hgiven⟩

theorem namesPackage_error_iff :
    namesPackage required = .error f ↔ NoParts required ∧ f = .noParts (kindOf required) := by
  unfold namesPackage
  by_cases hgiven : required.isGiven = true
  · simp only [hgiven, Bool.not_true, Bool.false_eq_true, if_false]
    have hkind {other : Json} (h : NoParts other) :
        Except.error (.noParts (kindOf other)) = (.error f : Except Fault Bool)
          ↔ NoParts other ∧ f = .noParts (kindOf other) := by
      rw [Except.error.injEq, eq_comm]
      exact ⟨fun hf => ⟨h, hf⟩, And.right⟩
    cases required with
    | object fields => exact ⟨fun h => absurd h (by simp), fun h => nomatch h.1⟩
    | list items => exact ⟨fun h => absurd h (by simp), fun h => nomatch h.1⟩
    | text t => exact ⟨fun h => absurd h (by simp), fun h => nomatch h.1⟩
    | null => exact absurd hgiven (by simp [Json.isGiven])
    | bool b =>
      obtain rfl : b = true := hgiven
      exact hkind .yes
    | integer n => exact hkind (.integer (by simpa [Json.isGiven] using hgiven))
    | decimal d => exact hkind (.decimal (by simpa [Json.isGiven] using hgiven))
    | notFinite => exact hkind .notFinite
  · rw [if_pos (by simp [hgiven])]
    exact ⟨fun h => absurd h (by simp), fun h => absurd h.1.isGiven hgiven⟩

/-! ## What a manifest says -/

/-- The bytes are the text of the document. -/
def ReadsAs (bytes : List UInt8) (document : Json) : Prop :=
  ∃ text, Utf8.decodeStrict bytes = .ok text ∧ Json.read (Utf8.unifyLineEnds text) = .ok document

/-- The bytes are an object that requires one of the packages. -/
def NamesFramework (bytes : List UInt8) : Prop :=
  ∃ fields required, ReadsAs bytes (.object fields) ∧ Json.field? fields "require" = some required
    ∧ MentionsOne required

/-- Bytes that cannot be asked, and why. -/
inductive Breaks (bytes : List UInt8) : Fault → Prop
  | encoding {fault : Utf8.Fault} (h : Utf8.decodeStrict bytes = .error fault) :
      Breaks bytes (.encoding fault)
  | digits {text : Text} {count : Nat} (h : Utf8.decodeStrict bytes = .ok text)
      (hread : Json.read (Utf8.unifyLineEnds text) = .error (.tooManyDigits count)) :
      Breaks bytes (.digits count)
  | notObject {document : Json} (h : ReadsAs bytes document)
      (hno : ∀ fields, document ≠ .object fields) : Breaks bytes (.notObject (kindOf document))
  | noParts {fields : List (Text × Json)} {required : Json} (h : ReadsAs bytes (.object fields))
      (hrequired : Json.field? fields "require" = some required) (hno : NoParts required) :
      Breaks bytes (.noParts (kindOf required))

theorem ReadsAs.ask_eq (h : ReadsAs bytes document) : ask bytes = requiresFramework document := by
  obtain ⟨text, hdecode, hread⟩ := h
  simp only [ask, hdecode, hread]

theorem ask_true_iff : ask bytes = .ok true ↔ NamesFramework bytes := by
  constructor
  · intro h
    unfold ask at h
    split at h
    · exact absurd h (by simp)
    · next text hdecode =>
      split at h
      · exact absurd h (by simp)
      · exact absurd h (by simp)
      · next document hread =>
        unfold requiresFramework at h
        split at h
        · next fields =>
          split at h
          · next required hrequired =>
            exact ⟨fields, required, ⟨text, hdecode, hread⟩, hrequired, namesPackage_true_iff.mp h⟩
          · exact absurd h (by simp)
        · exact absurd h (by simp)
  · rintro ⟨fields, required, hreads, hrequired, hmentions⟩
    rw [hreads.ask_eq]
    simp only [requiresFramework, hrequired, namesPackage_true_iff.mpr hmentions]

theorem ask_error_iff : ask bytes = .error f ↔ Breaks bytes f := by
  constructor
  · intro h
    unfold ask at h
    split at h
    · next fault hdecode => exact Except.error.inj h ▸ .encoding hdecode
    · next text hdecode =>
      split at h
      · exact absurd h (by simp)
      · next count hread => exact Except.error.inj h ▸ .digits hdecode hread
      · next document hread =>
        have hreads : ReadsAs bytes document := ⟨text, hdecode, hread⟩
        unfold requiresFramework at h
        split at h
        · split at h
          · next required hrequired =>
            obtain ⟨hno, rfl⟩ := namesPackage_error_iff.mp h
            exact .noParts hreads hrequired hno
          · exact absurd h (by simp)
        · next hno => exact Except.error.inj h ▸ .notObject hreads hno
  · intro h
    cases h with
    | encoding h => simp only [ask, h]
    | digits h hread => simp only [ask, h, hread]
    | @notObject document h hno =>
      rw [h.ask_eq]
      cases document with
      | object fields => exact absurd rfl (hno fields)
      | _ => rfl
    | noParts h hrequired hno =>
      rw [h.ask_eq]
      simp only [requiresFramework, hrequired]
      exact namesPackage_error_iff.mpr ⟨hno, rfl⟩

/-- A byte that begins no character. -/
example : Breaks [0xFF] (.encoding ⟨0, 1, 0xFF, .invalidStart⟩) := .encoding (by rfl)

end Manifest

namespace FileTree

variable {t : FileTree} {here : Location} {root p d : Path} {paths : List Path} {f : FileFault}
variable {bytes : List UInt8} {unreadable : List Location}

/-! ## The first directory -/

/-- The path can be asked about, and leads to no directory. -/
def NoDirectory (t : FileTree) (here : Location) (p : Path) : Prop :=
  ¬ t.LeadsToDirectory here p ∧ ¬ t.TooLong here p

theorem LeadsToDirectory.not_tooLong (h : t.LeadsToDirectory here p) : ¬ t.TooLong here p := by
  obtain ⟨l, hl⟩ := h
  intro hlong
  rw [TooLong, hl] at hlong
  exact absurd hlong (by simp)

/-- A search through the paths comes to this one: none before it leads to a directory. -/
def ComesTo (t : FileTree) (here : Location) (paths : List Path) (p : Path) : Prop :=
  ∃ before after, paths = before ++ p :: after ∧ ∀ q ∈ before, t.NoDirectory here q

@[simp] theorem not_comesTo_nil : ¬ t.ComesTo here [] p := by
  simp [ComesTo]

@[simp] theorem comesTo_cons {q : Path} {rest : List Path} :
    t.ComesTo here (q :: rest) p ↔ p = q ∨ t.NoDirectory here q ∧ t.ComesTo here rest p := by
  constructor
  · rintro ⟨before, after, hpaths, hbefore⟩
    cases before with
    | nil =>
      rw [List.nil_append, List.cons.injEq] at hpaths
      exact .inl hpaths.1.symm
    | cons first before =>
      rw [List.cons_append, List.cons.injEq] at hpaths
      obtain ⟨rfl, hrest⟩ := hpaths
      obtain ⟨hfirst, hbefore⟩ := List.forall_mem_cons.mp hbefore
      exact .inr ⟨hfirst, before, after, hrest, hbefore⟩
  · rintro (rfl | ⟨hq, before, after, rfl, hbefore⟩)
    · exact ⟨[], rest, rfl, by simp⟩
    · exact ⟨q :: before, after, rfl, List.forall_mem_cons.mpr ⟨hq, hbefore⟩⟩

/-- What a search through the paths may end with. -/
inductive SearchEnds (t : FileTree) (here : Location) (paths : List Path) :
    Except FileFault (Option Path) → Prop
  | found {d : Path} (h : t.ComesTo here paths d) (hdir : t.LeadsToDirectory here d) :
      SearchEnds t here paths (.ok (some d))
  | nothing (h : ∀ p ∈ paths, t.NoDirectory here p) : SearchEnds t here paths (.ok none)
  | stuck {p : Path} (h : t.ComesTo here paths p) (hlong : t.TooLong here p) :
      SearchEnds t here paths (.error (faultAt p .nameTooLong))

/-- The induction is on the paths; the search ends with the first one, or is a search through the
    rest. -/
theorem searchEnds_firstDirectory : t.SearchEnds here paths (t.firstDirectory here paths) := by
  induction paths with
  | nil => exact .nothing (by simp)
  | cons p rest ih =>
    unfold firstDirectory
    cases h : t.isDirectory here p with
    | error fault =>
      obtain ⟨hlong, rfl⟩ := isDirectory_error_iff.mp h
      exact .stuck (comesTo_cons.mpr (.inl rfl)) hlong
    | ok b =>
      cases b with
      | true => exact .found (comesTo_cons.mpr (.inl rfl)) (isDirectory_true_iff.mp h)
      | false =>
        have hno : t.NoDirectory here p := isDirectory_false_iff.mp h
        dsimp only
        generalize t.firstDirectory here rest = r at ih
        cases ih with
        | found hcomes hdir => exact .found (comesTo_cons.mpr (.inr ⟨hno, hcomes⟩)) hdir
        | nothing hrest => exact .nothing (List.forall_mem_cons.mpr ⟨hno, hrest⟩)
        | stuck hcomes hlong => exact .stuck (comesTo_cons.mpr (.inr ⟨hno, hcomes⟩)) hlong

/-- A search ends where it stops: it cannot come past a directory, or a path that is too long. -/
theorem ComesTo.unique {q : Path} (hp : t.ComesTo here paths p) (hq : t.ComesTo here paths q)
    (hstop : ¬ t.NoDirectory here p) (hstop' : ¬ t.NoDirectory here q) : p = q := by
  induction paths with
  | nil => exact absurd hp not_comesTo_nil
  | cons first rest ih =>
    rcases comesTo_cons.mp hp, comesTo_cons.mp hq with
      ⟨rfl | ⟨hfirst, hp⟩, rfl | ⟨hfirst', hq⟩⟩
    · rfl
    · exact absurd hfirst' hstop
    · exact absurd hfirst hstop'
    · exact ih hp hq

theorem ComesTo.mem (h : t.ComesTo here paths p) : p ∈ paths := by
  obtain ⟨before, after, rfl, -⟩ := h
  simp

theorem SearchEnds.unique {r r' : Except FileFault (Option Path)}
    (h : t.SearchEnds here paths r) (h' : t.SearchEnds here paths r') : r = r' := by
  have hdirectory {p : Path} (hdir : t.LeadsToDirectory here p) : ¬ t.NoDirectory here p :=
    fun hno => hno.1 hdir
  have hstuck {p : Path} (hlong : t.TooLong here p) : ¬ t.NoDirectory here p :=
    fun hno => hno.2 hlong
  cases h with
  | found hcomes hdir => cases h' with
    | found hcomes' hdir' => rw [hcomes.unique hcomes' (hdirectory hdir) (hdirectory hdir')]
    | nothing hall => exact absurd (hall _ hcomes.mem) (hdirectory hdir)
    | stuck hcomes' hlong =>
      obtain rfl := hcomes.unique hcomes' (hdirectory hdir) (hstuck hlong)
      exact absurd hlong hdir.not_tooLong
  | nothing hall => cases h' with
    | found hcomes hdir => exact absurd (hall _ hcomes.mem) (hdirectory hdir)
    | nothing hall' => rfl
    | stuck hcomes hlong => exact absurd (hall _ hcomes.mem) (hstuck hlong)
  | stuck hcomes hlong => cases h' with
    | found hcomes' hdir =>
      obtain rfl := hcomes.unique hcomes' (hstuck hlong) (hdirectory hdir)
      exact absurd hlong hdir.not_tooLong
    | nothing hall => exact absurd (hall _ hcomes.mem) (hstuck hlong)
    | stuck hcomes' hlong' => rw [hcomes.unique hcomes' (hstuck hlong) (hstuck hlong')]

theorem firstDirectory_eq_iff {r : Except FileFault (Option Path)} :
    t.firstDirectory here paths = r ↔ t.SearchEnds here paths r :=
  ⟨fun h => h ▸ searchEnds_firstDirectory, searchEnds_firstDirectory.unique⟩

theorem firstDirectory_some_iff : t.firstDirectory here paths = .ok (some d)
    ↔ t.ComesTo here paths d ∧ t.LeadsToDirectory here d :=
  firstDirectory_eq_iff.trans ⟨fun | .found h hdir => ⟨h, hdir⟩, fun h => .found h.1 h.2⟩

theorem firstDirectory_none_iff :
    t.firstDirectory here paths = .ok none ↔ ∀ p ∈ paths, t.NoDirectory here p :=
  firstDirectory_eq_iff.trans ⟨fun | .nothing h => h, .nothing⟩

theorem firstDirectory_error_iff : t.firstDirectory here paths = .error f
    ↔ ∃ p, t.ComesTo here paths p ∧ t.TooLong here p ∧ f = faultAt p .nameTooLong :=
  firstDirectory_eq_iff.trans
    ⟨fun | .stuck h hlong => ⟨_, h, hlong, rfl⟩, fun ⟨_, h, hlong, hf⟩ => hf ▸ .stuck h hlong⟩

/-! ## The project -/

/-- The manifest of the project that a path leads to may be read, and has these bytes. -/
def HasManifest (t : FileTree) (here : Location) (root : Path) (unreadable : List Location)
    (bytes : List UInt8) : Prop :=
  ∃ l, t.find here true (manifestOf root) = .ok ⟨l, some (.file bytes)⟩ ∧ l ∉ unreadable

/-- The path leads to a project of the framework. -/
def IsProject (t : FileTree) (here : Location) (root : Path) (unreadable : List Location) : Prop :=
  ∃ bytes, t.HasManifest here root unreadable bytes ∧ Manifest.NamesFramework bytes

/-- There is one manifest, so what one says they all say. -/
theorem HasManifest.exists_iff {P : List UInt8 → Prop}
    (h : t.HasManifest here root unreadable bytes) :
    (∃ other, t.HasManifest here root unreadable other ∧ P other) ↔ P bytes := by
  refine ⟨?_, fun hp => ⟨bytes, h, hp⟩⟩
  rintro ⟨other, ⟨l', hfind', -⟩, hp⟩
  obtain ⟨l, hfind, -⟩ := h
  have hsame := congrArg Found.entry (Except.ok.inj (hfind.symm.trans hfind'))
  obtain rfl : bytes = other := by simpa using hsame
  exact hp

theorem HasManifest.not_tooLong (h : t.HasManifest here root unreadable bytes) :
    ¬ t.TooLong here (manifestOf root) := by
  obtain ⟨l, hfind, -⟩ := h
  intro hlong
  rw [TooLong, hfind] at hlong
  exact absurd hlong (by simp)

theorem isFrameworkProject_cases (t : FileTree) (here : Location) (root : Path)
    (unreadable : List Location) :
    (∃ bytes, t.HasManifest here root unreadable bytes
        ∧ t.isFrameworkProject here root unreadable = match Manifest.ask bytes with
          | .error f => .error (.manifest f)
          | .ok b => .ok b)
      ∨ (∀ bytes, ¬ t.HasManifest here root unreadable bytes)
        ∧ (t.TooLong here (manifestOf root)
            ∧ t.isFrameworkProject here root unreadable
              = .error (.file (faultAt (manifestOf root) .nameTooLong))
          ∨ ¬ t.TooLong here (manifestOf root)
            ∧ t.isFrameworkProject here root unreadable = .ok false) := by
  unfold isFrameworkProject
  cases h : t.isFile here (manifestOf root) with
  | error fault =>
    obtain ⟨hlong, rfl⟩ := isFile_error_iff.mp h
    exact .inr ⟨fun bytes hmanifest => hmanifest.not_tooLong hlong, .inl ⟨hlong, rfl⟩⟩
  | ok b =>
    have hshort : ¬ t.TooLong here (manifestOf root) := by
      intro hlong
      rw [isFile_error_iff.mpr ⟨hlong, rfl⟩] at h
      exact absurd h (by simp)
    cases b with
    | true =>
      dsimp only
      cases hread : t.readBytes here unreadable (manifestOf root) with
      | ok bytes =>
        refine .inl ⟨bytes, readBytes_ok_iff.mp hread, ?_⟩
        cases hask : Manifest.ask bytes <;> simp only [hask]
      | error fault =>
        refine .inr ⟨fun bytes hmanifest => ?_, .inr ⟨hshort, rfl⟩⟩
        rw [readBytes_ok_iff.mpr hmanifest] at hread
        exact absurd hread (by simp)
    | false =>
      refine .inr ⟨?_, .inr ⟨hshort, rfl⟩⟩
      rintro bytes ⟨l, hfind, -⟩
      rw [isFile_true_iff.mpr ⟨l, bytes, hfind⟩] at h
      exact absurd h (by simp)

theorem isFrameworkProject_true_iff :
    t.isFrameworkProject here root unreadable = .ok true ↔ t.IsProject here root unreadable := by
  rcases isFrameworkProject_cases t here root unreadable with
    ⟨bytes, hmanifest, heq⟩ | ⟨hno, ⟨-, heq⟩ | ⟨-, heq⟩⟩
  · rw [heq, IsProject, hmanifest.exists_iff, ← Manifest.ask_true_iff]
    cases Manifest.ask bytes <;> simp
  · simp [heq, IsProject, hno]
  · simp [heq, IsProject, hno]

theorem isFrameworkProject_manifest_iff {f : Manifest.Fault} :
    t.isFrameworkProject here root unreadable = .error (.manifest f)
      ↔ ∃ bytes, t.HasManifest here root unreadable bytes ∧ Manifest.Breaks bytes f := by
  rcases isFrameworkProject_cases t here root unreadable with
    ⟨bytes, hmanifest, heq⟩ | ⟨hno, ⟨-, heq⟩ | ⟨-, heq⟩⟩
  · rw [heq, hmanifest.exists_iff, ← Manifest.ask_error_iff]
    cases Manifest.ask bytes <;> simp
  · simp [heq, hno]
  · simp [heq, hno]

theorem isFrameworkProject_file_iff : t.isFrameworkProject here root unreadable = .error (.file f)
    ↔ t.TooLong here (manifestOf root) ∧ f = faultAt (manifestOf root) .nameTooLong := by
  rcases isFrameworkProject_cases t here root unreadable with
    ⟨bytes, hmanifest, heq⟩ | ⟨-, ⟨hlong, heq⟩ | ⟨hshort, heq⟩⟩
  · have hshort := hmanifest.not_tooLong
    rw [heq]
    cases Manifest.ask bytes <;> simp [hshort]
  · simp [heq, hlong, eq_comm]
  · simp [heq, hshort]

/-- Whatever the answer, there is one unless the manifest breaks or its path is too long. -/
theorem isFrameworkProject_ok_iff : (∃ b, t.isFrameworkProject here root unreadable = .ok b)
    ↔ ¬ t.TooLong here (manifestOf root)
      ∧ ∀ bytes f, t.HasManifest here root unreadable bytes → ¬ Manifest.Breaks bytes f := by
  constructor
  · rintro ⟨b, h⟩
    refine ⟨fun hlong => ?_, fun bytes f hmanifest hbreaks => ?_⟩
    · rw [isFrameworkProject_file_iff.mpr ⟨hlong, rfl⟩] at h
      exact absurd h (by simp)
    · rw [isFrameworkProject_manifest_iff.mpr ⟨bytes, hmanifest, hbreaks⟩] at h
      exact absurd h (by simp)
  · rintro ⟨hshort, hwhole⟩
    cases h : t.isFrameworkProject here root unreadable with
    | ok b => exact ⟨b, rfl⟩
    | error fault =>
      cases fault with
      | manifest f =>
        obtain ⟨bytes, hmanifest, hbreaks⟩ := isFrameworkProject_manifest_iff.mp h
        exact absurd hbreaks (hwhole bytes f hmanifest)
      | file f => exact absurd (isFrameworkProject_file_iff.mp h).1 hshort

/-! ## Detection -/

theorem detectModels_some_iff : t.detectModels here root unreadable = .ok (some d)
    ↔ t.IsProject here root unreadable
      ∧ t.ComesTo here [modelsOf root, appOf root] d ∧ t.LeadsToDirectory here d := by
  rw [← isFrameworkProject_true_iff, ← firstDirectory_some_iff, detectModels]
  cases t.isFrameworkProject here root unreadable with
  | error fault => simp
  | ok b => cases b <;> cases t.firstDirectory here [modelsOf root, appOf root] <;> simp

theorem detectModels_manifest_iff {f : Manifest.Fault} :
    t.detectModels here root unreadable = .error (.manifest f)
      ↔ ∃ bytes, t.HasManifest here root unreadable bytes ∧ Manifest.Breaks bytes f := by
  rw [← isFrameworkProject_manifest_iff, detectModels]
  cases t.isFrameworkProject here root unreadable with
  | error fault => simp
  | ok b => cases b <;> cases t.firstDirectory here [modelsOf root, appOf root] <;> simp

theorem detectModels_file_iff : t.detectModels here root unreadable = .error (.file f)
    ↔ t.TooLong here (manifestOf root) ∧ f = faultAt (manifestOf root) .nameTooLong
      ∨ t.IsProject here root unreadable ∧ ∃ p, t.ComesTo here [modelsOf root, appOf root] p
        ∧ t.TooLong here p ∧ f = faultAt p .nameTooLong := by
  rw [← isFrameworkProject_true_iff, ← firstDirectory_error_iff, ← isFrameworkProject_file_iff,
    detectModels]
  cases t.isFrameworkProject here root unreadable with
  | error fault => simp
  | ok b => cases b <;> cases t.firstDirectory here [modelsOf root, appOf root] <;> simp

theorem detectModels_none_iff : t.detectModels here root unreadable = .ok none
    ↔ (∃ b, t.isFrameworkProject here root unreadable = .ok b)
      ∧ (t.IsProject here root unreadable
        → ∀ p ∈ [modelsOf root, appOf root], t.NoDirectory here p) := by
  rw [← isFrameworkProject_true_iff, ← firstDirectory_none_iff, detectModels]
  cases t.isFrameworkProject here root unreadable with
  | error fault => simp
  | ok b => cases b <;> cases t.firstDirectory here [modelsOf root, appOf root] <;> simp

/-- **Detection is exact, and breaks on some manifests.** A directory is found exactly in a project
    of the framework, which is one whose manifest may be read and names it: the directory for models,
    or the one for everything if that is none. A fault comes exactly of a manifest that may be read
    and breaks, or of a path that is too long to be asked about; and in all other cases nothing is
    found. -/
theorem detectModels_exactly (t : FileTree) (here : Location) (root : Path)
    (unreadable : List Location) :
    (∀ d, t.detectModels here root unreadable = .ok (some d) ↔ t.IsProject here root unreadable
      ∧ (d = modelsOf root ∧ t.LeadsToDirectory here (modelsOf root)
        ∨ d = appOf root ∧ t.NoDirectory here (modelsOf root)
          ∧ t.LeadsToDirectory here (appOf root)))
    ∧ (∀ f, t.detectModels here root unreadable = .error (.manifest f)
      ↔ ∃ bytes, t.HasManifest here root unreadable bytes ∧ Manifest.Breaks bytes f)
    ∧ (∀ f, t.detectModels here root unreadable = .error (.file f)
      ↔ t.TooLong here (manifestOf root) ∧ f = faultAt (manifestOf root) .nameTooLong
        ∨ t.IsProject here root unreadable
          ∧ (t.TooLong here (modelsOf root) ∧ f = faultAt (modelsOf root) .nameTooLong
            ∨ t.NoDirectory here (modelsOf root) ∧ t.TooLong here (appOf root)
              ∧ f = faultAt (appOf root) .nameTooLong))
    ∧ (t.detectModels here root unreadable = .ok none
      ↔ ¬ t.TooLong here (manifestOf root)
        ∧ (∀ bytes f, t.HasManifest here root unreadable bytes → ¬ Manifest.Breaks bytes f)
        ∧ (t.IsProject here root unreadable
          → t.NoDirectory here (modelsOf root) ∧ t.NoDirectory here (appOf root))) := by
  refine ⟨fun d => ?_, fun f => detectModels_manifest_iff, fun f => ?_, ?_⟩
  · rw [detectModels_some_iff]
    refine and_congr_right fun _ => ?_
    simp only [comesTo_cons, not_comesTo_nil, and_false, or_false]
    constructor
    · rintro ⟨rfl | ⟨hno, rfl⟩, hdir⟩
      · exact .inl ⟨rfl, hdir⟩
      · exact .inr ⟨rfl, hno, hdir⟩
    · rintro (⟨rfl, hdir⟩ | ⟨rfl, hno, hdir⟩)
      · exact ⟨.inl rfl, hdir⟩
      · exact ⟨.inr ⟨hno, rfl⟩, hdir⟩
  · rw [detectModels_file_iff]
    refine or_congr_right (and_congr_right fun _ => ?_)
    simp only [comesTo_cons, not_comesTo_nil, and_false, or_false]
    constructor
    · rintro ⟨p, rfl | ⟨hno, rfl⟩, hlong, rfl⟩
      · exact .inl ⟨hlong, rfl⟩
      · exact .inr ⟨hno, hlong, rfl⟩
    · rintro (⟨hlong, rfl⟩ | ⟨hno, hlong, rfl⟩)
      · exact ⟨_, .inl rfl, hlong, rfl⟩
      · exact ⟨_, .inr ⟨hno, rfl⟩, hlong, rfl⟩
  · rw [detectModels_none_iff, isFrameworkProject_ok_iff, and_assoc]
    simp only [List.forall_mem_cons, List.not_mem_nil, false_implies, implies_true, and_true]

end FileTree
end EntityDiagram
