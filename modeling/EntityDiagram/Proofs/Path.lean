import EntityDiagram.Path
import EntityDiagram.Proofs.Text.Splitting

/-!
# Paths by their texts

Reports and listings know a path by its text, so it matters whether two paths can have one text. A
name with a slash in it would make that happen, and it is the only thing that would: cutting a text
at its slashes undoes the joining of names without any (`Text.split_join`). So the paths that lead
down from one directory through such names have different texts (`toText_descend_injective`).
-/

namespace EntityDiagram

namespace Path

/-- A name that a directory may list: without the slash that paths put between names. -/
def NoSlash (name : Text) : Prop := '/' ∉ name

theorem noSlash_of_mem_parts {t name : Text} (h : name ∈ (ofText t).parts) : NoSlash name :=
  Text.not_mem_of_mem_split (List.mem_filter.mp h).1

/-- What the texts of the paths down from a directory have in common. -/
theorem toText_descend (p : Path) :
    ∃ front, ∀ names, names ≠ [] → (p.descend names).toText = front ++ Text.join ['/'] names := by
  have hjoin : ∃ front, ∀ names, names ≠ [] →
      Text.join ['/'] (p.parts ++ names) = front ++ Text.join ['/'] names := by
    by_cases hp : p.parts = []
    · exact ⟨[], fun names _ => by rw [hp]; rfl⟩
    · exact ⟨Text.join ['/'] p.parts ++ ['/'], fun names hne => Text.join_append ['/'] hp hne⟩
  obtain ⟨front, hfront⟩ := hjoin
  unfold descend toText
  cases p.anchor with
  | here => exact ⟨front, fun names hne => by simp [hne, hfront names hne]⟩
  | root => exact ⟨'/' :: front, fun names hne => by simp [hfront names hne]⟩
  | doubleRoot => exact ⟨'/' :: '/' :: front, fun names hne => by simp [hfront names hne]⟩

/-- **Different ways down have different texts.** -/
theorem toText_descend_injective {p : Path} {names others : List Text}
    (hne : names ≠ []) (hne' : others ≠ []) (hnames : ∀ name ∈ names, NoSlash name)
    (hothers : ∀ name ∈ others, NoSlash name)
    (h : (p.descend names).toText = (p.descend others).toText) : names = others := by
  obtain ⟨front, hfront⟩ := toText_descend p
  rw [hfront names hne, hfront others hne', List.append_cancel_left_eq] at h
  rw [← Text.split_join hne hnames, h, Text.split_join hne' hothers]

end Path
end EntityDiagram
