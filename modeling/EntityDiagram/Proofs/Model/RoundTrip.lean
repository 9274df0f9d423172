import EntityDiagram.Proofs.Model.Isolation
import EntityDiagram.Proofs.Model.ReadingDeclarations
import EntityDiagram.Proofs.Model.ReadingRelations

/-!
# Scanning undoes printing

A description is printed to a class file, and scanning the file gives the description back: its
entity and its relationships. For one file this is what the two reading modules say together. For a
batch it needs nothing more, since files do not touch each other.
-/

namespace EntityDiagram
namespace Model

namespace Description

variable (d : Description) (path : Text)

theorem contribution_print : contribution ⟨true, true⟩ uninterrupted (d.unit path)
    = { entities := [d.entity], relationships := d.relationships } := by
  have hexamined : Examined ⟨true, true⟩ (d.unit path) := fun _ => d.isLikely_print d.name.text
  have hentity : entity? (d.unit path).name (d.unit path).content = some d.entity := d.entity?_print
  have hfound : (examineRelations uninterrupted [] (d.unit path)).findings
      = { relationships := d.relationships } := by
    unfold examineRelations
    dsimp only [uninterrupted, unit]
    rw [d.relationships_print]
    rfl
  rw [contribution_of_entity hexamined rfl hentity, if_pos rfl, hfound]
  rfl

end Description

def printedUnits (ds : List (Description × Text)) : List SourceUnit :=
  ds.map fun (d, path) => d.unit path

/-- **Scanning undoes printing.** Of any printed models, wherever their files are, no file is skipped;
    there is one entity for each, in order, with the table and the columns described; and the
    relationships are those of the accessors, file by file. -/
theorem assemble_print (ds : List (Description × Text)) :
    (assemble ⟨true, true⟩ uninterrupted (printedUnits ds)).skipped = []
      ∧ (assemble ⟨true, true⟩ uninterrupted (printedUnits ds)).schema
        = ⟨ds.map fun (d, _) => d.entity, ds.flatMap fun (d, _) => d.relationships⟩ := by
  have hfound : (assemble ⟨true, true⟩ uninterrupted (printedUnits ds)).findings
      = { entities := ds.map fun (d, _) => d.entity
          relationships := ds.flatMap fun (d, _) => d.relationships } := by
    rw [findings_assemble]
    induction ds with
    | nil => rfl
    | cons entry rest ih =>
      obtain ⟨d, path⟩ := entry
      have hcons : printedUnits ((d, path) :: rest) = d.unit path :: printedUnits rest := rfl
      rw [hcons, List.map_cons, Assembly.sum_cons, d.contribution_print, ih]
      rfl
  constructor
  · rw [← Assembly.skipped_findings, hfound]
  · unfold Assembly.schema
    rw [← Assembly.entities_findings, ← Assembly.relationships_findings, hfound]

end Model
end EntityDiagram
