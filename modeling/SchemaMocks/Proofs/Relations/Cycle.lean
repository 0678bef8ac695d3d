import SchemaMocks.Proofs.Datamodel.Validation
import SchemaMocks.Proofs.Relations.Order

set_option autoImplicit false
set_option relaxedAutoImplicit false

/-!
The cycle in the report on relations. It holds the models that cannot be ordered: those on a cycle
of relations and all that these lead to, in ascending order. A model that only leads to a cycle can
be ordered and is not among them.
-/

namespace SchemaMocks

open Relation (ReflTransGen TransGen)

/-- Where some name leads back to itself, the report holds a cycle. It is not empty, its names
ascend byte by byte, and they are exactly the names that can be reached, in no step or in some, from
a name that leads back to itself. -/
theorem relationReport_cycle (doc : Document)
    (cyclic : ∃ name, TransGen doc.PointsAt name name) :
    ∃ cycle, doc.relationReport.cycle = some cycle ∧ cycle ≠ [] ∧
      cycle.Pairwise Text.BytesBefore ∧
      ∀ name, name ∈ cycle ↔
        ∃ start, TransGen doc.PointsAt start start ∧ ReflTransGen doc.PointsAt start name := by
  obtain ⟨order, hg, done, hsort⟩ := RelationGraph.sort_eq (RelationGraph.wellFormed_ofDocument doc)
  have hplaced : ¬(RelationGraph.ofDocument doc).nodes ⊆ order := by
    intro all
    exact (hg.all_placed_iff done).1 all cyclic
  let left := (RelationGraph.ofDocument doc).nodes.filter fun node => decide (node ∉ order)
  have hmem (name : String) : name ∈ left ↔
      ∃ start, TransGen doc.PointsAt start start ∧ ReflTransGen doc.PointsAt start name := by
    rw [← hg.left_iff done name]
    simp [left]
  refine ⟨left, ?_, ?_, ?_, hmem⟩
  · simp [Document.relationReport, hsort, hplaced, left]
  · obtain ⟨name, hcycle⟩ := cyclic
    exact List.ne_nil_of_mem ((hmem name).2 ⟨name, hcycle, ReflTransGen.refl⟩)
  · have hascending : left.Pairwise (· < ·) :=
      (RelationGraph.ofDocument doc).targets.pairwise_keys.sublist List.filter_sublist
    exact hascending.imp fun {s t} h => (Text.lt_iff_bytesBefore s t).1 h

/-- Books and their authors point at each other, shops at books and authors at cities. -/
def bookDocument : Document where
  models := [
    Model.bare "Shop" [Field.bare "book" .relation "Book"],
    Model.bare "Book" [Field.bare "author" .relation "Author"],
    Model.bare "Author" [Field.bare "book" .relation "Book", Field.bare "city" .relation "City"],
    Model.bare "City" []]
  enums := []
  types := []

theorem relationReport_cycle_books :
    bookDocument.relationReport.cycle = some ["Author", "Book", "City"] ∧
      ∀ name, name ∈ ["Author", "Book", "City"] ↔
        ∃ start, TransGen bookDocument.PointsAt start start ∧
          ReflTransGen bookDocument.PointsAt start name := by
  have hedge (source target : String)
      (h : target ∈ (RelationGraph.ofDocument bookDocument).targetsOf source) :
      bookDocument.PointsAt source target :=
    (RelationGraph.mem_targetsOf_ofDocument bookDocument source target).1 h
  have cyclic : TransGen bookDocument.PointsAt "Book" "Book" :=
    TransGen.tail (TransGen.single (hedge "Book" "Author" (by decide +kernel)))
      (hedge "Author" "Book" (by decide +kernel))
  obtain ⟨cycle, hcycle, -, -, hmem⟩ := relationReport_cycle bookDocument ⟨"Book", cyclic⟩
  have hreport : bookDocument.relationReport.cycle = some ["Author", "Book", "City"] := by
    decide +kernel
  obtain rfl : cycle = ["Author", "Book", "City"] :=
    Option.some.inj (hcycle.symm.trans hreport)
  exact ⟨hreport, hmem⟩

end SchemaMocks
