import Layering.Path
import Mathlib.Data.List.Lex
import Mathlib.Data.Prod.Lex
import Mathlib.Data.String.Basic
import Mathlib.Order.Compare

/-!
# Paths below a directory, and their order

The order of paths is the lexicographic order of their components, so two paths that are compared
as equal have the same components. Names joined to a directory become components after those of
the directory, whether or not the text of the directory ends in a slash.
-/

namespace Layering.Path

/-! ## The order of paths -/

/-- A place for each component: by kind, then by name. -/
def Component.key : Component → ℕ ×ₗ String
  | .normal name => toLex (3, name)
  | c => toLex (c.rank, "")

/-- The components of a path, placed in order. -/
def key (path : String) : List (ℕ ×ₗ String) := (components path).map Component.key

/-- What can name an entry of a directory. -/
def IsName (name : String) : Prop :=
  name ≠ "" ∧ '/' ∉ name.toList ∧ name ≠ "." ∧ name ≠ ".."

instance (name : String) : Decidable (IsName name) := inferInstanceAs (Decidable (_ ∧ _))

end Layering.Path
