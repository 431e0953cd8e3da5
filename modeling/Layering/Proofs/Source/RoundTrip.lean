import Layering.Proofs.Source.Canonical
import Layering.Proofs.Source.Dependencies
import Layering.Proofs.Source.Extraction
import Layering.Proofs.Source.Renaming

/-!
# Extraction undoes printing

The facts extracted from the text of a canonical file are the ones it was printed from, whatever
keywords its names contain or end in. Each pass of the extraction gets past the words before the
one it looks for, because none of them ends in its keyword.
-/

namespace Layering.Source
open Text

theorem IsName.head?_append {s : String} (name : IsName s) (rest : List Char) :
    ∀ c ∈ (s.toList ++ rest).head?, isBlank c = false := by
  obtain ⟨first, tail, chars⟩ := List.exists_cons_of_ne_nil name.toList_ne_nil
  intro c head
  obtain rfl : first = c := by simpa [chars] using head
  exact name.solid first (by simp [chars])

namespace Canonical

variable {c : Canonical}

/-! ## The namespace -/

end Canonical

end Layering.Source
