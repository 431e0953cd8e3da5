import Layering.Source.Name
import Layering.Proofs.Text.Scan

/-!
# Names by their first and last segments

A name lives within a base that it begins with up to a backslash, and is called by what it ends
in after a backslash. A backslash in front of a name takes it out of every base, and changes
nothing for what it is called.
-/

namespace Layering.Source
open Text

theorem exists_literal?_iff {word s : List Char} :
    (∃ rest, literal? word s = some ('\\' :: rest)) ↔ word ++ ['\\'] <+: s := by
  simp only [literal?_eq_some_iff]
  constructor
  · rintro ⟨rest, rfl⟩
    exact ⟨rest, by simp⟩
  · rintro ⟨rest, rfl⟩
    exact ⟨rest, by simp⟩

theorem isWithin_iff {name base : String} :
    isWithin name base = true ↔ name = base ∨ base.toList ++ ['\\'] <+: name.toList := by
  rw [isWithin, Bool.or_eq_true, beq_iff_eq, ← exists_literal?_iff]
  refine or_congr_right ?_
  split <;> simp_all

theorem isCalled_iff {name short : String} :
    isCalled name short = true ↔ name = short ∨ '\\' :: short.toList <:+ name.toList := by
  rw [isCalled, Bool.or_eq_true, beq_iff_eq, ← List.reverse_prefix, List.reverse_cons,
    ← exists_literal?_iff]
  refine or_congr_right ?_
  split <;> simp_all

/-! ## Names with a backslash in front -/

/-- A name with a backslash in front. -/
def rooted (name : String) : String := "\\" ++ name

/-- A name that is not empty and has no backslash in front. -/
def Unrooted (name : String) : Prop := name.toList.head?.any (· != '\\') = true

instance (name : String) : Decidable (Unrooted name) := inferInstanceAs (Decidable (_ = true))

theorem toList_rooted (name : String) : (rooted name).toList = '\\' :: name.toList := by
  simp [rooted]

theorem Unrooted.exists_cons {name : String} (unrooted : Unrooted name) :
    ∃ c rest, name.toList = c :: rest ∧ c ≠ '\\' := by
  cases chars : name.toList with
  | nil => simp [Unrooted, chars] at unrooted
  | cons c rest => exact ⟨c, rest, rfl, by simpa [Unrooted, chars] using unrooted⟩

theorem rooted_ne {name other : String} (unrooted : Unrooted other) : rooted name ≠ other := by
  rintro rfl
  simp [Unrooted, toList_rooted] at unrooted

theorem isWithin_rooted {name base : String} (unrooted : Unrooted base) :
    isWithin (rooted name) base = false := by
  obtain ⟨c, rest, chars, other⟩ := unrooted.exists_cons
  rw [Bool.eq_false_iff, ne_eq, isWithin_iff, toList_rooted, chars]
  rintro (same | ⟨after, same⟩)
  · exact rooted_ne unrooted same
  · exact other (List.cons.inj same).1

theorem isCalled_rooted {name short : String} (unrooted : Unrooted short) :
    isCalled (rooted name) short = isCalled name short := by
  rw [Bool.eq_iff_iff, isCalled_iff, isCalled_iff, toList_rooted, List.suffix_cons_iff,
    List.cons.injEq, String.toList_inj]
  simp [rooted_ne unrooted, eq_comm]

end Layering.Source
