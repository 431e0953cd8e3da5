import Mathlib.Data.String.Basic

/-!
# Byte offsets

Cutting a string at the bytes of its UTF-8 form gives a string only if no cut falls inside a
character. Where a string falls into parts, the cuts at their ends give the parts back:
`slice?_append`.
-/

namespace Layering.Text

open String (utf8Len)

/-- The text between two byte offsets; nothing if one of them falls inside a character or lies
behind the end, or if the first lies behind the second. -/
def slice? (s : String) (start stop : Nat) : Option String :=
  if (String.Pos.Raw.mk start).IsValid s ∧ (String.Pos.Raw.mk stop).IsValid s ∧ start ≤ stop then
    some (String.Pos.Raw.extract s ⟨start⟩ ⟨stop⟩)
  else none

/-- The byte offset of the last `c`. -/
def lastOffset? (c : Char) : List Char → Option Nat
  | [] => none
  | d :: s => match lastOffset? c s with
    | some n => some (n + d.utf8Size)
    | none => if d = c then some 0 else none

theorem isValid_append (before after : List Char) :
    (String.Pos.Raw.mk (utf8Len before)).IsValid (String.ofList (before ++ after)) := by
  rw [String.Pos.Raw.isValid_ofList]
  exact ⟨before.length, by rw [List.take_left, String.utf8ByteSize_ofList]⟩

theorem slice?_append (before s after : List Char) :
    slice? (String.ofList (before ++ s ++ after)) (utf8Len before) (utf8Len (before ++ s)) =
      some (String.ofList s) := by
  have start := isValid_append before (s ++ after)
  rw [← List.append_assoc] at start
  have stop := isValid_append (before ++ s) after
  rw [slice?, if_pos ⟨start, stop, by simp⟩, String.utf8Len_append,
    String.extract_of_valid]

theorem lastOffset?_eq_none {c : Char} {s : List Char} (absent : c ∉ s) :
    lastOffset? c s = none := by
  induction s with
  | nil => rfl
  | cons d s ih =>
      rw [List.mem_cons, not_or] at absent
      rw [lastOffset?, ih absent.2]
      exact if_neg (Ne.symm absent.1)

theorem lastOffset?_append {c : Char} (before : List Char) {after : List Char}
    (absent : c ∉ after) : lastOffset? c (before ++ c :: after) = some (utf8Len before) := by
  induction before with
  | nil =>
      rw [List.nil_append, lastOffset?, lastOffset?_eq_none absent]
      exact if_pos rfl
  | cons d before ih => rw [List.cons_append, lastOffset?, ih, String.utf8Len_cons]

end Layering.Text
