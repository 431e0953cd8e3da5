import Layering.Report.Human

/-!
# How a report to read begins

With colours or without, the report begins with the header that counts the matching violations if
there are any, and with no such header otherwise: `header_prefix_human_iff`.
-/

namespace Layering.Report

/-- The header of a listing that found some violations. -/
def header (found : Nat) : Painted :=
  Painted.styled .red ("Found " ++ toString found ++ " architecture violation(s):\n")

/-! ## Pieces -/

theorem Painted.toList_render_append (colors : Bool) (t u : Painted) :
    ((t ++ u).render colors).toList = (t.render colors).toList ++ (u.render colors).toList := by
  simp [Painted.render]

/-- Without an escape there is no reset after which the style would be set again. -/
theorem reapply_of_no_escape (style : List Char) {text : List Char} (plain : '\x1b' ∉ text) :
    reapply style text = text := by
  induction text with
  | nil => rfl
  | cons c rest ih =>
      rw [List.mem_cons, not_or] at plain
      rw [reapply, ih plain.2]
      intro _ escape
      exact absurd escape.symm plain.1

theorem Painted.toList_render_styled (colors : Bool) (style : Style) {text : String}
    (plain : '\x1b' ∉ text.toList) :
    ((Painted.styled style text).render colors).toList =
      (if colors then sequenceOf style.code else []) ++ text.toList ++
        (if colors then resetSequence else []) := by
  cases colors with
  | false => simp [Painted.render, Painted.styled, Piece.render]
  | true =>
      simp [Painted.render, Painted.styled, Piece.render, Piece.painted, reapply_of_no_escape _ plain]

/-! ## The header -/

theorem toList_toString (n : Nat) : (toString n).toList = Nat.toDigits 10 n := by
  rw [Nat.toString_eq_ofList_toDigits, String.toList_ofList]

theorem toList_header (n : Nat) :
    ("Found " ++ toString n ++ " architecture violation(s):\n").toList =
      "Found ".toList ++ (Nat.toDigits 10 n ++ " architecture violation(s):\n".toList) := by
  rw [String.toList_append, String.toList_append, toList_toString, List.append_assoc]

theorem header_no_escape (n : Nat) :
    '\x1b' ∉ ("Found " ++ toString n ++ " architecture violation(s):\n").toList := by
  rw [toList_header, List.mem_append, List.mem_append]
  rintro (before | digit | after)
  · simp at before
  · simpa using Nat.isDigit_of_mem_toDigits (by decide) (by decide) digit
  · simp at after

/-- The digits end at the first character that is none. -/
theorem digits_unique {m n : Nat} {u w : List Char}
    (same : Nat.toDigits 10 m ++ ' ' :: u = Nat.toDigits 10 n ++ ' ' :: w) : m = n := by
  have digits (k : Nat) (rest : List Char) :
      (Nat.toDigits 10 k ++ ' ' :: rest).takeWhile Char.isDigit = Nat.toDigits 10 k := by
    rw [List.takeWhile_append_of_pos, List.takeWhile_cons_of_neg (by decide), List.append_nil]
    intro c member
    exact Nat.isDigit_of_mem_toDigits (by decide) (by decide) member
  have equal : Nat.toDigits 10 m = Nat.toDigits 10 n := by
    rw [← digits m u, same, digits]
  calc
    m = Nat.ofDigitChars 10 (Nat.toDigits 10 m) 0 := Nat.ofDigitChars_ten_toDigits.symm
    _ = Nat.ofDigitChars 10 (Nat.toDigits 10 n) 0 := by rw [equal]
    _ = n := Nat.ofDigitChars_ten_toDigits

theorem header_unique {colors : Bool} {m n : Nat} {rest : List Char}
    (start : ((header m).render colors).toList <+: ((header n).render colors).toList ++ rest) :
    m = n := by
  obtain ⟨others, same⟩ := start
  simp only [header, Painted.toList_render_styled colors _ (header_no_escape _), toList_header,
    List.append_assoc] at same
  exact digits_unique (List.append_cancel_left (List.append_cancel_left same))

/-- No header begins as the listing without violations does. -/
theorem header_not_prefix_of_green (colors : Bool) (n : Nat) (rest : List Char) :
    ¬ ((header n).render colors).toList <+:
      ((Painted.styled .green "No architecture violations found!").render colors).toList ++ rest := by
  have plain : '\x1b' ∉ "No architecture violations found!".toList := by
    rw [String.toList_ofList]
    decide
  rintro ⟨others, same⟩
  rw [header, Painted.toList_render_styled colors _ (header_no_escape _), toList_header,
    Painted.toList_render_styled colors _ plain] at same
  cases colors <;> simp [sequenceOf, Style.code] at same

/-- The report begins with a header exactly when violations match, and then with their number. -/
theorem header_prefix_human_iff (view : View) (r : Report) (colors : Bool) (n : Nat) :
    ((header n).render colors).toList <+: ((human view r).render colors).toList ↔
      0 < n ∧ n = (matching view r).length := by
  rw [human, listing]
  by_cases found : (matching view r).length = 0
  · simp only [found, beq_self_eq_true, if_true, List.append_assoc, Painted.toList_render_append]
    constructor
    · intro start
      exact absurd start (header_not_prefix_of_green colors n _)
    · rintro ⟨positive, zero⟩
      omega
  · simp only [beq_eq_false_iff_ne.2 found, Bool.false_eq_true, if_false, List.append_assoc]
    rw [← header, Painted.toList_render_append]
    constructor
    · intro start
      have same := header_unique start
      omega
    · rintro ⟨-, rfl⟩
      exact List.prefix_append _ _

end Layering.Report
