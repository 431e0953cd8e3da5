import Layering.Text.Blank
import Layering.Text.Word

/-!
# Words and blanks

No blank is a word character. The tables of letters, marks and digits are read as the list of
their ranges, and none of these meets a range of blanks.
-/

namespace Layering.Text

namespace CodePoints

/-! ## Tables as lists of ranges -/

/-- What the set holds lies in one of its ranges. -/
theorem mem_of_contains {s : CodePoints} {c : Char} (held : s.contains c = true) :
    ∃ r ∈ s.ranges.toList, r.1 ≤ c.toNat ∧ c.toNat ≤ r.2 := by
  rw [contains] at held
  generalize 0 = lo at held
  generalize s.ranges.size = hi at held
  fun_induction searchBetween s.ranges c.toNat lo hi with
  | case1 => cases held
  | case2 _ _ _ _ _ _ _ _ ih => exact ih held
  | case3 _ _ _ _ _ _ _ _ _ ih => exact ih held
  | case4 lo hi _ mid a b found notBelow notAbove =>
      exact ⟨(a, b), Array.mem_toList_iff.2 (Array.mem_of_getElem? found), by omega⟩
  | case5 => cases held

/-- The ranges that a table text lists, when the lower bound and the number read last are known. -/
def listed (low current : Option Nat) : List Char → List (Nat × Nat)
  | [] => (current.map fun n => (low.getD n, n)).toList
  | c :: rest => match hexDigit? c with
    | some d => listed low (some (current.getD 0 * 16 + d)) rest
    | none =>
      if c == '-' then listed current none rest
      else match current with
        | none => listed low none rest
        | some n => (low.getD n, n) :: listed none none rest

theorem close_foldl_step (r : Reading) (text : List Char) :
    (text.foldl Reading.step r).close.done.toList =
      r.done.toList ++ listed r.low r.current text := by
  induction text generalizing r with
  | nil =>
      cases current : r.current <;> simp [Reading.close, listed, current]
  | cons c text ih =>
      rw [List.foldl_cons, ih, listed.eq_def _ _ (c :: text)]
      cases digit : hexDigit? c with
      | some d => simp [Reading.step, digit]
      | none =>
          by_cases dash : (c == '-') = true
          · simp [Reading.step, digit, dash]
          · cases current : r.current <;> simp [Reading.step, digit, dash, Reading.close, current]

theorem ranges_parse (text : List Char) :
    (parse (String.ofList text)).ranges.toList = listed none none text := by
  rw [parse, String.foldl_eq_foldl_toList, String.toList_ofList, close_foldl_step]
  rfl

end CodePoints

/-! ## Blanks in a table -/

/-- The ranges of the blanks. -/
def blankRanges : List (Nat × Nat) :=
  [(9, 13), (0x20, 0x20), (0x85, 0x85), (0xA0, 0xA0), (0x1680, 0x1680), (0x2000, 0x200A),
    (0x2028, 0x2029), (0x202F, 0x202F), (0x205F, 0x205F), (0x3000, 0x3000)]

theorem isBlank_iff {c : Char} :
    isBlank c = true ↔ ∃ r ∈ blankRanges, r.1 ≤ c.toNat ∧ c.toNat ≤ r.2 := by
  simp [isBlank, blankRanges]
  omega

/-- Whether a range lies apart from those of the blanks. -/
def apartFromBlanks (r : Nat × Nat) : Bool :=
  blankRanges.all fun b => b.2 < r.1 || r.2 < b.1

/-- A table whose ranges lie apart from the blanks holds none of them. -/
theorem CodePoints.contains_of_isBlank {s : CodePoints} {c : Char} (blank : isBlank c = true)
    (table : ∃ text, s = parse (String.ofList text) ∧
      (listed none none text).all apartFromBlanks = true) : s.contains c = false := by
  obtain ⟨text, rfl, apart⟩ := table
  rw [Bool.eq_false_iff]
  intro held
  obtain ⟨r, member, low, high⟩ := mem_of_contains held
  obtain ⟨b, listed, low', high'⟩ := isBlank_iff.1 blank
  rw [ranges_parse] at member
  have clear := List.all_eq_true.1 (List.all_eq_true.1 apart r member) b listed
  simp only [Bool.or_eq_true, decide_eq_true_eq] at clear
  omega

section

variable {c : Char} (blank : isBlank c = true)
include blank

-- The table texts have thousands of characters.
set_option maxRecDepth 100000

theorem isAlphabetic_of_isBlank : isAlphabetic c = false :=
  CodePoints.contains_of_isBlank blank ⟨_, by rfl, by decide +kernel⟩

/-- Marks, decimal digits and connectors are no blanks. -/
theorem Category.contains_of_isBlank {g : Category}
    (kind : g ∈ marks ++ [.decimalNumber, .connectorPunctuation]) : g.contains c = false := by
  simp only [marks, List.cons_append, List.nil_append, List.mem_cons, List.not_mem_nil,
    or_false] at kind
  rcases kind with rfl | rfl | rfl | rfl | rfl <;>
    exact CodePoints.contains_of_isBlank blank ⟨_, by rfl, by decide +kernel⟩

end

theorem isAsciiWord_of_isBlank {c : Char} (blank : isBlank c = true) (small : c.toNat < 128) :
    isAsciiWord c = false := by
  have all : ∀ n < 128, isBlank (Char.ofNat n) = true → isAsciiWord (Char.ofNat n) = false := by
    decide
  rw [← Char.ofNat_toNat c] at blank ⊢
  exact all c.toNat small blank

theorem isWord_of_isBlank {c : Char} (blank : isBlank c = true) : isWord c = false := by
  have joiner : c.toNat ≠ 0x200C ∧ c.toNat ≠ 0x200D := by
    obtain ⟨r, member, low, high⟩ := isBlank_iff.1 blank
    simp only [blankRanges, List.mem_cons, List.not_mem_nil, or_false] at member
    rcases member with rfl | rfl | rfl | rfl | rfl | rfl | rfl | rfl | rfl | rfl <;>
      constructor <;> simp only at low high <;> omega
  rw [isWord]
  split
  · rename_i small
    exact isAsciiWord_of_isBlank blank small
  · have mark : Category.marks.any (·.contains c) = false :=
      List.any_eq_false.2 fun g kind =>
        by simp [Category.contains_of_isBlank blank (List.mem_append_left _ kind)]
    have digit := Category.contains_of_isBlank (g := .decimalNumber) blank (by decide)
    have connector := Category.contains_of_isBlank (g := .connectorPunctuation) blank (by decide)
    simp [isAlphabetic_of_isBlank blank, mark, digit, connector, joiner]

end Layering.Text
