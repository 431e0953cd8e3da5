import Layering.Policy.Basic
import Layering.Proofs.Text.Scan
import Mathlib.Data.List.Basic

/-!
# Names of rules

A rule's name is a family and a policy with one dot between them, and `Policy.splitName?` accepts
exactly such names: `splitName?_eq_some_iff`. Whether a text is one can be told from its characters
alone, without splitting it: `isRuleName_iff`, and `splitName?_eq_none_iff` for those it refuses.
-/

namespace Layering.Policy
open Text

/-- A part of a rule's name: at least one ASCII letter, digit, underscore or hyphen. -/
def IsPart (part : String) : Prop :=
  part ≠ "" ∧ ∀ c ∈ part.toList, c.isAlphanum = true ∨ c = '_' ∨ c = '-'

/-- A family and a policy with a dot between them. -/
def IsRuleName (name : String) : Prop :=
  ∃ family policy, name = family ++ "." ++ policy ∧ IsPart family ∧ IsPart policy

/-- A character that a part can have; all of them are ASCII. -/
def InPart (c : Char) : Prop :=
  ('A' ≤ c ∧ c ≤ 'Z') ∨ ('a' ≤ c ∧ c ≤ 'z') ∨ ('0' ≤ c ∧ c ≤ '9') ∨ c = '_' ∨ c = '-'

theorem inPart_iff {c : Char} : InPart c ↔ c.isAlphanum = true ∨ c = '_' ∨ c = '-' := by
  have upper : c.isUpper = true ↔ 'A' ≤ c ∧ c ≤ 'Z' := decide_eq_true_iff
  have lower : c.isLower = true ↔ 'a' ≤ c ∧ c ≤ 'z' :=
    Bool.and_eq_true_iff.trans (and_congr decide_eq_true_iff decide_eq_true_iff)
  have digit : c.isDigit = true ↔ '0' ≤ c ∧ c ≤ '9' :=
    Bool.and_eq_true_iff.trans (and_congr decide_eq_true_iff decide_eq_true_iff)
  have alphanumeric :
      c.isAlphanum = true ↔ (c.isUpper = true ∨ c.isLower = true) ∨ c.isDigit = true :=
    Bool.or_eq_true_iff.trans (or_congr_left Bool.or_eq_true_iff)
  rw [alphanumeric, upper, lower, digit, or_assoc, or_assoc, InPart]

theorem isPart_iff {part : String} : IsPart part ↔ part ≠ "" ∧ ∀ c ∈ part.toList, InPart c := by
  simp only [IsPart, inPart_iff]

theorem isNamePart_toList {part : String} : isNamePart part.toList = true ↔ IsPart part := by
  simp [isNamePart, IsPart, or_assoc]

theorem IsPart.dot_notMem {part : String} (isPart : IsPart part) : '.' ∉ part.toList := by
  intro member
  rcases isPart.2 '.' member with alphanumeric | underscore | hyphen
  · exact absurd alphanumeric (by decide)
  · exact absurd underscore (by decide)
  · exact absurd hyphen (by decide)

theorem IsPart.toList_ne_nil {part : String} (isPart : IsPart part) : part.toList ≠ [] :=
  fun none => isPart.1 (String.toList_eq_nil_iff.1 none)

theorem isPart_ofList {chars : List Char} (filled : chars ≠ []) (noDot : '.' ∉ chars)
    (others : ∀ c ∈ chars, c ≠ '.' → InPart c) : IsPart (String.ofList chars) := by
  refine isPart_iff.2 ⟨fun none => filled (String.ofList_eq_empty_iff.1 none), ?_⟩
  intro c member
  rw [String.toList_ofList] at member
  exact others c member fun dot => noDot (dot ▸ member)

theorem toList_dotted (family policy : String) :
    (family ++ "." ++ policy).toList = family.toList ++ '.' :: policy.toList := by
  simp

/-! ## Splitting -/

theorem splitName?_of_parts {family policy : String} (isFamily : IsPart family)
    (isPolicy : IsPart policy) : splitName? (family ++ "." ++ policy) = some (family, policy) := by
  have before := takeWhile_bne_append isFamily.dot_notMem policy.toList
  have after : (family.toList ++ '.' :: policy.toList).dropWhile (· != '.') =
      '.' :: policy.toList := by
    rw [List.dropWhile_append_of_pos (bne_of_not_mem isFamily.dot_notMem)]
    exact List.dropWhile_cons_of_neg (by simp)
  simp only [splitName?, toList_dotted, before, after, isNamePart_toList.2 isFamily,
    isNamePart_toList.2 isPolicy, Bool.and_self, if_true, String.ofList_toList]

theorem parts_of_splitName? {name family policy : String}
    (split : splitName? name = some (family, policy)) :
    name = family ++ "." ++ policy ∧ IsPart family ∧ IsPart policy := by
  rw [splitName?] at split
  have whole := List.takeWhile_append_dropWhile (p := (· != '.')) (l := name.toList)
  split at split
  · cases split
  · rename_i c rest found
    dsimp only at split
    split at split
    · rename_i parts
      rw [Bool.and_eq_true] at parts
      obtain ⟨rfl, rfl⟩ := Prod.mk.inj (Option.some.inj split)
      -- What is dropped starts with the dot that the search stopped at.
      have dot : c = '.' := by
        have stopped := List.head?_dropWhile_not (· != '.') name.toList
        rw [found] at stopped
        simpa using stopped
      rw [found, dot] at whole
      refine ⟨?_, isNamePart_toList.1 ?_, isNamePart_toList.1 ?_⟩
      · apply String.toList_inj.1
        simpa using whole.symm
      · simpa using parts.1
      · simpa using parts.2
    · cases split

theorem splitName?_eq_some_iff {name family policy : String} :
    splitName? name = some (family, policy) ↔
      name = family ++ "." ++ policy ∧ IsPart family ∧ IsPart policy := by
  constructor
  · exact parts_of_splitName?
  · rintro ⟨rfl, isFamily, isPolicy⟩
    exact splitName?_of_parts isFamily isPolicy

theorem splitName?_isSome_iff {name : String} : (splitName? name).isSome ↔ IsRuleName name := by
  simp only [Option.isSome_iff_exists, Prod.exists, splitName?_eq_some_iff, IsRuleName]

/-- A name that can be read as a family and a policy can be read so in one way. -/
theorem splitName?_isSome_iff_existsUnique {name : String} :
    (splitName? name).isSome ↔ ∃! parts : String × String,
      name = parts.1 ++ "." ++ parts.2 ∧ IsPart parts.1 ∧ IsPart parts.2 := by
  constructor
  · intro splits
    obtain ⟨parts, split⟩ := Option.isSome_iff_exists.1 splits
    refine ⟨parts, splitName?_eq_some_iff.1 split, fun others reading => ?_⟩
    exact Option.some.inj ((splitName?_eq_some_iff.2 reading).symm.trans split)
  · rintro ⟨parts, reading, -⟩
    exact Option.isSome_of_eq_some (splitName?_eq_some_iff.2 reading)

/-! ## Names by their characters -/

/-- A name has one dot, which stands neither at its beginning nor at its end, and of other
characters only those of parts. -/
theorem isRuleName_iff {name : String} :
    IsRuleName name ↔ name.toList.count '.' = 1 ∧ name.toList.head? ≠ some '.' ∧
      name.toList.getLast? ≠ some '.' ∧ ∀ c ∈ name.toList, c ≠ '.' → InPart c := by
  constructor
  · rintro ⟨family, policy, rfl, isFamily, isPolicy⟩
    rw [toList_dotted, List.head?_append_of_ne_nil _ isFamily.toList_ne_nil,
      List.getLast?_append_cons, List.getLast?_cons_of_ne_nil isPolicy.toList_ne_nil]
    refine ⟨?_, fun first => isFamily.dot_notMem (List.mem_of_head? first),
      fun last => isPolicy.dot_notMem (List.mem_of_getLast? last), ?_⟩
    · rw [List.count_append, List.count_cons_self, List.count_eq_zero.2 isFamily.dot_notMem,
        List.count_eq_zero.2 isPolicy.dot_notMem]
    · intro c member other
      rcases List.mem_append.1 member with before | behind
      · exact (isPart_iff.1 isFamily).2 c before
      · exact (isPart_iff.1 isPolicy).2 c (List.mem_of_ne_of_mem other behind)
  · rintro ⟨one, notFirst, notLast, others⟩
    have dot : '.' ∈ name.toList := List.count_pos_iff.1 (one ▸ Nat.one_pos)
    obtain ⟨family, policy, split⟩ := List.append_of_mem dot
    rw [split] at one notFirst notLast others
    -- The dot of the cut is the only one, so neither side has another.
    rw [List.count_append, List.count_cons_self] at one
    refine ⟨String.ofList family, String.ofList policy, ?_, ?_, ?_⟩
    · apply String.toList_inj.1
      simpa using split
    · refine isPart_ofList ?_ (List.count_eq_zero.1 (by omega)) ?_
      · rintro rfl
        exact notFirst rfl
      · exact fun c member => others c (List.mem_append_left _ member)
    · refine isPart_ofList ?_ (List.count_eq_zero.1 (by omega)) ?_
      · rintro rfl
        exact notLast (List.getLast?_append_cons _ _ _)
      · exact fun c member => others c (List.mem_append_right _ (List.mem_cons_of_mem _ member))

theorem splitName?_eq_none_iff {name : String} :
    splitName? name = none ↔ name.toList.count '.' ≠ 1 ∨ name.toList.head? = some '.' ∨
      name.toList.getLast? = some '.' ∨ ∃ c ∈ name.toList, c ≠ '.' ∧ ¬ InPart c := by
  rw [← Option.not_isSome_iff_eq_none, splitName?_isSome_iff, isRuleName_iff]
  simp only [not_and_or, not_not, not_forall, ne_eq, exists_prop]

end Layering.Policy
