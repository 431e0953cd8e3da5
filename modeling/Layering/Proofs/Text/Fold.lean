import Layering.Text.Fold
import Mathlib.Data.List.Induction

/-!
# Case variants

The characters that equal a character up to case are those of the last listed class that has it.
For the two letters of `as` these are the lower and the upper case, and the long s.
-/

namespace Layering.Text

/-- The classes that a text lists. -/
def listedClasses (text : List Char) : List (List Nat) :=
  (text.splitOnP Char.isWhitespace).map readClass

/-- A table that has at each number the last class with it. -/
def classTable (classes : List (List Nat)) : Std.HashMap Nat (List Nat) :=
  classes.foldl (fun table cls => cls.foldl (fun table n => table.insert n cls) table) {}

theorem getD_foldl_insert (members cls : List Nat) (table : Std.HashMap Nat (List Nat)) (n : Nat)
    (alone : List Nat) :
    (members.foldl (fun table n => table.insert n cls) table).getD n alone =
      if n ∈ members then cls else table.getD n alone := by
  induction members generalizing table with
  | nil => simp
  | cons m members ih =>
      rw [List.foldl_cons, ih, Std.HashMap.getD_insert]
      by_cases later : n ∈ members
      · simp [later]
      · by_cases same : m = n <;> simp [later, same, Ne.symm]

theorem getD_classTable (classes : List (List Nat)) (n : Nat) (alone : List Nat) :
    (classTable classes).getD n alone =
      ((classes.filter (·.contains n)).getLast?).getD alone := by
  induction classes using List.reverseRecOn with
  | nil => simp [classTable]
  | append_singleton classes cls ih =>
      rw [classTable] at ih ⊢
      rw [List.foldl_append, List.foldl_cons, List.foldl_nil, getD_foldl_insert, ih,
        List.filter_append]
      by_cases member : n ∈ cls <;> simp [member]

theorem getD_congr {s t : Std.HashMap Nat (List Nat)} (same : s = t) (n : Nat) :
    (s.getD n [n]).map Char.ofNat = (t.getD n [n]).map Char.ofNat := by
  rw [same]

/-! ## Reading the list in one pass

Splitting a text into words and the words into numbers goes over each character several times. One
pass gives the same classes. -/

/-- The numbers of a class text whose first number begins with `n`. -/
def readClassFrom (n : Nat) (word : List Char) : List Nat :=
  match word.splitOnP (· == '=') with
  | [] => []
  | digits :: rest =>
      digits.foldl (fun n c => n * 16 + (CodePoints.hexDigit? c).getD 0) n ::
        rest.map fun digits =>
          digits.foldl (fun n c => n * 16 + (CodePoints.hexDigit? c).getD 0) 0

theorem readClassFrom_zero (word : List Char) : readClassFrom 0 word = readClass word := by
  unfold readClassFrom readClass
  cases word.splitOnP (· == '=') <;> rfl

theorem readClassFrom_cons (n : Nat) (c : Char) (word : List Char) :
    readClassFrom n (c :: word) =
      bif c == '=' then n :: readClass word
      else readClassFrom (n * 16 + (CodePoints.hexDigit? c).getD 0) word := by
  obtain ⟨digits, rest, pieces⟩ :=
    List.exists_cons_of_ne_nil (List.splitOnP_ne_nil (· == '=') word)
  unfold readClassFrom readClass
  rw [List.splitOnP_cons_eq_if_modifyHead, pieces]
  cases c == '=' <;> rfl

/-- The classes that a text lists, with `n` the number being read. -/
def classesFrom (n : Nat) : List Char → List (List Nat)
  | [] => [[n]]
  | c :: text =>
      bif c.isWhitespace then [n] :: classesFrom 0 text
      else bif c == '=' then (classesFrom 0 text).modifyHead (n :: ·)
      else classesFrom (n * 16 + (CodePoints.hexDigit? c).getD 0) text

theorem classesFrom_eq {text word : List Char} {words : List (List Char)}
    (split : text.splitOnP Char.isWhitespace = word :: words) (n : Nat) :
    classesFrom n text = readClassFrom n word :: words.map readClass := by
  induction text generalizing n word words with
  | nil =>
      obtain ⟨rfl, rfl⟩ := List.cons.inj split
      rfl
  | cons c text ih =>
      obtain ⟨next, others, rest⟩ :=
        List.exists_cons_of_ne_nil (List.splitOnP_ne_nil Char.isWhitespace text)
      rw [List.splitOnP_cons_eq_if_modifyHead, rest] at split
      rw [classesFrom, ih rest, ih rest, readClassFrom_zero]
      cases blank : c.isWhitespace with
      | true =>
          rw [blank] at split
          obtain ⟨rfl, rfl⟩ := List.cons.inj split
          rfl
      | false =>
          rw [blank] at split
          obtain ⟨rfl, rfl⟩ := List.cons.inj split
          rw [readClassFrom_cons]
          cases c == '=' <;> rfl

theorem listedClasses_eq (text : List Char) : listedClasses text = classesFrom 0 text := by
  obtain ⟨word, words, split⟩ :=
    List.exists_cons_of_ne_nil (List.splitOnP_ne_nil Char.isWhitespace text)
  rw [classesFrom_eq split, readClassFrom_zero, listedClasses, split, List.map_cons]

set_option maxRecDepth 100000 in
/-- Of all classes listed, two have one of the letters `a` and `s`. -/
theorem exists_classes : ∃ classes : List (List Nat),
    (∀ c, caseVariants c = ((classTable classes).getD c.toNat [c.toNat]).map Char.ofNat) ∧
      classes.filter (·.any fun n => n.beq 0x61 || n.beq 0x73) =
        [[0x41, 0x61], [0x53, 0x73, 0x17F]] := by
  have read : ∃ table : String, (∀ c, caseVariants c =
      ((classTable (listedClasses table.toList)).getD c.toNat [c.toNat]).map Char.ofNat) ∧
      ∃ text, table = String.ofList text ∧
        (classesFrom 0 text).filter (·.any fun n => n.beq 0x61 || n.beq 0x73) =
          [[0x41, 0x61], [0x53, 0x73, 0x17F]] := by
    refine ⟨?table, fun c => ?same, ?text, ?written, ?kept⟩
    case same =>
      delta caseVariants
      apply getD_congr
      delta classTable listedClasses
      rfl
    case written => rfl
    case kept => decide +kernel
  obtain ⟨table, variants, text, rfl, kept⟩ := read
  rw [String.toList_ofList, listedClasses_eq] at variants
  exact ⟨classesFrom 0 text, variants, kept⟩

/-- The letters of `as` in any case. -/
theorem caseVariants_as :
    caseVariants 'a' = ['A', 'a'] ∧ caseVariants 's' = ['S', 's', 'ſ'] := by
  obtain ⟨classes, variants, kept⟩ := exists_classes
  have having (n : Nat) (letter : (n.beq 0x61 || n.beq 0x73) = true) :
      classes.filter (·.contains n) =
        [[0x41, 0x61], [0x53, 0x73, 0x17F]].filter (·.contains n) := by
    rw [← kept, List.filter_filter]
    refine List.filter_congr fun cls _ => (Bool.and_eq_left_iff_imp.2 fun member => ?_).symm
    exact List.any_eq_true.2 ⟨n, List.contains_iff_mem.1 member, letter⟩
  rw [variants, variants, getD_classTable, getD_classTable, having 'a'.toNat rfl,
    having 's'.toNat rfl]
  decide

end Layering.Text
