import Layering.Json.Printer

/-!
# Texts without escape characters

Digits have no escape character, texts put together from texts without one have none, and the
printer of JSON writes it as the number of its code. So no printed value has an escape character,
whatever stands in its strings: `escapeFree_pretty`.
-/

namespace Layering
open Number

namespace Text

/-- The text has no escape character. -/
def EscapeFree (s : String) : Prop := '\x1b' ∉ s.toList

instance (s : String) : Decidable (EscapeFree s) :=
  inferInstanceAs (Decidable ('\x1b' ∉ s.toList))

@[simp] theorem escapeFree_append {s t : String} :
    EscapeFree (s ++ t) ↔ EscapeFree s ∧ EscapeFree t := by
  simp [EscapeFree]

@[simp] theorem escapeFree_ofList {s : List Char} : EscapeFree (String.ofList s) ↔ '\x1b' ∉ s := by
  rw [EscapeFree, String.toList_ofList]

theorem EscapeFree.ite {p : Prop} [Decidable p] {s t : String} (left : EscapeFree s)
    (right : EscapeFree t) : EscapeFree (if p then s else t) := by
  split
  · exact left
  · exact right

theorem escapeFree_join {texts : List String} (each : ∀ s ∈ texts, EscapeFree s) :
    EscapeFree (String.join texts) := by
  intro member
  rw [String.toList_join, List.mem_flatMap] at member
  obtain ⟨s, among, inside⟩ := member
  exact each s among inside

theorem escapeFree_intercalate {separator : String} (separates : EscapeFree separator)
    {texts : List String} (each : ∀ s ∈ texts, EscapeFree s) :
    EscapeFree (separator.intercalate texts) := by
  induction texts with
  | nil => simp [EscapeFree]
  | cons s texts ih =>
      obtain ⟨first, later⟩ := List.forall_mem_cons.1 each
      cases texts with
      | nil => simpa using first
      | cons t texts =>
          rw [String.intercalate_cons_cons, escapeFree_append, escapeFree_append]
          exact ⟨⟨first, separates⟩, ih later⟩

theorem escape_notMem_toDigits (n : Nat) : '\x1b' ∉ Nat.toDigits 10 n := by
  intro digit
  simpa using Nat.isDigit_of_mem_toDigits (by decide) (by decide) digit

theorem escapeFree_toString (n : Nat) : EscapeFree (toString n) := by
  rw [Nat.toString_eq_ofList_toDigits, escapeFree_ofList]
  exact escape_notMem_toDigits n

theorem escapeFree_digitsText (n : Nat) : EscapeFree (Binary64.digitsText n) := by
  rw [Binary64.digitsText, escapeFree_ofList]
  exact escape_notMem_toDigits n

end Text

namespace Json
open Text

/-! ## Numbers -/

theorem escapeFree_integerText (n : Int) : EscapeFree (Binary64.integerText n) := by
  rw [Binary64.integerText]
  split
  · exact escapeFree_append.2 ⟨by decide, escapeFree_digitsText _⟩
  · exact escapeFree_digitsText _

theorem escapeFree_positional (c : Nat) (e : Int) : EscapeFree (Binary64.positional c e) := by
  have digits := escapeFree_digitsText c
  have zeros (n : Nat) : EscapeFree (Binary64.zeros n) := by simp [Binary64.zeros]
  rw [Binary64.positional]
  split
  · exact escapeFree_append.2 ⟨digits, zeros _⟩
  · split
    · simp only [escapeFree_append, escapeFree_ofList]
      exact ⟨⟨fun member => digits (List.mem_of_mem_take member), by decide⟩,
        fun member => digits (List.mem_of_mem_drop member)⟩
    · simp only [escapeFree_append]
      exact ⟨⟨by decide, zeros _⟩, digits⟩

theorem escapeFree_scientific (c : Nat) (e : Int) : EscapeFree (Binary64.scientific c e) := by
  have digits := escapeFree_digitsText c
  have exponent (n : Int) : EscapeFree ("e" ++ Binary64.integerText n) :=
    escapeFree_append.2 ⟨by decide, escapeFree_integerText n⟩
  rw [Binary64.scientific]
  rw [EscapeFree] at digits
  split
  · exact exponent _
  · rename_i d single
    rw [single, List.mem_singleton] at digits
    exact escapeFree_append.2 ⟨by simpa [EscapeFree] using digits, exponent _⟩
  · rename_i d rest _ several
    rw [several, List.mem_cons, not_or] at digits
    rw [escapeFree_append, escapeFree_append, escapeFree_append, escapeFree_ofList (s := rest)]
    exact ⟨⟨⟨by simpa [EscapeFree] using digits.1, by decide⟩, digits.2⟩, exponent _⟩

theorem escapeFree_floatText (x : Binary64) : EscapeFree (floatText x) := by
  rw [floatText, Binary64.dataText]
  obtain ⟨c, e⟩ := x.shortest
  have positional := escapeFree_positional c e
  have scientific := escapeFree_scientific c e
  refine .ite (.ite (escapeFree_append.2 ⟨by decide, ?digits⟩) ?digits) (by decide)
  exact .ite (by decide)
    (.ite (escapeFree_append.2 ⟨positional, by decide⟩) (.ite positional scientific))

/-! ## Values -/

theorem escapeFree_quote (s : String) : EscapeFree (quote s) := by
  have hexadecimal : ∀ n < 16, '\x1b' ≠ hexChar n := by decide
  have written (c : Char) : '\x1b' ∉ escapeChar c := by
    by_cases short : c ∈ ['\x22', '\\', '\n', '\r', '\t', '\x08', '\x0c']
    · simp only [List.mem_cons, List.not_mem_nil, or_false] at short
      rcases short with rfl | rfl | rfl | rfl | rfl | rfl | rfl <;> decide
    · simp only [List.mem_cons, List.not_mem_nil, or_false, not_or] at short
      by_cases control : c.toNat < 32
      · have high := hexadecimal (c.toNat / 16) (by omega)
        have low := hexadecimal (c.toNat % 16) (by omega)
        simp [escapeChar, short, control, high, low]
      · have other : '\x1b' ≠ c := by
          rintro rfl
          exact control (by decide)
        simp [escapeChar, short, control, other]
  simp only [quote, escapeFree_append, escapeFree_ofList, List.mem_flatMap, not_exists, not_and]
  exact ⟨⟨by decide, fun c _ => written c⟩, by decide⟩

theorem escapeFree_lineBreak (depth : Nat) : EscapeFree (lineBreak depth) := by
  simp [lineBreak, EscapeFree]

mutual

theorem escapeFree_prettyAt (depth : Nat) : ∀ v : Json, EscapeFree (prettyAt depth v)
  | .null => (by decide : EscapeFree "null")
  | .bool true => (by decide : EscapeFree "true")
  | .bool false => (by decide : EscapeFree "false")
  | .int n => escapeFree_integerText n
  | .float x => escapeFree_floatText x
  | .string s => escapeFree_quote s
  | .array [] => (by decide : EscapeFree "[]")
  | .array (v :: rest) => by
      have first := escapeFree_prettyAt (depth + 1) v
      have others := escapeFree_prettyItems (depth + 1) rest
      simp only [prettyAt, escapeFree_append]
      exact ⟨⟨⟨⟨⟨by decide, escapeFree_lineBreak _⟩, first⟩, others⟩, escapeFree_lineBreak _⟩,
        by decide⟩
  | .object [] => (by decide : EscapeFree "\x7b\x7d")
  | .object ((k, v) :: rest) => by
      have first := escapeFree_prettyAt (depth + 1) v
      have others := escapeFree_prettyMembers (depth + 1) rest
      simp only [prettyAt, escapeFree_append]
      exact ⟨⟨⟨⟨⟨⟨⟨by decide, escapeFree_lineBreak _⟩, escapeFree_quote k⟩, by decide⟩, first⟩,
        others⟩, escapeFree_lineBreak _⟩, by decide⟩

theorem escapeFree_prettyItems (depth : Nat) :
    ∀ items : List Json, EscapeFree (prettyItems depth items)
  | [] => (by decide : EscapeFree "")
  | v :: rest => by
      have first := escapeFree_prettyAt depth v
      have others := escapeFree_prettyItems depth rest
      simp only [prettyItems, escapeFree_append]
      exact ⟨⟨⟨by decide, escapeFree_lineBreak _⟩, first⟩, others⟩

theorem escapeFree_prettyMembers (depth : Nat) :
    ∀ members : List (String × Json), EscapeFree (prettyMembers depth members)
  | [] => (by decide : EscapeFree "")
  | (k, v) :: rest => by
      have first := escapeFree_prettyAt depth v
      have others := escapeFree_prettyMembers depth rest
      simp only [prettyMembers, escapeFree_append]
      exact ⟨⟨⟨⟨⟨by decide, escapeFree_lineBreak _⟩, escapeFree_quote k⟩, by decide⟩, first⟩, others⟩

end

theorem escapeFree_pretty (v : Json) : EscapeFree v.pretty := escapeFree_prettyAt 0 v

end Json

end Layering
