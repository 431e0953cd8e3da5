import Layering.Source.Basic
import Layering.Proofs.Text.Scan

/-!
# What each extraction reads

For every recogniser of the extraction: the keyword it starts with, the text it reads off a plain
occurrence, and a character without which it reads nothing.
-/

namespace Layering.Source
open Text

/-! ## Statements -/

theorem statement?_eq_none {keyword s : List Char} (absent : ';' ∉ s) :
    statement? keyword s = none := by
  rw [statement?]
  cases found : literal? keyword s with
  | none => rfl
  | some rest =>
      have later : ';' ∉ rest.dropWhile isBlank := fun member =>
        absent ((literal?_suffix found).mem ((List.dropWhile_suffix _).mem member))
      simp [after?_eq_none later]

/-! ## Declarations -/

theorem lastClause?_cons_of_some {c : Char} {rest list : List Char} (line : c ≠ '\n')
    (later : lastClause? rest = some list) : lastClause? (c :: rest) = some list := by
  rw [lastClause?, if_neg (by simpa using line), later]

theorem qualified?_suffix {s name rest : List Char} (found : qualified? s = some (name, rest)) :
    rest <:+ s := by
  fun_induction qualified? s generalizing name rest with
  | case1 => cases found
  | case2 => cases found
  | case3 c s word after named more last =>
      rename_i inner ih
      obtain ⟨-, rfl⟩ := Prod.mk.inj (Option.some.inj found)
      exact ((ih inner).trans (List.dropWhile_suffix _)).trans (List.suffix_cons c s)
  | case4 c s word after named =>
      obtain ⟨-, rfl⟩ := Prod.mk.inj (Option.some.inj found)
      exact (List.dropWhile_suffix _).trans (List.suffix_cons c s)

theorem signature?_eq_none {name : List Char → Option (List Char)}
    (suffixes : ∀ {s rest}, name s = some rest → rest <:+ s) {s : List Char} (absent : '(' ∉ s) :
    signature? name s = none := by
  rw [signature?]
  cases keyword : literal? "function".toList s with
  | none => rfl
  | some rest =>
      rw [Option.bind_some]
      cases blanks : blanks? rest with
      | none => rfl
      | some rest' =>
          rw [Option.bind_some]
          cases named : name rest' with
          | none => rfl
          | some rest'' =>
              have suffix : trimStart rest'' <:+ s :=
                (List.dropWhile_suffix _).trans ((suffixes named).trans
                  ((blanks?_suffix blanks).trans (literal?_suffix keyword)))
              rw [Option.bind_some]
              split
              · rename_i opened
                exact absurd (suffix.mem (opened ▸ List.mem_cons_self)) absent
              · rfl

theorem anyName_suffix {s rest : List Char} (found : anyName s = some rest) : rest <:+ s := by
  obtain ⟨⟨word, after⟩, run, rfl⟩ := Option.map_eq_some_iff.1 found
  exact run?_suffix run

end Layering.Source
