import Layering.Proofs.Source.Extraction
import Layering.Proofs.Text.Mark

/-!
# Statements one after another

A statement ends at the next semicolon, whatever its keyword. So nothing behind a semicolon takes
part in what is read before it, and behind a semicolon the reading starts afresh: a text that ends
with one can be read on its own (`imports_compose`).
-/

namespace Layering.Source
open Text

theorem statement?_endsAt {keyword : List Char} (absent : ';' ∉ keyword) :
    EndsAt ';' (statement? keyword) := by
  intro p inside
  refine ⟨statement?_eq_none inside, (statement? keyword (p ++ [';'])).map Prod.fst, fun t => ?_⟩
  have solid : isBlank ';' = false := by decide
  simp only [statement?, literal?_append_cons absent]
  cases found : literal? keyword p with
  | none => rfl
  | some rest =>
      -- Neither the blanks nor the text behind them go on past the semicolon.
      have upTo : ';' ∉ rest.dropWhile isBlank := by
        intro member
        apply inside
        exact (literal?_suffix found).mem ((List.dropWhile_suffix _).mem member)
      simp only [Option.map_some, Option.bind_some, takeWhile_append_cons solid,
        dropWhile_append_cons solid, takeWhile_bne_append upTo, after?_append upTo]
      split
      · rfl
      · split
        · rfl
        · split <;> rfl

/-- The text of the first namespace statement, as it stands. -/
def namespaceText? (content : List Char) : Option (List Char) :=
  (leftmost? (statement? "namespace".toList) content).map Prod.fst

theorem namespaceOf_eq (content : List Char) :
    namespaceOf content =
      ((namespaceText? content).map fun text => String.ofList (trim text)).getD "" := by
  unfold namespaceOf namespaceText?
  cases leftmost? (statement? "namespace".toList) content with
  | none => rfl
  | some found => rfl

section

variable {a : List Char} (ended : Closed ';' a) (b : List Char)
include ended

theorem importsOf_append : importsOf (a ++ b) = importsOf a ++ importsOf b := by
  unfold importsOf
  rw [ended.every_append (statement?_endsAt (by decide)), List.map_append]

theorem namespaceText?_append :
    namespaceText? (a ++ b) = (namespaceText? a).or (namespaceText? b) := by
  unfold namespaceText?
  rw [ended.leftmost?_append (statement?_endsAt (by decide)), Option.map_or, Option.map_map]
  rfl

theorem namespaceOf_append :
    namespaceOf (a ++ b) = if (namespaceText? a).isSome then namespaceOf a else namespaceOf b := by
  simp only [namespaceOf_eq, namespaceText?_append ended]
  cases namespaceText? a with
  | none => rfl
  | some text => rfl

end

/-- The finished statements of a text: its pieces up to and with each semicolon. What follows the
last semicolon is none. -/
def finished (content : List Char) : List (List Char) :=
  (content.splitOnP (· == ';')).dropLast.map (· ++ [';'])

theorem importsOf_eq_flatMap (content : List Char) :
    importsOf content = (finished content).flatMap importsOf := by
  rw [importsOf, (statement?_endsAt (by decide)).every_eq_flatMap, List.map_flatMap, finished,
    List.flatMap_map]
  rfl

/-- What stands behind a finished statement neither changes nor hides what was read before it:
the imports of the two texts are read one text after the other, and the namespace statement is
that of the first text which has one. -/
theorem imports_compose {a : List Char} (ended : a = [] ∨ a.getLast? = some ';') (b : List Char) :
    importsOf (a ++ b) = importsOf a ++ importsOf b ∧
      namespaceText? (a ++ b) = (namespaceText? a).or (namespaceText? b) ∧
      namespaceOf (a ++ b) =
        (if (namespaceText? a).isSome then namespaceOf a else namespaceOf b) ∧
      ∀ content, importsOf content = (finished content).flatMap importsOf :=
  ⟨importsOf_append ended b, namespaceText?_append ended b, namespaceOf_append ended b,
    importsOf_eq_flatMap⟩

theorem imports_compose_at_cut :
    let a := "<?php namespace App;use ;use  ;reuse A\\B;".toList
    let b := "\nnamespace Other;use C as D; use E".toList
    importsOf (a ++ b) = [⟨"", none⟩, ⟨"A\\B", none⟩] ++ [⟨"C", some "D"⟩] ∧
      namespaceText? (a ++ b) = some "App".toList ∧ namespaceOf (a ++ b) = "App" := by
  rewrite [String.toList_ofList, String.toList_ofList]
  intro a b
  -- Two statements have no text, one keyword ends a longer word, and the last import never ends.
  obtain ⟨imports, statement, space, -⟩ := imports_compose (a := a) (.inr (by decide)) b
  have before : importsOf a = [⟨"", none⟩, ⟨"A\\B", none⟩] := by decide +kernel
  have behind : importsOf b = [⟨"C", some "D"⟩] := by decide +kernel
  have declared : namespaceText? a = some "App".toList := by decide
  have named : namespaceOf a = "App" := by decide
  refine ⟨?_, ?_, ?_⟩
  · rw [imports, before, behind]
  · rw [statement, declared]
    rfl
  · rw [space, declared]
    exact named

end Layering.Source
