import Layering.Proofs.Source.Extraction
import Layering.Proofs.Text.Trim
import Mathlib.Data.Nat.Find

/-!
# The declared namespace

A statement is a keyword, all the blanks behind it and the text up to the next semicolon. One
blank alone makes no statement, two or more make one without text. The namespace of a file is the
text of the first place that has such a statement, trimmed, whatever else the file holds:
`namespaceOf_first_declaration`.
-/

namespace Layering.Source
open Text

/-! ## Statements -/

/-- The text begins with a statement that says `text`: the keyword, blanks as far as they go, and
what stands before the next semicolon. Where that is nothing there are at least two blanks. -/
def HasStatement (keyword s text : List Char) : Prop :=
  ∃ blanks rest, s = keyword ++ (blanks ++ (text ++ ';' :: rest)) ∧
    Gap blanks ∧ (∀ c ∈ text.head?, isBlank c = false) ∧ ';' ∉ text ∧
    (text = [] → 2 ≤ blanks.length)

theorem span_blanks {blanks text : List Char} (blank : ∀ b ∈ blanks, isBlank b = true)
    (start : ∀ c ∈ text.head?, isBlank c = false) (rest : List Char) :
    (blanks ++ (text ++ ';' :: rest)).takeWhile isBlank = blanks ∧
      (blanks ++ (text ++ ';' :: rest)).dropWhile isBlank = text ++ ';' :: rest := by
  have stops : ∀ c ∈ (text ++ ';' :: rest).head?, isBlank c = false := by
    cases text with
    | nil => simp [isBlank]
    | cons c text => exact start
  exact ⟨takeWhile_append_of_stops blank stops, dropWhile_append_of_stops blank stops⟩

theorem statement?_of_hasStatement {keyword s text : List Char}
    (statement : HasStatement keyword s text) :
    ∃ read rest, statement? keyword s = some (read, rest) ∧ trim read = trim text := by
  obtain ⟨blanks, rest, rfl, ⟨some, blank⟩, start, inside, several⟩ := statement
  obtain ⟨taken, left⟩ := span_blanks blank start rest
  rw [statement?, literal?_append, Option.bind_some]
  simp only [taken, left, takeWhile_bne_append inside, after?_append inside]
  rw [if_neg (by simpa using some), Option.bind_some]
  by_cases empty : text = []
  · have last : ∀ b ∈ blanks.drop (blanks.length - 1), isBlank b = true :=
      fun b member => blank b (List.mem_of_mem_drop member)
    refine ⟨_, rest, by rw [if_neg (by simp [empty]), if_pos (several empty)], ?_⟩
    rw [trim_of_blank last, empty]
    rfl
  · exact ⟨text, rest, if_pos (by simpa using empty), rfl⟩

theorem hasStatement_of_statement? {keyword s : List Char} (found : statement? keyword s ≠ none) :
    ∃ text, HasStatement keyword s text := by
  rw [statement?] at found
  cases keyed : literal? keyword s with
  | none => simp [keyed] at found
  | some behind =>
      rw [keyed, Option.bind_some] at found
      rw [literal?_eq_some_iff.1 keyed]
      have whole : behind = behind.takeWhile isBlank ++ behind.dropWhile isBlank :=
        List.takeWhile_append_dropWhile.symm
      have blank : ∀ b ∈ behind.takeWhile isBlank, isBlank b = true :=
        fun b member => List.mem_takeWhile_imp member
      have start : ∀ c ∈ (behind.dropWhile isBlank).head?, isBlank c = false := head?_dropWhile
      dsimp only at found
      generalize behind.takeWhile isBlank = blanks at found whole blank
      generalize behind.dropWhile isBlank = body at found whole start
      have some : blanks ≠ [] := by
        rintro rfl
        exact found rfl
      have closed : ';' ∈ body := by
        by_contra absent
        simp [after?_eq_none absent] at found
      obtain ⟨text, rest, rfl, inside⟩ := List.eq_append_cons_of_mem closed
      refine ⟨text, blanks, rest, by rw [whole], ⟨some, blank⟩, ?_, inside, fun empty => ?_⟩
      · intro c head
        exact start c (by rw [List.head?_append, Option.mem_def.1 head]; rfl)
      · by_contra single
        rw [takeWhile_bne_append inside, after?_append inside] at found
        simp [some, empty, single] at found

theorem exists_hasStatement_iff {keyword s : List Char} :
    (∃ text, HasStatement keyword s text) ↔ statement? keyword s ≠ none := by
  refine ⟨?_, hasStatement_of_statement?⟩
  rintro ⟨text, statement⟩
  obtain ⟨read, rest, found, -⟩ := statement?_of_hasStatement statement
  simp [found]

/-! ## The first statement -/

/-- A search goes on from a place before which nothing is read. -/
theorem leftmost?_drop {α : Type} {m : Recognizer α} {s : List Char} {i : Nat}
    (refuses : ∀ j < i, m (s.drop j) = none) : leftmost? m s = leftmost? m (s.drop i) := by
  induction i generalizing s with
  | zero => rfl
  | succ i ih =>
      cases s with
      | nil => rfl
      | cons c rest =>
          have here : m (c :: rest) = none := refuses 0 (Nat.succ_pos i)
          rw [leftmost?, here]
          exact ih fun j earlier => refuses (j + 1) (Nat.succ_lt_succ earlier)

/-- At a place of the content, a namespace statement says `text`. -/
def DeclaresSpace (content : List Char) (i : Nat) (text : List Char) : Prop :=
  HasStatement "namespace".toList (content.drop i) text

section

variable {content : List Char}

theorem namespaceOf_of_first {i : Nat} {text : List Char} (here : DeclaresSpace content i text)
    (first : ∀ j < i, ∀ other, ¬ DeclaresSpace content j other) :
    namespaceOf content = String.ofList (trim text) := by
  obtain ⟨read, rest, found, same⟩ := statement?_of_hasStatement here
  have refuses : ∀ j < i, statement? "namespace".toList (content.drop j) = none := by
    intro j earlier
    by_contra reads
    obtain ⟨other, statement⟩ := hasStatement_of_statement? reads
    exact first j earlier other statement
  rw [namespaceOf, leftmost?_drop refuses, leftmost?_of_some found, ← same]

theorem namespaceOf_of_none (none : ∀ i text, ¬ DeclaresSpace content i text) :
    namespaceOf content = "" := by
  have refused : leftmost? (statement? "namespace".toList) content = Option.none := by
    rw [leftmost?_eq_none_iff]
    intro u suffix
    by_contra reads
    obtain ⟨text, statement⟩ := hasStatement_of_statement? reads
    rw [List.suffix_iff_eq_drop.1 suffix] at statement
    exact none _ text statement
  rw [namespaceOf, refused]

/-- There is no namespace statement, or there is a first one. -/
theorem namespaceOf_cases :
    namespaceOf content = "" ∨
      ∃ i text, DeclaresSpace content i text ∧ namespaceOf content = String.ofList (trim text) := by
  by_cases declared : ∃ i text, DeclaresSpace content i text
  · classical
    obtain ⟨text, here⟩ := Nat.find_spec declared
    refine .inr ⟨_, text, here, namespaceOf_of_first here fun j earlier other statement => ?_⟩
    exact Nat.find_min declared earlier ⟨other, statement⟩
  · exact .inl (namespaceOf_of_none fun i text here => declared ⟨i, text, here⟩)

end

/-- The namespace is what the first place with a namespace statement says, trimmed, and empty when
there is no such place. It has no semicolon, and no blank at its ends. -/
theorem namespaceOf_first_declaration (content : List Char) :
    (∀ i text, DeclaresSpace content i text →
      (∀ j < i, ∀ other, ¬ DeclaresSpace content j other) →
        namespaceOf content = String.ofList (trim text)) ∧
      ((∀ i text, ¬ DeclaresSpace content i text) → namespaceOf content = "") ∧
      ';' ∉ (namespaceOf content).toList ∧ Trimmed (namespaceOf content).toList := by
  refine ⟨fun _ _ => namespaceOf_of_first, namespaceOf_of_none, ?_⟩
  rcases @namespaceOf_cases content with none | ⟨i, text, here, said⟩
  · rw [none]
    exact ⟨List.not_mem_nil, by simp [Trimmed]⟩
  · obtain ⟨-, -, -, -, -, inside, -⟩ := here
    rw [said, String.toList_ofList]
    exact ⟨fun member => inside (mem_of_mem_trim member), trimmed_trim text⟩

/-- One blank makes no statement, two make one that says nothing and hides what comes later. -/
theorem namespaceOf_blank_declaration :
    let content := "<?php namespace ; namespace  ; namespace App;".toList
    DeclaresSpace content 18 [] ∧ (∀ j < 18, ∀ other, ¬ DeclaresSpace content j other) ∧
      namespaceOf content = "" := by
  rewrite [String.toList_ofList]
  intro content
  have here : DeclaresSpace content 18 [] :=
    ⟨"  ".toList, " namespace App;".toList, by decide, by decide, by simp, by simp,
      by decide⟩
  have earlier : ∀ j < 18, statement? "namespace".toList (content.drop j) = none := by
    decide
  have first : ∀ j < 18, ∀ other, ¬ DeclaresSpace content j other := by
    intro j before other statement
    exact exists_hasStatement_iff.1 ⟨other, statement⟩ (earlier j before)
  exact ⟨here, first, (namespaceOf_first_declaration content).1 18 [] here first⟩

end Layering.Source
