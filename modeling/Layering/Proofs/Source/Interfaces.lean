import Layering.Proofs.Source.Canonical
import Layering.Proofs.Source.Extraction

/-!
# Whose interfaces are read

The implements clause is looked for after a class keyword, blanks and the name of the class, on
the same line. The name is not followed to its end, so the clause found may belong to a class with
a longer name that begins with it. When no class of the text has such a name, the clause is one of
the class asked for, and none is found only if no declaration of it has one on its line:
`clause_of_named_class`.
-/

namespace Layering.Source
open Text

/-! ## Clauses -/

/-- The text begins with a clause that has the list: the keyword, blanks and the list, which goes
up to a brace or to the end of the text. -/
def Clause (s list : List Char) : Prop :=
  ∃ blanks rest, s = "implements".toList ++ (blanks ++ (list ++ rest)) ∧
    blanks ≠ [] ∧ (∀ b ∈ blanks, isBlank b = true) ∧
    list ≠ [] ∧ '\x7b' ∉ list ∧ ∀ c ∈ rest.head?, c = '\x7b'

theorem clause?_sound {s list : List Char} (found : clause? s = some list) : Clause s list := by
  rw [clause?, Option.bind_eq_some_iff] at found
  obtain ⟨after, keyword, found⟩ := found
  rw [literal?_eq_some_iff.1 keyword]
  dsimp only at found
  have whole : after = after.takeWhile isBlank ++ after.dropWhile isBlank :=
    List.takeWhile_append_dropWhile.symm
  have blank : ∀ b ∈ after.takeWhile isBlank, isBlank b = true :=
    fun b member => List.mem_takeWhile_imp member
  generalize after.takeWhile isBlank = blanks at found whole blank
  generalize after.dropWhile isBlank = body at found whole
  have brace : ∀ c ∈ (body.dropWhile (· != '\x7b')).head?, c = '\x7b' :=
    fun c head => by simpa using head?_dropWhile c head
  split at found
  · cases found
  · rename_i some
    split at found
    · rename_i listed
      obtain rfl := Option.some.inj found
      refine ⟨blanks, body.dropWhile (· != '\x7b'), ?_, by simpa using some, blank,
        by simpa using listed, ?_, brace⟩
      · rw [List.takeWhile_append_dropWhile, whole]
      · exact fun member => by simpa using List.mem_takeWhile_imp member
    · rename_i unlisted
      split at found
      · rename_i several
        obtain rfl := Option.some.inj found
        have upTo : body.takeWhile (· != '\x7b') = [] := by simpa using unlisted
        have rest : body.dropWhile (· != '\x7b') = body := by
          conv_rhs => rw [← List.takeWhile_append_dropWhile (p := (· != '\x7b')) (l := body), upTo]
          rfl
        have last : ∀ b ∈ blanks.drop (blanks.length - 1), isBlank b = true :=
          fun b member => blank b (List.mem_of_mem_drop member)
        refine ⟨blanks.take (blanks.length - 1), body, ?_, ?_,
          fun b member => blank b (List.mem_of_mem_take member), ?_, ?_, rest ▸ brace⟩
        · rw [← List.append_assoc (List.take _ _), List.take_append_drop, whole]
        · exact List.ne_nil_of_length_pos (by rw [List.length_take]; omega)
        · exact List.ne_nil_of_length_pos (by rw [List.length_drop]; omega)
        · exact fun member => absurd (last _ member) (by decide)
      · cases found

theorem clause?_complete {s list : List Char} (clause : Clause s list) : clause? s ≠ none := by
  obtain ⟨blanks, rest, rfl, some, blank, listed, inside, -⟩ := clause
  rw [clause?, literal?_append, Option.bind_some]
  have taken : (blanks ++ (list ++ rest)).takeWhile isBlank =
      blanks ++ (list ++ rest).takeWhile isBlank := List.takeWhile_append_of_pos blank
  have left : (blanks ++ (list ++ rest)).dropWhile isBlank = (list ++ rest).dropWhile isBlank :=
    List.dropWhile_append_of_pos blank
  have nonempty := List.length_pos_iff.2 some
  dsimp only
  rw [taken, left, if_neg (by simpa using fun none => absurd none some)]
  by_cases blankList : ∀ c ∈ list, isBlank c = true
  · -- The blanks go on through the list, so there are at least two.
    have counted := List.length_pos_iff.2 listed
    rw [List.takeWhile_append_of_pos blankList, List.length_append, List.length_append]
    split
    · simp
    · rw [if_pos (by omega)]
      simp
  · have starts : list.dropWhile isBlank ≠ [] :=
      fun none => blankList (List.dropWhile_eq_nil_iff.1 none)
    obtain ⟨d, tail, first⟩ := List.exists_cons_of_ne_nil starts
    have other : d ≠ '\x7b' := by
      rintro rfl
      exact inside ((List.dropWhile_suffix isBlank).mem (first ▸ List.mem_cons_self))
    rw [if_pos]
    · simp
    · simp [List.dropWhile_append, first, other]

/-- On its first line, the text has a clause with the list. -/
def HasClause (s list : List Char) : Prop :=
  ∃ gap rest, s = gap ++ rest ∧ '\n' ∉ gap ∧ Clause rest list

theorem lastClause?_sound {s list : List Char} (found : lastClause? s = some list) :
    HasClause s list := by
  induction s with
  | nil => cases found
  | cons c s ih =>
      rw [lastClause?] at found
      split at found
      · cases found
      · rename_i line
        split at found
        · rename_i later
          obtain ⟨gap, rest, rfl, sameLine, clause⟩ := ih (later.trans found)
          refine ⟨c :: gap, rest, rfl, ?_, clause⟩
          rw [List.mem_cons, not_or]
          exact ⟨fun same => line (by simp [← same]), sameLine⟩
        · exact ⟨[], c :: s, rfl, List.not_mem_nil, clause?_sound found⟩

theorem lastClause?_complete {s list : List Char} (clause : HasClause s list) :
    lastClause? s ≠ none := by
  obtain ⟨gap, rest, rfl, sameLine, clause⟩ := clause
  induction gap with
  | nil =>
      have here := clause?_complete clause
      obtain ⟨blanks, after, rfl, -⟩ := clause
      have first (w : List Char) : "implements".toList ++ w = 'i' :: ("mplements".toList ++ w) := rfl
      rw [first] at here
      rw [List.nil_append, first, lastClause?, if_neg (by decide)]
      split
      · simp
      · exact here
  | cons c gap ih =>
      rw [List.mem_cons, not_or] at sameLine
      obtain ⟨found, later⟩ := Option.ne_none_iff_exists'.1 (ih sameLine.2)
      rw [List.cons_append, lastClause?_cons_of_some (Ne.symm sameLine.1) later]
      simp

theorem hasClause_iff {s : List Char} : (∃ list, HasClause s list) ↔ lastClause? s ≠ none := by
  constructor
  · rintro ⟨list, clause⟩
    exact lastClause?_complete clause
  · intro found
    obtain ⟨list, found⟩ := Option.ne_none_iff_exists'.1 found
    exact ⟨list, lastClause?_sound found⟩

/-! ## Declarations -/

/-- In the text, a class keyword, blanks and the name are followed by `rest`. -/
def Declares (content name rest : List Char) : Prop :=
  ∃ before blanks, content = before ++ ("class".toList ++ (blanks ++ (name ++ rest))) ∧
    blanks ≠ [] ∧ ∀ b ∈ blanks, isBlank b = true

/-- A name of a type that stands before `rest` ends there. -/
def NameEnds (rest : List Char) : Prop := ∀ c ∈ rest.head?, isTypeChar c = false

instance (rest : List Char) : Decidable (NameEnds rest) := Option.decidableForallMem rest.head?

/-- The text after a class keyword, blanks and the name. -/
def afterName? (name s : List Char) : Option (List Char) :=
  (literal? "class".toList s).bind fun rest => (blanks? rest).bind (literal? name)

variable {name : List Char}

/-- A solid name does not begin inside the blanks, so the places tried there come to one. -/
theorem classClause?_eq (nonempty : name ≠ []) (solid : Solid name) (s : List Char) :
    classClause? name s = ((blanks? s).bind (literal? name)).bind lastClause? := by
  induction s with
  | nil => rfl
  | cons c s ih =>
      cases blank : isBlank c with
      | false => simp [classClause?, blanks?, blank]
      | true =>
          rw [classClause?, blanks?, ih, blank]
          cases s with
          | nil => rfl
          | cons d s =>
              cases more : isBlank d with
              | false => simp [blanks?, more, trimStart_cons_of_solid]
              | true =>
                  have trimmed : trimStart (d :: s) = trimStart s :=
                    List.dropWhile_cons_of_pos more
                  have outside : d ∉ name := fun member => by simp [solid d member] at more
                  rw [literal?_cons_of_not_mem nonempty outside, blanks?, if_pos more, trimmed]
                  simp only [Bool.not_true, Bool.false_eq_true, if_false, if_true,
                    Option.bind_some, Option.bind_none]
                  split
                  · rename_i found
                    exact found.symm
                  · rename_i found
                    exact found.symm

theorem implements?_eq (nonempty : name ≠ []) (solid : Solid name) (s : List Char) :
    implements? name s = ((afterName? name s).bind lastClause?).map (·, []) := by
  rw [implements?, afterName?]
  cases literal? "class".toList s with
  | none => rfl
  | some rest => rw [Option.bind_some, Option.bind_some, classClause?_eq nonempty solid]

theorem declares_iff (nonempty : name ≠ []) (solid : Solid name) {content rest : List Char} :
    Declares content name rest ↔ ∃ s, s <:+ content ∧ afterName? name s = some rest := by
  constructor
  · rintro ⟨before, blanks, rfl, some, blank⟩
    refine ⟨_, List.suffix_append before _, ?_⟩
    obtain ⟨b, more, rfl⟩ := List.exists_cons_of_ne_nil some
    obtain ⟨first, others⟩ := List.forall_mem_cons.1 blank
    have trimmed : trimStart (more ++ (name ++ rest)) = name ++ rest := by
      rw [trimStart, List.dropWhile_append_of_pos others]
      exact solid.trimStart_append nonempty rest
    rw [afterName?, literal?_append, Option.bind_some, List.cons_append, blanks?, if_pos first,
      trimmed, Option.bind_some, literal?_append]
  · rintro ⟨s, ⟨before, rfl⟩, found⟩
    simp only [afterName?, Option.bind_eq_some_iff] at found
    obtain ⟨afterKeyword, keyword, afterBlanks, blanks, named⟩ := found
    obtain ⟨b, more, blank, rfl, rfl⟩ := blanks?_eq_some blanks
    rw [literal?_eq_some_iff] at keyword named
    refine ⟨before, b :: more.takeWhile isBlank, ?_, by simp, ?_⟩
    · rw [keyword, ← named, trimStart, List.cons_append, List.takeWhile_append_dropWhile]
    · exact List.forall_mem_cons.2 ⟨blank, fun c member => List.mem_takeWhile_imp member⟩

/-- What holds after each declaration with a clause can be checked at each place of the text. -/
theorem forall_clauses_iff (nonempty : name ≠ []) (solid : Solid name) {content : List Char}
    {p : List Char → Prop} :
    (∀ rest, Declares content name rest → ∀ list, HasClause rest list → p rest) ↔
      ∀ s ∈ content.tails, ∀ rest ∈ afterName? name s, lastClause? rest ≠ none → p rest := by
  simp only [declares_iff nonempty solid, ← hasClause_iff, List.mem_tails, Option.mem_def]
  exact ⟨fun holds s suffix rest found ⟨list, clause⟩ => holds rest ⟨s, suffix, found⟩ list clause,
    fun holds rest ⟨s, suffix, found⟩ list clause => holds s suffix rest found ⟨list, clause⟩⟩

/-! ## The clause that is read -/

theorem interfacesOf_eq_some {content : List Char} {name : String} (nonempty : name.toList ≠ [])
    (solid : Solid name.toList) {entries : List String}
    (found : interfacesOf content name = some entries) :
    ∃ rest list, Declares content name.toList rest ∧ HasClause rest list ∧
      entries = (list.splitOnP (· == ',')).map fun entry => String.ofList (trim entry) := by
  rw [interfacesOf, Option.map_eq_some_iff] at found
  obtain ⟨⟨list, after⟩, first, rfl⟩ := found
  obtain ⟨s, suffix, reads⟩ := exists_of_leftmost? first
  rw [implements?_eq nonempty solid, Option.map_eq_some_iff] at reads
  obtain ⟨list, clause, same⟩ := reads
  obtain ⟨rfl, -⟩ := Prod.mk.inj same
  obtain ⟨rest, named, clause⟩ := Option.bind_eq_some_iff.1 clause
  exact ⟨rest, list, (declares_iff nonempty solid).2 ⟨s, suffix, named⟩, lastClause?_sound clause,
    rfl⟩

theorem interfacesOf_eq_none_iff {content : List Char} {name : String}
    (nonempty : name.toList ≠ []) (solid : Solid name.toList) :
    interfacesOf content name = none ↔
      ∀ rest, Declares content name.toList rest → ∀ list, ¬ HasClause rest list := by
  rw [interfacesOf, Option.map_eq_none_iff, leftmost?_eq_none_iff]
  refine Iff.trans ?_ (forall_clauses_iff nonempty solid).symm
  refine forall_congr' fun s => ?_
  rw [List.mem_tails, implements?_eq nonempty solid, Option.map_eq_none_iff,
    Option.bind_eq_none_iff]
  exact imp_congr_right fun _ => forall₂_congr fun rest _ => not_not.symm

/-- When only names that end where the name asked for ends are followed by a clause on their line,
the clause read is one of the class asked for, and none is read just when no declaration of that
class has one. -/
theorem clause_of_named_class {content : List Char} {name : String} (isType : IsTypeName name)
    (alone : ∀ rest, Declares content name.toList rest → ∀ list, HasClause rest list →
      NameEnds rest) :
    (∀ entries, interfacesOf content name = some entries →
      ∃ rest list, Declares content name.toList rest ∧ NameEnds rest ∧ HasClause rest list ∧
        entries = (list.splitOnP (· == ',')).map fun entry => String.ofList (trim entry)) ∧
    (interfacesOf content name = none ↔
      ∀ rest, Declares content name.toList rest → NameEnds rest → ∀ list, ¬ HasClause rest list) := by
  have nonempty : name.toList ≠ [] := by simpa using isType.1
  have solid : Solid name.toList := fun c member => isBlank_of_isTypeChar (isType.2 c member)
  constructor
  · intro entries found
    obtain ⟨rest, list, declared, clause, rfl⟩ := interfacesOf_eq_some nonempty solid found
    exact ⟨rest, list, declared, alone rest declared list clause, clause, rfl⟩
  · rw [interfacesOf_eq_none_iff nonempty solid]
    exact ⟨fun without rest declared _ => without rest declared,
      fun without rest declared list clause =>
        without rest declared (alone rest declared list clause) list clause⟩

/-- Three classes; the second has no clause, and its name begins with the name of the third. -/
def threeClasses : List Char :=
  "class Log implements Port {}\nclass UserRepo {}\nclass User extends Base implements A, B {}".toList

theorem clause_of_third_class :
    ∃ rest list, Declares threeClasses "User".toList rest ∧ NameEnds rest ∧ HasClause rest list ∧
      ["A", "B"] = (list.splitOnP (· == ',')).map fun entry => String.ofList (trim entry) := by
  have alone : ∀ rest, Declares threeClasses "User".toList rest → ∀ list, HasClause rest list →
      NameEnds rest := by
    refine (forall_clauses_iff (by decide) (by decide)).2 ?_
    unfold threeClasses
    rw [String.toList_ofList, String.toList_ofList]
    decide +kernel
  have read : interfacesOf threeClasses "User" = some ["A", "B"] := by
    unfold threeClasses
    rw [String.toList_ofList]
    decide +kernel
  exact (clause_of_named_class (by decide) alone).1 _ read

/-- A class without a clause and a class with a longer name that has one. -/
def prefixedClass : List Char := "<?php\nclass User {}\nclass UserRepo implements Port {}\n".toList

theorem clause_of_longer_name : interfacesOf prefixedClass "User" = some ["Port"] ∧
    ∀ rest, Declares prefixedClass "User".toList rest → NameEnds rest →
      ∀ list, ¬ HasClause rest list := by
  have others : ∀ rest, Declares prefixedClass "User".toList rest → ∀ list, HasClause rest list →
      ¬ NameEnds rest := by
    refine (forall_clauses_iff (by decide) (by decide)).2 ?_
    unfold prefixedClass
    rw [String.toList_ofList, String.toList_ofList]
    decide +kernel
  refine ⟨?_, fun rest declared ends list clause => others rest declared list clause ends⟩
  unfold prefixedClass
  rw [String.toList_ofList]
  decide +kernel

end Layering.Source
