import Layering.Source.Import
import Layering.Proofs.Text.Fold
import Layering.Proofs.Text.Trim
import Layering.Proofs.Text.Word

/-!
# Imports under another name

An import is renamed when its text is a path, a gap, `as` in any case, a gap and a word. There is
at most one way to cut a text like this: the word ends the text and goes back to the last blank,
and each gap goes as far as there are blanks. Reading an import finds that cut if there is one,
and else takes the whole text as the path: `parse_renames_at_cut`.
-/

namespace Layering.Source
open Text

/-! ## Cuts -/

/-- The five parts of a text that renames a path. -/
structure Renaming where
  path : List Char
  before : List Char
  keyword : List Char
  after : List Char
  name : List Char

namespace Renaming

/-- The parts one after the other. -/
def text (r : Renaming) : List Char := r.path ++ (r.before ++ (r.keyword ++ (r.after ++ r.name)))

/-- The two letters of `as`, each in any case. -/
def IsAs (keyword : List Char) : Prop :=
  ∃ a s, keyword = [a, s] ∧ a ∈ caseVariants 'a' ∧ s ∈ caseVariants 's'

/-- The parts are what they are to be: a path without blanks at its ends, gaps around `as`, and a
word. -/
structure Valid (r : Renaming) : Prop where
  path : r.path ≠ [] ∧ Trimmed r.path
  before : Gap r.before
  keyword : IsAs r.keyword
  after : Gap r.after
  name : r.name ≠ [] ∧ ∀ c ∈ r.name, isWord c = true

end Renaming

theorem spellsAs_iff {a s : Char} :
    spellsAs a s = true ↔ a ∈ caseVariants 'a' ∧ s ∈ caseVariants 's' := by
  have long : s.toNat = 0x17F ↔ s = 'ſ' := Char.toNat_inj (d := 'ſ')
  rw [caseVariants_as.1, caseVariants_as.2]
  simp [spellsAs, long]
  tauto

theorem solid_of_isAs {keyword : List Char} (isAs : Renaming.IsAs keyword) : Solid keyword := by
  obtain ⟨a, s, rfl, fst, snd⟩ := isAs
  rw [caseVariants_as.1] at fst
  rw [caseVariants_as.2] at snd
  simp only [List.mem_cons, List.not_mem_nil, or_false] at fst snd
  rcases fst with rfl | rfl <;> rcases snd with rfl | rfl | rfl <;> decide

namespace Renaming

variable {r q : Renaming}

/-! ## Reading a cut off the end of a text -/

theorem Valid.splitAlias?_text (valid : r.Valid) : splitAlias? r.text = some (r.path, r.name) := by
  obtain ⟨path, before, keyword, after, name⟩ := r
  obtain ⟨⟨nonempty, -, finish⟩, isBefore, isAs, isAfter, named, word⟩ := valid
  dsimp only at nonempty finish isBefore isAs isAfter named word
  have solid := solid_of_isAs isAs
  obtain ⟨a, s, rfl, fst, snd⟩ := isAs
  have turned : (text ⟨path, before, [a, s], after, name⟩).reverse =
      name.reverse ++ (after.reverse ++ s :: a :: (before.reverse ++ path.reverse)) := by
    simp [text]
  -- From the end: the word stops at a blank, each gap at something that is none.
  have stops : ∀ c ∈ (after.reverse ++ s :: a :: (before.reverse ++ path.reverse)).head?,
      isWord c = false := by
    obtain ⟨b, rest, split⟩ := List.exists_cons_of_ne_nil isAfter.reverse.1
    intro c head
    rw [split] at head
    cases head
    exact isWord_of_isBlank (isAfter.reverse.2 b (by rw [split]; exact List.mem_cons_self))
  have isWord' : ∀ c ∈ name.reverse, isWord c = true :=
    fun c member => word c (List.mem_reverse.1 member)
  have wordRead := run?_append (by simpa using named) isWord' stops
  have afterRead : blanks? (after.reverse ++ s :: a :: (before.reverse ++ path.reverse)) =
      some (s :: a :: (before.reverse ++ path.reverse)) :=
    isAfter.reverse.blanks?_append (by simpa using solid s (by simp))
  have beforeRead : blanks? (before.reverse ++ path.reverse) = some path.reverse :=
    isBefore.reverse.blanks?_append (by rwa [List.head?_reverse])
  rw [splitAlias?, turned, wordRead, Option.bind_some]
  dsimp only
  rw [afterRead, Option.bind_some]
  dsimp only
  rw [if_pos (spellsAs_iff.2 ⟨fst, snd⟩), beforeRead, Option.bind_some,
    if_neg (by simpa using nonempty), List.reverse_reverse, List.reverse_reverse]

theorem exists_of_splitAlias? {whole : List Char} {parts : List Char × List Char}
    (trimmed : Trimmed whole) (found : splitAlias? whole = some parts) :
    ∃ r : Renaming, r.Valid ∧ r.text = whole := by
  rw [splitAlias?] at found
  obtain ⟨⟨word, behind⟩, wordRead, found⟩ := Option.bind_eq_some_iff.1 found
  obtain ⟨behind', afterRead, split⟩ := Option.bind_eq_some_iff.1 found
  obtain ⟨nonempty, isWord, turned⟩ := run?_eq_some wordRead
  obtain ⟨after, isAfter, rfl, -⟩ := exists_gap_of_blanks? afterRead
  split at split
  case h_2 => cases split
  case h_1 s a rest =>
    split at split
    case isFalse => cases split
    case isTrue spells =>
      obtain ⟨start, beforeRead, ends⟩ := Option.bind_eq_some_iff.1 split
      obtain ⟨before, isBefore, rfl, stops⟩ := exists_gap_of_blanks? beforeRead
      split at ends
      case isTrue => cases ends
      case isFalse some =>
        cases ends
        have cut : whole =
            text ⟨start.reverse, before.reverse, [a, s], after.reverse, word.reverse⟩ := by
          rw [← List.reverse_reverse whole, turned]
          simp [text]
        refine ⟨_, ⟨⟨?_, ?_, ?_⟩, isBefore.reverse, ⟨a, s, rfl, spellsAs_iff.1 spells⟩,
          isAfter.reverse, ?_, ?_⟩, cut.symm⟩
        · simpa using some
        · intro c head
          refine trimmed.1 c ?_
          rw [cut, text, List.head?_append, Option.mem_def.1 head]
          rfl
        · rw [List.getLast?_reverse]
          exact stops
        · simpa using nonempty
        · simpa using isWord

theorem Valid.takeWhile_before (valid : r.Valid) (rest : List Char) :
    (r.before ++ (r.keyword ++ rest)).takeWhile isBlank = r.before := by
  refine takeWhile_append_of_stops valid.before.2 fun c head => ?_
  have solid := solid_of_isAs valid.keyword
  obtain ⟨a, s, same, -⟩ := valid.keyword
  rw [same] at head solid
  obtain rfl : a = c := Option.some.inj head
  exact solid a List.mem_cons_self

/-- There is at most one way to cut a text. -/
theorem Valid.eq_of_text (valid : r.Valid) (valid' : q.Valid) (same : r.text = q.text) : r = q := by
  have read := valid.splitAlias?_text
  rw [same, valid'.splitAlias?_text] at read
  have samePath : r.path = q.path := (Prod.mk.inj (Option.some.inj read)).1.symm
  have sameName : r.name = q.name := (Prod.mk.inj (Option.some.inj read)).2.symm
  rw [text, text, samePath, sameName, List.append_cancel_left_eq] at same
  have sameBefore : r.before = q.before := by
    rw [← valid.takeWhile_before, same, valid'.takeWhile_before]
  rw [sameBefore, List.append_cancel_left_eq] at same
  have sameLength : r.keyword.length = q.keyword.length := by
    obtain ⟨a, s, two, -⟩ := valid.keyword
    obtain ⟨a', s', two', -⟩ := valid'.keyword
    rw [two, two']
    rfl
  obtain ⟨sameKeyword, same⟩ := List.append_inj same sameLength
  have sameAfter : r.after = q.after := List.append_cancel_right same
  cases r
  cases q
  simp_all

theorem Valid.trimmed_text (valid : r.Valid) : Trimmed r.text := by
  have solid : Solid r.name := by
    intro c member
    by_contra blank
    have word := valid.name.2 c member
    rw [isWord_of_isBlank (by simpa using blank)] at word
    cases word
  have trimmed := valid.path.2.append solid.trimmed valid.path.1 valid.name.1
    (r.before ++ (r.keyword ++ r.after))
  simpa only [text, List.append_assoc] using trimmed

/-! ## Reading imports -/

theorem Valid.parse_eq (valid : r.Valid) {whole : List Char} (cut : r.text = trim whole) :
    Import.parse whole = ⟨String.ofList r.path, some (String.ofList r.name)⟩ := by
  rw [Import.parse, ← cut, valid.splitAlias?_text]
  exact congrArg (fun path => Import.mk (String.ofList path) _) valid.path.2.trim_eq

theorem exists_of_parse {whole : List Char} {path name : String}
    (renamed : Import.parse whole = ⟨path, some name⟩) :
    ∃ r : Renaming, r.Valid ∧ r.text = trim whole ∧
      r.path = path.toList ∧ r.name = name.toList := by
  cases found : splitAlias? (trim whole) with
  | none => simp [Import.parse, found] at renamed
  | some parts =>
      obtain ⟨r, valid, cut⟩ := exists_of_splitAlias? (trimmed_trim whole) found
      rw [valid.parse_eq cut] at renamed
      cases renamed
      exact ⟨r, valid, cut, String.toList_ofList.symm, String.toList_ofList.symm⟩

theorem parse_eq_of_no_cut {whole : List Char}
    (none : ∀ r : Renaming, r.Valid → r.text ≠ trim whole) :
    Import.parse whole = ⟨String.ofList (trim whole), Option.none⟩ := by
  have found : splitAlias? (trim whole) = Option.none := by
    by_contra some
    obtain ⟨parts, found⟩ := Option.ne_none_iff_exists'.1 some
    obtain ⟨r, valid, cut⟩ := exists_of_splitAlias? (trimmed_trim whole) found
    exact none r valid cut
  rw [Import.parse, found]

/-- A path and a name with a blank on either side of the keyword. -/
def spaced (path name : List Char) : Renaming := ⟨path, [' '], ['a', 's'], [' '], name⟩

theorem text_spaced (path name : List Char) :
    (spaced path name).text = path ++ (" as ".toList ++ name) := rfl

section

variable {path name : List Char} (isPath : path ≠ [] ∧ Trimmed path)
  (isName : name ≠ [] ∧ ∀ c ∈ name, isWord c = true)

include isPath isName

theorem valid_spaced : (spaced path name).Valid := by
  have gap : Gap [' '] := by decide
  exact ⟨isPath, gap, ⟨'a', 's', rfl, spellsAs_iff.1 (by decide)⟩, gap, isName⟩

theorem parse_spaced : Import.parse (path ++ (" as ".toList ++ name)) =
    ⟨String.ofList path, some (String.ofList name)⟩ := by
  have valid := valid_spaced isPath isName
  rw [← text_spaced, valid.parse_eq valid.trimmed_text.trim_eq.symm]
  rfl

end

end Renaming

/-- An import has another name exactly where its trimmed text can be cut at an `as`, and then its
path and name are those of the cut. There is at most one cut; where there is none the whole text
is the path. -/
theorem parse_renames_at_cut :
    (∀ text : List Char,
      (∀ path name, Import.parse text = ⟨path, some name⟩ ↔
        ∃ r : Renaming, r.Valid ∧ r.text = trim text ∧
          r.path = path.toList ∧ r.name = name.toList) ∧
      (∀ r q : Renaming, r.Valid → q.Valid → r.text = trim text → q.text = trim text → r = q) ∧
      ((∀ r : Renaming, r.Valid → r.text ≠ trim text) →
        Import.parse text = ⟨String.ofList (trim text), none⟩)) ∧
    ∀ x y z : List Char, x ≠ [] ∧ Trimmed x → y ≠ [] ∧ Trimmed y →
      (z ≠ [] ∧ ∀ c ∈ z, isWord c = true) →
        Import.parse (x ++ " as ".toList ++ y ++ " as ".toList ++ z) =
          ⟨String.ofList (x ++ " as ".toList ++ y), some (String.ofList z)⟩ := by
  refine ⟨fun text => ⟨fun path name => ⟨Renaming.exists_of_parse, ?_⟩, ?_,
    Renaming.parse_eq_of_no_cut⟩, fun x y z isPath other isName => ?_⟩
  · rintro ⟨r, valid, cut, samePath, sameName⟩
    rw [valid.parse_eq cut, samePath, sameName, String.ofList_toList, String.ofList_toList]
  · intro r q valid valid' cut cut'
    exact valid.eq_of_text valid' (cut.trans cut'.symm)
  · rw [List.append_assoc _ " as ".toList z]
    exact Renaming.parse_spaced
      ⟨by simp [isPath.1], isPath.2.append other.2 isPath.1 other.1 _⟩ isName

/-- A cut with the keyword in capitals and blanks of several kinds, two imports renamed twice and a
text with nothing before its `as`. -/
theorem parse_renames_page :
    Import.parse " App\\Page AS\n\tView ".toList = ⟨"App\\Page", some "View"⟩ ∧
      Import.parse "X as Y as Z".toList = ⟨"X as Y", some "Z"⟩ ∧
      Import.parse "as Z".toList = ⟨"as Z", none⟩ := by
  obtain ⟨cut, twice⟩ := parse_renames_at_cut
  refine ⟨?_, ?_, ?_⟩
  · have word : "View".toList.all isWord = true := by decide
    refine ((cut _).1 _ _).2 ⟨⟨"App\\Page".toList, [' '], ['A', 'S'], ['\n', '\t'], "View".toList⟩,
      ⟨by decide, by decide, ?_, by decide, by decide, List.all_eq_true.1 word⟩,
      by decide, rfl, rfl⟩
    exact ⟨'A', 'S', rfl, spellsAs_iff.1 (by decide)⟩
  · have word : ['Z'].all isWord = true := by decide
    exact twice ['X'] ['Y'] ['Z'] (by decide) (by decide) ⟨by decide, List.all_eq_true.1 word⟩
  · refine (cut _).2.2 fun r valid same => ?_
    -- The parts of a cut have at least six characters.
    have long := congrArg List.length same
    have left : 0 < r.path.length := List.length_pos_iff.2 valid.path.1
    have between : 0 < r.before.length := List.length_pos_iff.2 valid.before.1
    have behind : 0 < r.after.length := List.length_pos_iff.2 valid.after.1
    have right : 0 < r.name.length := List.length_pos_iff.2 valid.name.1
    obtain ⟨a, s, two, -⟩ := valid.keyword
    have short : (trim "as Z".toList).length = 4 := by decide
    simp only [Renaming.text, List.length_append, two, List.length_cons, List.length_nil] at long
    omega

end Layering.Source
