import Layering.Naming.Pattern
import Layering.Proofs.Text.Offset
import Layering.Proofs.Text.Scan

/-!
# Delimited patterns

A pattern is delimited when it begins with a delimiter and ends in the same one and letters. No
delimiter is a letter, so the letters are what stands behind its last occurrence: a pattern is
delimited in one way or not at all. Byte offsets cut it between characters, as every delimiter has
one byte. The letters are flags; the first that is none is reported, and else only which letters
there are counts: `delimited_patterns`.
-/

namespace Layering.Naming
open Text
open String (utf8Len)

/-- Body and flags of a delimited pattern, cut out of it at byte offsets. The outer option is
nothing when a cut gives no text. -/
def splitAtOffsets? (pattern : String) : Option (Option (String × String)) :=
  match pattern.toList.head?.filter delimiters.contains with
  | none => some none
  | some delimiter => match (lastOffset? delimiter pattern.toList).filter (0 < ·) with
    | none => some none
    | some close => do
      let flags ← slice? pattern (close + 1) pattern.utf8ByteSize
      if flags.toList.all Char.isAlpha then
        let body ← slice? pattern delimiter.utf8Size close
        return some (body, flags)
      else return none

/-- The pattern is a body between two equal delimiters, with ASCII letters behind. -/
structure Delimited (pattern : List Char) (delimiter : Char) (body letters : List Char) : Prop where
  isDelimiter : delimiter ∈ delimiters
  whole : pattern = delimiter :: (body ++ delimiter :: letters)
  areLetters : ∀ l ∈ letters, ('a' ≤ l ∧ l ≤ 'z') ∨ ('A' ≤ l ∧ l ≤ 'Z')

/-! ## Delimiters and letters -/

theorem all_isAlpha_iff {letters : List Char} :
    letters.all Char.isAlpha = true ↔
      ∀ l ∈ letters, ('a' ≤ l ∧ l ≤ 'z') ∨ ('A' ≤ l ∧ l ≤ 'Z') := by
  have spelled (l : Char) : l.isAlpha =
      (decide ('A' ≤ l ∧ l ≤ 'Z') || decide ('a' ≤ l) && decide (l ≤ 'z')) := rfl
  simp [spelled, or_comm]

theorem utf8Size_delimiter {c : Char} (isDelimiter : c ∈ delimiters) : c.utf8Size = 1 := by
  have all : delimiters.all (·.utf8Size == 1) = true := by decide
  simpa using List.all_eq_true.1 all c isDelimiter

theorem notMem_letters {c : Char} (isDelimiter : c ∈ delimiters) {letters : List Char}
    (areLetters : letters.all Char.isAlpha = true) : c ∉ letters := by
  intro member
  have none : delimiters.all (fun c => !c.isAlpha) = true := by decide
  have letter := List.all_eq_true.1 areLetters c member
  have other := List.all_eq_true.1 none c isDelimiter
  rw [letter] at other
  cases other

theorem Delimited.notMem {pattern body letters : List Char} {c : Char}
    (delimited : Delimited pattern c body letters) : c ∉ letters :=
  notMem_letters delimited.isDelimiter (all_isAlpha_iff.2 delimited.areLetters)

theorem Delimited.unique {pattern body body' letters letters' : List Char} {c c' : Char}
    (left : Delimited pattern c body letters) (right : Delimited pattern c' body' letters') :
    c = c' ∧ body = body' ∧ letters = letters' := by
  have same := left.whole.symm.trans right.whole
  obtain ⟨rfl, rest⟩ := List.cons.inj same
  exact ⟨rfl, last_unique left.notMem right.notMem rest⟩

/-! ## Splitting -/

section

variable {c : Char} (isDelimiter : c ∈ delimiters)
include isDelimiter

theorem splitDelimited?_unclosed {rest : List Char} (absent : c ∉ rest) :
    splitDelimited? (c :: rest) = none := by
  have none : rest.reverse.dropWhile (· != c) = [] :=
    List.dropWhile_eq_nil_iff.2 (bne_of_not_mem (by simpa using absent))
  simp [splitDelimited?, isDelimiter, none]

theorem splitDelimited?_closed (body : List Char) {letters : List Char} (absent : c ∉ letters) :
    splitDelimited? (c :: (body ++ c :: letters)) =
      if letters.all Char.isAlpha then some (body, letters) else none := by
  have turned : (body ++ c :: letters).reverse = letters.reverse ++ c :: body.reverse := by simp
  have absent' : c ∉ letters.reverse := by simpa using absent
  have behind : (letters.reverse ++ c :: body.reverse).dropWhile (· != c) = c :: body.reverse := by
    rw [List.dropWhile_append_of_pos (bne_of_not_mem absent')]
    exact List.dropWhile_cons_of_neg (by simp)
  simp [splitDelimited?, isDelimiter, turned, takeWhile_bne_append absent', behind]

theorem delimiter?_ofList (rest : List Char) :
    (String.ofList (c :: rest)).toList.head?.filter delimiters.contains = some c := by
  rw [String.toList_ofList, List.head?_cons, Option.filter_some,
    if_pos (by simpa using isDelimiter)]

theorem splitAtOffsets?_unclosed {rest : List Char} (absent : c ∉ rest) :
    splitAtOffsets? (String.ofList (c :: rest)) = some none := by
  have close : lastOffset? c (String.ofList (c :: rest)).toList = some 0 := by
    rw [String.toList_ofList]
    exact lastOffset?_append [] absent
  rw [splitAtOffsets?, delimiter?_ofList isDelimiter]
  dsimp only
  rw [close]
  rfl

theorem splitAtOffsets?_closed (body : List Char) {letters : List Char} (absent : c ∉ letters) :
    splitAtOffsets? (String.ofList (c :: (body ++ c :: letters))) =
      some (if letters.all Char.isAlpha then some (String.ofList body, String.ofList letters)
        else none) := by
  have one := utf8Size_delimiter isDelimiter
  have close : lastOffset? c (String.ofList (c :: (body ++ c :: letters))).toList =
      some (utf8Len (c :: body)) := by
    rw [String.toList_ofList]
    exact lastOffset?_append (c :: body) absent
  -- The text is the delimiter, the body, the delimiter and the letters, which end it.
  have front : slice? (String.ofList (c :: (body ++ c :: letters))) c.utf8Size
      (utf8Len (c :: body)) = some (String.ofList body) := by
    have parts := slice?_append [c] body (c :: letters)
    simpa [Nat.add_comm] using parts
  have back : slice? (String.ofList (c :: (body ++ c :: letters))) (utf8Len (c :: body) + 1)
      (String.ofList (c :: (body ++ c :: letters))).utf8ByteSize =
        some (String.ofList letters) := by
    have parts := slice?_append (c :: body ++ [c]) letters []
    rw [String.utf8ByteSize_ofList]
    simpa [one] using parts
  have behind : (some (utf8Len (c :: body))).filter (0 < ·) = some (utf8Len (c :: body)) := by
    simp [one]
  rw [splitAtOffsets?, delimiter?_ofList isDelimiter]
  dsimp only
  rw [close, behind]
  dsimp only
  rw [back]
  simp only [Option.bind_eq_bind, Option.bind_some, String.toList_ofList, front]
  split <;> rfl

end

theorem splitDelimited?_eq_some_iff {pattern body letters : List Char} :
    splitDelimited? pattern = some (body, letters) ↔ ∃ c, Delimited pattern c body letters := by
  constructor
  · intro split
    cases pattern with
    | nil => cases split
    | cons c rest =>
        by_cases isDelimiter : c ∈ delimiters
        · by_cases closed : c ∈ rest
          · obtain ⟨body', letters', rfl, absent⟩ := exists_last_of_mem closed
            rw [splitDelimited?_closed isDelimiter body' absent] at split
            split at split
            · rename_i all
              obtain ⟨rfl, rfl⟩ := Prod.mk.inj (Option.some.inj split)
              exact ⟨c, isDelimiter, rfl, all_isAlpha_iff.1 all⟩
            · cases split
          · rw [splitDelimited?_unclosed isDelimiter closed] at split
            cases split
        · simp [splitDelimited?, isDelimiter] at split
  · rintro ⟨c, delimited⟩
    rw [delimited.whole, splitDelimited?_closed delimited.isDelimiter body delimited.notMem,
      if_pos (all_isAlpha_iff.2 delimited.areLetters)]

/-- Cutting at byte offsets never fails, and gives what cutting between characters does. -/
theorem splitAtOffsets?_eq (pattern : String) :
    splitAtOffsets? pattern = some ((splitDelimited? pattern.toList).map
      fun (body, letters) => (String.ofList body, String.ofList letters)) := by
  obtain ⟨s, rfl⟩ := pattern.exists_eq_ofList
  rw [String.toList_ofList]
  cases s with
  | nil => rfl
  | cons c rest =>
      by_cases isDelimiter : c ∈ delimiters
      · by_cases closed : c ∈ rest
        · obtain ⟨body, letters, rfl, absent⟩ := exists_last_of_mem closed
          rw [splitAtOffsets?_closed isDelimiter body absent,
            splitDelimited?_closed isDelimiter body absent]
          split <;> rfl
        · rw [splitAtOffsets?_unclosed isDelimiter closed,
            splitDelimited?_unclosed isDelimiter closed]
          rfl
      · have none : splitDelimited? (c :: rest) = none := by simp [splitDelimited?, isDelimiter]
        have bare : (some c).filter delimiters.contains = Option.none := by simpa using isDelimiter
        rw [none, splitAtOffsets?, String.toList_ofList, List.head?_cons, bare]
        rfl

/-! ## Flags -/

/-- The letters that are flags. -/
def flagLetters : List Char := ['i', 'm', 's', 'x', 'u']

/-- The flags with those of some letters switched on. -/
def switchedOn (flags : Regex.Flags) (letters : List Char) : Regex.Flags :=
  { flags with
    fold := flags.fold || letters.contains 'i'
    lines := flags.lines || letters.contains 'm'
    dotAll := flags.dotAll || letters.contains 's'
    verbose := flags.verbose || letters.contains 'x'
    unicode := flags.unicode || letters.contains 'u' }

theorem switchedOn_cons (flags : Regex.Flags) (l : Char) (letters : List Char) :
    switchedOn (switchedOn flags [l]) letters = switchedOn flags (l :: letters) := by
  simp [switchedOn, Bool.or_assoc]

/-- Only which letters there are counts. -/
theorem switchedOn_congr (flags : Regex.Flags) {letters letters' : List Char}
    (same : ∀ l, l ∈ letters ↔ l ∈ letters') :
    switchedOn flags letters = switchedOn flags letters' := by
  have contains (l : Char) : letters.contains l = letters'.contains l := by
    rw [Bool.eq_iff_iff, List.contains_iff_mem, List.contains_iff_mem, same]
  simp only [switchedOn, contains]

theorem switchOn?_of_mem (flags : Regex.Flags) {l : Char} (flag : l ∈ flagLetters) :
    switchOn? flags l = some (switchedOn flags [l]) := by
  simp only [flagLetters, List.mem_cons, List.not_mem_nil, or_false] at flag
  rcases flag with rfl | rfl | rfl | rfl | rfl <;> simp [switchOn?, switchedOn]

theorem switchOn?_of_notMem (flags : Regex.Flags) {l : Char} (noFlag : l ∉ flagLetters) :
    switchOn? flags l = none := by
  simp only [flagLetters, List.mem_cons, List.not_mem_nil, or_false, not_or] at noFlag
  simp [switchOn?, noFlag]

theorem switchAll_of_flags (flags : Regex.Flags) {letters : List Char}
    (all : ∀ l ∈ letters, l ∈ flagLetters) :
    switchAll letters flags = .ok (switchedOn flags letters) := by
  induction letters generalizing flags with
  | nil => simp [switchAll, switchedOn]
  | cons l letters ih =>
      obtain ⟨flag, others⟩ := List.forall_mem_cons.1 all
      rw [switchAll, switchOn?_of_mem flags flag]
      dsimp only
      rw [ih _ others, switchedOn_cons]

theorem switchAll_of_noFlag (flags : Regex.Flags) {before : List Char}
    (all : ∀ l ∈ before, l ∈ flagLetters) {l : Char} (noFlag : l ∉ flagLetters)
    (after : List Char) : switchAll (before ++ l :: after) flags = .error l := by
  induction before generalizing flags with
  | nil =>
      rw [List.nil_append, switchAll, switchOn?_of_notMem flags noFlag]
  | cons k before ih =>
      obtain ⟨flag, others⟩ := List.forall_mem_cons.1 all
      rw [List.cons_append, switchAll, switchOn?_of_mem flags flag]
      exact ih _ others

/-- Letters are all flags, or there is a first one that is none. -/
theorem flags_or_first_other (letters : List Char) :
    (∀ l ∈ letters, l ∈ flagLetters) ∨ ∃ before l after, letters = before ++ l :: after ∧
      (∀ k ∈ before, k ∈ flagLetters) ∧ l ∉ flagLetters := by
  cases found : letters.find? fun l => l ∉ flagLetters with
  | none => exact .inl fun l member => by simpa using List.find?_eq_none.1 found l member
  | some l =>
      obtain ⟨noFlag, before, after, split, passed⟩ := List.find?_eq_some_iff_append.1 found
      refine .inr ⟨before, l, after, split, fun k member => ?_, by simpa using noFlag⟩
      simpa using passed k member

/-! ## Compiling -/

theorem compile_of_delimited {pattern : String} {c : Char} {body letters : List Char}
    (delimited : Delimited pattern.toList c body letters) :
    compile pattern = match switchAll letters {} with
      | .error letter => .error (.unsupportedFlag letter pattern)
      | .ok flags => match Regex.parse flags (String.ofList body) with
        | .ok r => .ok r
        | .error fault => .error (.malformed pattern fault) := by
  rw [compile, splitDelimited?_eq_some_iff.2 ⟨c, delimited⟩]
  rfl

theorem compile_of_flags {pattern : String} {c : Char} {body letters : List Char}
    (delimited : Delimited pattern.toList c body letters) (all : ∀ l ∈ letters, l ∈ flagLetters) :
    compile pattern = (Regex.parse (switchedOn {} letters) (String.ofList body)).mapError
      (.malformed pattern) := by
  rw [compile_of_delimited delimited, switchAll_of_flags _ all]
  dsimp only
  cases Regex.parse (switchedOn {} letters) (String.ofList body) <;> rfl

theorem compile_of_bare {pattern : String} (bare : splitDelimited? pattern.toList = none) :
    compile pattern = (Regex.parse {} pattern).mapError (.malformed pattern) := by
  simp only [compile, bare, Option.getD_none, switchAll, String.ofList_toList]
  cases Regex.parse {} pattern <;> rfl

theorem mapError_malformed_ne {pattern other : String} {flag : Char}
    (read : Except Regex.Fault Regex) :
    read.mapError (Fault.malformed pattern) ≠ .error (.unsupportedFlag flag other) := by
  cases read <;> simp [Except.mapError]

theorem compile_eq_unsupportedFlag_iff {pattern other : String} {flag : Char} :
    compile pattern = .error (.unsupportedFlag flag other) ↔ other = pattern ∧
      ∃ c body before after, Delimited pattern.toList c body (before ++ flag :: after) ∧
        (∀ l ∈ before, l ∈ flagLetters) ∧ flag ∉ flagLetters := by
  constructor
  · intro failed
    cases split : splitDelimited? pattern.toList with
    | none =>
        rw [compile_of_bare split] at failed
        exact absurd failed (mapError_malformed_ne _)
    | some parts =>
        obtain ⟨body, letters⟩ := parts
        obtain ⟨c, delimited⟩ := splitDelimited?_eq_some_iff.1 split
        rcases flags_or_first_other letters with all | ⟨before, l, after, rfl, all, noFlag⟩
        · rw [compile_of_flags delimited all] at failed
          exact absurd failed (mapError_malformed_ne _)
        · rw [compile_of_delimited delimited, switchAll_of_noFlag _ all noFlag] at failed
          cases failed
          exact ⟨rfl, c, body, before, after, delimited, all, noFlag⟩
  · rintro ⟨rfl, c, body, before, after, delimited, all, noFlag⟩
    rw [compile_of_delimited delimited, switchAll_of_noFlag _ all noFlag]

theorem mapError_eq_ok_iff {ε ε' α : Type} {x : Except ε α} {f : ε → ε'} {a : α} :
    x.mapError f = .ok a ↔ x = .ok a := by
  cases x <;> simp [Except.mapError]

theorem compile_congr {pattern pattern' : String} {c c' : Char} {body letters letters' : List Char}
    (left : Delimited pattern.toList c body letters)
    (right : Delimited pattern'.toList c' body letters') (same : ∀ l, l ∈ letters ↔ l ∈ letters')
    (r : Regex) : compile pattern = .ok r ↔ compile pattern' = .ok r := by
  by_cases all : ∀ l ∈ letters, l ∈ flagLetters
  · have all' : ∀ l ∈ letters', l ∈ flagLetters := fun l member => all l ((same l).2 member)
    rw [compile_of_flags left all, compile_of_flags right all', mapError_eq_ok_iff,
      mapError_eq_ok_iff, switchedOn_congr {} same]
  · have refused {pattern : String} {c : Char} {letters : List Char}
        (delimited : Delimited pattern.toList c body letters)
        (some : ¬ ∀ l ∈ letters, l ∈ flagLetters) : compile pattern ≠ .ok r := by
      obtain ⟨before, l, after, rfl, flags, noFlag⟩ :=
        (flags_or_first_other letters).resolve_left some
      rw [compile_of_delimited delimited, switchAll_of_noFlag _ flags noFlag]
      nofun
    have all' : ¬ ∀ l ∈ letters', l ∈ flagLetters :=
      fun flags => all fun l member => flags l ((same l).1 member)
    exact iff_of_false (refused left all) (refused right all')

/-- A pattern is delimited in one way or not at all, and splitting finds that way; cutting at byte
offsets comes to the same and never falls inside a character. Compiling refuses the first letter
that is no flag if there is one. Otherwise only which letters there are counts, not how often they
stand or in which order. -/
theorem delimited_patterns (pattern : String) :
    (∀ body letters, splitDelimited? pattern.toList = some (body, letters) ↔
      ∃ c, Delimited pattern.toList c body letters) ∧
    (∀ c c' body body' letters letters', Delimited pattern.toList c body letters →
      Delimited pattern.toList c' body' letters' → c = c' ∧ body = body' ∧ letters = letters') ∧
    splitAtOffsets? pattern = some ((splitDelimited? pattern.toList).map
      fun (body, letters) => (String.ofList body, String.ofList letters)) ∧
    (∀ flag other, compile pattern = .error (.unsupportedFlag flag other) ↔ other = pattern ∧
      ∃ c body before after, Delimited pattern.toList c body (before ++ flag :: after) ∧
        (∀ l ∈ before, l ∈ ['i', 'm', 's', 'x', 'u']) ∧ flag ∉ ['i', 'm', 's', 'x', 'u']) ∧
    ∀ pattern' c c' body letters letters', Delimited pattern.toList c body letters →
      Delimited pattern'.toList c' body letters' → (∀ l, l ∈ letters ↔ l ∈ letters') →
        ∀ r, compile pattern = .ok r ↔ compile pattern' = .ok r :=
  ⟨fun _ _ => splitDelimited?_eq_some_iff, fun _ _ _ _ _ _ => Delimited.unique,
    splitAtOffsets?_eq pattern, fun _ _ => compile_eq_unsupportedFlag_iff,
    fun _ _ _ _ _ _ left right same => compile_congr left right same⟩

/-- The delimiter and a longer character stand in the body. -/
theorem delimited_accented :
    splitDelimited? "/é/b/is".toList = some ("é/b".toList, "is".toList) ∧
      (∀ r, compile "/é/b/is" = .ok r ↔ compile "#é/b#sis" = .ok r) ∧
      compile "~é~iDg" = .error (.unsupportedFlag 'D' "~é~iDg") := by
  have slashes : Delimited "/é/b/is".toList '/' "é/b".toList "is".toList :=
    ⟨by decide, rfl, all_isAlpha_iff.1 (by decide)⟩
  have hashes : Delimited "#é/b#sis".toList '#' "é/b".toList "sis".toList :=
    ⟨by decide, rfl, all_isAlpha_iff.1 (by decide)⟩
  have tildes : Delimited "~é~iDg".toList '~' ['é'] (['i'] ++ 'D' :: ['g']) :=
    ⟨by decide, rfl, all_isAlpha_iff.1 (by decide)⟩
  have same (l : Char) : l ∈ "is".toList ↔ l ∈ "sis".toList := by
    simp
    tauto
  obtain ⟨split, -, -, -, reordered⟩ := delimited_patterns "/é/b/is"
  obtain ⟨-, -, -, refused, -⟩ := delimited_patterns "~é~iDg"
  refine ⟨(split _ _).2 ⟨'/', slashes⟩, reordered _ _ _ _ _ _ slashes hashes same, ?_⟩
  exact (refused 'D' _).2 ⟨rfl, '~', _, _, _, tildes, by simp, by decide⟩

end Layering.Naming
