import Layering.Text.Scan
import Mathlib.Data.List.Infix
import Mathlib.Data.List.TakeWhile

/-!
# Searching for keywords

A recogniser that starts with a keyword and a blank reads nothing inside a word that does not end
in the keyword. So a search passes such words, whatever else stands in them, and the first place
where it stops is the first word that ends in the keyword.
-/

namespace Layering.Text

variable {α : Type}

/-! ## Blanks -/

/-- A text without blanks. -/
def Solid (s : List Char) : Prop := ∀ c ∈ s, isBlank c = false

instance (s : List Char) : Decidable (Solid s) := List.decidableBAll _ s

theorem Solid.append {s t : List Char} (left : Solid s) (right : Solid t) : Solid (s ++ t) := by
  intro c member
  rcases List.mem_append.1 member with member | member
  · exact left c member
  · exact right c member

theorem Solid.of_suffix {s t : List Char} (solid : Solid t) (suffix : s <:+ t) : Solid s :=
  fun c member => solid c (suffix.mem member)

theorem Solid.reverse {s : List Char} (solid : Solid s) : Solid s.reverse :=
  fun c member => solid c (List.mem_reverse.1 member)

/-- Where a solid text ends is where the first blank stands. -/
theorem Solid.split_unique {s t rest rest' : List Char} {b b' : Char} (left : Solid s)
    (right : Solid t) (blank : isBlank b) (blank' : isBlank b')
    (same : s ++ b :: rest = t ++ b' :: rest') : s = t := by
  have taken (w : List Char) (b : Char) (rest : List Char) (solid : Solid w) (blank : isBlank b) :
      (w ++ b :: rest).takeWhile (fun c => !isBlank c) = w := by
    rw [List.takeWhile_append_of_pos (fun c member => by simp [solid c member]),
      List.takeWhile_cons_of_neg (by simp [blank]), List.append_nil]
  rw [← taken s b rest left blank, same, taken t b' rest' right blank']

theorem trimStart_cons_of_solid {c : Char} (rest : List Char) (solid : isBlank c = false) :
    trimStart (c :: rest) = c :: rest :=
  List.dropWhile_cons_of_neg (by simp [solid])

theorem Solid.trimStart_append {s : List Char} (solid : Solid s) (nonempty : s ≠ [])
    (rest : List Char) : Text.trimStart (s ++ rest) = s ++ rest := by
  cases s with
  | nil => exact absurd rfl nonempty
  | cons c s => exact trimStart_cons_of_solid _ (solid c List.mem_cons_self)

theorem literal?_eq_some_iff {word s rest : List Char} :
    literal? word s = some rest ↔ s = word ++ rest := by
  rw [literal?]
  constructor
  · intro found
    split at found
    · rename_i leads
      obtain ⟨after, rfl⟩ := List.isPrefixOf_iff_prefix.1 leads
      simpa using found
    · cases found
  · rintro rfl
    simp

theorem literal?_append (word rest : List Char) : literal? word (word ++ rest) = some rest :=
  literal?_eq_some_iff.2 rfl

theorem literal?_cons_of_ne {first c : Char} (other : c ≠ first) (word s : List Char) :
    literal? (first :: word) (c :: s) = none := by
  by_contra found
  obtain ⟨after, found⟩ := Option.ne_none_iff_exists'.1 found
  exact other (List.cons.inj (literal?_eq_some_iff.1 found)).1

theorem literal?_cons_of_not_mem {word : List Char} (nonempty : word ≠ []) {c : Char}
    (other : c ∉ word) (s : List Char) : literal? word (c :: s) = none := by
  obtain ⟨first, tail, rfl⟩ := List.exists_cons_of_ne_nil nonempty
  exact literal?_cons_of_ne (List.ne_of_not_mem_cons other) tail s

theorem blanks?_eq_some {s rest : List Char} (found : blanks? s = some rest) :
    ∃ b after, isBlank b = true ∧ s = b :: after ∧ rest = trimStart after := by
  cases s with
  | nil => cases found
  | cons b after =>
      rw [blanks?] at found
      split at found
      · exact ⟨b, after, ‹_›, rfl, (Option.some.inj found).symm⟩
      · cases found

theorem literal?_suffix {word s rest : List Char} (found : literal? word s = some rest) :
    rest <:+ s := by
  rw [literal?_eq_some_iff.1 found]
  exact List.suffix_append _ _

theorem blanks?_suffix {s rest : List Char} (found : blanks? s = some rest) : rest <:+ s := by
  obtain ⟨b, after, -, rfl, rfl⟩ := blanks?_eq_some found
  exact (List.dropWhile_suffix _).trans (List.suffix_cons b after)

theorem run?_eq_some {kind : Char → Bool} {s word rest : List Char}
    (found : run? kind s = some (word, rest)) :
    word ≠ [] ∧ (∀ c ∈ word, kind c = true) ∧ s = word ++ rest := by
  rw [run?] at found
  split at found
  · cases found
  · rename_i some
    obtain ⟨rfl, rfl⟩ := Prod.mk.inj (Option.some.inj found)
    exact ⟨some, fun c member => List.mem_takeWhile_imp member,
      List.takeWhile_append_dropWhile.symm⟩

theorem run?_suffix {kind : Char → Bool} {s word rest : List Char}
    (found : run? kind s = some (word, rest)) : rest <:+ s := by
  obtain ⟨-, -, rfl⟩ := run?_eq_some found
  exact List.suffix_append word rest

theorem takeWhile_append_of_stops {kind : Char → Bool} {word rest : List Char}
    (same : ∀ c ∈ word, kind c = true) (stops : ∀ c ∈ rest.head?, kind c = false) :
    (word ++ rest).takeWhile kind = word := by
  rw [List.takeWhile_append_of_pos same]
  cases rest with
  | nil => simp
  | cons c rest => rw [List.takeWhile_cons_of_neg (by simp [stops c rfl]), List.append_nil]

theorem dropWhile_append_of_stops {kind : Char → Bool} {word rest : List Char}
    (same : ∀ c ∈ word, kind c = true) (stops : ∀ c ∈ rest.head?, kind c = false) :
    (word ++ rest).dropWhile kind = rest := by
  rw [List.dropWhile_append_of_pos same]
  cases rest with
  | nil => rfl
  | cons c rest => exact List.dropWhile_cons_of_neg (by simp [stops c rfl])

theorem run?_append {kind : Char → Bool} {word : List Char} (nonempty : word ≠ [])
    (same : ∀ c ∈ word, kind c = true) {rest : List Char}
    (stops : ∀ c ∈ rest.head?, kind c = false) : run? kind (word ++ rest) = some (word, rest) := by
  rw [run?, takeWhile_append_of_stops same stops, dropWhile_append_of_stops same stops]
  cases word with
  | nil => exact absurd rfl nonempty
  | cons c word => rfl

theorem head?_dropWhile {kind : Char → Bool} {s : List Char} :
    ∀ c ∈ (s.dropWhile kind).head?, kind c = false := by
  intro c head
  have stops := List.head?_dropWhile_not kind s
  rwa [Option.mem_def.1 head] at stops

theorem bne_of_not_mem {c : Char} {s : List Char} (absent : c ∉ s) :
    ∀ d ∈ s, (d != c) = true := by
  intro d member
  simpa using fun same : d = c => absent (same ▸ member)

theorem takeWhile_bne_append {c : Char} {s : List Char} (absent : c ∉ s) (rest : List Char) :
    (s ++ c :: rest).takeWhile (· != c) = s := by
  rw [List.takeWhile_append_of_pos (bne_of_not_mem absent), List.takeWhile_cons_of_neg (by simp),
    List.append_nil]

theorem exists_last_of_mem {c : Char} {s : List Char} (member : c ∈ s) :
    ∃ before after, s = before ++ c :: after ∧ c ∉ after := by
  obtain ⟨after, before, split, absent⟩ := List.eq_append_cons_of_mem (List.mem_reverse.2 member)
  refine ⟨before.reverse, after.reverse, ?_, by simpa using absent⟩
  rw [← List.reverse_reverse s, split]
  simp

theorem last_unique {c : Char} {before before' after after' : List Char} (absent : c ∉ after)
    (absent' : c ∉ after') (same : before ++ c :: after = before' ++ c :: after') :
    before = before' ∧ after = after' := by
  have taken {s t : List Char} (absent : c ∉ t) :
      (s ++ c :: t).reverse.takeWhile (· != c) = t.reverse := by
    rw [List.reverse_append, List.reverse_cons, List.append_assoc, List.singleton_append]
    exact takeWhile_bne_append (by simpa using absent) _
  have turned := taken (s := before) absent
  rw [same, taken absent'] at turned
  obtain rfl := List.reverse_injective turned
  exact ⟨List.append_cancel_right same, rfl⟩

theorem after?_append {c : Char} {s : List Char} (absent : c ∉ s) (rest : List Char) :
    after? c (s ++ c :: rest) = some rest := by
  rw [after?, List.dropWhile_append_of_pos (bne_of_not_mem absent),
    List.dropWhile_cons_of_neg (by simp)]

theorem after?_eq_none {c : Char} {s : List Char} (absent : c ∉ s) : after? c s = none := by
  rw [after?, List.dropWhile_eq_nil_iff.2 (bne_of_not_mem absent)]

/-! ## Occurrences -/

theorem occursIn_iff {needle s : List Char} : occursIn needle s = true ↔ needle <:+: s := by
  induction s with
  | nil => simp [occursIn]
  | cons c rest ih =>
      rw [occursIn, Bool.or_eq_true, List.isPrefixOf_iff_prefix, ih, List.infix_cons_iff]

theorem contains_iff {s needle : String} :
    contains s needle = true ↔ needle.toList <:+: s.toList := occursIn_iff

theorem contains_trans {s t u : String} (outer : contains s t = true) (inner : contains t u = true) :
    contains s u = true :=
  contains_iff.2 ((contains_iff.1 inner).trans (contains_iff.1 outer))

/-! ## Places that a search passes -/

theorem leftmost?_of_some {m : Recognizer α} {s : List Char} {found : α × List Char}
    (reads : m s = some found) : leftmost? m s = some found := by
  cases s with
  | nil => exact reads
  | cons c rest => simp [leftmost?, reads]

theorem leftmost?_eq_none_iff {m : Recognizer α} {s : List Char} :
    leftmost? m s = none ↔ ∀ u, u <:+ s → m u = none := by
  induction s with
  | nil => simp [leftmost?]
  | cons c rest ih =>
      simp only [List.suffix_cons_iff, forall_eq_or_imp, ← ih]
      rw [leftmost?]
      cases m (c :: rest) <;> simp

theorem exists_of_leftmost? {m : Recognizer α} {s : List Char} {found : α × List Char}
    (first : leftmost? m s = some found) : ∃ u, u <:+ s ∧ m u = some found := by
  induction s with
  | nil => exact ⟨[], List.suffix_rfl, first⟩
  | cons c rest ih =>
      rw [leftmost?] at first
      cases here : m (c :: rest) with
      | some other =>
          rw [here] at first
          exact ⟨c :: rest, List.suffix_rfl, here.trans first⟩
      | none =>
          rw [here] at first
          obtain ⟨u, suffix, reads⟩ := ih first
          exact ⟨u, suffix.trans (List.suffix_cons c rest), reads⟩

theorem leftmost?_append {m : Recognizer α} (w rest : List Char)
    (refuses : ∀ u, u <:+ w → u ≠ [] → m (u ++ rest) = none) :
    leftmost? m (w ++ rest) = leftmost? m rest := by
  induction w with
  | nil => rfl
  | cons c w ih =>
      have here : m (c :: (w ++ rest)) = none := refuses (c :: w) List.suffix_rfl (by simp)
      rw [List.cons_append, leftmost?, here]
      exact ih fun u suffix => refuses u (suffix.trans (List.suffix_cons c w))

theorem every_cons_of_none {m : Recognizer α} {c : Char} {rest : List Char}
    (refuses : m (c :: rest) = none) : every m (c :: rest) = every m rest := by
  rw [every, refuses]

theorem every_of_some {m : Recognizer α} {s after : List Char} {a : α}
    (reads : m s = some (a, after)) (shorter : after.length < s.length) :
    every m s = a :: every m after := by
  cases s with
  | nil => simp at shorter
  | cons c rest =>
      rw [every, reads]
      exact if_pos shorter

theorem every_append {m : Recognizer α} (w rest : List Char)
    (refuses : ∀ u, u <:+ w → u ≠ [] → m (u ++ rest) = none) :
    every m (w ++ rest) = every m rest := by
  induction w with
  | nil => rfl
  | cons c w ih =>
      have here : m (c :: (w ++ rest)) = none := refuses (c :: w) List.suffix_rfl (by simp)
      rw [List.cons_append, every_cons_of_none here]
      exact ih fun u suffix => refuses u (suffix.trans (List.suffix_cons c w))

theorem every_eq_nil {m : Recognizer α} (s : List Char) (refuses : ∀ u, u <:+ s → m u = none) :
    every m s = [] := by
  have passed := every_append (m := m) s [] fun u suffix _ => by
    rw [List.append_nil]
    exact refuses u suffix
  rw [List.append_nil] at passed
  rw [passed, every]

/-! ## Keywords -/

/-- The recogniser reads only where the keyword and a blank stand. -/
def Keyed (keyword : List Char) (m : Recognizer α) : Prop :=
  ∀ s, m s ≠ none → ∃ b rest, isBlank b = true ∧ s = keyword ++ b :: rest

namespace Keyed

variable {keyword : List Char} {m : Recognizer α}

theorem refuses (keyed : Keyed keyword m) (solid : Solid keyword) {u : List Char}
    (word : Solid u) (differs : u ≠ keyword) {b : Char} (blank : isBlank b) (rest : List Char) :
    m (u ++ b :: rest) = none := by
  by_contra reads
  obtain ⟨b', rest', blank', same⟩ := keyed _ reads
  exact differs (word.split_unique solid blank blank' same)

end Keyed

/-! ## Words -/

namespace Keyed

variable {keyword : List Char} {m : Recognizer α}

end Keyed

end Layering.Text
