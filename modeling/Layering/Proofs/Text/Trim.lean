import Layering.Proofs.Text.Scan
import Mathlib.Data.List.DropRight

/-!
# Trimmed texts and gaps

What trimming leaves has no blank at either end, and a text that has none there is left as it is.
A gap is a run of blanks: where something else follows, it is read off as far as it goes.
-/

namespace Layering.Text

/-- No blank stands at either end of the text. -/
def Trimmed (s : List Char) : Prop :=
  (∀ c ∈ s.head?, isBlank c = false) ∧ ∀ c ∈ s.getLast?, isBlank c = false

instance (s : List Char) : Decidable (Trimmed s) :=
  @instDecidableAnd _ _ (Option.decidableForallMem _) (Option.decidableForallMem _)

theorem Solid.trimmed {s : List Char} (solid : Solid s) : Trimmed s :=
  ⟨fun c head => solid c (List.mem_of_head? head), fun c last => solid c (List.mem_of_getLast? last)⟩

theorem Trimmed.append {s t : List Char} (left : Trimmed s) (right : Trimmed t) (some : s ≠ [])
    (some' : t ≠ []) (between : List Char) : Trimmed (s ++ between ++ t) := by
  refine ⟨fun c head => left.1 c ?_, fun c last => right.2 c ?_⟩
  · rwa [List.append_assoc, List.head?_append_of_ne_nil _ some] at head
  · rwa [List.getLast?_append_of_ne_nil _ some'] at last

theorem prefix_trimEnd (s : List Char) : trimEnd s <+: s := s.rdropWhile_prefix isBlank

theorem getLast?_trimEnd (s : List Char) : ∀ c ∈ (trimEnd s).getLast?, isBlank c = false := by
  intro c last
  rw [trimEnd, List.getLast?_reverse] at last
  exact head?_dropWhile c last

theorem trimmed_trim (s : List Char) : Trimmed (trim s) := by
  refine ⟨fun c head => head?_dropWhile (s := s) c ?_, getLast?_trimEnd _⟩
  -- The first character that is left is the first one behind the blanks at the start.
  obtain ⟨rest, whole⟩ := prefix_trimEnd (trimStart s)
  rw [trim] at head
  rw [← trimStart, ← whole, List.head?_append, Option.mem_def.1 head]
  rfl

theorem mem_of_mem_trim {s : List Char} {c : Char} (member : c ∈ trim s) : c ∈ s :=
  (List.dropWhile_suffix isBlank).mem ((prefix_trimEnd _).mem member)

theorem trim_of_blank {s : List Char} (blank : ∀ c ∈ s, isBlank c = true) : trim s = [] := by
  have none : trimStart s = [] := List.dropWhile_eq_nil_iff.2 blank
  rw [trim, none]
  rfl

theorem Trimmed.trim_between {s before after : List Char} (trimmed : Trimmed s)
    (nonempty : s ≠ []) (blank : ∀ c ∈ before, isBlank c = true)
    (blank' : ∀ c ∈ after, isBlank c = true) : trim (before ++ s ++ after) = s := by
  have start : ∀ c ∈ (s ++ after).head?, isBlank c = false := by
    rw [List.head?_append_of_ne_nil _ nonempty]
    exact trimmed.1
  have finish : ∀ c ∈ s.reverse.head?, isBlank c = false := by
    rw [List.head?_reverse]
    exact trimmed.2
  rw [trim, trimStart, List.append_assoc, dropWhile_append_of_stops blank start, trimEnd,
    List.reverse_append,
    dropWhile_append_of_stops (fun c member => blank' c (List.mem_reverse.1 member)) finish,
    List.reverse_reverse]

theorem Trimmed.trim_eq {s : List Char} (trimmed : Trimmed s) : trim s = s := by
  by_cases empty : s = []
  · rw [empty]
    rfl
  · simpa using trimmed.trim_between empty (List.forall_mem_nil _) (List.forall_mem_nil _)

theorem Trimmed.strip_ofList {s : List Char} (trimmed : Trimmed s) :
    strip (String.ofList s) = String.ofList s := by
  rw [strip, String.toList_ofList, trimmed.trim_eq]

theorem Solid.trim {s : List Char} (solid : Solid s) : trim s = s := solid.trimmed.trim_eq

/-! ## Gaps -/

/-- A run of at least one blank. -/
def Gap (s : List Char) : Prop := s ≠ [] ∧ ∀ b ∈ s, isBlank b = true

instance (s : List Char) : Decidable (Gap s) :=
  @instDecidableAnd _ _ inferInstance (List.decidableBAll _ s)

theorem Gap.reverse {s : List Char} (gap : Gap s) : Gap s.reverse :=
  ⟨by simpa using gap.1, fun b member => gap.2 b (List.mem_reverse.1 member)⟩

theorem Gap.blanks?_append {gap rest : List Char} (isGap : Gap gap)
    (stops : ∀ c ∈ rest.head?, isBlank c = false) : blanks? (gap ++ rest) = some rest := by
  obtain ⟨nonempty, blank⟩ := isGap
  obtain ⟨b, gap, rfl⟩ := List.exists_cons_of_ne_nil nonempty
  rw [List.forall_mem_cons] at blank
  rw [List.cons_append, blanks?, if_pos blank.1, trimStart, dropWhile_append_of_stops blank.2 stops]

theorem exists_gap_of_blanks? {s rest : List Char} (found : blanks? s = some rest) :
    ∃ gap, Gap gap ∧ s = gap ++ rest ∧ ∀ c ∈ rest.head?, isBlank c = false := by
  obtain ⟨b, after, blank, rfl, rfl⟩ := blanks?_eq_some found
  refine ⟨b :: after.takeWhile isBlank, ⟨by simp, List.forall_mem_cons.2 ⟨blank, ?_⟩⟩, ?_,
    head?_dropWhile⟩
  · exact fun d member => List.mem_takeWhile_imp member
  · rw [trimStart, List.cons_append, List.takeWhile_append_dropWhile]

end Layering.Text
