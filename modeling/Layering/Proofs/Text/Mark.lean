import Layering.Proofs.Text.Scan

/-!
# Marks

A character that no piece of a pattern holds is a mark: what is read before it does not depend on
what stands behind it. A recogniser that reads up to the first mark finds the same in a text and
in any longer one, once the text has the mark (`EndsAt`). What stands behind a text that ends with
the mark (`Closed`) is read on its own: `Closed.every_append`, `EndsAt.every_eq_flatMap`.
-/

namespace Layering.Text

/-! ## What is read before a mark -/

theorem stops_cons {kind : Char → Bool} {c : Char} (stop : kind c = false) (t : List Char) :
    ∀ d ∈ (c :: t).head?, kind d = false := by
  simpa using stop

theorem takeWhile_append_cons {kind : Char → Bool} {c : Char} (stop : kind c = false)
    (p t : List Char) : (p ++ c :: t).takeWhile kind = p.takeWhile kind := by
  induction p with
  | nil => simp [stop]
  | cons d p ih => rw [List.cons_append, List.takeWhile_cons, List.takeWhile_cons, ih]

theorem dropWhile_append_cons {kind : Char → Bool} {c : Char} (stop : kind c = false)
    (p t : List Char) : (p ++ c :: t).dropWhile kind = p.dropWhile kind ++ c :: t := by
  induction p with
  | nil => simp [stop]
  | cons d p ih =>
      rw [List.cons_append, List.dropWhile_cons, List.dropWhile_cons, ih]
      split <;> rfl

theorem trimStart_append_cons {c : Char} (stop : isBlank c = false) (p t : List Char) :
    trimStart (p ++ c :: t) = trimStart p ++ c :: t := dropWhile_append_cons stop p t

theorem literal?_append_cons {word : List Char} {c : Char} (absent : c ∉ word) (p t : List Char) :
    literal? word (p ++ c :: t) = (literal? word p).map (· ++ c :: t) := by
  induction word generalizing p with
  | nil => simp [literal?]
  | cons d word ih =>
      rw [List.mem_cons, not_or] at absent
      cases p with
      | nil => simp [literal?, Ne.symm absent.1]
      | cons e p =>
          have inner := ih absent.2 p
          simp only [literal?, List.cons_append, List.isPrefixOf, List.length_cons,
            List.drop_succ_cons] at inner ⊢
          by_cases same : (d == e) = true
          · simpa [same] using inner
          · simp [same]

theorem blanks?_append_cons {c : Char} (stop : isBlank c = false) (p t : List Char) :
    blanks? (p ++ c :: t) = (blanks? p).map (· ++ c :: t) := by
  cases p with
  | nil => simp [blanks?, stop]
  | cons d p =>
      rw [List.cons_append, blanks?, blanks?, trimStart_append_cons stop]
      split <;> rfl

theorem run?_append_cons {kind : Char → Bool} {c : Char} (stop : kind c = false)
    (p t : List Char) :
    run? kind (p ++ c :: t) = (run? kind p).map fun (word, rest) => (word, rest ++ c :: t) := by
  rw [run?, run?, takeWhile_append_cons stop, dropWhile_append_cons stop]
  split <;> rfl

/-! ## What is read up to a mark -/

variable {α : Type}

/-- What the recogniser reads ends at the first `c`: a text that has none is refused, and the text
up to it decides what is read, whatever stands behind it. -/
def EndsAt (c : Char) (m : Recognizer α) : Prop :=
  ∀ p, c ∉ p → m p = none ∧ ∃ read : Option α, ∀ t, m (p ++ c :: t) = read.map (·, t)

namespace EndsAt

variable {c : Char} {m : Recognizer α} {s rest : List Char} {a : α}

theorem eq_none (ends : EndsAt c m) (absent : c ∉ s) : m s = none := (ends s absent).1

theorem append (ends : EndsAt c m) (present : c ∈ s) (t : List Char) :
    m (s ++ t) = (m s).map fun (a, rest) => (a, rest ++ t) := by
  obtain ⟨p, q, rfl, absent⟩ := List.eq_append_cons_of_mem present
  obtain ⟨-, read, reads⟩ := ends p absent
  rw [List.append_assoc, List.cons_append, reads, reads, Option.map_map]
  rfl

theorem split (ends : EndsAt c m) (found : m s = some (a, rest)) :
    ∃ p, c ∉ p ∧ s = p ++ c :: rest := by
  have present : c ∈ s := by
    by_contra absent
    rw [ends.eq_none absent] at found
    cases found
  obtain ⟨p, q, rfl, absent⟩ := List.eq_append_cons_of_mem present
  obtain ⟨-, read, reads⟩ := ends p absent
  rw [reads, Option.map_eq_some_iff] at found
  obtain ⟨_, -, same⟩ := found
  obtain ⟨-, rfl⟩ := Prod.mk.inj same
  exact ⟨p, absent, rfl⟩

/-- A reading that begins later in the text does not end earlier. -/
theorem suffix_of_suffix (ends : EndsAt c m) (found : m s = some (a, rest)) {u after : List Char}
    {b : α} (suffix : u <:+ s) (later : m u = some (b, after)) : after <:+ rest := by
  obtain ⟨p, absent, rfl⟩ := ends.split found
  obtain ⟨q, -, rfl⟩ := ends.split later
  obtain ⟨before, same⟩ := suffix
  rw [← List.append_assoc, List.append_eq_append_iff] at same
  rcases same with ⟨gap, rfl, behind⟩ | ⟨gap, -, behind⟩
  · cases gap with
    | nil => rw [(List.cons.inj behind).2]
    | cons d gap =>
        obtain ⟨rfl, -⟩ := List.cons.inj behind
        exact absurd (by simp) absent
  · cases gap with
    | nil => rw [(List.cons.inj behind).2]
    | cons d gap =>
        rw [(List.cons.inj behind).2]
        exact (List.suffix_cons c after).trans (List.suffix_append gap _)

theorem append_of_some (ends : EndsAt c m) (found : m s = some (a, rest)) (t : List Char) :
    m (s ++ t) = some (a, rest ++ t) := by
  obtain ⟨p, -, rfl⟩ := ends.split found
  rw [ends.append (by simp), found]
  rfl

theorem leftmost?_append (ends : EndsAt c m) (found : leftmost? m s = some (a, rest))
    (t : List Char) : leftmost? m (s ++ t) = some (a, rest ++ t) := by
  induction s with
  | nil => exact leftmost?_of_some (ends.append_of_some found t)
  | cons d s ih =>
      rw [leftmost?] at found
      cases here : m (d :: s) with
      | some read =>
          rw [here] at found
          obtain rfl := Option.some.inj found
          exact leftmost?_of_some (ends.append_of_some here t)
      | none =>
          rw [here] at found
          obtain ⟨u, suffix, reads⟩ := exists_of_leftmost? found
          obtain ⟨p, -, rfl⟩ := ends.split reads
          have present : c ∈ d :: s := List.mem_cons_of_mem d (suffix.mem (by simp))
          rw [List.cons_append, leftmost?, ← List.cons_append, ends.append present, here]
          exact ih found

theorem length_lt (ends : EndsAt c m) (found : m s = some (a, rest)) : rest.length < s.length := by
  obtain ⟨p, -, rfl⟩ := ends.split found
  simp only [List.length_append, List.length_cons]
  omega

theorem suffix (ends : EndsAt c m) (found : m s = some (a, rest)) : rest <:+ s := by
  obtain ⟨p, -, rfl⟩ := ends.split found
  exact (List.suffix_cons c rest).trans (List.suffix_append p _)

end EndsAt

/-! ## Texts that end with a mark -/

/-- The text is empty or ends with `c`. -/
def Closed (c : Char) (s : List Char) : Prop := s = [] ∨ s.getLast? = some c

namespace Closed

variable {c : Char} {s u : List Char}

theorem of_suffix (closed : Closed c s) (suffix : u <:+ s) : Closed c u := by
  obtain ⟨before, rfl⟩ := suffix
  rcases closed with empty | last
  · exact .inl (List.append_eq_nil_iff.1 empty).2
  · cases u with
    | nil => exact .inl rfl
    | cons d u => exact .inr (by simpa [List.getLast?_append] using last)

theorem mem (closed : Closed c s) (nonempty : s ≠ []) : c ∈ s := by
  rcases closed with empty | last
  · exact absurd empty nonempty
  · exact List.mem_of_getLast? last

variable {m : Recognizer α}

theorem leftmost?_append (closed : Closed c s) (ends : EndsAt c m) (t : List Char) :
    leftmost? m (s ++ t) =
      ((leftmost? m s).map fun (a, rest) => (a, rest ++ t)).or (leftmost? m t) := by
  cases found : leftmost? m s with
  | some read => exact ends.leftmost?_append found t
  | none =>
      rw [leftmost?_eq_none_iff] at found
      refine Text.leftmost?_append s t fun u suffix nonempty => ?_
      rw [ends.append ((closed.of_suffix suffix).mem nonempty), found u suffix]
      rfl

theorem every_append (closed : Closed c s) (ends : EndsAt c m) (t : List Char) :
    every m (s ++ t) = every m s ++ every m t := by
  induction length : s.length using Nat.strong_induction_on generalizing s with
  | _ n ih =>
      cases s with
      | nil => rw [every, List.nil_append, List.nil_append]
      | cons d s =>
          have whole := ends.append (closed.mem (by simp)) t
          rw [List.cons_append] at whole ⊢
          cases here : m (d :: s) with
          | none =>
              rw [here] at whole
              rw [every_cons_of_none whole, every_cons_of_none here]
              exact ih s.length (by simp [← length]) (closed.of_suffix (List.suffix_cons d s)) rfl
          | some read =>
              obtain ⟨a, rest⟩ := read
              rw [here] at whole
              have shorter := ends.length_lt here
              rw [every_of_some here shorter, every_of_some whole (by simp at shorter ⊢; omega),
                List.cons_append]
              exact congrArg (a :: ·)
                (ih rest.length (length ▸ shorter) (closed.of_suffix (ends.suffix here)) rfl)

end Closed

/-- What is read from a text is what is read from its pieces, each with the mark behind it; the
piece behind the last mark gives nothing. -/
theorem EndsAt.every_eq_flatMap {c : Char} {m : Recognizer α} (ends : EndsAt c m) (s : List Char) :
    every m s = (s.splitOnP (· == c)).dropLast.flatMap fun piece => every m (piece ++ [c]) := by
  induction length : s.length using Nat.strong_induction_on generalizing s with
  | _ n ih =>
      by_cases present : c ∈ s
      · obtain ⟨p, q, rfl, absent⟩ := List.eq_append_cons_of_mem present
        have shorter : q.length < n := by
          rw [← length, List.length_append, List.length_cons]
          omega
        have closed : Closed c (p ++ [c]) := .inr List.getLast?_concat
        have pieces : (p ++ c :: q).splitOnP (· == c) = p :: q.splitOnP (· == c) := by
          refine List.splitOnP_append_cons_of_forall_mem (fun d member => ?_) c (by simp) q
          exact beq_false_of_ne fun same => absent (same ▸ member)
        rw [pieces, List.dropLast_cons_of_ne_nil (List.splitOnP_ne_nil _ _), List.flatMap_cons,
          ← ih q.length shorter q rfl, ← closed.every_append ends q, List.append_assoc]
        rfl
      · have piece : s.splitOnP (· == c) = [s] := List.splitOnP_eq_singleton fun d member =>
          beq_false_of_ne fun same => present (same ▸ member)
        rw [piece]
        exact every_eq_nil s fun u suffix => ends.eq_none fun member => present (suffix.mem member)

end Layering.Text
