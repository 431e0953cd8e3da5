import Layering.Proofs.Text.Scan

/-!
# Replacing words

A word is replaced wherever a search from left to right, without overlap, finds it. A text made of
pieces is replaced piece by piece if the search never goes on from one piece into the next:
`replaceAll_flatMap`.
-/

namespace Layering.Text

/-- The text with each occurrence of a word, from left to right and without overlap, replaced. -/
def replaceAll (word instead : List Char) : List Char → List Char
  | [] => []
  | c :: s => match literal? word (c :: s) with
    | none => c :: replaceAll word instead s
    | some rest =>
      if rest.length < (c :: s).length then instead ++ replaceAll word instead rest
      else c :: replaceAll word instead s
termination_by s => s.length
decreasing_by
  · exact Nat.lt_succ_self s.length
  · assumption
  · exact Nat.lt_succ_self s.length

example : replaceAll "aa".toList "b".toList "aaaaa".toList = "bba".toList := by cbv

/-- The string with each occurrence of a word replaced. -/
def substitute (s word instead : String) : String :=
  String.ofList (replaceAll word.toList instead.toList s.toList)

variable {word instead : List Char}

theorem replaceAll_of_none {c : Char} {s : List Char} (other : literal? word (c :: s) = none) :
    replaceAll word instead (c :: s) = c :: replaceAll word instead s := by
  rw [replaceAll, other]

theorem replaceAll_append (nonempty : word ≠ []) (s : List Char) :
    replaceAll word instead (word ++ s) = instead ++ replaceAll word instead s := by
  obtain ⟨c, word, rfl⟩ := List.exists_cons_of_ne_nil nonempty
  have found : literal? (c :: word) (c :: (word ++ s)) = some s := literal?_append (c :: word) s
  have shorter : s.length < (c :: (word ++ s)).length := by
    rw [List.length_cons, List.length_append]
    omega
  rw [List.cons_append, replaceAll, found]
  exact if_pos shorter

/-- Where each piece is replaced by itself, the whole is replaced piece by piece. -/
theorem replaceAll_flatMap {f g : Char → List Char}
    (each : ∀ c s, replaceAll word instead (f c ++ s) = g c ++ replaceAll word instead s)
    (s : List Char) : replaceAll word instead (s.flatMap f) = s.flatMap g := by
  induction s with
  | nil => simp [replaceAll]
  | cons c s ih => rw [List.flatMap_cons, List.flatMap_cons, each, ih]

theorem replaceAll_singleton (c : Char) (s : List Char) :
    replaceAll [c] instead s = s.flatMap fun d => if d = c then instead else [d] := by
  have each (d : Char) (t : List Char) : replaceAll [c] instead ([d] ++ t) =
      (if d = c then instead else [d]) ++ replaceAll [c] instead t := by
    by_cases same : d = c
    · rw [same, if_pos rfl]
      exact replaceAll_append (by simp) t
    · rw [if_neg same]
      exact replaceAll_of_none (literal?_cons_of_ne same [] t)
  have pieces := replaceAll_flatMap each s
  rwa [List.flatMap_singleton'] at pieces

end Layering.Text
