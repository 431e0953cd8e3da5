import Layering.Proofs.Source.Dependencies
import Layering.Proofs.Source.Extraction
import Layering.Proofs.Text.Mark
import Layering.Proofs.Text.Trim

/-!
# Which parameter hints are read

A search for parameter hints goes on after the closing parenthesis that ends the parameter list it
has read a hint from, so it reads one hint of each list, the first. It reads that one whenever no
hint before the signature still waits for its closing parenthesis
(`first_hints_are_dependencies`).
-/

namespace Layering.Source
open Text

/-! ## Marks in hints and signatures -/

section Mark

variable {c : Char} (word : isWord c = false)
include word

theorem qualified?_append_cons (slash : c ≠ '\\') (p t : List Char) :
    qualified? (p ++ c :: t) = (qualified? p).map fun (name, rest) => (name, rest ++ c :: t) := by
  fun_induction qualified? p with
  | case1 => simp [qualified?, slash]
  | case2 d s w refused =>
      rw [List.cons_append, qualified?, takeWhile_append_cons word]
      exact if_pos refused
  | case3 d s w after reads more last found ih =>
      rw [List.cons_append, qualified?, takeWhile_append_cons word, dropWhile_append_cons word,
        if_neg reads, ih, found]
      rfl
  | case4 d s w after reads found ih =>
      rw [List.cons_append, qualified?, takeWhile_append_cons word, dropWhile_append_cons word,
        if_neg reads, ih, found]
      rfl

theorem dollarName?_append_cons (dollar : c ≠ '$') (p t : List Char) :
    dollarName? (p ++ c :: t) = (dollarName? p).map (· ++ c :: t) := by
  cases p with
  | nil => simp [dollarName?, dollar]
  | cons d p =>
      rw [List.cons_append, dollarName?, dollarName?, run?_append_cons word]
      split
      · rw [Option.map_map, Option.map_map]
        rfl
      · rfl

theorem typedVariable?_append_cons (slash : c ≠ '\\') (dollar : c ≠ '$')
    (solid : isBlank c = false) (p t : List Char) :
    typedVariable? (p ++ c :: t) =
      (typedVariable? p).map fun (name, rest) => (name, rest ++ c :: t) := by
  rw [typedVariable?, typedVariable?, qualified?_append_cons word slash]
  cases qualified? p with
  | none => rfl
  | some found =>
      obtain ⟨name, rest⟩ := found
      simp only [Option.map_some, Option.bind_some, blanks?_append_cons solid]
      cases blanks? rest with
      | none => rfl
      | some rest =>
          simp only [Option.map_some, Option.bind_some, dollarName?_append_cons word dollar,
            Option.map_map]
          rfl

end Mark

theorem dollarName?_suffix {s rest : List Char} (found : dollarName? s = some rest) :
    rest <:+ s := by
  cases s with
  | nil => cases found
  | cons c s =>
      rw [dollarName?] at found
      split at found
      · obtain ⟨⟨word, after⟩, run, rfl⟩ := Option.map_eq_some_iff.1 found
        exact (run?_suffix run).trans (List.suffix_cons c s)
      · cases found

theorem typedVariable?_suffix {s name rest : List Char}
    (found : typedVariable? s = some (name, rest)) : rest <:+ s := by
  rw [typedVariable?, Option.bind_eq_some_iff] at found
  obtain ⟨⟨hint, afterHint⟩, qualified, found⟩ := found
  obtain ⟨afterBlanks, blanks, found⟩ := Option.bind_eq_some_iff.1 found
  obtain ⟨last, dollar, same⟩ := Option.map_eq_some_iff.1 found
  obtain ⟨-, rfl⟩ := Prod.mk.inj same
  exact (dollarName?_suffix dollar).trans ((blanks?_suffix blanks).trans
    (qualified?_suffix qualified))

theorem typedParameter?_endsAt : EndsAt ')' typedParameter? := by
  intro p absent
  have close (t : List Char) := typedVariable?_append_cons (c := ')') (by decide) (by decide)
    (by decide) (by decide) p t
  cases found : typedVariable? p with
  | none =>
      refine ⟨by rw [typedParameter?, found]; rfl, none, fun t => ?_⟩
      rw [typedParameter?, close, found]
      rfl
  | some read =>
      obtain ⟨name, rest⟩ := read
      have open' : ')' ∉ rest := fun member => absent ((typedVariable?_suffix found).mem member)
      refine ⟨?_, some name, fun t => ?_⟩
      · rw [typedParameter?, found, Option.bind_some]
        dsimp only
        rw [after?_eq_none open', Option.map_none]
      · rw [typedParameter?, close, found, Option.map_some, Option.bind_some]
        dsimp only
        rw [after?_append open', Option.map_some, Option.map_some]

theorem anyName_append_cons {c : Char} (word : isWord c = false) (p t : List Char) :
    anyName (p ++ c :: t) = (anyName p).map (· ++ c :: t) := by
  rw [anyName, anyName, run?_append_cons word, Option.map_map, Option.map_map]
  rfl

/-- The opening of a signature: a function keyword, a name and an opening parenthesis. -/
def opening? : Recognizer Unit := fun s => (signature? anyName s).map ((), ·)

theorem opening?_endsAt : EndsAt '(' opening? := by
  intro p absent
  refine ⟨by rw [opening?, signature?_eq_none anyName_suffix absent]; rfl, ?_⟩
  have keyword_append := literal?_append_cons (by decide : '(' ∉ "function".toList) p
  simp only [opening?, signature?, keyword_append]
  cases keyword : literal? "function".toList p with
  | none => exact ⟨none, fun _ => rfl⟩
  | some afterKeyword =>
      simp only [Option.map_some, Option.bind_some, blanks?_append_cons (c := '(') (by decide)]
      cases blanks : blanks? afterKeyword with
      | none => exact ⟨none, fun _ => rfl⟩
      | some afterBlanks =>
          simp only [Option.map_some, Option.bind_some, anyName_append_cons (c := '(') (by decide)]
          cases named : anyName afterBlanks with
          | none => exact ⟨none, fun _ => rfl⟩
          | some rest =>
              have suffix : trimStart rest <:+ p :=
                (List.dropWhile_suffix _).trans ((anyName_suffix named).trans
                  ((blanks?_suffix blanks).trans (literal?_suffix keyword)))
              simp only [Option.map_some, Option.bind_some,
                trimStart_append_cons (c := '(') (by decide)]
              cases next : trimStart rest with
              | nil => exact ⟨some (), fun _ => rfl⟩
              | cons d rest =>
                  have other : d ≠ '(' := by
                    rintro rfl
                    exact absent (suffix.mem (next ▸ List.mem_cons_self))
                  refine ⟨none, fun t => ?_⟩
                  simp [other]

theorem parameterHint?_eq (s : List Char) :
    parameterHint? s = (opening? s).bind fun (_, rest) => leftmost? typedParameter? rest := by
  rw [parameterHint?, opening?]
  cases signature? anyName s with
  | none => rfl
  | some rest => rfl

theorem parameterHint?_append {s hint rest : List Char}
    (found : parameterHint? s = some (hint, rest)) (t : List Char) :
    parameterHint? (s ++ t) = some (hint, rest ++ t) := by
  rw [parameterHint?_eq, Option.bind_eq_some_iff] at found
  obtain ⟨⟨_, list⟩, opening, hinted⟩ := found
  rw [parameterHint?_eq, opening?_endsAt.append_of_some opening, Option.bind_some]
  exact typedParameter?_endsAt.leftmost?_append hinted t

theorem parameterHint?_suffix {s hint rest : List Char}
    (found : parameterHint? s = some (hint, rest)) : rest <:+ s ∧ rest.length < s.length := by
  rw [parameterHint?_eq, Option.bind_eq_some_iff] at found
  obtain ⟨⟨_, list⟩, opening, hinted⟩ := found
  obtain ⟨u, inside, reads⟩ := exists_of_leftmost? hinted
  have behind : rest <:+ list := (typedParameter?_endsAt.suffix reads).trans inside
  exact ⟨behind.trans (opening?_endsAt.suffix opening),
    behind.length_le.trans_lt (opening?_endsAt.length_lt opening)⟩

/-! ## Signatures -/

/-- A word: at least one character of words, none of them a blank. -/
def IsIdentifier (s : List Char) : Prop := s ≠ [] ∧ ∀ c ∈ s, isWord c = true ∧ isBlank c = false

instance (s : List Char) : Decidable (IsIdentifier s) :=
  have := List.decidableBAll (fun c => isWord c = true ∧ isBlank c = false) s
  instDecidableAnd

/-- A qualified name of at least one segment, with its leading backslash. -/
inductive IsHint : List Char → Prop
  | last {segment : List Char} (isIdentifier : IsIdentifier segment) : IsHint ('\\' :: segment)
  | cons {segment hint : List Char} (isIdentifier : IsIdentifier segment) (isHint : IsHint hint) :
      IsHint ('\\' :: (segment ++ hint))

/-- A parameter with a qualified name as its type. -/
structure Parameter where
  hint : List Char
  name : List Char
  isHint : IsHint hint
  isIdentifier : IsIdentifier name

/-- The signature of a function with at least one parameter, all of them typed. -/
structure Signature where
  name : List Char
  first : Parameter
  others : List Parameter
  isIdentifier : IsIdentifier name

def Parameter.text (p : Parameter) : List Char := p.hint ++ ' ' :: '$' :: p.name

namespace Signature

/-- The parameters with the closing parenthesis. -/
def parameters (sig : Signature) : List Char :=
  sig.first.text ++ (sig.others.flatMap fun p => ", ".toList ++ p.text) ++ [')']

def head (sig : Signature) : List Char := "function".toList ++ ' ' :: sig.name

def text (sig : Signature) : List Char := sig.head ++ '(' :: sig.parameters

end Signature

theorem IsIdentifier.solid {s : List Char} (isIdentifier : IsIdentifier s) : Solid s :=
  fun c member => (isIdentifier.2 c member).2

theorem IsIdentifier.not_mem {s : List Char} (isIdentifier : IsIdentifier s) {c : Char}
    (word : isWord c = false) : c ∉ s := by
  intro member
  rw [(isIdentifier.2 c member).1] at word
  cases word

theorem IsHint.solid {s : List Char} (isHint : IsHint s) : Solid s := by
  have slash : Solid ['\\'] := by decide
  induction isHint with
  | last isIdentifier => exact slash.append isIdentifier.solid
  | cons isIdentifier _ ih => exact slash.append (isIdentifier.solid.append ih)

theorem IsHint.strip_eq {s : List Char} (isHint : IsHint s) :
    strip (String.ofList s) = String.ofList s := isHint.solid.trimmed.strip_ofList

theorem IsHint.not_mem {s : List Char} (isHint : IsHint s) {c : Char} (word : isWord c = false)
    (slash : c ≠ '\\') : c ∉ s := by
  induction isHint with
  | last isIdentifier => simp [slash, isIdentifier.not_mem word]
  | cons isIdentifier _ ih => simp [slash, isIdentifier.not_mem word, ih]

theorem IsHint.starts {s : List Char} (isHint : IsHint s) : ∃ rest, s = '\\' :: rest := by
  cases isHint with
  | last => exact ⟨_, rfl⟩
  | cons => exact ⟨_, rfl⟩

/-! ## What is read from a signature -/

theorem qualified?_segment {segment : List Char} (isIdentifier : IsIdentifier segment) {c : Char}
    (word : isWord c = false) (rest : List Char) :
    qualified? ('\\' :: (segment ++ c :: rest)) = match qualified? (c :: rest) with
      | some (more, after) => some ('\\' :: segment ++ more, after)
      | none => some ('\\' :: segment, c :: rest) := by
  have all : ∀ d ∈ segment, isWord d = true := fun d member => (isIdentifier.2 d member).1
  have some : segment.isEmpty = false := by simpa using isIdentifier.1
  rw [qualified?, takeWhile_append_cons word, dropWhile_append_cons word,
    List.takeWhile_eq_self_iff.2 all, List.dropWhile_eq_nil_iff.2 all, List.nil_append, some]
  rfl

theorem qualified?_reads {hint : List Char} (isHint : IsHint hint) {c : Char}
    (word : isWord c = false) (slash : c ≠ '\\') (rest : List Char) :
    qualified? (hint ++ c :: rest) = some (hint, c :: rest) := by
  have refused : qualified? (c :: rest) = none := by simp [qualified?, slash]
  induction isHint with
  | last isIdentifier => rw [List.cons_append, qualified?_segment isIdentifier word, refused]
  | @cons segment hint isIdentifier isHint ih =>
      obtain ⟨tail, starts⟩ := isHint.starts
      have next : hint ++ c :: rest = '\\' :: (tail ++ c :: rest) := by rw [starts]; rfl
      rw [next] at ih
      rw [List.cons_append, List.append_assoc, next, qualified?_segment isIdentifier (by decide), ih]
      rfl

theorem typedVariable?_reads (p : Parameter) {rest : List Char}
    (stops : ∀ c ∈ rest.head?, isWord c = false) :
    typedVariable? (p.text ++ rest) = some (p.hint, rest) := by
  have all : ∀ d ∈ p.name, isWord d = true := fun d member => (p.isIdentifier.2 d member).1
  have blanks : blanks? (' ' :: '$' :: (p.name ++ rest)) = some ('$' :: (p.name ++ rest)) := rfl
  rw [typedVariable?, Parameter.text, List.append_assoc, List.cons_append, List.cons_append,
    qualified?_reads p.isHint (by decide) (by decide), Option.bind_some]
  dsimp only
  rw [blanks, Option.bind_some, dollarName?, if_pos (beq_self_eq_true _), run?_append p.isIdentifier.1 all stops]
  rfl

namespace Signature

variable (sig : Signature)

theorem typedParameter?_parameters (after : List Char) :
    typedParameter? (sig.parameters ++ after) = some (sig.first.hint, after) := by
  have inside : ')' ∉ sig.others.flatMap fun p => ", ".toList ++ p.text := by
    have text (p : Parameter) : ')' ∉ p.text := by
      simp [Parameter.text, p.isHint.not_mem (c := ')') (by decide) (by decide),
        p.isIdentifier.not_mem (c := ')') (by decide)]
    simp [text]
  have stops : ∀ c ∈ ((sig.others.flatMap fun p => ", ".toList ++ p.text) ++ ')' :: after).head?,
      isWord c = false := by
    cases sig.others with
    | nil => exact stops_cons (by decide) after
    | cons p others => exact stops_cons (by decide) _
  rw [typedParameter?, parameters, List.append_assoc, List.append_assoc, List.singleton_append,
    typedVariable?_reads _ stops, Option.bind_some]
  dsimp only
  rw [after?_append inside]
  rfl

theorem opening?_text (after : List Char) :
    opening? (sig.text ++ after) = some ((), sig.parameters ++ after) := by
  have all : ∀ c ∈ sig.name, isWord c = true := fun c member => (sig.isIdentifier.2 c member).1
  have blanks : blanks? (' ' :: (sig.name ++ '(' :: (sig.parameters ++ after))) =
      some (sig.name ++ '(' :: (sig.parameters ++ after)) := by
    rw [blanks?, if_pos (by decide), sig.isIdentifier.solid.trimStart_append sig.isIdentifier.1]
  have word : isWord '(' = false := by decide
  unfold text head
  rw [opening?, List.append_assoc, List.append_assoc, List.cons_append,
    List.cons_append, signature?, literal?_append, Option.bind_some, blanks, Option.bind_some,
    anyName, run?_append sig.isIdentifier.1 all (stops_cons word _)]
  rfl

theorem parameterHint?_text (after : List Char) :
    parameterHint? (sig.text ++ after) = some (sig.first.hint, after) := by
  rw [parameterHint?_eq, sig.opening?_text, Option.bind_some]
  exact leftmost?_of_some (sig.typedParameter?_parameters after)

end Signature

/-! ## The search through a text -/

/-- Behind the opening of a function, every typed variable of the text has a closing parenthesis
behind it; also one that is only complete when a function keyword comes after the text. -/
def Settled (s : List Char) : Prop :=
  ∀ u ∈ s.tails, ∀ rest ∈ signature? anyName u, ∀ w ∈ rest.tails,
    typedVariable? (w ++ "function".toList) ≠ none → ')' ∈ w

instance (s : List Char) : Decidable (Settled s) :=
  inferInstanceAs (Decidable (∀ u ∈ s.tails, ∀ rest ∈ signature? anyName u, ∀ w ∈ rest.tails,
    typedVariable? (w ++ "function".toList) ≠ none → ')' ∈ w))

theorem Settled.of_suffix {s t : List Char} (settled : Settled t) (suffix : s <:+ t) :
    Settled s := fun u inside =>
  settled u ((List.mem_tails _ _).2 (((List.mem_tails _ _).1 inside).trans suffix))

theorem typedVariable?_append_blank {s rest : List Char} (refused : typedVariable? s = none)
    (start : dollarName? (trimStart rest) = none) : typedVariable? (s ++ ' ' :: rest) = none := by
  have word : isWord ' ' = false := by decide
  rw [typedVariable?] at refused ⊢
  rw [qualified?_append_cons word (by decide)]
  cases hint : qualified? s with
  | none => rfl
  | some found =>
      obtain ⟨name, behind⟩ := found
      rw [hint, Option.bind_some] at refused
      dsimp only at refused
      rw [Option.map_some, Option.bind_some]
      dsimp only
      cases behind with
      | nil =>
          rw [List.nil_append, blanks?, if_pos (by decide), Option.bind_some, start, Option.map_none]
      | cons b behind =>
          rw [List.cons_append, blanks?]
          rw [blanks?] at refused
          cases blank : isBlank b with
          | false => rfl
          | true =>
              rw [if_pos blank, Option.bind_some, Option.map_eq_none_iff] at refused
              rw [if_pos rfl, Option.bind_some, Option.map_eq_none_iff, trimStart,
                List.dropWhile_append]
              split
              · exact start
              · rw [dollarName?_append_cons word (by decide), ← trimStart, refused, Option.map_none]

namespace Signature

variable (sig : Signature) (after : List Char)

theorem typedVariable?_text {w : List Char}
    (refused : typedVariable? (w ++ "function".toList) = none) :
    typedVariable? (w ++ (sig.text ++ after)) = none := by
  unfold text head
  rw [List.append_assoc, List.append_assoc, List.cons_append, ← List.append_assoc]
  apply typedVariable?_append_blank refused
  rw [sig.isIdentifier.solid.trimStart_append sig.isIdentifier.1]
  obtain ⟨c, tail, starts⟩ := List.exists_cons_of_ne_nil sig.isIdentifier.1
  have other : c ≠ '$' := by
    rintro rfl
    exact sig.isIdentifier.not_mem (c := '$') (by decide) (starts ▸ List.mem_cons_self)
  rw [starts, List.cons_append, dollarName?, if_neg (by simpa using other)]

theorem not_mem_head {c : Char} (word : isWord c = false) (blank : c ≠ ' ') : c ∉ sig.head := by
  have keyword : ∀ d ∈ "function".toList, isWord d = true := List.all_eq_true.1 (by decide)
  intro member
  unfold head at member
  rw [List.mem_append, List.mem_cons] at member
  rcases member with member | rfl | member
  · rw [keyword c member] at word
    cases word
  · exact blank rfl
  · exact sig.isIdentifier.not_mem word member

/-- No hint begins before the parameters. -/
theorem leftmost?_typedParameter?_text :
    leftmost? typedParameter? (sig.text ++ after) = some (sig.first.hint, after) := by
  have whole : sig.text ++ after = (sig.head ++ ['(']) ++ (sig.parameters ++ after) := by
    simp [text]
  have slash : '\\' ∉ sig.head ++ ['('] := by
    simp [sig.not_mem_head (c := '\\') (by decide) (by decide)]
  rw [whole, leftmost?_append]
  · exact leftmost?_of_some (sig.typedParameter?_parameters after)
  · intro u suffix some
    obtain ⟨c, u, rfl⟩ := List.exists_cons_of_ne_nil some
    have other : c ≠ '\\' := fun same => slash (suffix.mem (same ▸ List.mem_cons_self))
    simp [typedParameter?, typedVariable?, qualified?, other]

/-- Behind a function that opens in a settled text, no hint goes on into the signature. -/
theorem typedParameter?_of_none {u list w : List Char} (settled : Settled u)
    (opening : opening? u = some ((), list)) (inside : w <:+ list)
    (refused : typedParameter? w = none) : typedParameter? (w ++ (sig.text ++ after)) = none := by
  by_cases closes : ')' ∈ w
  · rw [typedParameter?_endsAt.append closes, refused]
    rfl
  · have nothing : typedVariable? (w ++ "function".toList) = none := by
      by_contra reads
      obtain ⟨_, signature, same⟩ := Option.map_eq_some_iff.1 opening
      obtain ⟨-, rfl⟩ := Prod.mk.inj same
      exact closes (settled u (by simp) _ signature w (by simpa using inside) reads)
    rw [typedParameter?, sig.typedVariable?_text after nothing]
    rfl

/-- A function that opens in the text and has no hint there takes the first of the signature. -/
theorem parameterHint?_of_none {u : List Char} (settled : Settled u)
    (unread : parameterHint? u = none) :
    parameterHint? (u ++ (sig.text ++ after)) = none ∨
      (parameterHint? (u ++ (sig.text ++ after)) = some (sig.first.hint, after) ∧
        ∀ v, v <:+ u → parameterHint? v = none) := by
  by_cases opens : '(' ∈ u
  · rw [parameterHint?_eq, opening?_endsAt.append opens]
    cases opening : opening? u with
    | none => exact .inl rfl
    | some found =>
        obtain ⟨_, list⟩ := found
        rw [parameterHint?_eq, opening, Option.bind_some, leftmost?_eq_none_iff] at unread
        refine .inr ⟨?_, fun v inside => ?_⟩
        · exact (leftmost?_append list _ fun w inside _ =>
            sig.typedParameter?_of_none after settled opening inside (unread w inside)).trans
              (sig.leftmost?_typedParameter?_text after)
        · rw [parameterHint?_eq]
          cases later : opening? v with
          | none => rfl
          | some found =>
              obtain ⟨_, rest⟩ := found
              have behind := opening?_endsAt.suffix_of_suffix opening inside later
              exact leftmost?_eq_none_iff.2 fun w suffix => unread w (suffix.trans behind)
  · have absent : '(' ∉ u ++ sig.head := by
      simp [opens, sig.not_mem_head (c := '(') (by decide) (by decide)]
    -- An opening that begins in the text can only end at the parenthesis of the signature.
    have whole : u ++ (sig.text ++ after) = (u ++ sig.head) ++ '(' :: (sig.parameters ++ after) := by
      unfold text
      simp
    obtain ⟨-, read, reads⟩ := opening?_endsAt _ absent
    rw [parameterHint?_eq, whole, reads]
    cases read with
    | none => exact .inl rfl
    | some _ =>
        refine .inr ⟨leftmost?_of_some (sig.typedParameter?_parameters after), fun v inside => ?_⟩
        rw [parameterHint?_eq, opening?_endsAt.eq_none fun member => opens (inside.mem member)]
        rfl

/-- Behind a settled text, the search reads the first hint of the signature and then goes on after
the signature. -/
theorem every_parameterHint?_append {s : List Char} (settled : Settled s) :
    every parameterHint? (s ++ (sig.text ++ after)) =
      every parameterHint? s ++ sig.first.hint :: every parameterHint? after := by
  have nonempty (u : List Char) : after.length < (u ++ (sig.text ++ after)).length := by
    unfold text
    simp
    omega
  -- What is read within the text stays as it is, so the search comes to the signature at its first
  -- character or in a function that has no hint of its own.
  fun_induction every parameterHint? s with
  | case1 => exact every_of_some (sig.parameterHint?_text after) (nonempty [])
  | case2 c s unread ih =>
      rcases sig.parameterHint?_of_none after settled unread with none | ⟨first, nothing⟩
      · exact (every_cons_of_none none).trans (ih (settled.of_suffix (List.suffix_cons c s)))
      · rw [every_of_some first (nonempty (c :: s)),
          every_eq_nil s fun v inside => nothing v (inside.trans (List.suffix_cons c s))]
        rfl
  | case3 c s hint rest read shorter ih =>
      have longer := parameterHint?_append read (sig.text ++ after)
      rw [every_of_some longer (by simp only [List.length_append]; omega),
        ih (settled.of_suffix (parameterHint?_suffix read).1)]
      rfl
  | case4 c s hint rest read longer =>
      exact absurd (parameterHint?_suffix read).2 longer

end Signature

/-! ## Texts with signatures -/

/-- Signatures with the text in front of each, and the text behind the last. -/
def assemble (parts : List (List Char × Signature)) (rest : List Char) : List Char :=
  parts.foldr (fun (before, sig) text => before ++ (sig.text ++ text)) rest

theorem every_parameterHint?_assemble {parts : List (List Char × Signature)}
    (settled : ∀ part ∈ parts, Settled part.1) (rest : List Char) :
    every parameterHint? (assemble parts rest) =
      (parts.flatMap fun (before, sig) => every parameterHint? before ++ [sig.first.hint]) ++
        every parameterHint? rest := by
  induction parts with
  | nil => rfl
  | cons part parts ih =>
      obtain ⟨first, others⟩ := List.forall_mem_cons.1 settled
      have step : assemble (part :: parts) rest =
          part.1 ++ (part.2.text ++ assemble parts rest) := rfl
      rw [step, part.2.every_parameterHint?_append _ first, ih others]
      simp

theorem contains_of_hint {content hint : List Char} (isHint : IsHint hint)
    (read : hint ∈ every parameterHint? content) :
    (dependenciesOf content).contains (String.ofList hint) = true := by
  have hinted : hint ∈ hintsOf content := List.mem_flatMap.2 ⟨_, List.mem_cons_self, read⟩
  rw [dependenciesOf, (Dependencies.ofList_spec _).2, Dependencies.cleaned, List.mem_filter,
    List.mem_map]
  obtain ⟨rest, starts⟩ := isHint.starts
  refine ⟨⟨String.ofList hint, ?_, isHint.strip_eq⟩, by simp [starts]⟩
  exact List.mem_append_right _ (List.mem_map_of_mem hinted)

/-- When the text in front of each signature is settled, the first hint of every signature is a
dependency. The search for parameter hints reads no other hint of a signature. -/
theorem first_hints_are_dependencies {parts : List (List Char × Signature)} {rest : List Char}
    (settled : ∀ part ∈ parts, Settled part.1) :
    (∀ part ∈ parts,
      (dependenciesOf (assemble parts rest)).contains (String.ofList part.2.first.hint) = true) ∧
    every parameterHint? (assemble parts rest) =
      (parts.flatMap fun (before, sig) => every parameterHint? before ++ [sig.first.hint]) ++
        every parameterHint? rest := by
  have reads := every_parameterHint?_assemble settled rest
  refine ⟨fun part member => contains_of_hint part.2.first.isHint ?_, reads⟩
  rw [reads]
  exact List.mem_append_left _ (List.mem_flatMap.2 ⟨part, member, by simp⟩)

def oneHint : Signature where
  name := ['g']
  first := ⟨"\\C".toList, ['c'], .last (by decide), by decide⟩
  others := []
  isIdentifier := by decide

def twoHints : Signature where
  name := ['f']
  first := ⟨"\\A".toList, ['a'], .last (by decide), by decide⟩
  others := [⟨"\\B".toList, ['b'], .last (by decide), by decide⟩]
  isIdentifier := by decide

/-- Two methods with a property between them. -/
def methods : List (List Char × Signature) :=
  [("class K \x7b ".toList, twoHints), (" \x7b\x7d private \\P $p; ".toList, oneHint)]

theorem first_hints_of_methods :
    let found := dependenciesOf (assemble methods " \x7b\x7d \x7d".toList)
    found.contains "\\A" = true ∧ found.contains "\\C" = true := by
  intro found
  have read : ∀ part ∈ methods, found.contains (String.ofList part.2.first.hint) = true :=
    (first_hints_are_dependencies (by decide)).1
  exact ⟨read _ List.mem_cons_self, read _ (List.mem_cons_of_mem _ List.mem_cons_self)⟩

/-- The second of two hints is read by no search. -/
theorem second_hint_is_missed :
    let content := "<?php\nfunction f(\\A $a, \\B $b) \x7b\x7d\n".toList
    content = assemble [("<?php\n".toList, twoHints)] " \x7b\x7d\n".toList ∧
      (∃ p ∈ twoHints.others, String.ofList p.hint = "\\B") ∧
      (dependenciesOf content).contains "\\B" = false := by
  refine ⟨by decide, by decide, ?_⟩
  have names : (importsOf "<?php\nfunction f(\\A $a, \\B $b) \x7b\x7d\n".toList).map (·.path) ++
      (hintsOf "<?php\nfunction f(\\A $a, \\B $b) \x7b\x7d\n".toList).map String.ofList =
        ["\\A"] := by
    rw [String.toList_ofList]
    decide +kernel
  rw [dependenciesOf, names, Bool.eq_false_iff, Ne, (Dependencies.ofList_spec _).2]
  decide

/-- A hint that waits for its closing parenthesis takes the next signature with it. -/
example : every parameterHint?
    "function e() \x7b\x7d private \\P $p; function g(\\C $c) \x7b\x7d".toList = ["\\P".toList] := by
  rw [String.toList_ofList]
  decide +kernel

end Layering.Source
