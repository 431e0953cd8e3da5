import Layering.Json.Printer
import Layering.Json.Reader
import Mathlib.Data.List.Forall2
import Mathlib.Data.List.Nodup
import Mathlib.Data.List.TakeWhile

/-!
# What the reader takes off a text

`Reads depth v s` says that the reader finds `v` where a text begins with `s`, whatever comes after
it. There is one lemma for each kind of value: the text of a scalar as the printers write it, and
an array or an object from texts of its parts, with blanks around them.
-/

namespace Layering.Json

open Number

/-! ## Strings -/

theorem hexValue?_hexChar : ∀ n < 16, hexValue? (hexChar n) = some n := by
  decide

-- As for the values below, the equations of the reader are made once, for all lemmas on escapes.
attribute [local grind =] stringBody

theorem stringBody_short {e c : Char} (short : shortEscape? e = some c) (rest : List Char) :
    stringBody ('\\' :: e :: rest) =
      (stringBody rest).map fun (text, after) => (c :: text, after) := by
  have other : e ≠ 'u' := by
    rintro rfl
    cases short
  rw [stringBody.eq_3 _ _ fun _ _ _ _ _ unit _ => other unit, short]

theorem stringBody_control {c : Char} (control : c.toNat < 32) (rest : List Char) :
    stringBody
        ('\\' :: 'u' :: '0' :: '0' :: hexChar (c.toNat / 16) :: hexChar (c.toNat % 16) :: rest) =
      (stringBody rest).map fun (text, after) => (c :: text, after) := by
  have high := hexValue?_hexChar (c.toNat / 16) (by omega)
  have low := hexValue?_hexChar (c.toNat % 16) (by omega)
  have code : hex4? '0' '0' (hexChar (c.toNat / 16)) (hexChar (c.toNat % 16)) = some c.toNat := by
    rw [hex4?, high, low]
    simp [hexValue?]
    omega
  have basic : ¬ 0xDC00 ≤ c.toNat ∧ ¬ 0xD800 ≤ c.toNat := by omega
  simp [stringBody, code, basic]

theorem stringBody_plain {c : Char} (quote : c ≠ '\x22') (backslash : c ≠ '\\')
    (printable : ¬ c.toNat < 32) (rest : List Char) :
    stringBody (c :: rest) = (stringBody rest).map fun (text, after) => (c :: text, after) := by
  simp [stringBody.eq_4, quote, backslash, printable]

/-- Reading takes back the escape of one character. -/
theorem stringBody_escapeChar (c : Char) (rest : List Char) :
    stringBody (escapeChar c ++ rest) =
      (stringBody rest).map fun (text, after) => (c :: text, after) := by
  by_cases short : c ∈ ['\x22', '\\', '\n', '\r', '\t', '\x08', '\x0c']
  · simp only [List.mem_cons, List.not_mem_nil, or_false] at short
    rcases short with rfl | rfl | rfl | rfl | rfl | rfl | rfl <;> exact stringBody_short rfl rest
  · simp only [List.mem_cons, List.not_mem_nil, or_false, not_or] at short
    by_cases control : c.toNat < 32
    · simpa [escapeChar, short, control] using stringBody_control control rest
    · simpa [escapeChar, short, control] using stringBody_plain short.1 short.2.1 control rest

theorem stringBody_escape (s rest : List Char) :
    stringBody (s.flatMap escapeChar ++ '\x22' :: rest) = some (s, rest) := by
  induction s with
  | nil => rfl
  | cons c s ih =>
      rw [List.flatMap_cons, List.append_assoc, stringBody_escapeChar, ih]
      rfl

/-! ## Numbers -/

/-- Nothing that a number could go on with. -/
def Ends (rest : List Char) : Prop :=
  ∀ c ∈ rest.head?, digit? c = none ∧ c ≠ '.' ∧ c ≠ 'e' ∧ c ≠ 'E'

theorem digit?_digitChar : ∀ d < 10, digit? d.digitChar = some d := by
  decide

theorem digit?_isSome {c : Char} : (digit? c).isSome = c.isDigit := by
  simp only [digit?, Char.isDigit, Char.le_def]
  split <;> simp_all [UInt32.le_iff_toNat_le]

theorem digit?_of_mem_toDigits {n : Nat} {c : Char} (member : c ∈ Nat.toDigits 10 n) :
    (digit? c).isSome = true := by
  rw [digit?_isSome]
  exact Nat.isDigit_of_mem_toDigits (by decide) (by decide) member

/-- Collecting the digits of a number of 64 bits gives the number. -/
theorem foldl_integral {n : Nat} (fits : n < Nat.pow 2 64) :
    (Nat.toDigits 10 n).foldl (fun s c => s.integral ((digit? c).getD 0)) {} =
      ({ value := n } : Significand) := by
  induction n using Nat.strongRecOn with
  | ind n ih =>
      by_cases small : n < 10
      · have bound : ¬ 0xFFFFFFFFFFFFFFFF < n := by omega
        rw [Nat.toDigits_of_lt_base small]
        simp [digit?_digitChar n small, Significand.integral, bound]
      · have bound : ¬ 0xFFFFFFFFFFFFFFFF < n := by
          simp at fits
          omega
        have whole : n / 10 * 10 + n % 10 = n := by omega
        have step := ih (n / 10) (by omega) (by omega)
        rw [Nat.toDigits_of_base_le (by decide) (by omega), List.foldl_append, step]
        simp [digit?_digitChar (n % 10) (by omega), Significand.integral, whole, bound]

theorem head?_toDigits {n : Nat} (positive : 0 < n) : (Nat.toDigits 10 n).head? ≠ some '0' := by
  induction n using Nat.strongRecOn with
  | ind n ih =>
      by_cases small : n < 10
      · rw [Nat.toDigits_of_lt_base small]
        simpa using Nat.ne_of_gt positive
      · rw [Nat.toDigits_of_base_le (by decide) (by omega), List.head?_append]
        have first := ih (n / 10) (by omega) (by omega)
        cases digits : Nat.toDigits 10 (n / 10) with
        | nil => exact absurd digits Nat.toDigits_ne_nil
        | cons c cs => simpa [digits] using first

theorem toDigits_no_leading_zero (n : Nat) :
    ((Nat.toDigits 10 n).length > 1 && (Nat.toDigits 10 n).head? == some '0') = false := by
  rcases Nat.eq_zero_or_pos n with rfl | positive
  · rfl
  · simp [head?_toDigits positive]

theorem number?_toDigits (negative : Bool) {n : Nat} (fits : n < Nat.pow 2 64) {rest : List Char}
    (ends : Ends rest) :
    number? negative (Nat.toDigits 10 n ++ rest) =
      (({ value := n } : Significand).toInteger? negative).map (·, rest) := by
  have whole : (Nat.toDigits 10 n ++ rest).takeWhile (digit? · |>.isSome) = Nat.toDigits 10 n := by
    rw [List.takeWhile_append_of_pos fun c member => digit?_of_mem_toDigits member]
    cases rest with
    | nil => simp
    | cons c rest => simp [ends c rfl]
  simp only [number?, whole, toDigits_no_leading_zero, foldl_integral fits, List.drop_left]
  cases rest with
  | nil => simp [Nat.toDigits_ne_nil]
  | cons c rest =>
    have := ends c rfl
    simp [Nat.toDigits_ne_nil, this]

/-! ## Gaps -/

/-- A text of blanks. -/
def Blank (gap : List Char) : Prop := skipBlanks gap = []

theorem Blank.skip {gap : List Char} (blank : Blank gap) (s : List Char) :
    skipBlanks (gap ++ s) = skipBlanks s := by
  rw [Blank, skipBlanks] at blank
  simp [skipBlanks, List.dropWhile_append, blank]

theorem skipBlanks_cons (c : Char) (s : List Char) :
    skipBlanks (c :: s) =
      if c = ' ' ∨ c = '\n' ∨ c = '\t' ∨ c = '\r' then skipBlanks s else c :: s := by
  simp [skipBlanks, List.dropWhile_cons, or_assoc]

theorem blank_nil : Blank [] := rfl

theorem ends_nil : Ends [] := by
  simp [Ends]

theorem Blank.ends {gap : List Char} (blank : Blank gap) {rest : List Char} (ends : Ends rest) :
    Ends (gap ++ rest) := by
  cases gap with
  | nil => exact ends
  | cons c gap =>
      have first := List.dropWhile_eq_nil_iff.1 blank c List.mem_cons_self
      simp only [Bool.or_eq_true, beq_iff_eq] at first
      rintro _ ⟨⟩
      rcases first with ((rfl | rfl) | rfl) | rfl <;> decide

/-! ## Values -/

-- Every lemma on values unfolds the reader once: its equations are made here, for all of them.
attribute [local grind =] value? items? members?

/-- The reader takes `v` off the front of a text that begins with `s`. -/
def Reads (depth : Nat) (v : Json) (s : List Char) : Prop :=
  ∀ rest, Ends rest → value? depth (s ++ rest) = some (v, rest)

theorem reads_null (depth : Nat) : Reads depth .null "null".toList := by
  intro rest _
  rw [value?.eq_1]
  simp [skipBlanks, keyword?]

theorem reads_bool (depth : Nat) (b : Bool) :
    Reads depth (.bool b) (if b then "true" else "false").toList := by
  intro rest _
  rw [value?.eq_1]
  cases b <;> simp [skipBlanks, keyword?]

theorem toList_quote (s : String) :
    (quote s).toList = '\x22' :: (s.toList.flatMap escapeChar ++ ['\x22']) := by
  simp [quote]

theorem reads_string (depth : Nat) (s : String) : Reads depth (.string s) (quote s).toList := by
  intro rest _
  rw [value?.eq_1, toList_quote]
  simp [skipBlanks, stringBody_escape]

theorem value?_digit {c : Char} (digit : (digit? c).isSome = true) (depth : Nat) (s : List Char) :
    value? depth (c :: s) = number? false (c :: s) := by
  have start : skipBlanks (c :: s) = c :: s := by
    rw [skipBlanks, List.dropWhile_cons_of_neg]
    rintro blank
    simp only [Bool.or_eq_true, beq_iff_eq] at blank
    rcases blank with ((rfl | rfl) | rfl) | rfl <;> exact absurd digit (by decide)
  rw [value?.eq_1, start]
  split <;> simp_all [digit?]

/-- Reading takes back an integer of 64 bits, signed or unsigned. -/
theorem reads_int (depth : Nat) {n : Int} (low : -(Nat.pow 2 63 : Int) ≤ n)
    (high : n < (Nat.pow 2 64 : Int)) : Reads depth (.int n) (Binary64.integerText n).toList := by
  intro rest ends
  have fits : n.natAbs < Nat.pow 2 64 := by
    simp only [Nat.pow_eq, Nat.reducePow] at low high ⊢
    omega
  rw [Binary64.integerText]
  by_cases negative : n < 0
  · obtain ⟨m, rfl⟩ : ∃ m : Nat, n = -(m : Int) := ⟨n.natAbs, by omega⟩
    rw [Int.natAbs_neg, Int.natAbs_natCast] at fits ⊢
    have text : ("-" ++ Binary64.digitsText m).toList = '-' :: Nat.toDigits 10 m := by
      simp [Binary64.digitsText]
    have nonzero : (m == 0) = false := by
      rw [beq_eq_false_iff_ne]
      omega
    have small : ¬ 0x8000000000000000 < m := by
      simp only [Nat.pow_eq, Nat.reducePow] at low
      omega
    rw [if_pos negative, text, value?.eq_1]
    simp [skipBlanks, number?_toDigits true fits ends, Significand.toInteger?, nonzero, small]
  · obtain ⟨m, rfl⟩ : ∃ m : Nat, n = m := ⟨n.natAbs, by omega⟩
    rw [Int.natAbs_natCast] at fits ⊢
    rw [if_neg negative, Binary64.digitsText, String.toList_ofList]
    cases digits : Nat.toDigits 10 m with
    | nil => exact absurd digits Nat.toDigits_ne_nil
    | cons c cs =>
        have digit := digit?_of_mem_toDigits (digits ▸ List.mem_cons_self)
        rw [List.cons_append, value?_digit digit, ← List.cons_append, ← digits,
          number?_toDigits false fits ends]
        simp [Significand.toInteger?]

/-! ## Containers -/

/-- The items of an array in their texts, with a blank gap before the closing bracket. -/
theorem items?_reads {depth : Nat} {items : List Json} {texts : List (List Char)}
    (each : List.Forall₂ (Reads depth) items texts) (nonempty : items ≠ []) {gap : List Char}
    (blank : Blank gap) {fuel : Nat} (enough : items.length ≤ fuel) (rest : List Char) :
    items? (value? depth) fuel ([','].intercalate texts ++ (gap ++ ']' :: rest)) =
      some (items, rest) := by
  induction each generalizing fuel with
  | nil => exact absurd rfl nonempty
  | @cons v s vs texts first others ih =>
      obtain ⟨fuel, rfl⟩ : ∃ n, fuel = n + 1 := ⟨fuel - 1, by simp at enough; omega⟩
      cases others with
      | nil =>
          have closing : Ends (gap ++ ']' :: rest) := blank.ends (by simp [Ends, digit?])
          rw [List.intercalate_singleton, items?, first _ closing]
          simp [blank.skip, skipBlanks_cons]
      | cons second others =>
          have comma (t : List Char) : Ends (',' :: t) := by simp [Ends, digit?]
          have later := ih (by simp) (Nat.le_of_succ_le_succ enough)
          rw [List.intercalate_cons_cons, List.append_assoc, List.append_assoc,
            List.singleton_append, items?, first _ (comma _)]
          simp [skipBlanks_cons, later]

/-- The text of a member: its name, a colon, and what its value is read from. -/
def ReadsMember (depth : Nat) (member : String × Json) (s : List Char) : Prop :=
  ∃ gap text, Blank gap ∧ s = gap ++ ((quote member.1).toList ++ ':' :: text) ∧
    Reads depth member.2 text

/-- What comes after a member: the others after a comma, or the closing brace. -/
def membersAfter (depth fuel : Nat) (member : String × Json) :
    List Char → Option (List (String × Json) × List Char)
  | ',' :: rest =>
    (members? (value? depth) fuel rest).map fun (ms, after) => (member :: ms, after)
  | '\x7d' :: rest => some ([member], rest)
  | _ => none

theorem members?_member {depth fuel : Nat} {member : String × Json} {s after : List Char}
    (reads : ReadsMember depth member s) (ends : Ends after) :
    members? (value? depth) (fuel + 1) (s ++ after) =
      membersAfter depth fuel member (skipBlanks after) := by
  obtain ⟨key, v⟩ := member
  obtain ⟨before, text, blank, rfl, value⟩ := reads
  have name : skipBlanks (before ++ ((quote key).toList ++ ':' :: text) ++ after) =
      '\x22' :: (key.toList.flatMap escapeChar ++ '\x22' :: ':' :: (text ++ after)) := by
    simp [blank.skip, toList_quote, skipBlanks_cons]
  have colon (t : List Char) : skipBlanks (':' :: t) = ':' :: t := by
    simp [skipBlanks_cons]
  simp only [members?, name, stringBody_escape, Option.bind_some, colon, value after ends,
    String.ofList_toList]
  rfl

theorem members?_reads {depth : Nat} {members : List (String × Json)} {texts : List (List Char)}
    (each : List.Forall₂ (ReadsMember depth) members texts) (nonempty : members ≠ [])
    {gap : List Char} (blank : Blank gap) {fuel : Nat} (enough : members.length ≤ fuel)
    (rest : List Char) :
    members? (value? depth) fuel ([','].intercalate texts ++ (gap ++ '\x7d' :: rest)) =
      some (members, rest) := by
  induction each generalizing fuel with
  | nil => exact absurd rfl nonempty
  | @cons m s ms texts first others ih =>
      obtain ⟨fuel, rfl⟩ : ∃ n, fuel = n + 1 := ⟨fuel - 1, by simp at enough; omega⟩
      cases others with
      | nil =>
          have closing : Ends (gap ++ '\x7d' :: rest) := blank.ends (by simp [Ends, digit?])
          rw [List.intercalate_singleton, members?_member first closing, blank.skip]
          simp [skipBlanks_cons, membersAfter]
      | cons second others =>
          have comma (t : List Char) : Ends (',' :: t) := by simp [Ends, digit?]
          have later := ih (by simp) (Nat.le_of_succ_le_succ enough)
          rw [List.intercalate_cons_cons, List.append_assoc, List.append_assoc,
            List.singleton_append, members?_member first (comma _)]
          simp [skipBlanks_cons, membersAfter, later]

theorem length_le_intercalate (texts : List (List Char)) :
    texts.length ≤ ([','].intercalate texts).length + 1 := by
  induction texts with
  | nil => simp
  | cons s texts ih =>
      cases texts with
      | nil => simp
      | cons t texts =>
          rw [List.intercalate_cons_cons]
          simp only [List.length_cons, List.length_append, List.length_nil] at ih ⊢
          omega

theorem value?_closing {depth : Nat} {s after : List Char} (closing : skipBlanks s = ']' :: after) :
    value? depth s = none := by
  rw [value?.eq_1, closing]
  simp [number?, digit?]

theorem items?_none {item : List Char → Option (Json × List Char)} {fuel : Nat} {s : List Char}
    (nothing : item s = none) : items? item fuel s = none := by
  cases fuel <;> simp [items?, nothing]

theorem reads_array {depth : Nat} {items : List Json} {texts : List (List Char)}
    (each : List.Forall₂ (Reads depth) items texts) {gap : List Char} (blank : Blank gap) :
    Reads (depth + 1) (.array items) ('[' :: ([','].intercalate texts ++ (gap ++ [']']))) := by
  intro rest _
  have start (t : List Char) : skipBlanks ('[' :: t) = '[' :: t := by simp [skipBlanks_cons]
  have finish : skipBlanks (gap ++ ']' :: rest) = ']' :: rest := by
    simp [blank.skip, skipBlanks_cons]
  simp only [List.cons_append, List.append_assoc, List.nil_append]
  rw [value?.eq_1, start]
  cases each with
  | nil => simp [finish]
  | @cons v s items texts first others =>
      have enough : (v :: items).length ≤
          ([','].intercalate (s :: texts) ++ (gap ++ ']' :: rest)).length := by
        have commas := length_le_intercalate (s :: texts)
        have same := others.length_eq
        simp only [List.length_append, List.length_cons] at commas ⊢
        omega
      have inside := items?_reads (.cons first others) (by simp) blank enough rest
      -- The text of the first item does not begin with the closing bracket.
      simp only
      split
      · rename_i after closing
        rw [items?_none (value?_closing closing)] at inside
        cases inside
      · rw [inside]
        rfl

theorem insert_of_absent {key : String} {value : Json} {members : List (String × Json)}
    (absent : key ∉ members.map (·.1)) : insert key value members = members ++ [(key, value)] := by
  induction members with
  | nil => rfl
  | cons m members ih =>
      rw [List.map_cons, List.mem_cons, not_or] at absent
      simp [insert, Ne.symm absent.1, ih absent.2]

theorem foldl_insert_of_nodup {before members : List (String × Json)}
    (distinct : ((before ++ members).map (·.1)).Nodup) :
    members.foldl (fun ms p => insert p.1 p.2 ms) before = before ++ members := by
  induction members generalizing before with
  | nil => simp
  | cons m members ih =>
      have absent : m.1 ∉ before.map (·.1) := by
        rw [List.map_append, List.map_cons, List.nodup_append] at distinct
        exact fun member => distinct.2.2 _ member _ List.mem_cons_self rfl
      rw [List.foldl_cons, insert_of_absent absent, ih (by simpa using distinct)]
      simp

theorem ofPairs_of_nodup {members : List (String × Json)} (distinct : (members.map (·.1)).Nodup) :
    ofPairs members = members :=
  foldl_insert_of_nodup distinct

theorem members?_none {item : List Char → Option (Json × List Char)} {fuel : Nat}
    {s after : List Char} (closing : skipBlanks s = '\x7d' :: after) :
    members? item fuel s = none := by
  cases fuel <;> simp [members?, closing]

theorem reads_object {depth : Nat} {members : List (String × Json)} {texts : List (List Char)}
    (each : List.Forall₂ (ReadsMember depth) members texts)
    (distinct : (members.map (·.1)).Nodup) {gap : List Char} (blank : Blank gap) :
    Reads (depth + 1) (.object members)
      ('\x7b' :: ([','].intercalate texts ++ (gap ++ ['\x7d']))) := by
  intro rest _
  have start (t : List Char) : skipBlanks ('\x7b' :: t) = '\x7b' :: t := by simp [skipBlanks_cons]
  have finish : skipBlanks (gap ++ '\x7d' :: rest) = '\x7d' :: rest := by
    simp [blank.skip, skipBlanks_cons]
  simp only [List.cons_append, List.append_assoc, List.nil_append]
  rw [value?.eq_1, start]
  cases each with
  | nil => simp [finish]
  | @cons m s members texts first others =>
      have enough : (m :: members).length ≤
          ([','].intercalate (s :: texts) ++ (gap ++ '\x7d' :: rest)).length := by
        have commas := length_le_intercalate (s :: texts)
        have same := others.length_eq
        simp only [List.length_append, List.length_cons] at commas ⊢
        omega
      have inside := members?_reads (.cons first others) (by simp) blank enough rest
      -- The text of the first member does not begin with the closing brace.
      simp only
      split
      · rename_i after closing
        rw [members?_none closing] at inside
        cases inside
      · rw [inside]
        simp [ofPairs_of_nodup distinct]

end Layering.Json
