import Layering.Proofs.Yaml.Same
import Layering.Yaml.Reader

/-!
# Well-formed values

A value is well formed when no mapping in it has two equal keys. The reader only gives such
values: `parse?_wellFormed`. In structures and tables a key counts as the text it is under its
tags, its name; `at?` follows names through mappings.
-/

namespace Layering.Yaml

/-! ## Keys -/

namespace Value

attribute [local simp] same

theorem same_string_left {s : String} {v : Value} :
    (Value.string s).same v = true ↔ v = .string s := by
  cases v with
  | string t => rw [same, beq_iff_eq, string.injEq, eq_comm]
  | _ => simp

theorem same_string_right {s : String} {v : Value} :
    v.same (.string s) = true ↔ v = .string s := by
  cases v with
  | string t => simp
  | _ => simp

@[simp] theorem same_string (s t : String) : (Value.string s).same (.string t) = decide (s = t) := by
  rw [same, Bool.beq_eq_decide_eq]

/-- The text a key is under its tags. -/
def name? (key : Value) : Option String := key.untagged.string?

@[simp] theorem name?_string (s : String) : (Value.string s).name? = some s := rfl

theorem name?_of_same : ∀ (k : Value) {k' : Value}, k.same k' = true → k.name? = k'.name?
  | .tagged s v, k', equal => by
      cases k' with
      | tagged t w =>
          rw [same, Bool.and_eq_true] at equal
          have inner := name?_of_same v equal.2
          exact inner
      | _ => simp at equal
  | .string s, k', equal => by rw [same_string_left.1 equal]
  | .null, k', equal => by cases k' <;> simp_all
  | .bool b, k', equal => by cases k' <;> simp_all
  | .int n, k', equal => by
      cases k' with
      | int m => rfl
      | _ => simp at equal
  | .float x, k', equal => by
      cases k' with
      | float y => rfl
      | _ => simp at equal
  | .sequence items, k', equal => by
      cases k' with
      | sequence items' => rfl
      | _ => simp at equal
  | .mapping entries, k', equal => by
      cases k' with
      | mapping entries' => rfl
      | _ => simp at equal

end Value

namespace Entries

/-- No two keys are equal. -/
def DistinctKeys (entries : Entries) : Prop :=
  entries.Pairwise fun a b => a.1.same b.1 = false

theorem get?_eq_none_iff {key : Value} {entries : Entries} :
    get? key entries = none ↔ ∀ e ∈ entries, e.1.same key = false := by
  induction entries with
  | nil => simp [get?]
  | cons e rest ih =>
      cases equal : e.1.same key with
      | true => simp [get?, equal]
      | false => simp [get?, equal, ih]

theorem mem_of_get? {key v : Value} {entries : Entries} (found : get? key entries = some v) :
    ∃ e ∈ entries, e.1.same key = true ∧ e.2 = v := by
  induction entries with
  | nil => simp [get?] at found
  | cons e rest ih =>
      rw [get?] at found
      split at found
      · rename_i equal
        exact ⟨e, List.mem_cons_self, equal, Option.some.inj found⟩
      · obtain ⟨e', member, equal, value⟩ := ih found
        exact ⟨e', List.mem_cons_of_mem _ member, equal, value⟩

theorem mem_of_find? {name : String} {v : Value} {entries : Entries}
    (found : find? name entries = some v) : (.string name, v) ∈ entries := by
  obtain ⟨e, member, equal, rfl⟩ := mem_of_get? found
  rwa [← Value.same_string_right.1 equal]

theorem get?_of_mem {entries : Entries} (distinct : DistinctKeys entries) {e : Value × Value}
    (member : e ∈ entries) : get? e.1 entries = some e.2 := by
  induction entries with
  | nil => simp at member
  | cons first rest ih =>
      obtain ⟨apart, distinct⟩ := List.pairwise_cons.1 distinct
      rcases List.mem_cons.1 member with rfl | later
      · simp [get?, Value.same_refl]
      · simpa [get?, apart e later] using ih distinct later

theorem find?_of_mem {name : String} {v : Value} {entries : Entries} (distinct : DistinctKeys entries)
    (member : (.string name, v) ∈ entries) : find? name entries = some v :=
  get?_of_mem distinct member

/-- The value under the last key with a name. -/
def named? (name : String) : Entries → Option Value
  | [] => none
  | (key, v) :: rest => (named? name rest).or (if key.name? = some name then some v else none)

theorem named?_eq_none_iff {name : String} {entries : Entries} :
    named? name entries = none ↔ ∀ e ∈ entries, e.1.name? ≠ some name := by
  induction entries with
  | nil => simp [named?]
  | cons e rest ih => simp [named?, ih, and_comm]

theorem named?_append (name : String) (xs ys : Entries) :
    named? name (xs ++ ys) = (named? name ys).or (named? name xs) := by
  induction xs with
  | nil => simp [named?]
  | cons x xs ih => rw [List.cons_append, named?, ih, named?, Option.or_assoc]

theorem mem_of_named? {name : String} {v : Value} {entries : Entries}
    (found : named? name entries = some v) : ∃ e ∈ entries, e.1.name? = some name ∧ e.2 = v := by
  induction entries with
  | nil => simp [named?] at found
  | cons e rest ih =>
      rw [named?, Option.or_eq_some_iff] at found
      rcases found with later | ⟨-, here⟩
      · obtain ⟨e', member, called, value⟩ := ih later
        exact ⟨e', List.mem_cons_of_mem _ member, called, value⟩
      · split at here
        · rename_i called
          exact ⟨e, List.mem_cons_self, called, Option.some.inj here⟩
        · cases here

/-- Where only plain keys have the name, the name finds what the plain key does. -/
theorem named?_eq_find? {name : String} {entries : Entries} (distinct : DistinctKeys entries)
    (plain : ∀ e ∈ entries, e.1.name? = some name → e.1 = .string name) :
    named? name entries = find? name entries := by
  cases found : named? name entries with
  | none =>
      rw [named?_eq_none_iff] at found
      refine (get?_eq_none_iff.2 fun e member => ?_).symm
      rw [Bool.eq_false_iff, ne_eq, Value.same_string_right]
      intro key
      exact found e member (by rw [key, Value.name?_string])
  | some v =>
      obtain ⟨e, member, called, rfl⟩ := mem_of_named? found
      rw [find?_of_mem distinct]
      rwa [← plain e member called]

end Entries

/-! ## Well-formedness -/

mutual

/-- No mapping in the value has two equal keys. -/
def Value.WellFormed : Value → Prop
  | .sequence items => itemsWellFormed items
  | .mapping entries => Entries.DistinctKeys entries ∧ entriesWellFormed entries
  | .tagged _ v => v.WellFormed
  | _ => True

def itemsWellFormed : List Value → Prop
  | [] => True
  | v :: rest => v.WellFormed ∧ itemsWellFormed rest

def entriesWellFormed : List (Value × Value) → Prop
  | [] => True
  | (k, v) :: rest => k.WellFormed ∧ v.WellFormed ∧ entriesWellFormed rest

end

theorem itemsWellFormed_iff {items : List Value} :
    itemsWellFormed items ↔ ∀ v ∈ items, v.WellFormed := by
  induction items with
  | nil => simp [itemsWellFormed]
  | cons v rest ih => simp [itemsWellFormed, ih]

theorem entriesWellFormed_iff {entries : Entries} :
    entriesWellFormed entries ↔ ∀ e ∈ entries, e.1.WellFormed ∧ e.2.WellFormed := by
  induction entries with
  | nil => simp [entriesWellFormed]
  | cons e rest ih => simp [entriesWellFormed, ih, and_assoc]

namespace Value

theorem wellFormed_sequence_iff {items : List Value} :
    (Value.sequence items).WellFormed ↔ ∀ v ∈ items, v.WellFormed := by
  rw [WellFormed, itemsWellFormed_iff]

theorem wellFormed_mapping_iff {entries : Entries} :
    (Value.mapping entries).WellFormed ↔
      entries.DistinctKeys ∧ ∀ e ∈ entries, e.1.WellFormed ∧ e.2.WellFormed := by
  rw [WellFormed, entriesWellFormed_iff]

theorem WellFormed.distinctKeys {entries : Entries} (h : (Value.mapping entries).WellFormed) :
    entries.DistinctKeys :=
  (wellFormed_mapping_iff.1 h).1

theorem WellFormed.same_symm {v w : Value} (wellFormed : v.WellFormed) (equal : v.same w = true) :
    w.same v = true := by
  induction v generalizing w with
  | null | bool | int | string =>
      rw [eq_of_same_scalar rfl equal]
      exact same_refl _
  | float x =>
      obtain ⟨y, rfl, numbers⟩ := same_float_left.1 equal
      exact same_float_left.2 ⟨x, rfl, Number.Binary64.same_symm numbers⟩
  | sequence items ih =>
      obtain ⟨items', rfl, pairs⟩ := same_sequence_left.1 equal
      rw [wellFormed_sequence_iff] at wellFormed
      refine same_sequence_left.2 ⟨items, rfl, forall₂_same_symm ?_ pairs⟩
      exact fun v member {_} equal => ih v member (wellFormed v member) equal
  | mapping entries ih =>
      obtain ⟨entries', rfl, -⟩ := same_mapping_left.1 equal
      obtain ⟨distinct, inside⟩ := wellFormed_mapping_iff.1 wellFormed
      refine same_mapping_symm distinct (fun e member {_} => ?_) equal
      exact ⟨(ih e member).1 (inside e member).1, (ih e member).2 (inside e member).2⟩
  | tagged tag v ih =>
      obtain ⟨v', rfl, inner⟩ := same_tagged_left.1 equal
      exact same_tagged_left.2 ⟨v, rfl, ih wellFormed inner⟩

/-- A mapping stays well formed when a key that it does not have is added at the end. -/
theorem WellFormed.concat {entries : Entries} {key value : Value}
    (h : (Value.mapping entries).WellFormed) (absent : Entries.get? key entries = none)
    (keyWellFormed : key.WellFormed) (valueWellFormed : value.WellFormed) :
    (Value.mapping (entries ++ [(key, value)])).WellFormed := by
  rw [Entries.get?_eq_none_iff] at absent
  obtain ⟨distinct, inside⟩ := wellFormed_mapping_iff.1 h
  refine wellFormed_mapping_iff.2 ⟨?_, ?_⟩
  · exact List.pairwise_append.2 ⟨distinct, List.pairwise_singleton _ _, by simpa using absent⟩
  · intro e member
    rcases List.mem_append.1 member with earlier | last
    · exact inside e earlier
    · rw [List.mem_singleton.1 last]
      exact ⟨keyWellFormed, valueWellFormed⟩

theorem WellFormed.named? {entries : Entries} (h : (Value.mapping entries).WellFormed)
    {name : String} {v : Value} (found : entries.named? name = some v) : v.WellFormed := by
  obtain ⟨e, member, -, rfl⟩ := Entries.mem_of_named? found
  exact ((wellFormed_mapping_iff.1 h).2 e member).2

theorem WellFormed.find? {entries : Entries} (h : (Value.mapping entries).WellFormed)
    {name : String} {v : Value} (found : entries.find? name = some v) : v.WellFormed :=
  ((wellFormed_mapping_iff.1 h).2 _ (Entries.mem_of_find? found)).2

end Value

/-! ## Paths -/

namespace Value

/-- What a path of names leads to, through mappings. -/
def at? (v : Value) : List String → Option Value
  | [] => some v
  | name :: path => v.entries?.bind fun entries => (Entries.named? name entries).bind (at? · path)

/-- The entries of the mapping that a path of names leads to; none without one. -/
def entriesAt (v : Value) (path : List String) : Entries := ((v.at? path).bind entries?).getD []

theorem at?_concat (v : Value) (path : List String) (name : String) :
    v.at? (path ++ [name]) = (v.entriesAt path).named? name := by
  induction path generalizing v with
  | nil => cases v <;> simp [at?, entriesAt, entries?, Entries.named?]
  | cons first path ih =>
      rw [entriesAt, List.cons_append, at?, at?]
      cases v.entries? with
      | none => rfl
      | some entries =>
          simp only [Option.bind_some, ih]
          cases Entries.named? first entries with
          | none => rfl
          | some w => rfl

theorem WellFormed.at? {v : Value} (wellFormed : v.WellFormed) {path : List String} {w : Value}
    (found : v.at? path = some w) : w.WellFormed := by
  induction path generalizing v with
  | nil =>
      cases found
      exact wellFormed
  | cons name path ih =>
      rw [Value.at?, Option.bind_eq_some_iff] at found
      obtain ⟨entries, isMapping, found⟩ := found
      obtain ⟨next, first, later⟩ := Option.bind_eq_some_iff.1 found
      cases v with
      | mapping entries' =>
          cases isMapping
          exact ih (wellFormed.named? first) later
      | _ => simp [entries?] at isMapping

theorem WellFormed.entriesAt {v : Value} (wellFormed : v.WellFormed) (path : List String) :
    (Value.mapping (v.entriesAt path)).WellFormed := by
  rw [Value.entriesAt]
  cases found : v.at? path with
  | none => exact wellFormed_mapping_iff.2 ⟨.nil, by simp⟩
  | some w =>
      have inside := wellFormed.at? found
      cases w with
      | mapping entries => exact inside
      | _ => exact wellFormed_mapping_iff.2 ⟨.nil, by simp [entries?]⟩

/-- Whether there is a mapping at the end of a path, if there is anything. -/
def mappingAt (v : Value) (path : List String) : Bool :=
  (v.at? path).all fun w => w.entries?.isSome

/-- Whether there is a mapping or null at the end of a path, if there is anything. -/
def mappingOrNullAt (v : Value) (path : List String) : Bool :=
  (v.at? path).all fun w => w.entries?.isSome || w matches .null

end Value

/-! ## The reader -/

theorem resolvePlain_wellFormed {text : String} {v : Value} (read : resolvePlain text = some v) :
    v.WellFormed := by
  unfold resolvePlain at read
  grind [Value.WellFormed, Option.map_eq_some_iff]

theorem scalarValue_wellFormed {text : String} {plain : Bool} {tag : Option String} {v : Value}
    (read : scalarValue text plain tag = some v) : v.WellFormed := by
  unfold scalarValue at read
  grind [Value.WellFormed, Option.map_eq_some_iff, resolvePlain_wellFormed]

/-- What a node or a list of nodes is composed to is well formed. The keys read before keep
apart because each new key is looked up among them. -/
theorem compose_wellFormed (m : Marks) (fuel : Nat) :
    (∀ depth n jumps v after, compose m depth fuel n jumps = some (v, after) → v.WellFormed) ∧
      (∀ depth items jumps vs after, composeItems m depth fuel items jumps = some (vs, after) →
        ∀ v ∈ vs, v.WellFormed) ∧
      (∀ depth entries done jumps es after,
        composeEntries m depth fuel entries done jumps = some (es, after) →
        (Value.mapping done).WellFormed → (Value.mapping es).WellFormed) := by
  induction fuel with
  | zero => simp [compose, composeItems, composeEntries]
  | succ fuel ih =>
      obtain ⟨node, items, entries⟩ := ih
      refine ⟨?_, ?_, ?_⟩
      · intro depth n jumps v after read
        cases n with
        | reference number =>
            simp only [compose] at read
            split at read
            · cases read
            · obtain ⟨target, -, read⟩ := Option.bind_eq_some_iff.1 read
              exact node _ _ _ _ _ read
        | scalar text plain tag =>
            simp only [compose] at read
            split at read
            all_goals
              obtain ⟨w, scalar, equal⟩ := Option.map_eq_some_iff.1 read
              have whole := scalarValue_wellFormed scalar
              cases equal
              exact whole
        | sequence nodes tag =>
            cases depth with
            | zero => simp [compose] at read
            | succ depth =>
                simp only [compose] at read
                obtain ⟨⟨vs, jumps'⟩, inner, equal⟩ := Option.map_eq_some_iff.1 read
                have whole : (Value.sequence vs).WellFormed :=
                  Value.wellFormed_sequence_iff.2 (items _ _ _ _ _ inner)
                split at equal <;> cases equal <;> exact whole
        | mapping nodes tag =>
            cases depth with
            | zero => simp [compose] at read
            | succ depth =>
                simp only [compose] at read
                obtain ⟨⟨es, jumps'⟩, inner, equal⟩ := Option.map_eq_some_iff.1 read
                have whole : (Value.mapping es).WellFormed :=
                  entries _ _ _ _ _ _ inner (Value.wellFormed_mapping_iff.2 ⟨.nil, by simp⟩)
                split at equal <;> cases equal <;> exact whole
      · intro depth nodes jumps vs after read
        cases nodes with
        | nil =>
            simp only [composeItems, Option.some.injEq, Prod.mk.injEq] at read
            simp [← read.1]
        | cons n rest =>
            simp only [composeItems] at read
            obtain ⟨⟨v, jumps'⟩, first, read⟩ := Option.bind_eq_some_iff.1 read
            obtain ⟨⟨ws, jumps''⟩, others, equal⟩ := Option.map_eq_some_iff.1 read
            cases equal
            exact List.forall_mem_cons.2 ⟨node _ _ _ _ _ first, items _ _ _ _ _ others⟩
      · intro depth nodes done jumps es after read wellFormed
        cases nodes with
        | nil =>
            simp only [composeEntries, Option.some.injEq, Prod.mk.injEq] at read
            rwa [← read.1]
        | cons n rest =>
            obtain ⟨k, v⟩ := n
            simp only [composeEntries] at read
            obtain ⟨⟨key, jumps'⟩, keyRead, read⟩ := Option.bind_eq_some_iff.1 read
            split at read
            · cases read
            · rename_i absent
              obtain ⟨⟨value, jumps''⟩, valueRead, read⟩ := Option.bind_eq_some_iff.1 read
              exact entries _ _ _ _ _ _ read (wellFormed.concat
                (Option.not_isSome_iff_eq_none.1 absent) (node _ _ _ _ _ keyRead)
                (node _ _ _ _ _ valueRead))

theorem parse?_wellFormed {text : String} {v : Value} (parsed : parse? text = some v) :
    v.WellFormed := by
  obtain ⟨tokens, -, parsed⟩ := Option.bind_eq_some_iff.1 parsed
  obtain ⟨document, -, parsed⟩ := Option.bind_eq_some_iff.1 parsed
  cases document with
  | none =>
      cases parsed
      trivial
  | some document =>
      obtain ⟨⟨root, jumps⟩, composed, rfl⟩ := Option.map_eq_some_iff.1 parsed
      exact (compose_wellFormed _ _).1 _ _ _ _ _ composed

/-- The tokens of a text as a function of its characters. -/
def tokensOf? (chars : List Char) : Option (List Token) :=
  let chars := match chars with
    | c :: rest => if c.toNat == 0xFEFF then rest else c :: rest
    | [] => []
  if chars.all isYamlChar then Lexer.run (chars.length + 2) { cursor := { rest := chars } }
  else none

theorem tokens?_eq (text : String) : tokens? text = tokensOf? text.toList := rfl

end Layering.Yaml
