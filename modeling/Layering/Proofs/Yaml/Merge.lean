import Layering.Proofs.Yaml.WellFormed
import Layering.Yaml.Merge
import Mathlib.Data.List.Pairwise

/-!
# Looking into a merge

Under a key that is told apart from the others, as every plain one is, a merge holds what `layered`
makes of the two values there (`get?_mergeEntries`). Under a name that the base has as a plain key
and that no other key of the merge shares, the same holds of names. An overlay that begins with the
keys of the base leaves their values merged and its further keys as they are:
`mergeEntries_covering`.
-/

namespace Layering.Yaml

/-- Of two values the higher one, if there is one; two mappings are merged. -/
def layered : Option Value → Option Value → Option Value
  | low, none => low
  | some (.mapping low), some (.mapping high) => some (.mapping (mergeEntries low high))
  | _, some high => some high

@[simp] theorem layered_none (low : Option Value) : layered low none = low := by
  unfold layered
  rfl

@[simp] theorem none_layered (high : Option Value) : layered none high = high := by
  cases high with
  | none => rfl
  | some high => simp [layered]

theorem layered_some (low high : Value) : layered (some low) (some high) = some (merge low high) := by
  cases low with
  | mapping low => cases high <;> simp [layered, merge]
  | _ => simp [layered, merge]

@[simp] theorem mergeEntries_nil (base : Entries) : mergeEntries base [] = base := by
  rw [mergeEntries]

/-! ## Keys that can be told apart -/

/-- Among some keys, those that are the same as `k` are the same as each other and as no other. -/
def Value.Decisive (k : Value) (keys : List Value) : Prop :=
  ∀ a ∈ keys, ∀ b ∈ keys, a.same k = true → (b.same k = true ↔ a.same b = true)

theorem Value.Decisive.mono {k : Value} {keys keys' : List Value} (decisive : k.Decisive keys)
    (inside : ∀ a ∈ keys', a ∈ keys) : k.Decisive keys' :=
  fun a inA b inB => decisive a (inside a inA) b (inside b inB)

theorem Value.decisive_string (s : String) (keys : List Value) : (Value.string s).Decisive keys := by
  intro a _ b _ equal
  rw [same_string_right.1 equal, same_string_right, same_string_left]

theorem Value.decisive_of_wellFormed {keys : List Value} (wellFormed : ∀ a ∈ keys, a.WellFormed)
    (k : Value) : k.Decisive keys := by
  intro a inA b inB equal
  constructor
  · intro other
    exact same_trans equal ((wellFormed b inB).same_symm other)
  · intro alike
    exact same_trans ((wellFormed a inA).same_symm alike) equal

namespace Entries

/-! ## Insertion -/

theorem get?_of_same {key k : Value} {entries : Entries}
    (decisive : k.Decisive (key :: entries.map (·.1))) (equal : key.same k = true) :
    get? key entries = get? k entries := by
  induction entries with
  | nil => rfl
  | cons e rest ih =>
      have here : e.1.same k = true → (key.same k = true ↔ e.1.same key = true) :=
        decisive e.1 (by simp) key (by simp)
      have alike : e.1.same key = e.1.same k :=
        Bool.eq_iff_iff.2 ⟨fun h => Value.same_trans h equal, fun h => (here h).1 equal⟩
      rw [get?, get?, alike, ih (decisive.mono (by simp; tauto))]

theorem get?_insert {key k : Value} {entries : Entries}
    (decisive : k.Decisive (key :: entries.map (·.1))) (value : Value) :
    get? k (insert key value entries) = if key.same k then some value else get? k entries := by
  induction entries with
  | nil => simp [insert, get?]
  | cons e rest ih =>
      have here : e.1.same k = true → (key.same k = true ↔ e.1.same key = true) :=
        decisive e.1 (by simp) key (by simp)
      have later := ih (decisive.mono (by simp; tauto))
      cases equal : e.1.same key with
      | true =>
          have alike : e.1.same k = key.same k :=
            Bool.eq_iff_iff.2 ⟨fun h => (here h).2 equal, fun h => Value.same_trans equal h⟩
          cases found : key.same k <;> simp [insert, get?, equal, alike, found]
      | false =>
          cases found : e.1.same k with
          | true =>
              have other : key.same k = false := by
                rw [Bool.eq_false_iff, ne_eq, here found, equal]
                exact Bool.false_ne_true
              simp [insert, get?, equal, found, other]
          | false => simp [insert, get?, equal, found, later]

theorem insert_of_absent {key : Value} (value : Value) {entries : Entries}
    (absent : get? key entries = none) : insert key value entries = entries ++ [(key, value)] := by
  induction entries with
  | nil => rfl
  | cons e rest ih =>
      rw [get?_eq_none_iff, List.forall_mem_cons, ← get?_eq_none_iff] at absent
      simp [insert, absent.1, ih absent.2]

theorem distinctKeys_iff {entries : Entries} :
    DistinctKeys entries ↔ (entries.map (·.1)).Pairwise fun a b => a.same b = false := by
  rw [List.pairwise_map, DistinctKeys]

theorem get?_append_of_absent {key : Value} {xs : Entries} (absent : get? key xs = none)
    (ys : Entries) : get? key (xs ++ ys) = get? key ys := by
  induction xs with
  | nil => rfl
  | cons x xs ih =>
      rw [get?_eq_none_iff, List.forall_mem_cons, ← get?_eq_none_iff] at absent
      simpa [get?, absent.1] using ih absent.2

theorem insert_append_of_absent {key : Value} (value : Value) {xs : Entries}
    (absent : get? key xs = none) (ys : Entries) :
    insert key value (xs ++ ys) = xs ++ insert key value ys := by
  induction xs with
  | nil => rfl
  | cons x xs ih =>
      rw [get?_eq_none_iff, List.forall_mem_cons, ← get?_eq_none_iff] at absent
      simp [insert, absent.1, ih absent.2]

theorem keys_insert_of_present {key : Value} (value : Value) {entries : Entries}
    (present : get? key entries ≠ none) :
    (insert key value entries).map (·.1) = entries.map (·.1) := by
  induction entries with
  | nil => simp [get?] at present
  | cons e rest ih =>
      cases equal : e.1.same key with
      | true => simp [insert, equal]
      | false =>
          rw [get?, equal] at present
          simpa [insert, equal] using ih present

/-- Insertion keeps the keys there are, in order, and adds at most one. -/
theorem prefix_keys_insert (key value : Value) (entries : Entries) :
    entries.map (·.1) <+: (insert key value entries).map (·.1) := by
  by_cases present : get? key entries = none
  · rw [insert_of_absent value present, List.map_append]
    exact List.prefix_append _ _
  · simp only [keys_insert_of_present value present, List.prefix_rfl]

theorem mem_keys_insert {key value k : Value} {entries : Entries}
    (member : k ∈ (insert key value entries).map (·.1)) : k ∈ entries.map (·.1) ∨ k = key := by
  by_cases present : get? key entries = none
  · simpa [insert_of_absent value present] using member
  · rw [keys_insert_of_present value present] at member
    exact .inl member

theorem mem_insert {key value : Value} {entries : Entries} {e : Value × Value}
    (member : e ∈ insert key value entries) : e ∈ entries ∨ e.2 = value := by
  induction entries with
  | nil => exact .inr (by rw [List.mem_singleton.1 member])
  | cons first rest ih =>
      rw [insert] at member
      split at member
      · rcases List.mem_cons.1 member with rfl | later
        · exact .inr rfl
        · exact .inl (List.mem_cons_of_mem _ later)
      · rcases List.mem_cons.1 member with rfl | later
        · exact .inl List.mem_cons_self
        · exact (ih later).imp_left (List.mem_cons_of_mem _)

theorem exists_key_insert (key value : Value) (entries : Entries) :
    ∃ k ∈ (insert key value entries).map (·.1), k.same key = true := by
  cases found : get? key entries with
  | none =>
      rw [insert_of_absent value found]
      exact ⟨key, by simp, Value.same_refl key⟩
  | some old =>
      obtain ⟨e, member, equal, -⟩ := mem_of_get? found
      rw [keys_insert_of_present value (by simp [found])]
      exact ⟨e.1, List.mem_map_of_mem member, equal⟩

theorem named?_insert_other {name : String} {key : Value} (other : key.name? ≠ some name)
    (value : Value) (entries : Entries) :
    named? name (insert key value entries) = named? name entries := by
  induction entries with
  | nil => simp [insert, named?, other]
  | cons e rest ih =>
      cases equal : e.1.same key with
      | true =>
          have called : e.1.name? ≠ some name := by rwa [Value.name?_of_same _ equal]
          simp [insert, named?, equal, called]
      | false => simp [insert, named?, equal, ih]

end Entries

open Entries

theorem Value.WellFormed.insert {entries : Entries} {key value : Value}
    (wellFormed : (Value.mapping entries).WellFormed) (keyWellFormed : key.WellFormed)
    (valueWellFormed : value.WellFormed) :
    (Value.mapping (Entries.insert key value entries)).WellFormed := by
  obtain ⟨distinct, inside⟩ := wellFormed_mapping_iff.1 wellFormed
  by_cases present : get? key entries = none
  · rw [insert_of_absent value present]
    exact wellFormed.concat present keyWellFormed valueWellFormed
  · refine wellFormed_mapping_iff.2 ⟨?_, fun e member => ⟨?_, ?_⟩⟩
    · rwa [distinctKeys_iff, keys_insert_of_present value present, ← distinctKeys_iff]
    · have inKeys := List.mem_map_of_mem (f := fun e => e.1) member
      rw [keys_insert_of_present value present] at inKeys
      obtain ⟨e', member', same⟩ := List.mem_map.1 inKeys
      rw [← same]
      exact (inside e' member').1
    · rcases mem_insert member with old | new
      · exact (inside e old).2
      · rwa [new]

/-! ## One entry of an overlay -/

/-- The entries after one entry of an overlay is merged. -/
def mergeEntry (base : Entries) (key value : Value) : Entries :=
  match Entries.get? key base with
  | some old => Entries.insert key (merge old value) base
  | none => Entries.insert key value base

theorem mergeEntries_cons (base : Entries) (key value : Value) (rest : Entries) :
    mergeEntries base ((key, value) :: rest) = mergeEntries (mergeEntry base key value) rest := by
  rw [mergeEntries]
  rfl

theorem mergeEntry_eq_insert (base : Entries) (key value : Value) :
    ∃ merged, mergeEntry base key value = insert key merged base := by
  unfold mergeEntry
  split
  · exact ⟨_, rfl⟩
  · exact ⟨_, rfl⟩

theorem mergeEntry_of_absent {base : Entries} {key : Value} (absent : get? key base = none)
    (value : Value) : mergeEntry base key value = base ++ [(key, value)] := by
  simp only [mergeEntry, absent, insert_of_absent value absent]

theorem mem_keys_mergeEntry {base : Entries} {key value k : Value}
    (member : k ∈ (mergeEntry base key value).map (·.1)) : k ∈ base.map (·.1) ∨ k = key := by
  obtain ⟨merged, inserted⟩ := mergeEntry_eq_insert base key value
  rw [inserted] at member
  exact mem_keys_insert member

section Decisive

variable {k key : Value} {base : Entries} {keys : List Value}
  (decisive : k.Decisive (base.map (·.1) ++ key :: keys))
include decisive

theorem Value.Decisive.entry : k.Decisive (key :: base.map (·.1)) :=
  decisive.mono fun a member => by
    rcases List.mem_cons.1 member with rfl | inBase
    · simp
    · exact List.mem_append_left _ inBase

theorem Value.Decisive.mergeEntry (value : Value) :
    k.Decisive ((mergeEntry base key value).map (·.1) ++ keys) :=
  decisive.mono fun a member => by
    rcases List.mem_append.1 member with merged | later
    · rcases mem_keys_mergeEntry merged with inBase | rfl
      · exact List.mem_append_left _ inBase
      · simp
    · exact List.mem_append_right _ (List.mem_cons_of_mem _ later)

end Decisive

theorem get?_mergeEntry {base : Entries} {key k : Value}
    (decisive : k.Decisive (key :: base.map (·.1))) (value : Value) :
    get? k (mergeEntry base key value) =
      if key.same k then layered (get? k base) (some value) else get? k base := by
  unfold mergeEntry
  cases equal : key.same k with
  | false => split <;> simp [get?_insert decisive, equal]
  | true =>
      rw [← get?_of_same decisive equal]
      cases found : get? key base with
      | some old => simp [get?_insert decisive, equal, layered_some]
      | none => simp [get?_insert decisive, equal]

/-! ## Whole overlays -/

theorem get?_mergeEntries {k : Value} {base overlay : Entries}
    (decisive : k.Decisive (base.map (·.1) ++ overlay.map (·.1)))
    (distinct : overlay.DistinctKeys) :
    get? k (mergeEntries base overlay) = layered (get? k base) (get? k overlay) := by
  induction overlay generalizing base with
  | nil => simp [get?]
  | cons e rest ih =>
      obtain ⟨key, value⟩ := e
      obtain ⟨apart, distinct⟩ := List.pairwise_cons.1 distinct
      rw [mergeEntries_cons, ih (decisive.mergeEntry value) distinct,
        get?_mergeEntry decisive.entry]
      cases equal : key.same k with
      | false => simp [get?, equal]
      | true =>
          have absent : get? k rest = none := by
            refine get?_eq_none_iff.2 fun e member => ?_
            have inRest := List.mem_map_of_mem (f := fun e => e.1) member
            rw [Bool.eq_false_iff, ne_eq, decisive key (by simp) e.1 (by simp [inRest]) equal,
              apart e member]
            exact Bool.false_ne_true
          simp [get?, equal, absent]

theorem find?_mergeEntries (name : String) (base : Entries) {overlay : Entries}
    (distinct : overlay.DistinctKeys) :
    find? name (mergeEntries base overlay) = layered (find? name base) (find? name overlay) :=
  get?_mergeEntries (Value.decisive_string name _) distinct

theorem prefix_keys_mergeEntries (base overlay : Entries) :
    base.map (·.1) <+: (mergeEntries base overlay).map (·.1) := by
  induction overlay generalizing base with
  | nil => simp
  | cons e rest ih =>
      obtain ⟨key, value⟩ := e
      obtain ⟨merged, inserted⟩ := mergeEntry_eq_insert base key value
      rw [mergeEntries_cons, inserted]
      exact (prefix_keys_insert key merged base).trans (ih _)

/-- Each key of an overlay is equal to a key of the merge. -/
theorem exists_key_mergeEntries (base : Entries) {overlay : Entries} {e : Value × Value}
    (member : e ∈ overlay) :
    ∃ k ∈ (mergeEntries base overlay).map (·.1), k.same e.1 = true := by
  induction overlay generalizing base with
  | nil => simp at member
  | cons first rest ih =>
      obtain ⟨key, value⟩ := first
      rw [mergeEntries_cons]
      rcases List.mem_cons.1 member with rfl | later
      · obtain ⟨merged, inserted⟩ := mergeEntry_eq_insert base key value
        obtain ⟨k, found, equal⟩ := exists_key_insert key merged base
        rw [inserted]
        exact ⟨k, (prefix_keys_mergeEntries _ rest).subset found, equal⟩
      · exact ih _ later

theorem mergeEntries_of_disjoint {base overlay : Entries}
    (distinct : Entries.DistinctKeys (base ++ overlay)) :
    mergeEntries base overlay = base ++ overlay := by
  induction overlay generalizing base with
  | nil => simp
  | cons e rest ih =>
      obtain ⟨key, value⟩ := e
      have absent : get? key base = none :=
        get?_eq_none_iff.2 fun e member =>
          (List.pairwise_append.1 distinct).2.2 e member _ List.mem_cons_self
      rw [mergeEntries_cons, mergeEntry_of_absent absent, ih (by simpa using distinct)]
      simp

theorem mergeEntry_present {done : Entries} {key : Value} (absent : get? key done = none)
    (old new : Value) (rest : Entries) :
    mergeEntry (done ++ (key, old) :: rest) key new = done ++ (key, merge old new) :: rest := by
  have found : get? key (done ++ (key, old) :: rest) = some old := by
    simp [get?_append_of_absent absent, get?, Value.same_refl]
  simp only [mergeEntry, found, insert_append_of_absent _ absent, Entries.insert, Value.same_refl,
    if_true]

/-- `mergeEntries_covering` with entries in front that the overlay does not touch. -/
theorem mergeEntries_covering_after {base overlay extra : Entries} (done : Entries)
    (keys : overlay.map (·.1) = base.map (·.1))
    (distinct : Entries.DistinctKeys (done ++ (overlay ++ extra))) :
    mergeEntries (done ++ base) (overlay ++ extra) =
      done ++
        (List.zipWith (fun low high => (low.1, merge low.2 high.2)) base overlay ++ extra) := by
  induction base generalizing overlay done with
  | nil =>
      rw [List.map_nil, List.map_eq_nil_iff] at keys
      subst keys
      simpa using mergeEntries_of_disjoint (by simpa using distinct)
  | cons low base ih =>
      cases overlay with
      | nil => simp at keys
      | cons high overlay =>
          obtain ⟨key, new⟩ := high
          obtain ⟨key', old⟩ := low
          rw [List.map_cons, List.map_cons, List.cons.injEq] at keys
          obtain ⟨rfl, keys⟩ := keys
          have absent : get? key done = none :=
            get?_eq_none_iff.2 fun e member =>
              (List.pairwise_append.1 distinct).2.2 e member _ List.mem_cons_self
          have later := ih (done ++ [(key, merge old new)]) keys
            (by simpa [distinctKeys_iff] using distinct)
          rw [List.cons_append, mergeEntries_cons, mergeEntry_present absent]
          simpa using later

/-- An overlay that begins with the keys of the base: their values are merged, and the further
entries follow as they are. -/
theorem mergeEntries_covering {base overlay extra : Entries}
    (keys : overlay.map (·.1) = base.map (·.1))
    (distinct : Entries.DistinctKeys (overlay ++ extra)) :
    mergeEntries base (overlay ++ extra) =
      List.zipWith (fun low high => (low.1, merge low.2 high.2)) base overlay ++ extra :=
  mergeEntries_covering_after [] keys distinct

theorem merge_empty {v : Value} (wellFormed : v.WellFormed) : merge (.mapping []) v = v := by
  cases v with
  | mapping entries =>
      rw [merge, mergeEntries_of_disjoint (by simpa using wellFormed.distinctKeys), List.nil_append]
  | _ => simp [merge]

theorem merge_of_not_mapping {low : Value} (plain : low.entries? = none) (high : Value) :
    merge low high = high := by
  cases low with
  | mapping entries => simp [Value.entries?] at plain
  | _ => simp [merge]

theorem zipWith_merge_of_yields {base front : Entries} (keys : front.map (·.1) = base.map (·.1))
    (yields : ∀ low ∈ base, ∀ high ∈ front, low.1 = high.1 → merge low.2 high.2 = high.2) :
    List.zipWith (fun low high => (low.1, merge low.2 high.2)) base front = front := by
  induction base generalizing front with
  | nil =>
      rw [List.map_nil, List.map_eq_nil_iff] at keys
      rw [keys, List.zipWith_nil_left]
  | cons low base ih =>
      cases front with
      | nil => simp at keys
      | cons high front =>
          rw [List.map_cons, List.map_cons, List.cons.injEq] at keys
          have later := ih keys.2 fun low inBase high inFront =>
            yields low (List.mem_cons_of_mem _ inBase) high (List.mem_cons_of_mem _ inFront)
          have here := yields low List.mem_cons_self high List.mem_cons_self keys.1.symm
          rw [List.zipWith_cons_cons, later, here, ← keys.1]

/-- Entries that begin with the keys of the base and whose values absorb the base's stay as they
are. -/
theorem mergeEntries_of_yields {base entries : Entries}
    (covered : base.map (·.1) <+: entries.map (·.1)) (distinct : entries.DistinctKeys)
    (yields : ∀ low ∈ base, ∀ high ∈ entries, low.1 = high.1 → merge low.2 high.2 = high.2) :
    mergeEntries base entries = entries := by
  obtain ⟨keys, split⟩ := covered
  obtain ⟨front, extra, rfl, frontKeys, -⟩ := List.map_eq_append_iff.1 split.symm
  rw [mergeEntries_covering frontKeys distinct, zipWith_merge_of_yields frontKeys]
  intro low inBase high inFront
  exact yields low inBase high (List.mem_append_left _ inFront)

/-- Entries that begin with the keys of the base, whose values hold no entries, stay as they
are. -/
theorem mergeEntries_of_covered {base entries : Entries}
    (covered : base.map (·.1) <+: entries.map (·.1))
    (flat : ∀ e ∈ base, e.2.entries? = none ∨ e.2 = .mapping [])
    (wellFormed : (Value.mapping entries).WellFormed) : mergeEntries base entries = entries := by
  obtain ⟨distinct, inside⟩ := Value.wellFormed_mapping_iff.1 wellFormed
  apply mergeEntries_of_yields covered distinct
  intro low inBase high inEntries _
  rcases flat low inBase with plain | empty
  · exact merge_of_not_mapping plain high.2
  · rw [empty, merge_empty (inside high inEntries).2]

/-! ## Names -/

/-- At most one key has the name. -/
def Entries.UniqueName (name : String) (entries : Entries) : Prop :=
  entries.Pairwise fun a b => ¬ (a.1.name? = some name ∧ b.1.name? = some name)

theorem Entries.UniqueName.eq {name : String} {entries : Entries} (unique : entries.UniqueName name)
    {a b : Value × Value} (left : a ∈ entries) (right : b ∈ entries)
    (called : a.1.name? = some name) (called' : b.1.name? = some name) : a = b := by
  by_contra different
  have symmetric : Std.Symm fun a b : Value × Value =>
      ¬ (a.1.name? = some name ∧ b.1.name? = some name) := ⟨fun _ _ h => h ∘ And.symm⟩
  exact unique.forall left right different ⟨called, called'⟩

theorem Entries.UniqueName.named?_eq {name : String} {entries : Entries}
    (unique : entries.UniqueName name) {e : Value × Value} (member : e ∈ entries)
    (called : e.1.name? = some name) : entries.named? name = some e.2 := by
  cases found : entries.named? name with
  | none => exact absurd called (named?_eq_none_iff.1 found e member)
  | some v =>
      obtain ⟨e', member', called', rfl⟩ := mem_of_named? found
      rw [unique.eq member' member called' called]

/-- A name that the base has as a plain key and that stays unique in the merge. -/
theorem named?_mergeEntries_of_unique {name : String} {base overlay : Entries} {old : Value}
    (present : find? name base = some old) (distinct : overlay.DistinctKeys)
    (unique : Entries.UniqueName name (mergeEntries base overlay)) :
    named? name (mergeEntries base overlay) = layered (some old) (named? name overlay) := by
  have merged := find?_mergeEntries name base distinct
  obtain ⟨v, found⟩ : ∃ v, find? name (mergeEntries base overlay) = some v := by
    rw [merged, present]
    cases find? name overlay with
    | none => exact ⟨old, layered_none _⟩
    | some high => exact ⟨_, layered_some old high⟩
  have member := mem_of_find? found
  have plain (e : Value × Value) (inOverlay : e ∈ overlay) (called : e.1.name? = some name) :
      e.1 = .string name := by
    obtain ⟨k, inKeys, equal⟩ := exists_key_mergeEntries base inOverlay
    obtain ⟨e', inMerge, rfl⟩ := List.mem_map.1 inKeys
    have called' : e'.1.name? = some name := by rw [Value.name?_of_same _ equal, called]
    -- The only entry with the name is the plain one.
    rwa [unique.eq inMerge member called' rfl, Value.same_string_left] at equal
  rw [unique.named?_eq member rfl, named?_eq_find? distinct plain, ← found, merged, present]

/-- A name in a merge when no key of the base that has it equals a key of the overlay: the
overlay's keys with the name come after the base's. -/
theorem named?_mergeEntries_of_apart {name : String} {base overlay : Entries}
    (apart : ∀ k ∈ base.map (·.1), k.name? = some name → ∀ e ∈ overlay, k.same e.1 = false)
    (distinct : overlay.DistinctKeys) :
    named? name (mergeEntries base overlay) = (named? name overlay).or (named? name base) := by
  induction overlay generalizing base with
  | nil => simp [named?]
  | cons first rest ih =>
      obtain ⟨key, value⟩ := first
      obtain ⟨keyApart, distinct⟩ := List.pairwise_cons.1 distinct
      simp only [List.forall_mem_cons] at apart
      rw [mergeEntries_cons]
      by_cases called : key.name? = some name
      · have absent : get? key base = none := by
          refine get?_eq_none_iff.2 fun e member => ?_
          by_cases equal : e.1.same key = true
          · exact (apart e.1 (List.mem_map_of_mem member)
              ((Value.name?_of_same _ equal).trans called)).1
          · exact Bool.eq_false_iff.2 equal
        rw [mergeEntry_of_absent absent, ih _ distinct, named?_append]
        · simp [named?, called]
        · intro k member calledK e later
          simp only [List.map_append, List.map_cons, List.map_nil, List.mem_append,
            List.mem_singleton] at member
          rcases member with inBase | rfl
          · exact (apart k inBase calledK).2 e later
          · exact keyApart e later
      · obtain ⟨merged, inserted⟩ := mergeEntry_eq_insert base key value
        rw [inserted, ih _ distinct, named?_insert_other called]
        · simp [named?, called]
        · intro k member calledK e later
          rcases mem_keys_insert member with inBase | rfl
          · exact (apart k inBase calledK).2 e later
          · exact absurd calledK called

end Layering.Yaml
