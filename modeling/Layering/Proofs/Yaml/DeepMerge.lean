import Layering.Proofs.Yaml.Merge

/-!
# Deep merges

A merge of well-formed values, path by path (`reach?_merge_of_leaf`, `reach?_merge_of_both`,
`reach?_merge_of_lacking`) and in the order of its keys (`keys_mergeEntries`). Merging once more
changes nothing, neither with the overlay on top (`merge_merge_overlay`) nor with the base below
(`merge_base_merge`).
-/

namespace Layering.Yaml

open Entries

theorem merge_of_leaf {overlay : Value} (leaf : overlay.entries? = none) (base : Value) :
    merge base overlay = overlay := by
  unfold merge
  split
  · cases leaf
  · rfl

/-! ## Paths of keys -/

namespace Value

/-- What a path of keys leads to, through mappings. -/
def reach? (v : Value) : List Value → Option Value
  | [] => some v
  | key :: path => v.entries?.bind fun entries => (get? key entries).bind (reach? · path)

theorem reach?_cons_eq_some {v w key : Value} {path : List Value} :
    v.reach? (key :: path) = some w ↔
      ∃ entries next, v = .mapping entries ∧ get? key entries = some next ∧
        next.reach? path = some w := by
  cases v with
  | mapping entries => simp [reach?, entries?, Option.bind_eq_some_iff]
  | _ => simp [reach?, entries?]

theorem reach?_append (v : Value) (path rest : List Value) :
    v.reach? (path ++ rest) = (v.reach? path).bind (·.reach? rest) := by
  induction path generalizing v with
  | nil => rfl
  | cons key path ih =>
      simp only [List.cons_append, reach?, Option.bind_assoc]
      cases v.entries? with
      | none => rfl
      | some entries =>
          simp only [Option.bind_some]
          cases get? key entries with
          | none => rfl
          | some next => exact ih next

theorem WellFormed.get? {entries : Entries} (wellFormed : (mapping entries).WellFormed)
    {key v : Value} (found : entries.get? key = some v) : v.WellFormed := by
  obtain ⟨e, member, -, rfl⟩ := mem_of_get? found
  exact ((wellFormed_mapping_iff.1 wellFormed).2 e member).2

theorem WellFormed.reach? {v w : Value} (wellFormed : v.WellFormed) {path : List Value}
    (found : v.reach? path = some w) : w.WellFormed := by
  induction path generalizing v with
  | nil =>
      cases found
      exact wellFormed
  | cons key path ih =>
      obtain ⟨entries, next, rfl, first, later⟩ := reach?_cons_eq_some.1 found
      exact ih (wellFormed.get? first) later

/-! ## Well-formed merges -/

theorem WellFormed.mergeEntries {low high : Entries} (lower : (mapping low).WellFormed)
    (higher : (mapping high).WellFormed)
    (values : ∀ e ∈ high, ∀ {old : Value}, old.WellFormed → (merge old e.2).WellFormed) :
    (mapping (mergeEntries low high)).WellFormed := by
  rw [wellFormed_mapping_iff] at higher
  obtain ⟨-, inside⟩ := higher
  induction high generalizing low with
  | nil => simpa using lower
  | cons e rest ih =>
      obtain ⟨key, value⟩ := e
      rw [List.forall_mem_cons] at values inside
      have merged : (mapping (mergeEntry low key value)).WellFormed := by
        unfold mergeEntry
        split
        · rename_i old found
          exact lower.insert inside.1.1 (values.1 (lower.get? found))
        · exact lower.insert inside.1.1 inside.1.2
      rw [mergeEntries_cons]
      exact ih merged values.2 inside.2

theorem WellFormed.merge {base overlay : Value} (lower : base.WellFormed)
    (higher : overlay.WellFormed) : (Yaml.merge base overlay).WellFormed := by
  induction overlay generalizing base with
  | mapping high ih =>
      cases base with
      | mapping low =>
          rw [Yaml.merge]
          refine lower.mergeEntries higher fun e member {_} old => (ih e member).2 old ?_
          exact ((wellFormed_mapping_iff.1 higher).2 e member).2
      | _ => simpa [Yaml.merge] using higher
  | _ =>
      rw [merge_of_leaf rfl]
      exact higher

end Value

section Mappings

variable {low high : Entries} (lower : (Value.mapping low).WellFormed)
  (higher : (Value.mapping high).WellFormed)

include lower higher

theorem decisive_of_mappings (k : Value) : k.Decisive (low.map (·.1) ++ high.map (·.1)) := by
  apply Value.decisive_of_wellFormed
  intro key member
  rw [← List.map_append] at member
  obtain ⟨e, inside, rfl⟩ := List.mem_map.1 member
  rcases List.mem_append.1 inside with inLow | inHigh
  · exact ((Value.wellFormed_mapping_iff.1 lower).2 e inLow).1
  · exact ((Value.wellFormed_mapping_iff.1 higher).2 e inHigh).1

theorem get?_merged (k : Value) :
    get? k (mergeEntries low high) = layered (get? k low) (get? k high) :=
  get?_mergeEntries (decisive_of_mappings lower higher k) higher.distinctKeys

end Mappings

/-! ## Along a path -/

section Paths

variable {base overlay : Value} (lower : base.WellFormed) (higher : overlay.WellFormed)
  {path : List Value}

include lower higher

theorem reach?_merge_of_leaf {leaf : Value} (found : overlay.reach? path = some leaf)
    (plain : leaf.entries? = none) : (merge base overlay).reach? path = some leaf := by
  induction path generalizing base overlay with
  | nil =>
      cases found
      rw [merge_of_leaf plain]
      rfl
  | cons key path ih =>
      obtain ⟨high, next, rfl, first, later⟩ := Value.reach?_cons_eq_some.1 found
      cases base with
      | mapping low =>
          rw [merge, Value.reach?_cons_eq_some]
          have merged := get?_merged lower higher key
          rw [first] at merged
          cases old : get? key low with
          | none =>
              rw [old, none_layered] at merged
              exact ⟨_, _, rfl, merged, later⟩
          | some old' =>
              rw [old, layered_some] at merged
              exact ⟨_, _, rfl, merged, ih (lower.get? old) (higher.get? first) later⟩
      | _ => simpa [merge] using found

theorem reach?_merge_of_both {v w : Value} (below : base.reach? path = some v)
    (above : overlay.reach? path = some w) : (merge base overlay).reach? path = some (merge v w) := by
  induction path generalizing base overlay with
  | nil =>
      cases below
      cases above
      rfl
  | cons key path ih =>
      obtain ⟨low, old, rfl, first, later⟩ := Value.reach?_cons_eq_some.1 below
      obtain ⟨high, new, rfl, first', later'⟩ := Value.reach?_cons_eq_some.1 above
      have merged := get?_merged lower higher key
      rw [first, first', layered_some] at merged
      rw [merge, Value.reach?_cons_eq_some]
      exact ⟨_, _, rfl, merged, ih (lower.get? first) (higher.get? first') later later'⟩

theorem reach?_merge_of_lacking {low high : Entries} (below : base.reach? path = some (.mapping low))
    (above : overlay.reach? path = some (.mapping high)) {key : Value}
    (lacking : get? key high = none) (rest : List Value) :
    (merge base overlay).reach? (path ++ key :: rest) = base.reach? (path ++ key :: rest) := by
  rw [Value.reach?_append, Value.reach?_append, reach?_merge_of_both lower higher below above, below,
    merge]
  simp only [Option.bind_some, Value.reach?, Value.entries?]
  rw [get?_merged (lower.reach? below) (higher.reach? above), lacking, layered_none]

end Paths

/-! ## The order of keys -/

theorem keys_mergeEntry (base : Entries) (key value : Value) :
    (mergeEntry base key value).map (·.1) =
      base.map (·.1) ++ if (get? key base).isNone then [key] else [] := by
  unfold mergeEntry
  cases found : get? key base with
  | none => simp [insert_of_absent value found]
  | some old => simp [keys_insert_of_present _ (by simp [found] : get? key base ≠ none)]

theorem keys_mergeEntries {base overlay : Entries}
    (decisive : ∀ k : Value, k.Decisive (base.map (·.1) ++ overlay.map (·.1)))
    (distinct : overlay.DistinctKeys) :
    (mergeEntries base overlay).map (·.1) =
      base.map (·.1) ++ (overlay.map (·.1)).filter fun k => (get? k base).isNone := by
  induction overlay generalizing base with
  | nil => simp
  | cons e rest ih =>
      obtain ⟨key, value⟩ := e
      obtain ⟨apart, distinct⟩ := List.pairwise_cons.1 distinct
      -- The other keys of the overlay are new to the base exactly if they were before this entry.
      have unchanged : ∀ k ∈ rest.map (·.1),
          (get? k (mergeEntry base key value)).isNone = (get? k base).isNone := by
        intro k member
        obtain ⟨e, inRest, rfl⟩ := List.mem_map.1 member
        rw [get?_mergeEntry (decisive e.1).entry, apart e inRest, if_neg Bool.false_ne_true]
      rw [mergeEntries_cons, ih (fun k => (decisive k).mergeEntry value) distinct, keys_mergeEntry, List.filter_congr unchanged,
        List.append_assoc, List.map_cons, List.filter_cons]
      split <;> rfl

/-- The place of a key among the entries. -/
def Entries.position? (key : Value) (entries : Entries) : Option Nat :=
  entries.findIdx? fun e => e.1.same key

theorem position?_eq (key : Value) (entries : Entries) :
    entries.position? key = (entries.map (·.1)).findIdx? fun k => k.same key := by
  rw [List.findIdx?_map]
  rfl

theorem position?_of_prefix {low merged : Entries} (kept : low.map (·.1) <+: merged.map (·.1))
    {key : Value} (present : get? key low ≠ none) : merged.position? key = low.position? key := by
  obtain ⟨added, split⟩ := kept
  obtain ⟨v, found⟩ := Option.ne_none_iff_exists'.1 present
  obtain ⟨e, member, equal, -⟩ := mem_of_get? found
  have some : ((low.map (·.1)).findIdx? fun k => k.same key).isSome = true := by
    rw [List.findIdx?_isSome, List.any_eq_true]
    exact ⟨e.1, List.mem_map_of_mem member, equal⟩
  rw [position?_eq, position?_eq, ← split, List.findIdx?_append, Option.or_of_isSome some]

/-! ## Merging once more -/

theorem insert_of_present {key v : Value} {entries : Entries} (found : get? key entries = some v) :
    insert key v entries = entries := by
  induction entries with
  | nil => cases found
  | cons e rest ih =>
      rw [get?] at found
      cases equal : e.1.same key with
      | true =>
          rw [equal, if_pos rfl, Option.some.injEq] at found
          simp [Entries.insert, equal, ← found]
      | false =>
          rw [equal, if_neg Bool.false_ne_true] at found
          simp [Entries.insert, equal, ih found]

/-- Entries that hold all of an overlay stay as they are under it. -/
theorem mergeEntries_of_absorbed {entries overlay : Entries}
    (absorbed : ∀ e ∈ overlay, ∃ v, get? e.1 entries = some v ∧ merge v e.2 = v) :
    mergeEntries entries overlay = entries := by
  induction overlay with
  | nil => simp
  | cons e rest ih =>
      rw [List.forall_mem_cons] at absorbed
      obtain ⟨⟨v, found, yields⟩, later⟩ := absorbed
      have step : mergeEntry entries e.1 e.2 = entries := by
        simp only [mergeEntry, found, yields, insert_of_present found]
      rw [mergeEntries_cons, step, ih later]

theorem merge_merge_overlay {base overlay : Value} (lower : base.WellFormed)
    (higher : overlay.WellFormed) : merge (merge base overlay) overlay = merge base overlay := by
  induction overlay generalizing base with
  | mapping high ih =>
      obtain ⟨distinct, inside⟩ := Value.wellFormed_mapping_iff.1 higher
      -- A value on top of itself is the case of a base that it replaces.
      have itself (e : Value × Value) (member : e ∈ high) : merge e.2 e.2 = e.2 := by
        have again : merge (merge .null e.2) e.2 = merge .null e.2 :=
          (ih e member).2 trivial (inside e member).2
        simpa [merge] using again
      cases base with
      | mapping low =>
          rw [merge, merge, mergeEntries_of_absorbed]
          intro e member
          rw [get?_merged lower higher, get?_of_mem distinct member]
          cases found : get? e.1 low with
          | none => exact ⟨_, none_layered _, itself e member⟩
          | some old =>
              exact ⟨_, layered_some _ _, (ih e member).2 (lower.get? found) (inside e member).2⟩
      | _ =>
          simp only [merge]
          rw [mergeEntries_of_absorbed]
          exact fun e member => ⟨_, get?_of_mem distinct member, itself e member⟩
  | _ => rw [merge_of_leaf rfl, merge_of_leaf rfl]

theorem merge_self {v : Value} (wellFormed : v.WellFormed) : merge v v = v := by
  have again : merge (merge .null v) v = merge .null v := merge_merge_overlay trivial wellFormed
  simpa [merge] using again

theorem merge_base_merge {base overlay : Value} (lower : base.WellFormed)
    (higher : overlay.WellFormed) : merge base (merge base overlay) = merge base overlay := by
  induction overlay generalizing base with
  | mapping high ih =>
      cases base with
      | mapping low =>
          obtain ⟨distinct, inside⟩ := Value.wellFormed_mapping_iff.1 lower
          have merged := lower.merge higher
          rw [merge] at merged ⊢
          rw [merge, mergeEntries_of_yields (prefix_keys_mergeEntries low high) merged.distinctKeys]
          intro old inLow new inMerged same
          have found := get?_merged lower higher old.1
          rw [get?_of_mem distinct inLow, same, get?_of_mem merged.distinctKeys inMerged] at found
          cases above : get? new.1 high with
          | none =>
              rw [above, layered_none, Option.some.injEq] at found
              rw [found, merge_self (inside old inLow).2]
          | some v =>
              rw [above, layered_some, Option.some.injEq] at found
              obtain ⟨e, member, -, rfl⟩ := mem_of_get? above
              rw [found, (ih e member).2 (inside old inLow).2 (higher.get? above)]
      | _ => simp [merge]
  | _ => exact congrArg (merge base) (merge_of_leaf rfl base)

end Layering.Yaml
