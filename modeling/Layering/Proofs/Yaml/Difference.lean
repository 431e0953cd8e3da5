import Layering.Proofs.Yaml.DeepMerge

/-!
# Values that differ under some keys

Two values may be alike but for what stands under some keys of a mapping. Merged over the same base
they are alike but for these keys again, if merging keeps what is said of the values there:
`DiffersUnder.merge`.
-/

namespace Layering.Yaml

open Entries

/-- The key is the same, and so is the value unless it stands under one of the keys in question. -/
def EntryDiffers (keys : Value → Prop) (R : Value → Value → Prop) (e f : Value × Value) : Prop :=
  f.1 = e.1 ∧ (f.2 = e.2 ∨ keys e.1 ∧ R e.2 f.2)

/-- Two values that are the same up to the values under some keys of a mapping, inside its tags. -/
inductive DiffersUnder (keys : Value → Prop) (R : Value → Value → Prop) : Value → Value → Prop
  | refl (v : Value) : DiffersUnder keys R v v
  | mapping {es fs : Entries} (entries : List.Forall₂ (EntryDiffers keys R) es fs) :
      DiffersUnder keys R (.mapping es) (.mapping fs)
  | tagged (tag : String) {v w : Value} (inner : DiffersUnder keys R v w) :
      DiffersUnder keys R (.tagged tag v) (.tagged tag w)

section

variable {keys : Value → Prop} {R : Value → Value → Prop} {es fs : Entries}

theorem keys_of_differs (entries : List.Forall₂ (EntryDiffers keys R) es fs) :
    fs.map (·.1) = es.map (·.1) := by
  induction entries with
  | nil => rfl
  | cons first _ ih => rw [List.map_cons, List.map_cons, first.1, ih]

theorem get?_of_differs (k : Value) (entries : List.Forall₂ (EntryDiffers keys R) es fs) :
    get? k es = none ∧ get? k fs = none ∨
      ∃ v w, get? k es = some v ∧ get? k fs = some w ∧
        (w = v ∨ ∃ key : Value, key.same k = true ∧ keys key ∧ R v w) := by
  induction entries with
  | nil => exact .inl ⟨rfl, rfl⟩
  | @cons e f _ _ first _ ih =>
      obtain ⟨key, value⟩ := first
      rw [get?, get?, key]
      split
      · rename_i equal
        refine .inr ⟨e.2, f.2, rfl, rfl, value.imp_right ?_⟩
        rintro ⟨isKey, related⟩
        exact ⟨e.1, equal, isKey, related⟩
      · exact ih

theorem differs_of_wellFormed (wellFormed : (Value.mapping es).WellFormed)
    (entries : List.Forall₂ (EntryDiffers keys R) es fs) :
    List.Forall₂ (EntryDiffers keys fun v w => v.WellFormed ∧ R v w) es fs := by
  have inside := (Value.wellFormed_mapping_iff.1 wellFormed).2
  apply ((List.forall₂_and_left es fs).2 ⟨inside, entries⟩).imp
  rintro e f ⟨whole, key, value⟩
  exact ⟨key, value.imp_right fun ⟨isKey, related⟩ => ⟨isKey, whole.2, related⟩⟩

theorem forall₂_of_keys {P : Value × Value → Value × Value → Prop}
    (keys : fs.map (·.1) = es.map (·.1)) (related : ∀ e ∈ es, ∀ f ∈ fs, f.1 = e.1 → P e f) :
    List.Forall₂ P es fs := by
  induction es generalizing fs with
  | nil =>
      rw [List.map_nil, List.map_eq_nil_iff] at keys
      rw [keys]
      exact .nil
  | cons e es ih =>
      cases fs with
      | nil => cases keys
      | cons f fs =>
          rw [List.map_cons, List.map_cons, List.cons.injEq] at keys
          refine .cons (related e List.mem_cons_self f List.mem_cons_self keys.1) ?_
          apply ih keys.2
          intro e' inEs f' inFs
          exact related e' (List.mem_cons_of_mem _ inEs) f' (List.mem_cons_of_mem _ inFs)

variable (respects : ∀ a b : Value, a.same b = true → keys a → keys b)

include respects

theorem mergeEntries_differs {low : Entries} (lower : (Value.mapping low).WellFormed)
    (higher : (Value.mapping es).WellFormed)
    (inner : ∀ k old v w, keys k → get? k low = some old → v.WellFormed → R v w →
      R (merge old v) (merge old w))
    (entries : List.Forall₂ (EntryDiffers keys R) es fs) :
    List.Forall₂ (EntryDiffers keys R) (mergeEntries low es) (mergeEntries low fs) := by
  have sameKeys := keys_of_differs entries
  have decisive := decisive_of_mappings lower higher
  have decisive' (k : Value) : k.Decisive (low.map (·.1) ++ fs.map (·.1)) := by
    rw [sameKeys]
    exact decisive k
  have distinct := higher.distinctKeys
  have distinct' : fs.DistinctKeys := by
    rw [distinctKeys_iff, sameKeys, ← distinctKeys_iff]
    exact distinct
  have mergedKeys : (mergeEntries low fs).map (·.1) = (mergeEntries low es).map (·.1) := by
    rw [keys_mergeEntries decisive' distinct', keys_mergeEntries decisive distinct, sameKeys]
  have merged : (mergeEntries low es).DistinctKeys := by
    have whole := lower.merge higher
    rw [merge] at whole
    exact whole.distinctKeys
  have merged' : (mergeEntries low fs).DistinctKeys := by
    rw [distinctKeys_iff, mergedKeys, ← distinctKeys_iff]
    exact merged
  apply forall₂_of_keys mergedKeys
  intro e inEs f inFs equal
  -- Both values are what `layered` makes of the base's value and the two overlays'.
  have found := get?_of_mem merged inEs
  have found' := get?_of_mem merged' inFs
  rw [get?_mergeEntries (decisive _) distinct] at found
  rw [equal, get?_mergeEntries (decisive' _) distinct'] at found'
  refine ⟨equal, ?_⟩
  rcases get?_of_differs e.1 entries with ⟨absent, absent'⟩ | ⟨v, w, above, above', alike⟩
  · rw [absent, layered_none] at found
    rw [absent', layered_none, found, Option.some.injEq] at found'
    exact .inl found'.symm
  · rw [above] at found
    rw [above'] at found'
    cases below : get? e.1 low with
    | none =>
        rw [below, none_layered, Option.some.injEq] at found found'
        rw [← found, ← found']
        refine alike.imp_right ?_
        rintro ⟨key, same, isKey, related⟩
        exact ⟨respects key e.1 same isKey, related⟩
    | some old =>
        rw [below, layered_some, Option.some.injEq] at found found'
        rw [← found, ← found']
        rcases alike with rfl | ⟨key, same, isKey, related⟩
        · exact .inl rfl
        · have isKey' := respects key e.1 same isKey
          exact .inr ⟨isKey', inner e.1 old v w isKey' below (higher.get? above) related⟩

theorem DiffersUnder.merge {base v w : Value} (lower : base.WellFormed) (higher : v.WellFormed)
    (inner : ∀ low k old a b, base = .mapping low → keys k → get? k low = some old →
      a.WellFormed → R a b → R (merge old a) (merge old b))
    (differ : DiffersUnder keys R v w) :
    DiffersUnder keys R (Yaml.merge base v) (Yaml.merge base w) := by
  cases differ with
  | refl => exact .refl _
  | tagged tag differ =>
      rw [merge_of_leaf rfl, merge_of_leaf rfl]
      exact .tagged tag differ
  | mapping entries =>
      cases base with
      | mapping low =>
          rw [Yaml.merge, Yaml.merge]
          exact .mapping (mergeEntries_differs respects lower higher
            (fun k old a b => inner low k old a b rfl) entries)
      | _ =>
          rw [merge_of_not_mapping rfl, merge_of_not_mapping rfl]
          exact .mapping entries

end

/-! ## Changing what stands under a key -/

namespace Entries

variable {name : String} {g : Value → Value}

theorem keys_modify (name : String) (g : Value → Value) (es : Entries) :
    (modify name g es).map (·.1) = es.map (·.1) := by
  induction es with
  | nil => rfl
  | cons e es ih =>
      rw [modify]
      split
      · rfl
      · rw [List.map_cons, ih, List.map_cons]

theorem DistinctKeys.modify {es : Entries} (distinct : es.DistinctKeys) :
    (modify name g es).DistinctKeys := by
  rw [distinctKeys_iff, keys_modify, ← distinctKeys_iff]
  exact distinct

theorem modify_of_absent {es : Entries} (absent : Value.string name ∉ es.map (·.1)) :
    modify name g es = es := by
  induction es with
  | nil => rfl
  | cons e es ih =>
      rw [List.map_cons, List.mem_cons, not_or] at absent
      have different : ¬ e.1.same (.string name) = true := by
        intro equal
        exact absent.1 (Value.same_string_right.1 equal).symm
      rw [modify, if_neg different, ih absent.2]

theorem modify_modify (twice : ∀ v, g (g v) = g v) (es : Entries) :
    modify name g (modify name g es) = modify name g es := by
  induction es with
  | nil => rfl
  | cons e es ih =>
      cases equal : e.1.same (.string name) with
      | true => simp only [modify, equal, if_true, twice]
      | false => simp only [modify, equal, Bool.false_eq_true, if_false, ih]

theorem modify_comm {other : String} (apart : name ≠ other) (g h : Value → Value) (es : Entries) :
    modify name g (modify other h es) = modify other h (modify name g es) := by
  induction es with
  | nil => rfl
  | cons e es ih =>
      cases equal : e.1.same (.string name) with
      | true =>
          have different : e.1.same (.string other) = false := by
            rw [Value.same_string_right.1 equal, Value.same_string]
            exact decide_eq_false apart
          simp only [modify, equal, different, Bool.false_eq_true, if_true, if_false]
      | false =>
          cases equal' : e.1.same (.string other) with
          | true => simp only [modify, equal, equal', Bool.false_eq_true, if_true, if_false]
          | false => simp only [modify, equal, equal', Bool.false_eq_true, if_false, ih]

theorem mapValues_mapValues (twice : ∀ v, g (g v) = g v) (es : Entries) :
    mapValues g (mapValues g es) = mapValues g es := by
  unfold mapValues
  rw [List.map_map]
  apply List.map_congr_left
  rintro ⟨key, v⟩ -
  exact congrArg (Prod.mk key) (twice v)

variable {keys : Value → Prop} {R : Value → Value → Prop} {es fs gs : Entries}

/-- Where `g` makes the same of two values that are related, entries that differ under a key agree
there once `g` was applied. -/
theorem modify_differs (name : String) (keys' : Value → Prop)
    (entries : List.Forall₂ (EntryDiffers keys R) es fs) (distinct : es.DistinctKeys)
    (elsewhere : ∀ k, keys k → k ≠ .string name → keys' k)
    (agree : keys (.string name) → ∀ v w, R v w → g w = g v) :
    List.Forall₂ (EntryDiffers keys' R) (modify name g es) (modify name g fs) := by
  induction entries with
  | nil => exact .nil
  | @cons e f es fs first rest ih =>
      obtain ⟨apart, distinct⟩ := List.pairwise_cons.1 distinct
      have later := ih distinct
      obtain ⟨key, value⟩ := first
      rw [modify, modify, key]
      split
      · rename_i equal
        have named := Value.same_string_right.1 equal
        have absent : Value.string name ∉ es.map (·.1) := by
          intro member
          obtain ⟨e', inEs, again⟩ := List.mem_map.1 member
          have other := apart e' inEs
          rw [named, again, Value.same_refl] at other
          cases other
        have absent' : Value.string name ∉ fs.map (·.1) := by
          rw [keys_of_differs rest]
          exact absent
        rw [modify_of_absent absent, modify_of_absent absent'] at later
        refine .cons ⟨rfl, .inl ?_⟩ later
        rcases value with same | ⟨isKey, related⟩
        · rw [same]
        · rw [named] at isKey
          exact agree isKey e.2 f.2 related
      · rename_i different
        refine .cons ⟨rfl, value.imp_right ?_⟩ later
        rintro ⟨isKey, related⟩
        refine ⟨elsewhere e.1 isKey ?_, related⟩
        intro named
        exact different (Value.same_string_right.2 named)

theorem eq_of_differs (entries : List.Forall₂ (EntryDiffers (fun _ => False) R) es fs) :
    fs = es := by
  induction entries with
  | nil => rfl
  | cons first _ ih => rw [ih, Prod.ext first.1 (first.2.resolve_right And.left)]

theorem mapValues_of_differs (agree : ∀ v w, R v w → g w = g v)
    (entries : List.Forall₂ (EntryDiffers keys R) es fs) : mapValues g fs = mapValues g es := by
  induction entries with
  | nil => rfl
  | @cons e f es fs first _ ih =>
      have value : g f.2 = g e.2 := by
        rcases first.2 with same | ⟨-, related⟩
        · rw [same]
        · exact agree e.2 f.2 related
      show (f.1, g f.2) :: mapValues g fs = (e.1, g e.2) :: mapValues g es
      rw [first.1, value, ih]

/-! What is changed differs from what it was under the changed keys only. -/

theorem differs_modify (name : String) (isKey : keys (.string name)) (changed : ∀ v, R v (g v))
    (es : Entries) :
    List.Forall₂ (EntryDiffers keys R) es (modify name g es) := by
  induction es with
  | nil => exact .nil
  | cons e es ih =>
      rw [modify]
      split
      · rename_i equal
        rw [← Value.same_string_right.1 equal] at isKey
        refine .cons ⟨rfl, .inr ⟨isKey, changed e.2⟩⟩ ?_
        exact List.forall₂_same.2 fun _ _ => ⟨rfl, .inl rfl⟩
      · exact .cons ⟨rfl, .inl rfl⟩ ih

theorem differs_mapValues (changed : ∀ v, R v (g v)) (es : Entries) :
    List.Forall₂ (EntryDiffers (fun _ => True) R) es (mapValues g es) :=
  List.forall₂_map_right_iff.2 (List.forall₂_same.2 fun e _ => ⟨rfl, .inr ⟨trivial, changed e.2⟩⟩)

theorem differs_trans (first : List.Forall₂ (EntryDiffers keys fun _ _ => True) es fs)
    (second : List.Forall₂ (EntryDiffers keys fun _ _ => True) fs gs) :
    List.Forall₂ (EntryDiffers keys fun _ _ => True) es gs := by
  induction first generalizing gs with
  | nil =>
      cases second
      exact .nil
  | cons first _ ih =>
      cases second with
      | cons second rest =>
          refine .cons ⟨second.1.trans first.1, ?_⟩ (ih rest)
          rcases second.2 with same | ⟨isKey, -⟩
          · rw [same]
            exact first.2
          · rw [first.1] at isKey
            exact .inr ⟨isKey, trivial⟩

end Entries

end Layering.Yaml
