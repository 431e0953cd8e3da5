import Layering.Proofs.Config.Reloading
import Layering.Proofs.Yaml.DeepMerge

/-!
# Overriding options and documents

What a merge holds at every path, and where its keys stand: `merge_by_path`. Overriding twice, or
loading what was merged before, is overriding or loading once: `merge_absorbs`.
-/

namespace Layering

open Yaml Entries

/-! ## Path by path -/

/-- What an overlay holds that is no mapping wins. Where both sides hold mappings down to one in
which the overlay lacks the next key, the base's value stays. Where both hold mappings, the base's
keys stand first and the overlay's new ones behind them, so no key of the base changes its place;
this goes for options that are overridden and for the mappings in them. -/
theorem merge_by_path {base overlay : Value} (lower : base.WellFormed) (higher : overlay.WellFormed) :
    (∀ path leaf, overlay.reach? path = some leaf → leaf.entries? = none →
      (merge base overlay).reach? path = some leaf) ∧
    (∀ path low high key rest, base.reach? path = some (.mapping low) →
      overlay.reach? path = some (.mapping high) → get? key high = none →
        (merge base overlay).reach? (path ++ key :: rest) = base.reach? (path ++ key :: rest)) ∧
    (∀ path low high, base.reach? path = some (.mapping low) →
      overlay.reach? path = some (.mapping high) →
        ∃ merged : Entries, (merge base overlay).reach? path = some (.mapping merged) ∧
          merged.DistinctKeys ∧
          merged.map (·.1) =
            low.map (·.1) ++ (high.map (·.1)).filter (fun key => (get? key low).isNone) ∧
          ∀ key, get? key low ≠ none → position? key merged = position? key low) ∧
    ∀ o overrides : Options, overrides.WellFormed →
      (∀ key, get? key o.entries ≠ none →
        position? key (o.merged overrides).entries = position? key o.entries) ∧
      ∀ name low high, o.get? name = some (.mapping low) →
        overrides.get? name = some (.mapping high) →
          ∃ merged : Entries, (o.merged overrides).get? name = some (.mapping merged) ∧
            ∀ key, get? key low ≠ none → position? key merged = position? key low := by
  refine ⟨?_, ?_, ?_, ?_⟩
  · intro path leaf found plain
    exact reach?_merge_of_leaf lower higher found plain
  · intro path low high key rest below above lacking
    exact reach?_merge_of_lacking lower higher below above lacking rest
  · intro path low high below above
    have both := reach?_merge_of_both lower higher below above
    have inLow := lower.reach? below
    have inHigh := higher.reach? above
    refine ⟨mergeEntries low high, ?_, ?_, ?_, ?_⟩
    · rw [both, merge]
    · have merged := inLow.merge inHigh
      rw [merge] at merged
      exact merged.distinctKeys
    · exact keys_mergeEntries (decisive_of_mappings inLow inHigh) inHigh.distinctKeys
    · intro key present
      exact position?_of_prefix (prefix_keys_mergeEntries low high) present
  · intro o overrides given
    constructor
    · intro key present
      exact position?_of_prefix (prefix_keys_mergeEntries o.entries overrides.entries) present
    · intro name low high below above
      refine ⟨mergeEntries low high, ?_, ?_⟩
      · rw [Options.get?_merged o given, below, above, layered_some, merge]
      · intro key present
        exact position?_of_prefix (prefix_keys_mergeEntries low high) present

/-- What two namespaces may depend on. -/
def allowances : Options :=
  ⟨[(.string "dependency_rules", .mapping
    [(.string "App\\Domain", .sequence []), (.string "App", .sequence [.string "Lib"])])]⟩

/-- Another list for one of them, and a list for a third. -/
def otherAllowances : Options :=
  ⟨[(.string "dependency_rules", .mapping
    [(.string "Cli", .string "Lib"), (.string "App", .sequence [.string "Http"])])]⟩

theorem allowances_wellFormed : allowances.WellFormed ∧ otherAllowances.WellFormed := by
  simp [allowances, otherAllowances, Options.WellFormed, Value.WellFormed, entriesWellFormed,
    itemsWellFormed, Entries.DistinctKeys]

theorem merge_by_path_allowances :
    let merged := merge (.mapping allowances.entries) (.mapping otherAllowances.entries)
    merged.reach? [.string "dependency_rules", .string "App"] =
      some (.sequence [.string "Http"]) ∧
    merged.reach? [.string "dependency_rules", .string "App\\Domain"] = some (.sequence []) ∧
    (∃ rules, merged.reach? [.string "dependency_rules"] = some (.mapping rules) ∧
      rules.map (·.1) = [.string "App\\Domain", .string "App", .string "Cli"]) ∧
    ∃ rules : Entries, (allowances.merged otherAllowances).get? "dependency_rules" = some (.mapping rules) ∧
      position? (.string "App") rules = some 1 := by
  intro merged
  obtain ⟨leaf, lacking, both, overridden⟩ :=
    merge_by_path allowances_wellFormed.1 allowances_wellFormed.2
  refine ⟨leaf _ _ rfl rfl, lacking [.string "dependency_rules"] _ _ _ _ rfl rfl rfl, ?_, ?_⟩
  · obtain ⟨rules, found, -, keys, -⟩ := both [.string "dependency_rules"] _ _ rfl rfl
    exact ⟨rules, found, keys⟩
  · obtain ⟨-, inside⟩ := overridden allowances otherAllowances allowances_wellFormed.2
    obtain ⟨rules, found, places⟩ := inside "dependency_rules" _ _ rfl rfl
    exact ⟨rules, found, (places (.string "App") (by simp [get?])).trans rfl⟩

/-! ## Once more -/

namespace Config

theorem fields_wellFormed {pairs : List (String × Value)} (distinct : (pairs.map (·.1)).Nodup)
    (inside : ∀ e ∈ pairs, e.2.WellFormed) : (fields pairs).WellFormed := by
  rw [fields_eq, Value.wellFormed_mapping_iff]
  refine ⟨distinctKeys_fields distinct, fun e member => ?_⟩
  obtain ⟨field, inPairs, rfl⟩ := List.mem_map.1 member
  exact ⟨trivial, inside field inPairs⟩

theorem encodeStrings_wellFormed (items : List String) : (encodeStrings items).WellFormed := by
  apply Value.wellFormed_sequence_iff.2
  intro v member
  obtain ⟨item, -, rfl⟩ := List.mem_map.1 member
  trivial

theorem encode_default_family (f : Family) :
    (default.family f).encode = fields
      [("enabled", .bool false), ("config", .mapping (defaultOptions f).entries)] := by
  rw [family_default]
  rfl

theorem encode_default_family_wellFormed (f : Family) : (default.family f).encode.WellFormed := by
  rw [encode_default_family]
  apply fields_wellFormed (by simp)
  intro e member
  rcases List.mem_pair.1 member with rfl | rfl
  · trivial
  · exact defaultOptions_wellFormed f

theorem encode_default_wellFormed : default.encode.WellFormed := by
  apply fields_wellFormed (by decide)
  simp only [List.forall_mem_cons]
  refine ⟨trivial, ?_, ?_, ?_, List.forall_mem_nil _⟩
  · apply fields_wellFormed (by decide)
    intro e member
    obtain ⟨f, -, rfl⟩ := List.mem_map.1 member
    exact encode_default_family_wellFormed f
  · apply fields_wellFormed (by decide)
    simp [encodeStrings_wellFormed]
  · apply fields_wellFormed (by decide)
    simp [Value.WellFormed, default]

/-- A document that was merged over the defaults before is read as the document itself. -/
theorem ofDocument_merged {document : Value} (wellFormed : document.WellFormed) :
    ofDocument (merge default.encode document) = ofDocument document := by
  cases document with
  | mapping entries =>
      have again := merge_base_merge encode_default_wellFormed wellFormed
      obtain ⟨root, encoded⟩ : ∃ root, default.encode = .mapping root := ⟨_, rfl⟩
      rw [encoded, merge] at again ⊢
      simp only [ofDocument, encoded, bind, Except.bind, again]
      rw [merge]
  | _ => rw [merge_of_leaf rfl]

end Config

/-- Overriding once more changes nothing, nor does overriding by the same or by nothing, for values
and for options. A document that was merged over the defaults before is read as the document
itself. -/
theorem merge_absorbs {base overlay : Value} (lower : base.WellFormed) (higher : overlay.WellFormed) :
    merge (merge base overlay) overlay = merge base overlay ∧
    merge overlay overlay = overlay ∧
    (∀ entries, overlay = .mapping entries →
      merge overlay (.mapping []) = overlay ∧ merge (.mapping []) overlay = overlay) ∧
    (∀ o overrides : Options, o.WellFormed → overrides.WellFormed →
      (o.merged overrides).merged overrides = o.merged overrides ∧ o.merged o = o ∧
      o.merged .empty = o ∧ Options.empty.merged o = o) ∧
    Config.ofDocument (merge Config.default.encode overlay) = Config.ofDocument overlay := by
  have options {o p : Options} (same : Value.mapping o.entries = .mapping p.entries) : o = p :=
    congrArg Options.mk (Value.mapping.inj same)
  refine ⟨merge_merge_overlay lower higher, merge_self higher, ?_, ?_, Config.ofDocument_merged higher⟩
  · rintro entries rfl
    refine ⟨?_, merge_empty higher⟩
    rw [merge, mergeEntries_nil]
  · intro o overrides inside given
    refine ⟨?_, ?_, ?_, ?_⟩
    · have again := merge_merge_overlay inside given
      simp only [merge] at again
      exact options again
    · have again := merge_self inside
      rw [merge] at again
      exact options again
    · exact congrArg Options.mk (mergeEntries_nil o.entries)
    · have again := merge_empty inside
      rw [merge] at again
      exact options again

/-- A mapping that becomes a number, and a number that becomes a mapping. -/
theorem merge_absorbs_clash :
    let base : Value :=
      .mapping [(.string "a", .mapping [(.string "x", .int 1)]), (.string "b", .int 2)]
    let overlay : Value :=
      .mapping [(.string "c", .null), (.string "b", .mapping [(.string "y", .int 4)]),
        (.string "a", .int 3)]
    let merged : Value :=
      .mapping [(.string "a", .int 3), (.string "b", .mapping [(.string "y", .int 4)]),
        (.string "c", .null)]
    merge base overlay = merged ∧ merge merged overlay = merged ∧ merge overlay overlay = overlay := by
  intro base overlay merged
  have once : merge base overlay = merged := rfl
  have wellFormed : base.WellFormed ∧ overlay.WellFormed := by
    simp [base, overlay, Value.WellFormed, entriesWellFormed, Entries.DistinctKeys]
  obtain ⟨again, itself, -⟩ := merge_absorbs wellFormed.1 wellFormed.2
  rw [once] at again
  exact ⟨once, again, itself⟩

end Layering
