import Layering.Proofs.Config.Decoding

/-!
# Configurations as documents

Reading a document undoes writing it: `decode_encode`. Merged over the document of the defaults,
the document of a configuration is that of the configuration `overDefaults`.
-/

namespace Layering

namespace Table

variable {α : Type}

theorem insertEntry_of_above {key : String} (value : α) {entries : List (String × α)}
    (above : ∀ e ∈ entries, e.1 < key) : insertEntry key value entries = entries ++ [(key, value)] := by
  induction entries with
  | nil => rfl
  | cons e rest ih =>
      rw [List.forall_mem_cons] at above
      have notBelow : ¬ key < e.1 := String.lt_asymm above.1
      have different : (key == e.1) = false := by
        rw [beq_eq_false_iff_ne]
        rintro rfl
        exact notBelow above.1
      simp [insertEntry, notBelow, different, ih above.2]

/-- Entries that follow those of a table in order are added at its end. -/
theorem entries_foldl_insert (t : Table α) {rest : List (String × α)}
    (ascending : (t.entries ++ rest).Pairwise (fun a b => a.1 < b.1)) :
    (rest.foldl (fun t e => t.insert e.1 e.2) t).entries = t.entries ++ rest := by
  induction rest generalizing t with
  | nil => simp
  | cons e rest ih =>
      have above (d : String × α) (member : d ∈ t.entries) : d.1 < e.1 :=
        (List.pairwise_append.1 ascending).2.2 d member e List.mem_cons_self
      have inserted : (t.insert e.1 e.2).entries = t.entries ++ [e] :=
        insertEntry_of_above e.2 above
      rw [List.foldl_cons, ih _ (by rw [inserted]; simpa using ascending), inserted]
      simp

theorem ext_entries {t u : Table α} (same : t.entries = u.entries) : t = u := by
  obtain ⟨entries, ascending⟩ := t
  cases same
  rfl

theorem foldl_insert_entries (t : Table α) :
    t.entries.foldl (fun t e => t.insert e.1 e.2) empty = t :=
  ext_entries (entries_foldl_insert empty t.ascending)

theorem eq_empty_of_isEmpty {t : Table α} (isEmpty : t.isEmpty = true) : t = empty :=
  ext_entries (List.isEmpty_iff.1 isEmpty)

end Table

namespace Config

open Yaml

/-! ## Reading what was written -/

theorem decodeTableEntries_encoded (t : Table Options) (rest : List (String × Options)) :
    decodeTableEntries t (rest.map fun e => (.string e.1, .mapping e.2.entries)) =
      .ok (rest.foldl (fun t e => t.insert e.1 e.2) t) := by
  induction rest generalizing t with
  | nil => rfl
  | cons e rest ih => exact ih (t.insert e.1 e.2)

/-- A table is left out when it is empty, and otherwise reads back. -/
theorem encodeTable_cases (key : String) (t : Table Options) :
    encodeTable key t = [] ∧ t = .empty ∨
      ∃ v, encodeTable key t = [(key, v)] ∧ decodeTable v = .ok t := by
  cases isEmpty : t.isEmpty with
  | true => exact .inl ⟨by simp [encodeTable, isEmpty], Table.eq_empty_of_isEmpty isEmpty⟩
  | false =>
      refine .inr ⟨fields (t.entries.map fun e => (e.1, .mapping e.2.entries)), ?_, ?_⟩
      · simp only [encodeTable, isEmpty, Bool.false_eq_true, if_false]
      · have read := decodeTableEntries_encoded .empty t.entries
        rw [Table.foldl_insert_entries] at read
        simpa [decodeTable, fields, decodeEntries, Value.untagged, bind, Except.bind,
          Function.comp_def] using read

theorem decodeStrings_encodeStrings (items : List String) :
    decodeStrings (encodeStrings items) = .ok items := by
  have each : (items.map Value.string).mapM decodeString = .ok items := by
    induction items with
    | nil => rfl
    | cons item rest ih =>
        rw [List.map_cons, List.mapM_cons, ih]
        rfl
  exact each

theorem FamilySettings.decode_encode (s : FamilySettings) :
    FamilySettings.decode s.encode = .ok s := by
  obtain ⟨enabled, options, rules, customRules⟩ := s
  rcases encodeTable_cases "rules" rules with ⟨left, rfl⟩ | ⟨v, written, read⟩
  all_goals rcases encodeTable_cases "custom_rules" customRules with ⟨left', rfl⟩ | ⟨w, written', read'⟩
  all_goals
    simp only [FamilySettings.encode, *]
    simp [FamilySettings.decode, decodeStruct, fields, decodeEntries, decodeFields,
      Value.untagged, decodeBool, decodeOptions, bind, Except.bind, pure, Except.pure, *]

theorem PathSettings.decode_encode (s : PathSettings) : PathSettings.decode s.encode = .ok s := by
  simp [PathSettings.decode, PathSettings.encode, decodeStruct, fields, decodeEntries, decodeFields,
    Value.untagged, decodeStrings_encodeStrings, bind, Except.bind, pure, Except.pure]

theorem decodeFormat_name (f : Report.Format) : decodeFormat (.string f.name) = .ok f := by
  cases f <;> rfl

theorem decodeSeverity_level (s : Severity) : decodeSeverity (.int s.level) = .ok s := by
  cases s <;> rfl

theorem ReportSettings.decode_fields {s : ReportSettings} {level maximum path : Value}
    (severity : decodeSeverity level = .ok s.minSeverity)
    (count : decodeOptional decodeCount maximum = .ok s.maxViolations)
    (output : decodeOptional decodePath path = .ok s.output) :
    ReportSettings.decode (fields [("format", .string s.format.name), ("min_severity", level),
      ("use_colors", .bool s.useColors), ("max_violations", maximum), ("output", path)]) = .ok s := by
  simp [ReportSettings.decode, decodeStruct, fields, decodeEntries, decodeFields, Value.untagged,
    decodeFormat_name, severity, count, output, decodeBool, bind, Except.bind, pure, Except.pure]

theorem ReportSettings.decode_encode (s : ReportSettings) :
    ReportSettings.decode s.encode = .ok s := by
  refine ReportSettings.decode_fields (decodeSeverity_level s.minSeverity) ?_ ?_
  · cases s.maxViolations with
    | none => rfl
    | some n => simp [decodeOptional, decodeCount, Value.untagged, Except.map]
  · cases s.output <;> rfl

theorem decode_encode (c : Config) : decode c.encode = .ok c := by
  have analyzers (before : Config) :
      decodeAnalyzers before (fields (Family.all.map fun f => (f.key, (c.family f).encode))) =
        .ok { before with
          ddd := c.ddd, clean := c.clean, hexagonal := c.hexagonal, custom := c.custom } := by
    simp [decodeAnalyzers, decodeFullStruct, fields, decodeEntries, decodeFields, Value.untagged,
      Family.all, Family.key, Family.ofKey?, family, modifyFamily, FamilySettings.decode_encode,
      bind, Except.bind, pure, Except.pure]
  unfold encode
  generalize fields (Family.all.map fun f => (f.key, (c.family f).encode)) = written at analyzers
  simp [decode, decodeFullStruct, fields, decodeEntries, decodeFields, Value.untagged,
    decodeString, analyzers, PathSettings.decode_encode, ReportSettings.decode_encode,
    bind, Except.bind, pure, Except.pure]

/-! ## Merging what was written -/

/-- Structures merge field by field; fields that only the upper one has follow. -/
theorem fields_eq (pairs : List (String × Value)) :
    fields pairs = .mapping (pairs.map fun e => (.string e.1, e.2)) := rfl

theorem distinctKeys_fields {pairs : List (String × Value)} (distinct : (pairs.map (·.1)).Nodup) :
    Entries.DistinctKeys (pairs.map fun e => (Value.string e.1, e.2)) := by
  rw [Entries.DistinctKeys, List.pairwise_map]
  exact (List.pairwise_map.1 distinct).imp fun different => by simpa using different

theorem merge_fields {lower upper extra : List (String × Value)}
    (names : upper.map (·.1) = lower.map (·.1)) (distinct : ((upper ++ extra).map (·.1)).Nodup) :
    merge (fields lower) (fields (upper ++ extra)) =
      fields (List.zipWith (fun low high => (low.1, merge low.2 high.2)) lower upper ++ extra) := by
  have keys : (upper.map fun e => (Value.string e.1, e.2)).map (·.1) =
      (lower.map fun e => (Value.string e.1, e.2)).map (·.1) := by
    simpa [Function.comp_def] using congrArg (List.map Value.string) names
  have apart : Entries.DistinctKeys ((upper.map fun e => (Value.string e.1, e.2)) ++
      extra.map fun e => (Value.string e.1, e.2)) := by
    rw [← List.map_append]
    exact distinctKeys_fields distinct
  rw [fields_eq, fields_eq, List.map_append, merge, mergeEntries_covering keys apart,
    fields_eq, List.map_append, List.zipWith_map, List.map_zipWith]

theorem merge_same_fields {lower upper : List (String × Value)}
    (names : upper.map (·.1) = lower.map (·.1)) (distinct : (upper.map (·.1)).Nodup) :
    merge (fields lower) (fields upper) =
      fields (List.zipWith (fun low high => (low.1, merge low.2 high.2)) lower upper) := by
  have distinct' : ((upper ++ ([] : List (String × Value))).map fun field => field.1).Nodup := by
    simpa using distinct
  simpa using merge_fields names distinct'

theorem FamilySettings.merge_encode (o : Options) (s : FamilySettings) :
    merge ({ options := o } : FamilySettings).encode s.encode =
      { s with options := o.merged s.options }.encode := by
  have lower : ({ options := o } : FamilySettings).encode =
      fields [("enabled", .bool false), ("config", .mapping o.entries)] := rfl
  rw [lower, FamilySettings.encode, FamilySettings.encode, List.append_assoc, List.append_assoc,
    merge_fields (by rfl) ?_]
  · simp [merge, Options.merged]
  · rcases encodeTable_cases "rules" s.rules with ⟨written, -⟩ | ⟨v, written, -⟩
    all_goals
      rcases encodeTable_cases "custom_rules" s.customRules with ⟨written', -⟩ | ⟨w, written', -⟩
    all_goals simp [written, written']

theorem PathSettings.merge_encode (lower s : PathSettings) :
    merge lower.encode s.encode = s.encode := by
  rw [PathSettings.encode, PathSettings.encode, merge_same_fields (by rfl) (by simp)]
  simp [encodeStrings, merge]

theorem ReportSettings.merge_encode (s : ReportSettings) :
    merge ({} : ReportSettings).encode s.encode = s.encode := by
  rw [ReportSettings.encode, ReportSettings.encode, merge_same_fields (by rfl) (by simp)]
  simp [merge]

/-- The configuration with the options of each family merged over the family's defaults. -/
def overDefaults (c : Config) : Config :=
  { c with
    ddd := { c.ddd with options := (defaultOptions .ddd).merged c.ddd.options }
    clean := { c.clean with options := (defaultOptions .clean).merged c.clean.options }
    hexagonal :=
      { c.hexagonal with options := (defaultOptions .hexagonal).merged c.hexagonal.options }
    custom := { c.custom with options := (defaultOptions .custom).merged c.custom.options } }

theorem family_overDefaults (c : Config) (f : Family) :
    c.overDefaults.family f =
      { c.family f with options := (defaultOptions f).merged (c.family f).options } := by
  cases f <;> rfl

theorem family_default (f : Family) : default.family f = { options := defaultOptions f } := by
  cases f <;> rfl

theorem merge_encode (c : Config) : merge default.encode c.encode = c.overDefaults.encode := by
  have analyzers : merge (fields (Family.all.map fun f => (f.key, (default.family f).encode)))
      (fields (Family.all.map fun f => (f.key, (c.family f).encode))) =
        fields (Family.all.map fun f => (f.key, (c.overDefaults.family f).encode)) := by
    rw [merge_same_fields (by simp) (by simp [Family.all, Family.key]), List.zipWith_map,
      List.zipWith_self]
    simp [family_default, family_overDefaults, FamilySettings.merge_encode]
  have version : merge (.string default.version) (.string c.version) = .string c.version := rfl
  rw [encode, encode, encode, merge_same_fields (by rfl) (by simp)]
  simp only [List.zipWith_cons_cons, List.zipWith_nil_left, version, analyzers,
    PathSettings.merge_encode]
  rw [show default.report = {} from rfl, ReportSettings.merge_encode]
  rfl

end Config

end Layering
