import Layering.Cli.Run
import Layering.Proofs.Analysis.Validation
import Layering.Proofs.Config.Reloading

/-!
# Which options a rule gets

The options of a rule stand on three levels: the defaults of its family, what the document gives
the family under `config`, and what it gives the rule under `rules`. Each level is laid over the
ones before: `ruleOptions_precedence`.
-/

namespace Layering.Config

open Yaml Entries

/-! ## Down the document -/

theorem layered_at? {document : Value} {path : List String} (isMapping : document.mappingAt path)
    (low : Entries) :
    layered (some (.mapping low)) (document.at? path) =
      some (.mapping (mergeEntries low (document.entriesAt path))) := by
  rw [Value.mappingAt] at isMapping
  rw [Value.entriesAt]
  cases found : document.at? path with
  | none => simp
  | some v =>
      rw [found] at isMapping
      cases v with
      | mapping entries => simp [layered, Value.entries?]
      | _ => simp [Value.entries?] at isMapping

/-- Merging a document into a base, one name further down. -/
theorem named?_merged_document {document : Value} (wellFormed : document.WellFormed)
    (path : List String) {name : String} (isMapping : document.mappingAt (path ++ [name]))
    {base low : Entries} (present : find? name base = some (.mapping low))
    (unique : UniqueName name (mergeEntries base (document.entriesAt path))) :
    named? name (mergeEntries base (document.entriesAt path)) =
      some (.mapping (mergeEntries low (document.entriesAt (path ++ [name])))) := by
  rw [named?_mergeEntries_of_unique present (wellFormed.entriesAt path).distinctKeys unique,
    ← Value.at?_concat, layered_at? isMapping]

theorem decodeEntries_at? {document : Value} {path : List String}
    (isMapping : document.mappingOrNullAt path) (expected : String) :
    match document.at? path with
    | some v => decodeEntries expected v = .ok (document.entriesAt path)
    | none => document.entriesAt path = [] := by
  rw [Value.mappingOrNullAt] at isMapping
  rw [Value.entriesAt]
  cases found : document.at? path with
  | none => rfl
  | some v =>
      rw [found] at isMapping
      cases v with
      | mapping entries => rfl
      | null => rfl
      | _ => simp [Value.entries?] at isMapping

/-- The settings of a family in the document of the defaults. -/
def defaultEntries (f : Family) : Entries :=
  [(.string "enabled", .bool false), (.string "config", .mapping (defaultOptions f).entries)]

theorem encode_default (f : Family) :
    ∃ root analyzers, default.encode = .mapping root ∧
      find? "analyzers" root = some (.mapping analyzers) ∧
      find? f.key analyzers = some (.mapping (defaultEntries f)) := by
  refine ⟨_, _, rfl, rfl, ?_⟩
  cases f <;> rfl

section Document

variable {document : Value} {c : Config} {f : Family}

theorem entriesAt_nil_of_ofDocument {entries : Entries}
    (root : document = .mapping entries ∨ document = .null ∧ entries = []) :
    document.entriesAt [] = entries := by
  rcases root with rfl | ⟨rfl, rfl⟩
  · rfl
  · rfl

/-- The settings of a family are read from those of the defaults with the document's merged in. -/
theorem family_of_ofDocument (wellFormed : document.WellFormed) (read : ofDocument document = .ok c)
    (analyzers : document.mappingAt ["analyzers"])
    (settings : document.mappingAt ["analyzers", f.key]) :
    FamilySettings.decode (.mapping (mergeEntries (defaultEntries f)
      (document.entriesAt ["analyzers", f.key]))) = .ok (c.family f) := by
  obtain ⟨root, families, encoded, atRoot, atFamily⟩ := encode_default f
  obtain ⟨entries, isRoot, decoded, -⟩ := ofDocument_eq_ok.1 read
  rw [encoded, ← entriesAt_nil_of_ofDocument isRoot, merge] at decoded
  obtain ⟨_, v, isRead, uniqueRoot, foundRoot, before, after, decodedFamilies, same⟩ :=
    of_decode decoded
  cases isRead
  rw [named?_merged_document wellFormed [] analyzers atRoot uniqueRoot] at foundRoot
  cases foundRoot
  rw [List.nil_append] at decodedFamilies
  obtain ⟨_, w, isRead, unique, found, decodedFamily⟩ := of_decodeAnalyzers f decodedFamilies
  cases isRead
  rw [named?_merged_document wellFormed ["analyzers"] settings atFamily unique] at found
  cases found
  rw [same]
  exact decodedFamily

theorem family_of_unmentioned (wellFormed : document.WellFormed) (read : ofDocument document = .ok c)
    (analyzers : document.mappingAt ["analyzers"])
    (absent : document.at? ["analyzers", f.key] = none) :
    c.family f = { options := defaultOptions f } := by
  have settings : document.mappingAt ["analyzers", f.key] := by simp [Value.mappingAt, absent]
  have decoded := family_of_ofDocument wellFormed read analyzers settings
  rw [Value.entriesAt, absent] at decoded
  have encoded := FamilySettings.decode_encode { options := defaultOptions f }
  exact Except.ok.inj (decoded.symm.trans encoded)

theorem options_of_ofDocument (wellFormed : document.WellFormed) (read : ofDocument document = .ok c)
    (analyzers : document.mappingAt ["analyzers"])
    (settings : document.mappingAt ["analyzers", f.key])
    (options : document.mappingAt ["analyzers", f.key, "config"]) :
    (c.family f).options =
      (defaultOptions f).merged ⟨document.entriesAt ["analyzers", f.key, "config"]⟩ := by
  obtain ⟨_, isMapping, unique, decoded, -⟩ :=
    FamilySettings.of_decode (family_of_ofDocument wellFormed read analyzers settings)
  cases isMapping
  have here := named?_merged_document wellFormed ["analyzers", f.key] options rfl unique
  rw [here] at decoded
  exact (Except.ok.inj decoded).symm

theorem rules_of_ofDocument (wellFormed : document.WellFormed) (read : ofDocument document = .ok c)
    (analyzers : document.mappingAt ["analyzers"])
    (settings : document.mappingAt ["analyzers", f.key])
    (rules : document.mappingOrNullAt ["analyzers", f.key, "rules"]) {rule : String}
    (own : document.mappingOrNullAt ["analyzers", f.key, "rules", rule]) :
    (c.family f).rules.get? rule =
      (document.at? ["analyzers", f.key, "rules", rule]).map fun _ =>
        ⟨document.entriesAt ["analyzers", f.key, "rules", rule]⟩ := by
  obtain ⟨_, isMapping, -, -, decoded⟩ :=
    FamilySettings.of_decode (family_of_ofDocument wellFormed read analyzers settings)
  cases isMapping
  -- The defaults have no rules, so a key with this name is the document's.
  have table : named? "rules" (mergeEntries (defaultEntries f)
      (document.entriesAt ["analyzers", f.key])) = document.at? ["analyzers", f.key, "rules"] := by
    rw [named?_mergeEntries_of_apart (by simp [defaultEntries]) (wellFormed.entriesAt _).distinctKeys,
      ← Value.at?_concat]
    exact Option.or_none
  have entry : document.at? ["analyzers", f.key, "rules", rule] =
      (document.entriesAt ["analyzers", f.key, "rules"]).named? rule :=
    Value.at?_concat document ["analyzers", f.key, "rules"] rule
  have tableEntries := decodeEntries_at? rules "a map"
  have ownEntries := decodeEntries_at? own "a YAML mapping"
  rw [table] at decoded
  cases found : document.at? ["analyzers", f.key, "rules"] with
  | none =>
      simp only [found] at decoded tableEntries
      rw [entry, tableEntries, decoded]
      rfl
  | some w =>
      simp only [found] at decoded tableEntries
      obtain ⟨entries, isEntries, result⟩ := of_decodeTable rule decoded
      rw [tableEntries, Except.ok.injEq] at isEntries
      rw [← isEntries, ← entry] at result
      cases mentioned : document.at? ["analyzers", f.key, "rules", rule] with
      | none =>
          simp only [mentioned] at result
          exact result
      | some v =>
          simp only [mentioned] at result ownEntries
          obtain ⟨options, decodedOwn, got⟩ := result
          rw [decodeOptions, ownEntries] at decodedOwn
          rw [got, ← Except.ok.inj decodedOwn]
          rfl

/-- The options of a rule: the defaults, the family's and the rule's own, merged in this order. -/
theorem optionsOf_of_ofDocument (wellFormed : document.WellFormed)
    (read : ofDocument document = .ok c)
    (analyzers : document.mappingAt ["analyzers"])
    (settings : document.mappingAt ["analyzers", f.key])
    (options : document.mappingAt ["analyzers", f.key, "config"])
    (rules : document.mappingOrNullAt ["analyzers", f.key, "rules"]) {rule : String}
    (own : document.mappingOrNullAt ["analyzers", f.key, "rules", rule]) :
    (c.family f).optionsOf rule =
      ((defaultOptions f).merged ⟨document.entriesAt ["analyzers", f.key, "config"]⟩).merged
        ⟨document.entriesAt ["analyzers", f.key, "rules", rule]⟩ := by
  have ownEntries := decodeEntries_at? own "a YAML mapping"
  rw [FamilySettings.optionsOf, options_of_ofDocument wellFormed read analyzers settings options,
    rules_of_ofDocument wellFormed read analyzers settings rules own]
  cases mentioned : document.at? ["analyzers", f.key, "rules", rule] with
  | some v => rfl
  | none =>
      simp only [mentioned] at ownEntries
      rw [ownEntries]
      exact (merged_empty _).symm

end Document

/-! ## Where the options go -/

theorem analyzer_rule_options {v : Validator} (registry : v.registry = .builtin) {f : Family}
    {rule : String} (builtin : rule ∈ f.rules) :
    ((v.analyzerOf f).rules[f.rules.idxOf rule]?).map (fun r => (r.name, r.options)) =
      some (rule, (v.config.family f).optionsOf rule) := by
  have options := Validator.builtin_rules_options registry f
  have length := congrArg List.length options
  rw [List.length_map, List.length_map] at length
  have before : f.rules.idxOf rule < f.rules.length := List.idxOf_lt_length_iff.2 builtin
  rw [Validator.analyzerOf_rules, Validator.rulesOf, List.getElem?_append_left (by omega),
    ← List.getElem?_map, options, List.getElem?_map, List.getElem?_eq_getElem before]
  simp

theorem family_of_rule : ∀ f : Family, ∀ rule ∈ f.rules,
    (Family.all.find? fun f => f.rules.contains rule) = some f := by
  intro f
  cases f <;> decide

/-- What an explanation of a rule says before its options. -/
def ruleHeading (c : Config) (f : Family) (rule : String) : List String :=
  ["Rule: " ++ rule, "Family: " ++ f.title ++ " (" ++ Cli.statusOf (c.family f) ++ ")", "",
    "Description:", "   " ++ Cli.descriptionOf rule]

/-- What an explanation of a rule says about its options. -/
def optionLines (o : Options) : List String :=
  if o.isEmpty then []
  else ["", "Effective options:"] ++
    ((Yaml.render (.mapping o.entries)).splitOn "\n").dropLast.map ("   " ++ ·)

theorem explain_output {env : Cli.Environment} {given : Option String} {path text : String}
    {c : Config} (file : Cli.configFile? env.files given = some path)
    (content : env.files.readText path = .ok text) (loaded : load text = .ok c) {f : Family}
    {rule : String} (builtin : rule ∈ f.rules) :
    (Cli.explain env given rule).output =
      Cli.unlines (ruleHeading c f rule ++ optionLines ((c.family f).optionsOf rule)) := by
  have config : Cli.loadConfig env.files given = .ok c := by
    simp only [Cli.loadConfig, file, loadFile, content, loaded]
  simp only [Cli.explain, config, family_of_rule f rule builtin]
  rfl

/-- The options of a built-in rule on three levels: what the document gives the rule comes before
what it gives the family, and that before the family's defaults, where mappings are merged. These
are the options that the analyzer of the family hands to the rule and that an explanation of the
rule prints. -/
theorem ruleOptions_precedence {text : String} {document : Value} {c : Config}
    (parsed : Yaml.parse? text = some document) (loaded : load text = .ok c) {f : Family}
    {rule : String} (builtin : rule ∈ f.rules)
    (analyzers : document.mappingAt ["analyzers"])
    (settings : document.mappingAt ["analyzers", f.key])
    (options : document.mappingAt ["analyzers", f.key, "config"])
    (rules : document.mappingOrNullAt ["analyzers", f.key, "rules"])
    (own : document.mappingOrNullAt ["analyzers", f.key, "rules", rule]) :
    let given : Options := ⟨document.entriesAt ["analyzers", f.key, "config"]⟩
    let overrides : Options := ⟨document.entriesAt ["analyzers", f.key, "rules", rule]⟩
    ∃ o : Options,
      o = ((defaultOptions f).merged given).merged overrides ∧
      (∀ k, o.get? k =
        layered (layered ((defaultOptions f).get? k) (given.get? k)) (overrides.get? k)) ∧
      (∃ v, Validator.ofConfig c = .ok v ∧
        ((v.analyzerOf f).rules[f.rules.idxOf rule]?).map (fun r => (r.name, r.options)) =
          some (rule, o)) ∧
      (∀ (env : Cli.Environment) (config : Option String) (path : String),
        Cli.configFile? env.files config = some path → env.files.readText path = .ok text →
          (Cli.explain env config rule).output =
            Cli.unlines (ruleHeading c f rule ++ optionLines o)) ∧
      (document.at? ["analyzers", f.key] = none →
        c.family f = default.family f ∧ o = defaultOptions f) ∧
      (document.at? ["analyzers", f.key, "rules", rule] = none → o = (c.family f).options) ∧
      (∀ k, given.get? k = none → overrides.get? k = none → o.get? k = (defaultOptions f).get? k) := by
  intro given overrides
  have wellFormed := parse?_wellFormed parsed
  have read := loaded
  rw [load_of_parse? parsed] at read
  have o_eq := optionsOf_of_ofDocument wellFormed read analyzers settings options rules own
  have givenWellFormed : given.WellFormed := wellFormed.entriesAt _
  have overridesWellFormed : overrides.WellFormed := wellFormed.entriesAt _
  have levels (k : String) : ((c.family f).optionsOf rule).get? k =
      layered (layered ((defaultOptions f).get? k) (given.get? k)) (overrides.get? k) := by
    rw [o_eq, Options.get?_merged _ overridesWellFormed, Options.get?_merged _ givenWellFormed]
  refine ⟨(c.family f).optionsOf rule, o_eq, levels, ?_, ?_, ?_, ?_, ?_⟩
  · obtain ⟨-, -, -, valid⟩ := ofDocument_eq_ok.1 read
    let v : Validator := { config := c, view := .ofSettings c.report }
    refine ⟨v, ?_, analyzer_rule_options (v := v) rfl builtin⟩
    rw [Validator.ofConfig, valid]
  · intro env config path file content
    exact explain_output file content loaded builtin
  · intro absent
    have unmentioned := family_of_unmentioned wellFormed read analyzers absent
    rw [unmentioned, family_default]
    exact ⟨rfl, rfl⟩
  · intro absent
    have noOverrides := rules_of_ofDocument wellFormed read analyzers settings rules own
    rw [absent] at noOverrides
    rw [FamilySettings.optionsOf, noOverrides]
    rfl
  · intro k notGiven notOwn
    rw [levels, notGiven, notOwn, layered_none, layered_none]

/-- A document with options on two levels for one rule. -/
def layeredText : String :=
  "analyzers: \x7bddd: \x7bconfig: \x7ba: 1, b: 4\x7d, rules: \x7bddd.domain_layer: " ++
    "\x7ba: 2\x7d\x7d\x7d\x7d\npaths: \x7bexclude_patterns: []\x7d"

theorem ruleOptions_layeredText :
    ∃ c v r, load layeredText = .ok c ∧ Validator.ofConfig c = .ok v ∧
      (v.analyzerOf .ddd).rules[0]? = some r ∧ r.name = "ddd.domain_layer" ∧
      (r.options.get? "a").any (·.same (.int 2)) ∧ (r.options.get? "b").any (·.same (.int 4)) ∧
      (r.options.get? "application_namespaces").any (·.same (encodeStrings ["Application"])) := by
  have checked : (Yaml.parse? layeredText).any (fun d =>
      let o := ((defaultOptions .ddd).merged ⟨d.entriesAt ["analyzers", "ddd", "config"]⟩).merged
        ⟨d.entriesAt ["analyzers", "ddd", "rules", "ddd.domain_layer"]⟩
      (ofDocument d).isOk &&
        d.mappingAt ["analyzers"] && d.mappingAt ["analyzers", "ddd"] &&
        d.mappingAt ["analyzers", "ddd", "config"] &&
        d.mappingOrNullAt ["analyzers", "ddd", "rules"] &&
        d.mappingOrNullAt ["analyzers", "ddd", "rules", "ddd.domain_layer"] &&
        (o.get? "a").any (·.same (.int 2)) && (o.get? "b").any (·.same (.int 4)) &&
        (o.get? "application_namespaces").any (·.same (encodeStrings ["Application"]))) = true := by
    unfold Yaml.parse? layeredText
    rw [Yaml.tokens?_eq, String.toList_append, String.toList_ofList, String.toList_ofList]
    decide +kernel
  cases parsed : Yaml.parse? layeredText with
  | none => simp [parsed] at checked
  | some document =>
      rw [parsed] at checked
      simp only [Option.any_some, Bool.and_eq_true, and_assoc] at checked
      obtain ⟨accepted, analyzers, settings, options, rules, own, values⟩ := checked
      obtain ⟨c, read⟩ : ∃ c, ofDocument document = .ok c := by
        cases result : ofDocument document with
        | ok c => exact ⟨c, rfl⟩
        | error fault => simp [result, Except.isOk, Except.toBool] at accepted
      have loaded := (load_of_parse? parsed).trans read
      obtain ⟨_, rfl, -, ⟨v, valid, handed⟩, -⟩ := ruleOptions_precedence parsed loaded (f := .ddd)
        (by decide) analyzers settings options rules own
      obtain ⟨r, first, same⟩ := Option.map_eq_some_iff.1 handed
      obtain ⟨named, gets⟩ := Prod.mk.inj same
      rw [Family.key] at gets
      rw [← gets] at values
      exact ⟨c, v, r, loaded, valid, first, named, values⟩

end Layering.Config
