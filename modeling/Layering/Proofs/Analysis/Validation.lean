import Layering.Proofs.Analysis.Cancellation

/-!
# What a validation reports

A validator's run, told family by family, file by file and rule by rule:

* `run_reports_all_verdicts`: with pure rules, a run that is not cancelled reports the verdict of
  every rule on every file, in one fixed order and in both modes.
* `sequentialRun_reports_prefix`: with rules that may cancel the run, a sequential run reports
  the verdicts on the pairs of a family and a file before which the run was not yet cancelled.
-/

namespace Layering.Validator
open Analysis

/-! ## The rules of a family -/

/-- The rule a family has under the id of a built-in rule: the policy registered there. It gets
the options for its own name, if that is the name of a built-in rule of the family. -/
def builtinRule? (v : Validator) (f : Family) (id : String) : Option Rule :=
  (v.registry.policies.get? id).map fun p =>
    { policy := p
      options := if p.name ∈ f.rules then (v.config.family f).optionsOf p.name else {} }

/-- The rules of a family in the order they judge a file: the built-in ones, then, in the custom
family, those that can be created, in the order of their ids. -/
def rulesOf (v : Validator) (f : Family) : List Rule :=
  f.rules.filterMap (v.builtinRule? f) ++
    if f = .custom then
      v.config.custom.customRules.entries.filterMap fun (id, options) =>
        (v.registry.create id options).toOption
    else []

theorem configured_builtin (v : Validator) (f : Family) :
    ((Analyzer.ofFamily f v.registry).configure (v.ruleOptions f)).rules =
      f.rules.filterMap (v.builtinRule? f) := by
  simp only [Analyzer.configure, Analyzer.ofFamily, List.map_filterMap]
  congr 1
  funext id
  simp only [builtinRule?, Registry.instantiate]
  cases v.registry.policies.get? id with
  | none => rfl
  | some p =>
      simp only [Except.toOption, Option.map_some, ruleOptions, Table.get?_ofList_map, Rule.name]
      by_cases known : p.name ∈ f.rules <;> simp [known, Rule.configure]

theorem analyzerOf_rules (v : Validator) (f : Family) : (v.analyzerOf f).rules = v.rulesOf f := by
  cases f with
  | custom => simp [analyzerOf, rulesOf, configured_builtin, customRules]
  | _ => simp [analyzerOf, rulesOf, configured_builtin]

theorem analyzerOf_eq (v : Validator) (f : Family) :
    v.analyzerOf f = { name := f.title, rules := v.rulesOf f } := by
  rw [← analyzerOf_rules]
  cases f <;> rfl

theorem analyzers_eq (v : Validator) :
    v.analyzers = v.config.enabledFamilies.map fun f => { name := f.title, rules := v.rulesOf f } := by
  rw [analyzers]
  exact List.map_congr_left fun f _ => v.analyzerOf_eq f

/-- What holds of all policies of the registry holds of those the rules are made from. -/
theorem policy_of_rulesOf {v : Validator} {P : Policy → Prop}
    (all : ∀ entry ∈ v.registry.policies.entries, P entry.2) (f : Family) :
    ∀ r ∈ v.rulesOf f, P r.policy := by
  intro r member
  rcases List.mem_append.1 member with builtin | created
  · obtain ⟨id, -, found⟩ := List.mem_filterMap.1 builtin
    obtain ⟨p, registered, rfl⟩ := Option.map_eq_some_iff.1 found
    exact Registry.forall_get? all registered
  · split at created
    · obtain ⟨⟨id, options⟩, -, made⟩ := List.mem_filterMap.1 created
      obtain ⟨p, registered, -, -, rfl⟩ :=
        (Registry.create_eq_ok_iff _ _ _ _).1 (Registry.toOption_eq_some_iff.1 made)
      exact Registry.forall_get? all registered
    · simp at created

theorem family_eq_of_mem_rules {f f' : Family} {name : String} (member : name ∈ f.rules)
    (member' : name ∈ f'.rules) : f = f' := by
  revert name
  cases f <;> cases f' <;> first | exact fun _ _ => rfl | decide

/-- Where the policies of a family are registered under their names, its built-in rules are these
policies with the options under their names. -/
theorem filterMap_builtinRule? {v : Validator} {f : Family}
    (registered : ∀ p ∈ Registry.familyPolicies f, v.registry.policies.get? p.name = some p) :
    f.rules.filterMap (v.builtinRule? f) = (Registry.familyPolicies f).map fun p =>
      { policy := p, options := (v.config.family f).optionsOf p.name } := by
  rw [← List.filterMap_eq_map, ← Registry.names_of_familyPolicies, List.filterMap_map]
  refine List.filterMap_congr fun p member => ?_
  have listed : p.name ∈ f.rules :=
    Registry.names_of_familyPolicies f ▸ List.mem_map_of_mem member
  simp [builtinRule?, registered p member, listed]

theorem get?_familyPolicies {v : Validator} (registry : v.registry = .builtin) (f : Family) :
    ∀ p ∈ Registry.familyPolicies f, v.registry.policies.get? p.name = some p := by
  intro p member
  rw [registry]
  exact Registry.get?_builtin_name (Registry.mem_builtinPolicies member)

/-- The built-in rules of a family get the options under their names, in order. -/
theorem builtin_rules_options {v : Validator} (registry : v.registry = .builtin) (f : Family) :
    (f.rules.filterMap (v.builtinRule? f)).map (fun r => (r.name, r.options)) =
      f.rules.map fun rule => (rule, (v.config.family f).optionsOf rule) := by
  rw [filterMap_builtinRule? (get?_familyPolicies registry f), List.map_map, ← Registry.names_of_familyPolicies,
    List.map_map]
  rfl

/-- Without further rules, the rules of a family are its built-in ones. -/
theorem rulesOf_builtin {v : Validator} (registry : v.registry = .builtin)
    (noFurther : v.config.custom.customRules.entries = []) (f : Family) :
    v.rulesOf f = (Registry.familyPolicies f).map fun p =>
      { policy := p, options := (v.config.family f).optionsOf p.name } := by
  rw [rulesOf, filterMap_builtinRule? (get?_familyPolicies registry f), noFurther,
    List.filterMap_nil, ite_self, List.append_nil]

theorem rulesOf_pure {v : Validator} (pure : v.registry.Pure) (f : Family) :
    ∀ r ∈ v.rulesOf f, r.Pure := by
  intro r member
  have policy : r.policy.Pure := policy_of_rulesOf pure f r member
  exact policy r.options

/-! ## Pairs of a family and a file -/

/-- The pairs of an enabled family and a file, by family first. -/
def pairs (v : Validator) (sources : List Source) : List (Family × Source) :=
  v.config.enabledFamilies.flatMap fun f => sources.map (f, ·)

/-- What the rules of a family have against a file. -/
def verdicts (v : Validator) (ctx : Context) (pair : Family × Source) : Violations :=
  (v.rulesOf pair.1).filterMap fun r => r.check pair.2 ctx

/-- Whether judging a file by the rules of a family cancels the run. -/
def trips (v : Validator) (pair : Family × Source) : Bool :=
  (v.rulesOf pair.1).any fun r => r.trips pair.2

theorem analyzerPairs_eq (v : Validator) (sources : List Source) :
    analyzerPairs v.analyzers sources =
      (v.pairs sources).map fun pair => (v.analyzerOf pair.1, pair.2) := by
  simp [analyzerPairs, analyzers, pairs, List.flatMap_map, List.map_flatMap, Function.comp_def]

theorem run_sequential (v : Validator) (cancelled : Bool) (sources : List Source)
    (files : List String) :
    let n := evaluatedCount v.trips cancelled (v.pairs sources)
    let report := v.run .sequential cancelled sources files
    report.violations = ((v.pairs sources).take n).flatMap (v.verdicts ⟨v.config, files⟩) ∧
      report.cancelled = decide (n < (v.pairs sources).length) ∧
      report.totalFiles =
        if v.config.enabledFamilies ≠ [] ∧ n < sources.length then n else sources.length := by
  intro n report
  obtain ⟨violations, stopped, total⟩ := runAnalyzers_sequential ⟨v.config, files⟩ sources true
    cancelled v.analyzers
    ((Report.empty.setFingerprint v.config.fingerprint).setFiles sources.length)
  have trips_eq : (fun pair : Family × Source => (v.analyzerOf pair.1).trips pair.2) = v.trips := by
    funext pair
    rw [Analyzer.trips, analyzerOf_rules, trips]
  have n_eq : evaluatedCount (fun p : Analyzer × Source => p.1.trips p.2) cancelled
      (analyzerPairs v.analyzers sources) = n := by
    rw [analyzerPairs_eq, evaluatedCount_map, trips_eq]
  have verdicts_eq : (fun pair : Family × Source =>
      (v.analyzerOf pair.1).evaluate ⟨v.config, files⟩ pair.2) = v.verdicts ⟨v.config, files⟩ := by
    funext pair
    rw [Analyzer.evaluate, analyzerOf_rules, verdicts]
  rw [n_eq] at violations stopped total
  refine ⟨?_, ?_, ?_⟩
  · rw [analyzerPairs_eq, ← List.map_take, List.flatMap_map, verdicts_eq] at violations
    exact violations
  · rw [analyzerPairs_eq, List.length_map] at stopped
    exact stopped
  · have some : v.analyzers ≠ [] ↔ v.config.enabledFamilies ≠ [] := by simp [analyzers]
    simp only [some, true_and] at total
    exact total

theorem run_counted (v : Validator) (mode : Mode) (cancelled : Bool) (sources : List Source)
    (files : List String) : (v.run mode cancelled sources files).Counted :=
  runAnalyzers_counted _ _ _ _ _ _ _ Report.counted_empty

theorem run_parallel {v : Validator} (pure : v.registry.Pure) (sources : List Source)
    (files : List String) :
    v.run .parallel false sources files = v.run .sequential false sources files := by
  refine runAnalyzers_parallel _ _ _ _ ?_ _
  intro a member
  obtain ⟨f, -, rfl⟩ := List.mem_map.1 member
  intro r rule
  rw [analyzerOf_rules] at rule
  exact rulesOf_pure pure f r rule

theorem evaluatedCount_pure {v : Validator} (pure : v.registry.Pure) (sources : List Source) :
    evaluatedCount v.trips false (v.pairs sources) = (v.pairs sources).length := by
  refine evaluatedCount_of_untripped _ _ fun pair _ => List.any_eq_false.2 fun r member => ?_
  simp [rulesOf_pure pure pair.1 r member pair.2]

theorem run_pure {v : Validator} (pure : v.registry.Pure) (mode : Mode) (sources : List Source)
    (files : List String) :
    (v.run mode false sources files).violations =
        (v.pairs sources).flatMap (v.verdicts ⟨v.config, files⟩) ∧
      (v.run mode false sources files).cancelled = false := by
  have sequential : v.run mode false sources files = v.run .sequential false sources files := by
    cases mode with
    | sequential => rfl
    | parallel => exact run_parallel pure sources files
  obtain ⟨violations, stopped, -⟩ := v.run_sequential false sources files
  rw [evaluatedCount_pure pure] at violations stopped
  rw [sequential, violations, stopped]
  simp

/-- With pure rules, a run that is not cancelled reports the verdicts of all rules of the enabled
families: by family, then by file, then by rule. It counts them by severity, and it does so in
both modes. -/
theorem run_reports_all_verdicts (v : Validator) (pure : v.registry.Pure) (mode : Mode)
    (sources : List Source) (files : List String) :
    let enabled := ([.ddd, .clean, .hexagonal, .custom] : List Family).filter fun f =>
      (v.config.family f).enabled
    let found := enabled.flatMap fun f => sources.flatMap fun file =>
      (v.rulesOf f).filterMap fun r => r.check file ⟨v.config, files⟩
    let report := v.run mode false sources files
    report.violations = found ∧
      v.config.custom.customRules.keys.Pairwise (· < ·) ∧
      report.cancelled = false ∧
      report.totalFiles = sources.length ∧
      ∀ s, report.counts.get s = found.countP fun violation => violation.severity = s := by
  intro enabled found report
  have sequential : report = v.run .sequential false sources files := by
    cases mode with
    | sequential => rfl
    | parallel => exact run_parallel pure sources files
  obtain ⟨violations, stopped, total⟩ := v.run_sequential false sources files
  rw [evaluatedCount_pure pure] at violations stopped total
  have all : report.violations = found := by
    rw [sequential, violations, List.take_length]
    simp [pairs, found, enabled, List.flatMap_assoc, List.flatMap_map, verdicts,
      Config.enabledFamilies, Family.all]
  refine ⟨all, ?_, ?_, ?_, ?_⟩
  · exact List.pairwise_map.2 v.config.custom.customRules.ascending
  · simpa [sequential] using stopped
  · -- There are as many pairs as files for each enabled family.
    rw [sequential, total]
    cases families : v.config.enabledFamilies with
    | nil => simp
    | cons f rest =>
        have enough : ¬ (v.pairs sources).length < sources.length := by
          simp [pairs, families]
        simp [enough]
  · intro s
    rw [← all]
    exact v.run_counted mode false sources files s

/-- Two entities of the domain that depend on infrastructure, under two families. -/
theorem run_reports_entities_in_order :
    let v : Validator :=
      { config := Config.default.enableAll [.clean, .ddd], registry := .builtin,
        view := .ofSettings {} }
    let file (path : String) : Source :=
      { path, content := "", space := "App\\Domain\\Entity", typeName := "User", imports := [],
        dependencies := { ordered := #["App\\Infrastructure\\Db"] } }
    let report := v.run .parallel false [file "A.php", file "B.php"] ["A.php", "B.php"]
    report.violations.map (fun violation => (violation.rule, violation.path)) =
        [("ddd.domain_layer", "A.php"), ("ddd.domain_layer", "B.php"),
          ("clean.entity_layer", "A.php"), ("clean.entity_layer", "B.php")] ∧
      report.cancelled = false ∧ report.totalFiles = 2 ∧ report.counts.get .error = 2 := by
  -- With `report` in the context the kernel would compare the runs by evaluating them.
  intro v file
  obtain ⟨violations, -, uncancelled, total, counts⟩ :=
    run_reports_all_verdicts v Registry.builtin_pure .parallel [file "A.php", file "B.php"]
      ["A.php", "B.php"]
  simp only [rulesOf_builtin (v := v) rfl rfl] at violations counts
  have listed : (v.run .parallel false [file "A.php", file "B.php"]
      ["A.php", "B.php"]).violations.map (fun w => ((w.rule, w.path), w.severity)) =
        [(("ddd.domain_layer", "A.php"), .error), (("ddd.domain_layer", "B.php"), .error),
          (("clean.entity_layer", "A.php"), .critical),
          (("clean.entity_layer", "B.php"), .critical)] := by
    rw [violations]
    decide
  refine ⟨?_, uncancelled, total, ?_⟩
  · have ordered := congrArg (List.map Prod.fst) listed
    rw [List.map_map] at ordered
    exact ordered
  · have counted := congrArg (List.countP fun w => w.2 = Severity.error) listed
    rw [List.countP_map] at counted
    rw [counts, ← violations]
    exact counted

/-! ## Without cancellation -/

/-- The validator in a run that cannot be cancelled. -/
def withoutTrips (v : Validator) : Validator := { v with registry := v.registry.withoutTrips }

theorem rulesOf_withoutTrips (v : Validator) (f : Family) :
    v.withoutTrips.rulesOf f = (v.rulesOf f).map Rule.withoutTrips := by
  have builtin : v.withoutTrips.builtinRule? f =
      fun id => (v.builtinRule? f id).map Rule.withoutTrips := by
    funext id
    simp only [builtinRule?, withoutTrips, Registry.withoutTrips, Table.get?_map, Option.map_map]
    rfl
  rw [rulesOf, rulesOf, builtin, List.map_append, List.map_filterMap]
  congr 1
  split
  · simp only [withoutTrips, Registry.create_withoutTrips, List.map_filterMap]
  · rfl

theorem verdicts_withoutTrips (v : Validator) (ctx : Context) (pair : Family × Source) :
    v.withoutTrips.verdicts ctx pair = v.verdicts ctx pair := by
  simp [verdicts, rulesOf_withoutTrips, List.filterMap_map, Function.comp_def]

/-- A sequential run evaluates the pairs of a family and a file up to the first one before which
the run was cancelled, be it from the start or by an earlier pair. It reports their verdicts, so
a prefix of what the same run reports when it cannot be cancelled. It is cancelled when a pair is
left, and the files count as far as the first family got. -/
theorem sequentialRun_reports_prefix (v : Validator) (cancelled : Bool) (sources : List Source)
    (files : List String) :
    let all := v.pairs sources
    let report := v.run .sequential cancelled sources files
    ∃ n ≤ all.length,
      (∀ i < n, cancelledBefore v.trips cancelled all i = false) ∧
      (n < all.length → cancelledBefore v.trips cancelled all n = true) ∧
      report.violations = (all.take n).flatMap (v.verdicts ⟨v.config, files⟩) ∧
      report.violations <+: (v.withoutTrips.run .sequential false sources files).violations ∧
      (report.cancelled = true ↔ n < all.length) ∧
      report.totalFiles =
        if v.config.enabledFamilies ≠ [] ∧ n < sources.length then n else sources.length := by
  intro all report
  obtain ⟨violations, stopped, total⟩ := v.run_sequential cancelled sources files
  refine ⟨evaluatedCount v.trips cancelled all, evaluatedCount_le _ _ _,
    fun i before => cancelledBefore_lt _ _ _ before, cancelledBefore_evaluatedCount _ _ _,
    violations, ?_, ?_, total⟩
  · obtain ⟨uncancelled, -⟩ := v.withoutTrips.run_sequential false sources files
    have verdicts_eq : v.withoutTrips.verdicts ⟨v.config, files⟩ = v.verdicts ⟨v.config, files⟩ :=
      funext (v.verdicts_withoutTrips _)
    rw [evaluatedCount_pure v.registry.withoutTrips_pure, List.take_length] at uncancelled
    rw [violations, uncancelled]
    change _ <+: all.flatMap (v.withoutTrips.verdicts ⟨v.config, files⟩)
    rw [verdicts_eq]
    exact (List.take_prefix _ all).flatMap _
  · rw [stopped, decide_eq_true_iff]

end Layering.Validator
