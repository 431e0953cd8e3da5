import Layering.Proofs.Analysis.Validation

/-!
# Further rules that cannot be made

The custom family runs the further rules of the configuration after its own. An entry from which
no rule can be made is passed over: it takes nothing from the others, and without it the analyzers
are the same. In the other families further rules count for nothing. Both are said by
`analyzers_pass_over_failing_entries`.
-/

namespace Layering

/-! ## Traversals that pass over failures -/

section Except

variable {ε α β : Type}

theorem forall₂_filterMap_toOption (f : α → Except ε β) (xs : List α) :
    List.Forall₂ (fun x y => f x = .ok y) (xs.filter fun x => (f x).isOk)
      (xs.filterMap fun x => (f x).toOption) := by
  induction xs with
  | nil => exact .nil
  | cons x xs ih =>
      cases result : f x with
      | error e => simpa [result, Except.isOk, Except.toBool, Except.toOption] using ih
      | ok y => simpa [result, Except.isOk, Except.toBool, Except.toOption] using ih

theorem filterMap_toOption_filter (f : α → Except ε β) (xs : List α) :
    (xs.filter fun x => (f x).isOk).filterMap (fun x => (f x).toOption) =
      xs.filterMap fun x => (f x).toOption := by
  rw [List.filterMap_filter]
  refine List.filterMap_congr fun x _ => ?_
  cases f x <;> rfl

end Except

/-! ## Other further rules -/

namespace Config

/-- The configuration with other further rules, in each family. -/
def withCustomRules (c : Config) (tables : Family → Table Options) : Config :=
  { c with
    ddd := { c.ddd with customRules := tables .ddd }
    clean := { c.clean with customRules := tables .clean }
    hexagonal := { c.hexagonal with customRules := tables .hexagonal }
    custom := { c.custom with customRules := tables .custom } }

theorem family_withCustomRules (c : Config) (tables : Family → Table Options) (f : Family) :
    (c.withCustomRules tables).family f = { c.family f with customRules := tables f } := by
  cases f <;> rfl

theorem enabledFamilies_withCustomRules (c : Config) (tables : Family → Table Options) :
    (c.withCustomRules tables).enabledFamilies = c.enabledFamilies := by
  simp only [enabledFamilies, family_withCustomRules]

end Config

namespace Validator

/-- The validator with other further rules, in each family. -/
def withCustomRules (v : Validator) (tables : Family → Table Options) : Validator :=
  { v with config := v.config.withCustomRules tables }

/-- The entries of the custom family's further rules from which a rule can be made. -/
def usableEntries (v : Validator) : Table Options :=
  v.config.custom.customRules.filter fun id options => (v.registry.create id options).isOk

theorem rulesOf_withCustomRules (v : Validator) {tables : Family → Table Options}
    (usable : tables .custom = v.usableEntries) (f : Family) :
    (v.withCustomRules tables).rulesOf f = v.rulesOf f := by
  have builtin : (v.withCustomRules tables).builtinRule? f = v.builtinRule? f := by
    funext id
    simp only [builtinRule?, withCustomRules, Config.family_withCustomRules]
    rfl
  have further : (tables .custom).entries.filterMap
        (fun entry => (v.registry.create entry.1 entry.2).toOption) =
      v.config.custom.customRules.entries.filterMap
        (fun entry => (v.registry.create entry.1 entry.2).toOption) := by
    rw [usable]
    exact filterMap_toOption_filter (fun entry : String × Options =>
      v.registry.create entry.1 entry.2) _
  rw [rulesOf, rulesOf, builtin]
  congr 1
  split
  · exact further
  · rfl

theorem mem_usableEntries (v : Validator) (entry : String × Options) :
    entry ∈ v.usableEntries.entries ↔ entry ∈ v.config.custom.customRules.entries ∧
      ∃ rule, v.registry.create entry.1 entry.2 = .ok rule := by
  rw [usableEntries, Table.filter, List.mem_filter]
  cases v.registry.create entry.1 entry.2 <;> simp [Except.isOk, Except.toBool]

theorem analyzers_withCustomRules (v : Validator) {tables : Family → Table Options}
    (usable : tables .custom = v.usableEntries) :
    (v.withCustomRules tables).analyzers = v.analyzers := by
  have families : (v.withCustomRules tables).config.enabledFamilies = v.config.enabledFamilies :=
    v.config.enabledFamilies_withCustomRules tables
  simp only [analyzers_eq, families, v.rulesOf_withCustomRules usable]

/-- The analyzer of the custom family has the built-in rules the registry provides, then the rules
made from those entries of its further rules from which one can be made, in ascending order of
their ids; the other families have their built-in rules only. A rule is made exactly when its id
is registered, its name is a family and a policy, and it accepts its options; else the id is not
found or the rule invalid. The analyzers stay the same when the failing entries are removed,
whatever further rules the other families are given. -/
theorem analyzers_pass_over_failing_entries (v : Validator) :
    (∃ made : List Rule,
      List.Forall₂ (fun entry rule => v.registry.create entry.1 entry.2 = .ok rule)
        v.usableEntries.entries made ∧
      v.analyzers = v.config.enabledFamilies.map fun f =>
        { name := f.title
          rules := f.rules.filterMap (v.builtinRule? f) ++ if f = .custom then made else [] }) ∧
    v.usableEntries.keys.Pairwise (· < ·) ∧
    (∀ entry, entry ∈ v.usableEntries.entries ↔
      entry ∈ v.config.custom.customRules.entries ∧
        ∃ rule, v.registry.create entry.1 entry.2 = .ok rule) ∧
    (∀ id options rule, v.registry.create id options = .ok rule ↔
      ∃ fresh, v.registry.instantiate id = .ok fresh ∧ Policy.IsRuleName fresh.name ∧
        (fresh.configure options).validate = .ok () ∧ rule = fresh.configure options) ∧
    (∀ id options e, v.registry.create id options = .error e →
      v.registry.contains id = false ∧ e = .ruleNotFound id ∨
        v.registry.contains id = true ∧ ∃ name fault, e = .invalidRule name fault) ∧
    (∀ tables : Family → Table Options, tables .custom = v.usableEntries →
      (v.withCustomRules tables).analyzers = v.analyzers) := by
  refine ⟨?_, List.pairwise_map.2 v.usableEntries.ascending, v.mem_usableEntries, ?_, ?_, ?_⟩
  · refine ⟨_, forall₂_filterMap_toOption (fun entry : String × Options =>
      v.registry.create entry.1 entry.2) v.config.custom.customRules.entries, ?_⟩
    exact v.analyzers_eq
  · intro id options rule
    exact Registry.create_eq_ok_iff_configured
  · intro id options e failed
    exact Registry.create_eq_error failed
  · intro tables usable
    exact v.analyzers_withCustomRules usable

/-- A policy that accepts no options. -/
def refusing : Policy :=
  { name := "acme.refusing", description := "accepts no options",
    validate := fun _ => .error (.validation "refused"), check := fun _ _ _ => none }

/-- A policy whose name is of no family. -/
def nameless : Policy :=
  { name := "nameless", description := "is of no family", check := fun _ _ _ => none }

/-- Three further rules that cannot be made stand around one that can, and another family has a
further rule as well. -/
def troubled : Validator :=
  { config := (Config.default.enableAll [.ddd, .custom]).withCustomRules fun f => match f with
      | .custom => .ofList [("acme.gone", {}), ("acme.nameless", {}), ("acme.port", {}),
          ("acme.refusing", {})]
      | _ => .ofList [("acme.port", {})]
    registry := Registry.builtin
      |>.register "acme.nameless" nameless
      |>.register "acme.port" Policy.Hexagonal.port
      |>.register "acme.refusing" refusing
    view := .ofSettings {} }

theorem get?_troubled (id : String) : troubled.registry.policies.get? id =
    if "acme.refusing" = id then some refusing
    else if "acme.port" = id then some Policy.Hexagonal.port
    else if "acme.nameless" = id then some nameless
    else Registry.builtinPolicies.find? (·.name == id) := by
  simp only [troubled, Registry.register, Table.get?_insert, Registry.get?_builtin]

theorem analyzers_troubled :
    troubled.usableEntries.keys = ["acme.port"] ∧
      troubled.analyzers.map Analyzer.ruleNames =
        [["ddd.domain_layer", "ddd.application_layer", "ddd.infrastructure_layer"],
          ["custom.namespace_dependency", "custom.naming_convention", "hexagonal.port"]] ∧
      (troubled.withCustomRules fun _ => troubled.usableEntries).analyzers = troubled.analyzers ∧
      ∃ name fault, troubled.registry.create "acme.refusing" {} = .error (.invalidRule name fault) := by
  obtain ⟨-, -, -, -, failing, removed⟩ := analyzers_pass_over_failing_entries troubled
  refine ⟨?usable, ?names, removed _ rfl, ?_⟩
  case usable =>
    simp only [usableEntries, Registry.create, Registry.instantiate, get?_troubled]
    decide
  case names =>
    have enabled : troubled.config.enabledFamilies = [.ddd, .custom] := by decide
    have registered (f : Family) : ∀ p ∈ Registry.familyPolicies f,
        troubled.registry.policies.get? p.name = some p := by
      intro p member
      have others : ∀ id ∈ f.rules,
          "acme.refusing" ≠ id ∧ "acme.port" ≠ id ∧ "acme.nameless" ≠ id := by
        cases f <;> decide
      obtain ⟨refusing, port, nameless⟩ :=
        others p.name (Registry.names_of_familyPolicies f ▸ List.mem_map_of_mem member)
      rw [get?_troubled, if_neg refusing, if_neg port, if_neg nameless, ← Registry.get?_builtin]
      exact Registry.get?_builtin_name (Registry.mem_builtinPolicies member)
    simp only [analyzers_eq, enabled, rulesOf, filterMap_builtinRule? (registered _),
      Registry.create, Registry.instantiate, get?_troubled]
    decide
  have registered : troubled.registry.contains "acme.refusing" = true := by
    rw [Registry.contains, Table.contains_eq_isSome, get?_troubled]
    rfl
  have refused : (troubled.registry.create "acme.refusing" {}).isOk = false := by
    simp only [Registry.create, Registry.instantiate, get?_troubled]
    decide
  cases made : troubled.registry.create "acme.refusing" {} with
  | ok rule =>
      rw [made] at refused
      cases refused
  | error e =>
      rcases failing _ _ _ made with ⟨unknown, -⟩ | ⟨-, name, fault, rfl⟩
      · cases registered.symm.trans unknown
      · exact ⟨name, fault, rfl⟩

end Validator

end Layering
