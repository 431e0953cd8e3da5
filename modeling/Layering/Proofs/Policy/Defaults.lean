import Layering.Proofs.Analysis.Validation
import Layering.Proofs.Config.Decoding
import Layering.Proofs.Policy.Forbidden

/-!
# The defaults of configurations and of policies

The names of layers are given twice, in the default options of the families and in the policies,
for options that leave them out. The lists differ, but each name of one contains a name of the
other, so they mean the same layers. The exception is the application layer of domain-driven
design, to which the policy counts use cases as well: `default_options_agree`.
-/

namespace Layering

open Config

namespace Source

/-! ## Lists of names that mean the same layer -/

/-- A name is in a layer when it is in another one each of whose names is in this layer. -/
theorem inLayer_of_covered {ps qs : List String} (covered : ∀ p ∈ ps, inLayer p qs = true)
    {name : String} (member : inLayer name ps = true) : inLayer name qs = true := by
  obtain ⟨p, pattern, found⟩ := List.any_eq_true.1 member
  obtain ⟨q, pattern', found'⟩ := List.any_eq_true.1 (covered p pattern)
  exact List.any_eq_true.2 ⟨q, pattern', Text.contains_trans found found'⟩

theorem inLayer_congr {ps qs : List String} (covered : ∀ p ∈ ps, inLayer p qs = true)
    (covers : ∀ q ∈ qs, inLayer q ps = true) (name : String) : inLayer name ps = inLayer name qs :=
  Bool.eq_iff_iff.2 ⟨inLayer_of_covered covered, inLayer_of_covered covers⟩

end Source

namespace Policy

open Source Text

/-! ## Clean architecture -/

namespace Clean

/-- The names mean the same four layers. -/
structure Layers.Same (a b : Layers) : Prop where
  entity : ∀ name, inLayer name a.entity = inLayer name b.entity
  useCase : ∀ name, inLayer name a.useCase = inLayer name b.useCase
  controller : ∀ name, inLayer name a.controller = inLayer name b.controller
  framework : ∀ name, inLayer name a.framework = inLayer name b.framework

theorem Layers.same_default :
    (Layers.ofOptions (defaultOptions .clean)).Same (Layers.ofOptions {}) where
  entity := inLayer_congr (by decide) (by decide)
  useCase := inLayer_congr (by decide) (by decide)
  controller _ := rfl
  framework _ := rfl

section Same

variable {o o' : Options} (same : (Layers.ofOptions o).Same (Layers.ofOptions o'))
include same

theorem entityLayer_congr (f : Source) (ctx : Context) :
    entityLayer.check o f ctx = entityLayer.check o' f ctx := by
  simp only [entityLayer, same.entity, same.useCase, same.controller, same.framework]

theorem useCaseLayer_congr (f : Source) (ctx : Context) :
    useCaseLayer.check o f ctx = useCaseLayer.check o' f ctx := by
  simp only [useCaseLayer, same.useCase, same.controller, same.framework]

theorem controllerLayer_congr
    (flag : o.flagOr "should_depend_on_use_cases" true = o'.flagOr "should_depend_on_use_cases" true)
    (f : Source) (ctx : Context) :
    controllerLayer.check o f ctx = controllerLayer.check o' f ctx := by
  simp only [controllerLayer, same.useCase, same.controller, same.framework, flag]

end Same

end Clean

/-! ## The application layer -/

namespace Ddd

/-- A use case, by its namespace, outside the application layer that depends on infrastructure. -/
def IsInfrastructureUseCase (f : Source) : Prop :=
  contains f.space "UseCase" = true ∧ contains f.space "Application" = false ∧
    ∃ dep ∈ f.dependencies.toList,
      contains dep "Infrastructure" = true ∨ contains dep "Infra" = true

/-- What the application layer has against a file that belongs to it. -/
def infrastructureVerdict (f : Source) : Option Violation :=
  forbid "ddd.application_layer"
    "Application layer should not depend directly on infrastructure layer but use interfaces."
    .warning (fun dep => inLayer dep ["Infrastructure", "Infra"]) f

theorem applicationLayer_default (f : Source) (ctx : Context) :
    applicationLayer.check (defaultOptions .ddd) f ctx =
      if contains f.space "Application" then infrastructureVerdict f else none := by
  have check : applicationLayer.check (defaultOptions .ddd) f ctx =
      if inLayer f.space ["Application"] && !false then infrastructureVerdict f else none := rfl
  simpa [inLayer] using check

theorem applicationLayer_constants (f : Source) (ctx : Context) :
    applicationLayer.check {} f ctx =
      if contains f.space "Application" || contains f.space "UseCase" then infrastructureVerdict f
      else none := by
  have check : applicationLayer.check {} f ctx =
      if inLayer f.space ["Application", "UseCase"] && !false then infrastructureVerdict f
      else none := rfl
  simpa [inLayer] using check

theorem infrastructureVerdict_isSome {f : Source} :
    (infrastructureVerdict f).isSome ↔ ∃ dep ∈ f.dependencies.toList,
      contains dep "Infrastructure" = true ∨ contains dep "Infra" = true := by
  have listed : (f.dependencies.toList.filter fun dep =>
      inLayer dep ["Infrastructure", "Infra"]) ≠ [] ↔ ∃ dep ∈ f.dependencies.toList,
        contains dep "Infrastructure" = true ∨ contains dep "Infra" = true := by
    simp [List.filter_eq_nil_iff, inLayer, or_iff_not_imp_left]
  rw [← listed]
  constructor
  · intro reported clear
    rw [infrastructureVerdict, forbid_of_nil clear] at reported
    cases reported
  · intro forbidden
    obtain ⟨v, reported, -⟩ := forbid_of_ne_nil forbidden
    rw [infrastructureVerdict, reported]
    rfl

/-- Only without options does the policy report use cases outside the application layer. -/
theorem applicationLayer_differs_iff (f : Source) (ctx : Context) :
    (applicationLayer.check (defaultOptions .ddd) f ctx ≠ applicationLayer.check {} f ctx ↔
      IsInfrastructureUseCase f) ∧
    (IsInfrastructureUseCase f → applicationLayer.check (defaultOptions .ddd) f ctx = none ∧
      (applicationLayer.check {} f ctx).isSome) := by
  have silent_reports (useCase : IsInfrastructureUseCase f) :
      applicationLayer.check (defaultOptions .ddd) f ctx = none ∧
        (applicationLayer.check {} f ctx).isSome := by
    obtain ⟨inside, outside, dependency⟩ := useCase
    rw [applicationLayer_default, applicationLayer_constants]
    simp [inside, outside, infrastructureVerdict_isSome.2 dependency]
  refine ⟨⟨fun differs => ?_, fun useCase same => ?_⟩, silent_reports⟩
  · rw [applicationLayer_default, applicationLayer_constants] at differs
    cases application : contains f.space "Application" with
    | true => simp [application] at differs
    | false =>
        cases useCase : contains f.space "UseCase" with
        | false => simp [application, useCase] at differs
        | true =>
            refine ⟨useCase, application, infrastructureVerdict_isSome.1 ?_⟩
            simp only [application, useCase, Bool.or_true, Bool.false_eq_true, if_false,
              if_true] at differs
            exact Option.isSome_iff_ne_none.2 (Ne.symm differs)
  · obtain ⟨silent, reports⟩ := silent_reports useCase
    rw [← same, silent] at reports
    cases reports

end Ddd

end Policy

/-! ## All policies -/

namespace Registry

/-- With the default options of its family, a policy judges as it does without options. -/
theorem check_defaultOptions {p : Policy} (builtin : p ∈ builtinPolicies) {f : Family}
    (member : p.name ∈ f.rules) (other : p.name ≠ "ddd.application_layer") (file : Source)
    (ctx : Context) : p.check (defaultOptions f) file ctx = p.check {} file ctx := by
  have clean := Policy.Clean.Layers.same_default
  have agree : ∀ p ∈ builtinPolicies, p.name ≠ "ddd.application_layer" →
      ∃ f : Family, p.name ∈ f.rules ∧
        ∀ file ctx, p.check (defaultOptions f) file ctx = p.check {} file ctx := by
    simp only [builtinPolicies, List.forall_mem_cons]
    -- The lists of the clean architecture mean the same layers; the other ones are equal.
    refine ⟨fun _ => ⟨.ddd, by decide, fun _ _ => rfl⟩, fun application => absurd rfl application,
      fun _ => ⟨.ddd, by decide, fun _ _ => rfl⟩,
      fun _ => ⟨.clean, by decide, Policy.Clean.entityLayer_congr clean⟩,
      fun _ => ⟨.clean, by decide, Policy.Clean.useCaseLayer_congr clean⟩,
      fun _ => ⟨.clean, by decide, Policy.Clean.controllerLayer_congr clean rfl⟩,
      fun _ => ⟨.hexagonal, by decide, fun _ _ => rfl⟩,
      fun _ => ⟨.hexagonal, by decide, fun _ _ => rfl⟩,
      fun _ => ⟨.hexagonal, by decide, fun _ _ => rfl⟩,
      fun _ => ⟨.custom, by decide, fun _ _ => rfl⟩,
      fun _ => ⟨.custom, by decide, fun _ _ => rfl⟩, List.forall_mem_nil _⟩
  obtain ⟨f', member', same⟩ := agree p builtin other
  rw [Validator.family_eq_of_mem_rules member member']
  exact same file ctx

end Registry

/-! ## Configurations with the default options -/

namespace Config

theorem optionsOf_default (f : Family) (rule : String) :
    (Config.default.family f).optionsOf rule = defaultOptions f := by
  cases f <;> rfl

theorem family_enableAll (c : Config) (families : List Family) (f : Family) :
    (c.enableAll families).family f =
      { c.family f with enabled := (c.family f).enabled || families.contains f } := by
  induction families generalizing c with
  | nil => simp [enableAll]
  | cons g rest ih =>
      have rest_eq : c.enableAll (g :: rest) = (c.enable g).enableAll rest := rfl
      rw [rest_eq, ih, enable, family_modifyFamily]
      by_cases same : g = f
      · simp [same]
      · simp [same, Ne.symm same]

end Config

namespace Validator

variable {v : Validator} {families : List Family}

theorem analyzer_of_enableAll (config : v.config = Config.default.enableAll families) {f : Family}
    (enabled : f ∈ families) :
    ({ name := f.title, rules := f.rules.filterMap (v.builtinRule? f) } : Analyzer) ∈ v.analyzers := by
  have runs : f ∈ v.config.enabledFamilies := by
    rw [Config.enabledFamilies, List.mem_filter, config, family_enableAll]
    exact ⟨by cases f <;> decide, by simp [enabled]⟩
  have noFurther : v.config.custom.customRules.entries = [] := by
    have custom := family_enableAll Config.default families .custom
    rw [← config] at custom
    exact congrArg (·.customRules.entries) custom
  rw [analyzers_eq, List.mem_map]
  refine ⟨f, runs, ?_⟩
  rw [rulesOf, noFurther]
  simp

theorem optionsOf_of_enableAll (config : v.config = Config.default.enableAll families) (f : Family)
    (rule : String) : (v.config.family f).optionsOf rule = defaultOptions f := by
  rw [config, family_enableAll]
  exact optionsOf_default f rule

/-- In the default configuration with some families switched on, the rules of these families give
the verdicts of the same rules without options. The rule of the application layer is the only
exception: it says nothing of use cases outside this layer that depend on infrastructure, and
these are the only files on which it differs. -/
theorem default_options_agree (registry : v.registry = .builtin)
    (config : v.config = Config.default.enableAll families) {f : Family} (enabled : f ∈ families) :
    ∃ a ∈ v.analyzers, a.name = f.title ∧ a.ruleNames = f.rules ∧
      ∀ rule ∈ a.rules, ∃ fresh, v.registry.instantiate rule.name = .ok fresh ∧
        ∀ (file : Source) (ctx : Context),
          (rule.name ≠ "ddd.application_layer" → rule.check file ctx = fresh.check file ctx) ∧
          (rule.name = "ddd.application_layer" →
            (rule.check file ctx ≠ fresh.check file ctx ↔
              Policy.Ddd.IsInfrastructureUseCase file) ∧
            (Policy.Ddd.IsInfrastructureUseCase file →
              rule.check file ctx = none ∧ (fresh.check file ctx).isSome)) := by
  have names := congrArg (List.map Prod.fst) (builtin_rules_options registry f)
  refine ⟨_, analyzer_of_enableAll config enabled, rfl, ?_, ?_⟩
  · simpa [Analyzer.ruleNames, Function.comp_def] using names
  · intro rule member
    obtain ⟨id, listed, found⟩ := List.mem_filterMap.1 member
    obtain ⟨p, registered, rfl⟩ := Option.map_eq_some_iff.1 found
    rw [registry] at registered
    obtain ⟨builtin, rfl⟩ := Registry.of_get?_builtin registered
    refine ⟨{ policy := p }, ?_, ?_⟩
    · rw [registry]
      exact Registry.instantiate_eq_ok_iff.2 ⟨p, registered, rfl⟩
    intro file ctx
    simp only [Rule.check, Rule.name, listed, if_true, optionsOf_of_enableAll config]
    refine ⟨fun other => Registry.check_defaultOptions builtin listed other file ctx, ?_⟩
    intro application
    have policy : p = Policy.Ddd.applicationLayer :=
      Registry.eq_of_name_eq builtin (by simp [Registry.builtinPolicies]) application
    have inDdd : p.name ∈ Family.ddd.rules := by
      rw [application]
      decide
    have family : f = .ddd := family_eq_of_mem_rules listed inDdd
    subst policy family
    exact Policy.Ddd.applicationLayer_differs_iff file ctx

/-- Of the rules that run, only the one of the application layer differs on a use case that depends
on infrastructure. -/
theorem default_options_differ_on_useCase :
    let v : Validator :=
      { config := Config.default.enableAll [.clean, .ddd], registry := .builtin,
        view := .ofSettings {} }
    let useCase : Source :=
      { path := "src/UseCase/Show.php", content := "", space := "App\\UseCase", typeName := "Show",
        imports := [], dependencies := { ordered := #["App\\Infra\\Db"] } }
    ∃ a ∈ v.analyzers, a.ruleNames = Family.ddd.rules ∧
      ∀ rule ∈ a.rules, ∃ fresh, v.registry.instantiate rule.name = .ok fresh ∧
        (rule.check useCase ⟨v.config, []⟩ ≠ fresh.check useCase ⟨v.config, []⟩ ↔
          rule.name = "ddd.application_layer") := by
  intro v useCase
  obtain ⟨a, member, -, names, agree⟩ := default_options_agree (v := v) rfl
    (rfl : v.config = Config.default.enableAll [.clean, .ddd]) (f := .ddd) (by decide)
  refine ⟨a, member, names, fun rule runs => ?_⟩
  obtain ⟨fresh, made, verdicts⟩ := agree rule runs
  obtain ⟨same, differ⟩ := verdicts useCase ⟨v.config, []⟩
  have infrastructure : Policy.Ddd.IsInfrastructureUseCase useCase := by
    refine ⟨by decide, by decide, "App\\Infra\\Db", by decide, .inr (by decide)⟩
  refine ⟨fresh, made, fun differs => ?_, fun application => ?_⟩
  · by_contra other
    exact differs (same other)
  · exact (differ application).1.2 infrastructure

end Validator

end Layering
