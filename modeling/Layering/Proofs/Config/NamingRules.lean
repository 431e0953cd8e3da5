import Layering.Proofs.Analysis.Validation
import Layering.Proofs.Config.Acceptance
import Mathlib.Data.List.Forall2

/-!
# Naming rules that pass the check

Naming rules are read twice: when a configuration is checked, and by the policy that gets them as
options. Both find fault with the same entries, but only the policy looks at the keys. So the
rules made from an accepted configuration have every requirement that stands under a string, a
number or a boolean, and leave out those under other keys: `accepted_naming_rules_are_kept`. Of
these nobody hears, since built-in rules are not asked for their faults:
`naming_rule_lost_under_null`.
-/

namespace Layering

open Yaml

namespace Naming

/-- The naming rules that some options give. -/
def given (o : Options) : Entries := (o.mapping? "naming_rules").getD []

theorem ofOptions_eq (o : Options) : ofOptions o = readScopes (given o) := by
  rw [ofOptions, given]
  cases o.mapping? "naming_rules" <;> rfl

/-! ## One entry -/

theorem entryPattern?_eq (entry : Value) :
    Config.entryPattern? entry = (entryTexts entry).toOption.map Prod.fst := by
  cases entry with
  | mapping entries =>
      rw [Config.entryPattern?, entryTexts]
      cases text? "pattern" entries <;> rfl
  | _ => rfl

/-- The check of a configuration accepts the entries that a requirement can be read from. -/
theorem checkNamingEntry_eq_ok {entry : Value} :
    Config.checkNamingEntry entry = .ok () ↔ ∃ r, Requirement.ofEntry entry = .ok r := by
  rw [Config.checkNamingEntry, entryPattern?_eq, Requirement.ofEntry]
  cases entryTexts entry with
  | error fault => simp [Except.toOption, bind, Except.bind]
  | ok texts =>
      obtain ⟨pattern, description⟩ := texts
      cases compiled : compile pattern <;>
        simp [compiled, Except.toOption, bind, Except.bind, pure, Except.pure]

/-! ## All entries -/

/-- Requirements can be read from all entries under a key. -/
def Readable (e : Value × Value) : Prop :=
  ∀ entry ∈ entriesOf e.2, ∃ r, Requirement.ofEntry entry = .ok r

/-- Whether a key is a prefix: strings are, and numbers and booleans as texts. -/
def isPrefixed (e : Value × Value) : Bool := (Options.scalarText? e.1).isSome

/-- The scope has the prefix, and all requirements that are given below it, in order. -/
structure Scope.Keeps (e : Value × Value) (s : Scope) : Prop where
  start : Options.scalarText? e.1 = some s.start
  requirements :
    List.Forall₂ (fun entry r => Requirement.ofEntry entry = .ok r) (entriesOf e.2) s.requirements

theorem checkNaming_eq_ok {o : Options} :
    Config.checkNaming o = .ok () ↔ ∀ e ∈ given o, Readable e := by
  rw [Config.checkNaming, given]
  cases o.mapping? "naming_rules" with
  | none => simp
  | some entries =>
      simp only [Option.getD_some, Config.forM_eq_ok, checkNamingEntry_eq_ok, Readable]

theorem readEntries_of_readable (start : String) {entries : List Value}
    (readable : ∀ entry ∈ entries, ∃ r, Requirement.ofEntry entry = .ok r) :
    List.Forall₂ (fun entry r => Requirement.ofEntry entry = .ok r) entries
        (readEntries start entries).1 ∧
      (readEntries start entries).2 = [] := by
  induction entries with
  | nil => exact ⟨.nil, rfl⟩
  | cons entry rest ih =>
      obtain ⟨⟨r, read⟩, later⟩ := List.forall_mem_cons.1 readable
      obtain ⟨requirements, clear⟩ := ih later
      simp only [readEntries, read]
      exact ⟨.cons read requirements, clear⟩

theorem readable_of_readEntries {start : String} {entries : List Value}
    (clear : (readEntries start entries).2 = []) :
    ∀ entry ∈ entries, ∃ r, Requirement.ofEntry entry = .ok r := by
  induction entries with
  | nil => exact List.forall_mem_nil _
  | cons entry rest ih =>
      simp only [readEntries] at clear
      cases read : Requirement.ofEntry entry with
      | error fault => simp [read] at clear
      | ok r =>
          simp only [read] at clear
          exact List.forall_mem_cons.2 ⟨⟨r, read⟩, ih clear⟩

/-- With entries that can all be read, only keys are at fault. -/
theorem readScopes_of_readable {entries : Entries} (readable : ∀ e ∈ entries, Readable e) :
    List.Forall₂ Scope.Keeps (entries.filter isPrefixed) (readScopes entries).1 ∧
      (readScopes entries).2 =
        (entries.filter fun e => !isPrefixed e).map fun e => .key e.1 := by
  induction entries with
  | nil => exact ⟨.nil, rfl⟩
  | cons e rest ih =>
      obtain ⟨key, value⟩ := e
      obtain ⟨own, later⟩ := List.forall_mem_cons.1 readable
      obtain ⟨scopes, faults⟩ := ih later
      cases text : Options.scalarText? key with
      | none =>
          have unprefixed : isPrefixed (key, value) = false := by simp [isPrefixed, text]
          simpa [readScopes, text, unprefixed] using ⟨scopes, faults⟩
      | some start =>
          obtain ⟨requirements, clear⟩ := readEntries_of_readable start own
          have kept : Scope.Keeps (key, value) ⟨start, (readEntries start (entriesOf value)).1⟩ :=
            ⟨text, requirements⟩
          have prefixed : isPrefixed (key, value) = true := by simp [isPrefixed, text]
          simpa [readScopes, text, prefixed, clear] using ⟨⟨kept, scopes⟩, faults⟩

theorem readScopes_faults_eq_nil {entries : Entries} :
    (readScopes entries).2 = [] ↔
      (∀ e ∈ entries, Readable e) ∧ ∀ e ∈ entries, isPrefixed e = true := by
  constructor
  · intro clear
    induction entries with
    | nil => exact ⟨List.forall_mem_nil _, List.forall_mem_nil _⟩
    | cons e rest ih =>
        obtain ⟨key, value⟩ := e
        cases text : Options.scalarText? key with
        | none => simp [readScopes, text] at clear
        | some start =>
            simp only [readScopes, text, List.append_eq_nil_iff] at clear
            obtain ⟨readable, prefixed⟩ := ih clear.2
            exact ⟨List.forall_mem_cons.2 ⟨readable_of_readEntries clear.1, readable⟩,
              List.forall_mem_cons.2 ⟨by simp [isPrefixed, text], prefixed⟩⟩
  · rintro ⟨readable, prefixed⟩
    rw [(readScopes_of_readable readable).2, List.map_eq_nil_iff, List.filter_eq_nil_iff]
    intro e member
    simp [prefixed e member]

end Naming

open Naming

/-! ## Options that were accepted -/

namespace Policy.Custom

theorem namingConvention_validate_eq_ok {o : Options} :
    namingConvention.validate o = .ok () ↔
      Config.checkNaming o = .ok () ∧ ∀ e ∈ given o, isPrefixed e = true := by
  rw [checkNaming_eq_ok, ← readScopes_faults_eq_nil, ← ofOptions_eq, namingConvention]
  cases faults : (ofOptions o).2 <;> simp [faults]

end Policy.Custom

theorem Config.checkNaming_optionsOf {c : Config} (valid : c.validate = .ok ()) (f : Family)
    (rule : String) : checkNaming ((c.family f).optionsOf rule) = .ok () := by
  have accepted : c.checkFamily f = .ok () := (validate_eq_ok.1 valid).2.2 f
  simp only [checkFamily, bind_eq_ok] at accepted
  obtain ⟨⟨⟩, overridden, family⟩ := accepted
  rw [FamilySettings.optionsOf]
  cases found : (c.family f).rules.get? rule with
  | none => exact family
  | some overrides =>
      obtain ⟨entry, first, rfl⟩ := Option.map_eq_some_iff.1 found
      have own := forM_eq_ok.1 overridden entry (List.mem_of_find?_eq_some first)
      split at own
      · exact own
      · cases own

namespace Validator

variable {v : Validator}

theorem checkNaming_of_rulesOf (valid : v.config.validate = .ok ()) {f : Family} {r : Rule}
    (runs : r ∈ v.rulesOf f) (naming : r.policy = Policy.Custom.namingConvention) :
    Config.checkNaming r.options = .ok () := by
  rcases List.mem_append.1 runs with builtin | created
  · obtain ⟨id, -, found⟩ := List.mem_filterMap.1 builtin
    obtain ⟨p, -, rfl⟩ := Option.map_eq_some_iff.1 found
    by_cases known : p.name ∈ f.rules
    · simpa [known] using Config.checkNaming_optionsOf valid f p.name
    · simp only [known, if_false]
      rfl
  · -- A further rule is made only if it accepts its options itself.
    split at created
    · obtain ⟨⟨id, options⟩, -, made⟩ := List.mem_filterMap.1 created
      obtain ⟨p, -, -, accepted, rfl⟩ :=
        (Registry.create_eq_ok_iff _ _ _ _).1 (Registry.toOption_eq_some_iff.1 made)
      subst naming
      exact (Policy.Custom.namingConvention_validate_eq_ok.1 accepted).1
    · cases created

end Validator

/-- The policy for names accepts the options that the check of a configuration accepts, provided
that their naming rules all stand under prefixes. When a configuration was accepted, a rule with
this policy has all requirements that stand under a prefix, in order, and the other keys are its
faults. -/
theorem accepted_naming_rules_are_kept (o : Options) (v : Validator) :
    (Policy.Custom.namingConvention.validate o = .ok () ↔
      Config.checkNaming o = .ok () ∧ ∀ e ∈ given o, isPrefixed e = true) ∧
    (v.config.validate = .ok () → ∀ a ∈ v.analyzers, ∀ r ∈ a.rules,
      r.policy = Policy.Custom.namingConvention →
        List.Forall₂ Scope.Keeps ((given r.options).filter isPrefixed) (ofOptions r.options).1 ∧
        (ofOptions r.options).2 =
          ((given r.options).filter fun e => !isPrefixed e).map fun e => .key e.1) := by
  refine ⟨Policy.Custom.namingConvention_validate_eq_ok, ?_⟩
  intro valid a analyzer r runs naming
  rw [Validator.analyzers_eq] at analyzer
  obtain ⟨f, -, rfl⟩ := List.mem_map.1 analyzer
  rw [ofOptions_eq]
  exact readScopes_of_readable
    (checkNaming_eq_ok.1 (Validator.checkNaming_of_rulesOf valid runs naming))

/-- The defaults with two naming rules, one of them under null. -/
def nullKeyed : Validator :=
  { config := { Config.default with
      custom :=
        { enabled := true
          options := (Config.defaultOptions .custom).withValue "naming_rules"
            (.mapping [(.string "App", .string "/^X/"), (.null, .string "/^Y/")]) } }
    view := .ofSettings {} }

theorem nullKeyed_valid : nullKeyed.config.validate = .ok () :=
  Config.validate_of_default_paths rfl rfl fun f => by cases f <;> rfl

theorem nullKeyed_runs_naming :
    ∃ a ∈ nullKeyed.analyzers, ∃ r ∈ a.rules, r.policy = Policy.Custom.namingConvention ∧
      r.options = nullKeyed.config.custom.options := by
  rw [Validator.analyzers_eq]
  have enabled : Family.custom ∈ nullKeyed.config.enabledFamilies := by decide
  refine ⟨_, List.mem_map_of_mem enabled, ⟨_, nullKeyed.config.custom.options⟩, ?_, rfl, rfl⟩
  have listed : Policy.Custom.namingConvention ∈ Registry.familyPolicies .custom :=
    List.mem_cons_of_mem _ List.mem_cons_self
  rw [Validator.rulesOf,
    Validator.filterMap_builtinRule? (Validator.get?_familyPolicies (v := nullKeyed) rfl .custom)]
  exact List.mem_append_left _ (List.mem_map.2 ⟨_, listed, rfl⟩)

theorem nullKeyed_keeps_app :
    ∃ a ∈ nullKeyed.analyzers, ∃ r ∈ a.rules, r.policy = Policy.Custom.namingConvention ∧
      (∃ s, (ofOptions r.options).1 = [s] ∧ s.start = "App" ∧ s.requirements.length = 1) ∧
      (ofOptions r.options).2 = [.key .null] := by
  obtain ⟨a, analyzer, r, runs, naming, options⟩ := nullKeyed_runs_naming
  obtain ⟨scopes, faults⟩ :=
    (accepted_naming_rules_are_kept r.options nullKeyed).2 nullKeyed_valid a analyzer r runs naming
  have rules : given r.options = [(.string "App", .string "/^X/"), (.null, .string "/^Y/")] := by
    rw [options]
    rfl
  rw [rules] at scopes faults
  refine ⟨a, analyzer, r, runs, naming, ?_, faults⟩
  generalize (ofOptions r.options).1 = kept at scopes
  cases scopes with
  | cons app none =>
      cases none
      exact ⟨_, rfl, (Option.some.inj app.start).symm, app.requirements.length_eq.symm⟩

/-- The configuration is accepted and the custom family runs the policy for names, which has no
requirement for the rule under null and would not accept its options. -/
theorem naming_rule_lost_under_null :
    nullKeyed.config.validate = .ok () ∧
    ∃ a ∈ nullKeyed.analyzers, ∃ r ∈ a.rules, r.policy = Policy.Custom.namingConvention ∧
      Config.checkNaming r.options = .ok () ∧ r.policy.validate r.options ≠ .ok () ∧
      (.null, .string "/^Y/") ∈ given r.options ∧
      ∀ s ∈ (ofOptions r.options).1, ∀ q ∈ s.requirements, q.pattern ≠ "/^Y/" := by
  obtain ⟨a, analyzer, r, runs, naming, options⟩ := nullKeyed_runs_naming
  refine ⟨nullKeyed_valid, a, analyzer, r, runs, naming, ?_, ?_, ?_, ?_⟩
  · rw [options]
    rfl
  · rw [naming, options]
    intro accepted
    cases accepted
  · rw [options]
    exact .tail _ (.head _)
  · rw [options]
    have patterns : ((ofOptions nullKeyed.config.custom.options).1.flatMap fun s =>
        s.requirements.map (·.pattern)) = ["/^X/"] := rfl
    intro s scope q requirement lost
    have member : q.pattern ∈ ["/^X/"] :=
      patterns ▸ List.mem_flatMap.2 ⟨s, scope, List.mem_map_of_mem requirement⟩
    rw [lost] at member
    exact absurd member (by decide)

end Layering
