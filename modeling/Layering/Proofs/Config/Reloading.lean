import Layering.Proofs.Config.Encoding

/-!
# Saving and reloading

Reloading the document of a configuration merges the options of each family over the family's
defaults and changes nothing else. A configuration that was built step by step still has the keys
of the defaults in front, so it comes back as it is.
-/

namespace Layering

open Yaml

/-! ## Well-formed configurations -/

/-- No mapping in the options has two equal keys. -/
def Options.WellFormed (o : Options) : Prop := (Value.mapping o.entries).WellFormed

namespace Options

theorem WellFormed.empty : Options.empty.WellFormed :=
  Value.wellFormed_mapping_iff.2 ⟨.nil, by simp [Options.empty]⟩

theorem WellFormed.withValue {o : Options} (wellFormed : o.WellFormed) (key : String) {value : Value}
    (inside : value.WellFormed) : (o.withValue key value).WellFormed :=
  Value.WellFormed.insert wellFormed trivial inside

theorem WellFormed.withList {o : Options} (wellFormed : o.WellFormed) (key : String)
    (items : List String) : (o.withList key items).WellFormed := by
  refine wellFormed.withValue key (Value.wellFormed_sequence_iff.2 fun v member => ?_)
  obtain ⟨item, -, rfl⟩ := List.mem_map.1 member
  trivial

theorem get?_merged (o : Options) {p : Options} (wellFormed : p.WellFormed) (key : String) :
    (o.merged p).get? key = layered (o.get? key) (p.get? key) :=
  find?_mergeEntries key o.entries wellFormed.distinctKeys

end Options

namespace Config

/-- All options of a family are well formed. -/
structure FamilySettings.WellFormed (s : FamilySettings) : Prop where
  options : s.options.WellFormed
  rules : ∀ e ∈ s.rules.entries, e.2.WellFormed
  customRules : ∀ e ∈ s.customRules.entries, e.2.WellFormed

/-- All options of a configuration are well formed. -/
def WellFormed (c : Config) : Prop := ∀ f, (c.family f).WellFormed

/-- The values that a step sets are well formed. -/
def Step.WellFormed : Step → Prop
  | .option _ _ value => value.WellFormed
  | .override _ _ options => options.WellFormed
  | .customRule _ options => options.WellFormed
  | _ => True

theorem defaultOptions_wellFormed (f : Family) : (defaultOptions f).WellFormed := by
  have noEntries : (Value.mapping []).WellFormed := Value.wellFormed_mapping_iff.2 ⟨.nil, by simp⟩
  have start := Options.WellFormed.empty
  cases f with
  | ddd => exact ((start.withList _ _).withList _ _).withList _ _
  | clean => exact (((start.withList _ _).withList _ _).withList _ _).withList _ _
  | hexagonal => exact (((start.withList _ _).withList _ _).withList _ _).withValue _ trivial
  | custom => exact ((start.withValue _ noEntries).withValue _ noEntries).withList _ _

theorem default_wellFormed : default.WellFormed := by
  intro f
  rw [family_default]
  exact ⟨defaultOptions_wellFormed f, by simp [Table.empty], by simp [Table.empty]⟩

theorem WellFormed.modifyFamily {c : Config} (wellFormed : c.WellFormed) (f : Family)
    {change : FamilySettings → FamilySettings}
    (kept : ∀ s : FamilySettings, s.WellFormed → (change s).WellFormed) :
    (c.modifyFamily f change).WellFormed := by
  intro g
  rw [family_modifyFamily]
  split
  · exact kept _ (wellFormed g)
  · exact wellFormed g

theorem forall_mem_insert {t : Table Options} (inside : ∀ e ∈ t.entries, e.2.WellFormed) (key : String)
    {options : Options} (wellFormed : options.WellFormed) :
    ∀ e ∈ (t.insert key options).entries, e.2.WellFormed := by
  intro e member
  rcases Table.mem_insertEntry member with rfl | present
  · exact wellFormed
  · exact inside e present

theorem WellFormed.apply {c : Config} (wellFormed : c.WellFormed) {step : Step}
    (allowed : step.WellFormed) : (c.apply step).WellFormed := by
  cases step with
  | enable f => exact wellFormed.modifyFamily f fun s inside => { inside with }
  | option f key value =>
      exact wellFormed.modifyFamily f fun s inside =>
        { inside with options := inside.options.withValue key allowed }
  | override f rule options =>
      exact wellFormed.modifyFamily f fun s inside =>
        { inside with rules := forall_mem_insert inside.rules rule allowed }
  | customRule id options =>
      intro f
      have inside := wellFormed f
      cases f with
      | custom => exact { inside with customRules := forall_mem_insert inside.customRules id allowed }
      | _ => exact inside
  | exclude pattern => exact wellFormed
  | minSeverity severity => exact wellFormed

theorem WellFormed.foldl_apply {c : Config} (wellFormed : c.WellFormed) {steps : List Step}
    (allowed : ∀ step ∈ steps, step.WellFormed) : (steps.foldl Config.apply c).WellFormed := by
  induction steps generalizing c with
  | nil => exact wellFormed
  | cons step steps ih =>
      rw [List.forall_mem_cons] at allowed
      exact ih (wellFormed.apply allowed.1) allowed.2

/-! ## Checking again -/

theorem naming_default (f : Family) :
    (defaultOptions f).get? "naming_rules" = none ∨
      (defaultOptions f).get? "naming_rules" = some (.mapping []) := by
  cases f with
  | ddd => exact .inl rfl
  | clean => exact .inl rfl
  | hexagonal => exact .inl rfl
  | custom => exact .inr rfl

/-- The defaults have no naming rules that could fail, and hide none. -/
theorem checkNaming_over_defaults (f : Family) {o overrides : Options} (wellFormed : o.WellFormed)
    (wellFormed' : overrides.WellFormed) :
    checkNaming (((defaultOptions f).merged o).merged overrides) =
      checkNaming (o.merged overrides) := by
  simp only [checkNaming, Options.mapping?, Options.get?_merged _ wellFormed,
    Options.get?_merged _ wellFormed']
  rcases naming_default f with absent | noEntries
  · rw [absent, none_layered]
  · have yields {p : Options} (inside : p.WellFormed) {v : Value}
        (found : p.get? "naming_rules" = some v) :
        layered (some (.mapping [])) (some v) = some v := by
      rw [layered_some, merge_empty (Value.WellFormed.find? inside found)]
    rw [noEntries]
    cases family : o.get? "naming_rules" with
    | some v => rw [yields wellFormed family]
    | none =>
        cases own : overrides.get? "naming_rules" with
        | some v => rw [layered_none, none_layered, yields wellFormed' own]
        | none => rfl

theorem merged_empty (o : Options) : o.merged {} = o := by
  simp [Options.merged]

theorem forM_congr {α ε : Type} {g h : α → Except ε Unit} {xs : List α}
    (same : ∀ x ∈ xs, g x = h x) : xs.forM g = xs.forM h := by
  induction xs with
  | nil => rfl
  | cons x xs ih =>
      rw [List.forall_mem_cons] at same
      change (g x >>= fun _ => xs.forM g) = (h x >>= fun _ => xs.forM h)
      rw [same.1, ih same.2]

theorem checkFamily_overDefaults {c : Config} (wellFormed : c.WellFormed) (f : Family) :
    c.overDefaults.checkFamily f = c.checkFamily f := by
  have inside := wellFormed f
  have own := checkNaming_over_defaults f inside.options Options.WellFormed.empty
  rw [Options.empty, merged_empty, merged_empty] at own
  simp only [checkFamily, family_overDefaults, own]
  congr 1
  refine forM_congr fun e member => ?_
  simp only [checkNaming_over_defaults f inside.options (inside.rules e member)]

theorem validate_overDefaults {c : Config} (wellFormed : c.WellFormed) :
    c.overDefaults.validate = c.validate := by
  have families : c.overDefaults.checkFamily = c.checkFamily :=
    funext (checkFamily_overDefaults wellFormed)
  rw [validate, families]
  rfl

theorem checkExclude_default {pattern : String} (member : pattern ∈ PathFilter.defaultExcludes) :
    checkExclude pattern = .ok () := by
  have plain : Glob.looksLike (PathFilter.bare pattern) = false := by
    rw [Glob.looksLike, String.any, String.contains_bool_eq]
    revert pattern
    decide
  simp [checkExclude, plain]

theorem validate_of_default_paths {c : Config} (version : c.version = "1.0") (paths : c.paths = {})
    (families : ∀ f, c.checkFamily f = .ok ()) : c.validate = .ok () := by
  have excludes : c.paths.excludes.forM checkExclude = .ok () := by
    rw [paths]
    exact forM_eq_ok.2 fun _ => checkExclude_default
  have all : Family.all.forM c.checkFamily = .ok () := forM_eq_ok.2 fun f _ => families f
  rw [validate, excludes, all, version]
  rfl

theorem default_valid : default.validate = .ok () :=
  validate_of_default_paths rfl rfl fun f => by cases f <;> rfl

/-! ## Reloading -/

theorem ofDocument_encode {c : Config} (wellFormed : c.WellFormed) (valid : c.validate = .ok ()) :
    ofDocument c.encode = .ok c.overDefaults := by
  refine ofDocument_eq_ok.2 ⟨_, .inl rfl, ?_, by rw [validate_overDefaults wellFormed, valid]⟩
  exact (congrArg decode (merge_encode c)).trans (decode_encode c.overDefaults)

/-- The options of each family begin with the keys of the family's defaults. -/
def CoversDefaults (c : Config) : Prop :=
  ∀ f, (defaultOptions f).entries.map (·.1) <+: (c.family f).options.entries.map (·.1)

theorem default_coversDefaults : default.CoversDefaults := by
  intro f
  simp only [family_default, List.prefix_rfl]

theorem CoversDefaults.modifyFamily {c : Config} (covers : c.CoversDefaults) (f : Family)
    {change : FamilySettings → FamilySettings}
    (kept : ∀ s : FamilySettings,
      s.options.entries.map (·.1) <+: (change s).options.entries.map (·.1)) :
    (c.modifyFamily f change).CoversDefaults := by
  intro g
  rw [family_modifyFamily]
  split
  · exact (covers g).trans (kept _)
  · exact covers g

theorem CoversDefaults.apply {c : Config} (covers : c.CoversDefaults) (step : Step) :
    (c.apply step).CoversDefaults := by
  cases step with
  | enable f => exact covers.modifyFamily f fun s => List.prefix_rfl
  | option f key value =>
      exact covers.modifyFamily f fun s => Entries.prefix_keys_insert (.string key) value _
  | override f rule options => exact covers.modifyFamily f fun s => List.prefix_rfl
  | customRule id options =>
      intro f
      have kept := covers f
      cases f <;> exact kept
  | exclude pattern => exact covers
  | minSeverity severity => exact covers

theorem CoversDefaults.foldl_apply {c : Config} (covers : c.CoversDefaults) (steps : List Step) :
    (steps.foldl Config.apply c).CoversDefaults := by
  induction steps generalizing c with
  | nil => exact covers
  | cons step steps ih => exact ih (covers.apply step)

theorem defaultOptions_flat (f : Family) :
    ∀ e ∈ (defaultOptions f).entries, e.2.entries? = none ∨ e.2 = .mapping [] := by
  cases f <;> simp [defaultOptions, Options.withList, Options.withFlag, Options.withValue,
    Options.empty, Entries.insert, Value.entries?]

theorem overDefaults_of_coversDefaults {c : Config} (covers : c.CoversDefaults)
    (wellFormed : c.WellFormed) : c.overDefaults = c := by
  have same (f : Family) : (defaultOptions f).merged (c.family f).options = (c.family f).options :=
    congrArg Options.mk
      (mergeEntries_of_covered (covers f) (defaultOptions_flat f) (wellFormed f).options)
  have ddd := same .ddd
  have clean := same .clean
  have hexagonal := same .hexagonal
  have custom := same .custom
  simp only [family] at ddd clean hexagonal custom
  rw [overDefaults, ddd, clean, hexagonal, custom]

theorem build_eq_ok {steps : List Step} {c : Config} :
    build steps = .ok c ↔ steps.foldl apply default = c ∧ c.validate = .ok () := by
  simp only [build, bind_eq_ok, pure_eq_ok]
  constructor
  · rintro ⟨⟨⟩, valid, rfl⟩
    exact ⟨rfl, valid⟩
  · rintro ⟨rfl, valid⟩
    exact ⟨(), valid, rfl⟩

theorem load_of_parse? {text : String} {document : Value} (parsed : Yaml.parse? text = some document) :
    load text = ofDocument document := by
  rw [load, parsed]

/-- Reloading a configuration that was written out fills in the defaults of each family's options
and changes nothing else; a configuration that was built comes back as it is. -/
theorem reload_fills_in_defaults :
    (∀ c : Config, c.WellFormed → c.validate = .ok () →
      ofDocument c.encode = .ok c.overDefaults ∧
        (Yaml.parse? c.toYaml = some c.encode → load c.toYaml = .ok c.overDefaults)) ∧
    (∀ (steps : List Step) (c : Config), (∀ step ∈ steps, step.WellFormed) → build steps = .ok c →
      ofDocument c.encode = .ok c ∧
        (Yaml.parse? c.toYaml = some c.encode →
          load c.toYaml = .ok c ∧ (load c.toYaml).map fingerprint = .ok c.fingerprint)) := by
  have reload {c : Config} (wellFormed : c.WellFormed) (valid : c.validate = .ok ()) :
      ofDocument c.encode = .ok c.overDefaults ∧
        (Yaml.parse? c.toYaml = some c.encode → load c.toYaml = .ok c.overDefaults) :=
    have whole := ofDocument_encode wellFormed valid
    ⟨whole, fun parsed => (load_of_parse? parsed).trans whole⟩
  refine ⟨fun c => reload, fun steps c allowed built => ?_⟩
  obtain ⟨rfl, valid⟩ := build_eq_ok.1 built
  have wellFormed := default_wellFormed.foldl_apply allowed
  have whole := reload wellFormed valid
  rw [overDefaults_of_coversDefaults (default_coversDefaults.foldl_apply steps) wellFormed] at whole
  refine ⟨whole.1, fun parsed => ⟨whole.2 parsed, ?_⟩⟩
  rw [whole.2 parsed]
  rfl

/-- A configuration without most of the defaults, with a rule's options and a custom rule. -/
def sparse : Config :=
  { default with
    ddd :=
      { enabled := true
        options := Options.empty.withList "domain_namespaces" ["Core"]
        rules := Table.empty.insert "ddd.domain_layer" (Options.empty.withFlag "strict" true) }
    custom := { customRules := Table.empty.insert "house.rule" Options.empty } }

theorem sparse_wellFormed : sparse.WellFormed := by
  have noOptions := Options.WellFormed.empty
  have none (e : String × Options) (member : e ∈ (Table.empty : Table Options).entries) :
      e.2.WellFormed := absurd member List.not_mem_nil
  intro f
  cases f with
  | ddd =>
      exact ⟨noOptions.withList _ _, forall_mem_insert none _ (noOptions.withValue _ trivial), none⟩
  | custom => exact ⟨noOptions, none, forall_mem_insert none _ noOptions⟩
  | clean => exact default_wellFormed .clean
  | hexagonal => exact default_wellFormed .hexagonal

theorem reload_sparse_and_built :
    (ofDocument sparse.encode = .ok sparse.overDefaults ∧
      sparse.overDefaults.ddd.options.get? "application_namespaces" =
        some (encodeStrings ["Application"])) ∧
    ∃ c, build [.enable .clean, .option .clean "strict" (.bool true),
        .override .clean "clean.entity_layer" (Options.empty.withFlag "strict" false)] = .ok c ∧
      ofDocument c.encode = .ok c := by
  refine ⟨⟨(reload_fills_in_defaults.1 sparse sparse_wellFormed ?_).1, rfl⟩, ?_⟩
  · exact validate_of_default_paths rfl rfl fun f => by cases f <;> rfl
  · have built := build_eq_ok.2 ⟨rfl, validate_of_default_paths (c := List.foldl apply default
      [.enable .clean, .option .clean "strict" (.bool true),
        .override .clean "clean.entity_layer" (Options.empty.withFlag "strict" false)])
      rfl rfl fun f => by cases f <;> rfl⟩
    refine ⟨_, built, (reload_fills_in_defaults.2 _ _ ?_ built).1⟩
    simp only [List.forall_mem_cons, List.not_mem_nil]
    exact ⟨trivial, trivial, Options.WellFormed.empty.withValue _ trivial, by simp⟩

end Config

end Layering
