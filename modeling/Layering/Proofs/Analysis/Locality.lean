import Layering.Proofs.Analysis.Validation
import Layering.Proofs.Policy.Locality

/-!
# Verdicts that do not depend on other files

With the built-in rules alone, what a run has against a file is what the run over that file alone
has against it, whatever other files there are and in whatever order; and no rule has two things
against one file: `run_is_local`.
-/

namespace Layering
open Analysis

section Lists

variable {α β κ : Type} [DecidableEq κ]

theorem flatMap_of_nodup_keys {key : α → κ} {xs : List α} (different : (xs.map key).Nodup) {a : α}
    (member : a ∈ xs) (g : α → List β) :
    (xs.flatMap fun x => if key x = key a then g x else []) = g a := by
  induction xs with
  | nil => cases member
  | cons x xs ih =>
      obtain ⟨absent, different⟩ := List.nodup_cons.1 different
      rw [List.flatMap_cons]
      rcases List.mem_cons.1 member with rfl | later
      · have others : (xs.flatMap fun x => if key x = key a then g x else []) = [] := by
          refine List.flatMap_eq_nil_iff.2 fun y rest => if_neg fun same => absent ?_
          exact same ▸ List.mem_map_of_mem rest
        rw [if_pos rfl, others, List.append_nil]
      · have other : key x ≠ key a := fun same => absent (same ▸ List.mem_map_of_mem later)
        rw [if_neg other, List.nil_append, ih different later]

end Lists

namespace Validator

variable {v : Validator}

/-! ## What the rules of a family have against a file -/

theorem verdicts_contextFree (registry : v.registry = .builtin) (ctx ctx' : Context)
    (pair : Family × Source) : v.verdicts ctx pair = v.verdicts ctx' pair := by
  refine List.filterMap_congr fun r member => ?_
  have free : r.policy.ContextFree := by
    refine policy_of_rulesOf ?_ pair.1 r member
    rw [registry]
    exact Registry.builtin_contextFree
  exact free _ _ _ _

theorem names_of_rulesOf (registry : v.registry = .builtin)
    (noFurther : v.config.custom.customRules.entries = []) (f : Family) :
    (v.rulesOf f).map Rule.name = f.rules := by
  rw [rulesOf_builtin registry noFurther, List.map_map]
  exact Registry.names_of_familyPolicies f

theorem signed_of_mem_verdicts (registry : v.registry = .builtin) {ctx : Context}
    {pair : Family × Source} {r : Rule} (rule : r ∈ v.rulesOf pair.1) {w : Violation}
    (found : r.check pair.2 ctx = some w) : w.path = pair.2.path ∧ w.rule = r.name := by
  have signs : r.policy.Signs := by
    refine policy_of_rulesOf ?_ pair.1 r rule
    rw [registry]
    exact Registry.builtin_signs
  exact signs r.options pair.2 ctx w found

theorem mem_verdicts (registry : v.registry = .builtin)
    (noFurther : v.config.custom.customRules.entries = []) {ctx : Context}
    {pair : Family × Source} {w : Violation} (member : w ∈ v.verdicts ctx pair) :
    w.path = pair.2.path ∧ w.rule ∈ pair.1.rules := by
  obtain ⟨r, rule, found⟩ := List.mem_filterMap.1 member
  obtain ⟨path, name⟩ := signed_of_mem_verdicts registry rule found
  refine ⟨path, ?_⟩
  rw [name, ← names_of_rulesOf registry noFurther]
  exact List.mem_map_of_mem rule

theorem verdicts_pairwise (registry : v.registry = .builtin)
    (noFurther : v.config.custom.customRules.entries = []) (ctx : Context)
    (pair : Family × Source) : (v.verdicts ctx pair).Pairwise fun a b => a.rule ≠ b.rule := by
  have different : ((v.rulesOf pair.1).map Rule.name).Nodup := by
    rw [names_of_rulesOf registry noFurther]
    cases pair.1 <;> decide
  rw [verdicts, List.pairwise_filterMap]
  refine (List.pairwise_map.1 different).imp_of_mem ?_
  intro r r' rule rule' other w found w' found'
  rw [(signed_of_mem_verdicts registry rule found).2, (signed_of_mem_verdicts registry rule' found').2]
  exact other

/-! ## Runs -/

theorem violations_eq (registry : v.registry = .builtin) (mode : Mode) (sources : List Source)
    (files : List String) (ctx : Context) :
    (v.run mode false sources files).violations =
      v.config.enabledFamilies.flatMap fun f => sources.flatMap fun file =>
        v.verdicts ctx (f, file) := by
  have pure : v.registry.Pure := by
    rw [registry]
    exact Registry.builtin_pure
  rw [(run_pure pure mode sources files).1, pairs]
  simp only [List.flatMap_assoc, List.flatMap_map, verdicts_contextFree registry _ ctx]

section Keys

variable {κ : Type} (key : String → κ)

theorem pairwise_verdicts_of_family (registry : v.registry = .builtin)
    (noFurther : v.config.custom.customRules.entries = []) (ctx : Context) (family : Family)
    {sources : List Source} (different : (sources.map fun f => key f.path).Nodup) :
    (sources.flatMap fun file => v.verdicts ctx (family, file)).Pairwise fun a b =>
      ¬ (key a.path = key b.path ∧ a.rule = b.rule) := by
  rw [List.pairwise_flatMap]
  constructor
  · intro file _
    refine (verdicts_pairwise registry noFurther ctx (family, file)).imp ?_
    exact fun other same => other same.2
  · refine (List.pairwise_map.1 different).imp ?_
    intro file file' other a found b found' same
    rw [(mem_verdicts registry noFurther found).1, (mem_verdicts registry noFurther found').1] at same
    exact other same.1

variable [DecidableEq κ]

theorem filter_verdicts (registry : v.registry = .builtin)
    (noFurther : v.config.custom.customRules.entries = []) (ctx : Context) (family : Family)
    (file : Source) (path : String) :
    (v.verdicts ctx (family, file)).filter (fun w => key w.path = key path) =
      if key file.path = key path then v.verdicts ctx (family, file) else [] := by
  split
  · rename_i same
    refine List.filter_eq_self.2 fun w found => ?_
    rw [(mem_verdicts registry noFurther found).1]
    exact decide_eq_true same
  · rename_i other
    refine List.filter_eq_nil_iff.2 fun w found => ?_
    rw [(mem_verdicts registry noFurther found).1]
    simpa using other

/-- Paths are told apart by a key, be it their text or their components. In a run with the
built-in rules over files with different paths, the violations with the path of one file are those
of the run over this file alone, in order; and no two violations share both path and rule. -/
theorem run_is_local (registry : v.registry = .builtin)
    (noFurther : v.config.custom.customRules.entries = []) {sources : List Source}
    (different : (sources.map fun f => key f.path).Nodup) (mode : Mode) (files : List String) :
    let report := v.run mode false sources files
    (∀ f ∈ sources, ∀ (mode' : Mode) (files' : List String),
      report.violations.filter (fun w => key w.path = key f.path) =
        (v.run mode' false [f] files').violations) ∧
    report.violations.Pairwise fun a b => ¬ (key a.path = key b.path ∧ a.rule = b.rule) := by
  intro report
  let ctx : Context := ⟨v.config, files⟩
  have all : report.violations = _ := violations_eq registry mode sources files ctx
  constructor
  · intro f member mode' files'
    rw [all, violations_eq registry mode' [f] files' ctx, List.filter_flatMap]
    congr 1
    funext family
    rw [List.filter_flatMap, List.flatMap_singleton]
    simp only [filter_verdicts key registry noFurther]
    exact flatMap_of_nodup_keys different member fun file => v.verdicts ctx (family, file)
  · rw [all, List.pairwise_flatMap]
    refine ⟨fun family _ =>
      pairwise_verdicts_of_family key registry noFurther ctx family different, ?_⟩
    -- Rules of two families have different names, whatever the files.
    have families : v.config.enabledFamilies.Nodup :=
      List.Pairwise.filter _ (by decide : Family.all.Nodup)
    refine families.imp ?_
    intro f f' other a found b found' same
    obtain ⟨file, -, found⟩ := List.mem_flatMap.1 found
    obtain ⟨file', -, found'⟩ := List.mem_flatMap.1 found'
    have name := (mem_verdicts registry noFurther found).2
    have name' := (mem_verdicts registry noFurther found').2
    exact other (family_eq_of_mem_rules name (same.2 ▸ name'))

end Keys

/-- Of three files the second one is written with a repeated slash. -/
theorem run_local_to_second_entity :
    let v : Validator :=
      { config := Config.default.enableAll [.clean, .ddd], registry := .builtin,
        view := .ofSettings {} }
    let file (path : String) : Source :=
      { path, content := "", space := "App\\Domain\\Entity", typeName := "User", imports := [],
        dependencies := { ordered := #["App\\Infrastructure\\Db"] } }
    let report := v.run .parallel false [file "a/A.php", file "a//B.php", file "C.php"] []
    let alone := v.run .sequential false [file "a//B.php"] ["a//B.php"]
    report.violations.length = 6 ∧
      (report.violations.filter fun w => Path.components w.path = Path.components "a/B.php") =
        alone.violations ∧
      alone.violations.map (·.rule) = ["ddd.domain_layer", "clean.entity_layer"] ∧
      report.violations.Pairwise fun a b =>
        ¬ (Path.components a.path = Path.components b.path ∧ a.rule = b.rule) := by
  -- With `report` in the context the kernel would compare the runs by evaluating them.
  intro v file
  have different : ([file "a/A.php", file "a//B.php", file "C.php"].map
      fun f => Path.components f.path).Nodup := by decide +kernel
  obtain ⟨locality, distinct⟩ := run_is_local Path.components (v := v) rfl rfl different .parallel []
  have same : Path.components "a//B.php" = Path.components "a/B.php" := by decide +kernel
  have found (mode : Mode) (sources : List Source) (files : List String) :=
    violations_eq (v := v) rfl mode sources files ⟨v.config, []⟩
  simp only [verdicts, rulesOf_builtin (v := v) rfl rfl] at found
  refine ⟨?_, ?_, ?_, distinct⟩
  · rw [found]
    decide
  · rw [← same]
    exact locality (file "a//B.php") (by simp) .sequential ["a//B.php"]
  · rw [found]
    decide

end Validator

end Layering
