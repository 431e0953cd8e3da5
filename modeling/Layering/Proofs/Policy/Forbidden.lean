import Layering.Registry
import Layering.Proofs.Source.Dependencies

/-!
# Forbidden dependencies

Eight of the built-in policies list the dependencies they forbid. Each of them judges a dependency
by itself, by the options and by two facts of the file, `Policy.Forbids`, so the list is a filter
of the file's dependencies and follows them when some are removed: `forbidden_lists_exact`.
-/

namespace Layering

/-! ## Details -/

theorem Violation.detailStrings_of_detail? {v : Violation} {key : String} {items : List String}
    (found : v.detail? key = some (Json.strings items)) : v.detailStrings key = items := by
  simp only [detailStrings, found, Json.strings, List.filterMap_map]
  exact List.filterMap_some

theorem Violation.detailStrings_of_none {v : Violation} {key : String}
    (absent : v.detail? key = none) : v.detailStrings key = [] := by
  simp only [detailStrings, absent]

namespace Policy

open Source

/-- Whether the policy has something against a file on account of forbidden dependencies. -/
def Fires (p : Policy) (o : Options) (f : Source) (ctx : Context) : Prop :=
  ∃ v, p.check o f ctx = some v ∧ v.detail? "forbidden_dependencies" ≠ none

/-- The dependencies of a file that the policy lists as forbidden. -/
def forbiddenIn (p : Policy) (o : Options) (f : Source) (ctx : Context) : List String :=
  ((p.check o f ctx).map Violation.forbidden).getD []

/-- Whether a dependency is forbidden, by the options, the file's namespace, and whether the file
declares an interface. -/
abbrev Judge := Options → String → Bool → String → Bool

/-- The dependencies that a judge forbids in a file. -/
def Judge.select (judge : Judge) (o : Options) (f : Source) : List String :=
  f.dependencies.toList.filter (judge o f.space f.isInterface)

/-- The policy lists the dependencies that the judge forbids, with all dependencies beside them,
and lists nothing when there are none. -/
structure Forbids (p : Policy) (judge : Judge) : Prop where
  silent : ∀ o f ctx v, judge.select o f = [] → p.check o f ctx = some v →
    v.detail? "forbidden_dependencies" = none
  fires : ∀ o f ctx, judge.select o f ≠ [] → ∃ v, p.check o f ctx = some v ∧
    v.detail? "forbidden_dependencies" = some (Json.strings (judge.select o f)) ∧
    v.detail? "all_dependencies" = some (Json.strings f.dependencies.toList)

/-! ## The policies -/

section Forbid

variable {rule summary : String} {severity : Severity} {isForbidden : String → Bool} {f : Source}

theorem forbid_of_nil (clear : f.dependencies.toList.filter isForbidden = []) :
    forbid rule summary severity isForbidden f = none := by
  simp only [forbid, Dependencies.matching, clear]

theorem forbid_of_ne_nil (listed : f.dependencies.toList.filter isForbidden ≠ []) :
    ∃ v, forbid rule summary severity isForbidden f = some v ∧
      v.detail? "forbidden_dependencies" =
        some (Json.strings (f.dependencies.toList.filter isForbidden)) ∧
      v.detail? "all_dependencies" = some (Json.strings f.dependencies.toList) := by
  rw [forbid, Dependencies.matching]
  split
  · rename_i clear
    exact absurd clear listed
  · exact ⟨_, rfl, rfl, rfl⟩

end Forbid

/-- A policy that forbids dependencies in files that a guard lets through. -/
theorem Forbids.of_guarded {p : Policy} {rule summary : String} {severity : Severity}
    (guard : Options → String → Bool → Bool) (isForbidden : Options → String → Bool)
    (check : ∀ o f ctx, p.check o f ctx =
      if guard o f.space f.isInterface then forbid rule summary severity (isForbidden o) f
      else none) :
    p.Forbids fun o space isInterface dep => guard o space isInterface && isForbidden o dep := by
  constructor
  · intro o f ctx v selected found
    rw [check] at found
    split at found
    · rename_i passed
      simp only [Judge.select, passed, Bool.true_and] at selected
      rw [forbid_of_nil selected] at found
      cases found
    · cases found
  · intro o f ctx selected
    rw [check]
    cases passed : guard o f.space f.isInterface with
    | false => simp [Judge.select, passed] at selected
    | true =>
        simp only [Judge.select, passed, Bool.true_and] at selected ⊢
        exact forbid_of_ne_nil selected

theorem domainLayer_forbids : ∃ judge, Ddd.domainLayer.Forbids judge :=
  ⟨_, .of_guarded (fun o space _ => inLayer space (Ddd.domainOf o)) _ fun _ _ _ => rfl⟩

theorem applicationLayer_forbids : ∃ judge, Ddd.applicationLayer.Forbids judge :=
  ⟨_, .of_guarded (fun o space _ =>
    inLayer space (o.listOr "application_namespaces" ["Application", "UseCase"]) &&
      !o.flagOr "can_use_infrastructure" false) _ fun _ _ _ => rfl⟩

theorem entityLayer_forbids : ∃ judge, Clean.entityLayer.Forbids judge :=
  ⟨_, .of_guarded (fun o space _ => inLayer space (Clean.Layers.ofOptions o).entity) _
    fun _ _ _ => rfl⟩

theorem useCaseLayer_forbids : ∃ judge, Clean.useCaseLayer.Forbids judge :=
  ⟨_, .of_guarded (fun o space _ => inLayer space (Clean.Layers.ofOptions o).useCase) _
    fun _ _ _ => rfl⟩

theorem hexagonalDomain_forbids : ∃ judge, Hexagonal.domain.Forbids judge :=
  ⟨_, .of_guarded (fun o space _ => inLayer space (Hexagonal.domainOf o)) _ fun _ _ _ => rfl⟩

/-- A controller without forbidden dependencies can still be reported, for other reasons. -/
theorem controllerLayer_forbids : ∃ judge, Clean.controllerLayer.Forbids judge := by
  refine ⟨fun o space _ dep => inLayer space (Clean.Layers.ofOptions o).controller &&
    inLayer dep (Clean.Layers.ofOptions o).framework, ?_, ?_⟩
  · intro o f ctx v selected found
    simp only [Clean.controllerLayer] at found
    split at found
    · rename_i inside
      simp only [Judge.select, inside, Bool.true_and] at selected
      rw [forbid_of_nil selected] at found
      dsimp only at found
      split at found
      · cases found
      · cases found
        rfl
    · cases found
  · intro o f ctx selected
    cases inside : inLayer f.space (Clean.Layers.ofOptions o).controller with
    | false => simp [Judge.select, inside] at selected
    | true =>
        simp only [Judge.select, inside, Bool.true_and] at selected ⊢
        obtain ⟨v, found, details⟩ := forbid_of_ne_nil selected
        refine ⟨v, ?_, details⟩
        simp only [Clean.controllerLayer, inside, if_true]
        rw [found]

/-- A port that is no interface is reported for that alone. -/
theorem port_forbids : ∃ judge, Hexagonal.port.Forbids judge := by
  refine ⟨fun o space isInterface dep => (inLayer space (Hexagonal.portsOf o) && isInterface) &&
    inLayer dep (Hexagonal.adaptersOf o), ?_, ?_⟩
  · intro o f ctx v selected found
    simp only [Hexagonal.port] at found
    split at found
    · cases found
    · rename_i inside
      split at found
      · cases found
        rfl
      · rename_i isInterface
        rw [Bool.not_eq_true', Bool.not_eq_false] at inside isInterface
        simp only [Judge.select, inside, isInterface, Bool.true_and] at selected
        rw [forbid_of_nil selected] at found
        cases found
  · intro o f ctx selected
    cases guard : inLayer f.space (Hexagonal.portsOf o) && f.isInterface with
    | false => simp [Judge.select, guard] at selected
    | true =>
        simp only [Judge.select, guard, Bool.true_and] at selected ⊢
        rw [Bool.and_eq_true] at guard
        simp only [Hexagonal.port, guard.1, guard.2, Bool.not_true, Bool.false_eq_true, if_false]
        exact forbid_of_ne_nil selected

theorem namespaceDependency_forbids : ∃ judge, Custom.namespaceDependency.Forbids judge := by
  refine ⟨fun o space _ dep =>
    ((o.mapping? "dependency_rules").bind (Custom.allowedIn space)).any fun allowed =>
      !allowed.any (isWithin dep) &&
        !(o.listOr "global_allowed_dependencies" Config.standardTypes).any (isCalled dep), ?_, ?_⟩
  · intro o f ctx v selected found
    simp only [Custom.namespaceDependency, Dependencies.matching] at found
    split at found
    · cases found
    · rename_i allowed rules
      simp only [Judge.select, rules, Option.any_some] at selected
      rw [selected] at found
      cases found
  · intro o f ctx selected
    simp only [Custom.namespaceDependency, Dependencies.matching]
    cases rules : (o.mapping? "dependency_rules").bind (Custom.allowedIn f.space) with
    | none => simp [Judge.select, rules] at selected
    | some allowed =>
        simp only [Judge.select, rules, Option.any_some] at selected ⊢
        split
        · rename_i clear
          exact absurd clear selected
        · exact ⟨_, rfl, rfl, rfl⟩

/-- The built-in policies that list forbidden dependencies. -/
def forbidding : List Policy :=
  [Ddd.domainLayer, Ddd.applicationLayer, Clean.entityLayer, Clean.useCaseLayer,
    Clean.controllerLayer, Hexagonal.domain, Hexagonal.port, Custom.namespaceDependency]

theorem forbidding_forbids : ∀ p ∈ forbidding, ∃ judge, p.Forbids judge := by
  simp only [forbidding, List.forall_mem_cons]
  exact ⟨domainLayer_forbids, applicationLayer_forbids, entityLayer_forbids, useCaseLayer_forbids,
    controllerLayer_forbids, hexagonalDomain_forbids, port_forbids, namespaceDependency_forbids,
    List.forall_mem_nil _⟩

/-! ## Lists that follow the dependencies -/

namespace Forbids

variable {p : Policy} {judge : Judge}

theorem fires_iff (forbids : p.Forbids judge) (o : Options) (f : Source) (ctx : Context) :
    p.Fires o f ctx ↔ judge.select o f ≠ [] := by
  constructor
  · rintro ⟨v, found, listed⟩ selected
    exact listed (forbids.silent o f ctx v selected found)
  · intro selected
    obtain ⟨v, found, listed, -⟩ := forbids.fires o f ctx selected
    exact ⟨v, found, by simp [listed]⟩

theorem forbiddenIn_eq (forbids : p.Forbids judge) (o : Options) (f : Source) (ctx : Context) :
    p.forbiddenIn o f ctx = judge.select o f := by
  rw [forbiddenIn]
  by_cases selected : judge.select o f = []
  · rw [selected]
    cases found : p.check o f ctx with
    | none => rfl
    | some v => exact Violation.detailStrings_of_none (forbids.silent o f ctx v selected found)
  · obtain ⟨v, found, listed, -⟩ := forbids.fires o f ctx selected
    rw [found]
    exact Violation.detailStrings_of_detail? listed

end Forbids

theorem filter_mem_of_sublist {xs ys : List String} (distinct : xs.Nodup) (sublist : ys.Sublist xs) :
    xs.filter (· ∈ ys) = ys := by
  induction sublist with
  | slnil => rfl
  | cons x sublist ih =>
      obtain ⟨absent, distinct⟩ := List.nodup_cons.1 distinct
      have left : x ∉ _ := fun member => absent (sublist.subset member)
      rw [List.filter_cons_of_neg (by simpa using left), ih distinct]
  | cons_cons x sublist ih =>
      obtain ⟨absent, distinct⟩ := List.nodup_cons.1 distinct
      rw [List.filter_cons_of_pos (by simp)]
      -- Further down `x` does not occur, so it makes no difference there.
      have others := ih distinct
      rw [← List.filter_congr (p := (· ∈ x :: _))] at others
      · rw [others]
      · intro y member
        have different : y ≠ x := fun same => absent (same ▸ member)
        simp [different]

/-- What a policy lists as forbidden is a non-empty selection of the file's dependencies without
repetitions; these come from a list of names, as in `Source.ofContent`. In a file with the same
namespace and kind of type and with some of the dependencies, the same ones of those are
forbidden. -/
theorem forbidden_lists_exact {p : Policy} (isForbidding : p ∈ forbidding) (o : Options)
    (ctx : Context) {f : Source} {names : List String} (extracted : f.dependencies = .ofList names) :
    (∀ v, p.check o f ctx = some v → v.detail? "forbidden_dependencies" ≠ none →
      v.detail? "forbidden_dependencies" = some (Json.strings v.forbidden) ∧
        v.detail? "all_dependencies" = some (Json.strings f.dependencies.toList) ∧
        v.forbidden ≠ [] ∧ v.forbidden.Nodup ∧ v.forbidden.Sublist f.dependencies.toList) ∧
    (∀ g : Source, g.space = f.space → g.isInterface = f.isInterface →
      g.dependencies.toList.Sublist f.dependencies.toList →
      p.forbiddenIn o g ctx =
          (p.forbiddenIn o f ctx).filter (· ∈ g.dependencies.toList) ∧
        (p.Fires o g ctx ↔ ∃ dep ∈ p.forbiddenIn o f ctx, dep ∈ g.dependencies.toList)) := by
  obtain ⟨judge, forbids⟩ := forbidding_forbids p isForbidding
  have distinct : f.dependencies.toList.Nodup := by
    rw [extracted]
    exact Dependencies.nodup_toList_ofList names
  constructor
  · intro v found listed
    have selected := (forbids.fires_iff o f ctx).1 ⟨v, found, listed⟩
    obtain ⟨w, found', details⟩ := forbids.fires o f ctx selected
    cases found.symm.trans found'
    have list : v.forbidden = judge.select o f := Violation.detailStrings_of_detail? details.1
    rw [list]
    exact ⟨details.1, details.2, selected, distinct.filter _, List.filter_sublist⟩
  · intro g space kind sublist
    have restricted : judge.select o g =
        (judge.select o f).filter (· ∈ g.dependencies.toList) := by
      have kept := filter_mem_of_sublist distinct sublist
      rw [Judge.select, Judge.select, space, kind]
      conv_lhs => rw [← kept]
      rw [List.filter_filter, List.filter_filter]
      simp only [Bool.and_comm]
    rw [forbids.forbiddenIn_eq, forbids.forbiddenIn_eq, forbids.fires_iff, restricted]
    refine ⟨rfl, ?_⟩
    simp [List.filter_eq_nil_iff]

/-- A file of the domain with some dependencies. -/
def domainFile (names : List String) : Source :=
  { path := "A.php", content := "", space := "App\\Domain", typeName := "A", imports := [],
    dependencies := .ofList names }

theorem domainFile_same_facts (names names' : List String) :
    (domainFile names).space = (domainFile names').space ∧
      (domainFile names).isInterface = (domainFile names').isInterface := ⟨rfl, rfl⟩

/-- Of two forbidden dependencies one is removed. -/
theorem forbidden_in_domainFile :
    let full := domainFile ["App\\Infra\\Db", "App\\Domain\\Id", "App\\Infra\\Log"]
    let less := domainFile ["App\\Domain\\Id", "App\\Infra\\Log"]
    let ctx : Context := ⟨.default, []⟩
    Ddd.domainLayer.forbiddenIn {} full ctx = ["App\\Infra\\Db", "App\\Infra\\Log"] ∧
      Ddd.domainLayer.forbiddenIn {} less ctx = ["App\\Infra\\Log"] ∧
      Ddd.domainLayer.Fires {} less ctx := by
  intro full less ctx
  have allOfFull : full.dependencies.toList =
      ["App\\Infra\\Db", "App\\Domain\\Id", "App\\Infra\\Log"] :=
    (Dependencies.toList_ofList _ (by decide) (by decide)).trans (by decide)
  have allOfLess : less.dependencies.toList = ["App\\Domain\\Id", "App\\Infra\\Log"] :=
    (Dependencies.toList_ofList _ (by decide) (by decide)).trans (by decide)
  have listed : Ddd.domainLayer.forbiddenIn {} full ctx = ["App\\Infra\\Db", "App\\Infra\\Log"] := by
    simp only [forbiddenIn, Ddd.domainLayer, forbid, Dependencies.matching, allOfFull]
    decide
  have isForbidding : Ddd.domainLayer ∈ forbidding := by simp [forbidding]
  have sublist : less.dependencies.toList.Sublist full.dependencies.toList := by
    rw [allOfFull, allOfLess]
    decide
  have facts := domainFile_same_facts ["App\\Domain\\Id", "App\\Infra\\Log"]
    ["App\\Infra\\Db", "App\\Domain\\Id", "App\\Infra\\Log"]
  have pair := (forbidden_lists_exact isForbidding {} ctx (f := full) rfl).2 less facts.1 facts.2
    sublist
  rw [listed, allOfLess] at pair
  exact ⟨listed, pair.1.trans (by decide), pair.2.2 ⟨"App\\Infra\\Log", by simp⟩⟩

end Policy

end Layering
