import Layering.Policy.Custom
import Layering.Proofs.Source.Dependencies
import Layering.Proofs.Source.Name

/-!
# Two spellings of a class

A class is depended on by its plain name in an import and with a backslash in front in a type
hint. What is allowed everywhere holds for both spellings, but the list of a namespace is
compared with the start of a name, so it allows the plain spelling only: a class that the list
alone allows is reported when it is written with a backslash, and no other class is judged by its
spelling (`spelling_decides_only_listed_names`).
-/

namespace Layering.Policy.Custom
open Source

/-- The dependencies that the options allow in a namespace, if they restrict it. -/
def allowance (o : Options) (space : String) : Option (List String) :=
  (o.mapping? "dependency_rules").bind (allowedIn space)

/-- The dependencies that the options allow everywhere. -/
def everywhere (o : Options) : List String :=
  o.listOr "global_allowed_dependencies" Config.standardTypes

/-- The namespace may depend on the name, on account of its own list and of nothing else. -/
def OnlyListed (o : Options) (space name : String) : Prop :=
  ∃ allowed, allowance o space = some allowed ∧ (∃ a ∈ allowed, isWithin name a = true) ∧
    ∀ short ∈ everywhere o, isCalled name short = false

variable {o : Options} {f g : Source} {ctx : Context}

theorem check_isSome_iff :
    (namespaceDependency.check o f ctx).isSome = true ↔
      ∃ allowed, allowance o f.space = some allowed ∧ ∃ name ∈ f.dependencies.toList,
        (∀ a ∈ allowed, isWithin name a = false) ∧
          ∀ short ∈ everywhere o, isCalled name short = false := by
  simp only [namespaceDependency, Dependencies.matching]
  rw [← allowance, ← everywhere]
  cases allowance o f.space with
  | none => simp
  | some allowed =>
      simp only [Option.some.injEq, exists_eq_left']
      split
      · rename_i clear
        simp_all [List.filter_eq_nil_iff]
      · rename_i listed
        obtain ⟨name, member⟩ := List.exists_mem_of_ne_nil _ listed
        rw [List.mem_filter] at member
        simpa using ⟨name, by simpa using member⟩

theorem check_isSome_of_single {name : String} (single : f.dependencies.toList = [name]) :
    (namespaceDependency.check o f ctx).isSome = true ↔
      ∃ allowed, allowance o f.space = some allowed ∧ (∀ a ∈ allowed, isWithin name a = false) ∧
        ∀ short ∈ everywhere o, isCalled name short = false := by
  rw [check_isSome_iff, single]
  simp only [List.mem_singleton, exists_eq_left]

/-- With entries that have no backslash in front, a file that depends on a class is reported for
either spelling of the class or for neither, unless its namespace may use the class on account of
its own list alone: then the plain spelling is not reported and the one with a backslash is. -/
theorem spelling_decides_only_listed_names {space name : String}
    (listed : ∀ allowed, allowance o space = some allowed → ∀ a ∈ allowed, Unrooted a)
    (shared : ∀ short ∈ everywhere o, Unrooted short)
    (plainSpace : f.space = space) (plain : f.dependencies.toList = [name])
    (rootedSpace : g.space = space) (withBackslash : g.dependencies.toList = [rooted name]) :
    (¬ OnlyListed o space name →
      ((namespaceDependency.check o f ctx).isSome ↔ (namespaceDependency.check o g ctx).isSome)) ∧
    (OnlyListed o space name →
      ¬ (namespaceDependency.check o f ctx).isSome ∧ (namespaceDependency.check o g ctx).isSome) := by
  have called : (∀ short ∈ everywhere o, isCalled (rooted name) short = false) ↔
      ∀ short ∈ everywhere o, isCalled name short = false :=
    forall₂_congr fun short member => by rw [isCalled_rooted (shared short member)]
  rw [check_isSome_of_single plain, check_isSome_of_single withBackslash, plainSpace, rootedSpace,
    called]
  cases restricted : allowance o space with
  | none => simp [OnlyListed, restricted]
  | some allowed =>
      have outside : ∀ a ∈ allowed, isWithin (rooted name) a = false :=
        fun a member => isWithin_rooted (listed allowed restricted a member)
      simp only [OnlyListed, restricted, Option.some.injEq, exists_eq_left']
      constructor
      · intro unlisted
        refine ⟨fun ⟨_, uncalled⟩ => ⟨outside, uncalled⟩, fun ⟨_, uncalled⟩ => ⟨?_, uncalled⟩⟩
        intro a member
        rw [Bool.eq_false_iff]
        exact fun within => unlisted ⟨⟨a, member, within⟩, uncalled⟩
      · rintro ⟨⟨a, member, within⟩, uncalled⟩
        refine ⟨fun ⟨apart, _⟩ => ?_, outside, uncalled⟩
        rw [apart a member] at within
        cases within

/-- Below `App` the library may be used. -/
def libraryAllowed : Options :=
  Options.empty.withValue "dependency_rules"
    (.mapping [(.string "App", .sequence [.string "Lib"])])

theorem allowance_libraryAllowed : allowance libraryAllowed "App" = some ["Lib"] := by
  decide

theorem unrooted_libraryAllowed :
    (∀ allowed, allowance libraryAllowed "App" = some allowed → ∀ a ∈ allowed, Unrooted a) ∧
      ∀ short ∈ everywhere libraryAllowed, Unrooted short := by
  rw [allowance_libraryAllowed]
  refine ⟨?_, by decide⟩
  rintro _ ⟨⟩
  decide

/-- A file below `App` that imports a class. -/
def importing (name : String) : Source :=
  .ofContent "a.php" ("<?php\nnamespace App;\nuse " ++ name ++ ";\n")

/-- A file below `App` that has a class as a type hint. -/
def hinting (name : String) : Source :=
  .ofContent "b.php" ("<?php\nnamespace App;\nfunction f(" ++ rooted name ++ " $x) \x7b\x7d\n")

theorem dependencies_of_single {path content name : String}
    (read : (importsOf content.toList).map (·.path) ++ (hintsOf content.toList).map String.ofList =
      [name])
    (clean : Text.strip name = name) (nonempty : name ≠ "") :
    (Source.ofContent path content).dependencies.toList = [name] := by
  rw [ofContent, dependenciesOf, read,
    Dependencies.toList_ofList _ (by simpa using clean) (by simpa using nonempty)]
  rfl

theorem space_importing (name : String) : (importing name).space = "App" := by
  unfold importing Source.ofContent
  rw [String.toList_append, String.toList_append, String.toList_ofList]
  rfl

theorem space_hinting (name : String) : (hinting name).space = "App" := by
  unfold hinting Source.ofContent
  rw [String.toList_append, String.toList_append, String.toList_ofList]
  rfl

theorem dependencies_importing {name : String} (library : name ∈ ["Lib\\Db", "Lib\\Exception"]) :
    (importing name).dependencies.toList = [name] := by
  simp only [List.mem_cons, List.not_mem_nil, or_false] at library
  rcases library with rfl | rfl <;>
  · refine dependencies_of_single ?_ (by decide) (by decide)
    rw [String.toList_append, String.toList_append]
    repeat rewrite [String.toList_ofList]
    decide +kernel

theorem dependencies_hinting {name : String} (library : name ∈ ["Lib\\Db", "Lib\\Exception"]) :
    (hinting name).dependencies.toList = [rooted name] := by
  simp only [List.mem_cons, List.not_mem_nil, or_false] at library
  rcases library with rfl | rfl <;>
  · refine dependencies_of_single ?_ (by decide) (by decide)
    rw [String.toList_append, String.toList_append, rooted, String.toList_append]
    repeat rewrite [String.toList_ofList]
    decide +kernel

/-- An exception may be used everywhere, so one of the library is not reported in either
spelling. -/
theorem shared_name_judged_alike :
    let ctx : Context := ⟨.default, []⟩
    ((namespaceDependency.check libraryAllowed (importing "Lib\\Exception") ctx).isSome ↔
        (namespaceDependency.check libraryAllowed (hinting "Lib\\Exception") ctx).isSome) ∧
      ¬ (namespaceDependency.check libraryAllowed (hinting "Lib\\Exception") ctx).isSome := by
  intro ctx
  have plain : (importing "Lib\\Exception").dependencies.toList = ["Lib\\Exception"] :=
    dependencies_importing (by decide)
  have withBackslash :
      (hinting "Lib\\Exception").dependencies.toList = [rooted "Lib\\Exception"] :=
    dependencies_hinting (by decide)
  have called : "Exception" ∈ everywhere libraryAllowed ∧
      isCalled "Lib\\Exception" "Exception" = true := by decide
  have unlisted : ¬ OnlyListed libraryAllowed "App" "Lib\\Exception" := by
    rintro ⟨-, -, -, uncalled⟩
    rw [uncalled _ called.1] at called
    cases called.2
  have alike : (namespaceDependency.check libraryAllowed (importing "Lib\\Exception") ctx).isSome ↔
      (namespaceDependency.check libraryAllowed (hinting "Lib\\Exception") ctx).isSome :=
    (spelling_decides_only_listed_names unrooted_libraryAllowed.1 unrooted_libraryAllowed.2
      (space_importing _) plain (space_hinting _) withBackslash).1 unlisted
  refine ⟨alike, fun reported => ?_⟩
  obtain ⟨-, -, -, uncalled⟩ := (check_isSome_of_single plain).1 (alike.2 reported)
  rw [uncalled _ called.1] at called
  cases called.2

/-- A class that the list alone allows is reported where it has a backslash in front. -/
theorem listed_name_judged_by_spelling :
    let ctx : Context := ⟨.default, []⟩
    let f := importing "Lib\\Db"
    let g := hinting "Lib\\Db"
    ((∀ allowed, allowance libraryAllowed "App" = some allowed → ∀ a ∈ allowed, Unrooted a) ∧
      ∀ short ∈ everywhere libraryAllowed, Unrooted short) ∧
    (f.space = "App" ∧ f.dependencies.toList = ["Lib\\Db"]) ∧
    (g.space = "App" ∧ g.dependencies.toList = [rooted "Lib\\Db"]) ∧
    ¬ ((namespaceDependency.check libraryAllowed f ctx).isSome ↔
      (namespaceDependency.check libraryAllowed g ctx).isSome) := by
  intro ctx f g
  have plain : f.dependencies.toList = ["Lib\\Db"] := dependencies_importing (by decide)
  have withBackslash : g.dependencies.toList = [rooted "Lib\\Db"] :=
    dependencies_hinting (by decide)
  refine ⟨unrooted_libraryAllowed, ⟨space_importing _, plain⟩, ⟨space_hinting _, withBackslash⟩, ?_⟩
  rw [check_isSome_of_single plain, check_isSome_of_single withBackslash, space_importing,
    space_hinting, allowance_libraryAllowed]
  decide

end Layering.Policy.Custom
