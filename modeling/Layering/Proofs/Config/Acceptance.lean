import Layering.Analysis.Validator
import Layering.Proofs.Config.Reloading

/-!
# What an accepted configuration can be used for

Checking a configuration reads its exclude patterns as a path filter does, so a configuration that
was accepted never fails later on: there is a validator for it, whatever families are switched on,
and looking for files fails at a missing root only. Apart from its version, its naming rules and
the names of its overrides, a configuration is refused exactly when there is no filter for its
patterns: `accepted_config_stays_usable`.
-/

namespace Layering

open Config

section Except

variable {ε α β : Type}

theorem exists_mapM_eq_ok {f : α → Except ε β} {xs : List α} :
    (∃ ys, xs.mapM f = .ok ys) ↔ ∀ x ∈ xs, ∃ y, f x = .ok y := by
  induction xs with
  | nil => simp [pure, Except.pure]
  | cons x xs ih =>
      simp only [List.mapM_cons, List.forall_mem_cons, ← ih, bind_eq_ok, pure_eq_ok]
      constructor
      · rintro ⟨_, y, first, ys, rest, rfl⟩
        exact ⟨⟨y, first⟩, ys, rest⟩
      · rintro ⟨⟨y, first⟩, ys, rest⟩
        exact ⟨y :: ys, y, first, ys, rest, rfl⟩

theorem mapM_eq_ok {f : α → Except ε β} {xs : List α} {ys : List β} :
    xs.mapM f = .ok ys ↔ List.Forall₂ (fun x y => f x = .ok y) xs ys := by
  induction xs generalizing ys with
  | nil =>
      rw [List.mapM_nil, pure_eq_ok, List.forall₂_nil_left_iff, eq_comm]
  | cons x xs ih =>
      simp only [List.mapM_cons, bind_eq_ok, pure_eq_ok, List.forall₂_cons_left_iff, ih]
      constructor
      · rintro ⟨y, first, rest, later, rfl⟩
        exact ⟨y, rest, first, later, rfl⟩
      · rintro ⟨y, rest, first, later, rfl⟩
        exact ⟨y, first, rest, later, rfl⟩

theorem mem_iff_of_mapM {f : α → Except ε β} {xs : List α} {ys : List β}
    (traversed : xs.mapM f = .ok ys) {y : β} : y ∈ ys ↔ ∃ x ∈ xs, f x = .ok y := by
  induction xs generalizing ys with
  | nil =>
      cases traversed
      simp
  | cons x xs ih =>
      simp only [List.mapM_cons, bind_eq_ok, pure_eq_ok] at traversed
      obtain ⟨z, first, rest, later, rfl⟩ := traversed
      simp [ih later, first, eq_comm (a := y)]

theorem ne_ok_iff {x : Except ε α} : (∃ e, x = .error e) ↔ ¬ ∃ a, x = .ok a := by
  cases x <;> simp

/-- A traversal fails with the error of the first element that has one. -/
theorem mapM_eq_error {f : α → Except ε β} {xs : List α} {e : ε} :
    xs.mapM f = .error e ↔
      ∃ before x after, xs = before ++ x :: after ∧ (∀ y ∈ before, ∃ b, f y = .ok b) ∧
        f x = .error e := by
  induction xs with
  | nil => simp [pure, Except.pure]
  | cons x xs ih =>
      rw [List.mapM_cons]
      cases first : f x with
      | error e' =>
          simp only [bind, Except.bind, Except.error.injEq]
          constructor
          · rintro rfl
            exact ⟨[], x, xs, rfl, by simp, first⟩
          · rintro ⟨before, y, after, split, accepted, failed⟩
            rcases List.cons_eq_append_iff.1 split with ⟨rfl, same⟩ | ⟨rest, rfl, -⟩
            · cases same
              exact Except.error.inj (first.symm.trans failed)
            · obtain ⟨b, ok⟩ := accepted x List.mem_cons_self
              cases first.symm.trans ok
      | ok b =>
          have rest : (do let y ← Except.ok b; let ys ← xs.mapM f; pure (y :: ys)) = .error e ↔
              xs.mapM f = .error e := by
            cases xs.mapM f <;> simp [bind, Except.bind, pure, Except.pure]
          rw [rest, ih]
          -- The first failure stands one place later in the longer list.
          constructor
          · rintro ⟨before, y, after, rfl, accepted, failed⟩
            exact ⟨x :: before, y, after, rfl, List.forall_mem_cons.2 ⟨⟨b, first⟩, accepted⟩,
              failed⟩
          · rintro ⟨before, y, after, split, accepted, failed⟩
            rcases List.cons_eq_append_iff.1 split with ⟨rfl, same⟩ | ⟨rest, rfl, tail⟩
            · cases same
              cases first.symm.trans failed
            · exact ⟨rest, y, after, tail, (List.forall_mem_cons.1 accepted).2, failed⟩

end Except

/-! ## Exclude patterns -/

theorem looksLike_eq (pattern : String) :
    Glob.looksLike pattern = pattern.toList.any Glob.isMagic := by
  rw [Glob.looksLike, String.any, String.contains_bool_eq]

/-- The check of a configuration accepts the patterns that a filter accepts. -/
theorem checkExclude_eq_ok {pattern : String} :
    checkExclude pattern = .ok () ↔ ∃ p, PathFilter.Pattern.parse pattern = .ok p := by
  rw [checkExclude, PathFilter.Pattern.parse]
  cases Glob.looksLike (PathFilter.bare pattern) with
  | false => simp
  | true => cases Glob.parse (PathFilter.bare pattern) <;> simp

theorem ofLists_eq_ok {patterns extensions : List String} :
    (∃ filter, PathFilter.ofLists patterns extensions = .ok filter) ↔
      patterns.forM checkExclude = .ok () := by
  have read : (∃ filter, PathFilter.ofLists patterns extensions = .ok filter) ↔
      ∃ ps, patterns.mapM PathFilter.Pattern.parse = .ok ps := by
    simp only [PathFilter.ofLists, bind_eq_ok, pure_eq_ok]
    constructor
    · rintro ⟨_, ps, parsed, rfl⟩
      exact ⟨ps, parsed⟩
    · rintro ⟨ps, parsed⟩
      exact ⟨_, ps, parsed, rfl⟩
  simp only [read, exists_mapM_eq_ok, forM_eq_ok, checkExclude_eq_ok]

/-! ## Roots -/

theorem PathFilter.find_eq_error {f : PathFilter} {fs : FileSystem} {root : String}
    {fault : RootFault} :
    f.find fs root = .error fault ↔ fs.contains root = false ∧ fault = .missing root := by
  rw [find]
  cases there : fs.contains root with
  | false => simp [eq_comm]
  | true => cases fs.isFile root <;> simp

theorem PathFilter.exists_find_eq_ok {f : PathFilter} {fs : FileSystem} {root : String} :
    (∃ files, f.find fs root = .ok files) ↔ fs.contains root = true := by
  rw [← not_iff_not, ← ne_ok_iff, Bool.not_eq_true]
  simp [find_eq_error]

/-- Looking for files at several roots fails at the first one that is missing. -/
theorem PathFilter.discover_eq_error {f : PathFilter} {fs : FileSystem} {roots : List String}
    {fault : RootFault} :
    f.discover fs roots = .error fault ↔
      ∃ before root after, roots = before ++ root :: after ∧
        (∀ r ∈ before, fs.contains r = true) ∧ fs.contains root = false ∧
        fault = .missing root := by
  have traversal : f.discover fs roots = .error fault ↔ roots.mapM (f.find fs) = .error fault := by
    rw [discover]
    cases roots.mapM (f.find fs) <;> simp [bind, Except.bind, pure, Except.pure]
  simp only [traversal, mapM_eq_error, exists_find_eq_ok, find_eq_error]

/-! ## Configurations -/

namespace Config

theorem checkFamily_enable (c : Config) (f g : Family) :
    (c.enable f).checkFamily g = c.checkFamily g := by
  cases f <;> cases g <;> rfl

theorem validate_enable (c : Config) (f : Family) : (c.enable f).validate = c.validate := by
  have families : (c.enable f).checkFamily = c.checkFamily := funext (checkFamily_enable c f)
  rw [validate, families]
  cases f <;> rfl

theorem validate_enableAll (c : Config) (families : List Family) :
    (c.enableAll families).validate = c.validate := by
  induction families generalizing c with
  | nil => rfl
  | cons f rest ih => exact (ih (c.enable f)).trans (validate_enable c f)

theorem paths_enableAll (c : Config) (families : List Family) :
    (c.enableAll families).paths = c.paths := by
  induction families generalizing c with
  | nil => rfl
  | cons f rest ih =>
      have same : (c.enable f).paths = c.paths := by cases f <;> rfl
      exact (ih (c.enable f)).trans same

theorem validate_eq_ok {c : Config} :
    c.validate = .ok () ↔ c.version ∈ supportedVersions ∧
      c.paths.excludes.forM checkExclude = .ok () ∧ ∀ f, c.checkFamily f = .ok () := by
  have families : Family.all.forM c.checkFamily = .ok () ↔ ∀ f, c.checkFamily f = .ok () := by
    rw [forM_eq_ok]
    constructor
    · intro accepted f
      exact accepted f (by cases f <;> decide)
    · intro accepted f _
      exact accepted f
  by_cases version : c.version ∈ supportedVersions
  · have known : supportedVersions.contains c.version = true := by simpa using version
    simp only [validate, known, Bool.not_true, Bool.false_eq_true, if_false, bind_eq_ok]
    constructor
    · rintro ⟨⟨⟩, excludes, all⟩
      exact ⟨version, excludes, families.1 all⟩
    · rintro ⟨-, excludes, all⟩
      exact ⟨(), excludes, families.2 all⟩
  · simp [validate, version, bind, Except.bind]

/-- Every override of a family is for one of its rules. -/
def OverridesKnown (c : Config) : Prop :=
  ∀ f, ∀ e ∈ (c.family f).rules.entries, e.1 ∈ f.rules

/-- The naming rules are valid, for each family and with each of its overrides. -/
def NamingValid (c : Config) : Prop :=
  ∀ f, checkNaming (c.family f).options = .ok () ∧
    ∀ e ∈ (c.family f).rules.entries, checkNaming ((c.family f).options.merged e.2) = .ok ()

theorem forall_checkFamily_eq_ok {c : Config} (overrides : c.OverridesKnown)
    (naming : c.NamingValid)
    (f : Family) : c.checkFamily f = .ok () := by
  simp only [checkFamily, bind_eq_ok]
  refine ⟨(), forM_eq_ok.2 fun e member => ?_, (naming f).1⟩
  simp [overrides f e member, (naming f).2 e member]

theorem validate_of_load {text : String} {c : Config} (loaded : load text = .ok c) :
    c.validate = .ok () := by
  rw [load] at loaded
  split at loaded
  · cases loaded
  · obtain ⟨-, -, -, valid⟩ := ofDocument_eq_ok.1 loaded
    exact valid

end Config

theorem Validator.ofConfig_of_valid {c : Config} (valid : c.validate = .ok ()) :
    ofConfig c = .ok { config := c, view := .ofSettings c.report } := by
  rw [ofConfig, valid]

theorem Validator.discover_eq_error {v : Validator} {filter : PathFilter}
    (patterns : PathFilter.ofLists v.config.paths.excludes v.config.paths.extensions = .ok filter)
    {fs : FileSystem} {roots : List String} {e : Error} :
    v.discover fs roots [] = .error e ↔ ∃ fault, filter.discover fs roots = .error fault ∧
      e = .ofRoot fault := by
  rw [discover, List.append_nil, patterns]
  cases found : filter.discover fs roots with
  | ok files => simp [found]
  | error fault => simp [found, eq_comm (a := e)]

/-- A configuration that was loaded has a validator, whatever families are switched on, and a path
filter, and without further patterns it fails to find files only at a root that is missing, the
first one of them. Conversely, a configuration with a supported version, known overrides and valid
naming rules is refused exactly when there is no filter for its patterns. -/
theorem accepted_config_stays_usable :
    (∀ (text : String) (c : Config) (families : List Family), load text = .ok c →
      ∃ v filter, Validator.ofConfig (c.enableAll families) = .ok v ∧
        v.config = c.enableAll families ∧
        PathFilter.ofLists c.paths.excludes c.paths.extensions = .ok filter ∧
        ∀ (fs : FileSystem) (roots : List String) (e : Error),
          v.discover fs roots [] = .error e ↔
            ∃ before root after, roots = before ++ root :: after ∧
              (∀ r ∈ before, fs.contains r = true) ∧ fs.contains root = false ∧
              e = .ofRoot (.missing root)) ∧
    (∀ c : Config, c.version ∈ supportedVersions → c.OverridesKnown → c.NamingValid →
      ((∃ fault, c.validate = .error fault) ↔
        ∃ fault, PathFilter.ofLists c.paths.excludes c.paths.extensions = .error fault)) := by
  constructor
  · intro text c families loaded
    have valid : (c.enableAll families).validate = .ok () := by
      rw [validate_enableAll, validate_of_load loaded]
    obtain ⟨-, excludes, -⟩ := validate_eq_ok.1 (validate_of_load loaded)
    obtain ⟨filter, patterns⟩ :
        ∃ filter, PathFilter.ofLists c.paths.excludes c.paths.extensions = .ok filter :=
      ofLists_eq_ok.2 excludes
    refine ⟨_, filter, Validator.ofConfig_of_valid valid, rfl, patterns, fun fs roots e => ?_⟩
    rw [← paths_enableAll c families] at patterns
    rw [Validator.discover_eq_error patterns]
    simp only [PathFilter.discover_eq_error]
    constructor
    · rintro ⟨_, ⟨before, root, after, split, present, missing, rfl⟩, rfl⟩
      exact ⟨before, root, after, split, present, missing, rfl⟩
    · rintro ⟨before, root, after, split, present, missing, rfl⟩
      exact ⟨_, ⟨before, root, after, split, present, missing, rfl⟩, rfl⟩
  · intro c version overrides naming
    have accepted : (∃ u, c.validate = .ok u) ↔ c.paths.excludes.forM checkExclude = .ok () := by
      constructor
      · rintro ⟨⟨⟩, valid⟩
        exact (validate_eq_ok.1 valid).2.1
      · intro excludes
        exact ⟨(), validate_eq_ok.2
          ⟨version, excludes, forall_checkFamily_eq_ok overrides naming⟩⟩
    rw [ne_ok_iff, ne_ok_iff, accepted, ofLists_eq_ok]

/-- A document with a pattern that includes and one that excludes. -/
def globText : String := "paths: \x7bexclude_patterns: ['!src/**/*.php', /vendor/]\x7d"

def globConfig : Config :=
  { Config.default with paths := { excludes := ["!src/**/*.php", "/vendor/"] } }

/-- Whether a document says what `globText` says. -/
def isGlobDocument : Yaml.Value → Bool
  | .mapping [(.string key, .mapping [(.string name, .sequence [.string a, .string b])])] =>
    key == "paths" && name == "exclude_patterns" && a == "!src/**/*.php" && b == "/vendor/"
  | _ => false

theorem load_globText : load globText = .ok globConfig := by
  have read : (Yaml.parse? globText).any isGlobDocument = true := by
    unfold Yaml.parse? globText
    rw [Yaml.tokens?_eq, String.toList_ofList]
    decide +kernel
  obtain ⟨document, parsed, matched⟩ := (Option.any_eq_true ..).1 read
  rw [isGlobDocument.eq_def] at matched
  split at matched
  · simp only [Bool.and_eq_true, beq_iff_eq] at matched
    obtain ⟨⟨⟨rfl, rfl⟩, rfl⟩, rfl⟩ := matched
    have included : checkExclude "!src/**/*.php" = .ok () := by
      rw [checkExclude, looksLike_eq]
      rfl
    have excluded : checkExclude "/vendor/" = .ok () := checkExclude_default (by decide)
    have excludes : globConfig.paths.excludes.forM checkExclude = .ok () :=
      forM_eq_ok.2 (List.forall_mem_cons.2 ⟨included, List.forall_mem_singleton.2 excluded⟩)
    have valid : globConfig.validate = .ok () :=
      validate_eq_ok.2 ⟨by decide, excludes, fun f => by cases f <;> rfl⟩
    exact (load_of_parse? parsed).trans (ofDocument_eq_ok.2 ⟨_, .inl rfl, rfl, valid⟩)
  · cases matched

/-- The defaults with a pattern that is no glob. -/
def starredConfig : Config := { Config.default with paths := { excludes := ["!src/***"] } }

theorem usable_globConfig_not_starredConfig :
    (∃ v, Validator.ofConfig (globConfig.enableAll [.clean]) = .ok v ∧
      v.discover { root := .directory [] } ["/", "src"] [] = .error (.ofRoot (.missing "src"))) ∧
    ∃ fault, starredConfig.validate = .error fault := by
  constructor
  · obtain ⟨v, -, made, -, -, fails⟩ :=
      accepted_config_stays_usable.1 globText globConfig [.clean] load_globText
    refine ⟨v, made, (fails _ _ _).2 ⟨["/"], "src", [], rfl, ?_, ?_, rfl⟩⟩
    · have pieces : Path.pieces "/" = ["", ""] := by decide
      simp [FileSystem.contains, FileSystem.resolve, pieces, FileSystem.resolveFrom, FileTree.at?,
        Except.isOk, Except.toBool]
    · have pieces : Path.pieces "src" = ["src"] := by decide
      simp [FileSystem.contains, FileSystem.resolve, pieces, FileSystem.resolveFrom, FileTree.at?,
        FileTree.child?, Except.isOk, Except.toBool]
  · have overrides : starredConfig.OverridesKnown := by
      intro f
      cases f <;> simp [starredConfig, Config.family, Config.default, Table.empty]
    have naming : starredConfig.NamingValid := by
      intro f
      cases f <;> exact ⟨rfl, by simp [starredConfig, Config.family, Config.default, Table.empty]⟩
    obtain ⟨fault, refused⟩ : ∃ fault, PathFilter.Pattern.parse "!src/***" = .error fault := by
      rw [PathFilter.Pattern.parse, looksLike_eq]
      exact ⟨_, rfl⟩
    have failed : ["!src/***"].mapM PathFilter.Pattern.parse = .error fault :=
      mapM_eq_error.2 ⟨[], _, [], rfl, by simp, refused⟩
    refine (accepted_config_stays_usable.2 starredConfig (by decide) overrides naming).2 ⟨fault, ?_⟩
    rw [PathFilter.ofLists, starredConfig, failed]
    rfl

end Layering
