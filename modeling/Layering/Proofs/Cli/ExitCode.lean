import Layering.Cli.Run
import Layering.Proofs.Analysis.Locality
import Layering.Proofs.Config.Decoding
import Layering.Proofs.Report.Human

/-!
# The exit code of a check

A check that completes exits with 1 when its report has violations of at least the threshold, and
with 0 otherwise. The report to read then begins with their number, and nothing that only concerns
how the report is shown changes the code: `exit_agrees_with_report`.
-/

namespace Layering

open Config

/-! ## Configurations that differ in how reports are written -/

/-- The configuration with other settings for reports. -/
def Config.withReport (c : Config) (s : ReportSettings) : Config := { c with report := s }

namespace Config

@[simp] theorem family_withReport (c : Config) (s : ReportSettings) (f : Family) :
    (c.withReport s).family f = c.family f := by
  cases f <;> rfl

theorem enable_withReport (c : Config) (s : ReportSettings) (f : Family) :
    (c.withReport s).enable f = (c.enable f).withReport s := by
  cases f <;> rfl

theorem enableAll_withReport (c : Config) (s : ReportSettings) (families : List Family) :
    (c.withReport s).enableAll families = (c.enableAll families).withReport s := by
  induction families generalizing c with
  | nil => rfl
  | cons f rest ih =>
      simp only [enableAll, List.foldl_cons, enable_withReport] at ih ⊢
      exact ih _

theorem report_enableAll (c : Config) (families : List Family) :
    (c.enableAll families).report = c.report := by
  have same := congrArg Config.report (enableAll_withReport c c.report families)
  exact same

theorem validate_withReport (c : Config) (s : ReportSettings) :
    (c.withReport s).validate = c.validate := by
  have families : (c.withReport s).checkFamily = c.checkFamily := by
    funext f
    simp only [checkFamily, family_withReport]
  rw [validate, families]
  rfl

end Config

namespace Validator

/-- The validator with other settings for reports. -/
def withReport (v : Validator) (s : ReportSettings) : Validator :=
  { v with config := v.config.withReport s, view := .ofSettings s }

theorem ofConfig_withReport {c : Config} {v : Validator} (s : ReportSettings)
    (made : ofConfig c = .ok v) : ofConfig (c.withReport s) = .ok (v.withReport s) := by
  rw [ofConfig] at made ⊢
  rw [validate_withReport]
  cases valid : c.validate with
  | error fault => simp [valid] at made
  | ok accepted =>
      simp only [valid, Except.ok.injEq] at made
      rw [← made]
      rfl

theorem registry_of_ofConfig {c : Config} {v : Validator} (made : ofConfig c = .ok v) :
    v.registry = .builtin := by
  rw [ofConfig] at made
  split at made
  · cases made
    rfl
  · cases made

theorem verdicts_withReport {v : Validator} (registry : v.registry = .builtin) (s : ReportSettings)
    (files : List String) (pair : Family × Source) :
    (v.withReport s).verdicts ⟨v.config.withReport s, files⟩ pair =
      v.verdicts ⟨v.config, files⟩ pair := by
  have rules : (v.withReport s).rulesOf pair.1 = v.rulesOf pair.1 := by
    have builtin : (v.withReport s).builtinRule? pair.1 = v.builtinRule? pair.1 := by
      funext id
      simp only [builtinRule?, withReport, family_withReport]
    rw [rulesOf, rulesOf, builtin]
    rfl
  rw [verdicts, rules]
  exact verdicts_contextFree registry _ _ pair

theorem pairs_withReport (v : Validator) (s : ReportSettings) (sources : List Source) :
    (v.withReport s).pairs sources = v.pairs sources := by
  simp only [pairs, withReport, enabledFamilies, family_withReport]

/-! ## The violations of a run over files -/

theorem validateFiles_pure {v : Validator} (pure : v.registry.Pure) (fs : FileSystem)
    (mode : Analysis.Mode) (files : List String) :
    let report := v.validateFiles fs mode false files
    report.violations =
        (v.pairs (loadSources fs files).1).flatMap (v.verdicts ⟨v.config, files⟩) ∧
      report.cancelled = false := by
  intro report
  simp only [report, validateFiles, Report.foldl_skip]
  exact run_pure pure mode (loadSources fs files).1 files

end Validator

namespace Cli

/-- The report of a check, whatever becomes of it. -/
def checkReport (env : Environment) (a : CheckArguments) (c : Config) : Except Error Report := do
  let v ← Validator.ofConfig (c.enableAll a.enable)
  let report ← v.validatePaths env.files (if a.parallel then .parallel else .sequential) false
    (if a.paths.isEmpty then ["."] else a.paths) a.excludes
  return (report.setDuration env.elapsed).setFinishedAt env.now

/-- The severity from which on violations fail a check. -/
def threshold (a : CheckArguments) (c : Config) : Severity :=
  a.minSeverity.getD c.report.minSeverity

/-- The text of a check's report. -/
def checkText (env : Environment) (a : CheckArguments) (c : Config) (report : Report) : String :=
  report.render (checkView (c.enableAll a.enable) a) env.colors (a.format.getD c.report.format)

/-- A text is printed, or written to the file that is asked for. -/
def Outcome.Delivers (o : Outcome) (a : CheckArguments) (c : Config) (text : String) : Prop :=
  match a.output.or c.report.output with
  | none => o.output = text
  | some path => o.written = some (path, text)

/-- The outcome is not that of a command that failed. -/
def Outcome.Completed (o : Outcome) (files : FileSystem) : Prop :=
  ∀ notes failure, o ≠ .failed files notes failure

theorem validatePaths_view (v : Validator) (view : Report.View) (fs : FileSystem)
    (mode : Analysis.Mode) (cancelled : Bool) (roots excludes : List String) :
    ({ v with view } : Validator).validatePaths fs mode cancelled roots excludes =
      v.validatePaths fs mode cancelled roots excludes := rfl

theorem checkView_minSeverity (a : CheckArguments) (c : Config) :
    (checkView (c.enableAll a.enable) a).minSeverity = threshold a c := by
  rw [checkView, threshold, report_enableAll]
  rfl

/-- A check fails, or its report decides and is delivered; the notes before it do not matter. -/
theorem checkWith_cases (env : Environment) (a : CheckArguments) (c : Config) :
    (∃ failure, ∀ notes, ∃ after, checkWith env a c notes = .failed env.files after failure) ∨
      ∃ report, checkReport env a c = .ok report ∧ ∀ notes,
        (checkWith env a c notes).exit = checkExit (threshold a c) report ∧
          (checkWith env a c notes).Delivers a c (checkText env a c report) := by
  rw [← checkView_minSeverity]
  simp only [checkWith, checkReport, validatePaths_view, Outcome.Delivers, checkText,
    report_enableAll]
  cases Validator.ofConfig (c.enableAll a.enable) with
  | error e => exact .inl ⟨_, fun notes => ⟨_, rfl⟩⟩
  | ok v =>
      simp only [bind, Except.bind]
      cases v.validatePaths env.files (if a.parallel then .parallel else .sequential) false
        (if a.paths.isEmpty then ["."] else a.paths) a.excludes with
      | error e => exact .inl ⟨_, fun notes => ⟨_, rfl⟩⟩
      | ok report =>
          cases a.output.or c.report.output with
          | none => exact .inr ⟨_, rfl, fun notes => ⟨rfl, rfl⟩⟩
          | some path =>
              simp only
              split
              · exact .inr ⟨_, rfl, fun notes => ⟨rfl, rfl⟩⟩
              · exact .inl ⟨_, fun notes => ⟨_, rfl⟩⟩

/-! ## What decides -/

theorem checkReport_eq_ok {env : Environment} {a : CheckArguments} {c : Config} {report : Report}
    (done : checkReport env a c = .ok report) :
    ∃ v files, Validator.ofConfig (c.enableAll a.enable) = .ok v ∧
      v.discover env.files (if a.paths.isEmpty then ["."] else a.paths) a.excludes = .ok files ∧
      report.violations = (v.pairs (Validator.loadSources env.files files).1).flatMap
        (v.verdicts ⟨v.config, files⟩) ∧
      report.cancelled = false := by
  simp only [checkReport, Validator.validatePaths, bind_eq_ok, pure_eq_ok] at done
  obtain ⟨v, made, _, ⟨files, discovered, rfl⟩, rfl⟩ := done
  have pure : v.registry.Pure := by
    rw [Validator.registry_of_ofConfig made]
    exact Registry.builtin_pure
  exact ⟨v, files, made, discovered, Validator.validateFiles_pure pure env.files _ files⟩

/-- Checks of the same files with the same rules find the same. -/
theorem checkReport_violations_eq {env env' : Environment} {a a' : CheckArguments} {c : Config}
    {settings : ReportSettings} {report report' : Report}
    (done : checkReport env a c = .ok report)
    (again : checkReport env' a' (c.withReport settings) = .ok report')
    (files : env'.files = env.files) (paths : a'.paths = a.paths)
    (excludes : a'.excludes = a.excludes) (enable : a'.enable = a.enable) :
    report'.violations = report.violations := by
  obtain ⟨v, found, made, discovered, violations, -⟩ := checkReport_eq_ok done
  obtain ⟨v', found', made', discovered', violations', -⟩ := checkReport_eq_ok again
  rw [enable, enableAll_withReport, Validator.ofConfig_withReport settings made,
    Except.ok.injEq] at made'
  subst made'
  rw [files, paths, excludes] at discovered'
  have same : found = found' := Except.ok.inj (discovered.symm.trans discovered')
  subst same
  rw [violations, violations', files, Validator.pairs_withReport]
  congr 1
  funext pair
  exact Validator.verdicts_withReport (Validator.registry_of_ofConfig made) settings found pair

theorem checkExit_eq_one_iff {limit : Severity} {r : Report} (uncancelled : r.cancelled = false) :
    checkExit limit r = 1 ↔ ∃ v ∈ r.violations, limit ≤ v.severity := by
  simp [checkExit, uncancelled, Report.hasViolationsAt, exitViolations]

theorem checkExit_eq_zero_iff {limit : Severity} {r : Report} (uncancelled : r.cancelled = false) :
    checkExit limit r = 0 ↔ ¬ ∃ v ∈ r.violations, limit ≤ v.severity := by
  simp [checkExit, uncancelled, Report.hasViolationsAt, exitViolations]

theorem checkExit_congr {limit : Severity} {r r' : Report} (uncancelled : r.cancelled = false)
    (uncancelled' : r'.cancelled = false) (same : r'.violations = r.violations) :
    checkExit limit r' = checkExit limit r := by
  rw [checkExit, checkExit, uncancelled, uncancelled', Report.hasViolationsAt, same,
    Report.hasViolationsAt]

theorem completed_of_checkReport {env : Environment} {a : CheckArguments} {c : Config}
    {report : Report} (notes : List Note) (done : checkReport env a c = .ok report)
    (printed : a.output.or c.report.output = none) :
    (checkWith env a c notes).Completed env.files := by
  obtain ⟨-, -, -, -, -, uncancelled⟩ := checkReport_eq_ok done
  have exit_eq : (checkWith env a c notes).exit =
      checkExit (checkView (c.enableAll a.enable) a).minSeverity report := by
    simp only [checkReport, bind_eq_ok, pure_eq_ok] at done
    obtain ⟨v, made, _, found, rfl⟩ := done
    rw [← report_enableAll c a.enable] at printed
    simp only [checkWith, made, validatePaths_view, found, printed]
  intro after failure failed
  rw [failed] at exit_eq
  have one : checkExit (checkView (c.enableAll a.enable) a).minSeverity report ≤ 1 := by
    simp only [checkExit, uncancelled, Bool.false_eq_true, if_false]
    split <;> simp [exitViolations]
  rw [← exit_eq] at one
  simp [Outcome.failed, exitFailure] at one

/-- A completed check exits with 1 exactly when its report has a violation of at least the
threshold, and otherwise with 0. The code is 1 exactly when the report to read begins with the
header, which counts these violations. Neither the format nor the number of violations shown, nor
colours, parallel work, the time or the place the report goes to make a difference. -/
theorem exit_agrees_with_report {env : Environment} {a : CheckArguments} {c : Config}
    {notes : List Note} (completed : (checkWith env a c notes).Completed env.files) :
    ∃ report, checkReport env a c = .ok report ∧ report.cancelled = false ∧
      (checkWith env a c notes).Delivers a c (checkText env a c report) ∧
      let exit := (checkWith env a c notes).exit
      let severe := report.violations.filter fun v => threshold a c ≤ v.severity
      (exit = 1 ↔ ∃ v ∈ report.violations, threshold a c ≤ v.severity) ∧
      (exit = 0 ↔ ¬ ∃ v ∈ report.violations, threshold a c ≤ v.severity) ∧
      (∀ (view : Report.View) (terminal : Bool) (n : Nat), view.minSeverity = threshold a c →
        (((Report.header n).render (view.useColors && terminal)).toList <+:
            (report.render view terminal .human).toList ↔
          exit = 1 ∧ n = severe.length)) ∧
      (∀ given, loadConfig env.files given = .ok c → (check env given a).exit = exit) ∧
      ∀ (format : Option Report.Format) (maxViolations : Option Nat) (output : Option String)
        (parallel colors terminal : Bool) (now : Report.Timestamp) (elapsed : Nat)
        (settings : ReportSettings) (notes' : List Note),
        settings.minSeverity = c.report.minSeverity →
        let again := checkWith { env with colors := terminal, now, elapsed }
          { a with format, maxViolations, output, parallel, colors } (c.withReport settings) notes'
        again.Completed env.files → again.exit = exit := by
  rcases checkWith_cases env a c with ⟨_, failed⟩ | ⟨report, done, decided⟩
  · obtain ⟨_, failed⟩ := failed notes
    exact absurd failed (completed _ _)
  obtain ⟨exit_eq, delivered⟩ := decided notes
  obtain ⟨-, -, -, -, -, uncancelled⟩ := checkReport_eq_ok done
  refine ⟨report, done, uncancelled, delivered, ?_, ?_, ?_, ?_, ?_⟩
  · rw [exit_eq, checkExit_eq_one_iff uncancelled]
  · rw [exit_eq, checkExit_eq_zero_iff uncancelled]
  · intro view terminal n limit
    have matching : (Report.matching view report) =
        report.violations.filter fun v => threshold a c ≤ v.severity := by
      rw [Report.matching, limit, Violations.atLeast]
    rw [exit_eq, checkExit_eq_one_iff uncancelled, Report.render, Report.header_prefix_human_iff,
      matching]
    constructor
    · rintro ⟨positive, rfl⟩
      obtain ⟨v, member⟩ := List.exists_mem_of_length_pos positive
      rw [List.mem_filter, decide_eq_true_iff] at member
      exact ⟨⟨v, member⟩, rfl⟩
    · rintro ⟨⟨v, member, severe⟩, rfl⟩
      exact ⟨List.length_pos_of_mem (List.mem_filter.2 ⟨member, by simpa using severe⟩), rfl⟩
  · intro given loaded
    simp only [check, loaded]
    rw [exit_eq, (decided _).1]
  · intro format maxViolations output parallel colors terminal now elapsed settings notes' limit
      again completed'
    rcases checkWith_cases { env with colors := terminal, now, elapsed }
      { a with format, maxViolations, output, parallel, colors } (c.withReport settings) with
      ⟨_, failed⟩ | ⟨report', done', decided'⟩
    · obtain ⟨_, failed⟩ := failed notes'
      exact absurd failed (completed' _ _)
    obtain ⟨-, -, -, -, -, uncancelled'⟩ := checkReport_eq_ok done'
    have same := checkReport_violations_eq done done' rfl rfl rfl rfl
    have limit' : threshold { a with format, maxViolations, output, parallel, colors }
        (c.withReport settings) = threshold a c := congrArg a.minSeverity.getD limit
    rw [exit_eq, (decided' notes').1, limit', checkExit_congr uncancelled uncancelled' same]

/-- A port that is a class, alone in a directory. -/
def portBytes : List UInt8 := "namespace App\\Port; class A".toList.map fun c => c.toNat.toUInt8

def portFiles : FileSystem := { root := .directory [("A.php", .file portBytes)] }

theorem resolve_port : portFiles.resolve "A.php" = .ok (["A.php"], .file portBytes) := by
  have pieces : Path.pieces "A.php" = ["A.php"] := by decide
  simp [FileSystem.resolve, pieces, portFiles, FileSystem.resolveFrom, FileTree.at?, FileTree.child?]

def portConfig : Config := { Config.default with paths := { excludes := [] } }

def portArguments : CheckArguments :=
  { paths := ["A.php"], enable := [.hexagonal], maxViolations := some 0 }

def portValidator : Validator :=
  { config := portConfig.enableAll [.hexagonal], view := .ofSettings portConfig.report }

theorem discover_port : portValidator.discover portFiles ["A.php"] [] = .ok ["A.php"] := by
  have found : ({ patterns := [], extensions := ["php"] } : PathFilter).find portFiles "A.php" =
      .ok ["A.php"] := by
    have accepted : ({ patterns := [], extensions := ["php"] } : PathFilter).acceptsExtension
        "A.php" = true := by decide +kernel
    simp [PathFilter.find, FileSystem.contains, FileSystem.isFile, resolve_port, accepted,
      FileTree.isFile, Except.isOk, Except.toBool]
  have filter : PathFilter.ofLists (portValidator.config.paths.excludes ++ [])
      portValidator.config.paths.extensions = .ok { patterns := [], extensions := ["php"] } := rfl
  simp only [Validator.discover, filter, PathFilter.discover, List.mapM_cons, found]
  rfl

theorem loadSources_port : (Validator.loadSources portFiles ["A.php"]).1 =
    [.ofContent "A.php" "namespace App\\Port; class A"] := by
  have text : Text.Utf8.decodeLossy portBytes = "namespace App\\Port; class A" := by
    unfold portBytes
    rw [String.toList_ofList]
    decide
  simp [Validator.loadSources, Validator.loadSource, FileSystem.read, resolve_port, text]

/-- The class fails the check although no violation is shown. -/
theorem exit_port :
    (checkWith { files := portFiles } portArguments portConfig []).exit = 1 := by
  have made : Validator.ofConfig (portConfig.enableAll [.hexagonal]) = .ok portValidator := rfl
  obtain ⟨report, done⟩ : ∃ report,
      checkReport { files := portFiles } portArguments portConfig = .ok report := by
    simp only [checkReport, Validator.validatePaths, bind_eq_ok, pure_eq_ok]
    exact ⟨_, portValidator, made, _, ⟨_, discover_port, rfl⟩, rfl⟩
  obtain ⟨_, _, made', discovered', violations, -⟩ := checkReport_eq_ok done
  cases made.symm.trans made'
  cases discover_port.symm.trans discovered'
  obtain ⟨_, done', -, -, exits, -⟩ :=
    exit_agrees_with_report (completed_of_checkReport [] done rfl)
  cases done.symm.trans done'
  rw [exits]
  have found : report.violations.any (fun v => Severity.warning ≤ v.severity) = true := by
    rw [violations, loadSources_port]
    unfold Validator.verdicts
    simp only [Validator.rulesOf_builtin (v := portValidator) rfl rfl, Source.ofContent]
    rw [String.toList_ofList]
    decide
  have limit : threshold portArguments portConfig = .warning := rfl
  rw [limit]
  simpa using found

end Cli

end Layering
