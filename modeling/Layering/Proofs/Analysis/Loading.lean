import Layering.Proofs.Analysis.Locality

/-!
# Files that cannot be read

Reading the files of a list sorts its positions into those with a source and those that are skipped:
`splits_loadSources`. It does not matter in which order workers read them, since each result has its
place: `loadInOrder_eq`. A run then tells of each file, be it by counting it or by skipping it, and
of the files that can be read it tells what a run over these alone does: `no_file_lost`.
-/

namespace Layering
open Analysis

/-! ## What an analysis evaluates -/

namespace Analyzer

/-- How many files an analysis evaluates. -/
def reach (a : Analyzer) (cancelled : Bool) (files : List Source) : Mode → Nat
  | .sequential => evaluatedCount a.trips cancelled files
  | .parallel => (List.replicate files.length cancelled).idxOf true

/-- What else there is to the run does not decide how many files are evaluated. -/
theorem analyze_eq (a : Analyzer) (mode : Mode) (ctx : Context) (cancelled : Bool)
    (files : List Source) :
    a.analyze mode ctx cancelled files =
      ({ violations := (files.take (a.reach cancelled files mode)).flatMap (a.evaluate ctx)
         filesAnalyzed := a.reach cancelled files mode
         cancelled := decide (a.reach cancelled files mode < files.length) },
        cancelled || files.any a.trips) := by
  cases mode with
  | sequential => exact a.analyze_sequential ctx cancelled files
  | parallel =>
      have bound : a.reach cancelled files .parallel ≤ files.length := by
        have inside := List.idxOf_le_length (a := true) (l := List.replicate files.length cancelled)
        rwa [List.length_replicate] at inside
      rw [analyze, analyzeScheduled_eq a ctx _ files List.length_replicate,
        ← a.outcome_take ctx files bound]
      rfl

end Analyzer

namespace Validator

section Runs

variable (mode : Mode) (sources : List Source) (first cancelled : Bool)
  (analyzers : List Analyzer) (r : Report)

theorem runAnalyzers_congr {ctx ctx' : Context}
    (same : ∀ a ∈ analyzers, a.evaluate ctx = a.evaluate ctx') :
    runAnalyzers mode ctx sources first cancelled analyzers r =
      runAnalyzers mode ctx' sources first cancelled analyzers r := by
  induction analyzers generalizing first cancelled r with
  | nil => rfl
  | cons a rest ih =>
      rw [List.forall_mem_cons] at same
      simp only [runAnalyzers, Analyzer.analyze_eq, same.1, ih _ _ _ same.2]

theorem mem_runAnalyzers {ctx : Context} {w : Violation}
    (member : w ∈ (runAnalyzers mode ctx sources first cancelled analyzers r).violations) :
    w ∈ r.violations ∨ ∃ a ∈ analyzers, ∃ file ∈ sources, w ∈ a.evaluate ctx file := by
  induction analyzers generalizing first cancelled r with
  | nil => exact .inl member
  | cons a rest ih =>
      simp only [runAnalyzers, Analyzer.analyze_eq] at member
      have here {n : Nat} (found : w ∈ (r.addAll
          ((sources.take n).flatMap (a.evaluate ctx))).violations) :
          w ∈ r.violations ∨ ∃ a' ∈ a :: rest, ∃ file ∈ sources, w ∈ a'.evaluate ctx file := by
        rw [Report.addAll_violations, List.mem_append, List.mem_flatMap] at found
        rcases found with old | ⟨file, taken, found⟩
        · exact .inl old
        · exact .inr ⟨a, List.mem_cons_self, file, List.mem_of_mem_take taken, found⟩
      split at member
      · cases first <;> exact here member
      · rcases ih _ _ _ member with found | ⟨a', later, file, given, found⟩
        · exact here found
        · exact .inr ⟨a', List.mem_cons_of_mem _ later, file, given, found⟩

/-- No run skips files, and only one that is cancelled counts other files than were there before. -/
theorem runAnalyzers_files (ctx : Context) :
    let result := runAnalyzers mode ctx sources first cancelled analyzers r
    result.skipped = r.skipped ∧ (result.cancelled = false → result.totalFiles = r.totalFiles) := by
  induction analyzers generalizing first cancelled r with
  | nil => exact ⟨rfl, fun _ => rfl⟩
  | cons a rest ih =>
      simp only [runAnalyzers]
      split
      · cases first <;> simp [Report.setFiles, Report.setCancelled]
      · obtain ⟨skipped, total⟩ := ih false (a.analyze mode ctx cancelled sources).2
          (r.addAll (a.analyze mode ctx cancelled sources).1.violations)
        rw [Report.addAll_skipped] at skipped
        rw [Report.addAll_totalFiles] at total
        exact ⟨skipped, total⟩

end Runs

/-! ## Reading files -/

/-- The file at a position can be read and gives a source. -/
def Loads (fs : FileSystem) (files : List String) (i : Nat) (source : Source) : Prop :=
  ∃ path bytes, files[i]? = some path ∧ fs.read path = .ok bytes ∧
    source = .ofContent path (Text.Utf8.decodeLossy bytes)

/-- The file at a position cannot be read and is skipped, for the reason that reading it gives. -/
def Misses (fs : FileSystem) (files : List String) (i : Nat) (file : Report.Skipped) : Prop :=
  ∃ path fault, files[i]? = some path ∧ fs.read path = .error fault ∧
    file = ⟨path, (Error.fileRead path fault).message⟩

/-- Each position of a list of files has its place either among the sources or among the skipped
files, both in order. -/
def Splits (fs : FileSystem) (files : List String) (sources : List Source)
    (skipped : List Report.Skipped) : Prop :=
  ∃ loaded missed : List Nat, loaded.Pairwise (· < ·) ∧ missed.Pairwise (· < ·) ∧
    (loaded ++ missed).Perm (List.range files.length) ∧
    List.Forall₂ (Loads fs files) loaded sources ∧ List.Forall₂ (Misses fs files) missed skipped

section Splits

variable {fs : FileSystem} {path : String} {files : List String} {sources : List Source}
  {skipped : List Report.Skipped}

theorem Splits.load {bytes : List UInt8} (read : fs.read path = .ok bytes)
    (splits : Splits fs files sources skipped) :
    Splits fs (path :: files) (.ofContent path (Text.Utf8.decodeLossy bytes) :: sources)
      skipped := by
  obtain ⟨loaded, missed, ascending, ascending', all, loads, misses⟩ := splits
  refine ⟨0 :: loaded.map (· + 1), missed.map (· + 1), ?_, ?_, ?_, ?_, ?_⟩
  · rw [List.pairwise_cons, List.pairwise_map]
    refine ⟨by simp, ascending.imp Nat.succ_lt_succ⟩
  · rw [List.pairwise_map]
    exact ascending'.imp Nat.succ_lt_succ
  · rw [List.length_cons, List.range_succ_eq_map, List.cons_append, ← List.map_append]
    exact (all.map _).cons 0
  · refine .cons ⟨path, bytes, rfl, read, rfl⟩ ?_
    exact List.forall₂_map_left_iff.2 loads
  · exact List.forall₂_map_left_iff.2 misses

theorem Splits.skip {fault : FileFault} (read : fs.read path = .error fault)
    (splits : Splits fs files sources skipped) :
    Splits fs (path :: files) sources (⟨path, (Error.fileRead path fault).message⟩ :: skipped) := by
  obtain ⟨loaded, missed, ascending, ascending', all, loads, misses⟩ := splits
  refine ⟨loaded.map (· + 1), 0 :: missed.map (· + 1), ?_, ?_, ?_, ?_, ?_⟩
  · rw [List.pairwise_map]
    exact ascending.imp Nat.succ_lt_succ
  · rw [List.pairwise_cons, List.pairwise_map]
    refine ⟨by simp, ascending'.imp Nat.succ_lt_succ⟩
  · rw [List.length_cons, List.range_succ_eq_map]
    refine List.perm_middle.trans ?_
    rw [← List.map_append]
    exact (all.map _).cons 0
  · exact List.forall₂_map_left_iff.2 loads
  · refine .cons ⟨path, fault, rfl, read, rfl⟩ ?_
    exact List.forall₂_map_left_iff.2 misses

end Splits

theorem splits_loadSources (fs : FileSystem) (files : List String) :
    Splits fs files (loadSources fs files).1 (loadSources fs files).2 := by
  induction files with
  | nil => exact ⟨[], [], .nil, .nil, .refl _, .nil, .nil⟩
  | cons path rest ih =>
      cases read : fs.read path with
      | ok bytes =>
          simp only [loadSources, loadSource, read]
          exact ih.load read
      | error fault =>
          simp only [loadSources, loadSource, read]
          exact ih.skip read

theorem Splits.length_add {fs : FileSystem} {files : List String} {sources : List Source}
    {skipped : List Report.Skipped} (splits : Splits fs files sources skipped) :
    sources.length + skipped.length = files.length := by
  obtain ⟨loaded, missed, -, -, all, loads, misses⟩ := splits
  rw [← loads.length_eq, ← misses.length_eq, ← List.length_append, all.length_eq,
    List.length_range]

theorem Splits.of_mem {fs : FileSystem} {files : List String} {sources : List Source}
    {skipped : List Report.Skipped} (splits : Splits fs files sources skipped) {source : Source}
    (member : source ∈ sources) :
    source.path ∈ files ∧ ∃ bytes, fs.read source.path = .ok bytes := by
  obtain ⟨loaded, -, -, -, -, loads, -⟩ := splits
  obtain ⟨n, inside, rfl⟩ := List.getElem_of_mem member
  obtain ⟨path, bytes, here, read, same⟩ := loads.get (loads.length_eq ▸ inside) inside
  rw [List.get_eq_getElem] at same
  rw [same]
  exact ⟨List.mem_of_getElem? here, bytes, read⟩

/-- Files that cannot be read leave no trace among the sources. -/
theorem sources_filter (fs : FileSystem) (files : List String) :
    (loadSources fs (files.filter fun path => (fs.read path).isOk)).1 =
      (loadSources fs files).1 := by
  induction files with
  | nil => rfl
  | cons path rest ih =>
      cases read : fs.read path with
      | ok bytes =>
          rw [List.filter_cons_of_pos (by rw [read]; rfl)]
          simp only [loadSources, loadSource, read, ih]
      | error fault =>
          rw [List.filter_cons_of_neg (by rw [read]; exact Bool.false_ne_true)]
          simp only [loadSources, loadSource, read, ih]

/-! ## Workers -/

/-- What workers have read that take the files in some order: each result is at the place of its
file. -/
def readInOrder (fs : FileSystem) (files : List String) (order : List Nat) :
    List (Option (Except Error Source)) :=
  order.foldl (fun places i => places.set i (files[i]?.map (loadSource fs)))
    (List.replicate files.length none)

/-- Files with what was read of them, as sources and as skipped files. -/
def sortOut : List (String × Except Error Source) → List Source × List Report.Skipped
  | [] => ([], [])
  | (_, .ok source) :: rest => (source :: (sortOut rest).1, (sortOut rest).2)
  | (path, .error e) :: rest => ((sortOut rest).1, ⟨path, e.message⟩ :: (sortOut rest).2)

/-- Read files by workers, and sort out the results when all are there. -/
def loadInOrder (fs : FileSystem) (order : List Nat) (files : List String) :
    List Source × List Report.Skipped :=
  sortOut (files.zip ((readInOrder fs files order).filterMap id))

section Places

variable {α : Type} (result : Nat → α) (order : List Nat) (places : List α)

theorem length_foldl_set :
    (order.foldl (fun places i => places.set i (result i)) places).length = places.length := by
  induction order generalizing places with
  | nil => rfl
  | cons j rest ih => rw [List.foldl_cons, ih, List.length_set]

/-- A place holds its result once it has been written, however often it was. -/
theorem getElem?_foldl_set {i : Nat} (inside : i < places.length)
    (written : i ∈ order ∨ places[i]? = some (result i)) :
    (order.foldl (fun places i => places.set i (result i)) places)[i]? = some (result i) := by
  induction order generalizing places with
  | nil => simpa using written
  | cons j rest ih =>
      rw [List.foldl_cons]
      apply ih
      · rwa [List.length_set]
      · rw [List.mem_cons] at written
        by_cases here : j = i
        · subst here
          exact .inr (List.getElem?_set_self inside)
        · rw [List.getElem?_set_ne here]
          exact written.imp_left fun member => member.resolve_left (Ne.symm here)

end Places

theorem readInOrder_eq (fs : FileSystem) {files : List String} {order : List Nat}
    (all : order.Perm (List.range files.length)) :
    readInOrder fs files order = files.map fun path => some (loadSource fs path) := by
  apply List.ext_getElem?'
  intro i bound
  have inside : i < files.length := by simpa [readInOrder, length_foldl_set] using bound
  rw [readInOrder, getElem?_foldl_set, List.getElem?_map, List.getElem?_eq_getElem inside]
  · rfl
  · rwa [List.length_replicate]
  · exact .inl (all.mem_iff.2 (List.mem_range.2 inside))

theorem sortOut_map (fs : FileSystem) (files : List String) :
    sortOut (files.zip (files.map (loadSource fs))) = loadSources fs files := by
  induction files with
  | nil => rfl
  | cons path rest ih =>
      rw [List.map_cons, List.zip_cons_cons, loadSources, ← ih]
      cases loadSource fs path <;> rfl

theorem loadInOrder_eq (fs : FileSystem) {files : List String} {order : List Nat}
    (all : order.Perm (List.range files.length)) :
    loadInOrder fs order files = loadSources fs files := by
  have results : (readInOrder fs files order).filterMap id = files.map (loadSource fs) := by
    rw [readInOrder_eq fs all, List.filterMap_map]
    exact congrFun List.filterMap_eq_map files
  rw [loadInOrder, results, sortOut_map]

/-! ## Runs over what was read -/

theorem evaluate_analyzerOf (v : Validator) (f : Family) (ctx : Context) (file : Source) :
    (v.analyzerOf f).evaluate ctx file = v.verdicts ctx (f, file) := by
  rw [Analyzer.evaluate, analyzerOf_rules, verdicts]

theorem run_contextFree {v : Validator} (registry : v.registry = .builtin) (mode : Mode)
    (cancelled : Bool) (sources : List Source) (files files' : List String) :
    v.run mode cancelled sources files = v.run mode cancelled sources files' := by
  apply runAnalyzers_congr
  intro a member
  obtain ⟨f, -, rfl⟩ := List.mem_map.1 member
  funext file
  rw [evaluate_analyzerOf, evaluate_analyzerOf]
  exact verdicts_contextFree registry _ _ _

theorem path_of_mem_run {v : Validator} (registry : v.registry = .builtin) {mode : Mode}
    {cancelled : Bool} {sources : List Source} {files : List String} {w : Violation}
    (member : w ∈ (v.run mode cancelled sources files).violations) :
    ∃ source ∈ sources, w.path = source.path := by
  obtain none | ⟨a, enabled, source, given, found⟩ := mem_runAnalyzers _ _ _ _ _ _ member
  · cases none
  · obtain ⟨f, -, rfl⟩ := List.mem_map.1 enabled
    rw [evaluate_analyzerOf] at found
    obtain ⟨r, rule, found⟩ := List.mem_filterMap.1 found
    exact ⟨source, given, (signed_of_mem_verdicts registry rule found).1⟩

theorem validateFiles_eq (v : Validator) (fs : FileSystem) (mode : Mode) (cancelled : Bool)
    (files : List String) :
    v.validateFiles fs mode cancelled files =
      { v.run mode cancelled (loadSources fs files).1 files with
        skipped := (loadSources fs files).2 } := by
  have none : (v.run mode cancelled (loadSources fs files).1 files).skipped = [] :=
    (runAnalyzers_files _ _ _ _ _ _ _).1
  simp only [validateFiles, Report.foldl_skip, none, List.nil_append]

/-- Each position of a list of files gives either a source or a skipped file, in order, whether the
files are read one after the other or by workers that take them in some order. In a run with the
built-in rules that is not cancelled, the files that are counted and those that are skipped are all
there are. In each run, what is reported is what the run over the files that can be read reports,
and it is reported of these files. -/
theorem no_file_lost (fs : FileSystem) (files : List String) :
    Splits fs files (loadSources fs files).1 (loadSources fs files).2 ∧
    (∀ order, order.Perm (List.range files.length) →
      loadInOrder fs order files = loadSources fs files) ∧
    ∀ (v : Validator) (mode : Mode) (cancelled : Bool), v.registry = .builtin →
      let report := v.validateFiles fs mode cancelled files
      let readable := files.filter fun path => (fs.read path).isOk
      (cancelled = false → report.cancelled = false) ∧
      (report.cancelled = false → report.totalFiles + report.skipped.length = files.length) ∧
      report.skipped = (loadSources fs files).2 ∧
      report.violations = (v.validateFiles fs mode cancelled readable).violations ∧
      ∀ w ∈ report.violations, w.path ∈ files ∧ ∃ bytes, fs.read w.path = .ok bytes := by
  have splits := splits_loadSources fs files
  refine ⟨splits, fun order all => loadInOrder_eq fs all, ?_⟩
  intro v mode cancelled registry report readable
  have pure : v.registry.Pure := by
    rw [registry]
    exact Registry.builtin_pure
  have eq : report = { v.run mode cancelled (loadSources fs files).1 files with
      skipped := (loadSources fs files).2 } := v.validateFiles_eq fs mode cancelled files
  refine ⟨?_, ?_, ?_, ?_, ?_⟩
  · rintro rfl
    rw [eq]
    exact (run_pure pure mode (loadSources fs files).1 files).2
  · intro completed
    rw [eq] at completed ⊢
    rw [← splits.length_add]
    exact congrArg (· + _) ((runAnalyzers_files _ _ _ _ _ _ _).2 completed)
  · rw [eq]
  · rw [eq, validateFiles_eq, sources_filter,
      run_contextFree registry mode cancelled _ files readable]
  · intro w member
    rw [eq] at member
    obtain ⟨source, given, path⟩ := path_of_mem_run registry member
    rw [path]
    exact splits.of_mem given

/-- A port that is a class, beside a directory. -/
def draftFiles : FileSystem :=
  { root := .directory
      [("Port.php", .file ("namespace App\\Port; class A".toList.map fun c => c.toNat.toUInt8)),
        ("drafts", .directory [])] }

theorem read_draftFiles :
    draftFiles.read "Port.php" =
      .ok ("namespace App\\Port; class A".toList.map fun c => c.toNat.toUInt8) ∧
    draftFiles.read "gone.php" = .error .notFound ∧
    draftFiles.read "drafts" = .error .isDirectory := by
  have pieces : Path.pieces "Port.php" = ["Port.php"] ∧ Path.pieces "gone.php" = ["gone.php"] ∧
      Path.pieces "drafts" = ["drafts"] := by decide
  simp [FileSystem.read, FileSystem.resolve, pieces, draftFiles, FileSystem.resolveFrom,
    FileTree.at?, FileTree.child?]

/-- The port is given twice, between a file that is missing and a directory. -/
theorem no_draft_lost :
    let v : Validator :=
      { config := Config.default.enableAll [.hexagonal], registry := .builtin,
        view := .ofSettings {} }
    let files := ["gone.php", "Port.php", "drafts", "Port.php"]
    let report := v.validateFiles draftFiles .parallel false files
    report.skipped =
        [⟨"gone.php", "Failed to read gone.php: No such file or directory (os error 2)"⟩,
          ⟨"drafts", "Failed to read drafts: Is a directory (os error 21)"⟩] ∧
      report.totalFiles = 2 ∧
      report.violations.map (·.path) = ["Port.php", "Port.php"] ∧
      loadInOrder draftFiles [3, 0, 2, 1] files = loadSources draftFiles files := by
  intro v files report
  obtain ⟨port, gone, drafts⟩ := read_draftFiles
  obtain ⟨-, orders, runs⟩ := no_file_lost draftFiles files
  obtain ⟨uncancelled, total, skips, violations, -⟩ := runs v .parallel false rfl
  have skipped : report.skipped =
      [⟨"gone.php", "Failed to read gone.php: No such file or directory (os error 2)"⟩,
        ⟨"drafts", "Failed to read drafts: Is a directory (os error 21)"⟩] := by
    rw [skips]
    simp only [files, loadSources, loadSource, port, gone, drafts]
    decide
  refine ⟨skipped, ?_, ?_, orders _ (by decide)⟩
  · have all := total (uncancelled rfl)
    rw [skipped] at all
    exact Nat.add_right_cancel all
  · have text : Text.Utf8.decodeLossy ("namespace App\\Port; class A".toList.map
        fun c => c.toNat.toUInt8) = "namespace App\\Port; class A" := by
      rw [String.toList_ofList]
      decide
    rw [violations, validateFiles_eq, sources_filter]
    simp only [files, loadSources, loadSource, port, gone, drafts, text, Source.ofContent,
      violations_eq (v := v) rfl _ _ _ ⟨v.config, []⟩, verdicts, rulesOf_builtin (v := v) rfl rfl]
    rw [String.toList_ofList]
    decide

end Validator

end Layering
