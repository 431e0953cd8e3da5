import Layering.Proofs.Exclusion
import Mathlib.Data.List.Induction

/-!
# Files found at several roots

Roots may lie one in the other and a file may be written in several ways, so the lists found at the
roots overlap. Of each file the first path stays, `distinct_eq_firstOccurrences`, and the other
paths stay in order. So a root that is given again adds nothing, `distinct_of_repeated`. All of it
for a validator: `discover_finds_each_once`.
-/

namespace Layering.PathFilter

open Config (bind_eq_ok pure_eq_ok)

/-! ## First occurrences -/

/-- The paths that are the same as none in front of them. -/
def firstOccurrences (paths : List String) : List String :=
  (paths.zipIdx.filter fun (path, i) => !(paths.take i).any (Path.same path)).map (·.1)

theorem firstOccurrences_concat (paths : List String) (path : String) :
    firstOccurrences (paths ++ [path]) =
      firstOccurrences paths ++ if paths.any (Path.same path) then [] else [path] := by
  have before : (paths.zipIdx.filter fun (p, i) => !((paths ++ [path]).take i).any (Path.same p)) =
      paths.zipIdx.filter fun (p, i) => !(paths.take i).any (Path.same p) := by
    apply List.filter_congr
    rintro ⟨p, i⟩ member
    have inside : i < paths.length := List.snd_lt_of_mem_zipIdx member
    simp only [List.take_append_of_le_length inside.le]
  rw [firstOccurrences, List.zipIdx_append, List.filter_append, before, List.map_append]
  congr 1
  cases known : paths.any (Path.same path) <;> simp [List.zipIdx, known]

/-- What has been seen counts by its members only. -/
theorem distinctAfter_congr {seen seen' : List (List Path.Component)}
    (same : ∀ cs, cs ∈ seen ↔ cs ∈ seen') (paths : List String) :
    distinctAfter seen paths = distinctAfter seen' paths := by
  induction paths generalizing seen seen' with
  | nil => rfl
  | cons path rest ih =>
      have known :
          seen.contains (Path.components path) = seen'.contains (Path.components path) := by
        rw [Bool.eq_iff_iff, List.contains_iff_mem, List.contains_iff_mem, same]
      have later : distinctAfter (Path.components path :: seen) rest =
          distinctAfter (Path.components path :: seen') rest := by
        apply ih
        intro cs
        rw [List.mem_cons, List.mem_cons, same]
      rw [distinctAfter, distinctAfter, known, ih same, later]

theorem distinctAfter_append (seen : List (List Path.Component)) (paths more : List String) :
    distinctAfter seen (paths ++ more) =
      distinctAfter seen paths ++ distinctAfter (paths.map Path.components ++ seen) more := by
  induction paths generalizing seen with
  | nil => rfl
  | cons path rest ih =>
      rw [List.cons_append, distinctAfter, distinctAfter, ih, ih]
      split
      case isTrue known =>
        rw [List.contains_iff_mem] at known
        congr 1
        apply distinctAfter_congr
        intro cs
        rw [List.map_cons, List.cons_append, List.mem_cons, iff_or_self]
        rintro rfl
        exact List.mem_append_right _ known
      case isFalse =>
        rw [List.cons_append]
        congr 2
        apply distinctAfter_congr
        intro cs
        simp only [List.map_cons, List.mem_cons, List.mem_append]
        rw [or_left_comm, or_assoc]

theorem distinctAfter_of_known {seen : List (List Path.Component)} {paths : List String}
    (known : ∀ path ∈ paths, Path.components path ∈ seen) : distinctAfter seen paths = [] := by
  induction paths with
  | nil => rfl
  | cons path rest ih =>
      rw [List.forall_mem_cons] at known
      rw [distinctAfter, if_pos (List.contains_iff_mem.2 known.1), ih known.2]

theorem distinct_append (paths more : List String) :
    distinct (paths ++ more) =
      distinct paths ++ distinctAfter (paths.map Path.components) more := by
  rw [distinct, distinctAfter_append, List.append_nil, distinct]

theorem distinct_concat (paths : List String) (path : String) :
    distinct (paths ++ [path]) =
      distinct paths ++ if paths.any (Path.same path) then [] else [path] := by
  have known : (paths.map Path.components).contains (Path.components path) =
      paths.any (Path.same path) := by
    rw [Bool.eq_iff_iff, List.contains_iff_mem, List.mem_map, List.any_eq_true]
    simp only [Path.same, beq_iff_eq, eq_comm (a := Path.components path)]
  rw [distinct_append, distinctAfter, known]
  rfl

theorem distinct_eq_firstOccurrences (paths : List String) :
    distinct paths = firstOccurrences paths := by
  induction paths using List.reverseRecOn with
  | nil => rfl
  | append_singleton paths path ih => rw [distinct_concat, firstOccurrences_concat, ih]

theorem distinct_sublist (paths : List String) : (distinct paths).Sublist paths := by
  induction paths using List.reverseRecOn with
  | nil => exact .refl _
  | append_singleton paths path ih =>
      rw [distinct_concat]
      apply ih.append
      split
      · exact List.nil_sublist _
      · exact .refl _

theorem distinct_pairwise (paths : List String) :
    (distinct paths).Pairwise fun a b => Path.same a b = false := by
  induction paths using List.reverseRecOn with
  | nil => exact .nil
  | append_singleton paths path ih =>
      rw [distinct_concat]
      split
      case isTrue =>
        rw [List.append_nil]
        exact ih
      case isFalse fresh =>
        refine List.pairwise_append.2 ⟨ih, List.pairwise_singleton _ _, ?_⟩
        intro earlier member _ last
        rw [List.mem_singleton.1 last, Bool.eq_false_iff]
        intro same
        apply fresh
        rw [List.any_eq_true]
        refine ⟨earlier, (distinct_sublist paths).subset member, ?_⟩
        rw [Path.same, beq_iff_eq] at same ⊢
        exact same.symm

/-- Paths that were there before can be left out. -/
theorem distinct_of_repeated {before again : List String} (repeated : again ⊆ before)
    (after : List String) : distinct (before ++ (again ++ after)) = distinct (before ++ after) := by
  have known : ∀ path ∈ again, Path.components path ∈ before.map Path.components :=
    fun path member => List.mem_map_of_mem (repeated member)
  rw [distinct_append, distinct_append, distinctAfter_append, distinctAfter_of_known known,
    List.nil_append]
  congr 1
  apply distinctAfter_congr
  intro cs
  rw [List.mem_append]
  constructor
  · rintro (earlier | member)
    · obtain ⟨path, inside, rfl⟩ := List.mem_map.1 earlier
      exact known path inside
    · exact member
  · exact .inr

/-! ## Several roots -/

section Roots

variable {f : PathFilter} {fs : FileSystem}

/-- What is found at each of the roots. -/
def FindsAll (f : PathFilter) (fs : FileSystem) : List String → List (List String) → Prop :=
  List.Forall₂ fun root found => f.find fs root = .ok found

theorem discover_eq_ok {roots files : List String} :
    f.discover fs roots = .ok files ↔
      ∃ lists, f.FindsAll fs roots lists ∧ files = distinct lists.flatten := by
  simp only [discover, bind_eq_ok, pure_eq_ok, mapM_eq_ok, FindsAll, eq_comm (a := files)]

theorem exists_discover_eq_error {roots : List String} :
    (∃ fault, f.discover fs roots = .error fault) ↔ ∃ root ∈ roots, fs.contains root = false := by
  have found : (∃ files, f.discover fs roots = .ok files) ↔
      ∀ root ∈ roots, fs.contains root = true := by
    simp only [← exists_find_eq_ok (f := f), ← exists_mapM_eq_ok, discover, bind_eq_ok, pure_eq_ok]
    constructor
    · rintro ⟨_, lists, searched, -⟩
      exact ⟨lists, searched⟩
    · rintro ⟨lists, searched⟩
      exact ⟨_, lists, searched, rfl⟩
  rw [ne_ok_iff, found]
  push Not
  simp only [ne_eq, Bool.not_eq_true]

/-- Whether files are found or not, a root that was given before adds nothing. -/
theorem discover_of_repeated (f : PathFilter) (fs : FileSystem) {earlier : List String}
    {root : String} (given : root ∈ earlier) (after : List String) :
    f.discover fs (earlier ++ root :: after) = f.discover fs (earlier ++ after) := by
  rw [discover, discover, List.mapM_append, List.mapM_append, List.mapM_cons]
  cases searched : earlier.mapM (f.find fs) with
  | error fault => rfl
  | ok lists =>
      obtain ⟨found, result⟩ := exists_mapM_eq_ok.1 ⟨lists, searched⟩ root given
      rw [result]
      cases later : after.mapM (f.find fs) with
      | error fault => rfl
      | ok rest =>
          have repeated : found ⊆ lists.flatten := by
            intro path member
            rw [List.mem_flatten]
            exact ⟨found, (mem_iff_of_mapM searched).2 ⟨root, given, result⟩, member⟩
          have same := distinct_of_repeated repeated rest.flatten
          rw [← List.flatten_cons, ← List.flatten_append, ← List.flatten_append] at same
          exact congrArg Except.ok same

end Roots

/-- With valid patterns, a validator looks for files as its filter does, and fails as it does. -/
theorem discover_of_ofLists {v : Validator} {excludes : List String} {f : PathFilter}
    (patterns : ofLists (v.config.paths.excludes ++ excludes) v.config.paths.extensions = .ok f)
    (fs : FileSystem) (roots : List String) :
    v.discover fs roots excludes = (f.discover fs roots).mapError Error.ofRoot := by
  simp only [Validator.discover, patterns]
  cases f.discover fs roots <;> rfl

/-- With valid patterns, looking for files fails exactly when a root does not exist, with the error
that the first such root has. Otherwise it gives what is found at the roots, one list after the
other, without the paths that are the same as one in front of them. So no two paths are the same,
each file that is found at a root is there, and nothing else is. A root that is given again later
on changes nothing. -/
theorem discover_finds_each_once (v : Validator) (excludes : List String)
    (valid : ∀ raw ∈ v.config.paths.excludes ++ excludes, ∃ p, Pattern.parse raw = .ok p) :
    ∃ f, ofLists (v.config.paths.excludes ++ excludes) v.config.paths.extensions = .ok f ∧
      ∀ (fs : FileSystem) (roots : List String),
        ((∃ e, v.discover fs roots excludes = .error e) ↔
          ∃ root ∈ roots, fs.contains root = false) ∧
        (∀ e, v.discover fs roots excludes = .error e ↔
          ∃ before root after, roots = before ++ root :: after ∧
            (∀ r ∈ before, fs.contains r = true) ∧ fs.contains root = false ∧
            f.find fs root = .error (.missing root) ∧
            e = .validation ("Path does not exist: " ++ root)) ∧
        (∀ files, v.discover fs roots excludes = .ok files →
          (∃ lists, f.FindsAll fs roots lists ∧ files = firstOccurrences lists.flatten) ∧
          (files.Pairwise fun a b => Path.same a b = false) ∧
          (∀ path, Lists files path ↔
            ∃ root ∈ roots, ∃ found, f.find fs root = .ok found ∧ Lists found path)) ∧
        ∀ before root between after, roots = before ++ root :: between ++ root :: after →
          v.discover fs roots excludes =
            v.discover fs (before ++ root :: between ++ after) excludes := by
  obtain ⟨f, patterns⟩ : ∃ f, ofLists (v.config.paths.excludes ++ excludes)
      v.config.paths.extensions = .ok f :=
    ofLists_eq_ok.2 (Config.forM_eq_ok.2 fun raw member => checkExclude_eq_ok.2 (valid raw member))
  refine ⟨f, patterns, fun fs roots => ?_⟩
  have discovers := discover_of_ofLists patterns fs
  have fails {e : Error} : v.discover fs roots excludes = .error e ↔
      ∃ fault, f.discover fs roots = .error fault ∧ e = .ofRoot fault := by
    rw [discovers]
    cases f.discover fs roots <;> simp [Except.mapError, eq_comm]
  have finds {files : List String} :
      v.discover fs roots excludes = .ok files ↔ f.discover fs roots = .ok files := by
    rw [discovers]
    cases f.discover fs roots <;> simp [Except.mapError]
  refine ⟨?_, ?_, ?_, ?_⟩
  · simp only [fails, ← exists_discover_eq_error (f := f)]
    constructor
    · rintro ⟨_, fault, failed, rfl⟩
      exact ⟨fault, failed⟩
    · rintro ⟨fault, failed⟩
      exact ⟨_, fault, failed, rfl⟩
  · intro e
    simp only [fails, discover_eq_error]
    constructor
    · rintro ⟨_, ⟨before, root, after, split, present, missing, rfl⟩, rfl⟩
      exact ⟨before, root, after, split, present, missing, find_eq_error.2 ⟨missing, rfl⟩, rfl⟩
    · rintro ⟨before, root, after, split, present, missing, -, rfl⟩
      exact ⟨_, ⟨before, root, after, split, present, missing, rfl⟩, rfl⟩
  · intro files found
    rw [finds] at found
    obtain ⟨lists, searched, rfl⟩ := discover_eq_ok.1 found
    refine ⟨⟨lists, searched, distinct_eq_firstOccurrences _⟩, distinct_pairwise _, ?_⟩
    intro path
    exact lists_of_discover found
  · rintro before root between after rfl
    have given : root ∈ before ++ root :: between :=
      List.mem_append_right _ List.mem_cons_self
    rw [discovers, discovers, discover_of_repeated f fs given]

theorem resolve_b : ∀ path ∈ ["project/src/B.php", "project/src//B.php"],
    projectFiles.resolve path = .ok (["project", "src", "B.php"], .file []) := by
  have pieces : Path.pieces "project/src/B.php" = ["project", "src", "B.php"] ∧
      Path.pieces "project/src//B.php" = ["project", "src", "", "B.php"] := by decide
  simp [FileSystem.resolve, pieces, projectFiles, projectEntries, FileSystem.resolveFrom,
    FileTree.at?, FileTree.child?]

theorem contains_project : projectFiles.contains "project" = true ∧
    projectFiles.contains "nowhere" = false := by
  have pieces : Path.pieces "nowhere" = ["nowhere"] := by decide
  constructor
  · rw [FileSystem.contains, resolve_project]
    rfl
  · simp [FileSystem.contains, FileSystem.resolve, pieces, projectFiles, FileSystem.resolveFrom,
      FileTree.at?, FileTree.child?, Except.isOk, Except.toBool]

/-- A file that is written in two ways, a root that does not exist, and a root that is given
again. -/
theorem discover_b_once :
    defaultValidator.discover projectFiles ["project/src/B.php", "project/src//B.php"] [] =
      .ok ["project/src/B.php"] ∧
    defaultValidator.discover projectFiles ["project", "nowhere", "nothing"] [] =
      .error (.validation "Path does not exist: nowhere") ∧
    defaultValidator.discover projectFiles ["project", "project/src", "project"] [] =
      defaultValidator.discover projectFiles ["project", "project/src"] [] := by
  have valid : ∀ raw ∈ defaultValidator.config.paths.excludes ++ [],
      ∃ p, Pattern.parse raw = .ok p := by
    intro raw member
    rw [List.append_nil] at member
    exact checkExclude_eq_ok.1 (Config.checkExclude_default member)
  obtain ⟨f, patterns, result⟩ := discover_finds_each_once defaultValidator [] valid
  refine ⟨?_, ?_, ?_⟩
  · obtain ⟨fails, -, finds, -⟩ :=
      result projectFiles ["project/src/B.php", "project/src//B.php"]
    have extensions : f.extensions = ["php"] := by
      simp only [ofLists, bind_eq_ok, pure_eq_ok] at patterns
      obtain ⟨ps, -, rfl⟩ := patterns
      rfl
    have found : ∀ path ∈ ["project/src/B.php", "project/src//B.php"],
        f.find projectFiles path = .ok [path] := by
      intro path member
      have php : Path.extension path = some "php" := by
        revert path
        decide +kernel
      have present : projectFiles.contains path = true := by
        rw [FileSystem.contains, resolve_b path member]
        rfl
      have isFile : projectFiles.isFile path = true := by
        rw [FileSystem.isFile, resolve_b path member]
        rfl
      simp [find, present, isFile, acceptsExtension, extensions, php]
    cases discovered : defaultValidator.discover projectFiles
        ["project/src/B.php", "project/src//B.php"] [] with
    | error e =>
        obtain ⟨root, member, missing⟩ := fails.1 ⟨e, discovered⟩
        rw [FileSystem.contains, resolve_b root member] at missing
        cases missing
    | ok files =>
        obtain ⟨⟨lists, searched, rfl⟩, -⟩ := finds files discovered
        rw [FindsAll, ← mapM_eq_ok, List.mapM_cons, List.mapM_cons, found _ (by simp),
          found _ (by simp)] at searched
        cases searched
        exact congrArg Except.ok (by decide +kernel)
  · refine ((result projectFiles ["project", "nowhere", "nothing"]).2.1 _).2
      ⟨["project"], "nowhere", ["nothing"], rfl, ?_, contains_project.2, ?_, rfl⟩
    · exact List.forall_mem_singleton.2 contains_project.1
    · exact find_eq_error.2 ⟨contains_project.2, rfl⟩
  · exact (result projectFiles ["project", "project/src", "project"]).2.2.2 [] "project"
      ["project/src"] [] rfl

end Layering.PathFilter
