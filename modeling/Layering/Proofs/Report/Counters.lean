import Layering.Report.Basic
import Mathlib.Algebra.GroupWithZero.Nat

/-!
# The counters of a report

A report keeps its counters beside the list of violations. Adding violations appends them to the
list and moves the counter of each severity by their number. So a report that was built step by step
has the violations that were added, in order, and its counters agree with them: `build_violations`,
`build_counted`. Whatever is asked of the counters can then be answered from the list, also how many
violations reach a severity: `counters_never_drift`.
-/

namespace Layering

@[simp] theorem Counts.get_empty (s : Severity) : ({} : Counts).get s = 0 := by
  cases s <;> rfl

theorem Counts.get_add (c : Counts) (s t : Severity) :
    (c.add s).get t = c.get t + if s = t then 1 else 0 := by
  cases s <;> cases t <;> rfl

theorem Counts.ext_get {c d : Counts} (same : ∀ s, c.get s = d.get s) : c = d := by
  obtain ⟨notice, info, warning, error, critical⟩ := c
  obtain ⟨notice', info', warning', error', critical'⟩ := d
  rw [Counts.mk.injEq]
  exact ⟨same .notice, same .info, same .warning, same .error, same .critical⟩

namespace Report

theorem addAll_cons (r : Report) (v : Violation) (vs : Violations) :
    r.addAll (v :: vs) = (r.add v).addAll vs := rfl

/-- Adding violations changes the list and the counters, and nothing beside them. -/
theorem addAll_eq (r : Report) (vs : Violations) :
    r.addAll vs =
      { r with
        violations := r.violations ++ vs
        counts := vs.foldl (fun c v => c.add v.severity) r.counts } := by
  induction vs generalizing r with
  | nil => rw [List.append_nil, addAll, List.foldl_nil, List.foldl_nil]
  | cons v vs ih =>
      rw [addAll_cons, ih, add, List.append_assoc, List.singleton_append, List.foldl_cons]

@[simp] theorem addAll_violations (r : Report) (vs : Violations) :
    (r.addAll vs).violations = r.violations ++ vs := by
  rw [addAll_eq]

@[simp] theorem addAll_totalFiles (r : Report) (vs : Violations) :
    (r.addAll vs).totalFiles = r.totalFiles := by
  rw [addAll_eq]

@[simp] theorem addAll_cancelled (r : Report) (vs : Violations) :
    (r.addAll vs).cancelled = r.cancelled := by
  rw [addAll_eq]

@[simp] theorem addAll_skipped (r : Report) (vs : Violations) :
    (r.addAll vs).skipped = r.skipped := by
  rw [addAll_eq]

theorem foldl_skip (r : Report) (skipped : List Skipped) :
    skipped.foldl (fun r s => r.skip s.path s.reason) r =
      { r with skipped := r.skipped ++ skipped } := by
  induction skipped generalizing r with
  | nil => rw [List.append_nil, List.foldl_nil]
  | cons s rest ih => rw [List.foldl_cons, ih, skip, List.append_assoc, List.singleton_append]

/-- The counters agree with the list of violations. -/
def Counted (r : Report) : Prop :=
  ∀ s, r.counts.get s = r.violations.countP fun v => v.severity = s

theorem counted_empty : empty.Counted := fun s => Counts.get_empty s

theorem Counted.add {r : Report} (counted : r.Counted) (v : Violation) : (r.add v).Counted := by
  intro s
  simp only [Report.add, Counts.get_add, counted s, List.countP_append, List.countP_singleton,
    decide_eq_true_eq]

theorem Counted.addAll {r : Report} (counted : r.Counted) (vs : Violations) :
    (r.addAll vs).Counted := by
  induction vs generalizing r with
  | nil => exact counted
  | cons v vs ih => exact ih (counted.add v)

/-- Each violation has one of the severities. -/
theorem sum_countP_severity (vs : Violations) :
    (Severity.all.map fun s => vs.countP fun v => v.severity = s).sum = vs.length := by
  induction vs with
  | nil => rfl
  | cons v vs ih =>
      simp only [Severity.all, List.map_cons, List.map_nil, List.sum_cons, List.sum_nil,
        List.countP_cons, List.length_cons, decide_eq_true_eq] at ih ⊢
      cases v.severity <;> simp <;> omega

theorem Counted.total {r : Report} (counted : r.Counted) :
    r.counts.total = r.violations.length := by
  have sum : (Severity.all.map r.counts.get).sum = r.counts.total := by
    simp [Severity.all, Counts.get, Counts.total, Nat.add_assoc]
  rw [← sum, ← sum_countP_severity, funext counted]

/-- The counters of a list of violations are those of a report it is added to. -/
theorem counts_eq_addAll (vs : Violations) : vs.counts = (empty.addAll vs).counts := by
  rw [addAll_eq, Violations.counts]
  rfl

theorem get_counts (vs : Violations) (s : Severity) :
    vs.counts.get s = vs.countP fun v => v.severity = s := by
  have counted := counted_empty.addAll vs s
  rw [addAll_violations] at counted
  rw [counts_eq_addAll, counted]
  rfl

theorem Counted.eq_counts {r : Report} (counted : r.Counted) : r.counts = r.violations.counts := by
  apply Counts.ext_get
  intro s
  rw [counted s, get_counts]

theorem countP_atLeast (vs : Violations) (min s : Severity) :
    (vs.atLeast min).countP (fun v => v.severity = s) =
      if min ≤ s then vs.countP fun v => v.severity = s else 0 := by
  rw [Violations.atLeast, List.countP_filter]
  split
  · rename_i reaches
    apply List.countP_congr
    intro v _
    simp only [Bool.and_eq_true, decide_eq_true_eq, and_iff_left_iff_imp]
    rintro rfl
    exact reaches
  · rename_i below
    rw [List.countP_eq_zero]
    intro v _
    simp only [Bool.and_eq_true, decide_eq_true_eq, not_and]
    rintro rfl
    exact below

/-- The violations of a severity and of those above it are those that reach it. -/
theorem Counted.sum_atLeast {r : Report} (counted : r.Counted) (min : Severity) :
    ((Severity.all.filter fun s => min ≤ s).map r.counts.get).sum =
      (r.violations.atLeast min).length := by
  have sum : ((Severity.all.filter fun s => min ≤ s).map r.counts.get).sum =
      (Severity.all.map fun s => if min ≤ s then r.counts.get s else 0).sum := by
    induction Severity.all with
    | nil => rfl
    | cons s rest ih =>
        rw [List.map_cons, List.sum_cons, ← ih, List.filter_cons]
        by_cases reaches : min ≤ s <;> simp [reaches]
  rw [sum, ← sum_countP_severity]
  simp only [countP_atLeast, counted _]

theorem hasViolationsAt_iff {r : Report} {min : Severity} :
    r.hasViolationsAt min = true ↔ (r.violations.atLeast min).length ≠ 0 := by
  rw [hasViolationsAt, List.any_eq_true, ← Nat.pos_iff_ne_zero, List.length_pos_iff_exists_mem]
  simp only [Violations.atLeast, List.mem_filter]

/-! ## Step by step -/

/-- A step in building a report. -/
inductive Step where
  | add (v : Violation)
  | addAll (vs : Violations)
  | skip (path reason : String)
  | setFiles (n : Nat)
  | setDuration (milliseconds : Nat)
  | setFinishedAt (t : Timestamp)
  | setFingerprint (text : String)
  | setCancelled (b : Bool)

/-- Take a step. -/
def apply (r : Report) : Step → Report
  | .add v => r.add v
  | .addAll vs => r.addAll vs
  | .skip path reason => r.skip path reason
  | .setFiles n => r.setFiles n
  | .setDuration milliseconds => r.setDuration milliseconds
  | .setFinishedAt t => r.setFinishedAt t
  | .setFingerprint text => r.setFingerprint text
  | .setCancelled b => r.setCancelled b

/-- The report that steps lead to from an empty one. -/
def build (steps : List Step) : Report := steps.foldl apply empty

/-- The violations a step adds. -/
def Step.added : Step → Violations
  | .add v => [v]
  | .addAll vs => vs
  | _ => []

theorem apply_violations (r : Report) (step : Step) :
    (r.apply step).violations = r.violations ++ step.added := by
  cases step with
  | add v => rfl
  | addAll vs => exact addAll_violations r vs
  | _ => exact (List.append_nil _).symm

theorem Counted.apply {r : Report} (counted : r.Counted) (step : Step) :
    (r.apply step).Counted := by
  cases step with
  | add v => exact counted.add v
  | addAll vs => exact counted.addAll vs
  | _ => exact counted

theorem foldl_apply {r : Report} (counted : r.Counted) (steps : List Step) :
    (steps.foldl apply r).violations = r.violations ++ steps.flatMap Step.added ∧
      (steps.foldl apply r).Counted := by
  induction steps generalizing r with
  | nil => exact ⟨(List.append_nil _).symm, counted⟩
  | cons step steps ih =>
      obtain ⟨violations, stays⟩ := ih (counted.apply step)
      refine ⟨?_, stays⟩
      rw [List.foldl_cons, violations, apply_violations, List.flatMap_cons, List.append_assoc]

theorem build_violations (steps : List Step) :
    (build steps).violations = steps.flatMap Step.added :=
  (foldl_apply counted_empty steps).1

theorem build_counted (steps : List Step) : (build steps).Counted :=
  (foldl_apply counted_empty steps).2

/-- Whether the step is for adding violations, and not for something beside them. -/
def Step.isAddition : Step → Bool
  | .add _ | .addAll _ => true
  | _ => false

theorem flatMap_added_filter (steps : List Step) :
    (steps.filter Step.isAddition).flatMap Step.added = steps.flatMap Step.added := by
  induction steps with
  | nil => rfl
  | cons step steps ih =>
      rw [List.filter_cons, List.flatMap_cons, ← ih]
      cases step <;> rfl

/-- Whatever the steps, the report has the violations that were added, in order, and its counters
are those of this list: as a whole, in total, for each severity, and from each severity on. The
other steps leave list and counters alone, be it one of them or all of them. -/
theorem counters_never_drift (steps : List Step) :
    let r := build steps
    r.violations = steps.flatMap Step.added ∧
    r.counts = r.violations.counts ∧
    r.counts.total = r.violations.length ∧
    (∀ s, r.counts.get s = (r.violations.filter fun v => v.severity = s).length) ∧
    (∀ min, ((Severity.all.filter fun s => min ≤ s).map r.counts.get).sum =
        (r.violations.atLeast min).length ∧
      ((r.violations.atLeast min).length ≠ 0 ↔ r.hasViolationsAt min = true)) ∧
    (∀ step : Step, step.isAddition = false →
      (r.apply step).violations = r.violations ∧ (r.apply step).counts = r.counts) ∧
    let additions := build (steps.filter Step.isAddition)
    additions.violations = r.violations ∧ additions.counts = r.counts := by
  intro r
  have counted : r.Counted := build_counted steps
  refine ⟨build_violations steps, counted.eq_counts, counted.total, ?_, ?_, ?_, ?_⟩
  · intro s
    rw [counted s, List.countP_eq_length_filter]
  · intro min
    exact ⟨counted.sum_atLeast min, hasViolationsAt_iff.symm⟩
  · intro step other
    cases step with
    | add | addAll => cases other
    | _ => exact ⟨rfl, rfl⟩
  · intro additions
    have violations : additions.violations = r.violations := by
      rw [build_violations, build_violations, flatMap_added_filter]
    refine ⟨violations, ?_⟩
    rw [(build_counted _).eq_counts, counted.eq_counts, violations]

/-- An error, a warning and a second error, with a skipped file and a number of files in between. -/
theorem counters_of_two_errors :
    let error : Violation := { path := "A.php", message := "m", rule := "r", severity := .error }
    let warning : Violation := { error with severity := .warning }
    let steps := [.add error, .skip "B.php" "gone", .addAll [warning, error], .setFiles 2]
    let r := build steps
    r.counts.get .error = 2 ∧ r.counts.total = 3 ∧ r.hasViolationsAt .critical = false ∧
      (r.apply (.setCancelled true)).counts = r.counts := by
  intro error warning steps r
  obtain ⟨violations, -, total, each, reaching, others, -⟩ := counters_never_drift steps
  refine ⟨?_, ?_, ?_, (others (.setCancelled true) rfl).2⟩
  · rw [each, violations]
    rfl
  · rw [total, violations]
    rfl
  · rw [Bool.eq_false_iff, Ne, ← (reaching .critical).2, violations]
    exact not_not_intro rfl

end Report

end Layering
