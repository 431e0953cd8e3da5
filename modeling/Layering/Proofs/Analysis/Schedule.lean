import Layering.Analysis.Analyzer
import Layering.Proofs.Registry
import Mathlib.Data.List.Infix

/-!
# Parallel schedules

A schedule says of each file whether its worker saw the run cancelled. Whatever the schedule, an
analysis reports the files before the first such one, as if it had evaluated only these in turn.
-/

namespace Layering.Analyzer
open Analysis

/-- No rule cancels the run. -/
def Pure (a : Analyzer) : Prop := ∀ r ∈ a.rules, r.Pure

theorem Pure.trips_eq_false {a : Analyzer} (pure : a.Pure) (f : Source) : a.trips f = false := by
  rw [trips, List.any_eq_false]
  intro r member
  simp [pure r member f]

theorem leadingRun_evaluateScheduled (a : Analyzer) (ctx : Context) (sawCancelled : List Bool)
    (files : List Source) (length : sawCancelled.length = files.length) :
    leadingRun (a.evaluateScheduled ctx sawCancelled files) =
      (files.take (sawCancelled.idxOf true)).map (a.evaluate ctx) := by
  induction sawCancelled generalizing files with
  | nil =>
      obtain rfl : files = [] := List.length_eq_zero_iff.1 length.symm
      rfl
  | cons saw rest ih =>
      cases files with
      | nil => simp at length
      | cons f files =>
          have shorter : rest.length = files.length := by simpa using length
          cases saw with
          | true => rfl
          | false =>
              have first : List.idxOf true (false :: rest) = rest.idxOf true + 1 := by
                simp
              have run := ih files shorter
              rw [first, List.take_succ_cons, List.map_cons, ← run]
              rfl

theorem Pure.evaluateInTurn {a : Analyzer} (pure : a.Pure) (ctx : Context) (files : List Source) :
    a.evaluateInTurn ctx false files = (files.map (a.evaluate ctx), false) := by
  induction files with
  | nil => rfl
  | cons f files ih => simp [Analyzer.evaluateInTurn, pure.trips_eq_false f, ih]

theorem analyzeScheduled_eq (a : Analyzer) (ctx : Context) (sawCancelled : List Bool)
    (files : List Source) (length : sawCancelled.length = files.length) :
    a.analyzeScheduled ctx sawCancelled files =
      outcome files.length ((files.take (sawCancelled.idxOf true)).map (a.evaluate ctx)) := by
  rw [analyzeScheduled, leadingRun_evaluateScheduled a ctx sawCancelled files length]

theorem outcome_take (a : Analyzer) (ctx : Context) (files : List Source) {k : Nat}
    (bound : k ≤ files.length) :
    outcome files.length ((files.take k).map (a.evaluate ctx)) =
      { violations := (files.take k).flatMap (a.evaluate ctx)
        filesAnalyzed := k
        cancelled := decide (k < files.length) } := by
  simp [outcome, List.flatMap, Nat.min_eq_left bound]

/-- In parallel, only the leading unbroken run of evaluated files is reported: it ends at the
first file whose worker saw the run cancelled, and the analysis is cancelled when there is such a
file. The outcomes of two schedules differ by how far they get, and a schedule in which no worker
saw the run cancelled gives the outcome of evaluating the files in turn. -/
theorem analyzeScheduled_reports_leading_run (a : Analyzer) (pure : a.Pure) (ctx : Context)
    (files : List Source) (sawCancelled : List Bool)
    (length : sawCancelled.length = files.length) :
    let k := sawCancelled.idxOf true
    let o := a.analyzeScheduled ctx sawCancelled files
    o.filesAnalyzed = k ∧
      o.violations = (files.take k).flatMap (a.evaluate ctx) ∧
      (o.cancelled = true ↔ k < files.length) ∧
      (∀ other : List Bool, other.length = files.length →
        o.violations <+: (a.analyzeScheduled ctx other files).violations ∨
          (a.analyzeScheduled ctx other files).violations <+: o.violations) ∧
      (true ∉ sawCancelled → o = (a.analyze .sequential ctx false files).1) := by
  have reported (saw : List Bool) (length : saw.length = files.length) :
      a.analyzeScheduled ctx saw files =
        { violations := (files.take (saw.idxOf true)).flatMap (a.evaluate ctx)
          filesAnalyzed := saw.idxOf true
          cancelled := decide (saw.idxOf true < files.length) } := by
    rw [analyzeScheduled_eq a ctx saw files length,
      outcome_take a ctx files (length ▸ List.idxOf_le_length)]
  intro k o
  have here : o = _ := reported sawCancelled length
  refine ⟨by rw [here], by rw [here], by rw [here]; exact decide_eq_true_iff, ?_, ?_⟩
  · intro other length'
    rw [here, reported other length']
    -- Both lists are prefixes of what all files give.
    have leading (n : Nat) :
        (files.take n).flatMap (a.evaluate ctx) <+: files.flatMap (a.evaluate ctx) :=
      (List.take_prefix n files).flatMap _
    exact List.prefix_or_prefix_of_prefix (leading _) (leading _)
  · intro unseen
    have all : sawCancelled.idxOf true = files.length := by
      rw [List.idxOf_eq_length unseen, length]
    change a.analyzeScheduled ctx sawCancelled files = _
    rw [analyzeScheduled_eq a ctx sawCancelled files length, all, List.take_length]
    simp [analyze, pure.evaluateInTurn]

/-- Three files of the domain of which the second one's worker saw the run cancelled. -/
theorem analyzeScheduled_domain_broken_run :
    let a : Analyzer := { name := "domain", rules := [{ policy := Policy.Ddd.domainLayer }] }
    let file (path : String) : Source :=
      { path, content := "", space := "App\\Domain", typeName := "User", imports := [],
        dependencies := { ordered := #["App\\Infrastructure\\Db"] } }
    let o := a.analyzeScheduled ⟨Config.default, []⟩ [false, true, false]
      [file "A.php", file "B.php", file "C.php"]
    o.filesAnalyzed = 1 ∧ o.violations.map (·.path) = ["A.php"] ∧ o.cancelled = true := by
  intro a file o
  have pure : a.Pure := by
    intro r member
    rw [List.mem_singleton.1 member]
    exact fun _ => rfl
  obtain ⟨files, violations, cancelled, -⟩ :=
    analyzeScheduled_reports_leading_run a pure ⟨Config.default, []⟩
      [file "A.php", file "B.php", file "C.php"] [false, true, false] rfl
  refine ⟨files, ?_, cancelled.2 (by decide)⟩
  rw [violations]
  decide

end Layering.Analyzer
