import Layering.Analysis.Validator
import Layering.Proofs.Analysis.Schedule
import Layering.Proofs.Report.Counters

/-!
# Runs that are cancelled

Evaluating an item may cancel the run, and a cancelled run evaluates no further item. So what is
evaluated in turn is a prefix, `evaluatedCount` long. A run over analyzers evaluates the pairs of
an analyzer and a file in this way, by analyzer first, whatever analyzer it stops in.
-/

namespace Layering
open Analysis

section Items

variable {α β : Type}

/-- How many items are evaluated in turn by a run that is, or is not, cancelled before. -/
def evaluatedCount (trips : α → Bool) : Bool → List α → Nat
  | true, _ => 0
  | false, [] => 0
  | false, x :: rest => evaluatedCount trips (trips x) rest + 1

/-- Whether the run is cancelled by the time it comes to an item. -/
def cancelledBefore (trips : α → Bool) (cancelled : Bool) (items : List α) (i : Nat) : Bool :=
  cancelled || (items.take i).any trips

@[simp] theorem evaluatedCount_cancelled (trips : α → Bool) (items : List α) :
    evaluatedCount trips true items = 0 := by
  cases items <;> rfl

@[simp] theorem evaluatedCount_nil (trips : α → Bool) (cancelled : Bool) :
    evaluatedCount trips cancelled [] = 0 := by
  cases cancelled <;> rfl

theorem evaluatedCount_cons (trips : α → Bool) (x : α) (rest : List α) :
    evaluatedCount trips false (x :: rest) = evaluatedCount trips (trips x) rest + 1 := rfl

theorem evaluatedCount_le (trips : α → Bool) (cancelled : Bool) (items : List α) :
    evaluatedCount trips cancelled items ≤ items.length := by
  induction items generalizing cancelled with
  | nil => simp
  | cons x rest ih =>
      cases cancelled with
      | true => simp
      | false => simpa [evaluatedCount_cons] using ih (trips x)

theorem cancelledBefore_lt (trips : α → Bool) (cancelled : Bool) (items : List α) {i : Nat}
    (before : i < evaluatedCount trips cancelled items) :
    cancelledBefore trips cancelled items i = false := by
  induction items generalizing cancelled i with
  | nil => simp at before
  | cons x rest ih =>
      cases cancelled with
      | true => simp at before
      | false =>
          cases i with
          | zero => simp [cancelledBefore]
          | succ i =>
              rw [evaluatedCount_cons, Nat.add_lt_add_iff_right] at before
              simpa [cancelledBefore] using ih (trips x) before

theorem cancelledBefore_evaluatedCount (trips : α → Bool) (cancelled : Bool) (items : List α)
    (stopped : evaluatedCount trips cancelled items < items.length) :
    cancelledBefore trips cancelled items (evaluatedCount trips cancelled items) = true := by
  induction items generalizing cancelled with
  | nil => simp at stopped
  | cons x rest ih =>
      cases cancelled with
      | true => simp [cancelledBefore]
      | false =>
          rw [evaluatedCount_cons, List.length_cons, Nat.add_lt_add_iff_right] at stopped
          rw [evaluatedCount_cons]
          simpa [cancelledBefore] using ih (trips x) stopped

theorem evaluatedCount_map (trips : β → Bool) (g : α → β) (cancelled : Bool) (items : List α) :
    evaluatedCount trips cancelled (items.map g) =
      evaluatedCount (fun x => trips (g x)) cancelled items := by
  induction items generalizing cancelled with
  | nil => simp
  | cons x rest ih =>
      cases cancelled with
      | true => simp
      | false => rw [List.map_cons, evaluatedCount_cons, evaluatedCount_cons, ih]

theorem evaluatedCount_of_untripped (trips : α → Bool) (items : List α)
    (untripped : ∀ x ∈ items, trips x = false) :
    evaluatedCount trips false items = items.length := by
  induction items with
  | nil => rfl
  | cons x rest ih =>
      rw [List.forall_mem_cons] at untripped
      rw [evaluatedCount_cons, untripped.1, ih untripped.2, List.length_cons]

/-- Items that are not reached leave the count alone, and after items that are all evaluated the
run goes on. -/
theorem evaluatedCount_append (trips : α → Bool) (cancelled : Bool) (items more : List α) :
    evaluatedCount trips cancelled (items ++ more) =
      if evaluatedCount trips cancelled items < items.length then
        evaluatedCount trips cancelled items
      else items.length + evaluatedCount trips (cancelled || items.any trips) more := by
  induction items generalizing cancelled with
  | nil => simp
  | cons x rest ih =>
      cases cancelled with
      | true => simp
      | false =>
          rw [List.cons_append, evaluatedCount_cons, evaluatedCount_cons, ih, List.length_cons]
          simp only [Nat.add_lt_add_iff_right, Bool.false_or, List.any_cons]
          split
          · rfl
          · omega

end Items

/-! ## One analyzer -/

namespace Analyzer

theorem evaluateInTurn_eq (a : Analyzer) (ctx : Context) (cancelled : Bool) (files : List Source) :
    a.evaluateInTurn ctx cancelled files =
      ((files.take (evaluatedCount a.trips cancelled files)).map (a.evaluate ctx),
        cancelled || files.any a.trips) := by
  induction files generalizing cancelled with
  | nil => cases cancelled <;> rfl
  | cons f files ih =>
      cases cancelled with
      | true => rfl
      | false =>
          rw [evaluateInTurn, ih, evaluatedCount_cons]
          rfl

theorem analyze_sequential (a : Analyzer) (ctx : Context) (cancelled : Bool)
    (files : List Source) :
    a.analyze .sequential ctx cancelled files =
      ({ violations :=
           (files.take (evaluatedCount a.trips cancelled files)).flatMap (a.evaluate ctx)
         filesAnalyzed := evaluatedCount a.trips cancelled files
         cancelled := decide (evaluatedCount a.trips cancelled files < files.length) },
        cancelled || files.any a.trips) := by
  simp only [analyze, evaluateInTurn_eq,
    outcome_take a ctx files (evaluatedCount_le a.trips cancelled files)]

theorem Pure.analyze_parallel {a : Analyzer} (pure : a.Pure) (ctx : Context)
    (files : List Source) :
    a.analyze .parallel ctx false files = a.analyze .sequential ctx false files := by
  have untripped : files.any a.trips = false :=
    List.any_eq_false.2 fun f _ => by simp [pure.trips_eq_false f]
  have unseen : List.idxOf true (List.replicate files.length false) = files.length := by
    rw [List.idxOf_eq_length (by simp), List.length_replicate]
  simp only [analyze, untripped, pure.evaluateInTurn]
  rw [analyzeScheduled_eq a ctx _ files List.length_replicate, unseen, List.take_length]
  rfl

end Analyzer

/-! ## Analyzers one after the other -/

namespace Validator

def analyzerPairs (analyzers : List Analyzer) (sources : List Source) :
    List (Analyzer × Source) :=
  analyzers.flatMap fun a => sources.map (a, ·)

@[simp] theorem runAnalyzers_nil (mode : Mode) (ctx : Context) (sources : List Source)
    (first cancelled : Bool) (r : Report) :
    runAnalyzers mode ctx sources first cancelled [] r = r := rfl

theorem runAnalyzers_cons (mode : Mode) (ctx : Context) (sources : List Source)
    (first cancelled : Bool) (a : Analyzer) (rest : List Analyzer) (r : Report) :
    runAnalyzers mode ctx sources first cancelled (a :: rest) r =
      let result := a.analyze mode ctx cancelled sources
      let found := r.addAll result.1.violations
      if result.1.cancelled then
        (if first then found.setFiles result.1.filesAnalyzed else found).setCancelled true
      else runAnalyzers mode ctx sources false result.2 rest found := rfl

theorem runAnalyzers_counted (mode : Mode) (ctx : Context) (sources : List Source)
    (first cancelled : Bool) (analyzers : List Analyzer) (r : Report) (counted : r.Counted) :
    (runAnalyzers mode ctx sources first cancelled analyzers r).Counted := by
  induction analyzers generalizing first cancelled r with
  | nil => exact counted
  | cons a rest ih =>
      simp only [runAnalyzers_cons]
      have added := counted.addAll (a.analyze mode ctx cancelled sources).1.violations
      split
      · split <;> exact added
      · exact ih _ _ _ added

theorem runAnalyzers_parallel (ctx : Context) (sources : List Source) (first : Bool)
    (analyzers : List Analyzer) (pure : ∀ a ∈ analyzers, a.Pure) (r : Report) :
    runAnalyzers .parallel ctx sources first false analyzers r =
      runAnalyzers .sequential ctx sources first false analyzers r := by
  induction analyzers generalizing first r with
  | nil => rfl
  | cons a rest ih =>
      rw [List.forall_mem_cons] at pure
      have untripped : (a.analyze .sequential ctx false sources).2 = false := by
        simp [Analyzer.analyze, pure.1.evaluateInTurn]
      simp only [runAnalyzers_cons, pure.1.analyze_parallel, untripped, ih _ pure.2]

/-- A sequential run over analyzers evaluates a prefix of the pairs, reports what it finds there,
and is cancelled when a pair is left. The number of files is set when the run stops within the
first analyzer. -/
theorem runAnalyzers_sequential (ctx : Context) (sources : List Source) (first cancelled : Bool)
    (analyzers : List Analyzer) (r : Report) :
    let pairs := analyzerPairs analyzers sources
    let n := evaluatedCount (fun p => p.1.trips p.2) cancelled pairs
    let result := runAnalyzers .sequential ctx sources first cancelled analyzers r
    result.violations = r.violations ++ (pairs.take n).flatMap (fun p => p.1.evaluate ctx p.2) ∧
      result.cancelled = (r.cancelled || decide (n < pairs.length)) ∧
      result.totalFiles =
        if first = true ∧ analyzers ≠ [] ∧ n < sources.length then n else r.totalFiles := by
  induction analyzers generalizing first cancelled r with
  | nil => simp [analyzerPairs]
  | cons a rest ih =>
      intro pairs n result
      let k := evaluatedCount a.trips cancelled sources
      have pairs_eq : pairs = sources.map (a, ·) ++ analyzerPairs rest sources := by
        simp [pairs, analyzerPairs]
      have n_eq : n = if k < sources.length then k else sources.length +
          evaluatedCount (fun p : Analyzer × Source => p.1.trips p.2)
            (cancelled || sources.any a.trips) (analyzerPairs rest sources) := by
        simp only [n, pairs_eq, evaluatedCount_append, evaluatedCount_map, List.length_map,
          List.any_map]
        rfl
      by_cases stops : k < sources.length
      · -- The run stops within this analyzer.
        have stopped : result =
            (if first then
              (r.addAll ((sources.take k).flatMap (a.evaluate ctx))).setFiles k
            else r.addAll ((sources.take k).flatMap (a.evaluate ctx))).setCancelled true := by
          simp only [result, runAnalyzers_cons, Analyzer.analyze_sequential]
          rw [if_pos (decide_eq_true stops)]
        rw [if_pos stops] at n_eq
        have taken : pairs.take n = (sources.take k).map (a, ·) := by
          rw [pairs_eq, n_eq, List.take_append_of_le_length (by simpa using stops.le),
            ← List.map_take]
        have left : n < pairs.length := by
          rw [pairs_eq, n_eq, List.length_append, List.length_map]
          omega
        refine ⟨?_, ?_, ?_⟩
        · rw [stopped, taken, List.flatMap_map]
          cases first <;> simp [Report.setCancelled, Report.setFiles]
        · rw [stopped]
          simp [Report.setCancelled, left]
        · rw [stopped, n_eq]
          cases first <;> simp [Report.setCancelled, Report.setFiles, stops]
      · -- All files are evaluated here, and the run goes on with the next analyzer.
        have whole : k = sources.length :=
          Nat.le_antisymm (evaluatedCount_le _ _ _) (Nat.le_of_not_lt stops)
        have goes : result = runAnalyzers .sequential ctx sources false
            (cancelled || sources.any a.trips) rest
            (r.addAll (sources.flatMap (a.evaluate ctx))) := by
          simp only [result, runAnalyzers_cons, Analyzer.analyze_sequential]
          rw [if_neg (by simpa using stops)]
          simp only [k] at whole
          rw [whole, List.take_length]
        rw [if_neg stops] at n_eq
        let m := evaluatedCount (fun p : Analyzer × Source => p.1.trips p.2)
          (cancelled || sources.any a.trips) (analyzerPairs rest sources)
        have taken : pairs.take n = sources.map (a, ·) ++ (analyzerPairs rest sources).take m := by
          rw [pairs_eq, n_eq]
          simp [List.take_append, m]
        obtain ⟨violations, cancelled', total⟩ := ih false (cancelled || sources.any a.trips)
          (r.addAll (sources.flatMap (a.evaluate ctx)))
        refine ⟨?_, ?_, ?_⟩
        · rw [goes, violations, taken, List.flatMap_append, List.flatMap_map]
          simp [m]
        · rw [goes, cancelled', n_eq, pairs_eq]
          simp
        · rw [goes, total, n_eq, if_neg (by simp), if_neg (by omega), Report.addAll_totalFiles]

end Validator

end Layering
