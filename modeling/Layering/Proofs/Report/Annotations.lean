import Layering.Proofs.Report.Formats
import Layering.Proofs.Text.Replace

/-!
# Annotations a message cannot break

An annotation ends with its line, and a message can hold anything. Escaping a message is replacing
three characters by words, one after the other; replacing the words by the characters in the
opposite order undoes it. What is left of a message after some of these steps is again a message of
which only some characters are escaped: `substitute_escapeSome`.
-/

namespace Layering.Report

open Text (literal? literal?_cons_of_ne literal?_eq_some_iff replaceAll replaceAll_append
  replaceAll_flatMap replaceAll_of_none replaceAll_singleton substitute)

/-! ## The words for characters -/

/-- The characters an annotation has words for. -/
def escaped : List Char := ['\n', '\r', '%']

theorem mem_escaped_iff {c : Char} : c ∈ escaped ↔ c = '\n' ∨ c = '\r' ∨ c = '%' := by
  simp [escaped]

theorem escapeChar_of_not_mem {c : Char} (plain : c ∉ escaped) : escapeChar c = [c] := by
  rw [mem_escaped_iff, not_or, not_or] at plain
  simp [escapeChar, plain]

theorem escapeChar_of_mem {c : Char} (special : c ∈ escaped) :
    ∃ x y, escapeChar c = ['%', x, y] ∧ x ∉ escaped ∧ y ∉ escaped := by
  obtain rfl | rfl | rfl := mem_escaped_iff.1 special
  · exact ⟨'0', 'A', rfl, by decide, by decide⟩
  · exact ⟨'0', 'D', rfl, by decide, by decide⟩
  · exact ⟨'2', '5', rfl, by decide, by decide⟩

theorem escapeChar_inj {c d : Char} (left : c ∈ escaped) (right : d ∈ escaped) :
    escapeChar c = escapeChar d → c = d := by
  obtain rfl | rfl | rfl := mem_escaped_iff.1 left <;>
    obtain rfl | rfl | rfl := mem_escaped_iff.1 right <;> decide

theorem ne_percent {c : Char} (plain : c ∉ escaped) : c ≠ '%' :=
  fun same => plain (mem_escaped_iff.2 (.inr (.inr same)))

variable {c : Char} {instead : List Char}

theorem replaceAll_cons_of_ne_percent (special : c ∈ escaped) {d : Char} (other : d ≠ '%')
    (s : List Char) :
    replaceAll (escapeChar c) instead (d :: s) = d :: replaceAll (escapeChar c) instead s := by
  obtain ⟨x, y, word, -⟩ := escapeChar_of_mem special
  rw [word]
  exact replaceAll_of_none (literal?_cons_of_ne other _ s)

/-- A search for the word of one character passes over the word of another. -/
theorem replaceAll_escapeChar (special : c ∈ escaped) {d : Char} (known : d ∈ escaped)
    (other : d ≠ c) (s : List Char) :
    replaceAll (escapeChar c) instead (escapeChar d ++ s) =
      escapeChar d ++ replaceAll (escapeChar c) instead s := by
  have absent : literal? (escapeChar c) (escapeChar d ++ s) = none := by
    by_contra found
    obtain ⟨rest, found⟩ := Option.ne_none_iff_exists'.1 found
    obtain ⟨x, y, word, -⟩ := escapeChar_of_mem special
    obtain ⟨x', y', word', -⟩ := escapeChar_of_mem known
    have same := (List.append_inj (literal?_eq_some_iff.1 found) (by simp [word, word'])).1
    exact other (escapeChar_inj known special same)
  obtain ⟨x, y, word, first, second⟩ := escapeChar_of_mem known
  simp only [word, List.cons_append, List.nil_append] at absent ⊢
  rw [replaceAll_of_none absent, replaceAll_cons_of_ne_percent special (ne_percent first),
    replaceAll_cons_of_ne_percent special (ne_percent second)]

/-! ## Messages escaped in part -/

/-- A message in which only some characters are escaped. -/
def escapeSome (chosen : List Char) (m : String) : String :=
  String.ofList (m.toList.flatMap fun c => if c ∈ chosen then escapeChar c else [c])

theorem escapeSome_nil (m : String) : escapeSome [] m = m := by
  simp [escapeSome]

theorem escapeSome_escaped (m : String) : escapeSome escaped m = escapeMessage m := by
  have all : (fun c => if c ∈ escaped then escapeChar c else [c]) = escapeChar := by
    funext c
    split
    · rfl
    · exact (escapeChar_of_not_mem ‹_›).symm
  rw [escapeSome, all, escapeMessage]

/-- Replacing the word of one character by the character leaves the others escaped. This needs
percent signs to be escaped: one of the message itself could begin a word. -/
theorem substitute_escapeSome {word instead : String} {others : List Char}
    (spelled : word.toList = escapeChar c) (back : instead.toList = [c])
    (known : c :: others ⊆ escaped) (fresh : c ∉ others) (percent : '%' ∈ c :: others)
    (m : String) : substitute (escapeSome (c :: others) m) word instead = escapeSome others m := by
  have special : c ∈ escaped := known List.mem_cons_self
  rw [substitute, escapeSome, String.toList_ofList, spelled, back, escapeSome]
  refine congrArg String.ofList (replaceAll_flatMap (fun d t => ?_) m.toList)
  by_cases same : d = c
  · obtain ⟨x, y, shape, -⟩ := escapeChar_of_mem special
    rw [same, if_pos List.mem_cons_self, if_neg fresh]
    exact replaceAll_append (by simp [shape]) t
  · simp only [List.mem_cons, same, false_or]
    split
    · exact replaceAll_escapeChar special (known (List.mem_cons_of_mem c ‹_›)) same t
    · rename_i unescaped
      refine replaceAll_cons_of_ne_percent special ?_ t
      rintro rfl
      exact unescaped (List.mem_of_ne_of_mem same percent)

theorem unescape_escapeMessage (m : String) :
    substitute (substitute (substitute (escapeMessage m) "%0A" "\n") "%0D" "\r") "%25" "%" = m := by
  rw [← escapeSome_escaped, escaped,
    substitute_escapeSome (c := '\n') rfl rfl (by decide) (by decide) (by decide),
    substitute_escapeSome (c := '\r') rfl rfl (by decide) (by decide) (by decide),
    substitute_escapeSome (c := '%') rfl rfl (by decide) (by decide) (by decide),
    escapeSome_nil]

theorem escapeMessage_injective : Function.Injective escapeMessage := by
  intro m m' same
  rw [← unescape_escapeMessage m, same, unescape_escapeMessage]

/-- Escaping a message is replacing one character after the other, percent signs first. -/
theorem escapeMessage_eq_substitute (m : String) :
    escapeMessage m =
      substitute (substitute (substitute m "%" "%25") "\r" "%0D") "\n" "%0A" := by
  simp only [escapeMessage, substitute, String.toList_ofList]
  refine congrArg String.ofList (Eq.symm ?_)
  calc replaceAll "\n".toList "%0A".toList
        (replaceAll "\r".toList "%0D".toList (replaceAll "%".toList "%25".toList m.toList))
    _ = ((m.toList.flatMap fun c => if c = '%' then "%25".toList else [c]).flatMap
          fun c => if c = '\r' then "%0D".toList else [c]).flatMap
          fun c => if c = '\n' then "%0A".toList else [c] := by
      rw [← replaceAll_singleton, ← replaceAll_singleton, ← replaceAll_singleton]
      rfl
    _ = m.toList.flatMap escapeChar := by
      rw [List.flatMap_assoc, List.flatMap_assoc]
      refine congrArg (m.toList.flatMap ·) (funext fun c => ?_)
      by_cases known : c ∈ escaped
      · obtain rfl | rfl | rfl := mem_escaped_iff.1 known <;> decide
      · rw [escapeChar_of_not_mem known]
        rw [mem_escaped_iff, not_or, not_or] at known
        simp only [known, if_false, List.flatMap_cons, List.flatMap_nil, List.append_nil]

/-! ## Escaped messages -/

theorem break_not_mem_escapeMessage {b : Char} (ends : b = '\r' ∨ b = '\n') (m : String) :
    b ∉ (escapeMessage m).toList := by
  have special : b ∈ escaped := mem_escaped_iff.2 (ends.symm.imp_right .inl)
  have other : b ≠ '%' := by obtain rfl | rfl := ends <;> decide
  rw [escapeMessage, String.toList_ofList, List.mem_flatMap]
  rintro ⟨c, -, member⟩
  by_cases known : c ∈ escaped
  · obtain ⟨x, y, shape, first, second⟩ := escapeChar_of_mem known
    simp only [shape, List.mem_cons, List.not_mem_nil, or_false] at member
    obtain same | rfl | rfl := member
    · exact other same
    · exact first special
    · exact second special
  · rw [escapeChar_of_not_mem known, List.mem_singleton] at member
    exact known (member ▸ special)

theorem suffix_of_cons {after s : List Char} {d : Char} (other : d ≠ '%')
    (percent : '%' :: after <:+ d :: s) : '%' :: after <:+ s :=
  (List.suffix_cons_iff.1 percent).resolve_left fun here => other (List.cons.inj here).1.symm

/-- Each percent sign of an escaped message begins a word. -/
theorem word_of_percent {after m : List Char} (percent : '%' :: after <:+ m.flatMap escapeChar) :
    ∃ c ∈ escaped, escapeChar c <+: '%' :: after := by
  induction m with
  | nil => simp at percent
  | cons c m ih =>
    rw [List.flatMap_cons] at percent
    by_cases known : c ∈ escaped
    · obtain ⟨x, y, shape, first, second⟩ := escapeChar_of_mem known
      simp only [shape, List.cons_append, List.nil_append] at percent
      obtain here | later := List.suffix_cons_iff.1 percent
      · exact ⟨c, known, by simp [shape, here]⟩
      · exact ih (suffix_of_cons (ne_percent second) (suffix_of_cons (ne_percent first) later))
    · rw [escapeChar_of_not_mem known, List.singleton_append] at percent
      exact ih (suffix_of_cons (ne_percent known) percent)

/-! ## Lines -/

/-- Where no line holds a break, the lines of a text are those it was put together from. -/
theorem splitOnP_join {breaks : List Char} (newline : '\n' ∈ breaks) {lines : List String}
    (unbroken : ∀ line ∈ lines, ∀ b ∈ breaks, b ∉ line.toList) :
    (String.join (lines.map (· ++ "\n"))).toList.splitOnP (· ∈ breaks) =
      lines.map String.toList ++ [[]] := by
  induction lines with
  | nil => rfl
  | cons line lines ih =>
    obtain ⟨first, rest⟩ := List.forall_mem_cons.1 unbroken
    have within : ∀ c ∈ line.toList, decide (c ∈ breaks) = false := fun c member =>
      decide_eq_false fun ends => first c ends member
    rw [List.map_cons, String.join_cons, String.append_assoc, String.toList_append,
      String.toList_append]
    exact (List.splitOnP_append_cons_of_forall_mem within '\n' (by simpa using newline) _).trans
      (congrArg _ (ih rest))

theorem break_not_mem_line {b : Char} (ends : b = '\r' ∨ b = '\n') {v : Violation}
    (path : b ∉ v.path.toList) (rule : b ∉ v.rule.toList) : b ∉ ( annotation v).toList := by
  have message := break_not_mem_escapeMessage ends v.message
  have level : b ∉ (annotationLevel v.severity).toList := by
    obtain rfl | rfl := ends <;> cases v.severity <;> decide
  have fixed : b ∉ "::".toList ∧ b ∉ " file=".toList ∧ b ∉ ",title=".toList := by
    obtain rfl | rfl := ends <;> decide
  unfold annotation
  simp only [String.toList_append, List.mem_append, not_or]
  exact ⟨⟨⟨⟨⟨⟨⟨fixed.1, level⟩, fixed.2.1⟩, path⟩, fixed.2.2⟩, rule⟩, fixed.1⟩, message⟩

/-- No message breaks an annotation. If paths and rule names hold no line break, each violation
shown has one line, in order, whether lines end at line feeds only or at carriage returns too. In
an escaped message neither is left and each percent sign begins a word; replacing the words, percent
signs last, gives back the message, so that different messages stay different. -/
theorem annotations_unbroken (r : Report) (view : View) (terminal : Bool) :
    (let found := r.violations.filter fun v => view.minSeverity ≤ v.severity
      let listed := view.maxViolations.elim found found.take
      ∀ breaks : List Char, '\n' ∈ breaks → breaks ⊆ ['\r', '\n'] →
        (∀ v ∈ listed, ∀ b ∈ breaks, b ∉ v.path.toList ∧ b ∉ v.rule.toList) →
        (r.render view terminal .github).toList.splitOnP (· ∈ breaks) =
          (listed.map fun v =>
            ("::" ++ (if 4 ≤ v.severity.level then "error"
                else if v.severity.level = 3 then "warning" else "notice") ++
              " file=" ++ v.path ++ ",title=" ++ v.rule ++ "::" ++
                escapeMessage v.message).toList) ++ [[]]) ∧
    (∀ m, escapeMessage m =
        substitute (substitute (substitute m "%" "%25") "\r" "%0D") "\n" "%0A" ∧
      '\r' ∉ (escapeMessage m).toList ∧ '\n' ∉ (escapeMessage m).toList ∧
      (∀ after, '%' :: after <:+ (escapeMessage m).toList →
        ∃ word ∈ ["%25", "%0D", "%0A"], word.toList <+: '%' :: after) ∧
      substitute (substitute (substitute (escapeMessage m) "%0A" "\n") "%0D" "\r") "%25" "%" = m) ∧
    Function.Injective escapeMessage := by
  refine ⟨?_, fun m => ⟨escapeMessage_eq_substitute m, break_not_mem_escapeMessage (.inl rfl) m,
    break_not_mem_escapeMessage (.inr rfl) m, fun after percent => ?_, unescape_escapeMessage m⟩,
    escapeMessage_injective⟩
  · intro found listed breaks newline only clean
    have isListed : shown view r = listed := by
      cases limit : view.maxViolations <;>
        simp [shown, matching, Violations.atLeast, listed, found, limit]
    have unbroken : ∀ line ∈ listed.map annotation, ∀ b ∈ breaks, b ∉ line.toList := by
      simp only [List.forall_mem_map]
      intro v member b ends
      obtain ⟨path, rule⟩ := clean v member b ends
      exact break_not_mem_line (by simpa using only ends) path rule
    have lines := splitOnP_join newline unbroken
    rw [List.map_map, List.map_map] at lines
    simp only [← annotationLevel_eq]
    rw [Report.render, annotations, isListed]
    exact lines
  · rw [escapeMessage, String.toList_ofList] at percent
    obtain ⟨c, known, word⟩ := word_of_percent percent
    obtain rfl | rfl | rfl := mem_escaped_iff.1 known
    · exact ⟨"%0A", by simp, word⟩
    · exact ⟨"%0D", by simp, word⟩
    · exact ⟨"%25", by simp, word⟩

/-- Findings whose messages hold line breaks and what looks escaped already. -/
def trickyReport : Report :=
  build [.add { path := "src/A.php", message := "a%0A\r\nb", rule := "r", severity := .error },
    .add { path := "src/B.php", message := "a%250A", rule := "r", severity := .info }]

theorem trickyReport_two_lines :
    (trickyReport.render {} true .github).toList.splitOnP (· ∈ ['\r', '\n']) =
      ["::error file=src/A.php,title=r::a%250A%0D%0Ab".toList,
        "::notice file=src/B.php,title=r::a%25250A".toList, []] := by
  have found : trickyReport.violations =
      [{ path := "src/A.php", message := "a%0A\r\nb", rule := "r", severity := .error },
        { path := "src/B.php", message := "a%250A", rule := "r", severity := .info }] :=
    build_violations _
  have clean (v : Violation) (member : v ∈ trickyReport.violations) :
      ∀ b ∈ ['\r', '\n'], b ∉ v.path.toList ∧ b ∉ v.rule.toList := by
    simp only [found, List.mem_cons, List.not_mem_nil, or_false] at member
    obtain rfl | rfl := member <;> simp
  have lines := (annotations_unbroken trickyReport {} true).1 ['\r', '\n'] (by decide) (by decide)
    clean
  refine lines.trans ?_
  simp only [found, escapeMessage, String.toList_append, String.toList_ofList]
  repeat rewrite [String.toList_ofList]
  decide

end Layering.Report
