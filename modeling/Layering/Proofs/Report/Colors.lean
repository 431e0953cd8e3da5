import Layering.Proofs.Json.Escapes
import Layering.Proofs.Report.Formats

/-!
# What colours add

A report with colours is the report without them and the escape sequences of its styles, as long
as no escape character comes with its violations. Documents and annotations have no colours, and
no escape characters either. So removing the sequences of styles from any rendering gives the
rendering without colours: `colors_add_only_styles`.
-/

namespace Layering

open Number Text

/-- No escape character comes with what is shown of the violation. -/
structure Violation.EscapeFree (v : Violation) : Prop where
  path : Text.EscapeFree v.path
  message : Text.EscapeFree v.message
  rule : Text.EscapeFree v.rule
  forbidden : ∀ name ∈ v.forbidden, Text.EscapeFree name

namespace Report

/-! ## Removing the sequences of styles -/

/-- The characters between the bracket and the end of a sequence. -/
def isParameter (c : Char) : Bool := c.isDigit || c == ';'

/-- The text after a sequence of a style: an escape, a bracket, digits and semicolons, and an
`m`. -/
def styleSequence? : List Char → Option (List Char)
  | '\x1b' :: '[' :: rest =>
    match rest.dropWhile isParameter with
    | 'm' :: after => some after
    | _ => none
  | _ => none

theorem length_of_styleSequence? {s after : List Char} (found : styleSequence? s = some after) :
    after.length < s.length := by
  rw [styleSequence?.eq_def] at found
  split at found
  · rename_i rest
    split at found
    · rename_i last
      obtain rfl := Option.some.inj found
      have shorter := (List.dropWhile_suffix isParameter (l := rest)).length_le
      rw [last] at shorter
      simp only [List.length_cons] at shorter ⊢
      omega
    · cases found
  · cases found

/-- The text without the sequences of styles. -/
def withoutStyles : List Char → List Char
  | [] => []
  | c :: rest =>
    match _ : styleSequence? (c :: rest) with
    | some after => withoutStyles after
    | none => c :: withoutStyles rest
termination_by s => s.length
decreasing_by
  · exact length_of_styleSequence? ‹_›
  · simp

theorem withoutStyles_cons {c : Char} (other : c ≠ '\x1b') (rest : List Char) :
    withoutStyles (c :: rest) = c :: withoutStyles rest := by
  have none : styleSequence? (c :: rest) = none := by
    rw [styleSequence?.eq_def]
    split
    · rename_i same
      exact absurd (List.cons.inj same).1 other
    · rfl
  rw [withoutStyles]
  split
  · simp_all
  · rfl

theorem withoutStyles_append {s : List Char} (free : '\x1b' ∉ s) (rest : List Char) :
    withoutStyles (s ++ rest) = s ++ withoutStyles rest := by
  induction s with
  | nil => rfl
  | cons c s ih =>
      rw [List.mem_cons, not_or] at free
      rw [List.cons_append, withoutStyles_cons (Ne.symm free.1), ih free.2, List.cons_append]

theorem withoutStyles_of_escapeFree {s : String} (free : EscapeFree s) :
    withoutStyles s.toList = s.toList := by
  simpa [withoutStyles] using withoutStyles_append free []

theorem withoutStyles_sequence {code : List Char} (parameters : ∀ c ∈ code, isParameter c = true)
    (rest : List Char) : withoutStyles (sequenceOf code ++ rest) = withoutStyles rest := by
  have ends : (code ++ 'm' :: rest).dropWhile isParameter = 'm' :: rest := by
    rw [List.dropWhile_append_of_pos parameters, List.dropWhile_cons_of_neg (by decide)]
  have found : styleSequence? ('\x1b' :: '[' :: (code ++ 'm' :: rest)) = some rest := by
    rw [styleSequence?, ends]
    rfl
  have spelled : sequenceOf code ++ rest = '\x1b' :: '[' :: (code ++ 'm' :: rest) := by
    simp [sequenceOf]
  rw [spelled, withoutStyles]
  split
  · simp_all
  · simp_all

theorem isParameter_of_mem_code (style : Style) : ∀ c ∈ style.code, isParameter c = true := by
  cases style <;> exact List.all_eq_true.1 (by decide)

/-! ## Painted text -/

/-- No piece of the text has an escape character. -/
def Painted.EscapeFree (t : Painted) : Prop := ∀ p ∈ t, Text.EscapeFree p.text

theorem Painted.escapeFree_append {t u : Painted} :
    Painted.EscapeFree (t ++ u) ↔ t.EscapeFree ∧ u.EscapeFree := List.forall_mem_append

theorem Painted.escapeFree_plain {text : String} :
    (Painted.plain text).EscapeFree ↔ Text.EscapeFree text := List.forall_mem_singleton

theorem Painted.escapeFree_styled {style : Style} {text : String} :
    (Painted.styled style text).EscapeFree ↔ Text.EscapeFree text := List.forall_mem_singleton

theorem withoutStyles_painted {p : Piece} (free : Text.EscapeFree p.text) (rest : List Char) :
    withoutStyles (p.painted.toList ++ rest) = p.text.toList ++ withoutStyles rest := by
  obtain ⟨text, style⟩ := p
  cases style with
  | none => exact withoutStyles_append free rest
  | some style =>
      have reset : ∀ c ∈ ['0'], isParameter c = true := List.all_eq_true.1 (by decide)
      simp only [Piece.painted, String.toList_ofList, reapply_of_no_escape _ free, List.append_assoc]
      rw [withoutStyles_sequence (isParameter_of_mem_code style), withoutStyles_append free,
        resetSequence, withoutStyles_sequence reset]

theorem withoutStyles_render {t : Painted} (free : t.EscapeFree) (rest : List Char) :
    withoutStyles ((t.render true).toList ++ rest) =
      (t.render false).toList ++ withoutStyles rest := by
  induction t with
  | nil => simp [Painted.render]
  | cons p t ih =>
      obtain ⟨first, later⟩ := List.forall_mem_cons.1 free
      have cons (colors : Bool) : (Painted.render colors (p :: t)).toList =
          (p.render colors).toList ++ (Painted.render colors t).toList := by
        simp [Painted.render]
      rw [cons, cons, List.append_assoc, List.append_assoc, ← ih later]
      exact withoutStyles_painted first _

/-! ## The report to read -/

theorem escapeFree_countsText (c : Counts) : EscapeFree (countsText c) := by
  have part (s : Severity) : EscapeFree
      (toString (c.get s) ++ " " ++ String.ofList (s.label.toList.map Char.toLower)) := by
    rw [escapeFree_append, escapeFree_append]
    refine ⟨⟨escapeFree_toString _, by decide⟩, ?_⟩
    cases s <;> decide
  refine .ite (by decide) (escapeFree_intercalate (by decide) fun text member => ?_)
  obtain ⟨s, -, counted⟩ := List.mem_filterMap.1 member
  split at counted
  · cases counted
  · obtain rfl := Option.some.inj counted
    exact part s

theorem escapeFree_forbiddenLines {v : Violation} (free : v.EscapeFree) :
    EscapeFree (forbiddenLines v) := by
  refine .ite (by decide) (escapeFree_append.2 ⟨by decide, escapeFree_join fun line member => ?_⟩)
  obtain ⟨name, listed, rfl⟩ := List.mem_map.1 member
  rw [escapeFree_append, escapeFree_append]
  exact ⟨⟨by decide, free.forbidden name listed⟩, by decide⟩

theorem escapeFree_numbered {before after : String} (n : Nat) (left : Text.EscapeFree before)
    (right : Text.EscapeFree after) : Text.EscapeFree (before ++ toString n ++ after) :=
  escapeFree_append.2 ⟨escapeFree_append.2 ⟨left, escapeFree_toString n⟩, right⟩

theorem escapeFree_entry (view : View) (n : Nat) {v : Violation} (free : v.EscapeFree) :
    (entry view n v).EscapeFree := by
  have label : Text.EscapeFree v.severity.label := by cases v.severity <;> decide
  simp only [entry, Painted.escapeFree_append, Painted.escapeFree_plain,
    Painted.escapeFree_styled, escapeFree_append]
  exact ⟨⟨⟨⟨⟨⟨by decide, escapeFree_toString n⟩, by decide⟩, label⟩, by decide⟩, free.path⟩,
    ⟨⟨⟨⟨⟨by decide, free.rule⟩, by decide⟩, free.message⟩, by decide⟩,
      .ite (escapeFree_forbiddenLines free) (by decide)⟩, by decide⟩

theorem escapeFree_summary (r : Report) : (summary r).EscapeFree := by
  have skipped : Text.EscapeFree
      (if r.skipped.isEmpty then ""
        else "Skipped " ++ toString r.skipped.length ++ " unreadable file(s)\n") :=
    .ite (by decide) (escapeFree_numbered _ (by decide) (Text.escapeFree_ofList.2 (by decide)))
  have seconds : Text.EscapeFree (oneDecimal (secondsOf r.duration)) := by
    simp only [oneDecimal, escapeFree_append]
    exact ⟨⟨escapeFree_digitsText _, by decide⟩, escapeFree_digitsText _⟩
  simp only [summary, Painted.escapeFree_append, Painted.escapeFree_plain,
    Painted.escapeFree_styled, escapeFree_append]
  refine ⟨⟨by decide, ⟨⟨⟨⟨⟨⟨by decide, escapeFree_countsText _⟩, by decide⟩,
    escapeFree_toString _⟩, by decide⟩, seconds⟩, by decide⟩, skipped⟩, ?_⟩
  split
  · exact Painted.escapeFree_styled.2 (Text.escapeFree_ofList.2 (by decide))
  · exact List.forall_mem_nil _

theorem escapeFree_listing (view : View) {r : Report} (free : ∀ v ∈ r.violations, v.EscapeFree) :
    (listing view r).EscapeFree := by
  rw [listing]
  split
  · exact Painted.escapeFree_append.2
      ⟨Painted.escapeFree_styled.2 (Text.escapeFree_ofList.2 (by decide)),
        Painted.escapeFree_plain.2 (by decide)⟩
  · have entries : Painted.EscapeFree (entriesFrom view 1 (shown view r)) := by
      rw [entriesFrom_eq]
      intro p member
      obtain ⟨⟨v, n⟩, listed, inside⟩ := List.mem_flatMap.1 member
      have among := (shown_sublist view r).subset (List.fst_mem_of_mem_zipIdx listed)
      exact escapeFree_entry view n (free v among) p inside
    simp only [Painted.escapeFree_append, Painted.escapeFree_plain, Painted.escapeFree_styled]
    exact ⟨⟨escapeFree_numbered _ (by decide) (Text.escapeFree_ofList.2 (by decide)), entries⟩,
      .ite (by decide) (escapeFree_numbered _ (by decide) (Text.escapeFree_ofList.2 (by decide)))⟩

theorem escapeFree_human (view : View) {r : Report} (free : ∀ v ∈ r.violations, v.EscapeFree) :
    (human view r).EscapeFree :=
  Painted.escapeFree_append.2 ⟨escapeFree_listing view free, escapeFree_summary r⟩

/-! ## Annotations -/

theorem escapeFree_annotations (view : View) {r : Report}
    (free : ∀ v ∈ r.violations, v.EscapeFree) : Text.EscapeFree (annotations view r) := by
  refine escapeFree_join fun line member => ?_
  obtain ⟨v, listed, rfl⟩ := List.mem_map.1 member
  have own := free v ((shown_sublist view r).subset listed)
  have level : Text.EscapeFree (annotationLevel v.severity) := by cases v.severity <;> decide
  have message : Text.EscapeFree (escapeMessage v.message) := by
    rw [escapeMessage, escapeFree_ofList, List.mem_flatMap]
    rintro ⟨c, inside, written⟩
    have kept : '\x1b' = c := by
      unfold escapeChar at written
      split_ifs at written
      · simp at written
      · simp at written
      · simp at written
      · exact List.mem_singleton.1 written
    exact own.message (kept ▸ inside)
  unfold annotation
  simp only [escapeFree_append]
  exact ⟨⟨⟨⟨⟨⟨⟨⟨by decide, level⟩, by decide⟩, own.path⟩, by decide⟩, own.rule⟩, by decide⟩, message⟩,
    by decide⟩

/-! ## All formats -/

/-- Removing the sequences of styles from a rendering with colours gives the rendering without
them, in every format; documents and annotations are the same either way. -/
theorem colors_add_only_styles {r : Report} (free : ∀ v ∈ r.violations, v.EscapeFree)
    (view : View) (terminal : Bool) (format : Format) :
    let painted := r.render { view with useColors := true } true format
    let plain := r.render { view with useColors := false } terminal format
    withoutStyles painted.toList = plain.toList ∧ (format ≠ .human → painted = plain) := by
  intro painted plain
  cases format with
  | human =>
      have paintedFree := escapeFree_human { view with useColors := true } free
      have removed := withoutStyles_render paintedFree []
      rw [List.append_nil, withoutStyles, List.append_nil] at removed
      have same : (human { view with useColors := true } r).render false = plain := by
        rw [render_human]
        exact (render_human { view with useColors := false } r false).symm
      exact ⟨removed.trans (by rw [same]), fun other => absurd rfl other⟩
  | json =>
      have written : Text.EscapeFree painted :=
        escapeFree_append.2 ⟨Json.escapeFree_pretty _, by decide⟩
      exact ⟨withoutStyles_of_escapeFree written, fun _ => rfl⟩
  | github =>
      exact ⟨withoutStyles_of_escapeFree (escapeFree_annotations _ free), fun _ => rfl⟩

/-- A report with an escape in a detail that only its document shows. -/
def noted : Report :=
  Report.empty.add ((finding "a.b" .critical).withDetail "note" (.string "\x1b[1m"))

theorem noted_colors_removed :
    let painted := noted.render {} true .human
    ((header 1).render true).toList <+: painted.toList ∧
      withoutStyles painted.toList = (noted.render { useColors := false } true .human).toList := by
  have free : ∀ v ∈ noted.violations, v.EscapeFree := by
    refine List.forall_mem_singleton.2 ⟨by decide, by decide, by decide, ?_⟩
    decide
  exact ⟨(header_prefix_human_iff _ _ _ 1).2 (by decide),
    (colors_add_only_styles free {} true .human).1⟩

end Report

end Layering
