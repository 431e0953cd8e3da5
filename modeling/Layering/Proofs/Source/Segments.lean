import Layering.Proofs.Source.Dependencies
import Layering.Proofs.Source.Name
import Mathlib.Data.List.Infix

/-!
# Names as lists of segments

A name is the list of its segments, with a backslash between each two and nothing lost. To live
within a base is to begin with its segments, to be called by a name is to end in its segments, so
both relations are partial orders: `name_tests_order_segments`.
-/

namespace Layering.Source

/-! ## Segments -/

theorem intercalate_segments (name : String) : ['\\'].intercalate (segments name) = name.toList :=
  List.intercalate_splitOn '\\'

theorem segments_injective : Function.Injective segments := by
  intro a b same
  rw [← String.toList_inj, ← intercalate_segments, same, intercalate_segments]

theorem segments_ne_nil (name : String) : segments name ≠ [] := List.splitOnP_ne_nil _ _

/-- A backslash parts the segments before it from those behind it. -/
theorem segments_of_append {name : String} {before after : List Char}
    (split : name.toList = before ++ '\\' :: after) :
    segments name = before.splitOnP (· == '\\') ++ after.splitOnP (· == '\\') := by
  rw [segments, split, List.splitOnP_append_cons _ _ (by simp)]

theorem intercalate_append {α : Type} {between : List α} {xs ys : List (List α)} (left : xs ≠ [])
    (right : ys ≠ []) :
    between.intercalate (xs ++ ys) =
      between.intercalate xs ++ between ++ between.intercalate ys := by
  induction xs with
  | nil => exact absurd rfl left
  | cons x xs ih =>
      by_cases last : xs = []
      · rw [last, List.singleton_append, List.intercalate_cons_of_ne_nil right,
          List.intercalate_singleton]
      · rw [List.cons_append, List.intercalate_cons_of_ne_nil (by simp [last]), ih last,
          List.intercalate_cons_of_ne_nil last]
        simp only [List.append_assoc]

/-- Where the list of segments is cut in two, the name has a backslash. -/
theorem toList_of_segments {name : String} {xs ys : List (List Char)} (left : xs ≠ [])
    (right : ys ≠ []) (split : segments name = xs ++ ys) :
    name.toList = ['\\'].intercalate xs ++ '\\' :: ['\\'].intercalate ys := by
  rw [← intercalate_segments, split, intercalate_append left right, List.append_assoc]
  rfl

/-! ## The two orders -/

theorem isWithin_iff_segments {name base : String} :
    isWithin name base = true ↔ segments base <+: segments name := by
  rw [isWithin_iff]
  constructor
  · rintro (rfl | ⟨after, split⟩)
    · exact List.prefix_rfl
    · rw [List.append_assoc] at split
      rw [segments_of_append split.symm]
      exact List.prefix_append _ _
  · rintro ⟨more, split⟩
    by_cases none : more = []
    · rw [none, List.append_nil] at split
      exact .inl (segments_injective split.symm)
    · refine .inr ⟨['\\'].intercalate more, ?_⟩
      rw [toList_of_segments (segments_ne_nil base) none split.symm, intercalate_segments,
        List.append_assoc]
      rfl

theorem isCalled_iff_segments {name short : String} :
    isCalled name short = true ↔ segments short <:+ segments name := by
  rw [isCalled_iff]
  constructor
  · rintro (rfl | ⟨before, split⟩)
    · exact List.suffix_rfl
    · rw [segments_of_append split.symm]
      exact List.suffix_append _ _
  · rintro ⟨more, split⟩
    by_cases none : more = []
    · rw [none, List.nil_append] at split
      exact .inl (segments_injective split.symm)
    · refine .inr ⟨['\\'].intercalate more, ?_⟩
      rw [toList_of_segments none (segments_ne_nil short) split.symm, intercalate_segments]

theorem isWithin_trans {name base above : String} (first : isWithin name base = true)
    (second : isWithin base above = true) : isWithin name above = true := by
  rw [isWithin_iff_segments] at first second ⊢
  exact second.trans first

theorem isCalled_trans {name short shorter : String} (first : isCalled name short = true)
    (second : isCalled short shorter = true) : isCalled name shorter = true := by
  rw [isCalled_iff_segments] at first second ⊢
  exact second.trans first

instance : IsPartialOrder String (fun name base => isWithin name base = true) where
  refl _ := isWithin_iff_segments.2 List.prefix_rfl
  trans _ _ _ := isWithin_trans
  antisymm _ _ first second := segments_injective
    (antisymm (isWithin_iff_segments.1 second) (isWithin_iff_segments.1 first))

instance : IsPartialOrder String (fun name short => isCalled name short = true) where
  refl _ := isCalled_iff_segments.2 List.suffix_rfl
  trans _ _ _ := isCalled_trans
  antisymm _ _ first second := segments_injective
    (antisymm (isCalled_iff_segments.1 second) (isCalled_iff_segments.1 first))

/-! ## Dependencies below a name -/

namespace Dependencies

variable (d : Dependencies)

theorem findForbidden_singleton_ne_nil_iff {target : String} :
    d.findForbidden [target] ≠ [] ↔ d.hasDependency target = true := by
  simp [findForbidden, matching, hasDependency]

/-- What lies below a name that lies below another lies below that one too. -/
theorem findForbidden_sublist {names above : List String}
    (covered : ∀ name ∈ names, ∃ base ∈ above, isWithin name base = true) :
    (d.findForbidden names).Sublist (d.findForbidden above) := by
  apply List.monotone_filter_right
  intro dependency below
  obtain ⟨name, member, within⟩ := List.any_eq_true.1 below
  obtain ⟨base, listed, covers⟩ := covered name member
  exact List.any_eq_true.2 ⟨base, listed, isWithin_trans within covers⟩

end Dependencies

/-- A name lives within a base when its segments begin with those of the base, and is called by a
name when its segments end in those of that name. Both are partial orders of all strings, and
dependencies below names are among those below names that cover them. -/
theorem name_tests_order_segments :
    (∀ name base, isWithin name base = true ↔ segments base <+: segments name) ∧
      (∀ name short, isCalled name short = true ↔ segments short <:+ segments name) ∧
      IsPartialOrder String (fun name base => isWithin name base = true) ∧
      IsPartialOrder String (fun name short => isCalled name short = true) ∧
      (∀ (d : Dependencies) target,
        d.hasDependency target = true ↔ d.findForbidden [target] ≠ []) ∧
      ∀ (d : Dependencies) (names above : List String),
        (∀ name ∈ names, ∃ base ∈ above, isWithin name base = true) →
          (d.findForbidden names).Sublist (d.findForbidden above) :=
  ⟨fun _ _ => isWithin_iff_segments, fun _ _ => isCalled_iff_segments, inferInstance, inferInstance,
    fun d _ => d.findForbidden_singleton_ne_nil_iff.symm,
    fun d _ _ covered => d.findForbidden_sublist covered⟩

/-- Doubled and trailing backslashes count, and part of a segment is none. -/
theorem forbidden_below_layers :
    let d := Dependencies.ofList
      ["App\\Domain\\User", "App\\DomainX\\User", "App\\\\Domain", "App\\", "Application"]
    (∀ name ∈ ["App\\Domain", "App\\"], ∃ base ∈ ["Lib", "App"], isWithin name base = true) ∧
      (d.findForbidden ["App\\Domain", "App\\"]).Sublist (d.findForbidden ["Lib", "App"]) ∧
      d.findForbidden ["App\\Domain", "App\\"] =
        ["App\\Domain\\User", "App\\\\Domain", "App\\"] := by
  intro d
  have covered : ∀ name ∈ ["App\\Domain", "App\\"],
      ∃ base ∈ ["Lib", "App"], isWithin name base = true := by decide
  have listed : d.toList =
      ["App\\Domain\\User", "App\\DomainX\\User", "App\\\\Domain", "App\\", "Application"] :=
    Dependencies.toList_ofList _ (by decide) (by decide)
  obtain ⟨-, -, -, -, -, monotone⟩ := name_tests_order_segments
  refine ⟨covered, monotone d _ _ covered, ?_⟩
  rw [Dependencies.findForbidden, Dependencies.matching, listed]
  decide

end Layering.Source
