import Layering.Yaml.Basic
import Mathlib.Data.List.Forall2

/-!
# When two values are the same

Keys are compared by `Value.same`, for which the entries of a mapping have no order. A value is the
same as itself, `same_refl`, and what is the same as the same is the same, `same_trans`. The other
order needs values without repeated keys, since only then do equal lengths leave no entry out:
`same_mapping_symm`.
-/

namespace Layering

/-! ## Numbers -/

namespace Number.Binary64

theorem same_iff {x y : Binary64} :
    x.same y = true ↔
      x = y ∨ x.isZero = true ∧ y.isZero = true ∨ x.isNaN = true ∧ y.isNaN = true := by
  simp [same, or_assoc]

theorem isNaN_of_isZero {x : Binary64} (zero : x.isZero = true) : x.isNaN = false := by
  rw [isZero, Bool.and_eq_true] at zero
  simp [isNaN, eq_of_beq zero.2]

theorem same_symm {x y : Binary64} (same : x.same y = true) : y.same x = true := by
  rw [same_iff] at same ⊢
  rcases same with rfl | zeros | nans
  · exact .inl rfl
  · exact .inr (.inl zeros.symm)
  · exact .inr (.inr nans.symm)

theorem same_trans {x y z : Binary64} (left : x.same y = true) (right : y.same z = true) :
    x.same z = true := by
  rw [same_iff] at left right ⊢
  rcases left with rfl | zeros | nans
  · exact right
  · rcases right with rfl | zeros' | nans'
    · exact .inr (.inl zeros)
    · exact .inr (.inl ⟨zeros.1, zeros'.2⟩)
    · rw [isNaN_of_isZero zeros.2] at nans'
      cases nans'.1
  · rcases right with rfl | zeros' | nans'
    · exact .inr (.inr nans)
    · rw [isNaN_of_isZero zeros'.1] at nans
      cases nans.2
    · exact .inr (.inr ⟨nans.1, nans'.2⟩)

end Number.Binary64

namespace Yaml

open Number

/-! ## Induction over a value and what is in it -/

@[elab_as_elim, induction_eliminator]
theorem Value.induction {motive : Value → Prop} (null : motive .null)
    (bool : ∀ b, motive (.bool b)) (int : ∀ n, motive (.int n)) (float : ∀ x, motive (.float x))
    (string : ∀ s, motive (.string s))
    (sequence : ∀ items, (∀ v ∈ items, motive v) → motive (.sequence items))
    (mapping : ∀ entries, (∀ e ∈ entries, motive e.1 ∧ motive e.2) → motive (.mapping entries))
    (tagged : ∀ tag v, motive v → motive (.tagged tag v)) (v : Value) : motive v :=
  Value.rec (motive_1 := motive) (motive_2 := fun items => ∀ v ∈ items, motive v)
    (motive_3 := fun entries => ∀ e ∈ entries, motive e.1 ∧ motive e.2)
    (motive_4 := fun e => motive e.1 ∧ motive e.2)
    null bool int float string sequence mapping tagged (List.forall_mem_nil _)
    (fun _ _ first rest => List.forall_mem_cons.2 ⟨first, rest⟩) (List.forall_mem_nil _)
    (fun _ _ first rest => List.forall_mem_cons.2 ⟨first, rest⟩) (fun _ _ key value => ⟨key, value⟩) v

namespace Value

attribute [local simp] same sameItems sameEntries

/-! ## What is the same as a value of each kind -/

theorem sameItems_iff {xs ys : List Value} :
    sameItems xs ys = true ↔ List.Forall₂ (fun x y => x.same y = true) xs ys := by
  induction xs generalizing ys with
  | nil => cases ys <;> simp
  | cons x xs ih => cases ys <;> simp [ih]

theorem sameEntries_iff {xs ys : List (Value × Value)} :
    sameEntries xs ys = true ↔
      ∀ e ∈ xs, ∃ f ∈ ys, e.1.same f.1 = true ∧ e.2.same f.2 = true := by
  induction xs with
  | nil => simp
  | cons e xs ih =>
      rw [sameEntries, Bool.and_eq_true, ih, List.any_eq_true, List.forall_mem_cons]
      simp only [Bool.and_eq_true]

theorem same_float_left {x : Binary64} {v : Value} :
    (float x).same v = true ↔ ∃ y, v = .float y ∧ x.same y = true := by
  cases v <;> simp

theorem same_sequence_left {xs : List Value} {v : Value} :
    (sequence xs).same v = true ↔
      ∃ ys, v = .sequence ys ∧ List.Forall₂ (fun x y => x.same y = true) xs ys := by
  cases v <;> simp [sameItems_iff]

theorem same_mapping_left {xs : List (Value × Value)} {v : Value} :
    (mapping xs).same v = true ↔ ∃ ys, v = .mapping ys ∧ xs.length = ys.length ∧
      ∀ e ∈ xs, ∃ f ∈ ys, e.1.same f.1 = true ∧ e.2.same f.2 = true := by
  cases v with
  | mapping ys =>
      rw [same, Bool.and_eq_true, beq_iff_eq, sameEntries_iff]
      constructor
      · exact fun equal => ⟨ys, rfl, equal⟩
      · rintro ⟨_, ⟨⟩, equal⟩
        exact equal
  | _ => simp only [same, Bool.false_eq_true, reduceCtorEq, false_and, exists_const]

theorem same_tagged_left {tag : String} {w v : Value} :
    (tagged tag w).same v = true ↔ ∃ w', v = .tagged tag w' ∧ w.same w' = true := by
  cases v with
  | tagged tag' w' =>
      rw [same, Bool.and_eq_true, beq_iff_eq]
      constructor
      · rintro ⟨rfl, inner⟩
        exact ⟨w', rfl, inner⟩
      · rintro ⟨_, ⟨⟩, inner⟩
        exact ⟨rfl, inner⟩
  | _ => simp

/-- Only floats, collections and tagged values are the same as others. -/
theorem eq_of_same_scalar {v w : Value} (scalar : v matches .null | .bool _ | .int _ | .string _)
    (equal : v.same w = true) : w = v := by
  cases v with
  | null | bool | int | string => cases w <;> simp_all
  | _ => cases scalar

/-! ## Order -/

theorem same_refl (v : Value) : v.same v = true := by
  induction v with
  | null => rw [same]
  | bool b => rw [same, beq_self_eq_true]
  | int n => rw [same, beq_self_eq_true]
  | float x => exact same_float_left.2 ⟨x, rfl, Binary64.same_iff.2 (.inl rfl)⟩
  | string s => rw [same, beq_self_eq_true]
  | sequence items ih => exact same_sequence_left.2 ⟨items, rfl, List.forall₂_same.2 ih⟩
  | mapping entries ih =>
      exact same_mapping_left.2 ⟨entries, rfl, rfl, fun e member => ⟨e, member, ih e member⟩⟩
  | tagged tag v ih => exact same_tagged_left.2 ⟨v, rfl, ih⟩

theorem forall₂_same_trans {xs ys zs : List Value}
    (trans : ∀ x ∈ xs, ∀ {y z : Value}, x.same y = true → y.same z = true → x.same z = true)
    (left : List.Forall₂ (fun x y => x.same y = true) xs ys)
    (right : List.Forall₂ (fun y z => y.same z = true) ys zs) :
    List.Forall₂ (fun x z => x.same z = true) xs zs := by
  induction left generalizing zs with
  | nil =>
      cases right
      exact .nil
  | cons first rest ih =>
      cases right with
      | cons second others =>
          rw [List.forall_mem_cons] at trans
          exact .cons (trans.1 first second) (ih trans.2 others)

theorem forall₂_same_symm {xs ys : List Value}
    (symm : ∀ x ∈ xs, ∀ {y : Value}, x.same y = true → y.same x = true)
    (equal : List.Forall₂ (fun x y => x.same y = true) xs ys) :
    List.Forall₂ (fun y x => y.same x = true) ys xs := by
  induction equal with
  | nil => exact .nil
  | cons first rest ih =>
      rw [List.forall_mem_cons] at symm
      exact .cons (symm.1 first) (ih symm.2)

theorem same_trans {x y z : Value} (left : x.same y = true) (right : y.same z = true) :
    x.same z = true := by
  induction x generalizing y z with
  | null | bool | int | string =>
      rw [eq_of_same_scalar rfl left] at right
      exact right
  | float x =>
      obtain ⟨y, rfl, first⟩ := same_float_left.1 left
      obtain ⟨z, rfl, second⟩ := same_float_left.1 right
      exact same_float_left.2 ⟨z, rfl, Binary64.same_trans first second⟩
  | sequence xs ih =>
      obtain ⟨ys, rfl, first⟩ := same_sequence_left.1 left
      obtain ⟨zs, rfl, second⟩ := same_sequence_left.1 right
      exact same_sequence_left.2 ⟨zs, rfl, forall₂_same_trans ih first second⟩
  | mapping xs ih =>
      obtain ⟨ys, rfl, length, first⟩ := same_mapping_left.1 left
      obtain ⟨zs, rfl, length', second⟩ := same_mapping_left.1 right
      refine same_mapping_left.2 ⟨zs, rfl, length.trans length', fun e member => ?_⟩
      obtain ⟨f, inYs, key, value⟩ := first e member
      obtain ⟨g, inZs, key', value'⟩ := second f inYs
      exact ⟨g, inZs, (ih e member).1 key key', (ih e member).2 value value'⟩
  | tagged tag x ih =>
      obtain ⟨y, rfl, first⟩ := same_tagged_left.1 left
      obtain ⟨z, rfl, second⟩ := same_tagged_left.1 right
      exact same_tagged_left.2 ⟨z, rfl, ih first second⟩

/-- A choice of partners that never chooses one twice uses up a list of the same length. -/
theorem exists_left_of_apart {α β : Type} {partner : α → β → Prop} {xs : List α} {ys : List β}
    (length : xs.length = ys.length) (chosen : ∀ x ∈ xs, ∃ y ∈ ys, partner x y)
    (apart : xs.Pairwise fun x x' => ∀ y, partner x y → ¬ partner x' y) :
    ∀ y ∈ ys, ∃ x ∈ xs, partner x y := by
  induction xs generalizing ys with
  | nil =>
      rw [List.length_nil, eq_comm, List.length_eq_zero_iff] at length
      simp [length]
  | cons x xs ih =>
      rw [List.forall_mem_cons] at chosen
      rw [List.pairwise_cons] at apart
      obtain ⟨y, inside, here⟩ := chosen.1
      obtain ⟨before, after, rfl⟩ := List.append_of_mem inside
      -- The others choose among what is left when the first partner is taken out.
      have later : ∀ y' ∈ before ++ after, ∃ x' ∈ xs, partner x' y' := by
        apply ih (by simp at length ⊢; omega) _ apart.2
        intro x' member
        obtain ⟨y', inside', there⟩ := chosen.2 x' member
        refine ⟨y', ?_, there⟩
        rcases List.mem_append.1 inside' with earlier | later
        · exact List.mem_append_left _ earlier
        · rcases List.mem_cons.1 later with rfl | later
          · exact absurd there (apart.1 x' member y' here)
          · exact List.mem_append_right _ later
      intro y' inside'
      by_cases same : y' = y
      · exact ⟨x, List.mem_cons_self, same ▸ here⟩
      · obtain ⟨x', member, there⟩ := later y' (by simpa [same] using inside')
        exact ⟨x', List.mem_cons_of_mem _ member, there⟩

/-- Without repeated keys on the left, a mapping is also the same the other way round. -/
theorem same_mapping_symm {xs ys : List (Value × Value)}
    (distinct : xs.Pairwise fun a b => a.1.same b.1 = false)
    (symm : ∀ e ∈ xs, ∀ {v : Value},
      (e.1.same v = true → v.same e.1 = true) ∧ (e.2.same v = true → v.same e.2 = true))
    (equal : (mapping xs).same (.mapping ys) = true) :
    (mapping ys).same (.mapping xs) = true := by
  obtain ⟨_, ⟨⟩, length, chosen⟩ := same_mapping_left.1 equal
  have apart : xs.Pairwise fun e e' => ∀ f : Value × Value,
      e.1.same f.1 = true ∧ e.2.same f.2 = true → ¬ (e'.1.same f.1 = true ∧ e'.2.same f.2 = true) := by
    apply distinct.imp_of_mem
    intro e e' _ member' different f here there
    rw [same_trans here.1 ((symm e' member').1 there.1)] at different
    cases different
  refine same_mapping_left.2 ⟨xs, rfl, length.symm, fun f inside => ?_⟩
  obtain ⟨e, member, key, value⟩ := exists_left_of_apart length chosen apart f inside
  exact ⟨e, member, (symm e member).1 key, (symm e member).2 value⟩

end Value

end Yaml

end Layering
