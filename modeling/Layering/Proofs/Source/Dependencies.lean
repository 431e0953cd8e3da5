import Layering.Source.Dependencies
import Mathlib.Data.List.Induction

/-!
# Dependencies as a list

The names of `ofList` are the given ones, trimmed, without the empty ones and without later
repetitions, and the index holds exactly these.
-/

namespace Layering.Source.Dependencies
open Text

def cleaned (names : List String) : List String :=
  (names.map strip).filter fun name => !name.isEmpty

theorem cleaned_concat (names : List String) (name : String) :
    cleaned (names ++ [name]) =
      cleaned names ++ if (strip name).isEmpty then [] else [strip name] := by
  by_cases empty : (strip name).isEmpty <;> simp [cleaned, empty]

theorem ofList_concat (names : List String) (name : String) :
    ofList (names ++ [name]) = (ofList names).insert name := by
  simp [ofList]

theorem ofList_spec (names : List String) :
    (ofList names).toList = (cleaned names).eraseDups ∧
      ∀ name, (ofList names).contains name = true ↔ name ∈ cleaned names := by
  induction names using List.reverseRecOn with
  | nil => simp [ofList, empty, toList, contains, cleaned]
  | append_singleton names name ih =>
      obtain ⟨ordered, index⟩ := ih
      rw [ofList_concat, cleaned_concat]
      by_cases blank : (strip name).isEmpty
      · have kept : (ofList names).insert name = ofList names := by
          simp [insert, isNew, blank]
        rw [kept, if_pos blank, List.append_nil]
        exact ⟨ordered, index⟩
      · rw [if_neg blank, List.eraseDups_append]
        by_cases known : strip name ∈ cleaned names
        · have kept : (ofList names).insert name = ofList names := by
            simp [insert, isNew, (index _).2 known]
          have removed : [strip name].removeAll (cleaned names) = [] := by
            simp [List.removeAll, known]
          rw [kept, removed, List.eraseDups_nil, List.append_nil]
          refine ⟨ordered, fun other => (index other).trans ?_⟩
          simp only [List.mem_append, List.mem_singleton]
          exact ⟨.inl, fun member => member.elim id fun same => same ▸ known⟩
        · have absent : (ofList names).contains (strip name) = false := by
            rw [Bool.eq_false_iff]
            exact fun found => known ((index _).1 found)
          have added : (ofList names).insert name =
              { ordered := (ofList names).ordered.push (strip name)
                index := (ofList names).index.insert (strip name) } := by
            simp [insert, isNew, blank, absent]
          have remains : ([strip name].removeAll (cleaned names)).eraseDups = [strip name] := by
            simp [List.removeAll, known, List.eraseDups_cons]
          rw [added, remains]
          refine ⟨?_, fun other => ?_⟩
          · rw [← ordered]
            simp [toList]
          · have rest := index other
            simp only [contains] at rest ⊢
            simp only [Std.HashSet.contains_insert, Bool.or_eq_true, beq_iff_eq, rest,
              List.mem_append, List.mem_singleton]
            rw [or_comm, eq_comm]

/-- Names that need no trimming are kept in the order they are first seen. -/
theorem toList_ofList (names : List String) (clean : ∀ name ∈ names, strip name = name)
    (nonempty : ∀ name ∈ names, name ≠ "") : (ofList names).toList = names.eraseDups := by
  have same : cleaned names = names := by
    rw [cleaned, List.map_congr_left clean, List.map_id', List.filter_eq_self]
    intro name member
    simpa using nonempty name member
  rw [(ofList_spec names).1, same]

theorem mem_toList_ofList (names : List String) (name : String) :
    name ∈ (ofList names).toList ↔ (ofList names).contains name = true := by
  rw [(ofList_spec names).1, List.mem_eraseDups, (ofList_spec names).2]

theorem nodup_toList_ofList (names : List String) : (ofList names).toList.Nodup := by
  induction names using List.reverseRecOn with
  | nil => exact List.nodup_nil
  | append_singleton names name ih =>
      rw [ofList_concat, insert]
      split
      · rename_i new
        have absent : strip name ∉ (ofList names).toList := by
          rw [mem_toList_ofList]
          intro found
          simp [isNew, found] at new
        have added : (ofList names).ordered.toList ++ [strip name] =
            (ofList names).toList ++ [strip name] := rfl
        rw [toList, Array.toList_push, added, List.nodup_append]
        refine ⟨ih, by simp, ?_⟩
        rintro a member b last rfl
        rw [List.mem_singleton.1 last] at member
        exact absent member
      · exact ih

end Layering.Source.Dependencies
