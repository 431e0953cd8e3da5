import Layering.Proofs.Source.Segments
import Layering.Source.Basic

/-!
# Which layer an interface is of

An entry of an implements clause with a backslash is a full name. Any other stands for the path of
the first import that has it, as its other name or as its last segment. When none has it, it stands
for nothing: `resolve_eq_some_iff`. So a later import never takes an entry's meaning away, and one
that has none of the entries changes nothing: `implementsFrom_first_import`.
-/

namespace Layering.Source
open Text

/-! ## The names of an import -/

/-- The import has the name: it was given it, or its path ends in it. -/
def Import.Has (i : Import) (name : String) : Prop :=
  i.rename = some name ∨ (segments i.path).getLast? = some name.toList

instance (i : Import) (name : String) : Decidable (i.Has name) :=
  inferInstanceAs (Decidable (_ ∨ _))

theorem lastSegment_of_slashless {name : String} (absent : '\\' ∉ name.toList) :
    lastSegment name = name := by
  have all : ∀ c ∈ name.toList.reverse, (c != '\\') = true := by
    intro c member
    exact bne_of_not_mem absent c (List.mem_reverse.1 member)
  rw [lastSegment, List.takeWhile_eq_self_iff.2 all, List.reverse_reverse, String.ofList_toList]

theorem lastSegment_of_append {name : String} {before last : List Char}
    (split : name.toList = before ++ '\\' :: last) (absent : '\\' ∉ last) :
    lastSegment name = String.ofList last := by
  have turned : name.toList.reverse = last.reverse ++ '\\' :: before.reverse := by
    rw [split]
    simp
  rw [lastSegment, turned, takeWhile_bne_append (by simpa using absent), List.reverse_reverse]

theorem getLast?_segments (name : String) :
    (segments name).getLast? = some (lastSegment name).toList := by
  have single {s : List Char} (absent : '\\' ∉ s) : s.splitOnP (· == '\\') = [s] :=
    List.splitOnP_eq_singleton fun c member => by simpa using bne_of_not_mem absent c member
  by_cases slash : '\\' ∈ name.toList
  · obtain ⟨before, last, split, absent⟩ := exists_last_of_mem slash
    rw [segments_of_append split, single absent, lastSegment_of_append split absent,
      String.toList_ofList, List.getLast?_concat]
  · rw [segments, single slash, lastSegment_of_slashless slash]
    rfl

theorem brings_iff {i : Import} {name : String} : i.brings name = true ↔ i.Has name := by
  rw [Import.brings, Import.Has, getLast?_segments, Bool.or_eq_true, beq_iff_eq, beq_iff_eq,
    Import.shortName, Option.some_inj, String.toList_inj]

/-! ## What an entry stands for -/

/-- What an entry stands for under some imports. -/
inductive Resolves (imports : List Import) (entry : String) : String → Prop
  /-- A name with a backslash stands for itself. -/
  | full (slash : '\\' ∈ entry.toList) : Resolves imports entry entry
  /-- A bare name stands for the path of the first import that has it. -/
  | imported {before after : List Import} {i : Import} (bare : '\\' ∉ entry.toList)
      (listed : imports = before ++ i :: after) (has : i.Has entry)
      (first : ∀ j ∈ before, ¬ j.Has entry) : Resolves imports entry i.path

theorem resolve_eq_some_iff {f : Source} {entry name : String} :
    f.resolve entry = some name ↔ Resolves f.imports entry name := by
  rw [Source.resolve]
  constructor
  · intro found
    split at found
    · rename_i slash
      obtain rfl := Option.some.inj found
      exact .full (by simpa using slash)
    · rename_i bare
      obtain ⟨i, first, rfl⟩ := Option.map_eq_some_iff.1 found
      obtain ⟨has, before, after, listed, others⟩ := List.find?_eq_some_iff_append.1 first
      refine .imported (by simpa using bare) listed (brings_iff.1 has) fun j member => ?_
      rw [← brings_iff]
      simpa using others j member
  · rintro (slash | ⟨bare, listed, has, first⟩)
    · rw [if_pos (by simpa using slash)]
    · rename_i before after i
      have here : f.imports.find? (·.brings entry) = some i := by
        rw [List.find?_eq_some_iff_append]
        refine ⟨brings_iff.2 has, before, after, listed, fun j member => ?_⟩
        simpa using fun brings => first j member (brings_iff.1 brings)
      rw [if_neg (by simpa using bare), here]
      rfl

theorem Resolves.append {imports : List Import} {entry name : String}
    (resolves : Resolves imports entry name) (more : List Import) :
    Resolves (imports ++ more) entry name := by
  cases resolves with
  | full slash => exact .full slash
  | @imported before after i bare listed has first =>
      have longer : imports ++ more = before ++ i :: (after ++ more) := by
        rw [listed, List.append_assoc, List.cons_append]
      exact .imported bare longer has first

/-- The file with other imports. -/
def withImports (f : Source) (imports : List Import) : Source := { f with imports }

theorem resolve_withImports_of_not_has {f : Source} {before after : List Import}
    (listed : f.imports = before ++ after) {i : Import} {entry : String}
    (other : '\\' ∉ entry.toList → ¬ i.Has entry) :
    (withImports f (before ++ i :: after)).resolve entry = f.resolve entry := by
  rw [Source.resolve, Source.resolve]
  by_cases slash : '\\' ∈ entry.toList
  · simp [slash]
  · have passed : i.brings entry = false := by
      rw [Bool.eq_false_iff, ne_eq, brings_iff]
      exact other slash
    simp [slash, withImports, listed, List.find?_append, passed]

/-! ## Layers -/

theorem inLayer_iff {name : String} {layer : List String} :
    inLayer name layer = true ↔ ∃ pattern ∈ layer, pattern.toList <:+: name.toList := by
  simp only [inLayer, List.any_eq_true, contains_iff]

theorem implementsFrom_eq_some_true_iff {f : Source} {entries : List String}
    (clause : f.interfaces = some entries) {layer : List String} :
    f.implementsFrom layer = some true ↔
      ∃ entry ∈ entries, ∃ name, Resolves f.imports entry name ∧ inLayer name layer = true := by
  rw [Source.implementsFrom, clause, Option.map_some, Option.some_inj, List.any_eq_true]
  refine exists_congr fun entry => and_congr_right fun _ => ?_
  simp only [← resolve_eq_some_iff]
  cases f.resolve entry <;> simp

theorem exists_of_implementsFrom {f : Source} {layer : List String}
    (holds : f.implementsFrom layer = some true) :
    ∃ entries, f.interfaces = some entries ∧
      ∃ entry ∈ entries, ∃ name, Resolves f.imports entry name ∧ inLayer name layer = true := by
  obtain ⟨entries, clause, -⟩ := Option.map_eq_some_iff.1 holds
  exact ⟨entries, clause, (implementsFrom_eq_some_true_iff clause).1 holds⟩

/-- Nothing is known of a file without an implements clause. Of any other, some entry is of the
layer: a full name that contains a pattern, or a bare name whose first import does. Imports behind
the others and further patterns keep such an entry, and an import that has none of the bare names
changes nothing, wherever it stands. -/
theorem implementsFrom_first_import (f : Source) (layer : List String) :
    (f.implementsFrom layer = none ↔ f.interfaces = none) ∧
      (∀ entries, f.interfaces = some entries →
        (f.implementsFrom layer = some true ↔ ∃ entry ∈ entries,
          ('\\' ∈ entry.toList ∧ ∃ pattern ∈ layer, pattern.toList <:+: entry.toList) ∨
          ('\\' ∉ entry.toList ∧ ∃ before i after, f.imports = before ++ i :: after ∧
            i.Has entry ∧ (∀ j ∈ before, ¬ j.Has entry) ∧
            ∃ pattern ∈ layer, pattern.toList <:+: i.path.toList))) ∧
      (∀ more, f.implementsFrom layer = some true →
        (withImports f (f.imports ++ more)).implementsFrom layer = some true) ∧
      (∀ before i after, f.imports = before ++ after →
        (∀ entries, f.interfaces = some entries →
          ∀ entry ∈ entries, '\\' ∉ entry.toList → ¬ i.Has entry) →
        (withImports f (before ++ i :: after)).implementsFrom layer = f.implementsFrom layer) ∧
      ∀ wider, layer ⊆ wider → f.implementsFrom layer = some true →
        f.implementsFrom wider = some true := by
  refine ⟨Option.map_eq_none_iff, ?_, ?_, ?_, ?_⟩
  · intro entries clause
    rw [implementsFrom_eq_some_true_iff clause]
    refine exists_congr fun entry => and_congr_right fun _ => ?_
    constructor
    · rintro ⟨name, slash | ⟨bare, listed, has, first⟩, inside⟩
      · exact .inl ⟨slash, inLayer_iff.1 inside⟩
      · exact .inr ⟨bare, _, _, _, listed, has, first, inLayer_iff.1 inside⟩
    · rintro (⟨slash, inside⟩ | ⟨bare, before, i, after, listed, has, first, inside⟩)
      · exact ⟨entry, .full slash, inLayer_iff.2 inside⟩
      · exact ⟨i.path, .imported bare listed has first, inLayer_iff.2 inside⟩
  · intro more holds
    obtain ⟨entries, clause, entry, member, name, resolves, inside⟩ :=
      exists_of_implementsFrom holds
    have same : (withImports f (f.imports ++ more)).interfaces = some entries := clause
    rw [implementsFrom_eq_some_true_iff same]
    exact ⟨entry, member, name, resolves.append more, inside⟩
  · intro before i after listed other
    have same : (withImports f (before ++ i :: after)).interfaces = f.interfaces := rfl
    rw [Source.implementsFrom, Source.implementsFrom, same]
    refine Option.map_congr fun entries clause => ?_
    rw [Bool.eq_iff_iff, List.any_eq_true, List.any_eq_true]
    refine exists_congr fun entry => and_congr_right fun member => ?_
    rw [resolve_withImports_of_not_has listed (other entries clause entry member)]
  · intro wider covered holds
    obtain ⟨entries, clause, entry, member, name, resolves, inside⟩ :=
      exists_of_implementsFrom holds
    obtain ⟨pattern, listed, occurs⟩ := inLayer_iff.1 inside
    rw [implementsFrom_eq_some_true_iff clause]
    exact ⟨entry, member, name, resolves, inLayer_iff.2 ⟨pattern, covered listed, occurs⟩⟩

/-- A class with three interfaces. The first is of a library, although a later import of the same
name is not. -/
def clockFile : Source :=
  .ofContent "a.php" ("use Lib\\Clock;\nuse My\\Domain as Bus;\nuse Domain\\Clock;\n" ++
    "class A implements Clock, Bus, \\Log \x7b\x7d\n")

theorem clockFile_stays_in_domain :
    clockFile.implementsFrom ["Domain"] = some true ∧
      (withImports clockFile (clockFile.imports ++ [⟨"Lib\\Bus", none⟩])).implementsFrom
        ["Domain"] = some true ∧
      (withImports clockFile (⟨"Lib\\Busses", some "Clocks"⟩ :: clockFile.imports)).implementsFrom
        ["Domain"] = clockFile.implementsFrom ["Domain"] ∧
      clockFile.implementsFrom ["Lib\\X", "Domain"] = some true := by
  have imports : clockFile.imports = [⟨"Lib\\Clock", none⟩] ++
      ⟨"My\\Domain", some "Bus"⟩ :: [⟨"Domain\\Clock", none⟩] := by
    unfold clockFile
    dsimp only [ofContent]
    rw [String.toList_append, String.toList_ofList, String.toList_ofList]
    decide +kernel
  have clause : clockFile.interfaces = some ["Clock", "Bus", "\\Log"] := by
    unfold clockFile
    dsimp only [ofContent, interfaces]
    rw [String.toList_append, String.toList_ofList, String.toList_ofList]
    decide +kernel
  obtain ⟨-, member, appended, inserted, widened⟩ :=
    implementsFrom_first_import clockFile ["Domain"]
  have holds : clockFile.implementsFrom ["Domain"] = some true := by
    refine (member _ clause).2 ⟨"Bus", by simp, .inr ⟨by decide, _, _, _, imports, by decide, ?_⟩⟩
    exact ⟨by decide, "Domain", by simp, by decide⟩
  refine ⟨holds, appended _ holds, inserted [] _ _ (List.nil_append _).symm ?_,
    widened _ ?_ holds⟩
  · intro entries same
    obtain rfl := Option.some.inj (clause.symm.trans same)
    decide +kernel
  · simp

end Layering.Source
