import Layering.Proofs.Source.Parameters
import Layering.Proofs.Text.Word

/-!
# Dependencies in the order they are first seen

Dependencies keep a list of names and an index of them. However names are inserted, the two hold
the same names, each once and trimmed, in the order they were given first:
`dependencies_in_step`. The imports of a text are inserted before its type hints, so their paths
come first.
-/

namespace Layering.Source
open Text

/-! ## What a recogniser yields -/

section

variable {α : Type} {m : Recognizer α} {p : α → Prop} {s : List Char}

theorem forall_mem_every (yields : ∀ s a rest, m s = some (a, rest) → p a) :
    ∀ a ∈ every m s, p a := by
  fun_induction every m s with
  | case1 => exact List.forall_mem_nil _
  | case2 c s refused ih => exact ih
  | case3 c s a after reads shorter ih => exact List.forall_mem_cons.2 ⟨yields _ _ _ reads, ih⟩
  | case4 c s a after reads longer ih => exact List.forall_mem_cons.2 ⟨yields _ _ _ reads, ih⟩

end

/-! ## Hints -/

theorem segment_of_accepted {c : Char} {s : List Char}
    (accepted : ¬ (c != '\\' || (s.takeWhile isWord).isEmpty) = true) :
    c = '\\' ∧ IsIdentifier (s.takeWhile isWord) := by
  simp only [Bool.or_eq_true, not_or, bne_iff_ne, not_not, List.isEmpty_iff] at accepted
  refine ⟨accepted.1, accepted.2, fun d member => ?_⟩
  have word : isWord d = true := List.mem_takeWhile_imp member
  refine ⟨word, Bool.eq_false_iff.2 fun blank => ?_⟩
  rw [isWord_of_isBlank blank] at word
  cases word

theorem isHint_of_qualified? {s hint rest : List Char} (found : qualified? s = some (hint, rest)) :
    IsHint hint := by
  fun_induction qualified? s generalizing hint rest with
  | case1 => cases found
  | case2 => cases found
  | case3 c s word after accepted more last =>
      rename_i inner ih
      obtain ⟨rfl, -⟩ := Prod.mk.inj (Option.some.inj found)
      obtain ⟨rfl, isIdentifier⟩ := segment_of_accepted accepted
      exact .cons isIdentifier (ih inner)
  | case4 c s word after accepted =>
      obtain ⟨rfl, -⟩ := Prod.mk.inj (Option.some.inj found)
      obtain ⟨rfl, isIdentifier⟩ := segment_of_accepted accepted
      exact .last isIdentifier

theorem isHint_of_typedVariable? {s hint rest : List Char}
    (found : typedVariable? s = some (hint, rest)) : IsHint hint := by
  simp only [typedVariable?, Option.bind_eq_some_iff, Option.map_eq_some_iff] at found
  obtain ⟨⟨name, after⟩, qualified, _, -, _, -, same⟩ := found
  obtain ⟨rfl, -⟩ := Prod.mk.inj same
  exact isHint_of_qualified? qualified

theorem isHint_of_typedParameter? {s hint rest : List Char}
    (found : typedParameter? s = some (hint, rest)) : IsHint hint := by
  simp only [typedParameter?, Option.bind_eq_some_iff, Option.map_eq_some_iff] at found
  obtain ⟨⟨name, after⟩, typed, _, -, same⟩ := found
  obtain ⟨rfl, -⟩ := Prod.mk.inj same
  exact isHint_of_typedVariable? typed

theorem isHint_of_returnType? {s hint rest : List Char}
    (found : returnType? s = some (hint, rest)) : IsHint hint := by
  cases s with
  | nil => cases found
  | cons c s =>
      rw [returnType?] at found
      split at found
      · cases found
      · split at found
        · exact isHint_of_qualified? found
        · cases found

/-- A pass that looks for hints behind a signature yields hints. -/
theorem isHint_of_signature? {name : List Char → Option (List Char)} {m : Recognizer (List Char)}
    (yields : ∀ s hint rest, m s = some (hint, rest) → IsHint hint) {s hint rest : List Char}
    (found : (signature? name s).bind (leftmost? m) = some (hint, rest)) : IsHint hint := by
  obtain ⟨list, -, first⟩ := Option.bind_eq_some_iff.1 found
  obtain ⟨u, -, reads⟩ := exists_of_leftmost? first
  exact yields u hint rest reads

theorem isHint_of_propertyHint? {s hint rest : List Char}
    (found : propertyHint? s = some (hint, rest)) : IsHint hint := by
  simp only [propertyHint?, Option.bind_eq_some_iff] at found
  obtain ⟨_, -, _, -, typed⟩ := found
  exact isHint_of_typedVariable? typed

/-- Every name of the type hints is one or more words with a backslash before each. -/
theorem isHint_of_mem_hintsOf {content hint : List Char} (member : hint ∈ hintsOf content) :
    IsHint hint := by
  simp only [hintsOf, List.flatMap_cons, List.flatMap_nil, List.append_nil, List.mem_append]
    at member
  rcases member with parameter | result | constructor | property
  · exact forall_mem_every (m := parameterHint?)
      (fun _ _ _ => isHint_of_signature? fun _ _ _ => isHint_of_typedParameter?) hint parameter
  · exact forall_mem_every (m := returnHint?)
      (fun _ _ _ => isHint_of_signature? fun _ _ _ => isHint_of_returnType?) hint result
  · exact forall_mem_every (m := constructorHint?)
      (fun _ _ _ => isHint_of_signature? fun _ _ _ => isHint_of_typedParameter?) hint constructor
  · exact forall_mem_every (m := propertyHint?)
      (fun _ _ _ => isHint_of_propertyHint?) hint property

theorem IsHint.ne_nil {hint : List Char} (isHint : IsHint hint) : hint ≠ [] := by
  obtain ⟨rest, rfl⟩ := isHint.starts
  simp

/-! ## Paths -/

theorem strip_path_of_mem_importsOf {content : List Char} {i : Import}
    (member : i ∈ importsOf content) : strip i.path = i.path := by
  obtain ⟨text, -, rfl⟩ := List.mem_map.1 member
  rw [Import.parse]
  split
  · exact (trimmed_trim _).strip_ofList
  · exact (trimmed_trim _).strip_ofList

namespace Dependencies

/-! ## The list and the index -/

theorem trimmed_of_mem_cleaned {names : List String} {name : String}
    (member : name ∈ cleaned names) : name ≠ "" ∧ Trimmed name.toList := by
  rw [cleaned, List.mem_filter, List.mem_map] at member
  obtain ⟨⟨given, -, rfl⟩, nonempty⟩ := member
  refine ⟨by simpa using nonempty, ?_⟩
  rw [strip, String.toList_ofList]
  exact trimmed_trim given.toList

theorem cleaned_append (names more : List String) :
    cleaned (names ++ more) = cleaned names ++ cleaned more := by
  simp [cleaned]

theorem cleaned_of_clean {names : List String} (clean : ∀ name ∈ names, strip name = name) :
    cleaned names = names.filter fun name => !name.isEmpty := by
  rw [cleaned, List.map_congr_left clean, List.map_id']

theorem toList_insert (d : Dependencies) (name : String) :
    (d.insert name).toList = if d.isNew name then d.toList ++ [strip name] else d.toList := by
  rw [insert]
  split
  · simp [toList]
  · rfl

theorem insert_of_not_isNew {d : Dependencies} {name : String} (known : d.isNew name = false) :
    d.insert name = d := by
  simp [insert, known]

theorem isNew_ofList_iff {names : List String} {name : String} :
    (ofList names).isNew name = true ↔ strip name ≠ "" ∧ strip name ∉ (ofList names).toList := by
  rw [mem_toList_ofList]
  simp [isNew]

theorem toList_dependenciesOf (content : List Char) :
    (dependenciesOf content).toList =
      (cleaned ((importsOf content).map (·.path))).eraseDups ++
        (((hintsOf content).map String.ofList).removeAll
          (cleaned ((importsOf content).map (·.path)))).eraseDups := by
  have hints : cleaned ((hintsOf content).map String.ofList) =
      (hintsOf content).map String.ofList := by
    rw [cleaned_of_clean, List.filter_eq_self]
    · rintro _ member
      obtain ⟨hint, found, rfl⟩ := List.mem_map.1 member
      simpa using (isHint_of_mem_hintsOf found).ne_nil
    · rintro _ member
      obtain ⟨hint, found, rfl⟩ := List.mem_map.1 member
      exact (isHint_of_mem_hintsOf found).strip_eq
  rw [dependenciesOf, (ofList_spec _).1, cleaned_append, List.eraseDups_append, hints]

end Dependencies

/-- Names are inserted one after the other, none being there at first. The list holds them trimmed,
each once, in the order they were first given and without the empty ones, and the index holds the
same names. A name is added exactly if it is not empty and not there, else nothing changes. So what
a text depends on is first the paths of its imports, then the other names of its type hints. -/
theorem dependencies_in_step (names : List String) :
    let d := names.foldl Dependencies.insert .empty
    d.toList = ((names.map strip).filter fun name => !name.isEmpty).eraseDups ∧
      d.toList.Nodup ∧
      (∀ name ∈ d.toList, name ≠ "" ∧ Trimmed name.toList) ∧
      (∀ name, d.contains name = true ↔ name ∈ d.toList) ∧
      (∀ name,
        (d.isNew name = true ↔ strip name ≠ "" ∧ strip name ∉ d.toList) ∧
        (d.insert name).toList = (if d.isNew name then d.toList ++ [strip name] else d.toList) ∧
        (d.isNew name = false → d.insert name = d)) ∧
      ∀ content : List Char,
        let paths := ((importsOf content).map (·.path)).filter fun path => !path.isEmpty
        (dependenciesOf content).toList =
          paths.eraseDups ++ (((hintsOf content).map String.ofList).removeAll paths).eraseDups := by
  intro d
  have isList : d = Dependencies.ofList names := rfl
  rw [isList]
  refine ⟨(Dependencies.ofList_spec names).1, Dependencies.nodup_toList_ofList names, ?_,
    fun name => (Dependencies.mem_toList_ofList names name).symm, fun name => ⟨?_, ?_, ?_⟩, ?_⟩
  · intro name member
    rw [(Dependencies.ofList_spec names).1, List.mem_eraseDups] at member
    exact Dependencies.trimmed_of_mem_cleaned member
  · exact Dependencies.isNew_ofList_iff
  · exact Dependencies.toList_insert _ name
  · exact Dependencies.insert_of_not_isNew
  · intro content paths
    have clean : Dependencies.cleaned ((importsOf content).map (·.path)) = paths := by
      refine Dependencies.cleaned_of_clean fun path member => ?_
      obtain ⟨i, found, rfl⟩ := List.mem_map.1 member
      exact strip_path_of_mem_importsOf found
    rw [Dependencies.toList_dependenciesOf, clean]

end Layering.Source
