import Layering.Config.Loading
import Layering.Proofs.Yaml.WellFormed
import Layering.Proofs.Yaml.Merge

/-!
# What reading a structure found

A structure is read entry by entry; `decodeFields_cons_eq_ok` says what one entry can do. So a
structure that was read has each of its names at most once, and each of its fields comes from the
value under the field's name, or else is what it was at the start. Of a table, the last entry
under a name counts. Reading does not see whether empty mappings stand for null:
`decode_normalize`.
-/

namespace Layering.Config

open Yaml

section Except

variable {ε α β : Type}

theorem bind_eq_ok {x : Except ε α} {f : α → Except ε β} {b : β} :
    (x >>= f) = .ok b ↔ ∃ a, x = .ok a ∧ f a = .ok b := by
  cases x <;> simp [bind, Except.bind]

theorem pure_eq_ok {a b : α} : (pure a : Except ε α) = .ok b ↔ a = b := by
  simp [pure, Except.pure]

theorem forM_eq_ok {f : α → Except ε Unit} {xs : List α} :
    xs.forM f = .ok () ↔ ∀ x ∈ xs, f x = .ok () := by
  induction xs with
  | nil => simp [List.forM, pure, Except.pure]
  | cons x xs ih =>
      change (f x >>= fun _ => xs.forM f) = .ok () ↔ _
      rw [bind_eq_ok, List.forall_mem_cons, ih]
      constructor
      · rintro ⟨⟨⟩, first, rest⟩
        exact ⟨first, rest⟩
      · rintro ⟨first, rest⟩
        exact ⟨(), first, rest⟩

end Except

/-! ## Entry by entry -/

section Fields

variable {σ : Type} {known : List String} {set : σ → String → Value → Decoded σ}

/-- An entry under an unknown name is passed over; one under a known name sets its field, unless
the name was there before. -/
theorem decodeFields_cons_eq_ok {seen : List String} {s : σ} {key value : Value} {rest : Entries}
    {r : σ × List String} :
    decodeFields known set seen s ((key, value) :: rest) = .ok r ↔
      ∃ name, key.name? = some name ∧
        (name ∉ known ∧ decodeFields known set seen s rest = .ok r ∨
          name ∈ known ∧ name ∉ seen ∧ ∃ s', set s name value = .ok s' ∧
            decodeFields known set (name :: seen) s' rest = .ok r) := by
  rw [decodeFields, Value.name?]
  cases text : key.untagged with
  | string name =>
      by_cases isKnown : name ∈ known
      · by_cases isSeen : name ∈ seen
        · simp [Value.string?, isKnown, isSeen]
        · cases step : set s name value with
          | ok s' => simp [Value.string?, isKnown, isSeen, step]
          | error fault => simp [Value.string?, isKnown, isSeen, step]
      · simp [Value.string?, isKnown]
  | _ => simp [Value.string?]

theorem decodeFields_nil_eq_ok {seen : List String} {s : σ} {r : σ × List String} :
    decodeFields known set seen s [] = .ok r ↔ r = (s, seen) := by
  rw [decodeFields, Except.ok.injEq, eq_comm]

/-- After reading, the known names are those that were there before or stand in the entries. -/
theorem mem_seen_of_decodeFields {name : String} (isKnown : name ∈ known) {seen : List String} {s : σ}
    {entries : Entries} {r : σ × List String}
    (done : decodeFields known set seen s entries = .ok r) :
    name ∈ r.2 ↔ name ∈ seen ∨ entries.named? name ≠ none := by
  induction entries generalizing seen s with
  | nil => simp [decodeFields_nil_eq_ok.1 done, Entries.named?]
  | cons e rest ih =>
      obtain ⟨key, value⟩ := e
      obtain ⟨other, called, passed | ⟨-, -, s', -, later⟩⟩ := decodeFields_cons_eq_ok.1 done
      · have different : key.name? ≠ some name := by
          rw [called]
          rintro ⟨rfl⟩
          exact passed.1 isKnown
        simp [ih passed.2, Entries.named?, different]
      · rw [ih later, List.mem_cons]
        by_cases same : other = name
        · subst same
          simp [Entries.named?, called]
        · have different : key.name? ≠ some name := by
            rw [called]
            exact fun equal => same (Option.some.inj equal)
          simp [Entries.named?, different, Ne.symm same]

theorem named?_eq_none_of_seen {name : String} (isKnown : name ∈ known) {seen : List String} {s : σ}
    {entries : Entries} {r : σ × List String}
    (done : decodeFields known set seen s entries = .ok r) (isSeen : name ∈ seen) :
    entries.named? name = none := by
  induction entries generalizing seen s with
  | nil => rfl
  | cons e rest ih =>
      obtain ⟨key, value⟩ := e
      have different : key.name? ≠ some name := by
        intro called
        obtain ⟨other, called', passed | ⟨-, unseen, -⟩⟩ := decodeFields_cons_eq_ok.1 done
        · rw [called, Option.some.injEq] at called'
          exact passed.1 (called' ▸ isKnown)
        · rw [called, Option.some.injEq] at called'
          exact unseen (called' ▸ isSeen)
      obtain ⟨other, -, passed | ⟨-, -, s', -, later⟩⟩ := decodeFields_cons_eq_ok.1 done
      · simp [Entries.named?, different, ih passed.2 isSeen]
      · simp [Entries.named?, different, ih later (List.mem_cons_of_mem _ isSeen)]

theorem uniqueName_of_decodeFields {name : String} (isKnown : name ∈ known) {seen : List String} {s : σ}
    {entries : Entries} {r : σ × List String}
    (done : decodeFields known set seen s entries = .ok r) : entries.UniqueName name := by
  induction entries generalizing seen s with
  | nil => exact .nil
  | cons e rest ih =>
      obtain ⟨key, value⟩ := e
      obtain ⟨other, called, passed | ⟨-, -, s', -, later⟩⟩ := decodeFields_cons_eq_ok.1 done
      · refine List.pairwise_cons.2 ⟨?_, ih passed.2⟩
        rintro e' - ⟨called', -⟩
        rw [called, Option.some.injEq] at called'
        exact passed.1 (called' ▸ isKnown)
      · refine List.pairwise_cons.2 ⟨?_, ih later⟩
        rintro e' member ⟨called', again⟩
        rw [called, Option.some.injEq] at called'
        have absent := named?_eq_none_of_seen isKnown later (called' ▸ List.mem_cons_self)
        exact Entries.named?_eq_none_iff.1 absent e' member again

/-- A field `get` that only entries under `name` set, to something that `Reads` their value: it
comes from the value under the name, or is what it was. -/
theorem field_of_decodeFields {β : Type} {name : String} (get : σ → β) (Reads : Value → β → Prop)
    (isKnown : name ∈ known)
    (sets : ∀ s v s', set s name v = .ok s' → Reads v (get s'))
    (keeps : ∀ s other v s', other ≠ name → set s other v = .ok s' → get s' = get s)
    {seen : List String} {s : σ} {entries : Entries} {r : σ × List String}
    (done : decodeFields known set seen s entries = .ok r) :
    match entries.named? name with
    | some v => Reads v (get r.1)
    | none => get r.1 = get s := by
  induction entries generalizing seen s with
  | nil => simp [decodeFields_nil_eq_ok.1 done, Entries.named?]
  | cons e rest ih =>
      obtain ⟨key, value⟩ := e
      obtain ⟨other, called, passed | ⟨-, -, s', step, later⟩⟩ := decodeFields_cons_eq_ok.1 done
      · have different : key.name? ≠ some name := by
          rw [called]
          rintro ⟨rfl⟩
          exact passed.1 isKnown
        simpa [Entries.named?, different] using ih passed.2
      · by_cases same : other = name
        · subst same
          have absent := named?_eq_none_of_seen isKnown later List.mem_cons_self
          have kept := ih later
          rw [absent] at kept
          simp only [Entries.named?, absent, called, Option.none_or, if_true, kept]
          exact sets _ _ _ step
        · have different : key.name? ≠ some name := by
            rw [called]
            exact fun equal => same (Option.some.inj equal)
          have kept := ih later
          rw [keeps _ _ _ _ same step] at kept
          simpa [Entries.named?, different] using kept

theorem decodeStruct_eq_ok {expected : String} {start s : σ} {v : Value} :
    decodeStruct expected known start set v = .ok s ↔ ∃ entries seen,
      decodeEntries expected v = .ok entries ∧
        decodeFields known set [] start entries = .ok (s, seen) := by
  simp only [decodeStruct, bind_eq_ok, pure_eq_ok]
  constructor
  · rintro ⟨entries, read, ⟨s', seen⟩, done, rfl⟩
    exact ⟨entries, seen, read, done⟩
  · rintro ⟨entries, seen, read, done⟩
    exact ⟨entries, read, (s, seen), done, rfl⟩

theorem decodeFullStruct_eq_ok {expected : String} {start s : σ} {v : Value} :
    decodeFullStruct expected known start set v = .ok s ↔ ∃ entries seen,
      decodeEntries expected v = .ok entries ∧
        decodeFields known set [] start entries = .ok (s, seen) ∧ ∀ name ∈ known, name ∈ seen := by
  simp only [decodeFullStruct, bind_eq_ok]
  constructor
  · rintro ⟨entries, read, ⟨s', seen⟩, done, complete⟩
    cases missing : known.find? fun name => !seen.contains name with
    | some name => simp only [missing, reduceCtorEq] at complete
    | none =>
        simp only [missing, pure_eq_ok] at complete
        subst complete
        exact ⟨entries, seen, read, done, by simpa using missing⟩
  · rintro ⟨entries, seen, read, done, complete⟩
    have found : known.find? (fun name => !seen.contains name) = none := by simpa using complete
    exact ⟨entries, read, (s, seen), done, by simp only [found, pure_eq_ok]⟩

end Fields

/-! ## Tables and families -/

theorem get?_of_decodeTableEntries (name : String) {t t' : Table Options} {entries : Entries}
    (read : decodeTableEntries t entries = .ok t') :
    match entries.named? name with
    | some v => ∃ options, decodeOptions v = .ok options ∧ t'.get? name = some options
    | none => t'.get? name = t.get? name := by
  induction entries generalizing t with
  | nil =>
      rw [decodeTableEntries, Except.ok.injEq] at read
      simp [Entries.named?, read]
  | cons e rest ih =>
      obtain ⟨key, value⟩ := e
      simp only [decodeTableEntries, bind_eq_ok] at read
      obtain ⟨other, keyRead, options, valueRead, later⟩ := read
      have called : key.name? = some other := by
        rw [decodeString] at keyRead
        rw [Value.name?]
        split at keyRead
        · rename_i text
          rw [text]
          cases keyRead
          rfl
        · cases keyRead
      have result := ih later
      rw [Entries.named?]
      cases found : Entries.named? name rest with
      | some v => simpa [found] using result
      | none =>
          simp only [found, Table.get?_insert] at result
          by_cases same : other = name
          · subst same
            simp only [if_true] at result
            simpa [called] using ⟨options, valueRead, result⟩
          · simp only [same, if_false] at result
            simpa [called, same] using result

theorem of_decodeTable (name : String) {v : Value} {t : Table Options} (read : decodeTable v = .ok t) :
    ∃ entries, decodeEntries "a map" v = .ok entries ∧
      match entries.named? name with
      | some w => ∃ options, decodeOptions w = .ok options ∧ t.get? name = some options
      | none => t.get? name = none := by
  obtain ⟨entries, isMapping, done⟩ := bind_eq_ok.1 read
  exact ⟨entries, isMapping, get?_of_decodeTableEntries name done⟩

theorem FamilySettings.of_decode {v : Value} {s : FamilySettings}
    (read : FamilySettings.decode v = .ok s) :
    ∃ entries, decodeEntries "struct FamilyConfig" v = .ok entries ∧
      entries.UniqueName "config" ∧
      (match entries.named? "config" with
        | some w => decodeOptions w = .ok s.options
        | none => s.options = {}) ∧
      (match entries.named? "rules" with
        | some w => decodeTable w = .ok s.rules
        | none => s.rules = .empty) := by
  obtain ⟨entries, seen, isMapping, done⟩ := decodeStruct_eq_ok.1 read
  refine ⟨entries, isMapping, uniqueName_of_decodeFields (by simp) done, ?_, ?_⟩
  · refine field_of_decodeFields FamilySettings.options (fun w o => decodeOptions w = .ok o)
      (by simp) ?_ ?_ done
    · intro s v s' step
      obtain ⟨o, read, equal⟩ := bind_eq_ok.1 step
      rw [pure_eq_ok] at equal
      rw [read, ← equal]
    · intro s other v s' different step
      split at step
      all_goals first
        | exact absurd rfl different
        | simp only [bind_eq_ok, pure_eq_ok, Except.ok.injEq] at step
      all_goals grind
  · refine field_of_decodeFields FamilySettings.rules (fun w t => decodeTable w = .ok t)
      (by simp) ?_ ?_ done
    · intro s v s' step
      obtain ⟨t, read, equal⟩ := bind_eq_ok.1 step
      rw [pure_eq_ok] at equal
      rw [read, ← equal]
    · intro s other v s' different step
      split at step
      all_goals first
        | exact absurd rfl different
        | simp only [bind_eq_ok, pure_eq_ok, Except.ok.injEq] at step
      all_goals grind

theorem family_modifyFamily (c : Config) (f g : Family) (change : FamilySettings → FamilySettings) :
    (c.modifyFamily f change).family g = if f = g then change (c.family g) else c.family g := by
  cases f <;> cases g <;> rfl

theorem ofKey?_eq_some_iff {name : String} {f : Family} :
    Family.ofKey? name = some f ↔ name = f.key := by
  constructor
  · intro found
    have key := List.find?_some found
    exact (beq_iff_eq.1 key).symm
  · rintro rfl
    cases f <;> rfl

/-- The settings of each family come from the value under its key. -/
theorem of_decodeAnalyzers (f : Family) {c c' : Config} {v : Value}
    (read : decodeAnalyzers c v = .ok c') :
    ∃ entries settings, decodeEntries "struct AnalyzersConfig" v = .ok entries ∧
      entries.UniqueName f.key ∧ entries.named? f.key = some settings ∧
      FamilySettings.decode settings = .ok (c'.family f) := by
  obtain ⟨entries, seen, isMapping, done, complete⟩ := decodeFullStruct_eq_ok.1 read
  have isKnown : f.key ∈ Family.all.map Family.key := by cases f <;> simp [Family.all]
  have field := field_of_decodeFields (fun c => c.family f)
    (fun v s => FamilySettings.decode v = .ok s) isKnown ?_ ?_ done
  · have present := (mem_seen_of_decodeFields isKnown done).1 (complete _ isKnown)
    cases found : entries.named? f.key with
    | none => simp [found] at present
    | some settings =>
        rw [found] at field
        exact ⟨entries, settings, isMapping, uniqueName_of_decodeFields isKnown done, found, field⟩
  · intro c v c' step
    simp only [ofKey?_eq_some_iff.2 (Eq.refl f.key), bind_eq_ok, pure_eq_ok] at step
    obtain ⟨s, read, rfl⟩ := step
    simp [read, family_modifyFamily]
  · intro c other v c' different step
    cases found : Family.ofKey? other with
    | none =>
        simp only [found, Except.ok.injEq] at step
        rw [step]
    | some g =>
        simp only [found, bind_eq_ok, pure_eq_ok] at step
        obtain ⟨s, -, rfl⟩ := step
        have apart : g ≠ f := by
          rintro rfl
          exact different (ofKey?_eq_some_iff.1 found)
        simp [family_modifyFamily, apart]

/-- The settings of all families come from the value under `analyzers`. -/
theorem of_decode {v : Value} {c : Config} (read : decode v = .ok c) :
    ∃ entries analyzers, decodeEntries "struct GuardianConfig" v = .ok entries ∧
      entries.UniqueName "analyzers" ∧ entries.named? "analyzers" = some analyzers ∧
      ∃ before after, decodeAnalyzers before analyzers = .ok after ∧ c.family = after.family := by
  obtain ⟨entries, seen, isMapping, done, complete⟩ := decodeFullStruct_eq_ok.1 read
  have isKnown : "analyzers" ∈ ["version", "analyzers", "paths", "report"] := by simp
  have field := field_of_decodeFields Config.family
    (fun v families => ∃ before after, decodeAnalyzers before v = .ok after ∧
      families = after.family) isKnown ?_ ?_ done
  · have present := (mem_seen_of_decodeFields isKnown done).1 (complete _ isKnown)
    cases found : entries.named? "analyzers" with
    | none => simp [found] at present
    | some analyzers =>
        rw [found] at field
        exact ⟨entries, analyzers, isMapping, uniqueName_of_decodeFields isKnown done, found, field⟩
  · intro c v c' step
    exact ⟨c, c', step, rfl⟩
  · intro c other v c' different step
    split at step
    all_goals first
      | exact absurd rfl different
      | simp only [bind_eq_ok, pure_eq_ok, Except.ok.injEq] at step
    · obtain ⟨version, -, rfl⟩ := step
      rfl
    · obtain ⟨paths, -, rfl⟩ := step
      rfl
    · obtain ⟨report, -, rfl⟩ := step
      rfl
    · rw [step]

/-! ## Null and empty mappings -/

theorem decodeEntries_onEntries (expected : String) {f : Entries → Entries} (empty : f [] = []) :
    ∀ v : Value, decodeEntries expected (onEntries f v) = (decodeEntries expected v).map f
  | .tagged tag v => decodeEntries_onEntries expected empty v
  | .mapping entries => rfl
  | .null => by simp [onEntries, decodeEntries, Value.untagged, Except.map, empty]
  | .bool _ | .int _ | .float _ | .string _ | .sequence _ => rfl

theorem decodeEntries_fillIn (expected : String) (v : Value) :
    decodeEntries expected (fillIn v) = decodeEntries expected v := by
  cases text : v.untagged with
  | null => simp [fillIn, decodeEntries, text, Value.untagged]
  | _ => simp [fillIn, text]

section Fields

variable {σ : Type} {known : List String} {set : σ → String → Value → Decoded σ}

theorem decodeFields_modify {name : String} {g : Value → Value}
    (same : ∀ s v, set s name (g v) = set s name v) (seen : List String) (s : σ)
    (entries : Entries) :
    decodeFields known set seen s (Entries.modify name g entries) =
      decodeFields known set seen s entries := by
  induction entries generalizing seen s with
  | nil => rfl
  | cons e rest ih =>
      obtain ⟨key, value⟩ := e
      cases equal : key.same (.string name) with
      | true =>
          obtain rfl := Value.same_string_right.1 equal
          simp [Entries.modify, decodeFields, Value.untagged, same]
      | false => simp only [Entries.modify, equal, decodeFields, ih, Bool.false_eq_true, if_false]

theorem decodeFields_mapValues {g : Value → Value}
    (same : ∀ s name v, set s name (g v) = set s name v) (seen : List String) (s : σ)
    (entries : Entries) :
    decodeFields known set seen s (Entries.mapValues g entries) =
      decodeFields known set seen s entries := by
  induction entries generalizing seen s with
  | nil => rfl
  | cons e rest ih =>
      simp only [Entries.mapValues] at ih
      simp only [Entries.mapValues, List.map_cons, decodeFields, ih, same]

end Fields

theorem decodeOptions_fillIn (v : Value) : decodeOptions (fillIn v) = decodeOptions v := by
  rw [decodeOptions, decodeEntries_fillIn, decodeOptions]

theorem decodeTable_normalizeTable (v : Value) : decodeTable (normalizeTable v) = decodeTable v := by
  have each (t : Table Options) (entries : Entries) :
      decodeTableEntries t (Entries.mapValues fillIn entries) = decodeTableEntries t entries := by
    induction entries generalizing t with
    | nil => rfl
    | cons e rest ih =>
        simp only [Entries.mapValues] at ih
        simp only [Entries.mapValues, List.map_cons, decodeTableEntries, decodeOptions_fillIn, ih]
  rw [decodeTable, normalizeTable, decodeEntries_onEntries _ rfl, decodeEntries_fillIn, decodeTable]
  cases decodeEntries "a map" v with
  | error fault => rfl
  | ok entries => exact each .empty entries

theorem FamilySettings.decode_normalizeFamily (v : Value) :
    FamilySettings.decode (normalizeFamily v) = FamilySettings.decode v := by
  rw [FamilySettings.decode, decodeStruct, normalizeFamily, decodeEntries_onEntries _ rfl,
    decodeStruct]
  cases decodeEntries "struct FamilyConfig" v with
  | error fault => rfl
  | ok entries =>
      simp only [Except.map, bind, Except.bind]
      rw [decodeFields_modify, decodeFields_modify, decodeFields_modify]
      · exact fun s v => by simp only [decodeOptions_fillIn]
      · exact fun s v => by simp only [decodeTable_normalizeTable]
      · exact fun s v => by simp only [decodeTable_normalizeTable]

theorem decodeAnalyzers_normalize (c : Config) (v : Value) :
    decodeAnalyzers c (onEntries (Entries.mapValues normalizeFamily) v) = decodeAnalyzers c v := by
  rw [decodeAnalyzers, decodeFullStruct, decodeEntries_onEntries _ rfl, decodeFullStruct]
  cases decodeEntries "struct AnalyzersConfig" v with
  | error fault => rfl
  | ok entries =>
      simp only [Except.map, bind, Except.bind]
      rw [decodeFields_mapValues]
      exact fun c name v => by simp only [FamilySettings.decode_normalizeFamily]

/-- A structure, a table or the options of a rule read null as an empty mapping anyway. -/
theorem decode_normalize (v : Value) : decode (normalize v) = decode v := by
  rw [decode, decodeFullStruct, normalize, decodeEntries_onEntries _ rfl, decodeFullStruct]
  cases decodeEntries "struct GuardianConfig" v with
  | error fault => rfl
  | ok entries =>
      simp only [Except.map, bind, Except.bind]
      rw [decodeFields_modify]
      exact fun c v => by simp only [decodeAnalyzers_normalize]

theorem ofDocument_mapping_eq_ok {entries : Entries} {c : Config} :
    ofDocument (.mapping entries) = .ok c ↔
      decode (merge default.encode (.mapping entries)) = .ok c ∧ c.validate = .ok () := by
  simp only [ofDocument, decode_normalize, bind_eq_ok, Except.ok.injEq, exists_eq_left']
  cases decode (merge default.encode (.mapping entries)) with
  | error fault => simp
  | ok d =>
      simp only [bind_eq_ok, pure_eq_ok, Except.ok.injEq]
      constructor
      · rintro ⟨⟨⟩, valid, rfl⟩
        exact ⟨rfl, valid⟩
      · rintro ⟨rfl, valid⟩
        exact ⟨(), valid, rfl⟩

/-- A document is a mapping, or null for one without entries. -/
theorem ofDocument_eq_ok {document : Value} {c : Config} :
    ofDocument document = .ok c ↔
      ∃ entries, (document = .mapping entries ∨ document = .null ∧ entries = []) ∧
        decode (merge default.encode (.mapping entries)) = .ok c ∧ c.validate = .ok () := by
  cases document with
  | null =>
      have same : ofDocument .null = ofDocument (.mapping []) := rfl
      rw [same, ofDocument_mapping_eq_ok]
      simp
  | mapping entries =>
      rw [ofDocument_mapping_eq_ok]
      simp
  | _ => simp [ofDocument, bind, Except.bind]

end Layering.Config
