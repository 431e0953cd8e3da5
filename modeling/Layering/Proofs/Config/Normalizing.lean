import Layering.Proofs.Config.Overriding
import Layering.Proofs.Yaml.Difference

/-!
# Rules without a body

A document may leave out the body of a table of rules, or of an entry in one. It is loaded as if
the body were an empty mapping: `ofDocument_of_filled`. What normalizing does to a document it does
once and for all, and only in some sections of the families.
-/

namespace Layering.Config

open Yaml Entries

/-! ## Inside tags -/

section

variable {F : Entries → Entries} {keys : Value → Prop} {R : Value → Value → Prop} {v w : Value}

theorem onEntries_onEntries (twice : ∀ es, F (F es) = F es) :
    ∀ v : Value, onEntries F (onEntries F v) = onEntries F v
  | .tagged tag v => congrArg (Value.tagged tag) (onEntries_onEntries twice v)
  | .mapping es => congrArg Value.mapping (twice es)
  | .null | .bool _ | .int _ | .float _ | .string _ | .sequence _ => rfl

theorem onEntries_of_differs (wellFormed : v.WellFormed)
    (agree : ∀ es fs : Entries, es.DistinctKeys →
      List.Forall₂ (EntryDiffers keys fun v w => v.WellFormed ∧ R v w) es fs → F fs = F es)
    (differ : DiffersUnder keys R v w) : onEntries F w = onEntries F v := by
  induction differ with
  | refl => rfl
  | @mapping es fs entries =>
      have same := agree es fs wellFormed.distinctKeys (differs_of_wellFormed wellFormed entries)
      exact congrArg Value.mapping same
  | tagged tag _ ih => exact congrArg (Value.tagged tag) (ih wellFormed)

theorem differs_onEntries (changed : ∀ es, List.Forall₂ (EntryDiffers keys R) es (F es)) :
    ∀ v : Value, DiffersUnder keys R v (onEntries F v)
  | .tagged tag v => .tagged tag (differs_onEntries changed v)
  | .mapping es => .mapping (changed es)
  | .null | .bool _ | .int _ | .float _ | .string _ | .sequence _ => .refl _

theorem untagged_of_differs (differ : DiffersUnder keys R v w) :
    w.untagged = .null ↔ v.untagged = .null := by
  induction differ with
  | refl => rfl
  | mapping => simp [Value.untagged]
  | tagged _ _ ih => exact ih

end

theorem fillIn_of_null {v : Value} (null : v.untagged = .null) : fillIn v = .mapping [] := by
  rw [fillIn, null]

theorem fillIn_of_ne_null {v : Value} (body : v.untagged ≠ .null) : fillIn v = v := by
  unfold fillIn
  split
  · contradiction
  · rfl

/-! ## Missing bodies -/

/-- An empty mapping in the place of null. -/
def Emptied (v w : Value) : Prop := v.untagged = .null ∧ w = .mapping []

/-- A table of rules with empty mappings in the place of null, as a whole or for some entries. -/
def TableFilled (v w : Value) : Prop := Emptied v w ∨ DiffersUnder (fun _ => True) Emptied v w

/-- The key of a table of rules. -/
def IsTable (key : Value) : Prop := key = .string "rules" ∨ key = .string "custom_rules"

def FamilyFilled (v w : Value) : Prop := DiffersUnder IsTable TableFilled v w

def AnalyzersFilled (v w : Value) : Prop := DiffersUnder (fun _ => True) FamilyFilled v w

/-- A document with empty mappings in the place of null for some tables of rules and entries. -/
def DocumentFilled (d d' : Value) : Prop :=
  DiffersUnder (· = .string "analyzers") AnalyzersFilled d d'

section

variable {v w : Value}

theorem fillIn_of_emptied (emptied : Emptied v w) : fillIn w = fillIn v := by
  rw [fillIn_of_null emptied.1, emptied.2]
  rfl

theorem normalizeTable_of_filled (filled : v.WellFormed ∧ TableFilled v w) :
    normalizeTable w = normalizeTable v := by
  unfold normalizeTable
  obtain ⟨wellFormed, emptied | differ⟩ := filled
  · rw [fillIn_of_emptied emptied]
  · by_cases null : v.untagged = .null
    · rw [fillIn_of_null null, fillIn_of_null ((untagged_of_differs differ).2 null)]
    · rw [fillIn_of_ne_null null, fillIn_of_ne_null (mt (untagged_of_differs differ).1 null)]
      apply onEntries_of_differs wellFormed _ differ
      intro es fs _ entries
      exact mapValues_of_differs (fun v w emptied => fillIn_of_emptied emptied.2) entries

theorem normalizeFamily_of_filled (filled : v.WellFormed ∧ FamilyFilled v w) :
    normalizeFamily w = normalizeFamily v := by
  apply onEntries_of_differs filled.1 _ filled.2
  intro es fs distinct entries
  -- Section by section, fewer keys are left under which the two sides differ.
  have config := modify_differs (g := fillIn) "config" IsTable entries distinct
    (fun k isTable _ => isTable) (by simp [IsTable])
  have rules := modify_differs "rules" (· = .string "custom_rules") config distinct.modify
    (fun k isTable other => isTable.resolve_left other) (fun _ _ _ => normalizeTable_of_filled)
  have custom := modify_differs "custom_rules" (fun _ => False) rules distinct.modify.modify
    (fun k named other => other named) (fun _ _ _ => normalizeTable_of_filled)
  exact eq_of_differs custom

theorem normalize_of_filled (filled : v.WellFormed ∧ DocumentFilled v w) :
    normalize w = normalize v := by
  apply onEntries_of_differs filled.1 _ filled.2
  intro es fs distinct entries
  have analyzers (v w : Value) (filled : v.WellFormed ∧ AnalyzersFilled v w) :
      onEntries (mapValues normalizeFamily) w = onEntries (mapValues normalizeFamily) v := by
    apply onEntries_of_differs filled.1 _ filled.2
    intro es fs _ entries
    exact mapValues_of_differs (fun _ _ => normalizeFamily_of_filled) entries
  have same := modify_differs "analyzers" (fun _ => False) entries distinct
    (fun k named other => other named) (fun _ => analyzers)
  exact eq_of_differs same

end

/-! ## Loading -/

/-- The defaults have no table of rules that a document's table would be merged over. -/
theorem FamilyFilled.over_defaults (f : Family) {v w : Value} (wellFormed : v.WellFormed)
    (filled : FamilyFilled v w) :
    FamilyFilled (merge (default.family f).encode v) (merge (default.family f).encode w) := by
  apply DiffersUnder.merge _ (encode_default_family_wellFormed f) wellFormed _ filled
  · rintro a b same (rfl | rfl)
    · exact .inl (Value.same_string_left.1 same)
    · exact .inr (Value.same_string_left.1 same)
  · intro low k old a b base isTable found
    rw [encode_default_family, fields_eq, Value.mapping.injEq] at base
    rw [← base] at found
    rcases isTable with rfl | rfl <;> simp [get?] at found

theorem DocumentFilled.over_defaults {d d' : Value} (wellFormed : d.WellFormed)
    (filled : DocumentFilled d d') :
    DocumentFilled (merge default.encode d) (merge default.encode d') := by
  apply DiffersUnder.merge _ encode_default_wellFormed wellFormed _ filled
  · rintro a b same rfl
    exact Value.same_string_left.1 same
  · rintro root key analyzers v w base rfl found inside filled
    have lower : analyzers.WellFormed := by
      have whole := encode_default_wellFormed
      rw [base] at whole
      exact whole.get? found
    apply DiffersUnder.merge _ lower inside _ filled
    · exact fun _ _ _ _ => trivial
    · intro families key settings v w isFields _ found' inside filled
      have known : ∃ f, settings = (default.family f).encode := by
        cases base
        cases found
        cases isFields
        obtain ⟨e, member, -, rfl⟩ := mem_of_get? found'
        simp only [List.map_map, List.mem_map] at member
        obtain ⟨f, -, rfl⟩ := member
        exact ⟨f, rfl⟩
      obtain ⟨f, rfl⟩ := known
      exact FamilyFilled.over_defaults f inside filled

theorem ofDocument_of_filled {d d' : Value} (wellFormed : d.WellFormed)
    (filled : DocumentFilled d d') : ofDocument d' = ofDocument d := by
  have merged := normalize_of_filled
    ⟨encode_default_wellFormed.merge wellFormed, filled.over_defaults wellFormed⟩
  cases filled with
  | refl => rfl
  | tagged => rfl
  | mapping entries => simp only [ofDocument, bind, Except.bind, merged]

/-! ## Once and for all -/

theorem untagged_fillIn (v : Value) : (fillIn v).untagged ≠ .null := by
  by_cases null : v.untagged = .null
  · rw [fillIn_of_null null]
    exact Value.noConfusion
  · rw [fillIn_of_ne_null null]
    exact null

theorem fillIn_fillIn (v : Value) : fillIn (fillIn v) = fillIn v :=
  fillIn_of_ne_null (untagged_fillIn v)

theorem normalizeTable_normalizeTable (v : Value) :
    normalizeTable (normalizeTable v) = normalizeTable v := by
  have body : (normalizeTable v).untagged ≠ .null := by
    have inside : DiffersUnder (fun _ => True) (fun _ _ => True) (fillIn v) (normalizeTable v) :=
      differs_onEntries (differs_mapValues fun _ => trivial) (fillIn v)
    exact mt (untagged_of_differs inside).1 (untagged_fillIn v)
  rw [normalizeTable, fillIn_of_ne_null body]
  exact onEntries_onEntries (mapValues_mapValues fillIn_fillIn) (fillIn v)

theorem normalizeFamily_normalizeFamily (v : Value) :
    normalizeFamily (normalizeFamily v) = normalizeFamily v := by
  apply onEntries_onEntries
  intro es
  -- The sections do not get in each other's way, so equal steps can be brought together.
  rw [modify_comm (by decide : "config" ≠ "custom_rules"),
    modify_comm (by decide : "config" ≠ "rules"), modify_modify fillIn_fillIn,
    modify_comm (by decide : "rules" ≠ "custom_rules"), modify_modify normalizeTable_normalizeTable,
    modify_modify normalizeTable_normalizeTable]

theorem normalize_normalize (v : Value) : normalize (normalize v) = normalize v := by
  apply onEntries_onEntries
  apply modify_modify
  apply onEntries_onEntries
  exact mapValues_mapValues normalizeFamily_normalizeFamily

/-! ## Only in the sections -/

/-- The key of a section that is normalized. -/
def IsSection (key : Value) : Prop := key = .string "config" ∨ IsTable key

theorem normalizeFamily_differs (v : Value) :
    DiffersUnder IsSection (fun _ _ => True) v (normalizeFamily v) := by
  apply differs_onEntries
  intro es
  have step (name : String) (isSection : IsSection (.string name)) (g : Value → Value)
      (es : Entries) : List.Forall₂ (EntryDiffers IsSection fun _ _ => True) es
        (Entries.modify name g es) := differs_modify name isSection (fun _ => trivial) es
  refine differs_trans (step "config" (.inl rfl) fillIn es) ?_
  refine differs_trans (step "rules" (.inr (.inl rfl)) normalizeTable _) ?_
  exact step "custom_rules" (.inr (.inr rfl)) normalizeTable _

theorem normalize_differs (v : Value) :
    DiffersUnder (· = .string "analyzers")
      (DiffersUnder (fun _ => True) (DiffersUnder IsSection fun _ _ => True)) v (normalize v) := by
  apply differs_onEntries
  refine differs_modify "analyzers" rfl ?_
  apply differs_onEntries
  exact differs_mapValues normalizeFamily_differs

/-- A table of rules without a body, and an entry of one without a body, are loaded as empty
mappings: the configuration is the same, or the error. Normalizing twice is normalizing once, and
what differs afterwards stands in the options and the tables of rules of some family. -/
theorem missing_bodies_are_empty :
    (∀ d d' : Value, d.WellFormed → DocumentFilled d d' → ofDocument d' = ofDocument d) ∧
    (∀ (text text' : String) (d d' : Value), Yaml.parse? text = some d →
      Yaml.parse? text' = some d' → DocumentFilled d d' → load text' = load text) ∧
    (∀ v, normalize (normalize v) = normalize v) ∧
    ∀ v, DiffersUnder (· = .string "analyzers")
      (DiffersUnder (fun _ => True) (DiffersUnder IsSection fun _ _ => True)) v (normalize v) := by
  refine ⟨fun d d' => ofDocument_of_filled, ?_, normalize_normalize, normalize_differs⟩
  intro text text' d d' parsed parsed' filled
  rw [load_of_parse? parsed, load_of_parse? parsed']
  exact ofDocument_of_filled (parse?_wellFormed parsed) filled

/-- A body that is left out or written as an empty mapping. -/
def body (bare : Bool) : Value := if bare then .null else .mapping []

def isBody (bare : Bool) : Value → Bool
  | .null => bare
  | .mapping [] => !bare
  | _ => false

/-- A table with a rule, next to a table as a whole, all with bodies of a kind. -/
def outline (bare : Bool) : Value :=
  .mapping [(.string "analyzers", .mapping [(.string "ddd", .mapping
    [(.string "rules", .mapping [(.string "ddd.domain_layer", body bare)]),
      (.string "custom_rules", body bare)])])]

/-- Whether a document has that outline. -/
def isOutline (bare : Bool) : Value → Bool
  | .mapping [(.string a, .mapping [(.string f, .mapping
      [(.string r, .mapping [(.string n, entry)]), (.string c, table)])])] =>
    a == "analyzers" && f == "ddd" && r == "rules" && n == "ddd.domain_layer" &&
      c == "custom_rules" && isBody bare entry && isBody bare table
  | _ => false

theorem eq_body {bare : Bool} {v : Value} (has : isBody bare v = true) : v = body bare := by
  rw [isBody.eq_def] at has
  split at has
  · rw [has, body, if_pos rfl]
  · rw [body, if_neg (by simpa using has)]
  · cases has

theorem eq_outline {bare : Bool} {d : Value} (has : isOutline bare d = true) :
    d = outline bare := by
  rw [isOutline.eq_def] at has
  split at has
  · simp only [Bool.and_eq_true, beq_iff_eq] at has
    obtain ⟨⟨⟨⟨⟨⟨rfl, rfl⟩, rfl⟩, rfl⟩, rfl⟩, entry⟩, table⟩ := has
    rw [eq_body entry, eq_body table, outline]
  · cases has

theorem outline_filled : DocumentFilled (outline true) (outline false) := by
  have rules : TableFilled (.mapping [(.string "ddd.domain_layer", body true)])
      (.mapping [(.string "ddd.domain_layer", body false)]) :=
    .inr (.mapping (.cons ⟨rfl, .inr ⟨trivial, rfl, rfl⟩⟩ .nil))
  have custom : TableFilled (body true) (body false) := .inl ⟨rfl, rfl⟩
  refine .mapping (.cons ⟨rfl, .inr ⟨rfl, ?_⟩⟩ .nil)
  refine .mapping (.cons ⟨rfl, .inr ⟨trivial, ?_⟩⟩ .nil)
  exact .mapping (.cons ⟨rfl, .inr ⟨.inl rfl, rules⟩⟩
    (.cons ⟨rfl, .inr ⟨.inr rfl, custom⟩⟩ .nil))

/-- The outline as text. -/
def outlineText (bare : Bool) : String :=
  let body := if bare then "" else " \x7b\x7d"
  "analyzers:\n  ddd:\n    rules:\n      ddd.domain_layer:" ++ body ++
    "\n    custom_rules:" ++ body ++ "\n"

theorem parse?_outlineText (bare : Bool) :
    Yaml.parse? (outlineText bare) = some (outline bare) := by
  have read : (Yaml.parse? (outlineText bare)).any (isOutline bare) = true := by
    unfold Yaml.parse? outlineText
    rw [Yaml.tokens?_eq]
    cases bare <;>
    · simp only [String.toList_append, if_true, if_false, Bool.false_eq_true]
      repeat rewrite [String.toList_ofList]
      decide +kernel
  obtain ⟨d, parsed, has⟩ := (Option.any_eq_true ..).1 read
  rw [parsed, eq_outline has]

theorem missing_bodies_of_outline :
    ofDocument (outline false) = ofDocument (outline true) ∧
    load (outlineText false) = load (outlineText true) ∧
    load (outlineText true) =
      .ok (default.apply (.override .ddd "ddd.domain_layer" .empty)) := by
  have parsed := parse?_outlineText true
  obtain ⟨documents, texts, -⟩ := missing_bodies_are_empty
  refine ⟨documents _ _ (parse?_wellFormed parsed) outline_filled, ?_, ?_⟩
  · exact texts _ _ _ _ parsed (parse?_outlineText false) outline_filled
  · rw [load_of_parse? parsed]
    refine ofDocument_eq_ok.2 ⟨_, .inl rfl, rfl, validate_of_default_paths rfl rfl ?_⟩
    intro f
    cases f <;> rfl

end Layering.Config
