import Layering.Proofs.Json.RoundTrip
import Layering.Violation

/-!
# Violations as JSON

A violation is read back from its JSON object, and so are the violations of a collection from the
text of their array, with their details in the same order. An object has a member for the details
only if there are any: `compact_reads_back`.
-/

namespace Layering

namespace Json

theorem keys_insert_of_present {key : String} {members : List (String × Json)}
    (present : key ∈ members.map (·.1)) (value : Json) :
    (insert key value members).map (·.1) = members.map (·.1) := by
  induction members with
  | nil => simp at present
  | cons m members ih =>
      by_cases same : m.1 = key
      · simp [insert, same]
      · have later := (List.mem_cons.1 present).resolve_left (Ne.symm same)
        simp [insert, same, ih later]

theorem mem_insert {key : String} {value : Json} {members : List (String × Json)}
    {m : String × Json}
    (member : m ∈ insert key value members) : m.2 = value ∨ m ∈ members := by
  induction members with
  | nil => simp_all [insert]
  | cons m' members ih =>
      rw [insert] at member
      split at member
      · rcases List.mem_cons.1 member with rfl | later
        · exact .inl rfl
        · exact .inr (List.mem_cons_of_mem _ later)
      · rcases List.mem_cons.1 member with rfl | later
        · exact .inr List.mem_cons_self
        · exact (ih later).imp_right (List.mem_cons_of_mem _)

end Json

namespace Violation

/-- The details have distinct names, and their values hold no doubles, integers of 64 bits only, and
nest at most 100 deep. -/
def Portable (v : Violation) : Prop :=
  (v.details.map (·.1)).Nodup ∧ ∀ detail ∈ v.details, detail.2.Within 100

theorem portable_of_no_details {v : Violation} (none : v.details = []) : v.Portable := by
  simp [Portable, none]

/-- Attaching details one by one keeps their names distinct. -/
theorem Portable.withDetail {v : Violation} (portable : v.Portable) (key : String) {value : Json}
    (within : value.Within 100) : (v.withDetail key value).Portable := by
  constructor
  · by_cases present : key ∈ v.details.map (·.1)
    · rw [Violation.withDetail, Json.keys_insert_of_present present]
      exact portable.1
    · rw [Violation.withDetail, Json.insert_of_absent present, List.map_append]
      simpa using portable.1.concat present
  · intro detail member
    rcases Json.mem_insert member with same | present
    · rwa [same]
    · exact portable.2 detail present

theorem ofJson?_toJson (v : Violation) : ofJson? v.toJson = some v := by
  obtain ⟨path, message, rule, severity, details⟩ := v
  have level : severity? (.int severity.level) = some severity := by
    cases severity <;> rfl
  cases details with
  | nil => simp [toJson, ofJson?, ofMembers?, stringMember?, level]
  | cons detail details => simp [toJson, ofJson?, ofMembers?, stringMember?, level, details?]

theorem Portable.within {v : Violation} (portable : v.Portable) : v.toJson.Within 102 := by
  have level : (Json.int v.severity.level).Within 101 := by
    rw [Json.within_int_iff]
    cases v.severity <;> decide
  have details : (Json.object v.details).Within 101 := portable
  rw [toJson]
  cases v.details.isEmpty with
  | true => exact ⟨by simp, by simp [Json.within_string, level]⟩
  | false => exact ⟨by simp, by simp [Json.within_string, level, details]⟩

end Violation

namespace Violations

theorem ofJson?_toJson (vs : Violations) : ofJson? vs.toJson = some vs := by
  rw [toJson, ofJson?, List.mapM_map]
  induction vs with
  | nil => rfl
  | cons v vs ih => simp [Violation.ofJson?_toJson, ih]

theorem toJson_within {vs : Violations} (portable : ∀ v ∈ vs, v.Portable) :
    vs.toJson.Within 103 := by
  intro item member
  obtain ⟨v, listed, rfl⟩ := List.mem_map.1 member
  exact (portable v listed).within

/-- The compact text of a collection reads back as the collection, its details in order. It spells
an array with one object for each violation, which has details if the violation has. -/
theorem compact_reads_back {vs : Violations} (portable : ∀ v ∈ vs, v.Portable) :
    (Json.parse? vs.toJson.compact).bind ofJson? = some vs ∧
      ∃ items, Json.parse? vs.toJson.compact = some (.array items) ∧
        List.Forall₂ (fun v item => ∃ members, item = .object members ∧
          ("details" ∈ members.map (·.1) ↔ v.details ≠ []) ∧
          Violation.ofMembers? members = some v) vs items := by
  have parsed : Json.parse? vs.toJson.compact = some vs.toJson :=
    Json.parse?_compact ((toJson_within portable).mono (by decide))
  refine ⟨by rw [parsed, Option.bind_some, ofJson?_toJson], _, parsed, ?_⟩
  refine List.forall₂_map_right_iff.2 (List.forall₂_same.2 fun v _ => ?_)
  refine ⟨_, rfl, ?_, v.ofJson?_toJson⟩
  cases empty : v.details with
  | nil => simp
  | cons detail details => simp

/-- A violation with a detail that was set twice, and one without details. -/
def awkward : Violations :=
  [({ path := "src/\"é\\\x01.php", message := "two\nlines\t%", rule := "ddd.π",
      severity := .critical } : Violation)
    |>.withDetail "limits" (.bool true)
    |>.withDetail "" (.object [("b", .null), ("a", .array []), ("\x0c", .object [])])
    |>.withDetail "limits" (.array [.int (-9223372036854775808), .int 18446744073709551615]),
    { path := "", message := "", rule := "", severity := .notice }]

theorem awkward_reads_back :
    (Json.parse? awkward.toJson.compact).bind ofJson? = some awkward := by
  refine (compact_reads_back ?_).1
  rw [awkward, List.forall_mem_cons, List.forall_mem_singleton]
  have start {v : Violation} (none : v.details = []) := Violation.portable_of_no_details none
  refine ⟨(((start rfl).withDetail _ ?_).withDetail _ ?_).withDetail _ ?_, start rfl⟩
  · simp [Json.Within]
  · simp [Json.Within]
  · simp [Json.Within]

end Violations

end Layering
