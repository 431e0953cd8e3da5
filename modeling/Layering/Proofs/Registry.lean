import Layering.Proofs.Policy.Name
import Layering.Registry
import Mathlib.Data.List.Nodup

/-!
# What a registry makes

`create_eq_ok_iff` says when a rule is created and which one, `create_eq_error_iff` when not and
why. For what is registered this depends on its name and the options alone:
`names_decide_creation`. A rule is pure when judging a file never cancels the run: what a registry
makes is as pure as its policies are, the built-in policies are pure, and `withoutTrips` makes any
policy pure without touching its verdicts. The built-in registry has each of its policies under the
policy's name: `get?_builtin`.
-/

namespace Layering

namespace Table

variable {α β : Type}

def map (g : α → β) (t : Table α) : Table β where
  entries := t.entries.map fun entry => (entry.1, g entry.2)
  ascending := List.pairwise_map.2 t.ascending

theorem get?_map (g : α → β) (t : Table α) (key : String) :
    (t.map g).get? key = (t.get? key).map g := by
  simp only [get?, map, List.find?_map, Option.map_map]
  rfl

theorem contains_eq_isSome (key : String) (t : Table α) :
    t.contains key = (t.get? key).isSome := by
  rw [contains, get?, Option.isSome_map, List.isSome_find?]

/-- The entries of a table that satisfy `keep`. -/
def filter (keep : String → α → Bool) (t : Table α) : Table α where
  entries := t.entries.filter fun entry => keep entry.1 entry.2
  ascending := t.ascending.filter _

theorem get?_foldl_insert (value : String → α) (keys : List String) (t : Table α) (name : String) :
    ((keys.map fun key => (key, value key)).foldl (fun t (k, v) => insert k v t) t).get? name =
      if name ∈ keys then some (value name) else t.get? name := by
  induction keys generalizing t with
  | nil => simp
  | cons key keys ih =>
      simp only [List.map_cons, List.foldl_cons, ih, get?_insert, List.mem_cons]
      by_cases later : name ∈ keys
      · simp [later]
      · by_cases same : key = name
        · simp [same]
        · simp [later, same, Ne.symm same]

theorem get?_ofList_map (value : String → α) (keys : List String) (name : String) :
    (ofList (keys.map fun key => (key, value key))).get? name =
      if name ∈ keys then some (value name) else none :=
  get?_foldl_insert value keys empty name

end Table

/-! ## Purity -/

/-- Judging a file never cancels the run, whatever the options. -/
def Policy.Pure (p : Policy) : Prop := ∀ options f, p.trips options f = false

def Rule.Pure (r : Rule) : Prop := ∀ f, r.trips f = false

def Registry.Pure (r : Registry) : Prop := ∀ entry ∈ r.policies.entries, entry.2.Pure

/-- The policy in a run that cannot be cancelled: same verdicts, no effect on the run. -/
def Policy.withoutTrips (p : Policy) : Policy := { p with trips := fun _ _ => false }

def Rule.withoutTrips (r : Rule) : Rule := { r with policy := r.policy.withoutTrips }

def Registry.withoutTrips (r : Registry) : Registry := ⟨r.policies.map Policy.withoutTrips⟩

@[simp] theorem Rule.check_withoutTrips (r : Rule) (f : Source) (ctx : Context) :
    r.withoutTrips.check f ctx = r.check f ctx := rfl

namespace Registry

theorem create_of_get?_none {r : Registry} {id : String} (absent : r.policies.get? id = none)
    (options : Options) : r.create id options = .error (.ruleNotFound id) := by
  simp only [create, instantiate, absent]
  rfl

theorem create_of_get? {r : Registry} {id : String} {p : Policy}
    (found : r.policies.get? id = some p) (options : Options) :
    r.create id options =
      if (Policy.splitName? p.name).isNone then .error (.invalidRule id (.name p.name))
      else match p.validate options with
        | .ok () => .ok { policy := p, options }
        | .error e => .error (refusal id e) := by
  simp only [create, instantiate, found]
  rfl

theorem create_eq_ok_iff (r : Registry) (id : String) (options : Options) (rule : Rule) :
    r.create id options = .ok rule ↔ ∃ p, r.policies.get? id = some p ∧
      (Policy.splitName? p.name).isSome ∧ p.validate options = .ok () ∧
      rule = { policy := p, options } := by
  cases found : r.policies.get? id with
  | none => simp [create_of_get?_none found]
  | some p =>
      rw [create_of_get? found]
      cases named : Policy.splitName? p.name with
      | none => simp [named]
      | some parts =>
          cases checked : p.validate options with
          | error e => simp [named, checked]
          | ok accepted => simpa [named, checked] using eq_comm

theorem exists_refusal_eq (id : String) (e : Error) :
    ∃ name fault, refusal id e = .invalidRule name fault := by
  cases e <;> exact ⟨_, _, rfl⟩

/-- Creation fails for want of a policy, for the name of the policy or for the options, looked at
in this order. -/
theorem create_eq_error_iff (r : Registry) (id : String) (options : Options) (e : Error) :
    r.create id options = .error e ↔
      r.policies.get? id = none ∧ e = .ruleNotFound id ∨
        ∃ p, r.policies.get? id = some p ∧
          (Policy.splitName? p.name = none ∧ e = .invalidRule id (.name p.name) ∨
            (Policy.splitName? p.name).isSome ∧
              ∃ refused, p.validate options = .error refused ∧ e = refusal id refused) := by
  cases found : r.policies.get? id with
  | none => simpa [create_of_get?_none found] using eq_comm
  | some p =>
      rw [create_of_get? found]
      cases named : Policy.splitName? p.name with
      | none => simpa [named] using eq_comm
      | some parts =>
          cases checked : p.validate options with
          | error refused => simpa [named, checked] using eq_comm
          | ok accepted => simp [named, checked]

/-- Nothing is registered under the id, or what is makes no rule that can be used. -/
theorem create_eq_error {r : Registry} {id : String} {options : Options} {e : Error}
    (failed : r.create id options = .error e) :
    r.contains id = false ∧ e = .ruleNotFound id ∨
      r.contains id = true ∧ ∃ name fault, e = .invalidRule name fault := by
  rw [contains, Table.contains_eq_isSome]
  rcases (create_eq_error_iff r id options e).1 failed with
    ⟨absent, missing⟩ | ⟨p, found, ⟨-, invalid⟩ | ⟨-, refused, -, invalid⟩⟩
  · exact .inl ⟨by rw [absent]; rfl, missing⟩
  · exact .inr ⟨by rw [found]; rfl, id, .name p.name, invalid⟩
  · exact .inr ⟨by rw [found]; rfl, invalid ▸ exists_refusal_eq id refused⟩

theorem instantiate_eq_ok_iff {r : Registry} {id : String} {fresh : Rule} :
    r.instantiate id = .ok fresh ↔
      ∃ p, r.policies.get? id = some p ∧ fresh = { policy := p } := by
  rw [instantiate]
  cases r.policies.get? id <;> simp [eq_comm]

/-- A rule is created from one that is registered, has a proper name and accepts the options. -/
theorem create_eq_ok_iff_configured {r : Registry} {id : String} {options : Options} {rule : Rule} :
    r.create id options = .ok rule ↔
      ∃ fresh, r.instantiate id = .ok fresh ∧ Policy.IsRuleName fresh.name ∧
        (fresh.configure options).validate = .ok () ∧ rule = fresh.configure options := by
  simp only [create_eq_ok_iff, instantiate_eq_ok_iff, Policy.splitName?_isSome_iff]
  constructor
  · rintro ⟨p, found, named, accepted, rfl⟩
    exact ⟨_, ⟨p, found, rfl⟩, named, accepted, rfl⟩
  · rintro ⟨_, ⟨p, found, rfl⟩, named, accepted, rfl⟩
    exact ⟨p, found, named, accepted, rfl⟩

/-- A rule's name splits into a family and a policy when it is these with a dot between them, which
it is in one way then. It does not split when it has no dot or several, when nothing stands on one
side of its dot, or when some other character is not of a part. From what is registered under an id
a rule is made when its name splits and it accepts the options. A name that does not split is the
reason of the failure whatever the options are; with one that splits, failures are refused
options. -/
theorem names_decide_creation :
    (∀ name family policy, Policy.splitName? name = some (family, policy) ↔
      name = family ++ "." ++ policy ∧ Policy.IsPart family ∧ Policy.IsPart policy) ∧
    (∀ name, (Policy.splitName? name).isSome ↔ ∃! parts : String × String,
      name = parts.1 ++ "." ++ parts.2 ∧ Policy.IsPart parts.1 ∧ Policy.IsPart parts.2) ∧
    (∀ name, Policy.splitName? name = none ↔
      name.toList.count '.' ≠ 1 ∨ name.toList.head? = some '.' ∨ name.toList.getLast? = some '.' ∨
        ∃ c ∈ name.toList, c ≠ '.' ∧ ¬ Policy.InPart c) ∧
    ∀ (r : Registry) id fresh options, r.instantiate id = .ok fresh →
      (∀ rule, r.create id options = .ok rule ↔ (Policy.splitName? fresh.name).isSome ∧
        (fresh.configure options).validate = .ok () ∧ rule = fresh.configure options) ∧
      ∀ e, r.create id options = .error e ↔
        Policy.splitName? fresh.name = none ∧ e = .invalidRule id (.name fresh.name) ∨
          (Policy.splitName? fresh.name).isSome ∧ ∃ refused,
            (fresh.configure options).validate = .error refused ∧ e = refusal id refused := by
  refine ⟨fun _ _ _ => Policy.splitName?_eq_some_iff,
    fun _ => Policy.splitName?_isSome_iff_existsUnique, fun _ => Policy.splitName?_eq_none_iff, ?_⟩
  intro r id fresh options registered
  obtain ⟨p, found, rfl⟩ := instantiate_eq_ok_iff.1 registered
  refine ⟨fun rule => ?_, fun e => ?_⟩
  · rw [create_eq_ok_iff]
    simp [found, Rule.name, Rule.configure, Rule.validate]
  · rw [create_eq_error_iff]
    simp [found, Rule.name, Rule.configure, Rule.validate]

/-- A policy with a name that accepts all options and has nothing against any file. -/
def lenient (name : String) : Policy :=
  { name, description := "has nothing against any file", check := fun _ _ _ => none }

/-- An id that is a proper name makes up for no second dot, and a poor id spoils no name. -/
theorem hyphenated_name_created :
    let r := (empty.register "acme.globals" (lenient "acme.rules.globals")).register "any id"
      (lenient "acme.no-globals")
    Policy.splitName? "acme.no-globals" = some ("acme", "no-globals") ∧
      Policy.splitName? "acmé.globals" = none ∧
      (∀ options, r.create "any id" options = .ok { policy := lenient "acme.no-globals", options }) ∧
      ∀ options, r.create "acme.globals" options =
        .error (.invalidRule "acme.globals" (.name "acme.rules.globals")) := by
  obtain ⟨split, -, refused, decided⟩ := names_decide_creation
  have hyphenated : Policy.splitName? "acme.no-globals" = some ("acme", "no-globals") :=
    (split _ _ _).2 ⟨rfl, Policy.isNamePart_toList.1 rfl, Policy.isNamePart_toList.1 rfl⟩
  have dotted : Policy.splitName? "acme.rules.globals" = none := (refused _).2 (.inl (by decide))
  have accented : Policy.splitName? "acmé.globals" = none :=
    (refused _).2 (.inr (.inr (.inr ⟨'é', by decide, by decide, by simp [Policy.InPart]⟩)))
  intro r
  refine ⟨hyphenated, accented, fun options => ?_, fun options => ?_⟩
  · exact ((decided r "any id" { policy := lenient "acme.no-globals" } options rfl).1 _).2
      ⟨Option.isSome_of_eq_some hyphenated, rfl, rfl⟩
  · exact ((decided r "acme.globals" { policy := lenient "acme.rules.globals" } options rfl).2 _).2
      (.inl ⟨dotted, rfl⟩)

theorem toOption_eq_some_iff {x : Except Error Rule} {rule : Rule} :
    x.toOption = some rule ↔ x = .ok rule := by
  cases x <;> simp [Except.toOption]

theorem create_withoutTrips (r : Registry) (id : String) (options : Options) :
    (r.withoutTrips.create id options).toOption =
      (r.create id options).toOption.map Rule.withoutTrips := by
  ext rule
  simp only [Option.map_eq_some_iff, toOption_eq_some_iff, create_eq_ok_iff, withoutTrips,
    Table.get?_map]
  constructor
  · rintro ⟨_, ⟨p, found, rfl⟩, named, accepted, rfl⟩
    exact ⟨{ policy := p, options }, ⟨p, found, named, accepted, rfl⟩, rfl⟩
  · rintro ⟨_, ⟨p, found, named, accepted, rfl⟩, rfl⟩
    exact ⟨p.withoutTrips, ⟨p, found, rfl⟩, named, accepted, rfl⟩

theorem forall_get? {r : Registry} {P : Policy → Prop}
    (all : ∀ entry ∈ r.policies.entries, P entry.2) {id : String} {p : Policy}
    (found : r.policies.get? id = some p) : P p := by
  simp only [Table.get?, Option.map_eq_some_iff] at found
  obtain ⟨entry, found, rfl⟩ := found
  exact all entry (List.mem_of_find?_eq_some found)

theorem withoutTrips_pure (r : Registry) : r.withoutTrips.Pure := by
  intro entry member
  obtain ⟨original, -, rfl⟩ := List.mem_map.1 member
  exact fun _ _ => rfl

theorem forall_mem_register {r : Registry} {P : Policy → Prop}
    (all : ∀ entry ∈ r.policies.entries, P entry.2) (id : String) {p : Policy} (policy : P p) :
    ∀ entry ∈ (r.register id p).policies.entries, P entry.2 := by
  intro entry member
  rcases Table.mem_insertEntry member with rfl | member
  · exact policy
  · exact all entry member

/-- What holds of the built-in policies holds of all that the built-in registry has. -/
theorem forall_mem_builtin {P : Policy → Prop} (all : ∀ p ∈ builtinPolicies, P p) :
    ∀ entry ∈ builtin.policies.entries, P entry.2 := by
  have registered (ps : List Policy) (each : ∀ p ∈ ps, P p) (r : Registry)
      (start : ∀ entry ∈ r.policies.entries, P entry.2) :
      ∀ entry ∈ (ps.foldl (fun r p => r.register p.name p) r).policies.entries, P entry.2 := by
    induction ps generalizing r with
    | nil => exact start
    | cons p ps ih =>
        rw [List.forall_mem_cons] at each
        exact ih each.2 _ (forall_mem_register start p.name each.1)
  exact registered builtinPolicies all empty (List.forall_mem_nil _)

/-! ## The built-in policies -/

theorem builtinPolicies_nodup : (builtinPolicies.map Policy.name).Nodup := by
  decide

theorem eq_of_name_eq {p q : Policy} (builtin : p ∈ builtinPolicies) (builtin' : q ∈ builtinPolicies)
    (same : p.name = q.name) : p = q :=
  List.inj_on_of_nodup_map builtinPolicies_nodup builtin builtin' same

/-- Policies with different names are all registered, in whatever order. -/
theorem get?_foldl_register {ps : List Policy} (different : (ps.map Policy.name).Nodup)
    (r : Registry) (id : String) :
    (ps.foldl (fun r p => r.register p.name p) r).policies.get? id =
      (ps.find? (·.name == id)).or (r.policies.get? id) := by
  induction ps generalizing r with
  | nil => rfl
  | cons p ps ih =>
      obtain ⟨absent, different⟩ := List.nodup_cons.1 different
      rw [List.foldl_cons, ih different, register, Table.get?_insert, List.find?_cons]
      by_cases same : p.name = id
      · have others : ps.find? (·.name == id) = none := by
          refine List.find?_eq_none.2 fun q member equal => absent ?_
          rw [same, ← beq_iff_eq.1 equal]
          exact List.mem_map_of_mem member
        simp [same, others]
      · have other : (p.name == id) = false := by simpa using same
        simp [same, other]

theorem get?_builtin (id : String) :
    builtin.policies.get? id = builtinPolicies.find? (·.name == id) := by
  rw [builtin, get?_foldl_register builtinPolicies_nodup]
  exact Option.or_none

theorem of_get?_builtin {id : String} {p : Policy} (found : builtin.policies.get? id = some p) :
    p ∈ builtinPolicies ∧ p.name = id := by
  rw [get?_builtin] at found
  refine ⟨List.mem_of_find?_eq_some found, ?_⟩
  simpa using List.find?_some found

theorem get?_builtin_name {p : Policy} (member : p ∈ builtinPolicies) :
    builtin.policies.get? p.name = some p := by
  rw [get?_builtin]
  cases found : builtinPolicies.find? (·.name == p.name) with
  | none => simpa using List.find?_eq_none.1 found p member
  | some q =>
      have same : q.name = p.name := by simpa using List.find?_some found
      rw [eq_of_name_eq (List.mem_of_find?_eq_some found) member same]

/-- The built-in policies of a family in the order of its rules. -/
def familyPolicies : Family → List Policy
  | .ddd => [Policy.Ddd.domainLayer, Policy.Ddd.applicationLayer, Policy.Ddd.infrastructureLayer]
  | .clean => [Policy.Clean.entityLayer, Policy.Clean.useCaseLayer, Policy.Clean.controllerLayer]
  | .hexagonal => [Policy.Hexagonal.domain, Policy.Hexagonal.port, Policy.Hexagonal.adapter]
  | .custom => [Policy.Custom.namespaceDependency, Policy.Custom.namingConvention]

theorem names_of_familyPolicies (f : Family) : (familyPolicies f).map Policy.name = f.rules := by
  cases f <;> rfl

theorem mem_builtinPolicies {f : Family} {p : Policy} (member : p ∈ familyPolicies f) :
    p ∈ builtinPolicies := by
  change p ∈ Family.all.flatMap familyPolicies
  exact List.mem_flatMap.2 ⟨f, by cases f <;> decide, member⟩

theorem builtinPolicies_pure : ∀ p ∈ builtinPolicies, p.Pure := by
  simp only [builtinPolicies, List.forall_mem_cons]
  repeat' apply And.intro
  all_goals first | exact fun _ _ => rfl | exact List.forall_mem_nil _

theorem builtin_pure : builtin.Pure := forall_mem_builtin builtinPolicies_pure

end Registry

end Layering
