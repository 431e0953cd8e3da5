import Layering.Proofs.Config.NamingRules

/-!
# Enforcing naming rules

The entries of the naming rules that go for a namespace, `Naming.entriesFor`, are those under all
keys that it begins with. A rule with accepted options reports the first of them, in the order of
the options, whose pattern the type's name does not match: `namingConvention_enforced`.
-/

namespace Layering

open Yaml

namespace Naming

/-! ## What an entry asks for -/

/-- An entry asks for names that match a pattern, and may describe it. -/
inductive Asks : Value → String → Option String → Prop
  | bare (pattern : String) : Asks (.string pattern) pattern none
  | described {entries : Entries} {v : Value} {pattern : String}
      (found : entries.find? "pattern" = some v) (text : v.untagged = .string pattern) :
      Asks (.mapping entries) pattern (text? "description" entries)

/-- The name matches the pattern of an entry. -/
def Meets (name : String) (entry : Value) : Prop :=
  ∃ pattern description regex, Asks entry pattern description ∧ compile pattern = .ok regex ∧
    regex.isMatch name = true

theorem text?_eq_some_iff {key text : String} {entries : Entries} :
    text? key entries = some text ↔
      ∃ v, entries.find? key = some v ∧ v.untagged = .string text := by
  have isText (v : Value) : v.string? = some text ↔ v = .string text := by
    cases v <;> simp [Value.string?]
  simp only [text?, Option.bind_eq_some_iff, isText]

theorem entryTexts_eq_ok {entry : Value} {pattern : String} {description : Option String} :
    entryTexts entry = .ok (pattern, description) ↔ Asks entry pattern description := by
  constructor
  · intro read
    cases entry with
    | string s =>
        cases read
        exact .bare _
    | mapping entries =>
        rw [entryTexts] at read
        split at read
        · rename_i text has
          cases read
          obtain ⟨v, found, isText⟩ := text?_eq_some_iff.1 has
          exact .described found isText
        · cases read
    | _ => cases read
  · intro asks
    cases asks with
    | bare => rfl
    | described found text => rw [entryTexts, text?_eq_some_iff.2 ⟨_, found, text⟩]

theorem ofEntry_eq_ok {entry : Value} {r : Requirement} :
    Requirement.ofEntry entry = .ok r ↔
      ∃ description, Asks entry r.pattern description ∧ compile r.pattern = .ok r.regex ∧
        r.description = description.getD ("Must match pattern: " ++ r.pattern) := by
  obtain ⟨pattern, description, regex⟩ := r
  simp only [Requirement.ofEntry, Config.bind_eq_ok, Config.pure_eq_ok, Prod.exists,
    entryTexts_eq_ok, Requirement.mk.injEq]
  constructor
  · rintro ⟨p, d, asks, compiled, read, rfl, rfl, rfl⟩
    exact ⟨d, asks, read, rfl⟩
  · rintro ⟨d, asks, read, rfl⟩
    exact ⟨pattern, d, asks, regex, read, rfl, rfl, rfl⟩

theorem meets_iff {entry : Value} {r : Requirement} (read : Requirement.ofEntry entry = .ok r)
    {name : String} : Meets name entry ↔ r.regex.isMatch name = true := by
  obtain ⟨d, asks, compiled, -⟩ := ofEntry_eq_ok.1 read
  constructor
  · rintro ⟨p, d', regex, asks', compiled', isMatch⟩
    have same := (entryTexts_eq_ok.2 asks).symm.trans (entryTexts_eq_ok.2 asks')
    obtain ⟨rfl, -⟩ := Prod.mk.inj (Except.ok.inj same)
    rw [compiled] at compiled'
    rwa [Except.ok.inj compiled']
  · intro isMatch
    exact ⟨_, _, _, asks, compiled, isMatch⟩

/-! ## The entries for a namespace -/

/-- Whether the namespace begins with the key, as a text. -/
def covers (space : String) (e : Value × Value) : Bool :=
  (Options.scalarText? e.1).any fun start => start.toList.isPrefixOf space.toList

/-- The entries under all keys that the namespace begins with, in order. -/
def entriesFor (space : String) (rules : Entries) : List Value :=
  (rules.filter (covers space)).flatMap fun e => entriesOf e.2

theorem covers_iff {space : String} {e : Value × Value} :
    covers space e = true ↔
      ∃ start, Options.scalarText? e.1 = some start ∧ start.toList <+: space.toList := by
  simp [covers, Option.any_eq_true]

theorem forall_mem_entriesFor {space : String} {rules : Entries} {p : Value → Prop} :
    (∀ entry ∈ entriesFor space rules, p entry) ↔
      ∀ e ∈ rules, ∀ start, Options.scalarText? e.1 = some start → start.toList <+: space.toList →
        ∀ entry ∈ entriesOf e.2, p entry := by
  simp only [entriesFor, List.mem_flatMap, List.mem_filter, covers_iff]
  constructor
  · intro all e rule start text begins entry listed
    exact all entry ⟨e, ⟨rule, start, text, begins⟩, listed⟩
  · rintro all entry ⟨e, ⟨rule, start, text, begins⟩, listed⟩
    exact all e rule start text begins entry listed

theorem entriesFor_filter (space : String) (rules : Entries) :
    entriesFor space (rules.filter isPrefixed) = entriesFor space rules := by
  have prefixed (e : Value × Value) : (covers space e && isPrefixed e) = covers space e := by
    rw [covers, isPrefixed]
    cases Options.scalarText? e.1 <;> simp
  simp only [entriesFor, List.filter_filter, prefixed]

/-- Entries and the requirements read from them. -/
abbrev Reads (entries : List Value) (requirements : List Requirement) : Prop :=
  List.Forall₂ (fun entry r => Requirement.ofEntry entry = .ok r) entries requirements

theorem reads_requirementsFor {rules : Entries} {scopes : List Scope}
    (kept : List.Forall₂ Scope.Keeps rules scopes) (space : String) :
    Reads (entriesFor space rules) (Policy.Custom.requirementsFor space scopes) := by
  induction kept with
  | nil => exact .nil
  | @cons e s rules scopes keeps rest ih =>
      have covered : covers space e = Policy.Custom.startsWith space s.start := by
        rw [covers, keeps.start, Option.any_some, Policy.Custom.startsWith]
      cases begins : Policy.Custom.startsWith space s.start with
      | false => simpa [entriesFor, Policy.Custom.requirementsFor, covered, begins] using ih
      | true =>
          have both := List.rel_append keeps.requirements ih
          simpa [entriesFor, Policy.Custom.requirementsFor, covered, begins] using both

theorem Reads.forall_meets_iff {entries : List Value} {requirements : List Requirement}
    (read : Reads entries requirements) {name : String} :
    (∀ entry ∈ entries, Meets name entry) ↔ ∀ r ∈ requirements, r.regex.isMatch name = true := by
  induction read with
  | nil => simp
  | cons first rest ih => rw [List.forall_mem_cons, List.forall_mem_cons, meets_iff first, ih]

theorem Reads.split {entries : List Value} {before after : List Requirement} {r : Requirement}
    (read : Reads entries (before ++ r :: after)) :
    ∃ earlier entry later, entries = earlier ++ entry :: later ∧ Reads earlier before ∧
      Requirement.ofEntry entry = .ok r := by
  induction before generalizing entries with
  | nil =>
      cases read with
      | cons here rest => exact ⟨[], _, _, rfl, .nil, here⟩
  | cons first before ih =>
      cases read with
      | cons here rest =>
          obtain ⟨earlier, entry, later, rfl, front, found⟩ := ih rest
          exact ⟨_ :: earlier, entry, later, rfl, .cons here front, found⟩

end Naming

/-! ## The policy -/

namespace Policy.Custom

open Naming

/-- With accepted options, nothing is reported exactly if the type has no name or its name matches
all patterns listed under all keys that the namespace begins with. What is reported is the first
entry in the order of the options whose pattern the name does not match, with the description that
is given there or a standard one. -/
theorem namingConvention_enforced {o : Options} (accepted : Config.checkNaming o = .ok ())
    (f : Source) (ctx : Context) :
    (∀ entry ∈ entriesFor f.space (given o), ∃ pattern description regex,
      Asks entry pattern description ∧ compile pattern = .ok regex) ∧
    (namingConvention.check o f ctx = none ↔
      f.typeName = "" ∨ ∀ e ∈ given o, ∀ start, Options.scalarText? e.1 = some start →
        start.toList <+: f.space.toList → ∀ entry ∈ entriesOf e.2, Meets f.typeName entry) ∧
    ∀ v, namingConvention.check o f ctx = some v →
      ∃ before entry after pattern description regex,
        entriesFor f.space (given o) = before ++ entry :: after ∧
        (∀ earlier ∈ before, Meets f.typeName earlier) ∧
        Asks entry pattern description ∧ compile pattern = .ok regex ∧
        regex.isMatch f.typeName = false ∧
        v.detail? "pattern" = some (.string pattern) ∧
        v.detail? "description" =
          some (.string (description.getD ("Must match pattern: " ++ pattern))) := by
  have readable := checkNaming_eq_ok.1 accepted
  have kept := (readScopes_of_readable readable).1
  have read : Reads (entriesFor f.space (given o)) (requirementsFor f.space (ofOptions o).1) := by
    rw [ofOptions_eq, ← entriesFor_filter]
    exact reads_requirementsFor kept f.space
  refine ⟨?_, ?_, ?_⟩
  · refine forall_mem_entriesFor.2 fun e rule start _ _ entry listed => ?_
    obtain ⟨r, found⟩ := readable e rule entry listed
    obtain ⟨description, asks, compiled, -⟩ := ofEntry_eq_ok.1 found
    exact ⟨_, description, _, asks, compiled⟩
  · rw [← forall_mem_entriesFor, read.forall_meets_iff, namingConvention]
    dsimp only
    split
    · rename_i unnamed
      simp [String.isEmpty_iff.1 unnamed]
    · rename_i named
      rw [String.isEmpty_iff] at named
      simp [named]
  · intro v reported
    rw [namingConvention] at reported
    dsimp only at reported
    split at reported
    · cases reported
    · obtain ⟨r, first, rfl⟩ := Option.map_eq_some_iff.1 reported
      obtain ⟨fails, before, after, split, passed⟩ := List.find?_eq_some_iff_append.1 first
      rw [split] at read
      obtain ⟨earlier, entry, later, order, front, found⟩ := read.split
      obtain ⟨description, asks, compiled, described⟩ := ofEntry_eq_ok.1 found
      refine ⟨earlier, entry, later, r.pattern, description, r.regex, order, ?_, asks, compiled, ?_,
        rfl, ?_⟩
      · exact front.forall_meets_iff.2 fun q member => by simpa using passed q member
      · simpa using fails
      · rw [← described]
        rfl

/-- An entry with a description. -/
def httpEntry : Value :=
  .mapping [(.string "pattern", .string "/^Http/"), (.string "description", .string "HTTP")]

/-- Naming rules for a namespace, for another one and for one below the first. -/
def nestedRules : Options :=
  ⟨[(.string "naming_rules", .mapping
    [(.string "App", .string "/Service$/"), (.string "Lib", .string "/^X/"),
      (.string "App\\Http", .sequence [httpEntry])])]⟩

/-- A service in the lower namespace. -/
def userService : Source :=
  .ofContent "a.php" "<?php\nnamespace App\\Http;\nclass UserService \x7b\x7d\n"

theorem asks_httpEntry {pattern : String} {description : Option String}
    (asks : Asks httpEntry pattern description) :
    pattern = "/^Http/" ∧ description = some "HTTP" := by
  have read := entryTexts_eq_ok.2 asks
  cases read
  exact ⟨rfl, rfl⟩

theorem userService_reported :
    ∃ v, namingConvention.check nestedRules userService ⟨.default, []⟩ = some v ∧
      v.detail? "pattern" = some (.string "/^Http/") ∧
      v.detail? "description" = some (.string "HTTP") := by
  have accepted : Config.checkNaming nestedRules = .ok () := rfl
  obtain ⟨-, silent, reports⟩ := namingConvention_enforced accepted userService ⟨.default, []⟩
  have facts : userService.space = "App\\Http" ∧ userService.typeName = "UserService" := by
    unfold userService Source.ofContent
    rw [String.toList_ofList]
    decide
  have judged : (compile "/Service$/").toOption.all (·.isMatch "UserService") = true ∧
      (compile "/^Http/").toOption.all (fun r => !r.isMatch "UserService") = true := by
    decide
  have order : entriesFor "App\\Http" (given nestedRules) = [.string "/Service$/", httpEntry] := rfl
  rw [facts.1, facts.2] at silent reports
  rw [← forall_mem_entriesFor, order] at silent
  rw [order] at reports
  cases outcome : namingConvention.check nestedRules userService ⟨.default, []⟩ with
  | none =>
      rcases silent.1 outcome with unnamed | met
      · exact absurd unnamed (by decide)
      · obtain ⟨_, _, regex, asks, compiled, isMatch⟩ := met httpEntry (by simp)
        obtain ⟨rfl, -⟩ := asks_httpEntry asks
        simp [compiled, Except.toOption, isMatch] at judged
  | some v =>
      obtain ⟨before, entry, after, _, _, regex, split, -, asks, compiled, fails, pattern, text⟩ :=
        reports v outcome
      refine ⟨v, rfl, ?_⟩
      cases before with
      | nil =>
          obtain ⟨rfl, -⟩ := List.cons.inj split
          cases asks
          simp [compiled, Except.toOption, fails] at judged
      | cons first before =>
          obtain ⟨-, rest⟩ := List.cons.inj split
          cases before with
          | nil =>
              obtain ⟨rfl, -⟩ := List.cons.inj rest
              obtain ⟨rfl, rfl⟩ := asks_httpEntry asks
              exact ⟨pattern, text⟩
          | cons second before => simp at rest

end Policy.Custom

end Layering
