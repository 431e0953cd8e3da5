import Layering.Proofs.Config.Acceptance
import Layering.Proofs.PathFilter

/-!
# Which pattern decides

Of the patterns that match a path the last one decides, for the path predicate and for a walk
alike. So a pattern put after the others changes only what it matches: without a leading `!` it
takes paths away, with one it brings paths back. A pattern that is no glob changes nothing. The
same goes for the files found with further patterns: `last_match_decides`.
-/

namespace Layering.PathFilter

open Config (bind_eq_ok pure_eq_ok)

/-! ## Questions to a filter -/

/-- What a filter is asked: about a file, by the path its patterns are matched against and the name
of the file. -/
structure Query where
  file : String
  path : String
  name : String

/-- What the path predicate asks. -/
def Query.ofPath (path : String) : Query :=
  ⟨path, Path.normalize path, (Path.fileName path).getD ""⟩

/-- What a walk asks about a file below a root. -/
def Query.ofWalk (root : String) (names : List String) : Query :=
  ⟨below root names, "/" ++ Path.normalize ("/".intercalate names),
    (Path.fileName (below root names)).getD ""⟩

def Pattern.hits (p : Pattern) (q : Query) : Bool := p.isMatch q.path q.name

/-- Whether the file is analysed. -/
def answer (f : PathFilter) (q : Query) : Bool :=
  f.acceptsExtension q.file && !f.excludes q.path q.name

theorem answer_ofPath (f : PathFilter) (path : String) : f.answer (.ofPath path) = f.accepts path :=
  rfl

theorem answer_ofWalk (f : PathFilter) (root : String) (names : List String) :
    f.answer (.ofWalk root names) = f.acceptsBelow root names := rfl

/-! ## The last pattern that matches -/

/-- The pattern matches and none after it does. -/
def Decides (f : PathFilter) (q : Query) (p : Pattern) : Prop :=
  ∃ before after, f.patterns = before ++ p :: after ∧ p.hits q = true ∧
    ∀ later ∈ after, later.hits q = false

/-- Whether a file is excluded after some patterns, when it was or was not before them. -/
def verdict (q : Query) (excluded : Bool) (ps : List Pattern) : Bool :=
  ps.foldl (fun excluded p => if p.hits q then !p.includes else excluded) excluded

section

variable {f : PathFilter} {q : Query} {ps : List Pattern} {excluded : Bool}

theorem verdict_append (ps' : List Pattern) :
    verdict q excluded (ps ++ ps') = verdict q (verdict q excluded ps) ps' :=
  List.foldl_append

theorem excludes_eq_verdict : f.excludes q.path q.name = verdict q false f.patterns := rfl

theorem verdict_of_unmatched (unmatched : ∀ p ∈ ps, p.hits q = false) :
    verdict q excluded ps = excluded := by
  induction ps with
  | nil => rfl
  | cons p ps ih =>
      rw [List.forall_mem_cons] at unmatched
      rw [verdict, List.foldl_cons, unmatched.1]
      exact ih unmatched.2

/-- Patterns that all answer alike do not change that answer. -/
theorem verdict_of_agree {includes : Bool} (agree : ∀ p ∈ ps, p.includes = includes) :
    verdict q (!includes) ps = !includes := by
  induction ps with
  | nil => rfl
  | cons p ps ih =>
      rw [List.forall_mem_cons] at agree
      rw [verdict, List.foldl_cons, agree.1, ite_self]
      exact ih agree.2

theorem Decides.excludes_eq {p : Pattern} (decides : f.Decides q p) :
    f.excludes q.path q.name = !p.includes := by
  obtain ⟨before, after, split, hit, unmatched⟩ := decides
  rw [excludes_eq_verdict, split, verdict_append, verdict, List.foldl_cons, hit]
  exact verdict_of_unmatched unmatched

theorem decides_or_unmatched (f : PathFilter) (q : Query) :
    (∃ p, f.Decides q p) ∨ ∀ p ∈ f.patterns, p.hits q = false := by
  cases last : f.patterns.reverse.find? (·.hits q) with
  | none => exact .inr fun p member => by simpa using List.find?_eq_none.1 last p (by simpa)
  | some p =>
      obtain ⟨hit, after, before, split, unmatched⟩ := List.find?_eq_some_iff_append.1 last
      refine .inl ⟨p, before.reverse, after.reverse, ?_, hit, fun later member => ?_⟩
      · rw [← List.reverse_reverse f.patterns, split]
        simp
      · simpa using unmatched later (List.mem_reverse.1 member)

theorem excludes_iff :
    f.excludes q.path q.name = true ↔ ∃ p, f.Decides q p ∧ p.includes = false := by
  constructor
  · intro excluded
    rcases f.decides_or_unmatched q with ⟨p, decides⟩ | unmatched
    · exact ⟨p, decides, by simpa [decides.excludes_eq] using excluded⟩
    · rw [excludes_eq_verdict, verdict_of_unmatched unmatched] at excluded
      cases excluded
  · rintro ⟨p, decides, excludes⟩
    rw [decides.excludes_eq, excludes]
    rfl

end

/-! ## Further patterns -/

/-- The filter with patterns put after the others. -/
def extend (f : PathFilter) (ps : List Pattern) : PathFilter :=
  { f with patterns := f.patterns ++ ps }

section

variable {f : PathFilter} {q : Query} {ps : List Pattern}

theorem answer_extend : (f.extend ps).answer q =
    (f.acceptsExtension q.file && !verdict q (f.excludes q.path q.name) ps) := by
  rw [answer, excludes_eq_verdict, extend, verdict_append]
  rfl

theorem hits_of_answer_ne (changed : (f.extend ps).answer q ≠ f.answer q) :
    ∃ p ∈ ps, p.hits q = true := by
  by_contra unmatched
  refine changed ?_
  rw [answer_extend, verdict_of_unmatched (by simpa using unmatched), answer]

theorem answer_of_extend (excluding : ∀ p ∈ ps, p.includes = false)
    (accepted : (f.extend ps).answer q = true) : f.answer q = true := by
  rw [answer_extend] at accepted
  rw [answer]
  cases excluded : f.excludes q.path q.name with
  | false => simpa using (Bool.and_eq_true_iff.1 accepted).1
  | true =>
      have stays := verdict_of_agree (q := q) excluding
      rw [Bool.not_false] at stays
      simp [excluded, stays] at accepted

theorem answer_extend_of_answer (including : ∀ p ∈ ps, p.includes = true)
    (accepted : f.answer q = true) : (f.extend ps).answer q = true := by
  rw [answer, Bool.and_eq_true, Bool.not_eq_true'] at accepted
  have stays := verdict_of_agree (q := q) including
  rw [Bool.not_true] at stays
  rw [answer_extend, accepted.1, accepted.2, stays]
  rfl

end

/-! ## Adding a pattern -/

/-- The text is read as a pattern that matches. -/
def Matched (raw : String) (q : Query) : Prop :=
  ∃ p, Pattern.parse raw = .ok p ∧ p.hits q = true

theorem includes_of_parse {raw : String} {p : Pattern} (parsed : Pattern.parse raw = .ok p) :
    p.includes = raw.startsWith "!" := by
  rw [Pattern.parse] at parsed
  split at parsed
  · split at parsed
    · cases parsed
      rfl
    · cases parsed
  · cases parsed
    rfl

theorem add_eq_ok {f g : PathFilter} {raw : String} :
    f.add raw = .ok g ↔ ∃ p, Pattern.parse raw = .ok p ∧ g = f.extend [p] := by
  rw [add]
  simp only [bind_eq_ok, pure_eq_ok, extend, eq_comm (a := g)]

/-- Adding a pattern to a filter in its place. -/
def adding (raw : String) : ExceptT Fault (StateM PathFilter) Unit := do
  let p ← ExceptT.mk (pure (Pattern.parse raw))
  modify (·.extend [p])

/-- Adding in place leaves the filter that adding makes, and the one it had when adding fails. -/
theorem run_adding (f : PathFilter) (raw : String) :
    (adding raw).run.run f = match f.add raw with
      | .ok g => (.ok (), g)
      | .error fault => (.error fault, f) := by
  rw [add, adding]
  cases Pattern.parse raw <;> rfl

/-! ## Several patterns -/

/-- The filter of further patterns is the filter of the first ones with the further ones after
them, and fails where that fails. -/
theorem ofLists_append {early extras extensions : List String} {ps : List Pattern}
    (parsed : extras.mapM Pattern.parse = .ok ps) :
    ofLists (early ++ extras) extensions = (ofLists early extensions).map (·.extend ps) := by
  rw [ofLists, ofLists, List.mapM_append, parsed]
  cases early.mapM Pattern.parse <;> rfl

/-! ## The files found -/

/-- A list of paths has a file, written in one way or another. -/
def Lists (files : List String) (path : String) : Prop :=
  Path.components path ∈ files.map Path.components

theorem mem_components_distinctAfter (seen : List (List Path.Component)) (paths : List String)
    (cs : List Path.Component) :
    cs ∈ seen ∨ cs ∈ (distinctAfter seen paths).map Path.components ↔
      cs ∈ seen ∨ cs ∈ paths.map Path.components := by
  induction paths generalizing seen with
  | nil => rfl
  | cons path rest ih =>
      rw [distinctAfter]
      split
      case isTrue known =>
        rw [ih, List.map_cons, List.mem_cons]
        have member : Path.components path ∈ seen := by simpa using known
        constructor
        · exact Or.imp_right .inr
        · rintro (old | rfl | later)
          · exact .inl old
          · exact .inl member
          · exact .inr later
      case isFalse =>
        have rest := ih (Path.components path :: seen)
        simp only [List.map_cons, List.mem_cons] at rest ⊢
        tauto

theorem lists_distinct {paths : List String} {path : String} :
    Lists (distinct paths) path ↔ Lists paths path := by
  have same := mem_components_distinctAfter [] paths (Path.components path)
  rw [Lists, Lists, distinct]
  simpa only [List.not_mem_nil, false_or] using same

section

variable {f g : PathFilter} {fs : FileSystem}

/-- The files at a root: the root itself where it is a file, or those below it. -/
theorem mem_of_find {root path : String} {found : List String}
    (searched : f.find fs root = .ok found) :
    path ∈ found ↔
      (fs.isFile root = true ∧ f.acceptsExtension root = true ∧ path = root) ∨
      (fs.isFile root = false ∧ ∃ names ∈ fs.filesBelow root,
        f.answer (.ofWalk root names) = true ∧ path = below root names) := by
  rw [find] at searched
  split at searched
  · cases searched
  · split at searched
    · rename_i isFile
      cases searched
      cases f.acceptsExtension root <;> simp [isFile]
    · rename_i isFile
      cases searched
      simp [isFile, answer_ofWalk, and_assoc, eq_comm (a := path)]

theorem lists_of_discover {roots files : List String} {path : String}
    (discovered : f.discover fs roots = .ok files) :
    Lists files path ↔ ∃ root ∈ roots, ∃ found, f.find fs root = .ok found ∧ Lists found path := by
  simp only [discover, bind_eq_ok, pure_eq_ok] at discovered
  obtain ⟨lists, searched, rfl⟩ := discovered
  rw [lists_distinct, Lists, List.map_flatten, List.mem_flatten]
  simp only [List.mem_map (f := List.map Path.components), exists_exists_and_eq_and,
    mem_iff_of_mapM searched]
  constructor
  · rintro ⟨found, ⟨root, member, searched⟩, listed⟩
    exact ⟨root, member, found, searched, listed⟩
  · rintro ⟨root, member, found, searched, listed⟩
    exact ⟨found, ⟨root, member, searched⟩, listed⟩

/-- A file that one filter finds and another does not lies below a root, and the walk gets two
answers for it. -/
theorem exists_walk_of_lists {roots found found' : List String}
    (discovered : f.discover fs roots = .ok found) (discovered' : g.discover fs roots = .ok found')
    (extensions : f.extensions = g.extensions) {path : String} (listed : Lists found path)
    (missed : ¬ Lists found' path) :
    ∃ root ∈ roots, ∃ names ∈ fs.filesBelow root, Path.same path (below root names) = true ∧
      f.answer (.ofWalk root names) = true ∧ g.answer (.ofWalk root names) = false := by
  obtain ⟨root, member, files, searched, listed⟩ := (lists_of_discover discovered).1 listed
  obtain ⟨files', searched'⟩ : ∃ files', g.find fs root = .ok files' :=
    exists_find_eq_ok.2 (exists_find_eq_ok.1 ⟨files, searched⟩)
  have missed' : ¬ Lists files' path :=
    fun listed' => missed ((lists_of_discover discovered').2 ⟨root, member, _, searched', listed'⟩)
  obtain ⟨text, inside, same⟩ := List.mem_map.1 listed
  have missedText : text ∉ files' := fun inside' => missed' (List.mem_map.2 ⟨text, inside', same⟩)
  rw [mem_of_find searched] at inside
  rw [mem_of_find searched'] at missedText
  rcases inside with ⟨isFile, accepted, rfl⟩ | ⟨isDirectory, names, below, accepted, rfl⟩
  · -- The extension decides about a root that is a file, whatever the patterns are.
    exact absurd (.inl ⟨isFile, by rwa [acceptsExtension, ← extensions], rfl⟩) missedText
  · refine ⟨root, member, names, below, by simp [Path.same, same], accepted, ?_⟩
    by_contra accepted'
    exact missedText (.inr ⟨isDirectory, names, below, by simpa using accepted', rfl⟩)

section

variable {ps : List Pattern} {roots before after : List String}
  (discovered : f.discover fs roots = .ok before)
  (discovered' : (f.extend ps).discover fs roots = .ok after) {path : String}

include discovered discovered'

theorem lists_of_excluding (excluding : ∀ p ∈ ps, p.includes = false) (listed : Lists after path) :
    Lists before path := by
  by_contra missed
  obtain ⟨root, -, names, -, -, accepted, refused⟩ :=
    exists_walk_of_lists discovered' discovered rfl listed missed
  rw [answer_of_extend excluding accepted] at refused
  cases refused

theorem lists_of_including (including : ∀ p ∈ ps, p.includes = true) (listed : Lists before path) :
    Lists after path := by
  by_contra missed
  obtain ⟨root, -, names, -, -, accepted, refused⟩ :=
    exists_walk_of_lists discovered discovered' rfl listed missed
  rw [answer_extend_of_answer including accepted] at refused
  cases refused

/-- A file that is found only with the further patterns, or only without them, is matched by one. -/
theorem exists_hits_of_changed (changed : ¬ (Lists before path ↔ Lists after path)) :
    ∃ root ∈ roots, ∃ names ∈ fs.filesBelow root, Path.same path (below root names) = true ∧
      ∃ p ∈ ps, p.hits (.ofWalk root names) = true := by
  have once : (Lists before path ∧ ¬ Lists after path) ∨
      (Lists after path ∧ ¬ Lists before path) := by
    tauto
  rcases once with ⟨listed, missed⟩ | ⟨listed, missed⟩
  · obtain ⟨root, member, names, inside, same, accepted, refused⟩ :=
      exists_walk_of_lists discovered discovered' rfl listed missed
    exact ⟨root, member, names, inside, same,
      hits_of_answer_ne (f := f) (by simp [accepted, refused])⟩
  · obtain ⟨root, member, names, inside, same, accepted, refused⟩ :=
      exists_walk_of_lists discovered' discovered rfl listed missed
    exact ⟨root, member, names, inside, same,
      hits_of_answer_ne (f := f) (by simp [accepted, refused])⟩

end

end

/-- Further patterns do not change whether files can be looked for, nor what is wrong. -/
theorem discover_extend (v : Validator) (fs : FileSystem) (roots early : List String)
    {extras : List String} {ps : List Pattern} (parsed : extras.mapM Pattern.parse = .ok ps) :
    (∃ e, v.discover fs roots early = .error e ∧ v.discover fs roots (early ++ extras) = .error e) ∨
    ∃ (f : PathFilter) (before after : List String),
      f.discover fs roots = .ok before ∧ (f.extend ps).discover fs roots = .ok after ∧
      v.discover fs roots early = .ok before ∧
      v.discover fs roots (early ++ extras) = .ok after := by
  rw [Validator.discover, Validator.discover, ← List.append_assoc, ofLists_append parsed]
  cases ofLists (v.config.paths.excludes ++ early) v.config.paths.extensions with
  | error fault => exact .inl ⟨_, rfl, rfl⟩
  | ok f =>
      simp only [Except.map]
      cases discovered : f.discover fs roots with
      | error fault =>
          have discovered' : (f.extend ps).discover fs roots = .error fault :=
            discover_eq_error.2 (discover_eq_error.1 discovered)
          rw [discovered']
          exact .inl ⟨_, rfl, rfl⟩
      | ok before =>
          cases discovered' : (f.extend ps).discover fs roots with
          | error fault =>
              cases discovered.symm.trans (discover_eq_error.2 (discover_eq_error.1 discovered'))
          | ok after => exact .inr ⟨f, before, after, discovered, discovered', rfl, rfl⟩

/-- A file with an accepted extension is left out exactly when the last pattern that matches it is
no include. A pattern put after the others changes the answers for files that it matches only: it
brings none back without a leading `!`, and takes none away with one. A pattern that is not added
leaves the filter with its answers. Looking for files with further patterns fails as it does
without them, and finds other files only where one of them matches: none more if none has a leading
`!`, all of before if each has one. -/
theorem last_match_decides :
    (∀ (f : PathFilter) (path : String), f.acceptsExtension path = true →
      (f.accepts path = false ↔ ∃ p, f.Decides (.ofPath path) p ∧ p.includes = false)) ∧
    (∀ (f g : PathFilter) (raw : String), f.add raw = .ok g → ∀ path,
      (g.accepts path ≠ f.accepts path → Matched raw (.ofPath path)) ∧
      (raw.startsWith "!" = false → g.accepts path = true → f.accepts path = true) ∧
      (raw.startsWith "!" = true → f.accepts path = true → g.accepts path = true)) ∧
    (∀ (f : PathFilter) (raw : String) (fault : Fault), f.add raw = .error fault →
      ∃ g, (adding raw).run.run f = (.error fault, g) ∧
        ∀ path, g.accepts path = f.accepts path) ∧
    ∀ (v : Validator) (fs : FileSystem) (roots early extras : List String),
      (∀ raw ∈ extras, ∃ p, Pattern.parse raw = .ok p) →
        (∃ e, v.discover fs roots early = .error e ∧
          v.discover fs roots (early ++ extras) = .error e) ∨
        ∃ before after, v.discover fs roots early = .ok before ∧
          v.discover fs roots (early ++ extras) = .ok after ∧
          ((∀ raw ∈ extras, raw.startsWith "!" = false) →
            ∀ path, Lists after path → Lists before path) ∧
          ((∀ raw ∈ extras, raw.startsWith "!" = true) →
            ∀ path, Lists before path → Lists after path) ∧
          ∀ path, ¬ (Lists before path ↔ Lists after path) →
            ∃ root ∈ roots, ∃ names ∈ fs.filesBelow root,
              Path.same path (below root names) = true ∧
              ∃ raw ∈ extras, Matched raw (.ofWalk root names) := by
  refine ⟨fun f path extension => ?_, fun f g raw added path => ?_, fun f raw fault failed => ?_,
    fun v fs roots early extras valid => ?_⟩
  · rw [← excludes_iff, ← answer_ofPath, answer]
    simp [Query.ofPath, extension]
  · obtain ⟨p, parsed, rfl⟩ := add_eq_ok.1 added
    simp only [← answer_ofPath]
    refine ⟨fun changed => ⟨p, parsed, ?_⟩, fun mark => ?_, fun mark => ?_⟩
    · simpa using hits_of_answer_ne changed
    · exact answer_of_extend (by simpa [includes_of_parse parsed] using mark)
    · exact answer_extend_of_answer (by simpa [includes_of_parse parsed] using mark)
  · refine ⟨f, ?_, fun path => rfl⟩
    rw [run_adding, failed]
  · obtain ⟨ps, parsed⟩ := exists_mapM_eq_ok.2 valid
    rcases discover_extend v fs roots early parsed with failed | found
    · exact .inl failed
    · obtain ⟨f, before, after, discovered, discovered', ok, ok'⟩ := found
      have marked {b : Bool} (marks : ∀ raw ∈ extras, raw.startsWith "!" = b) :
          ∀ p ∈ ps, p.includes = b := by
        intro p member
        obtain ⟨raw, inside, read⟩ := (mem_iff_of_mapM parsed).1 member
        rw [includes_of_parse read, marks raw inside]
      refine .inr ⟨before, after, ok, ok', fun marks path => ?_, fun marks path => ?_,
        fun path changed => ?_⟩
      · exact lists_of_excluding discovered discovered' (marked marks)
      · exact lists_of_including discovered discovered' (marked marks)
      · obtain ⟨root, member, names, inside, same, p, added, hit⟩ :=
          exists_hits_of_changed discovered discovered' changed
        obtain ⟨raw, given, read⟩ := (mem_iff_of_mapM parsed).1 added
        exact ⟨root, member, names, inside, same, raw, given, p, read, hit⟩

/-- A validator with the default patterns. -/
def defaultValidator : Validator :=
  { config := Config.default, view := .ofSettings Config.default.report }

theorem ne_error_of_defaultValidator (e : Error) :
    defaultValidator.discover projectFiles ["project"] [] ≠ .error e := by
  intro failed
  obtain ⟨filter, patterns⟩ : ∃ filter, ofLists defaultExcludes [defaultExtension] = .ok filter :=
    ofLists_eq_ok.2 (Config.forM_eq_ok.2 fun _ => Config.checkExclude_default)
  obtain ⟨fault, missing, -⟩ := (Validator.discover_eq_error patterns).1 failed
  obtain ⟨before, root, after, split, -, absent, -⟩ := discover_eq_error.1 missing
  have only : root ∈ ["project"] := by simp [split]
  rw [List.mem_singleton.1 only, FileSystem.contains, resolve_project] at absent
  cases absent

/-- A file is left out, a pattern with a mark is added and one that is no glob is not, and files
are looked for with a further pattern. -/
theorem vendor_excluded_then_included :
    projectFilter.accepts "project/vendor/V.php" = false ∧
    (∃ g, projectFilter.add "!/vendor/" = .ok g ∧
      ∀ path, projectFilter.accepts path = true → g.accepts path = true) ∧
    (∃ fault g, (adding "[V").run.run projectFilter = (.error fault, g) ∧
      ∀ path, g.accepts path = projectFilter.accepts path) ∧
    ∃ before after, defaultValidator.discover projectFiles ["project"] [] = .ok before ∧
      defaultValidator.discover projectFiles ["project"] ["!/vendor/"] = .ok after ∧
      ∀ path, Lists before path → Lists after path := by
  obtain ⟨last, adds, fails, finds⟩ := last_match_decides
  have mark : "!/vendor/".startsWith "!" = true := by decide +kernel
  have text : bare "!/vendor/" = "/vendor/" := by decide
  have plain : Glob.looksLike "/vendor/" = false := by
    rw [looksLike_eq]
    decide
  have parsed : Pattern.parse "!/vendor/" = .ok ⟨.within "/vendor/", true⟩ := by
    simp [Pattern.parse, mark, text, plain]
  refine ⟨?_, ?_, ?_, ?_⟩
  · refine (last _ _ (by decide +kernel)).2 ⟨⟨.within "/vendor/", false⟩, ?_, rfl⟩
    exact ⟨[], [⟨.within "/a/", false⟩], rfl, by decide +kernel, by decide +kernel⟩
  · have added : projectFilter.add "!/vendor/" = .ok _ := add_eq_ok.2 ⟨_, parsed, rfl⟩
    exact ⟨_, added, fun path => (adds projectFilter _ _ added path).2.2 mark⟩
  · obtain ⟨fault, refused⟩ : ∃ fault, projectFilter.add "[V" = .error fault := by
      rw [add, Pattern.parse, looksLike_eq]
      exact ⟨_, rfl⟩
    exact ⟨fault, fails _ _ _ refused⟩
  · have valid : ∀ raw ∈ ["!/vendor/"], ∃ p, Pattern.parse raw = .ok p :=
      List.forall_mem_singleton.2 ⟨_, parsed⟩
    rcases finds defaultValidator projectFiles ["project"] [] _ valid with failed | found
    · obtain ⟨e, failed, -⟩ := failed
      exact absurd failed (ne_error_of_defaultValidator e)
    · obtain ⟨before, after, found, found', -, more, -⟩ := found
      exact ⟨before, after, found, found', more (List.forall_mem_singleton.2 mark)⟩

end Layering.PathFilter
