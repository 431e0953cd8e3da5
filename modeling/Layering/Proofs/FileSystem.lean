import Layering.FileSystem
import Layering.Proofs.Path
import Mathlib.Data.List.Nodup

/-!
# The files below a directory

A tree is well formed when the entries of each of its directories have distinct valid names, as
every file system sees to. Then the files listed below a node are those that names lead to, each
listed once.
-/

namespace Layering

namespace FileTree

mutual

/-- Whether the entries of each directory have distinct names, all of them valid. -/
def WellFormed : FileTree → Prop
  | .directory entries => EntriesWellFormed entries
  | _ => True

/-- Whether entries have distinct valid names and are well formed themselves. -/
def EntriesWellFormed : List (String × FileTree) → Prop
  | [] => True
  | (name, node) :: rest =>
    Path.IsName name ∧ name ∉ rest.map (·.1) ∧ node.WellFormed ∧ EntriesWellFormed rest

end

theorem EntriesWellFormed.of_mem {entries : List (String × FileTree)}
    (wellFormed : EntriesWellFormed entries) {name : String} {node : FileTree}
    (member : (name, node) ∈ entries) : Path.IsName name ∧ node.WellFormed := by
  induction entries with
  | nil => simp at member
  | cons entry rest ih =>
      obtain ⟨valid, -, inner, others⟩ := wellFormed
      rcases List.mem_cons.mp member with rfl | later
      · exact ⟨valid, inner⟩
      · exact ih others later

theorem child?_eq_some_iff {entries : List (String × FileTree)}
    (wellFormed : EntriesWellFormed entries) {name : String} {node : FileTree} :
    (directory entries).child? name = some node ↔ (name, node) ∈ entries := by
  induction entries with
  | nil => simp [child?]
  | cons entry rest ih =>
      obtain ⟨first, inside⟩ := entry
      obtain ⟨-, fresh, -, others⟩ := wellFormed
      simp only [child?] at ih ⊢
      by_cases same : first = name
      · subst same
        have absent : (first, node) ∉ rest := fun member => fresh (List.mem_map_of_mem member)
        simp [absent, eq_comm]
      · simp [same, Ne.symm same, ih others]

theorem WellFormed.child? {t : FileTree} (wellFormed : t.WellFormed) {name : String}
    {node : FileTree} (found : t.child? name = some node) :
    Path.IsName name ∧ node.WellFormed := by
  cases t with
  | directory entries =>
      rw [WellFormed] at wellFormed
      exact wellFormed.of_mem ((child?_eq_some_iff wellFormed).mp found)
  | file => simp [FileTree.child?] at found
  | link => simp [FileTree.child?] at found

/-- The names that lead to a node of a well-formed tree are valid, and so is what they lead to. -/
theorem WellFormed.at? {t : FileTree} (wellFormed : t.WellFormed) {names : List String}
    {node : FileTree} (found : t.at? names = some node) :
    (∀ name ∈ names, Path.IsName name) ∧ node.WellFormed := by
  induction names generalizing t with
  | nil =>
      obtain rfl : t = node := by simpa [FileTree.at?] using found
      exact ⟨by simp, wellFormed⟩
  | cons name rest ih =>
      obtain ⟨inner, entry, below⟩ := Option.bind_eq_some_iff.mp found
      obtain ⟨valid, innerWellFormed⟩ := wellFormed.child? entry
      obtain ⟨others, final⟩ := ih innerWellFormed below
      exact ⟨List.forall_mem_cons.mpr ⟨valid, others⟩, final⟩

/-! ## Listed files -/

theorem filesOf_cons (name : String) (node : FileTree) (rest : List (String × FileTree)) :
    filesOf ((name, node) :: rest) =
      (if node.isFile then [[name]] else []) ++ node.files.map (name :: ·) ++ filesOf rest := by
  cases node <;> simp [filesOf, files, isFile]

theorem mem_filesOf_iff {entries : List (String × FileTree)} {names : List String} :
    names ∈ filesOf entries ↔ ∃ name node below, names = name :: below ∧ (name, node) ∈ entries ∧
      (node.isFile ∧ below = [] ∨ below ∈ node.files) := by
  induction entries with
  | nil => simp [filesOf]
  | cons entry rest ih =>
      obtain ⟨first, inside⟩ := entry
      rw [filesOf_cons, List.mem_append, List.mem_append, ih]
      constructor
      · rintro ((listed | listed) | ⟨name, node, below, split, member, inner⟩)
        · obtain ⟨isFile, rfl⟩ : inside.isFile = true ∧ names = [first] := by
            cases regular : inside.isFile <;> simp_all
          exact ⟨first, inside, [], rfl, List.mem_cons_self, .inl ⟨isFile, rfl⟩⟩
        · obtain ⟨below, member, rfl⟩ := List.mem_map.mp listed
          exact ⟨first, inside, below, rfl, List.mem_cons_self, .inr member⟩
        · exact ⟨name, node, below, split, List.mem_cons_of_mem _ member, inner⟩
      · rintro ⟨name, node, below, rfl, member, inner⟩
        rcases List.mem_cons.mp member with same | later
        · obtain ⟨rfl, rfl⟩ := Prod.mk.inj same
          rcases inner with ⟨isFile, rfl⟩ | listed
          · exact .inl (.inl (by simp [isFile]))
          · exact .inl (.inr (List.mem_map_of_mem listed))
        · exact .inr ⟨name, node, below, rfl, later, inner⟩

theorem nil_notMem_files (t : FileTree) : [] ∉ t.files := by
  cases t <;> simp [files, mem_filesOf_iff]

mutual

theorem nodup_files {t : FileTree} (wellFormed : t.WellFormed) : t.files.Nodup := by
  cases t with
  | file => simp [files]
  | link => simp [files]
  | directory entries =>
      rw [WellFormed] at wellFormed
      rw [files]
      exact nodup_filesOf wellFormed

theorem nodup_filesOf {entries : List (String × FileTree)}
    (wellFormed : EntriesWellFormed entries) : (filesOf entries).Nodup := by
  cases entries with
  | nil => simp [filesOf]
  | cons entry rest =>
      obtain ⟨name, node⟩ := entry
      obtain ⟨-, fresh, inner, others⟩ := wellFormed
      have single : (if node.isFile then [[name]] else []).Nodup := by split <;> simp
      have below : (node.files.map (name :: ·)).Nodup :=
        List.Nodup.map List.cons_injective (nodup_files inner)
      have apart :
          (if node.isFile then [[name]] else []).Disjoint (node.files.map (name :: ·)) := by
        split <;> simp [nil_notMem_files]
      rw [filesOf_cons]
      refine List.Nodup.append (List.Nodup.append single below apart) (nodup_filesOf others) ?_
      -- What is listed for an entry starts with its name.
      intro names listed later
      obtain ⟨other, node', below, rfl, member, -⟩ := mem_filesOf_iff.mp later
      have same : other = name := by
        rcases List.mem_append.mp listed with alone | nested
        · split at alone <;> simp_all
        · obtain ⟨tail, -, split⟩ := List.mem_map.mp nested
          exact (List.cons.inj split).1.symm
      exact fresh (List.mem_map.mpr ⟨_, member, same⟩)

end

end FileTree

namespace FileSystem

section Directory

variable {fs : FileSystem} {path : String} {place : List String}
  {entries : List (String × FileTree)} (wellFormed : fs.root.WellFormed)
  (resolved : fs.resolve path = .ok (place, .directory entries))

include wellFormed resolved

end Directory

end FileSystem

end Layering
