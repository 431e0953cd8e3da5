/-!
# Tables

A table holds values under texts, in increasing order of the texts.
-/

namespace Layering

/-- Values under texts, in increasing order. -/
structure Table (α : Type) where
  entries : List (String × α)
  ascending : entries.Pairwise (fun a b => a.1 < b.1)

namespace Table

variable {α : Type}

def empty : Table α := ⟨[], .nil⟩

instance : Inhabited (Table α) := ⟨empty⟩

/-! ## Insertion -/

/-- Set the value under a key, before the first larger key. -/
def insertEntry (key : String) (value : α) : List (String × α) → List (String × α)
  | [] => [(key, value)]
  | (k, v) :: rest =>
    if key < k then (key, value) :: (k, v) :: rest
    else if key == k then (key, value) :: rest
    else (k, v) :: insertEntry key value rest

theorem mem_insertEntry {key : String} {value : α} {entries : List (String × α)}
    {entry : String × α} (member : entry ∈ insertEntry key value entries) :
    entry = (key, value) ∨ entry ∈ entries := by
  induction entries with
  | nil => simpa [insertEntry] using member
  | cons first rest ih =>
      simp only [insertEntry] at member
      split at member
      · simpa using member
      · split at member
        · rcases List.mem_cons.1 member with same | later
          · exact .inl same
          · exact .inr (List.mem_cons_of_mem _ later)
        · rcases List.mem_cons.1 member with same | later
          · exact .inr (same ▸ List.mem_cons_self)
          · exact (ih later).imp_right (List.mem_cons_of_mem _)

theorem insertEntry_ascending (key : String) (value : α) {entries : List (String × α)}
    (ascending : entries.Pairwise (fun a b => a.1 < b.1)) :
    (insertEntry key value entries).Pairwise (fun a b => a.1 < b.1) := by
  induction entries with
  | nil => simp [insertEntry]
  | cons first rest ih =>
      obtain ⟨above, tail⟩ := List.pairwise_cons.1 ascending
      simp only [insertEntry]
      split
      · rename_i smaller
        refine List.pairwise_cons.2 ⟨fun entry member => ?_, ascending⟩
        rcases List.mem_cons.1 member with rfl | later
        · exact smaller
        · exact String.lt_trans smaller (above entry later)
      · rename_i notSmaller
        split
        · rename_i same
          rw [beq_iff_eq] at same
          exact List.pairwise_cons.2 ⟨fun entry member => same ▸ above entry member, tail⟩
        · rename_i different
          refine List.pairwise_cons.2 ⟨fun entry member => ?_, ih tail⟩
          rcases mem_insertEntry member with rfl | earlier
          · exact Std.lt_of_le_of_ne (String.not_lt.1 notSmaller) fun same =>
              different (beq_iff_eq.2 same.symm)
          · exact above entry earlier

/-- Set the value under a key. -/
def insert (key : String) (value : α) (t : Table α) : Table α :=
  ⟨insertEntry key value t.entries, insertEntry_ascending key value t.ascending⟩

/-- The table of a list of pairs, where later pairs win. -/
def ofList (pairs : List (String × α)) : Table α :=
  pairs.foldl (fun t (k, v) => insert k v t) empty

/-! ## Reading -/

/-- The value under a key. -/
def get? (key : String) (t : Table α) : Option α := (t.entries.find? (·.1 == key)).map (·.2)

def contains (key : String) (t : Table α) : Bool := t.entries.any (·.1 == key)

def isEmpty (t : Table α) : Bool := t.entries.isEmpty

/-- The keys in increasing order. -/
def keys (t : Table α) : List String := t.entries.map (·.1)

@[simp] theorem get?_empty (key : String) : (empty : Table α).get? key = none := rfl

theorem get?_insert (key name : String) (value : α) (t : Table α) :
    (t.insert key value).get? name = if key = name then some value else t.get? name := by
  simp only [get?, insert]
  induction t.entries with
  | nil => by_cases same : key = name <;> simp [insertEntry, same]
  | cons first rest ih =>
      simp only [insertEntry]
      split
      · by_cases same : key = name <;> simp [same]
      · split
        · rename_i same
          rw [beq_iff_eq] at same
          by_cases equal : key = name <;> simp [← same, equal]
        · rename_i different
          by_cases equal : first.1 = name
          · have apart : key ≠ name := fun h => different (beq_iff_eq.2 (h.trans equal.symm))
            simp [equal, apart]
          · simpa [equal] using ih

end Table

end Layering
