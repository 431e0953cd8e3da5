import Layering.Yaml.Basic

/-!
# Deep merge

Two mappings merge key by key; anything else is replaced by the overlay. A key of the base
keeps its place, new keys follow in the overlay's order.
-/

namespace Layering.Yaml

mutual

/-- `base` with `overlay` merged on top. -/
def merge : Value → Value → Value
  | .mapping base, .mapping overlay => .mapping (mergeEntries base overlay)
  | _, overlay => overlay

/-- Merge the entries of an overlay one after the other. -/
def mergeEntries (base : Entries) : List (Value × Value) → Entries
  | [] => base
  | (key, value) :: rest =>
    mergeEntries
      (match Entries.get? key base with
        | some old => Entries.insert key (merge old value) base
        | none => Entries.insert key value base)
      rest

end

end Layering.Yaml
