import BundleManifest.Problem
import BundleManifest.Value

/-!
# Merging mappings

Settings come from several places, of which the later ones have precedence. Mappings are merged entry
by entry, at every depth; any other value replaces what is there, and is replaced as a whole.
-/

namespace BundleManifest.Settings

mutual

/-- A value after another one for the same key. -/
def mergeValue (old : Option Value) : Value → Value
  | .mapping entries =>
    match old with
    | some (.mapping olds) => .mapping (mergeEntries olds entries)
    | _ => .mapping entries
  | v => v

/-- Entries with later ones put in. -/
def mergeEntries (acc : List (Value × Value)) : List (Value × Value) → List (Value × Value)
  | [] => acc
  | (key, v) :: rest => mergeEntries (Value.insert key (mergeValue (Value.lookup key acc) v) acc) rest

end

/-- Puts a value into merged entries. Nothing comes from an empty value, and any other has to be a
    mapping. -/
def mergeOne (acc : List (Value × Value)) (v : Value) : Except Problem (List (Value × Value)) :=
  if !v.truthy then .ok acc
  else match v with
    | .mapping entries => .ok (mergeEntries acc entries)
    | _ => .error .noMapping

/-- The merged entries of some mappings, of which later ones have precedence. -/
def merge (values : List Value) : Except Problem (List (Value × Value)) :=
  values.foldlM mergeOne []

/-- Later values are merged into what the first ones gave. -/
theorem merge_append (values later : List Value) :
    merge (values ++ later) = (merge values).bind (later.foldlM mergeOne) := by
  simp [merge, List.foldlM_append, bind]

end BundleManifest.Settings
