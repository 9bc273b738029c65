import BundleManifest.Settings.Environment
import BundleManifest.Settings.File
import BundleManifest.Settings.Merge

/-!
# Loading settings

Settings are loaded from a file and from the environment, which has precedence. What neither of them
sets keeps its default.

Most keys that are no settings mean nothing. Three keys have a meaning of their own in a section: one
stands for the whole section, and two cannot be set.
-/

namespace BundleManifest.Settings

/-- The key for all settings of a section. -/
def wholeKey : String := "__dict__"

/-- The key for the type of a section. -/
def typeKey : String := "__class__"

/-- The key for the references to a section. -/
def referencesKey : String := "__weakref__"

/-- Changes a setting of a section by `set`, or all of them, where `s₀` has the defaults. -/
def assign {σ : Type} (set : σ → String → Value → σ) (s₀ s : σ) (key v : Value) : Except Problem σ :=
  match key with
  | .text name =>
    if name = wholeKey then
      match v with
      | .mapping entries =>
        .ok (entries.foldl (fun s (key, v) => match key with
          | .text name => set s name v
          | _ => s) s₀)
      | _ => .error .wrongType
    else if name = typeKey then .error .wrongType
    else if name = referencesKey then .error .fixed
    else .ok (set s name v)
  | _ => .error .wrongType

/-- Changes the settings of a section, as a part of the loaded mapping says. -/
def assignAll {σ : Type} (set : σ → String → Value → σ) (s₀ : σ) (part : Option Value) :
    Except Problem σ :=
  match part with
  | none => .ok s₀
  | some (.mapping entries) => entries.foldlM (fun s (key, v) => assign set s₀ s key v) s₀
  | some _ => .error .noMapping

/-- The settings in a mapping. -/
def ofValue (v : Value) : Except Problem Settings := do
  let extraction ← assignAll ExtractionSettings.set {} (v.find? "extraction")
  let output ← assignAll OutputSettings.set {} (v.find? "output")
  return { extraction, output }

variable [Host]

/-- The mapping in a file: the one at the path, or else one of the default files, if there is any. -/
def fileValue (d : Disk) (path : Option String) : Except Problem Value :=
  match path.filter (· ≠ "") with
  | some path => ofFile d path
  | none =>
    match findFile d [] with
    | some path => ofFile d path
    | none => .ok (.mapping [])

/-- Loads settings, from the environment if one is given. -/
def load (d : Disk) (path : Option String) (env : Option Environment) (checks : Bool := true) :
    Except Problem Settings := do
  let file ← fileValue d path
  let merged : Value := .mapping (← merge (file :: (env.map (·.settings)).toList))
  if checks then check merged
  ofValue merged

end BundleManifest.Settings
