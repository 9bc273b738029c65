import BundleManifest.Text.Encoding
import BundleManifest.Value.Keyed
import BundleManifest.Yaml.Place

/-!
# The host of settings

Settings files have one of two formats. The name of a file tells its format when it is read; when it
is written the format is chosen.

Settings are kept on a *host*: a user's computer, with a library for files in YAML format and with a
stack for what is nested in a value. None of this is decided here. A host says so, and promises what
the rest relies on: that a mapping in a file has each of its keys once, and that the stack is enough
for two levels, which settings of scalars have.
-/

namespace BundleManifest

namespace Settings

/-- The format of a settings file. -/
inductive Format where
  | json
  | yaml
  deriving DecidableEq, Repr

/-- The format that the name of a file tells. -/
def Format.ofPath (path : String) : Format :=
  if path.endsWith ".yaml" || path.endsWith ".yml" then .yaml else .json

/-- The format with a name. -/
def Format.ofName (name : String) : Format :=
  if String.ofList (name.toList.map Char.toLower) = "yaml" then .yaml else .json

end Settings

/-- Why a file in YAML format is not read. -/
inductive Yaml.Failure where
  /-- The bytes are no text. -/
  | noText (error : Text.DecodingError)
  /-- The text, or a scalar in it, is faulty. -/
  | fault (fault : Yaml.Fault)
  /-- Too much is nested. -/
  | tooDeep
  deriving DecidableEq, Repr

/-- What is known about the host of settings. -/
class Settings.Host where
  /-- The home directory of the user. -/
  home : String
  /-- How many brackets may be open in a file in JSON format that is read. -/
  depth : Nat
  /-- What is read from a file in YAML format. -/
  readYaml : List UInt8 → Except Yaml.Failure Value
  /-- The text of a mapping in YAML format. -/
  yamlText : List (Value × Value) → List Char
  /-- Whether the stack is enough to copy a value. -/
  copies : Value → Bool
  /-- Behind how many characters the writing of a value is given up, because the stack is not enough
      for it. -/
  givesUp? : Settings.Format → Value → Option Nat
  /-- The brackets of the sections and of all settings may be open. -/
  two_le_depth : 2 ≤ depth
  /-- A mapping has each of its keys once. -/
  keyed_of_readYaml : ∀ {bytes : List UInt8} {v : Value}, readYaml bytes = .ok v → v.Keyed
  /-- The stack is enough to copy settings of scalars. -/
  copies_of_depth : ∀ {v : Value}, v.depth ≤ 2 → copies v = true
  /-- The stack is enough to write settings of scalars. -/
  givesUp?_of_depth : ∀ {format : Settings.Format} {v : Value}, v.depth ≤ 2 → givesUp? format v = none

end BundleManifest
