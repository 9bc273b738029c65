import BundleManifest.Settings.Check
import BundleManifest.Text.Integer

/-!
# Settings from the environment

Six variables of the environment are settings. A variable that is empty counts as not set. The value
of a flag is never wrong; a name or a number that would not pass the check is left out, with a
warning.
-/

namespace BundleManifest

/-- The variables of an environment. -/
abbrev Environment : Type := List (String × String)

namespace Environment

/-- The variable of a setting. -/
def variableName (name : String) : String :=
  "LASSO_UNPACK_" ++ name

/-- The variables that are settings. -/
def variableNames : List String :=
  ["RECEIVER", "INCLUDE_CONTENT", "INCLUDE_LOADER", "MANIFEST_NAME", "OUTPUT_DIR", "INDENT"].map
    variableName

/-- The value of the variable of a setting, unless it is empty. -/
def value? (env : Environment) (name : String) : Option String :=
  (env.lookup (variableName name)).filter (· ≠ "")

/-- The variables with one of them changed, or removed. -/
def set (env : Environment) (name : String) (value : Option String) : Environment :=
  let others := env.filter (·.1 ≠ name)
  match value with
  | some v => (name, v) :: others
  | none => others

/-- Whether the value of a variable means that something is on. -/
def isOn (value : String) : Bool :=
  let word := String.ofList ((Text.strip value.toList).map Char.toLower)
  ["1", "true", "yes", "on"].contains word

/-- The name of manifests in a variable. -/
def manifestName? (value : String) : Option Value :=
  if value.toList.contains '/' then none else some (.text value)

/-- The indentation of manifests in a variable. -/
def indent? (value : String) : Option Value :=
  match Text.integer? value.toList with
  | some n => if n < 0 then none else some (.int n)
  | none => none

/-- The settings about what is decoded. -/
def extraction (env : Environment) : List (String × Value) :=
  ((env.value? "RECEIVER").map fun v => ("receiver", Value.text v)).toList
  ++ ((env.value? "INCLUDE_CONTENT").map fun v => ("include_content", Value.bool (isOn v))).toList
  ++ ((env.value? "INCLUDE_LOADER").map fun v => ("include_loader", Value.bool (isOn v))).toList

/-- The settings about what is written. -/
def output (env : Environment) : List (String × Value) :=
  (((env.value? "MANIFEST_NAME").bind manifestName?).map fun v => ("manifest_name", v)).toList
  ++ ((env.value? "OUTPUT_DIR").map fun v => ("output_dir", Value.text v)).toList
  ++ (((env.value? "INDENT").bind indent?).map fun v => ("indent", v)).toList

/-- The settings in an environment. A section without settings is left out. -/
def settings (env : Environment) : Value :=
  let part (key : String) (fields : List (String × Value)) : List (String × Value) :=
    if fields.isEmpty then [] else [(key, .record fields)]
  .record (part "extraction" env.extraction ++ part "output" env.output)

/-- What is said about a variable whose value is left out. -/
def warning (name : String) : String :=
  "Invalid " ++ variableName name ++ " value, using default"

/-- The warning about a variable, if its value is left out. -/
def warning? (env : Environment) (name : String) (read : String → Option Value) : Option String :=
  match env.value? name with
  | some v => if (read v).isNone then some (warning name) else none
  | none => none

/-- The warnings about the variables whose values are left out. -/
def warnings (env : Environment) : List String :=
  (env.warning? "MANIFEST_NAME" manifestName?).toList ++ (env.warning? "INDENT" indent?).toList

end Environment

end BundleManifest
