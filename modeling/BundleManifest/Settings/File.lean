import BundleManifest.Json.Printer
import BundleManifest.Settings
import BundleManifest.Settings.Host
import BundleManifest.Yaml.Printer

/-!
# Settings files

Settings are kept in files, in one of two formats. They are looked for in the working directory and in
the home directory of the user.

A file that is to be written is emptied first, so that it is incomplete if the settings turn out to
have a value that the format cannot express, or if too much is nested in them to be written.
-/

namespace BundleManifest.Settings

variable [Host]

/-- The home directory of the user in paths, without a separator at the end. -/
def homePath : String :=
  String.ofList (Host.home.toList.reverse.dropWhile (· = '/')).reverse

/-- The paths at which settings files are looked for. -/
def defaultPaths : List String :=
  ["lasso-unpack.json", "lasso-unpack.yaml", "lasso-unpack.yml",
    ".lasso-unpack.json", ".lasso-unpack.yaml", ".lasso-unpack.yml",
    homePath ++ "/.lasso-unpack.json", homePath ++ "/.lasso-unpack.yaml"]

/-- The first of some paths that leads to something. Without any paths, the default ones are meant. -/
def findFile (d : Disk) (paths : List String) : Option String :=
  (if paths.isEmpty then defaultPaths else paths).find? d.contains

/-- Reads the text of a JSON file. -/
def ofJson (bytes : List UInt8) : Except Problem Value := do
  let text ← (Text.Encoding.decode .utf8 bytes).mapError Problem.decoding
  match Json.read (Text.withLineFeeds text) (some Json.maxDigits) (some Host.depth) with
  | .ok v => .ok v
  | .error .tooManyDigits => .error .tooManyDigits
  | .error .tooDeep => .error .tooDeep
  | .error e => .error (.settings (.noJson e))

/-- The problem with a file in YAML format that is not read. -/
def ofFailure : Yaml.Failure → Problem
  | .fault .malformed => .settings .noYaml
  | .fault fault => .scalar fault
  | .noText e => .decoding e
  | .tooDeep => .tooDeep

/-- Reads the text of a YAML file. Anything empty counts as an empty mapping. -/
def ofYaml (bytes : List UInt8) : Except Problem Value := do
  let v ← (Host.readYaml bytes).mapError ofFailure
  return if v.truthy then v else .mapping []

/-- Reads a settings file. -/
def ofFile (d : Disk) (path : String) : Except Problem Value :=
  if !d.contains path then .error (.settings (.noFile path))
  else
    match d.read path with
    | .error e => .error (.settings (.unreadable e))
    | .ok bytes => do
      let v ← match Format.ofPath path with
        | .json => ofJson bytes
        | .yaml => ofYaml bytes
      match v with
      | .mapping _ => .ok v
      | _ => .error (.settings (.noMapping path))

/-- The layout of settings files in JSON format. -/
def fileLayout : Json.Layout where
  indent := some [' ', ' ']
  ascii := true
  limit := some Json.maxDigits

/-- The settings in a format, as far as they can be expressed. In YAML format nothing is written
    before all integers are known to be short enough. -/
def expressed (s : Settings) (format : Format) : Json.Written :=
  match format with
  | .json => Json.write fileLayout s.toValue
  | .yaml =>
    match s.toValue with
    | .mapping entries =>
      if Yaml.hasLongEntry entries then .stopped .tooManyDigits else ⟨Host.yamlText entries, none⟩
    | _ => .stopped .noForm

/-- The settings in a format, as far as they are written: until they cannot be expressed, or until the
    writing is given up because too much is nested. -/
def text (s : Settings) (format : Format) : Json.Written :=
  match Host.givesUp? format s.toValue with
  | some n => (s.expressed format).cutAt n
  | none => s.expressed format

/-- The problem with settings that are not written as a whole. -/
def inexpressible : Json.Obstacle → Problem
  | .noForm => .wrongType
  | .tooManyDigits => .tooManyDigits
  | .tooDeep => .tooDeep

/-- Writes a settings file. The settings are copied before the file is opened. -/
def save (s : Settings) (d : Disk) (path : String) (format : Format) : Disk × Except Problem Unit :=
  if !Host.copies s.toValue then (d, .error .tooDeep)
  else
    let w := s.text format
    match d.write path (Utf8.encode w.text) with
    | .error e =>
      (d, .error (if e.fault = .badCharacter then .disk e else .settings (.unwritable e)))
    | .ok d' =>
      match w.obstacle with
      | none => (d', .ok ())
      | some o => (d', .error (inexpressible o))

end BundleManifest.Settings
