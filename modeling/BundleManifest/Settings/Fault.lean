import BundleManifest.Disk
import BundleManifest.Json.Reader

/-!
# Faults of settings

What can be wrong with settings and with the files that hold them.
-/

namespace BundleManifest.Settings

/-- What is wrong with settings. -/
inductive Fault where
  /-- There is no file at the path. -/
  | noFile (path : String)
  /-- The file cannot be read. -/
  | unreadable (error : Disk.Error)
  /-- The file is not in JSON format. -/
  | noJson (error : Json.Error)
  /-- The file is not in YAML format. -/
  | noYaml
  /-- The file holds something else than a mapping. -/
  | noMapping (path : String)
  /-- The file cannot be written. -/
  | unwritable (error : Disk.Error)
  /-- The receiver is no text, or an empty one. -/
  | receiver
  /-- The setting with this key is neither on nor off. -/
  | flag (key : String)
  /-- The name of manifests is no text, or leads out of the directory. -/
  | manifestName
  /-- The indentation of manifests is no natural number. -/
  | indent
  /-- The encoding of bundles is no text. -/
  | encoding
  deriving DecidableEq, Repr

/-- What is wrong, in words. -/
def Fault.message : Fault → String
  | noFile path => "Configuration file not found: " ++ path
  | unreadable error => "Error reading configuration file: " ++ error.message
  | noJson error => "Invalid configuration file format: " ++ error.message
  | noYaml => "Invalid configuration file format"
  | noMapping path => "Configuration file must contain a mapping: " ++ path
  | unwritable error => "Error saving configuration file: " ++ error.message
  | receiver => "receiver must be a non-empty string"
  | flag key => key ++ " must be a boolean"
  | manifestName => "manifest_name must be a bare file name"
  | indent => "indent must be a non-negative integer"
  | encoding => "encoding must be a string"

end BundleManifest.Settings
