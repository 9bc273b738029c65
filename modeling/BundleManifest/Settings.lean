import BundleManifest.Settings.Check

/-!
# Settings

The *settings* say what is decoded from bundles and how manifests are written. They are in two
sections, and each setting has a key, under which it occurs in files.

A setting holds any value whatever, for settings are changed one by one and are checked only on
demand.
-/

namespace BundleManifest

/-- What is decoded from bundles. -/
structure ExtractionSettings where
  /-- The receiver of the calls that count. Nothing stands for any receiver. -/
  receiver : Value := .null
  /-- Whether the bodies of modules are taken. -/
  includeContent : Value := .bool true
  /-- Whether the loader of the bundle is taken. -/
  includeLoader : Value := .bool true
  deriving Repr, Inhabited

/-- How manifests are written. -/
structure OutputSettings where
  /-- The name of manifests. -/
  manifestName : Value := .text "lasso-stats.json"
  /-- The directory of manifests. Without one, a manifest is beside its bundle. -/
  directory : Value := .null
  /-- The number of spaces of each level of nesting. -/
  indent : Value := .int 2
  /-- The encoding of bundles. -/
  encoding : Value := .text "utf-8"
  deriving Repr, Inhabited

/-- The settings. -/
structure Settings where
  /-- What is decoded from bundles. -/
  extraction : ExtractionSettings := {}
  /-- How manifests are written. -/
  output : OutputSettings := {}
  deriving Repr, Inhabited

namespace ExtractionSettings

/-- Changes the setting with a key. Other keys mean nothing. -/
def set (s : ExtractionSettings) (key : String) (v : Value) : ExtractionSettings :=
  if key = "receiver" then { s with receiver := v }
  else if key = "include_content" then { s with includeContent := v }
  else if key = "include_loader" then { s with includeLoader := v }
  else s

/-- The settings as a value. -/
def toValue (s : ExtractionSettings) : Value :=
  .record
    [("receiver", s.receiver), ("include_content", s.includeContent),
      ("include_loader", s.includeLoader)]

end ExtractionSettings

namespace OutputSettings

/-- Changes the setting with a key. Other keys mean nothing. -/
def set (s : OutputSettings) (key : String) (v : Value) : OutputSettings :=
  if key = "manifest_name" then { s with manifestName := v }
  else if key = "output_dir" then { s with directory := v }
  else if key = "indent" then { s with indent := v }
  else if key = "encoding" then { s with encoding := v }
  else s

/-- The settings as a value. -/
def toValue (s : OutputSettings) : Value :=
  .record
    [("manifest_name", s.manifestName), ("output_dir", s.directory), ("indent", s.indent),
      ("encoding", s.encoding)]

end OutputSettings

namespace Settings

/-- The settings as a value. -/
def toValue (s : Settings) : Value :=
  .record [("extraction", s.extraction.toValue), ("output", s.output.toValue)]

/-- Checks the settings. -/
def validate (s : Settings) : Except Problem Unit :=
  check s.toValue

/-- A value as part of the summary, or other words if it is empty. -/
def shownOr (words : String) (v : Value) : String :=
  if v.truthy then v.shown else words

/-- The settings for people. -/
def summary (s : Settings) : String :=
  "lasso-unpack Configuration Summary:\n"
  ++ "Extraction:\n"
  ++ "  - Receiver: " ++ shownOr "any" s.extraction.receiver ++ "\n"
  ++ "  - Include content: " ++ s.extraction.includeContent.shown ++ "\n"
  ++ "  - Include loader: " ++ s.extraction.includeLoader.shown ++ "\n"
  ++ "\n"
  ++ "Output:\n"
  ++ "  - Manifest name: " ++ s.output.manifestName.shown ++ "\n"
  ++ "  - Output directory: " ++ shownOr "alongside input" s.output.directory ++ "\n"
  ++ "  - Indent: " ++ s.output.indent.shown ++ "\n"
  ++ "  - Encoding: " ++ s.output.encoding.shown ++ "\n"

end Settings

end BundleManifest
