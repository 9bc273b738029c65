import BundleManifest.Script.SyntaxError
import BundleManifest.Settings.Fault
import BundleManifest.Text.Encoding
import BundleManifest.Yaml.Place

/-!
# Problems

Why something could not be done. A person can do something about most problems, and is told what they
are; the others come from settings of a type that nobody expects, which are only found where they are
used.
-/

namespace BundleManifest

/-- Why something could not be done. -/
inductive Problem where
  /-- A script is faulty. -/
  | script (error : Script.SyntaxError)
  /-- Settings are faulty. -/
  | settings (fault : Settings.Fault)
  /-- The disk refuses something. -/
  | disk (error : Disk.Error)
  /-- Some bytes are no text. -/
  | decoding (error : Text.DecodingError)
  /-- No encoding has the name. -/
  | unknownEncoding
  /-- The name of an encoding holds a character that no name can hold. -/
  | badName
  /-- A scalar of a file in YAML format is no value of its type. -/
  | scalar (fault : Yaml.Fault)
  /-- An integer of a file in JSON format has more digits than are read. -/
  | tooManyDigits
  /-- Too much is nested in a value. -/
  | tooDeep
  /-- A number is too large to be used. -/
  | tooLarge
  /-- A value has a type that cannot be used. -/
  | wrongType
  /-- A value that is no mapping, or no value at all, is used as a mapping. -/
  | noMapping
  /-- A section of settings does not let this be changed. -/
  | fixed
  /-- A text for the terminal has markup that does not match. -/
  | markup
  deriving DecidableEq, Repr

/-- The problem in words, if there are any. -/
def Problem.message? : Problem → Option String
  | script error => some error.message
  | settings fault => some fault.message
  | disk error => if error.fault = .badCharacter then none else some error.message
  | decoding error => some error.message
  | _ => none

end BundleManifest
