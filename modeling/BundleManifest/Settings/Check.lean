import BundleManifest.Problem
import BundleManifest.Text.Blank
import BundleManifest.Text.Pieces
import BundleManifest.Value

/-!
# Checking settings

Settings that come from a file or from the environment are checked before they are used. A section may
be left out, and so may every setting in it; unknown settings are not looked at.

What is no section at all is not always found out: a text or a collection without the names of the
settings passes as a section for the output in which nothing is set.
-/

namespace BundleManifest.Settings

/-- The value of a key, if the key is there. A text or a collection that is no mapping must not hold
    the key. -/
def field? (v : Value) (key : String) : Except Problem (Option Value) :=
  match v with
  | .mapping _ => .ok (v.find? key)
  | .list items | .tuple items | .set items =>
    if items.any (·.sameKey (.text key)) then .error .wrongType else .ok none
  | .text s => if Text.occurs key.toList s.toList then .error .wrongType else .ok none
  | _ => .error .wrongType

/-- Refuses a value that does not pass a test. A setting that is left out passes. -/
def require (test : Value → Bool) (fault : Fault) (v : Option Value) : Except Problem Unit :=
  if v.all test then .ok () else .error (.settings fault)

/-- Whether a value is nothing or names a receiver. -/
def isReceiver : Value → Bool
  | .null => true
  | .text s => !(Text.strip s.toList).isEmpty
  | _ => false

/-- Whether a value is on or off. -/
def isFlag : Value → Bool
  | .bool _ => true
  | _ => false

/-- Whether a value is the name of a file, without a directory. -/
def isBareName : Value → Bool
  | .text s => s ≠ "" && !s.toList.contains '/'
  | _ => false

/-- Whether a value is a natural number. -/
def isNatural : Value → Bool
  | .int n => 0 ≤ n
  | _ => false

/-- Whether a value is a text. -/
def isText : Value → Bool
  | .text _ => true
  | _ => false

/-- Checks the section about what is decoded. -/
def checkExtraction (part : Value) : Except Problem Unit :=
  match part with
  | .mapping _ => do
    require isReceiver .receiver (part.find? "receiver")
    require isFlag (.flag "include_content") (part.find? "include_content")
    require isFlag (.flag "include_loader") (part.find? "include_loader")
  | _ => .error .noMapping

/-- Checks the section about what is written. -/
def checkOutput (part : Value) : Except Problem Unit := do
  require isBareName .manifestName (← field? part "manifest_name")
  require isNatural .indent (← field? part "indent")
  require isText .encoding (← field? part "encoding")

/-- Checks settings. -/
def check (v : Value) : Except Problem Unit := do
  if let some part ← field? v "extraction" then checkExtraction part
  if let some part ← field? v "output" then checkOutput part

end BundleManifest.Settings
