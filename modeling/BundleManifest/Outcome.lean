import BundleManifest.Json.Printer
import BundleManifest.Walk

/-!
# Outcomes

The *outcome* of a file says what became of it: what was decoded from it, where its manifest is, and
what went wrong. It is reported as a line of text or as a value.
-/

namespace BundleManifest

/-- What became of a file. -/
structure Outcome where
  /-- The file. -/
  input : String
  /-- What was decoded from it. -/
  result : Option WalkResult := none
  /-- Where its manifest is. -/
  manifest : Option String := none
  /-- What went wrong. -/
  error : Option String := none
  deriving DecidableEq, Repr, Inhabited

namespace WalkResult

/-- Whether the bundle has no statements. -/
def isEmptyInput (r : WalkResult) : Bool :=
  r.status = .emptyInput

end WalkResult

namespace Outcome

/-- What is said about a bundle without statements. -/
def emptyMessage : String := "Empty File"

/-- Whether nothing went wrong. -/
def success (o : Outcome) : Bool :=
  o.error.isNone

/-- Whether the bundle has no statements. -/
def isEmptyInput (o : Outcome) : Bool :=
  o.result.any (·.isEmptyInput)

/-- The number of records. -/
def count (o : Outcome) : Nat :=
  (o.result.map (·.records.length)).getD 0

/-- The outcome as a line of text. -/
def line (o : Outcome) : String :=
  o.input ++ ": " ++
    match o.error with
    | some error => error
    | none =>
      if o.isEmptyInput then emptyMessage
      else
        toString o.count ++ (if o.count = 1 then " record" else " records") ++ " -> "
          ++ o.manifest.getD "None"

/-- The outcome as a value. -/
def toValue (o : Outcome) : Value :=
  let text? (s : Option String) : Value := (s.map Value.text).getD .null
  .record
    [("input", .text o.input), ("success", .bool o.success), ("empty_input", .bool o.isEmptyInput),
      ("records", .int o.count), ("manifest", text? o.manifest), ("error", text? o.error)]

end Outcome

end BundleManifest
