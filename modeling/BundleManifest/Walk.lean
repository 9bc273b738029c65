import BundleManifest.Bundle
import BundleManifest.Registration.Build
import BundleManifest.Script.Preorder

/-!
# The walk over a bundle

A bundle is decoded in one pass over its tree, in source order. Ordinary code is searched for
registrations at any depth, but below a registration there is no search: its arguments are module
bodies and the loader's own code.

The result tells a bundle without statements from one without registrations.
-/

namespace BundleManifest

open Script

/-- Whether there was anything to decode. -/
inductive WalkStatus where
  | ok
  | emptyInput
  deriving DecidableEq, Repr, Inhabited

/-- What was decoded from a bundle. -/
structure WalkResult where
  /-- Whether there was anything to decode. -/
  status : WalkStatus
  /-- The records, in source order. -/
  records : List Record := []
  deriving DecidableEq, Repr, Inhabited

/-- What a walk looks for and what it takes. -/
structure Walker where
  /-- Which calls count as registrations. -/
  classifier : Classifier := {}
  /-- What is taken out of them. -/
  extraction : Extraction := {}
  deriving DecidableEq, Repr, Inhabited

namespace Walker

/-- The registrations of a bundle that are not below another one, in source order. -/
def registrations (w : Walker) (b : Bundle) : List Registration :=
  Node.outermost (w.classifier.classify b.source) [b.root]

/-- The records of a bundle, in source order. -/
def records (w : Walker) (b : Bundle) : List Record :=
  (w.registrations b).filterMap (w.extraction.build b.source)

/-- Decodes a bundle. -/
def walk (w : Walker) (b : Bundle) : WalkResult :=
  if b.statementCount = 0 then { status := .emptyInput }
  else { status := .ok, records := w.records b }

end Walker

end BundleManifest
