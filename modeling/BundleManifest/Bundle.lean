import BundleManifest.Script.Fault

/-!
# Bundles

A *bundle* is a script with its tree. `Bundle.ofText` reads one, and refuses a text that is not the
text of a script.
-/

namespace BundleManifest

open Script

/-- A script with its tree. -/
structure Bundle where
  /-- The bytes of the script. -/
  source : Source
  /-- The tree over them. -/
  root : Node
  deriving Inhabited

namespace Bundle

/-- Reads a bundle. -/
def ofText (text : String) : Except SyntaxError Bundle :=
  let source := Source.ofText text
  let r := reading text.toList
  if r.complete then .ok { source, root := r.root } else .error (.ofTree source r.root)

/-- The number of statements of a script: comments and the line that names an interpreter are none. -/
def statementCount (b : Bundle) : Nat :=
  (b.root.namedChildren.filter fun n => n.kind ≠ .comment ∧ n.kind ≠ .hashBang).length

end Bundle

end BundleManifest
