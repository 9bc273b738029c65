import BundleManifest.ModulePath
import BundleManifest.Record
import BundleManifest.Registration.Call
import BundleManifest.Script.Literal

/-!
# Records of registration calls

Each kind of call has arguments of its own:

* `def(path, factory)`: the path is decoded, and the body of the factory function becomes the content;
* `installed(parent, name, version)`: name and version are taken as they are written;
* `main(path, file)`, `remap(from, to)`, `builtin(name, target)`: the first argument is decoded, and
  the second is the target;
* `run(path)`: no record;
* the loader: a fixed path and identity.

An argument that is missing, or is no string literal, leaves its piece of the record empty.
-/

namespace BundleManifest

open Script

/-- What is taken out of a script. -/
structure Extraction where
  /-- Whether records carry the bodies of modules. -/
  includeContent : Bool := true
  /-- Whether the loader has a record. -/
  includeLoader : Bool := true
  deriving DecidableEq, Repr, Inhabited

/-- The path of the loader. -/
def loaderPath : String := "/module.js"

/-- The identity of the loader. -/
def loaderIdentity : Identity := { packageName := "module.js", fileName := "module.js" }

/-- The source text of the block that is the body of a function expression, with its braces; empty for
    anything else. The text is cut out of the source, so that its layout and comments stay as they
    are. -/
def Script.Node.factoryBody (source : Source) (factory : Option Node) : String :=
  match factory with
  | none => ""
  | some factory =>
    if factory.kind = .function then
      match factory.child? .body with
      | none => ""
      | some body => if body.kind = .statementBlock then body.text source else ""
    else ""

namespace Registration

/-- The value of an argument that is a string literal, and else the empty text. -/
def literal (r : Registration) (source : Source) (i : Nat) : String :=
  ((r.argument? i).bind (Literal.value? source)).getD ""

end Registration

namespace Extraction

/-- The record of a call, if it has one. -/
def build (e : Extraction) (source : Source) (r : Registration) : Option Record :=
  let path := r.literal source 0
  match r.kind with
  | .run => none
  | .bootstrap =>
    if e.includeLoader then
      some { kind := .bootstrap, size := r.size, path := loaderPath, identity := loaderIdentity }
    else none
  | .define =>
    some {
      kind := .define, size := r.size, path, identity := ModulePath.decode path
      content := if e.includeContent then Node.factoryBody source (r.argument? 1) else "" }
  | .installed =>
    some {
      kind := .installed, size := r.size, path
      identity := Identity.ofEdge (r.literal source 1) (r.literal source 2) }
  | kind =>
    some {
      kind, size := r.size, path, identity := ModulePath.decode path
      target := r.literal source 1 }

end Extraction

end BundleManifest
