import BundleManifest.Identity
import BundleManifest.Registration.Kind

/-!
# Manifest records

A *record* is one entry of a manifest: what a registration call says about a module or a package.
-/

namespace BundleManifest

/-- One entry of a manifest. -/
structure Record where
  /-- What the call does. -/
  kind : CallKind
  /-- The number of bytes of the call. -/
  size : Int
  /-- The path as the call gives it. -/
  path : String := ""
  /-- Whose entry it is. -/
  identity : Identity := {}
  /-- The body of the module that the call defines. -/
  content : String := ""
  /-- What the path of an alias stands for. -/
  target : String := ""
  deriving DecidableEq, Repr, Inhabited

namespace Record

/-- The record without the body of its module. -/
def withoutContent (r : Record) : Record :=
  { r with content := "" }

end Record

end BundleManifest
