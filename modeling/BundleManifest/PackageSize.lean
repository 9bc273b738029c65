import BundleManifest.Deflate.Size
import BundleManifest.Record

/-!
# Sizes of packages

The module definitions of a bundle are grouped by the name and the version of their package. For each
package, `PackageSize.summarize` says how many modules it has, how many bytes they take in the script,
and how many bytes their bodies take when each is compressed. The largest package comes first;
packages of equal size are in the order of their names and versions.
-/

namespace BundleManifest

/-- The size of a version of a package. -/
structure PackageSize where
  /-- The name of the package. -/
  packageName : String
  /-- Its version. -/
  version : String
  /-- The number of its modules. -/
  modules : Nat
  /-- The number of bytes that they take. -/
  size : Int
  /-- The number of bytes that their compressed bodies take. -/
  gzip : Nat
  deriving DecidableEq, Repr, Inhabited

namespace PackageSize

/-- The size of a package of which one module is known. -/
def ofRecord (r : Record) : PackageSize where
  packageName := r.identity.packageName
  version := r.identity.version
  modules := 1
  size := r.size
  gzip := Deflate.fileSize r.content

/-- Whether a module belongs to the package. -/
def holds (p : PackageSize) (r : Record) : Bool :=
  p.packageName = r.identity.packageName && p.version = r.identity.version

/-- The size with one more module. -/
def withRecord (p : PackageSize) (r : Record) : PackageSize :=
  { p with
    modules := p.modules + 1
    size := p.size + r.size
    gzip := p.gzip + Deflate.fileSize r.content }

/-- The sizes with one more module, in the order in which the packages appeared. -/
def add : List PackageSize → Record → List PackageSize
  | [], r => [ofRecord r]
  | p :: rest, r => if p.holds r then p.withRecord r :: rest else p :: add rest r

/-- Whether a package is listed before another one, or may be. -/
def listedBefore (p q : PackageSize) : Bool :=
  if p.size ≠ q.size then q.size < p.size
  else if p.packageName ≠ q.packageName then p.packageName < q.packageName
  else p.version ≤ q.version

/-- The sizes of the packages whose modules some records define. -/
def summarize (records : List Record) : List PackageSize :=
  ((records.filter (·.kind = .define)).foldl add []).mergeSort listedBefore

end PackageSize

end BundleManifest
