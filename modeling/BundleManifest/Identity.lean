/-!
# Package identities

An *identity* says which file of which package a module is: the name of the package, its version
and the path of the file inside it. Pieces that are not known stay empty.

* `Identity.stem`: the `name$version` text with which the path of a versioned module begins;
* `Identity.ofEdge`: the identity of a dependency edge, whose name and version are given apart.
-/

namespace BundleManifest

/-- Which file of which package a module is. An empty text stands for a piece that is not known. -/
structure Identity where
  /-- The name of the package, with its scope if it has one. -/
  packageName : String := ""
  /-- The version of the package. -/
  version : String := ""
  /-- The path of the file inside the package. -/
  fileName : String := ""
  deriving DecidableEq, Repr, Inhabited

namespace Identity

/-- The text with which the path of a module of this package begins, after the root separator: the
    name alone when no version is known. -/
def stem (i : Identity) : String :=
  if i.version = "" then i.packageName else i.packageName ++ "$" ++ i.version

theorem stem_of_version_eq_empty {i : Identity} (h : i.version = "") : i.stem = i.packageName := by
  simp [stem, h]

theorem stem_of_version_ne_empty {i : Identity} (h : i.version ≠ "") :
    i.stem = i.packageName ++ "$" ++ i.version := by
  simp [stem, h]

/-- The identity of a dependency edge. Name and version arrive as separate texts, so that nothing is
    taken apart, and there is no file. -/
def ofEdge (name version : Option String) : Identity :=
  { packageName := name.getD "", version := version.getD "" }

@[simp]
theorem fileName_ofEdge (name version : Option String) : (ofEdge name version).fileName = "" := rfl

end Identity

end BundleManifest
