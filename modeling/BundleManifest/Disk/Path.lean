import BundleManifest.Text.Pieces

/-!
# Paths

A path is a list of names with a separator between two of them, behind a root if it is absolute. Two
separators at the beginning are a root of its own. Empty names and the name `.` mean nothing and are
not kept; the name `..` is.

* `Path.ofText` reads a path, and `Path.text` writes it;
* `Path.parent` and `Path.join` go from a path to its directory, and from a directory to a path in it.
-/

namespace BundleManifest

/-- Where a path begins. -/
inductive Path.Root where
  /-- At the working directory. -/
  | relative
  /-- At the root. -/
  | single
  /-- At the root that is written with two separators. -/
  | double
  deriving DecidableEq, Repr, Inhabited

/-- A path. -/
structure Path where
  /-- Where it begins. -/
  root : Path.Root := .relative
  /-- Its names. -/
  names : List String := []
  deriving DecidableEq, Repr, Inhabited

namespace Path

/-- The character between two names. -/
def separator : Char := '/'

/-- The name of the directory itself. -/
def hereName : String := "."

/-- The name of the directory above. -/
def aboveName : String := ".."

/-- The root of a text, from the number of separators at its beginning. -/
def Root.ofText (text : List Char) : Root :=
  match (text.takeWhile (· = separator)).length with
  | 0 => relative
  | 2 => double
  | _ => single

/-- The text of a root. -/
def Root.text : Root → String
  | relative => ""
  | single => "/"
  | double => "//"

/-- The names in a text that mean something. -/
def namesOf (text : List Char) : List String :=
  ((Text.pieces separator text).map String.ofList).filter fun name => name ≠ "" ∧ name ≠ hereName

/-- Reads a path. -/
def ofText (text : String) : Path :=
  ⟨.ofText text.toList, namesOf text.toList⟩

/-- Writes a path. -/
def text (p : Path) : String :=
  if p.root = .relative ∧ p.names = [] then hereName
  else p.root.text ++ "/".intercalate p.names

/-- The directory of a path. -/
def parent (p : Path) : Path :=
  { p with names := p.names.dropLast }

/-- The path that a text names in a directory. An absolute path does not depend on the directory. -/
def join (p : Path) (text : String) : Path :=
  let q := ofText text
  if q.root = .relative then { p with names := p.names ++ q.names } else q

/-- The last name. -/
def name? (p : Path) : Option String :=
  p.names.getLast?

/-- The names of a path from the root on, when a relative one begins at `home` and every name `..`
    takes the name before it away. -/
def absoluteNames (home : List String) (p : Path) : List String :=
  p.names.foldl (fun acc name => if name = aboveName then acc.dropLast else acc ++ [name])
    (if p.root = .relative then home else [])

/-- The absolute path without any name `..`. -/
def resolve (home : List String) (p : Path) : Path :=
  ⟨.single, p.absoluteNames home⟩

end Path

end BundleManifest
