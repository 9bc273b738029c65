import BundleManifest.Identity
import BundleManifest.Text.Pieces

/-!
# Module paths

A bundle names each of its modules with a path in which the package segment carries the version
after a `$`:

* `/lodash$4.17.0/lib/index` is the file `lib/index` of `lodash`, version `4.17.0`;
* `/@scope/pkg$2.0.0/lib/a` is the file `lib/a` of `@scope/pkg`, version `2.0.0`;
* `/events/events` is the file `events` of `events`, whose version is not known.

`ModulePath.decode` takes a path apart segment by segment. The first segment with a `$` is the
boundary of the package, and all segments before it belong to the name of the package. No text is
refused: a shape that means nothing decodes to an identity with empty pieces.
-/

namespace BundleManifest.ModulePath

/-- The character between a package name and its version. -/
def versionMark : Char := '$'

/-- The character between two segments. -/
def separator : Char := '/'

/-- The segments put together again, with a separator between two of them. -/
def joined (segments : List (List Char)) : List Char :=
  List.intercalate [separator] segments

/-- The path without its root separator. -/
def unrooted : List Char → List Char
  | [] => []
  | c :: rest => if c = separator then rest else c :: rest

/-- The segments of a path, after its root separator. -/
def segments (path : List Char) : List (List Char) :=
  Text.pieces separator (unrooted path)

/-- The place of the first segment that carries a version mark. -/
def packageSegment? (segments : List (List Char)) : Option Nat :=
  segments.findIdx? (·.contains versionMark)

/-- The identity made of three pieces of text. -/
def identity (name version file : List Char) : Identity :=
  { packageName := String.ofList name, version := String.ofList version,
    fileName := String.ofList file }

/-- The identity of the module at a path, given as characters. Without a version mark the first
    segment is the package. -/
def decodeChars (path : List Char) : Identity :=
  if path.isEmpty then {}
  else
    let parts := segments path
    match packageSegment? parts with
    | none => identity (parts.headD []) [] (joined parts.tail)
    | some i =>
      let package := parts.getD i []
      identity
        (joined (parts.take i ++ [package.takeWhile (· ≠ versionMark)]))
        ((package.dropWhile (· ≠ versionMark)).drop 1)
        (joined (parts.drop (i + 1)))

/-- The identity of the module at a path. -/
def decode (path : String) : Identity :=
  decodeChars path.toList

@[simp]
theorem decode_empty : decode "" = {} := by
  simp [decode, decodeChars]

end BundleManifest.ModulePath
