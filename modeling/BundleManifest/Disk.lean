import BundleManifest.Disk.Path
import BundleManifest.Text.Quoted
import BundleManifest.Text.Utf8

/-!
# The disk

A disk holds files and directories. A path is followed from the root or from the working directory,
name by name, and everything on the way has to be a directory.

What the disk holds is given by `Disk.get?`. Writing a file and making a directory are `Disk.put` at
the place that the path leads to, and change nothing else.
-/

namespace BundleManifest

/-- What is at a place of the disk. -/
inductive Entry where
  | file (bytes : List UInt8)
  | directory
  deriving DecidableEq, Repr

/-- Why the disk refuses something. -/
inductive Disk.Fault where
  /-- There is nothing at the path. -/
  | missing
  /-- There is something at the path already. -/
  | occupied
  /-- Something on the way is no directory. -/
  | notDirectory
  /-- There is a directory at the path. -/
  | isDirectory
  /-- A name or the path is too long. -/
  | tooLong
  /-- The path holds a character that no path can hold. -/
  | badCharacter
  deriving DecidableEq, Repr

/-- A place of the disk: the names from the root on. -/
abbrev Place : Type := List String

/-- Files and directories, with a working directory. -/
structure Disk where
  /-- What is at the places of the disk, apart from the root. -/
  entries : List (Place × Entry) := []
  /-- The working directory. -/
  home : Place := []
  deriving DecidableEq, Repr, Inhabited

namespace Disk

/-- A refusal, with the path as it was given. -/
structure Error where
  /-- Why it was refused. -/
  fault : Fault
  /-- The path. -/
  path : String
  deriving DecidableEq, Repr

/-- The number and the words of a refusal. -/
def Fault.words : Fault → String
  | missing => "[Errno 2] No such file or directory"
  | occupied => "[Errno 17] File exists"
  | notDirectory => "[Errno 20] Not a directory"
  | isDirectory => "[Errno 21] Is a directory"
  | tooLong => "[Errno 36] File name too long"
  | badCharacter => "embedded null byte"

/-- A refusal in words. -/
def Error.message (e : Error) : String :=
  if e.fault = .badCharacter then e.fault.words else e.fault.words ++ ": " ++ Text.quoted e.path

/-- What is at a place. -/
def get? (d : Disk) (place : Place) : Option Entry :=
  if place = [] then some .directory else d.entries.lookup place

/-- Puts something at a place of some entries. -/
def putIn (place : Place) (e : Entry) : List (Place × Entry) → List (Place × Entry)
  | [] => [(place, e)]
  | (p, old) :: rest => if p = place then (p, e) :: rest else (p, old) :: putIn place e rest

/-- Puts something at a place. -/
def put (d : Disk) (place : Place) (e : Entry) : Disk :=
  { d with entries := putIn place e d.entries }

/-- What was put somewhere is found there, and everything else is found where it was. -/
theorem lookup_putIn (place other : Place) (e : Entry) (entries : List (Place × Entry)) :
    (putIn place e entries).lookup other =
      if other = place then some e else entries.lookup other := by
  induction entries with
  | nil =>
    by_cases h : other = place
    · simp [putIn, h]
    · simp [putIn, h, List.lookup_cons, beq_eq_false_iff_ne.2 h]
  | cons head rest ih =>
    obtain ⟨p, old⟩ := head
    by_cases hp : p = place
    · subst hp
      by_cases ho : other = p
      · simp [putIn, ho]
      · simp [putIn, List.lookup_cons, ho, beq_eq_false_iff_ne.2 ho]
    · by_cases ho : other = p
      · subst ho
        simp [putIn, hp]
      · simp [putIn, hp, List.lookup_cons, beq_eq_false_iff_ne.2 ho, ih]

/-- What is at the places after something was put at one of them. -/
theorem get?_put (d : Disk) {place : Place} (h : place ≠ []) (e : Entry) (other : Place) :
    (d.put place e).get? other = if other = place then some e else d.get? other := by
  by_cases ho : other = []
  · subst ho
    simp [get?, Ne.symm h]
  · simp [get?, put, ho, lookup_putIn]

/-- The greatest number of bytes of a name. -/
def maxNameBytes : Nat := 255

/-- The greatest number of bytes of a path. -/
def maxPathBytes : Nat := 4095

/-- Follows names from a place on. The last name may lead to a place where there is nothing. -/
def follow (d : Disk) : Place → List String → Except Fault Place
  | place, [] => .ok place
  | place, name :: rest =>
    match d.get? place with
    | none => .error .missing
    | some (.file _) => .error .notDirectory
    | some .directory =>
      if name = "" ∨ name = Path.hereName then d.follow place rest
      else if name = Path.aboveName then d.follow place.dropLast rest
      else if maxNameBytes < name.utf8ByteSize then .error .tooLong
      else d.follow (place ++ [name]) rest

/-- The place to which a path leads. -/
def locate (d : Disk) (path : String) : Except Fault Place :=
  if path.toList.contains '\x00' then .error .badCharacter
  else if path = "" then .error .missing
  else if maxPathBytes < path.utf8ByteSize then .error .tooLong
  else
    d.follow (if path.toList.head? = some Path.separator then [] else d.home)
      ((Text.pieces Path.separator path.toList).map String.ofList)

/-- What a path leads to. -/
def find? (d : Disk) (path : String) : Option Entry :=
  match d.locate path with
  | .ok place => d.get? place
  | .error _ => none

/-- Whether a path leads to something. -/
def contains (d : Disk) (path : String) : Bool :=
  (d.find? path).isSome

/-- Whether a path leads to a directory. -/
def hasDirectory (d : Disk) (path : String) : Bool :=
  d.find? path = some .directory

/-- The bytes of the file at a path. -/
def read (d : Disk) (path : String) : Except Error (List UInt8) :=
  match d.locate path with
  | .error fault => .error ⟨fault, path⟩
  | .ok place =>
    match d.get? place with
    | none => .error ⟨.missing, path⟩
    | some .directory => .error ⟨.isDirectory, path⟩
    | some (.file bytes) => .ok bytes

/-- Writes a file. A path that ends with a separator names none. -/
def write (d : Disk) (path : String) (bytes : List UInt8) : Except Error Disk :=
  let namesFolder := 1 < path.length && path.toList.getLast? = some Path.separator
  let path' := if namesFolder then String.ofList path.toList.dropLast else path
  match d.locate path' with
  | .error fault => .error ⟨fault, path⟩
  | .ok place =>
    if namesFolder ∨ d.get? place = some .directory then .error ⟨.isDirectory, path⟩
    else .ok (d.put place (.file bytes))

/-- Makes a directory. -/
def makeDirectory (d : Disk) (path : String) : Except Fault Disk :=
  match d.locate path with
  | .error fault => .error fault
  | .ok place =>
    if (d.get? place).isSome then .error .occupied else .ok (d.put place .directory)

/-- The result of making a directory that may be there already. -/
def orPresent (d : Disk) (path : String) : Except Fault Disk → Disk × Except Error Unit
  | .ok d' => (d', .ok ())
  | .error fault =>
    if fault ≠ .missing ∧ d.hasDirectory path then (d, .ok ()) else (d, .error ⟨fault, path⟩)

/-- Makes a directory and the directories above it, as far as they are not there. -/
def makeDirectories (d : Disk) (p : Path) : Disk × Except Error Unit :=
  match d.makeDirectory p.text with
  | .error .missing =>
    if p.names = [] then (d, .error ⟨.missing, p.text⟩)
    else
      match makeDirectories d p.parent with
      | (d, .error e) => (d, .error e)
      | (d, .ok ()) => d.orPresent p.text (d.makeDirectory p.text)
  | result => d.orPresent p.text result
  termination_by p.names.length
  decreasing_by
    have : p.names.length ≠ 0 := by simpa using ‹¬p.names = []›
    simp [Path.parent]
    omega

/-- The paths of everything below the working directory, in order. The path of a directory ends with a
    separator. -/
def listing (d : Disk) : List String :=
  let below := d.entries.filterMap fun (place, e) =>
    if d.home.isPrefixOf place ∧ place ≠ d.home then
      let path := "/".intercalate (place.drop d.home.length)
      some (if e = .directory then path ++ "/" else path)
    else none
  below.mergeSort (· ≤ ·)

end Disk

end BundleManifest
