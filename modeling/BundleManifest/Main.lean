import BundleManifest.CommandLine.Run
import BundleManifest.Report.Usual
import BundleManifest.Settings.Usual

/-!
# The tool

Running the tool is a function on disks, so the tool looks at the places of the machine's disk that
matter before it runs, and writes afterwards what has changed. Places that matter are those on the way
to a path of the command line or to a default settings file. If the run has put something at a place
that was never looked at, and the machine's disk holds something there, the run is repeated with what
is now known.
-/

namespace BundleManifest.Main

open scoped Usual

section Runs

variable [Settings.Host]

/-- The paths that a command line names, with those of the default settings files. -/
def pathsOf (words : List String) : List String :=
  match CommandLine.parse words with
  | .ok (.run a) => a.inputs ++ a.config.toList ++ a.outputDir.toList ++ Settings.defaultPaths
  | _ => []

/-- The places on the way to a path, from the root on. -/
def placesTo (home : Place) (path : String) : List Place :=
  let p := Path.join { root := .single, names := home } path
  (List.range (p.names.length + 1)).map fun n => { p with names := p.names.take n }.absoluteNames []

/-- The path of a place. -/
def pathOf (place : Place) : String :=
  Path.text { root := .single, names := place }

/-- Looks at a place of the machine's disk whose directory is known to be there. -/
def look (place : Place) : IO (Option Entry) := do
  match ← (IO.FS.readBinFile (pathOf place)).toBaseIO with
  | .ok bytes => return some (.file bytes.toList)
  | .error (.inappropriateType ..) => return some .directory
  | .error _ => return none

/-- The disk with what is found at a place, unless this is known already. -/
def learn (d : Disk) (place : Place) : IO Disk := do
  if (d.get? place).isNone ∧ d.get? place.dropLast = some .directory then
    match ← look place with
    | some e => return d.put place e
    | none => return d
  else return d

/-- What a run has put on the disk. -/
def changes (before after : Disk) : List (Place × Entry) :=
  after.entries.filter fun (place, e) => before.get? place ≠ some e

/-- Runs the tool until it depends on nothing that is not known. -/
partial def settle (d : Disk) (env : Environment) (words : List String) :
    IO (List (Place × Entry) × Except Problem CommandLine.Exit) := do
  let (after, result) := CommandLine.run d env words
  let changed := changes d after
  let known ← changed.foldlM (fun d (place, _) => learn d place) d
  if known.entries.length = d.entries.length then return (changed, result)
  else settle known env words

end Runs

/-- Puts something at a place of the machine's disk. -/
def putEntry : Place × Entry → IO Unit
  | (place, .directory) => IO.FS.createDir (pathOf place)
  | (place, .file bytes) => IO.FS.writeBinFile (pathOf place) ⟨bytes.toArray⟩

/-- The variables of the environment that are settings. -/
def environment : IO Environment :=
  Environment.variableNames.filterMapM fun name => do
    return (← IO.getEnv name).map (name, ·)

/-- Runs the tool on the machine's disk. -/
def runTool (words : List String) : IO UInt32 := do
  let _ : Settings.Host := Usual.hostAt ((← IO.getEnv "HOME").getD "~")
  let home := (Path.ofText (← IO.currentDir).toString).names
  let places := (pathsOf words).flatMap (placesTo home)
  let d ← places.foldlM learn { home }
  let (changed, result) ← settle d (← environment) words
  changed.forM putEntry
  match result with
  | .ok exit =>
    IO.print exit.out
    IO.eprint exit.err
    return exit.status.toUInt32
  | .error p =>
    IO.eprintln (p.message?.getD "The settings cannot be used")
    return 1

end BundleManifest.Main

/-- Runs the tool with the words of the command line. -/
def main (words : List String) : IO UInt32 :=
  BundleManifest.Main.runTool words
