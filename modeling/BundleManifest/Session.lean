import BundleManifest.CommandLine.Run

/-!
# Sessions

In a session, settings are loaded, changed and saved, and bundles are unpacked, one step after the
other. A session has *current settings* and an *unpacker*.

The unpacker looks for what the settings said when it was made. Where it writes is up to the settings
with which it was made, and these are the current settings themselves as long as they are changed in
place. When the current settings are replaced, the unpacker keeps the old ones.
-/

namespace BundleManifest

/-- A session. -/
structure Session where
  /-- The disk. -/
  disk : Disk := {}
  /-- The environment. -/
  environment : Environment := []
  /-- The current settings. -/
  current : Settings := {}
  /-- What the unpacker looks for. -/
  walker : Walker := .ofSettings {}
  /-- How the unpacker reads and writes, unless the current settings say it. -/
  detached : Option OutputSettings := none
  deriving Repr, Inhabited

namespace Session

/-- The unpacker. -/
def unpacker (s : Session) : Unpacker :=
  { walker := s.walker, output := s.detached.getD s.current.output }

/-- Replaces the current settings. The unpacker keeps its own. -/
def replace (s : Session) (settings : Settings) : Session :=
  { s with current := settings, detached := some s.unpacker.output }

/-- A section of settings. -/
inductive Section where
  | extraction
  | output
  deriving DecidableEq, Repr

/-- Changes one of the current settings in place. -/
def set (s : Session) (part : Section) (key : String) (v : Value) : Session :=
  match part with
  | .extraction => { s with current.extraction := s.current.extraction.set key v }
  | .output => { s with current.output := s.current.output.set key v }

/-- Makes a new unpacker with the current settings. -/
def build (s : Session) : Session :=
  { s with walker := .ofSettings s.current.extraction, detached := none }

/-- Makes a new unpacker with the default settings. -/
def buildDefault (s : Session) : Session :=
  { s with walker := .ofSettings {}, detached := some {} }

@[simp]
theorem unpacker_replace (s : Session) (settings : Settings) :
    (s.replace settings).unpacker = s.unpacker := rfl

@[simp]
theorem unpacker_build (s : Session) : s.build.unpacker = .ofSettings s.current := rfl

/-- The options of the walk were fixed when the unpacker was made. -/
@[simp]
theorem walker_set (s : Session) (part : Section) (key : String) (v : Value) :
    (s.set part key v).walker = s.walker := by
  cases part <;> rfl

/-! ## Steps -/

/-- A step of a session. -/
inductive Step where
  | write (path : String) (bytes : List UInt8)
  | makeDirectory (path : String)
  | read (path : String)
  | list
  | setVariable (name : String) (value : Option String)
  | readEnvironment
  | findSettings (paths : List String)
  | readSettings (path : String)
  /-- Loads settings, from the environment as well if asked to, and replaces the current ones. -/
  | load (path : Option String) (useEnvironment checks : Bool)
  | reset
  | set (part : Section) (key : String) (value : Value)
  | validate
  | save (path : String) (format : Settings.Format)
  | summary
  | build
  | buildDefault
  | unpackText (text : String)
  | unpackFile (path : String)
  | manifestPath (path : String)
  | process (path : String)
  | processAll (paths : List String)
  | run (words : List String)
  deriving Repr

/-- What a step answers. -/
inductive Answer where
  | nothing
  | valid
  | text (text : String)
  | paths (paths : List String)
  | path? (path : Option String)
  | value (v : Value)
  | settings (settings : Settings)
  /-- Settings as a value, with warnings. -/
  | loaded (settings : Value) (warnings : List String)
  | result (result : WalkResult)
  | outcome (outcome : Outcome)
  | outcomes (outcomes : List Outcome)
  | exit (exit : CommandLine.Exit)
  | problem (problem : Problem)
  deriving Repr

/-- The answer of a step that can fail. -/
def Answer.of {α : Type} (answer : α → Answer) : Except Problem α → Answer
  | .ok a => answer a
  | .error p => .problem p

/-- Writes a file, and makes the directories for it. -/
def putFile (d : Disk) (path : String) (bytes : List UInt8) : Disk × Except Disk.Error Unit :=
  match d.makeDirectories (Path.ofText path).parent with
  | (d, .error e) => (d, .error e)
  | (d, .ok ()) =>
    match d.write path bytes with
    | .ok d => (d, .ok ())
    | .error e => (d, .error e)

/-- Reads a file in UTF-8. -/
def fileText (d : Disk) (path : String) : Except Problem String := do
  let bytes ← (d.read path).mapError Problem.disk
  let text ← (Text.Encoding.utf8.decode bytes).mapError Problem.decoding
  return String.ofList text

/-- The session after a step that may change the disk, and its answer. -/
def withDisk {α : Type} (s : Session) (answer : α → Answer) (r : Disk × Except Problem α) :
    Session × Answer :=
  ({ s with disk := r.1 }, .of answer r.2)

variable [Report.Console] [Text.Codecs] [Settings.Host]

/-- Takes a step. -/
def step (s : Session) : Step → Session × Answer
  | .write path bytes =>
    let (d, r) := putFile s.disk path bytes
    s.withDisk (fun _ => .nothing) (d, r.mapError .disk)
  | .makeDirectory path =>
    let (d, r) := s.disk.makeDirectories (Path.ofText path)
    s.withDisk (fun _ => .nothing) (d, r.mapError .disk)
  | .read path => (s, .of .text (fileText s.disk path))
  | .list => (s, .paths s.disk.listing)
  | .setVariable name value => ({ s with environment := s.environment.set name value }, .nothing)
  | .readEnvironment => (s, .loaded s.environment.settings s.environment.warnings)
  | .findSettings paths => (s, .path? (Settings.findFile s.disk paths))
  | .readSettings path => (s, .of .value (Settings.ofFile s.disk path))
  | .load path useEnvironment checks =>
    let env := if useEnvironment then some s.environment else none
    match Settings.load s.disk path env checks with
    | .error p => (s, .problem p)
    | .ok settings =>
      (s.replace settings, .loaded settings.toValue ((env.map (·.warnings)).getD []))
  | .reset => (s.replace {}, .loaded (Settings.toValue {}) [])
  | .set part key v =>
    let s := s.set part key v
    (s, .settings s.current)
  | .validate => (s, .of (fun _ => .valid) s.current.validate)
  | .save path format => s.withDisk (fun _ => .nothing) (s.current.save s.disk path format)
  | .summary => (s, .text s.current.summary)
  | .build => (s.build, .settings s.current)
  | .buildDefault => (s.buildDefault, .settings {})
  | .unpackText text => (s, .of .result ((s.unpacker.unpackText text).mapError .script))
  | .unpackFile path => (s, .of .result (s.unpacker.unpackFile s.disk path))
  | .manifestPath path =>
    (s, .of (fun p : Path => .text p.text) (s.unpacker.output.manifestPath s.disk.home path))
  | .process path => s.withDisk .outcome (s.unpacker.process s.disk path)
  | .processAll paths => s.withDisk .outcomes (s.unpacker.processAll s.disk paths)
  | .run words => s.withDisk .exit (CommandLine.run s.disk s.environment words)

/-- Takes steps, and gives their answers. -/
def run (s : Session) : List Step → Session × List Answer
  | [] => (s, [])
  | step :: rest =>
    let (s, answer) := s.step step
    let (s, answers) := run s rest
    (s, answer :: answers)

end Session

end BundleManifest
