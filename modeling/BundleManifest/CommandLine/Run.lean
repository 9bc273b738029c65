import BundleManifest.CommandLine.Help
import BundleManifest.Report.Table
import BundleManifest.Settings.Load
import BundleManifest.Unpacker

/-!
# Running the command line

The tool loads its settings, lets the switches override them, processes the files, and reports the
outcomes: as lines, perhaps with tables of sizes, or as one list in JSON format. Its exit status is
zero if all went well.
-/

namespace BundleManifest.CommandLine

variable [Report.Console] [Text.Codecs] [Settings.Host]

/-- What a run of the tool leaves: its exit status, and what it writes. -/
structure Exit where
  status : Nat
  out : String := ""
  err : String := ""
  deriving DecidableEq, Repr, Inhabited

/-- A setting with the value of a switch, unless this is empty. -/
def overridden (v : Value) (given : Option String) : Value :=
  match given.filter (· ≠ "") with
  | some s => .text s
  | none => v

/-- The settings with those of the command line. -/
def override (s : Settings) (a : Arguments) : Settings where
  extraction := { s.extraction with
    receiver := overridden s.extraction.receiver a.receiver
    includeContent := if a.noContent then .bool false else s.extraction.includeContent }
  output := { s.output with
    directory := overridden s.output.directory a.outputDir
    manifestName := overridden s.output.manifestName a.manifestName }

/-- The settings for a run. -/
def settings (d : Disk) (env : Environment) (a : Arguments) : Except Problem Settings := do
  let s := override (← Settings.load d a.config (some env) true) a
  s.validate
  return s

/-- How an outcome went. -/
def level (o : Outcome) : Report.Level :=
  if !o.success then .error else if o.isEmptyInput then .warning else .success

/-- The report of an outcome as lines of text. -/
def reportLines (a : Arguments) (o : Outcome) : Except Problem String := do
  let line ← Report.statusLine (!a.noRich) (level o) o.line
  if a.summary ∧ level o = .success then
    let sizes := PackageSize.summarize ((o.result.map (·.records)).getD [])
    return line ++ (← Report.sizeTable (!a.noRich) o.input sizes)
  else return line

/-- What is reported when the report of one more outcome follows. An outcome that is a success is
    taken to have a result, and one that is not changes the exit status. -/
def tell (a : Arguments) (e : Exit) (o : Outcome) : Except Problem Exit :=
  if o.success && o.result.isNone then .error .noMapping
  else do
    let lines ← reportLines a o
    return { e with status := if o.success then e.status else 1, out := e.out ++ lines }

/-- The report of outcomes as text. -/
def textReport (a : Arguments) (outcomes : List Outcome) : Except Problem Exit :=
  outcomes.foldlM (tell a) { status := 0 }

/-- The exit status after some outcomes. -/
def status (outcomes : List Outcome) : Nat :=
  if outcomes.all (·.success) then 0 else 1

/-- The report of outcomes in JSON format. -/
def jsonReport (outcomes : List Outcome) : Exit :=
  let reports := outcomes.map Outcome.toValue
  let w := Json.write { indent := some [' ', ' '] } (.list reports)
  { status := status outcomes, out := String.ofList (w.text ++ ['\n']) }

/-- The report of outcomes. -/
def report (a : Arguments) (outcomes : List Outcome) : Except Problem Exit :=
  match a.format with
  | .json => .ok (jsonReport outcomes)
  | .text => textReport a outcomes

/-- What is reported when the settings are faulty. -/
def settingsReport (a : Arguments) (fault : Settings.Fault) : Except Problem Exit := do
  let out ← Report.statusLine (!a.noRich) .error ("Configuration error: " ++ fault.message)
  return { status := 1, out }

/-- Processes the files of a command line. -/
def execute (d : Disk) (env : Environment) (a : Arguments) : Disk × Except Problem Exit :=
  if a.inputs.isEmpty then (d, .ok { status := 1, err := noInput })
  else
    match settings d env a with
    | .error (.settings fault) => (d, settingsReport a fault)
    | .error p => (d, .error p)
    | .ok s =>
      match (Unpacker.ofSettings s).processAll d a.inputs with
      | (d, .error p) => (d, .error p)
      | (d, .ok outcomes) => (d, report a outcomes)

/-- Runs the tool with the words of a command line. -/
def run (d : Disk) (env : Environment) (words : List String) : Disk × Except Problem Exit :=
  match parse words with
  | .error e => (d, .ok { status := 2, err := refusal e })
  | .ok .help => (d, .ok { status := 0, out := help })
  | .ok .version => (d, .ok { status := 0, out := toolName ++ " " ++ toolVersion ++ "\n" })
  | .ok (.run a) => execute d env a

end BundleManifest.CommandLine
