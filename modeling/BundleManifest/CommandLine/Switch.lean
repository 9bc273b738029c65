/-!
# Switches of the command line

A *switch* is a word of the command line that begins with a hyphen and changes how the tool works.
Some switches have a value.
-/

namespace BundleManifest.CommandLine

/-- A switch. -/
inductive Switch where
  | help
  | config
  | verbose
  | outputDir
  | manifestName
  | receiver
  | noContent
  | summary
  | format
  | noRich
  | version
  deriving DecidableEq, Repr

namespace Switch

/-- The names of a switch, in the order in which they are shown. -/
def names : Switch → List String
  | help => ["-h", "--help"]
  | config => ["--config", "-c"]
  | verbose => ["--verbose", "-v"]
  | outputDir => ["--output-dir", "-o"]
  | manifestName => ["--manifest-name"]
  | receiver => ["--receiver"]
  | noContent => ["--no-content"]
  | summary => ["--summary"]
  | format => ["--format"]
  | noRich => ["--no-rich"]
  | version => ["--version"]

/-- Whether a switch has a value. -/
def hasValue : Switch → Bool
  | config | outputDir | manifestName | receiver | format => true
  | help | verbose | noContent | summary | noRich | version => false

/-- The switches. -/
def all : List Switch :=
  [help, config, verbose, outputDir, manifestName, receiver, noContent, summary, format,
    noRich, version]

/-- A switch in a message. -/
def label (s : Switch) : String :=
  "/".intercalate s.names

/-- All names with their switches. -/
def table : List (String × Switch) :=
  all.flatMap fun s => s.names.map (·, s)

/-- The switch with a name. -/
def ofName? (name : String) : Option Switch :=
  table.lookup name

end Switch

end BundleManifest.CommandLine
