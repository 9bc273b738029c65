import BundleManifest.CommandLine.Arguments

/-!
# Help for the command line

The texts that the tool shows about itself.
-/

namespace BundleManifest.CommandLine

/-- The name of the tool. -/
def toolName : String := "lasso-unpack"

/-- The version of the tool. -/
def toolVersion : String := "0.1.0"

/-- How the tool is called. -/
def usage : String :=
  "usage: lasso-unpack [-h] [--config CONFIG] [--verbose]\n"
  ++ "                    [--output-dir OUTPUT_DIR] [--manifest-name MANIFEST_NAME]\n"
  ++ "                    [--receiver RECEIVER] [--no-content] [--summary]\n"
  ++ "                    [--format \x7btext,json\x7d] [--no-rich] [--version]\n"
  ++ "                    [bundle.js ...]\n"

/-- What the tool and its switches do. -/
def help : String :=
  usage
  ++ "\n"
  ++ "Decode the modules embedded in a Lasso bundle into a JSON manifest\n"
  ++ "\n"
  ++ "positional arguments:\n"
  ++ "  bundle.js             Bundle files to unpack\n"
  ++ "\n"
  ++ "options:\n"
  ++ "  -h, --help            show this help message and exit\n"
  ++ "  --config CONFIG, -c CONFIG\n"
  ++ "                        Path to configuration file\n"
  ++ "  --verbose, -v         Enable verbose output and debug logging\n"
  ++ "  --output-dir OUTPUT_DIR, -o OUTPUT_DIR\n"
  ++ "                        Directory for manifests (default: alongside each\n"
  ++ "                        input)\n"
  ++ "  --manifest-name MANIFEST_NAME\n"
  ++ "                        Manifest file name\n"
  ++ "  --receiver RECEIVER   Only decode calls on this receiver, e.g. '$_mod'\n"
  ++ "  --no-content          Omit module source text from def records\n"
  ++ "  --summary             Print a per-package size table for each bundle\n"
  ++ "  --format \x7btext,json\x7d  Report format for processed files (default: text)\n"
  ++ "  --no-rich             Disable rich terminal output (use plain text)\n"
  ++ "  --version             show program's version number and exit\n"

/-- What is said about a command line that is refused. -/
def refusal (e : UsageError) : String :=
  usage ++ toolName ++ ": error: " ++ e.message ++ "\n"

/-- What is said about a command line without files to process. -/
def noInput : String :=
  "No input provided\nUsage: lasso-unpack < bundle.js >\n"

end BundleManifest.CommandLine
