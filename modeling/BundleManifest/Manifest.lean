import BundleManifest.Json.Printer
import BundleManifest.Record

/-!
# Manifests

A manifest is the list of the records of a bundle in JSON format, with a line end behind it. The
record of a module definition always has the body of the module, even if it is empty; no other record
has one. The target of an alias is left out when it is empty.
-/

namespace BundleManifest

/-- A record as a value. -/
def Record.toValue (r : Record) : Value :=
  .record
    ([("type", .text r.kind.verb), ("path", .text r.path),
      ("packageName", .text r.identity.packageName), ("fileName", .text r.identity.fileName),
      ("version", .text r.identity.version), ("size", .int r.size)]
    ++ (if r.kind = .define then [("content", .text r.content)] else [])
    ++ (if r.target = "" then [] else [("target", .text r.target)]))

namespace Manifest

/-- The text of a manifest, in which each level of nesting adds `indent` to the beginning of a line;
    without it the manifest is on one line. -/
def text (indent : Option (List Char)) (records : List Record) : String :=
  String.ofList
    ((Json.write { indent } (.list (records.map Record.toValue))).text ++ ['\n'])

end Manifest

end BundleManifest
