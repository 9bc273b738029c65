import BundleManifest.Manifest
import BundleManifest.Outcome
import BundleManifest.Settings
import BundleManifest.Text.Codecs

/-!
# The unpacker

The unpacker reads bundles from the disk and writes their manifests. What it looks for in a bundle is
fixed when it is made; how bundles are read and where manifests go is looked up in the output settings
each time.

Processing a file ends in one of four ways: it cannot be decoded, and nothing is written; it has no
statements, and nothing is written either; its manifest is written; or its manifest cannot be written.
What went wrong is part of the outcome, unless the settings themselves cannot be used.
-/

namespace BundleManifest

variable [Text.Codecs]

/-- What is looked for in bundles, according to settings. Only a text can be the receiver of a
    call. -/
def Walker.ofSettings (s : ExtractionSettings) : Walker where
  classifier.receiver :=
    match s.receiver with
    | .null => none
    | .text receiver => some receiver
    | _ => some ""
  extraction.includeContent := s.includeContent.truthy
  extraction.includeLoader := s.includeLoader.truthy

namespace OutputSettings

/-- What reads files in the encoding with a name. -/
def decoderOfName (name : String) : Except Problem Text.Decoder :=
  match Text.decoder? name with
  | some decoder => .ok decoder
  | none => .error .unknownEncoding

/-- The text in the bytes of a file that is `found`, or not. That the encoding is unknown is only
    found when there is a file. -/
def decode (s : OutputSettings) (found : Except Disk.Error (List UInt8)) : Except Problem String := do
  let name ← match s.encoding with
    | .null => pure Text.localeName
    | .text name => if name.toList.contains '\x00' then .error .badName else pure name
    | _ => .error .wrongType
  let bytes ← found.mapError Problem.disk
  let decoder ← decoderOfName name
  let text ← (decoder bytes).mapError Problem.decoding
  return String.ofList (Text.withLineFeeds text)

/-- The path of the manifest of a bundle, when relative paths begin at `home`. -/
def manifestPath (s : OutputSettings) (home : Place) (path : String) : Except Problem Path := do
  let directory ←
    if s.directory.truthy then
      match s.directory with
      | .text directory => pure (Path.ofText directory)
      | _ => .error .wrongType
    else if path.toList.contains '\x00' then .error (.disk ⟨.badCharacter, path⟩)
    else pure ((Path.ofText path).resolve home).parent
  match s.manifestName with
  | .text name => return directory.join name
  | _ => .error .wrongType

/-- The greatest number of spaces of an indentation. -/
def maxIndent : Nat := 9223372036854775807

/-- What each level of nesting adds to the beginning of a line in a manifest. -/
def indentation (s : OutputSettings) : Except Problem (Option (List Char)) :=
  match s.indent with
  | .null => .ok none
  | .text unit => .ok (some unit.toList)
  | v =>
    match v.integer? with
    | some n =>
      if n.natAbs ≤ maxIndent then .ok (some (List.replicate n.toNat ' ')) else .error .tooLarge
    | none => .error .wrongType

end OutputSettings

/-- What reads bundles and writes manifests. -/
structure Unpacker where
  /-- What is looked for in bundles. -/
  walker : Walker := {}
  /-- How bundles are read and where manifests go. -/
  output : OutputSettings := {}
  deriving Repr, Inhabited

namespace Unpacker

/-- The unpacker with some settings. -/
def ofSettings (s : Settings) : Unpacker :=
  { walker := .ofSettings s.extraction, output := s.output }

/-- Decodes a text. -/
def unpackText (u : Unpacker) (text : String) : Except Script.SyntaxError WalkResult :=
  (Bundle.ofText text).map u.walker.walk

/-- Decodes a file. -/
def unpackFile (u : Unpacker) (d : Disk) (path : String) : Except Problem WalkResult := do
  let name := (Path.ofText path).text
  let text ← u.output.decode (d.read name)
  (u.unpackText text).mapError fun e => .script (e.withFile name)

/-- The problems that are the fault of a bundle, in words. -/
def bundleFault? : Problem → Option String
  | .script e => some e.message
  | .disk e => if e.fault = .badCharacter then none else some e.message
  | .decoding (.bytes encoding position bytes reason) =>
    some (Text.DecodingError.message (.bytes encoding position bytes reason))
  | _ => none

/-- Writes a manifest, and makes the directories for it. -/
def writeManifest (u : Unpacker) (d : Disk) (path : Path) (records : List Record) :
    Disk × Except Problem Unit :=
  match d.makeDirectories path.parent with
  | (d, .error e) => (d, .error (.disk e))
  | (d, .ok ()) =>
    match u.output.indentation with
    | .error p => (d, .error p)
    | .ok indent =>
      match d.write path.text (Utf8.encode (Manifest.text indent records).toList) with
      | .error e => (d, .error (.disk e))
      | .ok d => (d, .ok ())

/-- Decodes a file and writes its manifest. -/
def process (u : Unpacker) (d : Disk) (path : String) : Disk × Except Problem Outcome :=
  match u.unpackFile d path with
  | .error p =>
    match bundleFault? p with
    | some words => (d, .ok { input := path, error := some words })
    | none => (d, .error p)
  | .ok result =>
    if result.isEmptyInput then (d, .ok { input := path, result := some result })
    else
      match u.output.manifestPath d.home path with
      | .error p => (d, .error p)
      | .ok target =>
        match u.writeManifest d target result.records with
        | (d, .ok ()) =>
          (d, .ok { input := path, result := some result, manifest := some target.text })
        | (d, .error p) =>
          match bundleFault? p with
          | some words => (d, .ok { input := path, result := some result, error := some words })
          | none => (d, .error p)

/-- Processes files in order. -/
def processAll (u : Unpacker) (d : Disk) : List String → Disk × Except Problem (List Outcome)
  | [] => (d, .ok [])
  | path :: rest =>
    match u.process d path with
    | (d, .error p) => (d, .error p)
    | (d, .ok outcome) =>
      match processAll u d rest with
      | (d, .error p) => (d, .error p)
      | (d, .ok outcomes) => (d, .ok (outcome :: outcomes))

end Unpacker

end BundleManifest
