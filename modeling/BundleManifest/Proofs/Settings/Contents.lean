import BundleManifest.Proofs.Json.Return
import BundleManifest.Proofs.Settings.Failure
import BundleManifest.Proofs.Text.LineFeeds

/-!
# What a settings file holds

A file with bytes that one of the two formats reads as a mapping holds this mapping. A text in JSON
format that has no carriage returns is read as it stands there. What the bytes of a file in YAML
format are read as is up to the host.

* `Format.Reads`: some bytes are read as a value in a format;
* `Format.ofPath_eq`: which format a file has;
* `Settings.fileValue_of_read`: a file holds the mapping as which its bytes are read;
* `Settings.fileValue_of_write`: a file holds the mapping whose text in JSON format was written to it.
-/

namespace BundleManifest.Settings

/-- The format is told by how the name of the file ends. -/
theorem Format.ofPath_eq (path : String) : Format.ofPath path =
    if ".yaml".toList <:+ path.toList ∨ ".yml".toList <:+ path.toList then .yaml else .json := by
  have hends (ending : String) : path.endsWith ending = true ↔ ending.toList <:+ path.toList := by
    rw [String.endsWith_eq_endsWith_toSlice, String.Slice.endsWith_string_iff, String.copy_toSlice]
  rw [Format.ofPath]
  simp only [Bool.or_eq_true, hends]

variable [Host] {d : Disk} {path : String} {bytes : List UInt8} {text : List Char} {v : Value}
  {entries : List (Value × Value)}

/-- Whether some bytes are read as a value in a format. -/
def Format.Reads (format : Format) (bytes : List UInt8) (v : Value) : Prop :=
  match format with
  | .json => ∃ text, Utf8.decode bytes = .ok text ∧
      Json.read (Text.withLineFeeds text) (some Json.maxDigits) (some Host.depth) = .ok v
  | .yaml => Host.readYaml bytes = .ok v

/-- A text without carriage returns is read from its bytes. -/
theorem Format.reads_encode (hlines : '\r' ∉ text)
    (hvalue : Json.read text (some Json.maxDigits) (some Host.depth) = .ok v) :
    Format.json.Reads (Utf8.encode text) v :=
  ⟨text, Utf8.decode_encode text, by rwa [Text.withLineFeeds_of_notMem hlines]⟩

/-- A file in JSON format has the value as which its bytes are read. -/
theorem ofJson_of_reads (h : Format.json.Reads bytes v) : ofJson bytes = .ok v := by
  obtain ⟨text, htext, hvalue⟩ := h
  rw [ofJson, decode_utf8_eq_ok_iff.2 htext]
  dsimp only [Except.mapError]
  rw [ok_bind, hvalue]

/-- A file in YAML format has the value as which its bytes are read, or an empty mapping if this is
    nothing. -/
theorem ofYaml_of_reads (h : Format.yaml.Reads bytes v) :
    ofYaml bytes = .ok (if v.truthy then v else .mapping []) := by
  have hread : Host.readYaml bytes = .ok v := h
  rw [ofYaml, hread]
  rfl

/-- Anything empty counts as an empty mapping, which an empty mapping is anyway. -/
theorem ofYaml_of_reads_mapping (h : Format.yaml.Reads bytes (.mapping entries)) :
    ofYaml bytes = .ok (.mapping entries) := by
  rw [ofYaml_of_reads h]
  cases entries with
  | nil => rfl
  | cons e entries => rfl

/-- The file at a path holds the mapping as which its bytes are read. -/
theorem fileValue_of_read (hread : d.read path = .ok bytes)
    (hvalue : (Format.ofPath path).Reads bytes (.mapping entries)) :
    fileValue d (some path) = .ok (.mapping entries) := by
  have hpath : path ≠ "" := by
    obtain ⟨place, hlocate, -⟩ := Disk.read_eq_ok_iff.1 hread
    exact (Disk.locate_eq_ok_iff.1 hlocate).2.1
  have hfile : ofFile d path = .ok (.mapping entries) := by
    rw [ofFile, contains_of_read hread, hread]
    dsimp only
    rw [if_neg (by decide)]
    cases hformat : Format.ofPath path with
    | json =>
      rw [hformat] at hvalue
      rw [ofJson_of_reads hvalue]
      rfl
    | yaml =>
      rw [hformat] at hvalue
      rw [ofYaml_of_reads_mapping hvalue]
      rfl
  have hchosen : (some path).filter (· ≠ "") = some path := by
    simp [hpath]
  rw [fileValue, hchosen]
  exact hfile

/-- A mapping whose text was written to a file in JSON format is what the file holds. -/
theorem fileValue_of_write {l : Json.Layout} (hblank : l.Blank) (hlines : l.Unreturning)
    (hlimit : l.Suits Json.maxDigits)
    (hplain : Json.Plain (some Json.maxDigits) (some Host.depth) (.mapping entries))
    (hformat : Format.ofPath path = .json)
    (hread : d.read path = .ok (Utf8.encode (Json.write l (.mapping entries)).text)) :
    fileValue d (some path) = .ok (.mapping entries) := by
  refine fileValue_of_read hread ?_
  have hwritten := Json.read_write hblank hlimit hplain (List.forall_mem_nil _)
  rw [List.append_nil] at hwritten
  rw [hformat]
  exact Format.reads_encode (hplain.return_notMem_print hlines 0) hwritten

end BundleManifest.Settings
