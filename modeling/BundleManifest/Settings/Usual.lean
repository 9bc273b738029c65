import BundleManifest.Settings.Host
import BundleManifest.Text.Utf8
import BundleManifest.Yaml.Keyed
import BundleManifest.Yaml.Printer

/-!
# The usual host of settings

A host whose library reads and writes YAML as `Yaml.read` and `Yaml.write` say, with a stack for some
hundred levels.
-/

namespace BundleManifest

/-- The text of a YAML file. The bytes of a character that is cut off at the end of the file are read
    apart from the others, so that their positions begin with zero. -/
def Yaml.textOf (bytes : List UInt8) : Except Text.DecodingError (List Char) :=
  match Utf8.decode bytes with
  | .ok text => .ok text
  | .error bad =>
    let position := if bad.fault = .truncated then 0 else bad.position
    .error (.bytes "utf-8" position bad.bytes (Text.Encoding.faultWords bad.fault))

/-- Reads a YAML file. -/
def Yaml.readFile (bytes : List UInt8) : Except Failure Value := do
  let text ← (Yaml.textOf bytes).mapError Failure.noText
  (Yaml.read (Text.withLineFeeds text)).mapError Failure.fault

/-- What is read of a file in YAML format has each key once. -/
theorem Yaml.keyed_of_readFile {bytes : List UInt8} {v : Value} (h : readFile bytes = .ok v) :
    v.Keyed := by
  obtain ⟨text, -, h⟩ := exists_of_bind h
  cases hread : read (Text.withLineFeeds text) with
  | error f =>
    rw [hread] at h
    cases h
  | ok w =>
    rw [hread] at h
    cases h
    exact keyed_of_read hread

/-- How many levels the usual stack is enough for when values are copied, and when they are
    written. -/
def Settings.usualDepth : Nat × Nat := (480, 320)

namespace Usual

open Settings

/-- The usual host, with a home directory. -/
@[reducible]
def hostAt (home : String) : Settings.Host where
  home
  depth := 900
  readYaml := Yaml.readFile
  yamlText := Yaml.write
  copies v := v.depth ≤ usualDepth.1
  givesUp? format v := if format = .yaml ∧ usualDepth.2 < v.depth then some 0 else none
  two_le_depth := by decide
  keyed_of_readYaml := Yaml.keyed_of_readFile
  copies_of_depth h := decide_eq_true (Nat.le_trans h (by decide))
  givesUp?_of_depth h := if_neg fun hdeep => absurd (Nat.lt_of_lt_of_le hdeep.2 h) (by decide)

/-- The usual host of a user without a home directory. -/
scoped instance host : Settings.Host :=
  hostAt "/nonexistent"

end Usual

end BundleManifest
