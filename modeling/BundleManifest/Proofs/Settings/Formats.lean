import BundleManifest.Proofs.Settings.Contents
import BundleManifest.Proofs.Value.Equality

/-!
# The same settings in two formats

A value can be written to a settings file in either format. If it is a mapping then both files are
settings files with this mapping, and if it is anything else that is not empty then both are refused
(`Settings.formats_agree`).

A file in YAML format may hold nothing, which counts as no settings. The word for nothing is no
settings in JSON format (`Settings.formats_differ`).
-/

namespace BundleManifest.Settings

variable {d d' : Disk} {name name' : String} {v : Value}

/-- Only a mapping is a settings file. -/
def ofMapping (name : String) (v : Value) : Except Problem Value :=
  match v with
  | .mapping _ => .ok v
  | _ => .error (.settings (.noMapping name))

/-- Anything but a mapping is refused, with the name of the file. -/
theorem ofMapping_of_ne (h : ∀ entries, v ≠ .mapping entries) :
    ofMapping name v = .error (.settings (.noMapping name)) := by
  cases v with
  | mapping entries => exact absurd rfl (h entries)
  | _ => rfl

section

variable [Host]

/-- A file holds a value: its bytes are read as the value, in the format that the name of the file
    tells. -/
def Holds (d : Disk) (name : String) (v : Value) : Prop :=
  ∃ bytes, d.read name = .ok bytes ∧ (Format.ofPath name).Reads bytes v

theorem ofFile_of_read {bytes : List UInt8} (hread : d.read name = .ok bytes) : ofFile d name =
    (match Format.ofPath name with
      | .json => ofJson bytes
      | .yaml => ofYaml bytes) >>= ofMapping name := by
  rw [ofFile, contains_of_read hread, hread]
  cases Format.ofPath name <;> rfl

/-- A file in JSON format stands for the value in it. -/
theorem ofFile_of_json (hformat : Format.ofPath name = .json) (h : Holds d name v) :
    ofFile d name = ofMapping name v := by
  obtain ⟨bytes, hread, hvalue⟩ := h
  rw [hformat] at hvalue
  rw [ofFile_of_read hread, hformat]
  dsimp only
  rw [ofJson_of_reads hvalue, ok_bind]

/-- What is empty or zero counts as no settings in YAML format. -/
theorem ofFile_of_yaml (hformat : Format.ofPath name = .yaml) (h : Holds d name v) :
    ofFile d name = ofMapping name (if v.truthy then v else .mapping []) := by
  obtain ⟨bytes, hread, hvalue⟩ := h
  rw [hformat] at hvalue
  rw [ofFile_of_read hread, hformat]
  dsimp only
  rw [ofYaml_of_reads hvalue, ok_bind]

/-- A settings file in JSON format and one in YAML format hold the same value. If it is a mapping then
    both yield it. If it is something else that is neither empty nor zero then both are refused. If it
    is nothing then the file in JSON format is refused, and the one in YAML format yields no
    settings. -/
theorem formats_agree (hjson : Format.ofPath name = .json) (hyaml : Format.ofPath name' = .yaml)
    (h : Holds d name v) (h' : Holds d' name' v) :
    ((∃ entries, v = .mapping entries) → ofFile d name = .ok v ∧ ofFile d' name' = .ok v) ∧
    ((∀ entries, v ≠ .mapping entries) → v.truthy →
      ofFile d name = .error (.settings (.noMapping name)) ∧
      ofFile d' name' = .error (.settings (.noMapping name'))) ∧
    (v = .null →
      ofFile d name = .error (.settings (.noMapping name)) ∧
        ofFile d' name' = .ok (.mapping [])) := by
  rw [ofFile_of_json hjson h, ofFile_of_yaml hyaml h']
  refine ⟨?_, fun hne htruthy => ?_, ?_⟩
  · rintro ⟨entries, rfl⟩
    cases entries with
    | nil => exact ⟨rfl, rfl⟩
    | cons e entries => exact ⟨rfl, rfl⟩
  · rw [if_pos htruthy]
    exact ⟨ofMapping_of_ne hne, ofMapping_of_ne hne⟩
  · rintro rfl
    exact ⟨rfl, rfl⟩

end

open scoped Usual

namespace TwoFormats

/-- A disk with a text in a file of either format. -/
def disk (json yaml : String) : Disk where
  entries :=
    [(["c.json"], .file (Utf8.encode json.toList)), (["c.yaml"], .file (Utf8.encode yaml.toList))]

theorem holds_json {json yaml : String} (hlines : '\r' ∉ json.toList)
    (h : Json.read json.toList (some Json.maxDigits) (some Host.depth) = .ok v) :
    Holds (disk json yaml) "c.json" v := by
  refine ⟨_, rfl, ?_⟩
  rw [show Format.ofPath "c.json" = .json by decide +kernel]
  exact Format.reads_encode hlines h

theorem holds_yaml {json yaml : String} (h : Host.readYaml (Utf8.encode yaml.toList) = .ok v) :
    Holds (disk json yaml) "c.yaml" v := by
  refine ⟨_, rfl, ?_⟩
  rw [show Format.ofPath "c.yaml" = .yaml by decide +kernel]
  exact h

end TwoFormats

open TwoFormats in
/-- A list of one name is refused in either format. -/
theorem formats_agree_on_list :
    let d := disk "[\"a\"]" "- a\n"
    let v : Value := .list [.text "a"]
    Holds d "c.json" v ∧ Holds d "c.yaml" v ∧
      ofFile d "c.json" = .error (.settings (.noMapping "c.json")) ∧
      ofFile d "c.yaml" = .error (.settings (.noMapping "c.yaml")) := by
  intro d v
  have hjson : Holds d "c.json" v := holds_json (by decide) (by decide +kernel)
  have hyaml : Holds d "c.yaml" v := holds_yaml (by decide +kernel)
  have hagree := formats_agree (by decide +kernel) (by decide +kernel) hjson hyaml
  exact ⟨hjson, hyaml, hagree.2.1 (by simp [v]) rfl⟩

open TwoFormats in
/-- The word for nothing is refused in JSON format only. -/
theorem formats_differ : ¬∀ (d : Disk) (name name' : String) (v : Value), Format.ofPath name = .json →
    Format.ofPath name' = .yaml → Holds d name v → Holds d name' v →
    ((∃ entries, v = .mapping entries) ∧ ofFile d name = .ok v ∧ ofFile d name' = .ok v) ∨
      ((∀ entries, v ≠ .mapping entries) ∧ (∃ fault, ofFile d name = .error (.settings fault)) ∧
        ∃ fault, ofFile d name' = .error (.settings fault)) := by
  intro h
  have hjson : Holds (disk "null" "null") "c.json" .null := holds_json (by decide) (by decide +kernel)
  have hyaml : Holds (disk "null" "null") "c.yaml" .null := holds_yaml (by decide +kernel)
  have hformat : Format.ofPath "c.yaml" = .yaml := by decide +kernel
  rcases h _ _ _ _ (by decide +kernel) hformat hjson hyaml with
    ⟨⟨entries, hentries⟩, -⟩ | ⟨-, -, fault, hfault⟩
  · cases hentries
  · cases (ofFile_of_yaml hformat hyaml).symm.trans hfault

end BundleManifest.Settings
