import BundleManifest.Result
import BundleManifest.Settings
import Mathlib.Tactic.Common

/-!
# Valid settings

The check of settings looks at values of any type. What it makes sure of is said here for each
setting: which type it has then, and what else is known of it. Nothing is known of the directory of
manifests.

* `Settings.Valid`: what the check makes sure of;
* `Settings.validate_eq_ok_iff`: exactly the valid settings pass it.
-/

namespace BundleManifest.Settings

variable {v : Value}

/-- The receiver is left out, or it is a text with more than white space. -/
theorem isReceiver_iff :
    isReceiver v = true ↔ v = .null ∨ ∃ t, v = .text t ∧ Text.strip t.toList ≠ [] := by
  cases v <;> simp [isReceiver]

theorem isFlag_iff : isFlag v = true ↔ ∃ b, v = .bool b := by
  cases v <;> simp [isFlag]

theorem isBareName_iff :
    isBareName v = true ↔ ∃ name, v = .text name ∧ name ≠ "" ∧ '/' ∉ name.toList := by
  cases v <;> simp [isBareName]

/-- The indentation is a natural number; a truth value is none. -/
theorem isNatural_iff : isNatural v = true ↔ ∃ n : Nat, v = .int n := by
  cases v with
  | int n =>
    simp only [isNatural, decide_eq_true_eq, Value.int.injEq]
    exact ⟨Int.eq_ofNat_of_zero_le, fun ⟨m, hm⟩ => hm ▸ Int.natCast_nonneg m⟩
  | _ => simp [isNatural]

theorem isText_iff : isText v = true ↔ ∃ name, v = .text name := by
  cases v <;> simp [isText]

/-- What the check of settings makes sure of. -/
structure Valid (s : Settings) : Prop where
  receiver : s.extraction.receiver = .null ∨
    ∃ t, s.extraction.receiver = .text t ∧ Text.strip t.toList ≠ []
  includeContent : ∃ b, s.extraction.includeContent = .bool b
  includeLoader : ∃ b, s.extraction.includeLoader = .bool b
  manifestName : ∃ name, s.output.manifestName = .text name ∧ name ≠ "" ∧ '/' ∉ name.toList
  indent : ∃ n : Nat, s.output.indent = .int n
  encoding : ∃ name, s.output.encoding = .text name

theorem require_eq_ok_iff {test : Value → Bool} {fault : Fault} :
    require test fault (some v) = .ok () ↔ test v = true := by
  cases h : test v <;> simp [require, h]

/-- One check after another passes if both do. -/
theorem bind_eq_ok_iff {first : Except Problem Unit} {next : Unit → Except Problem Unit} :
    first >>= next = .ok () ↔ first = .ok () ∧ next () = .ok () := by
  cases first <;> simp [bind, Except.bind]

theorem ok_bind {α β : Type} (a : α) (next : α → Except Problem β) : Except.ok a >>= next = next a :=
  rfl

/-- The check of settings about what is decoded tests each of the three. -/
theorem checkExtraction_eq_ok_iff {s : ExtractionSettings} : checkExtraction s.toValue = .ok () ↔
    isReceiver s.receiver = true ∧ isFlag s.includeContent = true ∧
      isFlag s.includeLoader = true := by
  simp [checkExtraction, ExtractionSettings.toValue, Value.record, Value.find?, Value.lookup,
    Value.sameKey, bind_eq_ok_iff, require_eq_ok_iff]

/-- The check of settings about what is written tests all but the directory. -/
theorem checkOutput_eq_ok_iff {s : OutputSettings} : checkOutput s.toValue = .ok () ↔
    isBareName s.manifestName = true ∧ isNatural s.indent = true ∧ isText s.encoding = true := by
  simp [checkOutput, OutputSettings.toValue, field?, ok_bind, Value.record, Value.find?, Value.lookup,
    Value.sameKey, bind_eq_ok_iff, require_eq_ok_iff]

/-- The settings that pass the check are the valid ones. -/
theorem validate_eq_ok_iff {s : Settings} : s.validate = .ok () ↔ s.Valid := by
  -- The sections are looked up in the mapping that the settings are turned into.
  have hsections : s.validate = .ok () ↔
      checkExtraction s.extraction.toValue = .ok () ∧ checkOutput s.output.toValue = .ok () := by
    simp [validate, check, toValue, field?, ok_bind, Value.record, Value.find?, Value.lookup,
      Value.sameKey, bind_eq_ok_iff]
  rw [hsections, checkExtraction_eq_ok_iff, checkOutput_eq_ok_iff, isReceiver_iff, isFlag_iff,
    isFlag_iff, isBareName_iff, isNatural_iff, isText_iff]
  constructor
  · rintro ⟨⟨hreceiver, hcontent, hloader⟩, hname, hindent, hencoding⟩
    exact ⟨hreceiver, hcontent, hloader, hname, hindent, hencoding⟩
  · rintro ⟨hreceiver, hcontent, hloader, hname, hindent, hencoding⟩
    exact ⟨⟨hreceiver, hcontent, hloader⟩, hname, hindent, hencoding⟩

end BundleManifest.Settings
