import BundleManifest.Proofs.Disk.Growth
import BundleManifest.Proofs.Settings.Environment
import BundleManifest.Proofs.Value.Equality
import BundleManifest.Proofs.Value.Expressible
import BundleManifest.Settings.Usual

/-!
# Saving settings

A settings file is emptied before the settings are written to it. So it is complete afterwards if the
format can express the settings and the host can write them, and else it ends where they cannot be
written any more: what was in the file is lost, and what is in it is no settings file
(`not_allOrNothing`). Only settings that the host cannot even copy leave the file alone.

When a text cannot be written to its end, what has been written is a part of it, and the file holds
this part. The obstacle is found from the value (`obstacle_expressed_iff`) unless the host gives up on
its own, which it says for the settings as a whole. If the file cannot be opened, nothing happens to
it at all.

* `Settings.Format.Expresses`: whether a format can express a value;
* `Settings.AllOrNothing`: saving completes, or leaves the file as it is;
* `Settings.allOrNothing_iff`: exactly if the format can express the settings and the host writes them
  to the end, if it cannot copy them, or if the file happened to hold the part that is written.
-/

namespace BundleManifest.Settings

open Value

variable {s : Settings} {d d' : Disk} {path : String} {format : Format} {before : List UInt8}

/-! ## Settings that can be expressed -/

/-- Whether a format can express a value. -/
def Format.Expresses (format : Format) (v : Value) : Prop :=
  match format with
  | .json => Json.Expressible (some Json.maxDigits) v
  | .yaml => Yaml.Expressible v

/-- A mapping with names as keys can be expressed if all of its values can be. -/
theorem Format.expresses_record_iff {fields : List (String × Value)} :
    format.Expresses (.record fields) ↔ ∀ field ∈ fields, format.Expresses field.2 := by
  cases format with
  | json =>
    rw [Format.Expresses, Value.record, Json.expressible_mapping_iff, List.forall_mem_map,
      List.forall_mem_map]
    have hkey (name : String) : Json.Expressible (some Json.maxDigits) (.text name) :=
      (Json.expressible_scalar_iff rfl).2 trivial
    exact ⟨fun h field hfield => (h.2 field hfield).2,
      fun h => ⟨fun _ _ => rfl, fun field hfield => ⟨hkey field.1, h field hfield⟩⟩⟩
  | yaml =>
    rw [Format.Expresses, Value.record, Yaml.Expressible, all_mapping_iff, List.forall_mem_map]
    have hkey (name : String) : Yaml.Expressible (.text name) := (all_scalar_iff rfl).2 trivial
    exact ⟨fun h field hfield => (h.2 field hfield).2,
      fun h => ⟨trivial, fun field hfield => ⟨hkey field.1, h field hfield⟩⟩⟩

/-- Nothing, truth values and texts can always be expressed. -/
theorem Format.expresses_simple {v : Value} (h : v = .null ∨ (∃ b, v = .bool b) ∨ ∃ t, v = .text t) :
    format.Expresses v := by
  cases format with
  | json =>
    obtain rfl | ⟨b, rfl⟩ | ⟨t, rfl⟩ := h <;> exact (Json.expressible_scalar_iff rfl).2 trivial
  | yaml => obtain rfl | ⟨b, rfl⟩ | ⟨t, rfl⟩ := h <;> exact (all_scalar_iff rfl).2 trivial

/-- Both formats have the same bound for the digits of an integer. -/
theorem Format.expresses_int_iff {n : Int} :
    format.Expresses (.int n) ↔ (Nat.toDigits 10 n.natAbs).length ≤ Text.maxIntegerDigits := by
  cases format with
  | json =>
    refine (Json.expressible_scalar_iff rfl).trans ?_
    simp [Json.Fits, Json.tooLong, Json.maxDigits, Text.maxIntegerDigits]
  | yaml => exact all_scalar_iff rfl

/-- The check leaves it open whether the indentation and the directory of manifests can be expressed,
    and nothing else. -/
theorem Valid.expresses_iff (h : s.Valid) : format.Expresses s.toValue ↔
    format.Expresses s.output.indent ∧ format.Expresses s.output.directory := by
  have hreceiver : format.Expresses s.extraction.receiver :=
    Format.expresses_simple (h.receiver.imp_right fun htext => .inr (htext.imp fun _ ht => ht.1))
  have hcontent : format.Expresses s.extraction.includeContent :=
    Format.expresses_simple (.inr (.inl h.includeContent))
  have hloader : format.Expresses s.extraction.includeLoader :=
    Format.expresses_simple (.inr (.inl h.includeLoader))
  obtain ⟨name, hname, -⟩ := h.manifestName
  have hname : format.Expresses s.output.manifestName :=
    Format.expresses_simple (.inr (.inr ⟨name, hname⟩))
  have hencoding : format.Expresses s.output.encoding :=
    Format.expresses_simple (.inr (.inr h.encoding))
  simp only [toValue, ExtractionSettings.toValue, OutputSettings.toValue, Format.expresses_record_iff,
    List.forall_mem_cons, hreceiver, hcontent, hloader, hname, hencoding]
  simp [and_comm]

section Texts

variable [Host]

/-- The settings are expressed without an obstacle exactly if the format can express them. -/
theorem obstacle_expressed_iff :
    (s.expressed format).obstacle = none ↔ format.Expresses s.toValue := by
  cases format with
  | json =>
    exact Option.isNone_iff_eq_none.symm.trans (Json.complete_print_iff fileLayout s.toValue 0)
  | yaml =>
    obtain ⟨entries, hentries⟩ : ∃ entries, s.toValue = .mapping entries := ⟨_, rfl⟩
    rw [expressed, hentries, Format.Expresses, ← Yaml.hasLong_eq_false_iff, Yaml.hasLong]
    dsimp only
    split
    · next hlong => exact iff_of_false (fun h => by cases h) (by simp [hlong])
    · next hshort => exact iff_of_true rfl (Bool.eq_false_iff.2 hshort)

/-- The settings are written to the end exactly if the format can express them and the host does not
    give up. -/
theorem obstacle_eq_none_iff :
    (s.text format).obstacle = none ↔ format.Expresses s.toValue ∧
      Host.givesUp? format s.toValue = none := by
  rw [text]
  cases Host.givesUp? format s.toValue with
  | none => exact obstacle_expressed_iff.trans (and_iff_left rfl).symm
  | some n => exact iff_of_false (fun h => by cases h) fun h => by cases h.2

end Texts

/-! ## Files -/

section Files

variable [Host]

/-- Saving completes and the file holds all of the settings, or it fails and the file holds what it
    held. -/
def AllOrNothing (s : Settings) (d : Disk) (path : String) (format : Format) : Prop :=
  ((s.save d path format).2 = .ok () ∧
    ∃ whole, s.text format = ⟨whole, none⟩ ∧
    (s.save d path format).1.read path = .ok (Utf8.encode whole)) ∨
  ((∃ p, (s.save d path format).2 = .error p) ∧ (s.save d path format).1.read path = d.read path)

/-- Settings that are not copied are not saved, and nothing changes. -/
theorem save_of_not_copies (h : Host.copies s.toValue = false) :
    s.save d path format = (d, .error .tooDeep) := by
  rw [save, h]
  rfl

/-- Where the file cannot be written the disk stays as it is. -/
theorem save_of_write_error {e : Disk.Error}
    (h : d.write path (Utf8.encode (s.text format).text) = .error e) :
    ∃ p, s.save d path format = (d, .error p) := by
  cases hcopies : Host.copies s.toValue with
  | false => exact ⟨_, save_of_not_copies hcopies⟩
  | true =>
    delta save
    dsimp only
    rw [hcopies, h]
    exact ⟨_, rfl⟩

/-- When the settings are copied and the file can be written, saving fails only where the writing
    stops. -/
theorem save_of_write (hcopies : Host.copies s.toValue = true)
    (h : d.write path (Utf8.encode (s.text format).text) = .ok d') : s.save d path format =
      (d', (s.text format).obstacle.elim (.ok ()) fun o => .error (inexpressible o)) := by
  delta save
  dsimp only
  rw [hcopies, h]
  cases (s.text format).obstacle <;> rfl

/-- A file that is there is overwritten with the settings as far as they are written, if they are
    copied. -/
theorem exists_save (format : Format) (hcopies : Host.copies s.toValue = true)
    (hread : d.read path = .ok before) :
    ∃ place, d.locate path = .ok place ∧ d.get? place ≠ some .directory ∧
      (s.save d path format).1 = d.put place (.file (Utf8.encode (s.text format).text)) ∧
      (s.save d path format).2 = (s.text format).obstacle.elim (.ok ()) fun o =>
        .error (inexpressible o) := by
  obtain ⟨place, hlocate, hplace⟩ := Disk.read_eq_ok_iff.1 hread
  have hfile : d.get? place ≠ some .directory := by simp [hplace]
  have hwrite := Disk.write_of_locate (Utf8.encode (s.text format).text) hlocate hfile
  rw [save_of_write hcopies hwrite]
  exact ⟨place, hlocate, hfile, rfl, rfl⟩

/-- Afterwards the file holds the settings as far as they are written. -/
theorem read_save (format : Format) (hcopies : Host.copies s.toValue = true)
    (hread : d.read path = .ok before) :
    (s.save d path format).1.read path = .ok (Utf8.encode (s.text format).text) := by
  obtain ⟨place, hlocate, hfile, hdisk, -⟩ := exists_save format hcopies hread
  rw [hdisk]
  exact (Disk.read_of_write (Disk.write_of_locate _ hlocate hfile)).1

/-- Saving to a file that can be written completes exactly if the settings can be copied, the format
    can express them, and the host does not give up. -/
theorem save_eq_ok_iff (hread : d.read path = .ok before) : (s.save d path format).2 = .ok () ↔
    Host.copies s.toValue = true ∧ format.Expresses s.toValue ∧
      Host.givesUp? format s.toValue = none := by
  cases hcopies : Host.copies s.toValue with
  | false =>
    rw [save_of_not_copies hcopies]
    exact iff_of_false (fun h => by cases h) fun h => by cases h.1
  | true =>
    obtain ⟨-, -, -, -, hanswer⟩ := exists_save format hcopies hread
    rw [hanswer, ← obstacle_eq_none_iff, and_iff_right rfl]
    cases (s.text format).obstacle with
    | none => exact iff_of_true rfl rfl
    | some o => exact iff_of_false (fun h => by cases h) fun h => by cases h

/-- What does not complete fails with a problem. -/
theorem exists_error_of_ne_ok (h : (s.save d path format).2 ≠ .ok ()) :
    ∃ p, (s.save d path format).2 = .error p := by
  cases hanswer : (s.save d path format).2 with
  | error p => exact ⟨p, rfl⟩
  | ok u => exact absurd hanswer h

/-- Saving to a file that is there is done as a whole or not at all exactly if the format can express
    the settings and the host does not give up writing them, if the host cannot even copy them, or if
    the file happens to hold just what is written of them. It completes exactly if all of this can be
    done, and it changes nothing but the file. -/
theorem allOrNothing_iff (s : Settings) (format : Format) (hread : d.read path = .ok before) :
    (AllOrNothing s d path format ↔ Host.copies s.toValue = false ∨
      (format.Expresses s.toValue ∧ Host.givesUp? format s.toValue = none) ∨
      before = Utf8.encode (s.text format).text) ∧
    ((s.save d path format).2 = .ok () ↔
      Host.copies s.toValue = true ∧ format.Expresses s.toValue ∧
      Host.givesUp? format s.toValue = none) ∧
    ∀ place, d.locate path ≠ .ok place → (s.save d path format).1.get? place = d.get? place := by
  refine ⟨?_, save_eq_ok_iff hread, fun other hother => ?_⟩
  · cases hcopies : Host.copies s.toValue with
    | false =>
      refine iff_of_true (.inr ?_) (.inl rfl)
      rw [save_of_not_copies hcopies]
      exact ⟨⟨_, rfl⟩, rfl⟩
    | true =>
      rw [AllOrNothing, read_save format hcopies hread, hread, save_eq_ok_iff hread,
        ← obstacle_eq_none_iff]
      by_cases hwhole : (s.text format).obstacle = none
      · refine iff_of_true (.inl ⟨⟨hcopies, hwhole⟩, (s.text format).text, ?_, rfl⟩)
          (.inr (.inl hwhole))
        rw [← hwhole]
      · -- The settings are lost, whatever the file holds now.
        have hfails : ∃ p, (s.save d path format).2 = .error p := exists_error_of_ne_ok fun hok =>
          hwhole (obstacle_eq_none_iff.2 ((save_eq_ok_iff hread).1 hok).2)
        simp only [hwhole, and_false, false_and, false_or, hfails, true_and, Except.ok.injEq,
          Bool.true_eq_false]
        exact eq_comm
  · cases hcopies : Host.copies s.toValue with
    | false => rw [save_of_not_copies hcopies]
    | true =>
      obtain ⟨place, hlocate, hfile, hdisk, -⟩ := exists_save format hcopies hread
      rw [hdisk, Disk.get?_put d (Disk.ne_root_of_get? hfile), if_neg]
      rintro rfl
      exact hother hlocate

end Files

/-! ## A date for a directory -/

open scoped Usual

namespace DateDirectory

/-- The text of a settings file in which the directory of manifests looks like a date. -/
def source : List Char :=
  "output:\n  output_dir: 2020-01-01\n".toList

/-- A disk with this file and another one. -/
def disk : Disk where
  entries :=
    [(["c.yaml"], .file (Utf8.encode source)), (["s.json"], .file (Utf8.encode "\x7b\x7d".toList))]

/-- The settings in the file. -/
def loaded : Settings where
  output := { directory := .other "date" "2020-01-01" }

/-- The mapping in the file. -/
def mapping : Value :=
  .record [("output", .record [("output_dir", .other "date" "2020-01-01")])]

/-- A text that looks like a date is loaded as a date, which the check lets pass. -/
theorem load_eq : load disk (some "c.yaml") none = .ok loaded := by
  have hvalue : Host.readYaml (Utf8.encode source) = .ok mapping := by decide +kernel
  have hread : disk.read "c.yaml" = .ok (Utf8.encode source) := rfl
  have hformat : Format.ofPath "c.yaml" = .yaml := (Format.ofPath_eq _).trans rfl
  have hfile : fileValue disk (some "c.yaml") = .ok mapping := by
    refine fileValue_of_read hread ?_
    rw [hformat]
    exact hvalue
  rw [load, hfile]
  rfl

end DateDirectory

open DateDirectory in
/-- The default settings are saved as a whole, and the other file stays as it is. -/
theorem allOrNothing_of_defaults : disk.read "s.json" = .ok (Utf8.encode "\x7b\x7d".toList) ∧
    AllOrNothing {} disk "s.json" .json ∧
      (save {} disk "s.json" .json).1.get? ["c.yaml"] = disk.get? ["c.yaml"] := by
  have hread : disk.read "s.json" = .ok (Utf8.encode "\x7b\x7d".toList) := rfl
  have hvalid : ({} : Settings).Valid := validate_eq_ok_iff.1 rfl
  have hindent : Format.json.Expresses ({} : Settings).output.indent :=
    Format.expresses_int_iff.2 (by decide)
  have hwhole := hvalid.expresses_iff.2 ⟨hindent, Format.expresses_simple (.inl rfl)⟩
  obtain ⟨hsaved, -, hothers⟩ := allOrNothing_iff {} .json hread
  exact ⟨hread, hsaved.2 (.inr (.inl ⟨hwhole, rfl⟩)), hothers _ (by decide)⟩

open DateDirectory in
/-- A file is lost if settings are saved to it that have been loaded and pass the check, but have a
    date where a directory should be. -/
theorem not_allOrNothing :
    ¬∀ (d : Disk) (origin path : String) (s : Settings) (format : Format) (before : List UInt8),
      load d (some origin) none = .ok s → s.validate = .ok () → d.read path = .ok before →
      AllOrNothing s d path format := by
  intro h
  have hfails : (loaded.save disk "s.json" .json).2 = .error .wrongType := rfl
  have hbefore : disk.read "s.json" = .ok (Utf8.encode "\x7b\x7d".toList) := rfl
  rcases h disk "c.yaml" "s.json" loaded .json _ load_eq rfl rfl with ⟨hok, -⟩ | ⟨-, hsame⟩
  · rw [hfails] at hok
    cases hok
  · rw [read_save .json rfl hbefore, hbefore] at hsame
    have htext := Utf8.encode_injective (Except.ok.inj hsame)
    -- What is written goes on in a second line.
    have hline : (loaded.text .json).text[1]? = some '\n' := rfl
    rw [htext] at hline
    cases hline

end BundleManifest.Settings
