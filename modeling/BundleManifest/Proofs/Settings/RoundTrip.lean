import BundleManifest.Proofs.Settings.Saving
import BundleManifest.Report.Usual
import BundleManifest.Session
import Mathlib.Data.List.Nodup

/-!
# Saving settings and loading them

Valid settings that are saved to a file are loaded from it again, whatever the environment is, and
saving them again changes nothing. The name of the file must tell the format, and the directory of
manifests must be a text, if there is one. For YAML format it is assumed that reading the text of the
mapping gives the same mapping, in which the order of the entries does not matter.

The host writes the text of a mapping in YAML format, and nothing is known of this text but what is
assumed. So the proof does not follow the text: the mapping that is read is the same as the one that
was written up to the order of its entries (`SameMapping`), each setting is looked up in it by its
name, and the settings that are loaded are those. For JSON format the assumption is proved, since the
text is read back as it was written.

The check lets integers of any size pass as indentations, and neither format writes one with too many
digits. So not all valid settings are saved (`not_savesAndLoads`), and that the indentation is short
is exactly what is missing.

* `Value.SameMapping`: mappings with the same keys and values;
* `Settings.load_of_sameMapping`: a file with the settings, in any order, is loaded as the settings;
* `Settings.expresses_iff_shortIndent`: when a format can express valid settings;
* `Settings.load_of_save`, `Settings.save_of_save`: what was saved is loaded, and saving it again
  changes nothing;
* `Session.step_save_load`: saving, loading, and saving again.
-/

namespace BundleManifest

namespace Value

/-- Two scalars are the same if they are equal, and two mappings if they have the same keys, in any
    order, and behind each key the same. -/
inductive SameMapping : Value → Value → Prop
  | scalar {v : Value} (h : v.isScalar = true) : SameMapping v v
  | mapping {entries others : List (Value × Value)}
      (hkeys : ∀ key, (lookup key entries).isSome = (lookup key others).isSome)
      (hvalues : ∀ key v w, lookup key entries = some v → lookup key others = some w →
        SameMapping v w) :
      SameMapping (.mapping entries) (.mapping others)

variable {v w : Value} {name : String} {entries others : List (Value × Value)}

/-- Scalars are the same mapping only if they are equal. -/
theorem SameMapping.eq_of_isScalar (h : SameMapping v w) (hw : w.isScalar = true) : v = w := by
  cases h with
  | scalar => rfl
  | mapping => cases hw

theorem SameMapping.exists_mapping (h : SameMapping v (.mapping others)) :
    ∃ entries, v = .mapping entries := by
  cases h with
  | scalar h => cases h
  | mapping => exact ⟨_, rfl⟩

/-- A name leads to nothing in both of them, or to the same. -/
theorem SameMapping.find? (h : SameMapping v w) (name : String) :
    (v.find? name = none ∧ w.find? name = none) ∨
      ∃ a b, v.find? name = some a ∧ w.find? name = some b ∧ SameMapping a b := by
  cases h with
  | scalar h =>
    cases v with
    | list | mapping | tuple | set => cases h
    | _ => exact .inl ⟨rfl, rfl⟩
  | @mapping entries others hkeys hvalues =>
    have hsome := hkeys (.text name)
    cases ha : lookup (.text name) entries with
    | none =>
      rw [ha] at hsome
      exact .inl ⟨ha, Option.isSome_eq_false_iff.1 hsome.symm |> Option.isNone_iff_eq_none.1⟩
    | some a =>
      rw [ha] at hsome
      obtain ⟨b, hb⟩ := Option.isSome_iff_exists.1 hsome.symm
      exact .inr ⟨a, b, ha, hb, hvalues _ a b ha hb⟩

/-- The keys are the same, if those of one of them are names. -/
theorem SameMapping.exists_mem (h : SameMapping (.mapping entries) (.mapping others))
    (hentries : Keyed (.mapping entries)) (hnames : ∀ e ∈ others, ∃ name, e.1 = .text name)
    {e : Value × Value} (he : e ∈ entries) : ∃ f ∈ others, f.1 = e.1 := by
  cases h with
  | scalar h => cases h
  | mapping hkeys _ =>
    have hself := hentries.sameKey_self he
    have hsome : (lookup e.1 others).isSome = true := by
      rw [← hkeys, hentries.distinct.lookup_of_mem he hself]
      rfl
    obtain ⟨w, hw⟩ := Option.isSome_iff_exists.1 hsome
    obtain ⟨k, hk, hsame⟩ := exists_mem_of_lookup hw
    obtain ⟨name, rfl⟩ : ∃ name, k = .text name := hnames _ hk
    exact ⟨_, hk, (text_sameKey_iff.1 hsame).symm⟩

/-- A key is found exactly if an entry has it. -/
theorem isSome_lookup (key : Value) (entries : List (Value × Value)) :
    (lookup key entries).isSome = entries.any (·.1.sameKey key) := by
  induction entries with
  | nil => rfl
  | cons e entries ih =>
    rw [show e = (e.1, e.2) from rfl, lookup, List.any_cons, ← ih]
    cases hsame : e.1.sameKey key <;> simp

/-- The order of scalars behind different names does not matter. -/
theorem sameMapping_record {fields others : List (String × Value)} (hperm : fields.Perm others)
    (hnames : (others.map Prod.fst).Nodup) (hscalars : ∀ field ∈ others, field.2.isScalar = true) :
    SameMapping (.record fields) (.record others) := by
  refine .mapping (fun key => ?_) fun key v w hv hw => ?_
  · rw [isSome_lookup, isSome_lookup, (hperm.map _).any_eq]
  · obtain ⟨k, hk, hkey⟩ := exists_mem_of_lookup hv
    obtain ⟨k', hk', hkey'⟩ := exists_mem_of_lookup hw
    obtain ⟨⟨name, a⟩, hfield, rfl, rfl⟩ :
        ∃ field ∈ fields, Value.text field.1 = k ∧ field.2 = v := by
      simpa using hk
    obtain ⟨⟨name', b⟩, hother, rfl, rfl⟩ :
        ∃ field ∈ others, Value.text field.1 = k' ∧ field.2 = w := by
      simpa using hk'
    -- Both fields have the name that is looked up, of which there is only one.
    obtain rfl : name' = name :=
      Value.text.inj ((text_sameKey_iff.1 hkey').symm.trans (text_sameKey_iff.1 hkey))
    have hsame := List.inj_on_of_nodup_map hnames (hperm.mem_iff.1 hfield) hother rfl
    obtain rfl : a = b := congrArg Prod.snd hsame
    exact .scalar (hscalars _ hother)

/-- Two pairs of sections are the same if their sections are. -/
theorem sameMapping_sections {a b a' b' : Value} (ha : SameMapping a a') (hb : SameMapping b b') :
    SameMapping (.record [("extraction", a), ("output", b)])
      (.record [("extraction", a'), ("output", b')]) := by
  refine .mapping (fun key => ?_) fun key v w hv hw => ?_
  · rw [isSome_lookup, isSome_lookup]
    rfl
  · simp only [List.map_cons, List.map_nil, lookup] at hv hw
    split at hv
    · next hkey =>
      rw [if_pos hkey] at hw
      cases hv
      cases hw
      exact ha
    · next hkey =>
      rw [if_neg hkey] at hw
      split at hv
      · next hkey' =>
        rw [if_pos hkey'] at hw
        cases hv
        cases hw
        exact hb
      · cases hv

end Value

namespace Settings

open Value

variable {s : Settings} {d d' : Disk} {path : String} {format : Format} {file w : Value}
  {part key : String}

/-! ## Files with the settings in any order -/

theorem keyed_of_find? {v : Value} (h : Keyed v) (hfind : v.find? part = some w) : Keyed w := by
  cases h with
  | mapping _ _ hvalues => exact hvalues _ (mem_of_lookup hfind)
  | other h => cases v <;> first | cases hfind | exact absurd rfl (h _)

/-- In the same mapping a setting that is a scalar has the same value. -/
theorem setting?_of_sameMapping (h : SameMapping file w)
    (hscalar : ∀ u ∈ setting? w part key, u.isScalar = true) :
    setting? file part key = setting? w part key := by
  rcases h.find? part with ⟨hfile, hw⟩ | ⟨a, b, hfile, hw, hab⟩
  · rw [setting?, setting?, hfile, hw]
  · rw [setting?, hw] at hscalar
    rw [setting?, setting?, hfile, hw, Option.bind_some, Option.bind_some]
    rcases hab.find? key with ⟨ha, hb⟩ | ⟨u, u', ha, hb, hsame⟩
    · rw [ha, hb]
    · rw [ha, hb, hsame.eq_of_isScalar (hscalar u' hb)]

/-- A mapping with each key once has plain sections if it is the same as one that has. -/
theorem plainSections_of_sameMapping (h : SameMapping file w) (hfile : Keyed file)
    (hw : PlainSections w) :
    PlainSections file := by
  intro part hpart v hv
  rcases h.find? part with ⟨hnone, -⟩ | ⟨a, b, ha, hb, hab⟩
  · rw [hnone] at hv
    cases hv
  · obtain rfl : a = v := Option.some.inj (ha.symm.trans hv)
    obtain ⟨others, rfl, hnames⟩ := hw part hpart b hb
    have hothers : ∀ f ∈ others, ∃ name, f.1 = .text name :=
      fun f hf => (hnames f hf).imp fun _ h => h.1
    obtain ⟨entries, rfl⟩ := hab.exists_mapping
    refine ⟨entries, rfl, fun e he => ?_⟩
    obtain ⟨f, hf, hkey⟩ := hab.exists_mem (keyed_of_find? hfile ha) hothers he
    exact hkey ▸ hnames f hf

/-- Whether the directory of manifests is a text, if there is one. -/
def SimpleDirectory (s : Settings) : Prop :=
  s.output.directory = .null ∨ ∃ t, s.output.directory = .text t

/-- Every setting is nothing, a truth value or a text, unless it is the indentation. -/
theorem simple_setting (hvalid : s.Valid) (hdirectory : s.SimpleDirectory) : ∀ known ∈ knownKeys,
    ∀ v ∈ setting? s.toValue known.1 known.2,
      (v = .null ∨ (∃ b, v = .bool b) ∨ ∃ t, v = .text t) ∨ v = s.output.indent := by
  simp only [knownKeys, List.forall_mem_cons]
  refine ⟨?_, ?_, ?_, ?_, ?_, ?_, ?_, List.forall_mem_nil _⟩ <;> rintro v ⟨⟩
  · exact .inl (hvalid.receiver.imp_right fun htext => .inr (htext.imp fun _ ht => ht.1))
  · exact .inl (.inr (.inl hvalid.includeContent))
  · exact .inl (.inr (.inl hvalid.includeLoader))
  · exact .inl (.inr (.inr (hvalid.manifestName.imp fun _ h => h.1)))
  · exact .inl (hdirectory.imp_right .inr)
  · exact .inr rfl
  · exact .inl (.inr (.inr hvalid.encoding))

/-- Every setting that was checked is a scalar, if the directory of manifests is simple. -/
theorem isScalar_setting (hvalid : s.Valid) (hdirectory : s.SimpleDirectory) :
    ∀ known ∈ knownKeys, ∀ v ∈ setting? s.toValue known.1 known.2, v.isScalar = true := by
  intro known hknown v hv
  obtain (rfl | ⟨b, rfl⟩ | ⟨t, rfl⟩) | rfl := simple_setting hvalid hdirectory known hknown v hv
  · rfl
  · rfl
  · rfl
  · obtain ⟨n, hn⟩ := hvalid.indent
    rw [hn]
    rfl

theorem plainSections_toValue : PlainSections s.toValue :=
  plainSections_record (by simp)

/-- The settings in a file, in any order, are loaded as they are, if they are valid. -/
theorem load_of_sameMapping [Host] (hvalid : s.Valid) (hdirectory : s.SimpleDirectory)
    (hvalue : fileValue d (some path) = .ok file) (hsame : SameMapping file s.toValue) :
    load d (some path) none = .ok s := by
  obtain ⟨-, -, hkeyed⟩ := mapping_of_fileValue hvalue
  have hplain := plainSections_of_sameMapping hsame hkeyed plainSections_toValue
  have hagree : AgreeOnSettings file s.toValue := fun known hknown =>
    setting?_of_sameMapping hsame (isScalar_setting hvalid hdirectory known hknown)
  have hlayered : layered (Environment.settings []) file = s := hagree.layered_eq _
  have hset {part key : String} (hknown : (part, key) ∈ knownKeys) :
      layered? (Environment.settings []) file part key = setting? s.toValue part key :=
    hagree.layered?_eq _ (part, key) hknown
  rw [load_none]
  refine ((load_eq_ok_iff [] hvalue hplain).1 s).2 ⟨⟨?_, ?_, ?_⟩, ⟨?_, ?_, ?_⟩, hlayered.symm⟩ <;>
    rw [hset (by decide)] <;> rintro v ⟨⟩
  · exact hvalid.receiver
  · exact hvalid.includeContent
  · exact hvalid.includeLoader
  · exact hvalid.manifestName
  · exact hvalid.indent
  · exact hvalid.encoding

/-! ## Texts of settings -/

/-- Whether the indentation of manifests has no more digits than are written. -/
def ShortIndent (s : Settings) : Prop :=
  ∀ n : Nat, s.output.indent = .int n → (Nat.toDigits 10 n).length ≤ Text.maxIntegerDigits

/-- Settings that were checked can be expressed in both formats exactly if the indentation is not too
    long. -/
theorem expresses_iff_shortIndent (hvalid : s.Valid) (hdirectory : s.SimpleDirectory) :
    format.Expresses s.toValue ↔ s.ShortIndent := by
  obtain ⟨n, hn⟩ := hvalid.indent
  have hexpresses : format.Expresses s.output.directory :=
    Format.expresses_simple (hdirectory.imp_right .inr)
  rw [hvalid.expresses_iff, and_iff_left hexpresses, ShortIndent, hn, Format.expresses_int_iff]
  simp

/-- The sections of settings, with their names. -/
def sections (s : Settings) : List (String × Value) :=
  [("extraction", s.extraction.toValue), ("output", s.output.toValue)]

/-- A section is a mapping of the settings in it. -/
theorem exists_fields {P : Value → Prop}
    (h : ∀ known ∈ knownKeys, ∀ v ∈ setting? s.toValue known.1 known.2, P v) :
    ∀ part ∈ s.sections, ∃ fields, part.2 = .record fields ∧ (fields.map Prod.fst).Nodup ∧
      ∀ field ∈ fields, P field.2 := by
  simp only [knownKeys, List.forall_mem_cons] at h
  obtain ⟨hreceiver, hcontent, hloader, hname, hdirectory, hindent, hencoding, -⟩ := h
  rw [sections, List.forall_mem_cons, List.forall_mem_singleton]
  refine ⟨⟨_, rfl, by simp, ?_⟩, ⟨_, rfl, by simp, ?_⟩⟩
  · simp only [List.forall_mem_cons]
    exact ⟨hreceiver _ rfl, hcontent _ rfl, hloader _ rfl, List.forall_mem_nil _⟩
  · simp only [List.forall_mem_cons]
    exact ⟨hname _ rfl, hdirectory _ rfl, hindent _ rfl, hencoding _ rfl, List.forall_mem_nil _⟩

/-- Every setting that was checked can be read back from JSON format. -/
theorem plain_setting {depth : Option Nat} (hvalid : s.Valid) (hdirectory : s.SimpleDirectory)
    (hindent : s.ShortIndent) : ∀ known ∈ knownKeys, ∀ v ∈ setting? s.toValue known.1 known.2,
      Json.Plain (some Json.maxDigits) depth v := by
  intro known hknown v hv
  obtain (rfl | ⟨b, rfl⟩ | ⟨t, rfl⟩) | rfl := simple_setting hvalid hdirectory known hknown v hv
  · exact .null
  · exact .bool b
  · exact .text t
  · obtain ⟨n, hn⟩ := hvalid.indent
    rw [hn]
    have hshort : Format.json.Expresses (.int n) := Format.expresses_int_iff.2 (hindent n hn)
    have hfits : Json.Fits (some Json.maxDigits) (.int n) :=
      (Json.expressible_scalar_iff rfl).1 hshort
    exact .int hfits

/-- The sections of settings that can be written are plain, with one bracket open at a time. -/
theorem plain_sections {n : Nat} (hvalid : s.Valid) (hdirectory : s.SimpleDirectory)
    (hindent : s.ShortIndent) :
    ∀ part ∈ s.sections, Json.Plain (some Json.maxDigits) (some (n + 1)) part.2 := by
  intro part hpart
  obtain ⟨fields, hfields, hnames, hplain⟩ :=
    exists_fields (plain_setting hvalid hdirectory hindent) part hpart
  rw [hfields]
  exact .record rfl hnames hplain

/-! ## Settings of scalars -/

section Depth

variable {v : Value} {n : Nat}

theorem depth_eq_zero (h : v.isScalar = true) : v.depth = 0 := by
  cases v with
  | list | mapping | tuple | set => cases h
  | _ => rfl

/-- A mapping is one level deeper than its values. -/
theorem depth_record_le {fields : List (String × Value)} (h : ∀ field ∈ fields, field.2.depth ≤ n) :
    (Value.record fields).depth ≤ n + 1 := by
  refine Nat.succ_le_succ ?_
  induction fields with
  | nil => exact Nat.zero_le n
  | cons field fields ih =>
    obtain ⟨hfield, hfields⟩ := List.forall_mem_cons.1 h
    exact Nat.max_le.2 ⟨Nat.max_le.2 ⟨Nat.zero_le n, hfield⟩, ih hfields⟩

/-- Valid settings with a simple directory are two levels deep: that of the sections and that of the
    settings. -/
theorem depth_toValue_le (hvalid : s.Valid) (hdirectory : s.SimpleDirectory) :
    s.toValue.depth ≤ 2 := by
  refine depth_record_le fun part hpart => ?_
  obtain ⟨fields, hfields, -, hscalars⟩ :=
    exists_fields (isScalar_setting hvalid hdirectory) part hpart
  rw [hfields]
  exact depth_record_le fun field hfield => Nat.le_of_eq (depth_eq_zero (hscalars field hfield))

end Depth

/-! ## Reading what was written -/

/-- Settings that were checked have each key once. -/
theorem sameMapping_self (hvalid : s.Valid) (hdirectory : s.SimpleDirectory) :
    SameMapping s.toValue s.toValue := by
  have hself : ∀ part ∈ s.sections, SameMapping part.2 part.2 := by
    intro part hpart
    obtain ⟨fields, hfields, hnames, hscalars⟩ :=
      exists_fields (isScalar_setting hvalid hdirectory) part hpart
    rw [hfields]
    exact sameMapping_record (.refl _) hnames hscalars
  rw [sections, List.forall_mem_cons, List.forall_mem_singleton] at hself
  exact sameMapping_sections hself.1 hself.2

variable [Host]

/-- Reading what is written of settings in YAML format gives the same mapping. -/
def YamlInverts (s : Settings) : Prop :=
  ∀ text, s.text .yaml = ⟨text, none⟩ →
    ∃ file, Host.readYaml (Utf8.encode text) = .ok file ∧ SameMapping file s.toValue

/-- The settings are written to the end, if they are short enough for the format: they are not too
    deep for any host. -/
theorem obstacle_eq_none (hvalid : s.Valid) (hdirectory : s.SimpleDirectory)
    (hindent : s.ShortIndent) :
    (s.text format).obstacle = none :=
  obstacle_eq_none_iff.2 ⟨(expresses_iff_shortIndent hvalid hdirectory).2 hindent,
    Host.givesUp?_of_depth (depth_toValue_le hvalid hdirectory)⟩

/-- What is written of settings in JSON format is the whole mapping. -/
theorem text_json (hdepth : s.toValue.depth ≤ 2) :
    s.text .json = Json.write fileLayout s.toValue := by
  rw [text, Host.givesUp?_of_depth hdepth]
  rfl

/-- Settings that can be written are plain for every host, as two brackets are open at a time. -/
theorem plain_toValue (hvalid : s.Valid) (hdirectory : s.SimpleDirectory) (hindent : s.ShortIndent) :
    Json.Plain (some Json.maxDigits) (some Host.depth) s.toValue := by
  obtain ⟨n, hn⟩ := Nat.exists_eq_add_of_le' Host.two_le_depth
  rw [hn]
  exact .record rfl (by simp) (plain_sections hvalid hdirectory hindent)

/-- A file with the text of settings holds the settings, in some order. -/
theorem exists_fileValue (hvalid : s.Valid) (hdirectory : s.SimpleDirectory) (hindent : s.ShortIndent)
    (hyaml : format = .yaml → s.YamlInverts) (hformat : Format.ofPath path = format)
    (hread : d.read path = .ok (Utf8.encode (s.text format).text)) :
    ∃ file, fileValue d (some path) = .ok file ∧ SameMapping file s.toValue := by
  cases format with
  | json =>
    have hblank : fileLayout.Blank := by simp [Json.Layout.Blank, fileLayout, Json.isBlank]
    have hlines : fileLayout.Unreturning := by simp [Json.Layout.Unreturning, fileLayout]
    rw [text_json (depth_toValue_le hvalid hdirectory)] at hread
    exact ⟨s.toValue, fileValue_of_write hblank hlines (Json.Layout.suits_of_limit_eq rfl)
      (plain_toValue hvalid hdirectory hindent) hformat hread, sameMapping_self hvalid hdirectory⟩
  | yaml =>
    have hwhole : s.text .yaml = ⟨(s.text .yaml).text, none⟩ := by
      rw [← obstacle_eq_none hvalid hdirectory hindent]
    obtain ⟨file, hfile, hsame⟩ := hyaml rfl _ hwhole
    obtain ⟨entries, rfl⟩ := hsame.exists_mapping
    refine ⟨_, fileValue_of_read hread ?_, hsame⟩
    rw [hformat]
    exact hfile

/-! ## Saving -/

/-- Settings that are not deep are saved exactly if the file can be written and the format can express
    them. -/
theorem save_eq_iff (hdepth : s.toValue.depth ≤ 2) : s.save d path format = (d', .ok ()) ↔
    d.write path (Utf8.encode (s.text format).text) = .ok d' ∧ format.Expresses s.toValue := by
  have hobstacle : (s.text format).obstacle = none ↔ format.Expresses s.toValue :=
    obstacle_eq_none_iff.trans (and_iff_left (Host.givesUp?_of_depth hdepth))
  rw [← hobstacle]
  cases hwrite : d.write path (Utf8.encode (s.text format).text) with
  | error e =>
    obtain ⟨p, hsave⟩ := save_of_write_error hwrite
    simp [hsave]
  | ok written =>
    rw [save_of_write (Host.copies_of_depth hdepth) hwrite]
    cases (s.text format).obstacle <;> simp

/-- What was saved is loaded again. -/
theorem load_of_save (hvalid : s.Valid) (hdirectory : s.SimpleDirectory)
    (hformat : Format.ofPath path = format)
    (hyaml : format = .yaml → s.YamlInverts) (hsave : s.save d path format = (d', .ok ())) :
    load d' (some path) none = .ok s := by
  obtain ⟨hwrite, hwhole⟩ := (save_eq_iff (depth_toValue_le hvalid hdirectory)).1 hsave
  have hindent := (expresses_iff_shortIndent hvalid hdirectory).1 hwhole
  obtain ⟨file, hvalue, hsame⟩ :=
    exists_fileValue hvalid hdirectory hindent hyaml hformat (Disk.read_of_write hwrite).1
  exact load_of_sameMapping hvalid hdirectory hvalue hsame

/-- Saving once more changes nothing. -/
theorem save_of_save (hdepth : s.toValue.depth ≤ 2) (hsave : s.save d path format = (d', .ok ())) :
    s.save d' path format = (d', .ok ()) := by
  obtain ⟨hwrite, hwhole⟩ := (save_eq_iff hdepth).1 hsave
  exact (save_eq_iff hdepth).2 ⟨(Disk.read_of_write hwrite).2, hwhole⟩

end Settings

namespace Session

open Settings Value

variable {t : Session} {s : Settings} {path : String} {format : Format}

section

variable [Report.Console] [Text.Codecs] [Host]

/-- A step that saves answers with nothing exactly if the saving completes. -/
theorem step_save_eq_nothing_iff : (t.step (.save path format)).2 = .nothing ↔
    ∃ d, t.current.save t.disk path format = (d, .ok ()) := by
  rw [step, withDisk]
  obtain ⟨d, r⟩ := t.current.save t.disk path format
  cases r with
  | ok u => exact iff_of_true rfl ⟨d, rfl⟩
  | error p => exact iff_of_false (fun h => by cases h) (by rintro ⟨_, ⟨⟩⟩)

/-- A step that loads settings replaces the current ones. -/
theorem step_load (h : Settings.load t.disk (some path) none = .ok s) :
    t.step (.load (some path) false true) = (t.replace s, .loaded s.toValue []) := by
  rw [step, if_neg Bool.false_ne_true, h]
  rfl

/-- Valid settings with a simple directory are saved exactly if the file can be written and the
    indentation is short enough. When the file is loaded then, in whatever environment, the settings
    are the ones that were saved; and saving these changes nothing, so that the file has the same
    bytes as before. -/
theorem step_save_load (t : Session) (hvalid : t.current.validate = .ok ())
    (hdirectory : t.current.SimpleDirectory)
    (hformat : Format.ofPath path = format) (hyaml : format = .yaml → t.current.YamlInverts) :
    ((t.step (.save path format)).2 = .nothing ↔
      (∃ d, t.disk.write path (Utf8.encode (t.current.text format).text) = .ok d) ∧
      t.current.ShortIndent) ∧
    ((t.step (.save path format)).2 = .nothing → ∀ env : Environment,
      let saved : Session := { (t.step (.save path format)).1 with environment := env }
      let loaded := saved.replace t.current
      saved.step (.load (some path) false true) = (loaded, .loaded t.current.toValue []) ∧
        loaded.step (.save path format) = (loaded, .nothing) ∧
        loaded.disk.read path = .ok (Utf8.encode (t.current.text format).text)) := by
  have hvalid := validate_eq_ok_iff.1 hvalid
  have hdepth := depth_toValue_le hvalid hdirectory
  refine ⟨?_, fun hsaved env => ?_⟩
  · have hwhole : format.Expresses t.current.toValue ↔ t.current.ShortIndent :=
      expresses_iff_shortIndent hvalid hdirectory
    rw [step_save_eq_nothing_iff, ← hwhole]
    simp only [save_eq_iff hdepth, exists_and_right]
  · obtain ⟨d, hsave⟩ := step_save_eq_nothing_iff.1 hsaved
    have hdisk : (t.step (.save path format)).1 = { t with disk := d } := by
      rw [step, withDisk, hsave]
    have hload := load_of_save hvalid hdirectory hformat hyaml hsave
    have hagain := save_of_save hdepth hsave
    rw [hdisk]
    refine ⟨step_load hload, ?_, (Disk.read_of_write ((save_eq_iff hdepth).1 hsave).1).1⟩
    rw [step, withDisk]
    dsimp only [replace]
    rw [hagain]
    rfl

end

open scoped Usual

/-! ## A file in YAML format -/

namespace AccentedDirectory

/-- A session whose settings have a name for the receiver and a directory that is not in ASCII. -/
def start : Session where
  environment := [("LASSO_UNPACK_INDENT", "7")]
  current := {
    extraction := { receiver := .text "$_mod", includeLoader := .bool false }
    output := { directory := .text "\u00E9t\u00E9", indent := .int 0 } }

/-- The settings as they are read, with the keys in order. -/
def sorted : Value :=
  .record
    [("extraction",
        .record [("include_content", .bool true), ("include_loader", .bool false),
          ("receiver", .text "$_mod")]),
      ("output",
        .record [("encoding", .text "utf-8"), ("indent", .int 0),
          ("manifest_name", .text "lasso-stats.json"), ("output_dir", .text "\u00E9t\u00E9")])]

section Order

variable {α : Type} (a b c d : α)

theorem ordered_sections : Yaml.ordered [(.text "extraction", a), (.text "output", b)] =
    [(.text "extraction", a), (.text "output", b)] := by
  simp [Yaml.ordered, Yaml.hasTextKeys, List.mergeSort, List.MergeSort.Internal.splitInTwo]

/-- The settings about what is decoded in the order of their names. -/
theorem ordered_extraction :
    Yaml.ordered [(.text "receiver", a), (.text "include_content", b), (.text "include_loader", c)] =
      [(.text "include_content", b), (.text "include_loader", c), (.text "receiver", a)] := by
  simp [Yaml.ordered, Yaml.hasTextKeys, List.mergeSort, List.MergeSort.Internal.splitInTwo]

/-- The settings about what is written in the order of their names. -/
theorem ordered_output :
    Yaml.ordered [(.text "manifest_name", a), (.text "output_dir", b), (.text "indent", c),
      (.text "encoding", d)] =
      [(.text "encoding", d), (.text "indent", c), (.text "manifest_name", a),
        (.text "output_dir", b)] := by
  simp [Yaml.ordered, Yaml.hasTextKeys, List.mergeSort, List.MergeSort.Internal.splitInTwo]

end Order

/-- A mapping behind a colon begins on the next line, two columns further on. -/
theorem afterColon_mapping {indent column : Nat} {entries : List (Value × Value)}
    (h : entries.isEmpty = false) :
    Yaml.afterColon indent column (.mapping entries) = '\n' :: Yaml.spaces (indent + 2) ++
      Yaml.lines (indent + 2) ((Yaml.ordered (Yaml.entryParts (indent + 2) entries)).map (·.2)) := by
  rw [Yaml.afterColon, if_neg (by simp [h])]

/-- What the usual host writes of the settings is read as the same mapping. -/
theorem yamlInverts : start.current.YamlInverts := by
  intro text htext
  have hwritten :
      start.current.text .yaml = ⟨Yaml.write (Json.toEntries start.current.sections), none⟩ := rfl
  have hread : Host.readYaml (Utf8.encode (Yaml.write (Json.toEntries start.current.sections))) =
      .ok sorted := by
    -- The order of keys cannot be computed by its definition, so they are put in order first.
    simp only [sections, Yaml.write, Json.toEntries, List.map_cons, List.map_nil, Yaml.entryParts,
      ordered_sections,
      ExtractionSettings.toValue, OutputSettings.toValue, Value.record, afterColon_mapping,
      List.isEmpty_cons, ordered_extraction, ordered_output]
    decide +kernel
  rw [hwritten, Json.Written.mk.injEq] at htext
  rw [← htext.1]
  refine ⟨sorted, hread,
    sameMapping_sections (sameMapping_record ?_ ?_ ?_) (sameMapping_record ?_ ?_ ?_)⟩ <;>
    decide

end AccentedDirectory

open AccentedDirectory in
/-- The settings come back from a file in YAML format, in which they are in another order, and the
    environment does not matter. -/
theorem step_save_load_of_yaml : start.current.validate = .ok () ∧ start.current.SimpleDirectory ∧
    Format.ofPath "c.yaml" = .yaml ∧ start.current.YamlInverts ∧
    (start.step (.save "c.yaml" .yaml)).2 = .nothing ∧
    ((start.step (.save "c.yaml" .yaml)).1.step (.load (some "c.yaml") false true)).1.current =
      start.current := by
  have hvalid : start.current.validate = .ok () := rfl
  have hdirectory : start.current.SimpleDirectory := .inr ⟨_, rfl⟩
  have hformat : Format.ofPath "c.yaml" = .yaml := (Format.ofPath_eq _).trans rfl
  obtain ⟨hsaves, hloads⟩ := step_save_load start hvalid hdirectory hformat fun _ => yamlInverts
  have hindent : start.current.ShortIndent := by
    rintro n hn
    obtain rfl : n = 0 := by simpa [start] using hn.symm
    decide
  have hsaved := hsaves.2 ⟨⟨_, rfl⟩, hindent⟩
  obtain ⟨hloaded, -⟩ := hloads hsaved start.environment
  refine ⟨hvalid, hdirectory, hformat, yamlInverts, hsaved, ?_⟩
  have henvironment : (start.step (.save "c.yaml" .yaml)).1.environment = start.environment := rfl
  rw [← henvironment] at hloaded
  exact congrArg (fun r => r.1.current) hloaded

/-! ## Settings that do not come back -/

/-- The settings are saved to a file, and in every environment what is loaded from it are these
    settings. -/
def SavesAndLoads (t : Session) (path : String) (format : Format) : Prop :=
  (t.step (.save path format)).2 = .nothing ∧ ∀ env : Environment,
    let saved : Session := { (t.step (.save path format)).1 with environment := env }
    (saved.step (.load (some path) false true)).2 = .loaded t.current.toValue []

namespace LongIndent

/-- A session whose settings have an indentation that is longer than what is written of an integer. -/
def start : Session where
  current := { output := { indent := .int (10 ^ Text.maxIntegerDigits : Nat) } }

/-- The check accepts the indentation, however long it is. -/
theorem validate_eq : start.current.validate = .ok () := by
  have hvalid : start.current.Valid :=
    { receiver := .inl rfl
      includeContent := ⟨true, rfl⟩
      includeLoader := ⟨true, rfl⟩
      manifestName := ⟨_, rfl, by decide, by decide⟩
      indent := ⟨_, rfl⟩
      encoding := ⟨_, rfl⟩ }
  exact validate_eq_ok_iff.2 hvalid

theorem not_shortIndent : ¬start.current.ShortIndent := by
  intro h
  have hlength := h _ rfl
  rw [Nat.length_toDigits_le_iff (by decide) (by decide)] at hlength
  exact Nat.lt_irrefl _ hlength

end LongIndent

/-- Settings that pass the check may not come back from a file. It may be that the file cannot be
    written, as its directory is missing; or that it can, but not with the whole of the
    indentation. -/
theorem not_savesAndLoads :
    (¬∀ (t : Session) (path : String) (format : Format),
      t.current.validate = .ok () → t.current.SimpleDirectory →
      Format.ofPath path = format → (format = .yaml → t.current.YamlInverts) →
        t.SavesAndLoads path format) ∧
    ¬∀ (t : Session) (path : String) (format : Format),
      t.current.validate = .ok () → t.current.SimpleDirectory →
      Format.ofPath path = format → (format = .yaml → t.current.YamlInverts) →
      (∃ d, t.disk.write path (Utf8.encode (t.current.text format).text) = .ok d) →
        t.SavesAndLoads path format := by
  refine ⟨fun h => ?_, fun h => ?_⟩
  · have hformat : Format.ofPath "missing/c.json" = .json := (Format.ofPath_eq _).trans rfl
    obtain ⟨hsaved, -⟩ := h {} "missing/c.json" .json rfl (.inl rfl) hformat fun hyaml => by
      cases hyaml
    obtain ⟨d, hsave⟩ := step_save_eq_nothing_iff.1 hsaved
    cases hsave
  · have hformat : Format.ofPath "c.json" = .json := (Format.ofPath_eq _).trans rfl
    have hdirectory : LongIndent.start.current.SimpleDirectory := .inl rfl
    have hvalid := validate_eq_ok_iff.1 LongIndent.validate_eq
    obtain ⟨hsaved, -⟩ := h LongIndent.start "c.json" .json LongIndent.validate_eq hdirectory hformat
      (fun hyaml => by cases hyaml) ⟨_, rfl⟩
    obtain ⟨d, hsave⟩ := step_save_eq_nothing_iff.1 hsaved
    obtain ⟨-, hwhole⟩ := (save_eq_iff (depth_toValue_le hvalid hdirectory)).1 hsave
    exact LongIndent.not_shortIndent ((expresses_iff_shortIndent hvalid hdirectory).1 hwhole)

end Session

end BundleManifest
