import BundleManifest.CommandLine.Run
import BundleManifest.Proofs.Settings.Contents

/-!
# Precedence

Settings come from the defaults, a file, the environment and the command line, in this order, and each
of the seven settings is what the last of them says that says anything about it. A file is taken as a
mapping whose sections are mappings from names; keys with a meaning of their own are left out.

The settings are found one by one: what is said of a setting in the layers does not depend on the
other settings. So the merged mapping is asked for each of the seven settings, the answer is given by
`layered?`, and the order of the layers is then read off the definition of `choose`. The command line
comes last and does not go through the mapping; a word that is empty does not count there, and neither
does a switch that is not given.

* `Settings.load_eq_ok_iff`: what is loaded from the file and the environment;
* `CommandLine.chosen`: the settings setting by setting;
* `CommandLine.settings_eq_chosen`: a run has these settings if they, and what was loaded, keep the
  rules for settings; otherwise a person is told which rule is broken.
-/

namespace BundleManifest

/-- Setting a name changes one setting, or none if no setting has the name. -/
theorem ExtractionSettings.set_eq (s : ExtractionSettings) (name : String) (v : Value) :
    s.set name v =
    { receiver := if name = "receiver" then v else s.receiver
      includeContent := if name = "include_content" then v else s.includeContent
      includeLoader := if name = "include_loader" then v else s.includeLoader } := by
  rw [ExtractionSettings.set]
  split_ifs <;> simp_all

/-- The same of the settings about what is written. -/
theorem OutputSettings.set_eq (s : OutputSettings) (name : String) (v : Value) : s.set name v =
    { manifestName := if name = "manifest_name" then v else s.manifestName
      directory := if name = "output_dir" then v else s.directory
      indent := if name = "indent" then v else s.indent
      encoding := if name = "encoding" then v else s.encoding } := by
  rw [OutputSettings.set]
  split_ifs <;> simp_all

namespace Settings

open Value

variable {d : Disk} {path : Option String} {env : Environment} {file : Value} {part key : String}

/-- A name between two pairs of underscores, like those with a meaning of their own. -/
def Underscored (name : String) : Prop :=
  ∃ middle, name = "__" ++ middle ++ "__"

/-- The sections, if they are there, are mappings from names that are not between underscores. -/
def PlainSections (file : Value) : Prop :=
  ∀ part ∈ ["extraction", "output"], ∀ v ∈ file.find? part, ∃ entries, v = .mapping entries ∧
    ∀ e ∈ entries, ∃ name, e.1 = .text name ∧ ¬Underscored name

/-- All keys with a meaning of their own are between underscores. -/
theorem underscored_of_mem_reservedKeys {name : String} (h : name ∈ reservedKeys) :
    Underscored name := by
  simp only [reservedKeys, List.mem_cons, List.not_mem_nil, or_false] at h
  rcases h with rfl | rfl | rfl
  · exact ⟨"dict", rfl⟩
  · exact ⟨"class", rfl⟩
  · exact ⟨"weakref", rfl⟩

theorem not_underscored {name : String} (h : name.toList.head? ≠ some '_') : ¬Underscored name := by
  rintro ⟨middle, rfl⟩
  exact h (by rw [String.toList_append, String.toList_append]; rfl)

/-- Two sections are plain if no key in them begins with an underscore. -/
theorem plainSections_record {extraction output : List (String × Value)}
    (h : ∀ field ∈ extraction ++ output, field.1.toList.head? ≠ some '_') :
    PlainSections (.record [("extraction", .record extraction), ("output", .record output)]) := by
  have hnames : ∀ fields ⊆ extraction ++ output,
      ∀ e ∈ fields.map fun field => (Value.text field.1, field.2),
      ∃ name, e.1 = .text name ∧ ¬Underscored name := by
    intro fields hfields e he
    obtain ⟨field, hfield, rfl⟩ := List.mem_map.1 he
    exact ⟨field.1, rfl, not_underscored (h field (hfields hfield))⟩
  intro part hpart v hv
  rcases List.mem_cons.1 hpart with rfl | hpart
  · obtain rfl : .record extraction = v := Option.some.inj hv
    exact ⟨_, rfl, hnames _ (List.subset_append_left _ _)⟩
  · obtain rfl := List.mem_singleton.1 hpart
    obtain rfl : .record output = v := Option.some.inj hv
    exact ⟨_, rfl, hnames _ (List.subset_append_right _ _)⟩

theorem PlainSections.exists_plain (h : PlainSections file) (hpart : part ∈ ["extraction", "output"])
    {v : Value}
    (hv : file.find? part = some v) : ∃ entries, v = .mapping entries ∧ Plain entries := by
  obtain ⟨entries, rfl, hnames⟩ := h part hpart v hv
  refine ⟨entries, rfl, fun e he => ?_⟩
  obtain ⟨name, hname, hplain⟩ := hnames e he
  exact ⟨name, hname, mt underscored_of_mem_reservedKeys hplain⟩

/-- The settings of the file and the environment, setting by setting. -/
def layered (env file : Value) : Settings where
  extraction := {
    receiver := (layered? env file "extraction" "receiver").getD .null
    includeContent := (layered? env file "extraction" "include_content").getD (.bool true)
    includeLoader := (layered? env file "extraction" "include_loader").getD (.bool true) }
  output := {
    manifestName := (layered? env file "output" "manifest_name").getD (.text "lasso-stats.json")
    directory := (layered? env file "output" "output_dir").getD .null
    indent := (layered? env file "output" "indent").getD (.int 2)
    encoding := (layered? env file "output" "encoding").getD (.text "utf-8") }

/-! ## Sections -/

theorem not_stray (hfile : PlainSections file) (hpart : part ∈ ["extraction", "output"])
    {env : Value} :
    ¬Stray env file part := by
  rintro ⟨-, v, hv, hmapping⟩
  obtain ⟨entries, rfl, -⟩ := hfile.exists_plain hpart hv
  exact hmapping entries rfl

/-- A plain section is still plain when it is merged. -/
theorem Merged.plain {entries : List (Value × Value)} (hfile : PlainSections file)
    (hpart : part ∈ ["extraction", "output"])
    (h : Merged env.settings file part (some (.mapping entries))) :
    Plain entries := by
  cases h with
  | stray _ _ hv => exact absurd rfl (hv entries)
  | entries hdistinct hlookup hnamed _ =>
    have holds : ∀ olds, file.find? part = some (.mapping olds) → Plain olds := by
      intro olds hfind
      obtain ⟨es, hes, hplain⟩ := hfile.exists_plain hpart hfind
      exact Value.mapping.inj hes ▸ hplain
    rintro ⟨k, v⟩ he
    obtain ⟨name, rfl⟩ := hnamed.2 (fun olds hfind => (holds olds hfind).named) _ he
    refine ⟨name, rfl, fun hname => ?_⟩
    -- Neither the environment nor the file has anything behind such a key.
    have hnone : setting? file part name = none := by
      by_cases hfind : ∃ olds, file.find? part = some (.mapping olds)
      · obtain ⟨olds, hfind⟩ := hfind
        rw [setting?, hfind]
        exact (holds olds hfind).lookup_eq_none hname
      · exact setting?_eq_none hfind
    have hvalue := hdistinct.lookup_of_mem he (text_sameKey_iff.2 rfl)
    rw [hlookup, layered?, env.setting?_of_reserved hname, hnone] at hvalue
    cases hvalue

/-- The settings of a merged section can be set, and each of them is then the one of the environment
    or of the file, or has its default. -/
theorem Merged.exists_assignAll {σ : Type} (set : σ → String → Value → σ) (s₀ : σ) {o : Option Value}
    (hfile : PlainSections file) (hpart : part ∈ ["extraction", "output"])
    (h : Merged env.settings file part o) :
    ∃ s, assignAll set s₀ o = .ok s ∧ ∀ (get : σ → Value) (key : String),
      (∀ s name v, get (set s name v) = if name = key then v else get s) →
        get s = (layered? env.settings file part key).getD (get s₀) := by
  cases h with
  | absent hnone henv =>
    refine ⟨s₀, rfl, fun get key _ => ?_⟩
    rw [layered?_eq_none hnone henv]
    rfl
  | stray hfind henv hv => exact absurd ⟨henv, _, hfind, hv⟩ (not_stray hfile hpart)
  | entries hdistinct hlookup hnamed hmapping =>
    have hplain := Merged.plain hfile hpart (.entries hdistinct hlookup hnamed hmapping)
    obtain ⟨s, hs⟩ := Settings.exists_assignAll set s₀ s₀ hplain.canAssign
    refine ⟨s, hs, fun get key hget => ?_⟩
    rw [get_of_assignAll hget hplain hdistinct hs, hlookup]

/-! ## Loading -/

/-- Settings are loaded if the file and the environment together keep the rules, and then are
    theirs. -/
theorem load_eq_ok_iff [Host] (env : Environment) (hvalue : fileValue d path = .ok file)
    (hfile : PlainSections file) :
    (∀ s, load d path (some env) true = .ok s ↔
      ExtractionPasses (layered? env.settings file "extraction") ∧
      OutputPasses (layered? env.settings file "output") ∧ s = layered env.settings file) ∧
    Answers (load d path (some env) true) := by
  obtain ⟨e, o, hextraction, houtput, hload⟩ := exists_load env hvalue
  have hsectionE : "extraction" ∈ ["extraction", "output"] := by decide
  have hsectionO : "output" ∈ ["extraction", "output"] := by decide
  obtain ⟨ex, hex, hgetE⟩ := hextraction.exists_assignAll ExtractionSettings.set {} hfile hsectionE
  obtain ⟨out, hout, hgetO⟩ := houtput.exists_assignAll OutputSettings.set {} hfile hsectionO
  have hsettings : ({ extraction := ex, output := out } : Settings) = layered env.settings file := by
    rw [layered, Settings.mk.injEq, ← hgetE (·.receiver) "receiver" fun s name v => by rw [s.set_eq],
      ← hgetE (·.includeContent) "include_content" fun s name v => by rw [s.set_eq],
      ← hgetE (·.includeLoader) "include_loader" fun s name v => by rw [s.set_eq],
      ← hgetO (·.manifestName) "manifest_name" fun s name v => by rw [s.set_eq],
      ← hgetO (·.directory) "output_dir" fun s name v => by rw [s.set_eq],
      ← hgetO (·.indent) "indent" fun s name v => by rw [s.set_eq],
      ← hgetO (·.encoding) "encoding" fun s name v => by rw [s.set_eq]]
    exact ⟨rfl, rfl⟩
  rw [hload, hex, hout, hextraction.checkPart_extraction (not_stray hfile hsectionE),
    houtput.checkPart_output (not_stray hfile hsectionO), ← extractionChecks_eq_ok_iff,
    ← outputChecks_eq_ok_iff, ← hsettings]
  have hanswersE := @answers_extractionChecks (layered? env.settings file "extraction")
  have hanswersO := @answers_outputChecks (layered? env.settings file "output")
  -- The first check that does not pass is what is told.
  cases hE : extractionChecks (layered? env.settings file "extraction") with
  | error p =>
    rw [hE] at hanswersE
    refine ⟨fun s => iff_of_false (by simp [bind, Except.bind]) fun hs => ?_,
      answers_error_iff.2 (answers_error_iff.1 hanswersE)⟩
    cases hs.1
  | ok u =>
    cases hO : outputChecks (layered? env.settings file "output") with
    | error p =>
      rw [hO] at hanswersO
      refine ⟨fun s => iff_of_false (by simp [bind, Except.bind]) fun hs => ?_,
        answers_error_iff.2 (answers_error_iff.1 hanswersO)⟩
      cases hs.2.1
    | ok u' =>
      refine ⟨fun s => ⟨fun hs => ⟨rfl, rfl, (Except.ok.inj hs).symm⟩, ?_⟩, answers_ok⟩
      rintro ⟨-, -, rfl⟩
      rfl

end Settings

namespace CommandLine

open Settings

variable {d : Disk} {env : Environment} {a : Arguments} {file : Value}

/-- What is given on the command line, unless it is empty. -/
def given (word : Option String) : Option Value :=
  (word.filter (· ≠ "")).map Value.text

/-- What a setting is that may be given on the command line, in the environment, in a file, or
    nowhere. -/
def choose (onCommandLine : Option Value) (env file : Value) (part key : String)
    (default : Value) : Value :=
  ((onCommandLine.or (setting? env part key)).or (setting? file part key)).getD default

/-- The settings that are given on the command line, in the environment or in a file, one by one. -/
def chosen (a : Arguments) (env file : Value) : Settings where
  extraction := {
    receiver := choose (given a.receiver) env file "extraction" "receiver" .null
    includeContent :=
      choose (if a.noContent then some (.bool false) else none) env file "extraction"
      "include_content" (.bool true)
    includeLoader := choose none env file "extraction" "include_loader" (.bool true) }
  output := {
    manifestName :=
      choose (given a.manifestName) env file "output" "manifest_name" (.text "lasso-stats.json")
    directory := choose (given a.outputDir) env file "output" "output_dir" .null
    indent := choose none env file "output" "indent" (.int 2)
    encoding := choose none env file "output" "encoding" (.text "utf-8") }

/-- The command line comes before the environment, this before the file, and this before the
    default. -/
theorem choose_eq {onCommandLine : Option Value} {env file : Value} {part key : String}
    {default : Value} :
    choose onCommandLine env file part key default =
      onCommandLine.getD ((layered? env file part key).getD default) := by
  rw [choose, layered?, Option.or_assoc]
  cases onCommandLine <;> rfl

theorem overridden_eq {v : Value} {word : Option String} :
    overridden v word = (given word).getD v := by
  rw [overridden, given]
  cases word.filter (· ≠ "") <;> rfl

/-- Overriding what environment and file say gives the settings chosen one by one. -/
theorem override_layered {env : Value} : override (layered env file) a = chosen a env file := by
  simp only [override, layered, chosen, choose_eq, overridden_eq]
  cases a.noContent <;> rfl

/-- The check of settings passes them, or tells a problem with them. -/
theorem answers_validate {s : Settings} : Answers s.validate := by
  have hsections : s.validate = extractionChecks s.extraction.toValue.find? >>= fun _ =>
      outputChecks s.output.toValue.find? := by
    simp only [validate, toValue, Value.record, check_mapping]
    rfl
  rw [hsections, answers_bind_iff]
  exact ⟨answers_extractionChecks, fun _ _ => answers_outputChecks⟩

/-- The settings of a run are those of the command line, the environment, the file and the defaults,
    in this order. There are such settings exactly if the environment and the file together keep the
    rules for settings, and the settings that are chosen keep them as well. Otherwise a person is told
    what is wrong with them. -/
theorem settings_eq_chosen [Host] (hvalue : fileValue d a.config = .ok file)
    (hfile : PlainSections file) :
    (∀ s, settings d env a = .ok s ↔ ExtractionPasses (layered? env.settings file "extraction") ∧
      OutputPasses (layered? env.settings file "output") ∧ s = chosen a env.settings file ∧ s.Valid) ∧
    ∀ p, settings d env a = .error p → ∃ fault, p = .settings fault := by
  obtain ⟨hload, hanswers⟩ := load_eq_ok_iff env hvalue hfile
  rw [settings]
  cases hloaded : load d a.config (some env) true with
  | error p =>
    refine ⟨fun s => iff_of_false (by simp [bind, Except.bind]) ?_, fun q hq => ?_⟩
    · rintro ⟨hextraction, houtput, -⟩
      have hok := (hload _).2 ⟨hextraction, houtput, rfl⟩
      rw [hloaded] at hok
      cases hok
    · cases hq
      rw [hloaded] at hanswers
      exact answers_error_iff.1 hanswers
  | ok s₀ =>
    obtain ⟨hextraction, houtput, rfl⟩ := (hload s₀).1 hloaded
    rw [ok_bind]
    dsimp only
    rw [override_layered]
    have hanswer := answers_validate (s := chosen a env.settings file)
    cases hvalidate : (chosen a env.settings file).validate with
    | error p =>
      rw [hvalidate] at hanswer
      refine ⟨fun s => iff_of_false (by simp [bind, Except.bind]) ?_, fun q hq => ?_⟩
      · rintro ⟨-, -, rfl, hvalid⟩
        rw [validate_eq_ok_iff.2 hvalid] at hvalidate
        cases hvalidate
      · cases hq
        exact answers_error_iff.1 hanswer
    | ok u =>
      refine ⟨fun s => ⟨fun hs => ?_, ?_⟩, fun p hp => by cases hp⟩
      · obtain rfl : chosen a env.settings file = s := Except.ok.inj hs
        exact ⟨hextraction, houtput, rfl, validate_eq_ok_iff.1 hvalidate⟩
      · rintro ⟨-, -, rfl, -⟩
        rfl

/-! ## Settings from four places -/

open scoped Usual

namespace FourPlaces

/-- The mapping in the settings file, in which one key is no setting. -/
def mapping : Value :=
  .record [("extraction", .record [("receiver", .text "lasso"), ("include_loader", .bool false)]),
    ("output", .record [("indent", .int 4), ("colour", .null)])]

/-- A disk with the settings file. -/
def disk : Disk where
  entries := [(["c.json"], .file (Utf8.encode (Json.write {} mapping).text))]

/-- An environment that sets the receiver and the indentation, too. -/
def environment : Environment :=
  [("LASSO_UNPACK_RECEIVER", "$_mod"), ("LASSO_UNPACK_INDENT", "3")]

/-- A command line with another receiver. -/
def arguments : Arguments where
  config := some "c.json"
  receiver := some "r"

/-- The settings of the run. -/
def expected : Settings where
  extraction := { receiver := .text "r", includeLoader := .bool false }
  output := { indent := .int 3 }

theorem plain_mapping : Json.Plain (some Json.maxDigits) (some Host.depth) mapping := by
  refine .record rfl (by decide)
    (List.forall_mem_cons.2 ⟨.record rfl (by decide) ?_, List.forall_mem_cons.2
    ⟨.record rfl (by decide) ?_, List.forall_mem_nil _⟩⟩)
  · exact List.forall_mem_cons.2 ⟨.text _, List.forall_mem_cons.2 ⟨.bool _, List.forall_mem_nil _⟩⟩
  · exact List.forall_mem_cons.2 ⟨.int rfl, List.forall_mem_cons.2 ⟨.null, List.forall_mem_nil _⟩⟩

theorem fileValue_eq : fileValue disk arguments.config = .ok mapping :=
  fileValue_of_write (by simp [Json.Layout.Blank]) (by simp [Json.Layout.Unreturning])
    (Json.Layout.suits_of_limit_eq_none rfl) plain_mapping ((Format.ofPath_eq _).trans rfl) rfl

theorem plainSections_mapping : PlainSections mapping :=
  plainSections_record (by decide)

end FourPlaces

open FourPlaces in
/-- The receiver is the one of the command line, the indentation that of the environment, and the
    loader is left out as the file says. -/
theorem settings_of_four_places :
    fileValue disk arguments.config = .ok mapping ∧ PlainSections mapping ∧
    settings disk environment arguments = .ok expected := by
  refine ⟨fileValue_eq, plainSections_mapping, ?_⟩
  have hreceiver : layered? environment.settings mapping "extraction" "receiver" =
    some (.text "$_mod") := rfl
  have hcontent : layered? environment.settings mapping "extraction" "include_content" = none := rfl
  have hloader : layered? environment.settings mapping "extraction" "include_loader" =
    some (.bool false) := rfl
  have hname : layered? environment.settings mapping "output" "manifest_name" = none := rfl
  have hindent : layered? environment.settings mapping "output" "indent" = some (.int 3) := rfl
  have hencoding : layered? environment.settings mapping "output" "encoding" = none := rfl
  have hextraction : ExtractionPasses (layered? environment.settings mapping "extraction") := by
    refine ⟨?_, ?_, ?_⟩
    · rw [hreceiver]
      rintro _ ⟨⟩
      exact .inr ⟨_, rfl, by decide⟩
    · rw [hcontent]
      simp
    · rw [hloader]
      rintro _ ⟨⟩
      exact ⟨false, rfl⟩
  have houtput : OutputPasses (layered? environment.settings mapping "output") := by
    refine ⟨?_, ?_, ?_⟩
    · rw [hname]
      simp
    · rw [hindent]
      rintro _ ⟨⟩
      exact ⟨3, rfl⟩
    · rw [hencoding]
      simp
  have hvalid : expected.Valid := validate_eq_ok_iff.1 (by decide +kernel)
  exact ((settings_eq_chosen fileValue_eq plainSections_mapping).1 expected).2
    ⟨hextraction, houtput, rfl, hvalid⟩

end CommandLine

end BundleManifest
