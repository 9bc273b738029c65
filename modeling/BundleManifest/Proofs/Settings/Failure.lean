import BundleManifest.Proofs.Disk.Frame
import BundleManifest.Proofs.Settings.Section
import BundleManifest.Settings.Usual

/-!
# Failures of loading

Loading settings yields settings, or a person is told what is wrong with them, except for a few
causes: a file that is no text, has a number or a scalar that cannot be read, or has too much nested
in it, a section that is no mapping, or an entry that cannot be set. They end in a problem that nobody
is told as one with the settings.

What comes first is decisive: the file is read, then merged with the environment, then checked, and
only when the check passes the entries of its sections are set. So a section that is no mapping is a
cause only if the check did not find a fault before it, and `Escapes` has the order in its conditions.
What the host says about a file in YAML format is not looked into; it is malformed, which is told, or
it is one of the other causes.

* `Settings.Unreadable`: the causes in a file;
* `Settings.Escapes`: all causes, of which those in the sections count only after the checks;
* `Settings.load_answers_iff`: there are no others;
* `Settings.load_escapes`: a file that is no text.
-/

namespace BundleManifest.Settings

open Value

variable {d : Disk} {path : Option String} {env : Environment} {name part : String} {file : Value}
  {bytes : List UInt8} {o : Option Value}

/-! ## Files -/

theorem decode_utf8_eq_ok_iff {text : List Char} :
    Text.Encoding.decode .utf8 bytes = .ok text ↔ Utf8.decode bytes = .ok text := by
  rw [Text.Encoding.decode, Text.Encoding.decodeUtf8]
  cases Utf8.decode bytes <;> simp

/-- That the bytes of a file are no text is not told, but what becomes of the text may be. -/
theorem answers_decoded_iff {r : Except Text.DecodingError (List Char)}
    {next : List Char → Except Problem Value} :
    Answers (r.mapError Problem.decoding >>= next) ↔ ∃ text, r = .ok text ∧ Answers (next text) := by
  cases r with
  | error e =>
    refine iff_of_false (fun h => ?_) ?_
    · obtain ⟨fault, hfault⟩ := answers_error_iff.1 h
      cases hfault
    · rintro ⟨text, htext, -⟩
      cases htext
  | ok text =>
    refine ⟨fun h => ⟨text, rfl, h⟩, ?_⟩
    rintro ⟨text', htext, h⟩
    exact Except.ok.inj htext ▸ h

theorem contains_of_read (h : d.read name = .ok bytes) : d.contains name = true := by
  obtain ⟨place, hlocate, hplace⟩ := Disk.read_eq_ok_iff.1 h
  rw [Disk.contains, Disk.find?, hlocate]
  exact Option.isSome_of_eq_some hplace

/-- A value that is no mapping is told. -/
theorem answers_bind_mapping_iff {r : Except Problem Value} : Answers (r >>= fun v => match v with
    | .mapping _ => .ok v
    | _ => .error (.settings (.noMapping name))) ↔ Answers r := by
  rw [answers_bind_iff, and_iff_left_iff_imp]
  intro _ v _
  split
  · exact answers_ok
  · exact answers_error_iff.2 ⟨_, rfl⟩

/-- Why the value of a file cannot be told. A file in JSON format is no text, has an integer with too
    many digits, or has more brackets open than are read. Of a file in YAML format, the host says
    anything but that its text is malformed: that it is no text, that a scalar in it is no value of
    its type, or that too much is nested. -/
inductive Unreadable [Host] (d : Disk) (name : String) : Prop
  | noText {bytes : List UInt8} {bad : Utf8.Bad} (hread : d.read name = .ok bytes)
      (hformat : Format.ofPath name = .json) (h : Utf8.decode bytes = .error bad)
  | badJson {bytes : List UInt8} {text : List Char} {e : Json.Error} (hread : d.read name = .ok bytes)
      (hformat : Format.ofPath name = .json) (htext : Utf8.decode bytes = .ok text)
      (h : Json.read (Text.withLineFeeds text) (some Json.maxDigits) (some Host.depth) = .error e)
      (he : e = .tooManyDigits ∨ e = .tooDeep)
  | badYaml {bytes : List UInt8} {failure : Yaml.Failure} (hread : d.read name = .ok bytes)
      (hformat : Format.ofPath name = .yaml) (h : Host.readYaml bytes = .error failure)
      (hfailure : failure ≠ .fault .malformed)

section Files

variable [Host]

/-- What becomes of the text of a JSON file is told if the text is malformed, and if it is not. -/
theorem answers_ofJson_iff : Answers (ofJson bytes) ↔ ∃ text, Utf8.decode bytes = .ok text ∧
    ∀ e, Json.read (Text.withLineFeeds text) (some Json.maxDigits) (some Host.depth) = .error e →
      ¬(e = .tooManyDigits ∨ e = .tooDeep) := by
  rw [ofJson, answers_decoded_iff]
  refine exists_congr fun text => and_congr decode_utf8_eq_ok_iff ?_
  cases Json.read (Text.withLineFeeds text) (some Json.maxDigits) (some Host.depth) with
  | ok v => exact iff_of_true answers_ok (by simp)
  | error e => cases e <;> simp [answers_error_iff]

/-- A file in YAML format is answered, unless the host says something else of it than that it is
    malformed. -/
theorem answers_ofYaml_iff :
    Answers (ofYaml bytes) ↔ ∀ failure, Host.readYaml bytes = .error failure →
      failure = .fault .malformed := by
  rw [ofYaml]
  cases Host.readYaml bytes with
  | ok v => exact iff_of_true answers_ok (by simp)
  | error failure =>
    refine answers_error_iff.trans ?_
    cases failure with
    | fault fault => cases fault <;> simp [ofFailure]
    | _ => simp [ofFailure]

/-- What becomes of a file is told, unless its value cannot be told. -/
theorem answers_ofFile_iff : Answers (ofFile d name) ↔ ¬Unreadable d name := by
  cases hread : d.read name with
  | error e =>
    refine iff_of_true ?_ ?_
    · rw [ofFile, hread]
      split <;> exact answers_error_iff.2 ⟨_, rfl⟩
    · rintro (⟨hok, -⟩ | ⟨hok, -⟩ | ⟨hok, -⟩) <;> cases hread.symm.trans hok
  | ok bytes =>
    have hbytes : ∀ {bytes'}, d.read name = .ok bytes' → bytes = bytes' :=
      fun h => Except.ok.inj (hread.symm.trans h)
    rw [ofFile, contains_of_read hread, hread]
    dsimp only [Bool.not_true]
    rw [if_neg (by decide)]
    cases hformat : Format.ofPath name with
    | json =>
      refine answers_bind_mapping_iff.trans (answers_ofJson_iff.trans ⟨?_, fun hreadable => ?_⟩)
      · rintro ⟨text, htext, hvalue⟩ (⟨hok, -, hbad⟩ | ⟨hok, -, htext', hfault, he⟩ | ⟨-, hyaml, -⟩)
        · obtain rfl := hbytes hok
          cases htext.symm.trans hbad
        · obtain rfl := hbytes hok
          obtain rfl := Except.ok.inj (htext.symm.trans htext')
          exact hvalue _ hfault he
        · cases hformat.symm.trans hyaml
      · cases htext : Utf8.decode bytes with
        | error bad => exact absurd (.noText hread hformat htext) hreadable
        | ok text =>
          exact ⟨text, rfl, fun e hfault he => hreadable (.badJson hread hformat htext hfault he)⟩
    | yaml =>
      refine answers_bind_mapping_iff.trans
        (answers_ofYaml_iff.trans ⟨?_, fun hreadable failure hfailure => ?_⟩)
      · rintro hvalue (⟨-, hjson, -⟩ | ⟨-, hjson, -⟩ | ⟨hok, -, hfault, hfailure⟩)
        · cases hformat.symm.trans hjson
        · cases hformat.symm.trans hjson
        · obtain rfl := hbytes hok
          exact hfailure (hvalue _ hfault)
      · by_contra hother
        exact hreadable (.badYaml hread hformat hfailure hother)

/-- The settings file: the one at the path, or else the first of the default ones. -/
def chosenFile (d : Disk) (path : Option String) : Option String :=
  (path.filter (· ≠ "")).or (findFile d [])

/-- The settings file is answered exactly if there is none, or it can be told what is in it. -/
theorem answers_fileValue_iff :
    Answers (fileValue d path) ↔ ∀ name ∈ chosenFile d path, ¬Unreadable d name := by
  rw [fileValue, chosenFile]
  cases path.filter (· ≠ "") with
  | some name => simp [answers_ofFile_iff]
  | none =>
    cases findFile d [] with
    | some name => simp [answers_ofFile_iff]
    | none => simp [answers_ok]

end Files

/-! ## Sections -/

/-- A stray section is still no mapping after it was merged. -/
theorem Merged.exists_of_stray {env : Value} (h : Merged env file part o)
    (hstray : Stray env file part) :
    ∃ v, o = some v ∧ ∀ entries, v ≠ .mapping entries := by
  cases h with
  | absent hfile _ =>
    obtain ⟨-, v, hv, -⟩ := hstray
    cases hfile.symm.trans hv
  | stray _ _ hv => exact ⟨_, rfl, hv⟩
  | entries _ _ _ hmapped => exact absurd hstray hmapped

/-- A section that is no mapping passes at most the check. -/
theorem not_answers_of_ne_mapping {σ : Type} {set : σ → String → Value → σ} {s₀ : σ} {v : Value}
    (h : ∀ entries, v ≠ .mapping entries) : ¬Answers (assignAll set s₀ (some v)) := by
  cases v with
  | mapping entries => exact absurd rfl (h entries)
  | _ => simp [assignAll, answers_error_iff]

/-- The check of a section fails outright if this is no mapping. -/
theorem not_answers_checkExtraction {v : Value} (h : ∀ entries, v ≠ .mapping entries) :
    ¬Answers (checkExtraction v) := by
  cases v with
  | mapping entries => exact absurd rfl (h entries)
  | _ => simp [checkExtraction, answers_error_iff]

/-- In what is no mapping, a key is missing, or looking for it fails: in a text it may even be
    there. -/
theorem field?_of_ne_mapping {v : Value} {key : String} (h : ∀ entries, v ≠ .mapping entries) :
    field? v key = .ok none ∨ field? v key = .error .wrongType := by
  cases v with
  | mapping entries => exact absurd rfl (h entries)
  | list | tuple | set =>
    rw [field?]
    split
    · exact .inr rfl
    · exact .inl rfl
  | text s =>
    rw [field?]
    split
    · exact .inr rfl
    · exact .inl rfl
  | _ => exact .inr rfl

/-- The check of the other section passes what is no mapping, or fails on it. -/
theorem checkOutput_of_ne_mapping {v : Value} (h : ∀ entries, v ≠ .mapping entries) :
    checkOutput v = .ok () ∨ checkOutput v = .error .wrongType := by
  rw [checkOutput]
  rcases field?_of_ne_mapping h with hname | hname
  · rw [hname]
    rcases field?_of_ne_mapping h with hindent | hindent
    · rw [hindent]
      rcases field?_of_ne_mapping h with hencoding | hencoding
      · rw [hencoding]
        exact .inl rfl
      · rw [hencoding]
        exact .inr rfl
    · rw [hindent]
      exact .inr rfl
  · rw [hname]
    exact .inr rfl

/-- The settings of a section can be set if the entries that the file has for them can be. -/
theorem Merged.exists_assignAll_iff {σ : Type} {set : σ → String → Value → σ} {s₀ : σ}
    (hfile : Keyed file)
    (h : Merged env.settings file part o) (hmapped : ¬Stray env.settings file part) :
    (∃ s, assignAll set s₀ o = .ok s) ↔
      ∀ olds, file.find? part = some (.mapping olds) → ∀ e ∈ olds, CanAssign e := by
  cases h with
  | absent hnone _ => exact iff_of_true ⟨s₀, rfl⟩ fun olds holds => by cases hnone.symm.trans holds
  | stray hfind henv hv => exact absurd ⟨henv, _, hfind, hv⟩ hmapped
  | entries hdistinct hlookup hnamed hmapped =>
    rw [← Merged.canAssign_iff hfile (.entries hdistinct hlookup hnamed hmapped)]
    refine ⟨fun h => ?_, exists_assignAll set s₀ s₀⟩
    by_contra hentry
    exact not_answers_assignAll hentry (.inl h)

/-- There is no way to fail that a person is told. -/
theorem exists_of_answers_assignAll {σ : Type} {set : σ → String → Value → σ} {s₀ : σ}
    (h : Answers (assignAll set s₀ o)) : ∃ s, assignAll set s₀ o = .ok s := by
  cases o with
  | none => exact ⟨s₀, rfl⟩
  | some v =>
    by_cases hv : ∃ entries, v = .mapping entries
    · obtain ⟨entries, rfl⟩ := hv
      refine exists_assignAll set s₀ s₀ ?_
      by_contra hentry
      exact not_answers_assignAll hentry h
    · exact absurd h (not_answers_of_ne_mapping fun entries hentries => hv ⟨entries, hentries⟩)

/-- The sections are checked one after the other and then changed one after the other. What is told
    depends on the first step that fails. -/
theorem answers_sections_iff {e : Option Value} (hfile : Keyed file)
    (he : Merged env.settings file "extraction" e) (ho : Merged env.settings file "output" o) :
    Answers (do
        checkPart checkExtraction e
        checkPart checkOutput o
        let extraction ← assignAll ExtractionSettings.set {} e
        let output ← assignAll OutputSettings.set {} o
        return ({ extraction, output } : Settings)) ↔
      ¬Stray env.settings file "extraction" ∧
      (ExtractionPasses (layered? env.settings file "extraction") →
        ¬Stray env.settings file "output" ∧ (OutputPasses (layered? env.settings file "output") →
          ∀ part ∈ ["extraction", "output"], ∀ entries, file.find? part = some (.mapping entries) →
            ∀ entry ∈ entries, CanAssign entry)) := by
  simp only [answers_bind_iff]
  by_cases hstray : Stray env.settings file "extraction"
  · refine iff_of_false (fun h => ?_) fun h => h.1 hstray
    obtain ⟨v, rfl, hv⟩ := he.exists_of_stray hstray
    exact not_answers_checkExtraction hv h.1
  rw [he.checkPart_extraction hstray, and_iff_right answers_extractionChecks, and_iff_right hstray]
  constructor
  · intro h hpasses
    obtain ⟨hcheck, hchanges⟩ := h () (extractionChecks_eq_ok_iff.2 hpasses)
    have hmapped : ¬Stray env.settings file "output" := by
      intro hstray'
      obtain ⟨v, rfl, hv⟩ := ho.exists_of_stray hstray'
      rw [checkPart] at hcheck hchanges
      rcases checkOutput_of_ne_mapping hv with hok | herror
      · -- The check finds nothing, but nothing can be set.
        obtain ⟨hextraction, houtput⟩ := hchanges () hok
        obtain ⟨ex, hex⟩ := exists_of_answers_assignAll hextraction
        exact not_answers_of_ne_mapping hv (houtput ex hex).1
      · rw [herror] at hcheck
        obtain ⟨fault, hfault⟩ := answers_error_iff.1 hcheck
        cases hfault
    rw [ho.checkPart_output hmapped] at hchanges
    refine ⟨hmapped, fun hpasses' => ?_⟩
    obtain ⟨hextraction, houtput⟩ := hchanges () (outputChecks_eq_ok_iff.2 hpasses')
    obtain ⟨ex, hex⟩ := exists_of_answers_assignAll hextraction
    obtain ⟨hanswers, -⟩ := houtput ex hex
    refine List.forall_mem_cons.2 ⟨?_, List.forall_mem_singleton.2 ?_⟩
    · exact (he.exists_assignAll_iff hfile hstray).1 ⟨ex, hex⟩
    · exact (ho.exists_assignAll_iff hfile hmapped).1 (exists_of_answers_assignAll hanswers)
  · rintro h ⟨⟩ hcheck
    obtain ⟨hmapped, hentries⟩ := h (extractionChecks_eq_ok_iff.1 hcheck)
    rw [ho.checkPart_output hmapped]
    refine ⟨answers_outputChecks, ?_⟩
    rintro ⟨⟩ hcheck'
    have hall := hentries (outputChecks_eq_ok_iff.1 hcheck')
    refine ⟨.inl ((he.exists_assignAll_iff hfile hstray).2 (hall _ List.mem_cons_self)),
      fun ex _ => ?_⟩
    exact ⟨.inl ((ho.exists_assignAll_iff hfile hmapped).2 (hall _ (by decide))),
      fun out _ => answers_ok⟩

/-! ## Loading -/

/-- Why loading ends in a problem that is told to nobody. -/
inductive Escapes [Host] (d : Disk) (path : Option String) (env : Environment) : Prop
  /-- The value of the settings file cannot be told. -/
  | file {name : String} (hname : name ∈ chosenFile d path) (h : Unreadable d name)
  /-- The section about what is decoded is no mapping. -/
  | extraction {file : Value} (hfile : fileValue d path = .ok file)
      (h : Stray env.settings file "extraction")
  /-- The section about what is written is no mapping. -/
  | output {file : Value} (hfile : fileValue d path = .ok file)
      (hextraction : ExtractionPasses (layered? env.settings file "extraction"))
      (h : Stray env.settings file "output")
  /-- A section has an entry that cannot be set, and all settings pass the checks. -/
  | entry {file : Value} {part : String} {entries : List (Value × Value)} {e : Value × Value}
      (hfile : fileValue d path = .ok file)
      (hextraction : ExtractionPasses (layered? env.settings file "extraction"))
      (houtput : OutputPasses (layered? env.settings file "output"))
      (hpart : part ∈ ["extraction", "output"])
      (hentries : file.find? part = some (.mapping entries)) (he : e ∈ entries) (h : ¬CanAssign e)

/-- Loading yields settings, or a person is told what is wrong with them, exactly if there is none of
    the causes for anything else. -/
theorem load_answers_iff [Host] (d : Disk) (path : Option String) (env : Environment) :
    ((∃ s, load d path (some env) = .ok s) ∨
      ∃ fault, load d path (some env) = .error (.settings fault)) ↔
      ¬Escapes d path env := by
  change Answers (load d path (some env)) ↔ _
  cases hvalue : fileValue d path with
  | error p =>
    have hload : Answers (load d path (some env)) ↔ Answers (fileValue d path) := by
      rw [load, hvalue]
      exact answers_error_iff.trans answers_error_iff.symm
    refine hload.trans
      (answers_fileValue_iff.trans ⟨fun h => ?_, fun h name hname hfile => h (.file hname hfile)⟩)
    rintro (⟨hname, hfile⟩ | ⟨hok, -⟩ | ⟨hok, -, -⟩ | ⟨hok, -⟩)
    · exact h _ hname hfile
    all_goals cases hvalue.symm.trans hok
  | ok file =>
    have hreadable : ∀ name ∈ chosenFile d path, ¬Unreadable d name :=
      answers_fileValue_iff.1 (hvalue ▸ answers_ok)
    have hsame : ∀ {v}, fileValue d path = .ok v → file = v :=
      fun h => Except.ok.inj (hvalue.symm.trans h)
    obtain ⟨e, o, he, ho, hload⟩ := exists_load env hvalue
    obtain ⟨-, -, hkeyed⟩ := mapping_of_fileValue hvalue
    rw [hload, answers_sections_iff hkeyed he ho]
    constructor
    · rintro ⟨hextraction, hrest⟩ (⟨hname, hfile⟩ | ⟨hok, hstray⟩ | ⟨hok, hpasses, hstray⟩ |
        ⟨hok, hpasses, hpasses', hpart, hentries, hentry, hbad⟩)
      · exact hreadable _ hname hfile
      all_goals obtain rfl := hsame hok
      · exact hextraction hstray
      · exact (hrest hpasses).1 hstray
      · exact hbad ((hrest hpasses).2 hpasses' _ hpart _ hentries _ hentry)
    · intro h
      refine ⟨fun hstray => h (.extraction hvalue hstray), fun hpasses => ⟨fun hstray => ?_, ?_⟩⟩
      · exact h (.output hvalue hpasses hstray)
      · intro hpasses' part hpart entries hentries entry hentry
        by_contra hbad
        exact h (.entry hvalue hpasses hpasses' hpart hentries hentry hbad)

/-! ## A settings file that is no text -/

open scoped Usual

namespace NoText

/-- The bytes of the file. -/
def contents : List UInt8 := [0xFF]

/-- A disk with the file. -/
def disk : Disk where
  entries := [(["c.json"], .file contents)]

/-- What is wrong with the bytes. -/
def problem : Problem :=
  .decoding (.bytes "utf-8" 0 contents "invalid start byte")

/-- Bytes that are no text are the reason why there is no value. -/
theorem fileValue_eq : fileValue disk (some "c.json") = .error problem := by
  have hread : disk.read "c.json" = .ok contents := rfl
  have hformat : Format.ofPath "c.json" = .json := by decide +kernel
  have hdecode : Text.Encoding.decode .utf8 contents =
      .error (.bytes "utf-8" 0 contents "invalid start byte") := by
    decide +kernel
  have hjson : ofJson contents = .error problem := by
    rw [ofJson, hdecode]
    rfl
  have hfile : ofFile disk "c.json" = .error problem := by
    rw [ofFile, contains_of_read hread, hread]
    dsimp only
    rw [hformat]
    dsimp only
    rw [hjson]
    rfl
  exact hfile

end NoText

open NoText in
/-- Loading may end in a problem with the bytes of the file, which is not told as one with the
    settings. -/
theorem load_escapes : ¬∀ (d : Disk) (path : Option String) (env : Environment),
    (∃ s, load d path (some env) = .ok s) ∨
      ∃ fault, load d path (some env) = .error (.settings fault) := by
  intro h
  have hload : load disk (some "c.json") (some []) = .error problem := by
    rw [load, fileValue_eq]
    rfl
  obtain ⟨fault, hfault⟩ := answers_error_iff.1 (hload ▸ h disk (some "c.json") [])
  cases hfault

end BundleManifest.Settings
