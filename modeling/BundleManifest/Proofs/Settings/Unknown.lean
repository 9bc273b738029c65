import BundleManifest.Proofs.Settings.Precedence

/-!
# Unknown keys

A section of a settings file may have any keys. The check looks at the settings only, so that two
files which say the same about them are both refused, for the same fault, or both pass
(`load_eq_error_iff`).

What comes behind the check is different. A key between two pairs of underscores may stand for more
than a setting: the key for a whole section brings in settings that nobody has checked
(`load_unchecked`). Where no key is of this kind, unknown keys mean nothing, and what is loaded is
valid.

Two runs of the same function are compared here: the same steps are taken on both files, and at each
step the answers are the same because the step asks for settings only. The comparison ends where
entries are set, and there a key with a meaning of its own is told from the others by the table of
these keys.

* `Settings.AgreeOnSettings`: two files say the same about the seven settings;
* `Settings.checks`: the check as a function of the settings;
* `Settings.valid_layered`: settings that pass it one by one are valid;
* `Settings.load_of_agree`: what files that agree have in common when they are loaded.
-/

namespace BundleManifest.Settings

open Value

variable {d d' : Disk} {path path' : Option String} {env : Environment} {file file' : Value}
  {part : String} {o : Option Value} {fault : Fault}

/-! ## Agreement -/

/-- The settings, each with its section. -/
def knownKeys : List (String × String) :=
  [("extraction", "receiver"), ("extraction", "include_content"), ("extraction", "include_loader"),
    ("output", "manifest_name"), ("output", "output_dir"), ("output", "indent"),
    ("output", "encoding")]

/-- Two mappings of sections say the same about every setting. -/
def AgreeOnSettings (file file' : Value) : Prop :=
  ∀ known ∈ knownKeys, setting? file known.1 known.2 = setting? file' known.1 known.2

/-- The sections, if they are there, are mappings. -/
def HasSections (file : Value) : Prop :=
  ∀ part ∈ ["extraction", "output"], ∀ v ∈ file.find? part, ∃ entries, v = .mapping entries

theorem PlainSections.hasSections (h : PlainSections file) : HasSections file := by
  intro part hpart v hv
  obtain ⟨entries, hentries, -⟩ := h part hpart v hv
  exact ⟨entries, hentries⟩

theorem HasSections.not_stray (h : HasSections file) (hpart : part ∈ ["extraction", "output"])
    {env : Value} :
    ¬Stray env file part := by
  rintro ⟨-, v, hv, hmapping⟩
  obtain ⟨entries, rfl⟩ := h part hpart v hv
  exact hmapping entries rfl

/-- Below an environment they still say the same. -/
theorem AgreeOnSettings.layered?_eq (h : AgreeOnSettings file file') (env : Value) :
    ∀ known ∈ knownKeys,
      layered? env file known.1 known.2 = layered? env file' known.1 known.2 := by
  intro known hknown
  rw [layered?, layered?, h known hknown]

/-- They also agree on all settings together, -/
theorem AgreeOnSettings.layered_eq (h : AgreeOnSettings file file') (env : Value) :
    layered env file = layered env file' := by
  have hlayered := h.layered?_eq env
  simp only [knownKeys, List.forall_mem_cons] at hlayered
  obtain ⟨hreceiver, hcontent, hloader, hname, hdirectory, hindent, hencoding, -⟩ := hlayered
  rw [layered, layered, hreceiver, hcontent, hloader, hname, hdirectory, hindent, hencoding]

/-! ## The check as a function of the settings -/

/-- The check of the settings that are in an environment or in a file. -/
def checks (env file : Value) : Except Problem Unit := do
  extractionChecks (layered? env file "extraction")
  outputChecks (layered? env file "output")

/-- and on what the check says. -/
theorem AgreeOnSettings.checks_eq (h : AgreeOnSettings file file') (env : Value) :
    checks env file = checks env file' := by
  have hlayered := h.layered?_eq env
  simp only [knownKeys, List.forall_mem_cons] at hlayered
  obtain ⟨hreceiver, hcontent, hloader, hname, -, hindent, hencoding, -⟩ := hlayered
  simp only [checks, extractionChecks, outputChecks, hreceiver, hcontent, hloader, hname, hindent,
    hencoding]

/-! ## Loading -/

/-- No environment is like an empty one. -/
theorem load_none [Host] : load d path none true = load d path (some []) true := by
  rw [load, load]
  cases fileValue d path with
  | error p => rfl
  | ok file =>
    have hmerge : merge [file] = merge [file, Environment.settings []] := by
      have hlater : [Environment.settings []].foldlM mergeOne = fun acc => .ok acc := rfl
      rw [show [file, Environment.settings []] = [file] ++ [Environment.settings []] from rfl,
        merge_append, hlater]
      cases merge [file] <;> rfl
    exact congrArg (fun r => Except.ok file >>= fun _ => r >>=
        fun entries => check (.mapping entries) >>= fun _ =>
      ofValue (.mapping entries)) hmerge

theorem error_bind_eq_iff {α β : Type} {p q : Problem} {next : α → Except Problem β} :
    Except.error p >>= next = .error q ↔ p = q :=
  ⟨fun h => Except.error.inj h, fun h => h ▸ rfl⟩

/-- Two steps do not end in a problem in which neither of them ends. -/
theorem bind_ne_error {α β : Type} {p : Problem} {r : Except Problem α} {next : α → Except Problem β}
    (hr : r ≠ .error p) (hnext : ∀ a, next a ≠ .error p) : r >>= next ≠ .error p := by
  cases r with
  | error q => exact fun h => hr (congrArg Except.error (error_bind_eq_iff.1 h))
  | ok a => exact hnext a

/-- Entries that cannot be set are not told as a problem with the settings. -/
theorem assignAll_ne_error_settings {σ : Type} {set : σ → String → Value → σ} {s₀ : σ} :
    assignAll set s₀ o ≠ .error (.settings fault) := by
  intro h
  have hanswers : Answers (assignAll set s₀ o) := .inr ⟨fault, h⟩
  obtain ⟨s, hs⟩ := exists_of_answers_assignAll hanswers
  rw [h] at hs
  cases hs

/-- A person is told what is wrong with the settings exactly if the check finds it. -/
theorem load_eq_error_iff [Host] (env : Environment) (hvalue : fileValue d path = .ok file)
    (hfile : HasSections file) :
    load d path (some env) true = .error (.settings fault) ↔
      checks env.settings file = .error (.settings fault) := by
  obtain ⟨e, o, hextraction, houtput, hload⟩ := exists_load env hvalue
  rw [hload, hextraction.checkPart_extraction (hfile.not_stray (by decide)),
    houtput.checkPart_output (hfile.not_stray (by decide)), checks]
  cases extractionChecks (layered? env.settings file "extraction") with
  | error p => exact error_bind_eq_iff.trans error_bind_eq_iff.symm
  | ok u =>
    cases outputChecks (layered? env.settings file "output") with
    | error p => rw [ok_bind, ok_bind, error_bind_eq_iff, Except.error.injEq]
    | ok u' =>
      -- What comes behind the check may fail, but not so that a person is told.
      refine iff_of_false ?_ (by simp [bind, Except.bind])
      rw [ok_bind, ok_bind]
      refine bind_ne_error assignAll_ne_error_settings fun ex =>
        bind_ne_error assignAll_ne_error_settings fun out => ?_
      rintro ⟨⟩

/-- Settings that pass the check one by one are valid, and so are the defaults. -/
theorem valid_layered {env : Value} (hextraction : ExtractionPasses (layered? env file "extraction"))
    (houtput : OutputPasses (layered? env file "output")) : (layered env file).Valid := by
  have hgetD {o : Option Value} {default : Value} {P : Value → Prop} (h : ∀ v ∈ o, P v)
    (hdefault : P default) :
      P (o.getD default) := by
    cases o with
    | none => exact hdefault
    | some v => exact h v rfl
  exact {
    receiver := hgetD hextraction.receiver (.inl rfl)
    includeContent := hgetD hextraction.includeContent ⟨true, rfl⟩
    includeLoader := hgetD hextraction.includeLoader ⟨true, rfl⟩
    manifestName := hgetD houtput.manifestName ⟨"lasso-stats.json", rfl, by decide, by decide⟩
    indent := hgetD houtput.indent ⟨2, rfl⟩
    encoding := hgetD houtput.encoding ⟨"utf-8", rfl⟩ }

/-- Loading without an environment is loading with one that says nothing. -/
theorem exists_environment [Host] (env : Option Environment) :
    ∃ env' : Environment, ∀ d path, load d path env true = load d path (some env') true := by
  cases env with
  | none => exact ⟨[], fun _ _ => load_none⟩
  | some env => exact ⟨env, fun _ _ => rfl⟩

/-- Two files that say the same about the settings are both refused, for the same fault, or none of
    them is. If no key in their sections is between two pairs of underscores, both are refused, or
    both yield the same settings, and these are valid. -/
theorem load_of_agree [Host] (env : Option Environment) (hvalue : fileValue d path = .ok file)
    (hvalue' : fileValue d' path' = .ok file') (hfile : HasSections file) (hfile' : HasSections file')
    (hagree : AgreeOnSettings file file') :
    (∀ fault, load d path env = .error (.settings fault) ↔
      load d' path' env = .error (.settings fault)) ∧
      (PlainSections file → PlainSections file' →
        (∃ s, load d path env = .ok s ∧ load d' path' env = .ok s ∧ s.validate = .ok ()) ∨
          ∃ fault, load d path env = .error (.settings fault) ∧
            load d' path' env = .error (.settings fault)) := by
  obtain ⟨env', henv⟩ := exists_environment env
  rw [henv, henv]
  have hrefused : ∀ fault, load d path (some env') = .error (.settings fault) ↔
      load d' path' (some env') = .error (.settings fault) := by
    intro fault
    rw [load_eq_error_iff _ hvalue hfile, load_eq_error_iff _ hvalue' hfile', hagree.checks_eq]
  refine ⟨hrefused, fun hplain hplain' => ?_⟩
  obtain ⟨hload, hanswers⟩ := load_eq_ok_iff env' hvalue hplain
  obtain ⟨hload', hanswers'⟩ := load_eq_ok_iff env' hvalue' hplain'
  rcases hanswers with ⟨s, hs⟩ | ⟨fault, hfault⟩
  · obtain ⟨hextraction, houtput, rfl⟩ := (hload s).1 hs
    refine .inl ⟨_, hs, ?_, validate_eq_ok_iff.2 (valid_layered hextraction houtput)⟩
    -- If the other file were refused, so would be this one.
    rcases hanswers' with ⟨s', hs'⟩ | ⟨fault, hfault⟩
    · obtain ⟨-, -, rfl⟩ := (hload' s').1 hs'
      rw [hs', hagree.layered_eq]
    · rw [(hrefused fault).2 hfault] at hs
      cases hs
  · exact .inr ⟨fault, hfault, (hrefused fault).1 hfault⟩

/-! ## Sections as a whole -/

open scoped Usual

namespace WholeSection

/-- A mapping that says nothing in its sections. -/
def silent : Value :=
  .record [("extraction", .record []), ("output", .record [])]

/-- A mapping in which the key for a whole section brings in a text for a setting that is on or
    off. -/
def whole : Value :=
  .record [("extraction", .record [("__dict__", .record [("include_content", .text "yes")])]),
    ("output", .record [])]

/-- A mapping with a key that means nothing. -/
def coloured : Value :=
  .record [("extraction", .record []), ("output", .record [("colour", .int 1)])]

/-- The contents of a settings file. -/
def contents (file : Value) : List UInt8 :=
  Utf8.encode (Json.write {} file).text

/-- A disk with the three files. -/
def disk : Disk where
  entries := [(["a.json"], .file (contents silent)), (["b.json"], .file (contents whole)),
    (["c.json"], .file (contents coloured))]

/-- Settings that nobody has checked. -/
def unchecked : Settings where
  extraction := { includeContent := .text "yes" }

theorem fileValue_eq {path : String} {entries : List (Value × Value)}
    (hread : disk.read path = .ok (contents (.mapping entries)))
    (hformat : Format.ofPath path = .json)
    (hplain : Json.Plain (some Json.maxDigits) (some Host.depth) (.mapping entries)) :
    fileValue disk (some path) = .ok (.mapping entries) :=
  fileValue_of_write (by simp [Json.Layout.Blank]) (by simp [Json.Layout.Unreturning])
    (Json.Layout.suits_of_limit_eq_none rfl) hplain hformat hread

theorem plain_sections {extraction output : Value}
    (hextraction : Json.Plain (some Json.maxDigits) (some 899) extraction)
    (houtput : Json.Plain (some Json.maxDigits) (some 899) output) :
    Json.Plain (some Json.maxDigits) (some Host.depth)
      (.record [("extraction", extraction), ("output", output)]) :=
  .record rfl (by simp)
    (List.forall_mem_cons.2 ⟨hextraction, List.forall_mem_cons.2 ⟨houtput, List.forall_mem_nil _⟩⟩)

theorem plain_empty : Json.Plain (some Json.maxDigits) (some 899) (.record []) :=
  .record rfl (by decide) (List.forall_mem_nil _)

theorem fileValue_silent : fileValue disk (some "a.json") = .ok silent :=
  fileValue_eq rfl ((Format.ofPath_eq _).trans rfl) (plain_sections plain_empty plain_empty)

theorem fileValue_whole : fileValue disk (some "b.json") = .ok whole := by
  refine fileValue_eq rfl ((Format.ofPath_eq _).trans rfl)
    (plain_sections (.record rfl (by decide) ?_) plain_empty)
  exact List.forall_mem_singleton.2
    (.record rfl (by decide) (List.forall_mem_singleton.2 (.text "yes")))

theorem fileValue_coloured : fileValue disk (some "c.json") = .ok coloured := by
  refine fileValue_eq rfl ((Format.ofPath_eq _).trans rfl)
    (plain_sections plain_empty (.record rfl (by decide) ?_))
  exact List.forall_mem_singleton.2 (.int rfl)

/-- The key for a whole section is no setting, so that the files agree. -/
theorem agree_whole : AgreeOnSettings whole silent := by
  simp only [AgreeOnSettings, knownKeys, List.forall_mem_cons]
  exact ⟨rfl, rfl, rfl, rfl, rfl, rfl, rfl, List.forall_mem_nil _⟩

theorem agree_coloured : AgreeOnSettings coloured silent := by
  simp only [AgreeOnSettings, knownKeys, List.forall_mem_cons]
  exact ⟨rfl, rfl, rfl, rfl, rfl, rfl, rfl, List.forall_mem_nil _⟩

end WholeSection

open WholeSection in
/-- A file with a key that means nothing is like one without it: with the same environment, both are
    refused. -/
theorem load_of_agree_on_colour :
    let env : Environment := [("LASSO_UNPACK_RECEIVER", " ")]
    fileValue disk (some "c.json") = .ok coloured ∧ fileValue disk (some "a.json") = .ok silent ∧
      HasSections coloured ∧ HasSections silent ∧ AgreeOnSettings coloured silent ∧
      PlainSections coloured ∧ PlainSections silent ∧
      load disk (some "c.json") (some env) = .error (.settings .receiver) ∧
      ∃ s, load disk (some "c.json") none = .ok s ∧ load disk (some "a.json") none = .ok s ∧
        s.validate = .ok () := by
  have hplain : PlainSections coloured := plainSections_record (by decide)
  have hplain' : PlainSections silent := plainSections_record (List.forall_mem_nil _)
  have hagree (env : Option Environment) :=
    load_of_agree env fileValue_coloured fileValue_silent hplain.hasSections hplain'.hasSections
      agree_coloured
  refine ⟨fileValue_coloured, fileValue_silent, hplain.hasSections, hplain'.hasSections,
    agree_coloured, hplain, hplain', ((hagree _).1 .receiver).2 ?_, ?_⟩
  · rw [load, fileValue_silent]
    rfl
  · have hload : load disk (some "a.json") none = .ok {} := by
      rw [load, fileValue_silent]
      rfl
    rcases (hagree none).2 hplain hplain' with hboth | ⟨fault, -, hfault⟩
    · exact hboth
    · rw [hload] at hfault
      cases hfault

open WholeSection in
/-- The key for a whole section brings in settings behind the check, so that not every key that is no
    setting means nothing, and not everything that is loaded is valid. -/
theorem load_unchecked :
    ¬∀ (d d' : Disk) (path path' : Option String) (env : Option Environment) (file file' : Value),
    fileValue d path = .ok file → fileValue d' path' = .ok file' →
    (∀ part ∈ ["extraction", "output"], ∃ entries, file.find? part = some (.mapping entries)) →
    (∀ part ∈ ["extraction", "output"], ∃ entries, file'.find? part = some (.mapping entries)) →
    AgreeOnSettings file file' →
      (∃ s s', load d path env = .ok s ∧ load d' path' env = .ok s' ∧ s.toValue = s'.toValue ∧
        s.validate = .ok () ∧ s'.validate = .ok ()) ∨
      ∃ fault fault', load d path env = .error (.settings fault) ∧
        load d' path' env = .error (.settings fault') := by
  intro h
  have hload : load disk (some "b.json") none = .ok unchecked := by
    rw [load, fileValue_whole]
    rfl
  have hsections : ∀ file ∈ [whole, silent], ∀ part ∈ ["extraction", "output"],
      ∃ entries, file.find? part = some (.mapping entries) := by
    simp only [List.forall_mem_cons]
    exact ⟨⟨⟨_, rfl⟩, ⟨_, rfl⟩, List.forall_mem_nil _⟩,
      ⟨⟨_, rfl⟩, ⟨_, rfl⟩, List.forall_mem_nil _⟩, List.forall_mem_nil _⟩
  have hvalidate : unchecked.validate = .error (.settings (.flag "include_content")) := rfl
  rcases h disk disk (some "b.json") (some "a.json") none whole silent
    fileValue_whole fileValue_silent (hsections _ List.mem_cons_self)
    (hsections _ (List.mem_cons_of_mem _ List.mem_cons_self)) agree_whole with
    ⟨s, s', hs, -, -, hvalid, -⟩ | ⟨fault, -, hfault, -⟩
  · obtain rfl : unchecked = s := Except.ok.inj (hload.symm.trans hs)
    rw [hvalidate] at hvalid
    cases hvalid
  · rw [hload] at hfault
    cases hfault

end BundleManifest.Settings
