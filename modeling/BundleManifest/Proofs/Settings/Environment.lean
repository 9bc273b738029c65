import BundleManifest.Proofs.Settings.Unknown

/-!
# Settings from the environment alone

Without a settings file, the settings are those of the environment, and the defaults. A variable is
*heeded* if its value counts as far as the check of settings accepts it, and else is left out with a
warning.

All variables are heeded but for one value: a receiver of white space is not left out, so that the
check refuses the environment as a whole (`load_blank_receiver`).

Whether a variable is heeded is the same question for all of them, and is asked once, for a variable
with a reader and a test (`Variable`): the reader of its text accepts exactly what the test lets pass,
so that what is left out is what would be refused. The receiver is the exception; any text that is not
empty is read, and the test wants more than white space.

* `Environment.allVariables`: the variables, each with its setting and with the test that the check
  has for it;
* `Environment.Variable.Heeded`: what becomes of a variable;
* `Environment.load_heeds_variables`: when settings are loaded from an environment, and which;
* `Environment.load_blank_receiver`: the variable that is not heeded.
-/

namespace BundleManifest.Environment

open Settings Value

variable {env : Environment} {name key : String} {s : String}

/-! ## Variables -/

/-- A variable and the setting that it is. -/
structure Variable where
  /-- The name of the setting in the name of the variable. -/
  name : String
  /-- The section of the setting. -/
  part : String
  /-- The key of the setting. -/
  key : String
  /-- The value that a text is meant as, if it is meant as any. -/
  meaning : String → Option Value
  /-- The test of the check of settings. -/
  accepts : Value → Bool
  /-- The setting without the variable. -/
  default : Value

/-- The variables. Nothing is demanded of the directory of manifests. -/
def allVariables : List Variable :=
  [⟨"RECEIVER", "extraction", "receiver", fun s => some (.text s), isReceiver, .null⟩,
    ⟨"INCLUDE_CONTENT", "extraction", "include_content", fun s => some (.bool (isOn s)), isFlag,
      .bool true⟩,
    ⟨"INCLUDE_LOADER", "extraction", "include_loader", fun s => some (.bool (isOn s)), isFlag,
      .bool true⟩,
    ⟨"MANIFEST_NAME", "output", "manifest_name", fun s => some (.text s), isBareName,
      .text "lasso-stats.json"⟩,
    ⟨"OUTPUT_DIR", "output", "output_dir", fun s => some (.text s), fun _ => true, .null⟩,
    ⟨"INDENT", "output", "indent", fun s => (Text.integer? s.toList).map .int, isNatural, .int 2⟩]

example : allVariables.map (variableName ·.name) = variableNames :=
  rfl

/-- The value of a variable, if there is one that the check accepts. -/
def Variable.valid? (x : Variable) (env : Environment) : Option Value :=
  (env.value? x.name).bind fun s => (x.meaning s).filter x.accepts

/-- A setting has the value of its variable, if this is valid, and else its default. There is a
    warning exactly if the variable has a value that is not valid. -/
structure Variable.Heeded (x : Variable) (env : Environment) (v : Value) : Prop where
  value_eq : v = (x.valid? env).getD x.default
  warned_iff : warning x.name ∈ env.warnings ↔ (env.value? x.name).isSome = true ∧ x.valid? env = none

/-- The receiver is white space. -/
def BlankReceiver (env : Environment) : Prop :=
  ∃ s, env.value? "RECEIVER" = some s ∧ ∀ c ∈ s.toList, Text.isBlank c = true

/-! ## Values -/

theorem ne_empty_of_value? (h : env.value? name = some s) : s ≠ "" :=
  of_decide_eq_true (Option.filter_eq_some_iff.1 h).2

theorem manifestName?_eq (h : s ≠ "") :
    manifestName? s = (some (Value.text s)).filter isBareName := by
  rw [manifestName?, Option.filter_some]
  by_cases hslash : s.toList.contains '/' = true <;> simp_all [isBareName]

/-- The indentation is read as what the check accepts of an integer. -/
theorem indent?_eq : indent? s = ((Text.integer? s.toList).map Value.int).filter isNatural := by
  rw [indent?]
  cases Text.integer? s.toList with
  | none => rfl
  | some n => by_cases hn : n < 0 <;> simp_all [isNatural, Option.filter_some]

theorem setting?_extraction :
    setting? env.settings "extraction" key =
      lookup (.text key) (env.extraction.map fun (key, v) => (.text key, v)) := by
  rw [setting?, settings]
  cases hempty : env.extraction with
  | nil => cases env.output <;> rfl
  | cons f fields => rfl

theorem setting?_output :
    setting? env.settings "output" key =
      lookup (.text key) (env.output.map fun (key, v) => (.text key, v)) := by
  rw [setting?, settings]
  cases env.extraction <;> cases hempty : env.output <;> rfl

/-- What an environment sets about what is decoded. -/
theorem extraction_settings (env : Environment) :
    setting? env.settings "extraction" "receiver" = (env.value? "RECEIVER").map .text ∧
    setting? env.settings "extraction" "include_content" =
      (env.value? "INCLUDE_CONTENT").map (fun s => .bool (isOn s)) ∧
    setting? env.settings "extraction" "include_loader" =
      (env.value? "INCLUDE_LOADER").map (fun s => .bool (isOn s)) := by
  simp only [setting?_extraction, extraction]
  cases env.value? "RECEIVER" <;> cases env.value? "INCLUDE_CONTENT" <;>
    cases env.value? "INCLUDE_LOADER" <;>
    exact ⟨rfl, rfl, rfl⟩

/-- What an environment sets about what is written. -/
theorem output_settings (env : Environment) :
    setting? env.settings "output" "manifest_name" = (env.value? "MANIFEST_NAME").bind manifestName? ∧
    setting? env.settings "output" "output_dir" = (env.value? "OUTPUT_DIR").map .text ∧
    setting? env.settings "output" "indent" = (env.value? "INDENT").bind indent? ∧
    setting? env.settings "output" "encoding" = none := by
  simp only [setting?_output, output]
  cases (env.value? "MANIFEST_NAME").bind manifestName? <;> cases env.value? "OUTPUT_DIR" <;>
    cases (env.value? "INDENT").bind indent? <;> exact ⟨rfl, rfl, rfl, rfl⟩

theorem isReceiver_text_iff :
    isReceiver (.text s) = true ↔ ¬∀ c ∈ s.toList, Text.isBlank c = true := by
  simp [isReceiver, ← Text.strip_eq_nil_iff]

/-- A variable all of whose values the check accepts is used as it is meant. -/
theorem valid?_of_accepts {x : Variable} {f : String → Value}
    (hmeaning : x.meaning = fun s => some (f s))
    (haccepts : ∀ s, env.value? x.name = some s → x.accepts (f s) = true) :
    x.valid? env = (env.value? x.name).map f := by
  rw [Variable.valid?, hmeaning]
  cases hvalue : env.value? x.name with
  | none => rfl
  | some s => simp [Option.filter_some, haccepts s hvalue]

/-- The environment has the valid values of the variables, if the receiver is not blank. -/
theorem setting?_eq_valid? (h : ¬BlankReceiver env) : ∀ x ∈ allVariables,
    setting? env.settings x.part x.key = x.valid? env := by
  obtain ⟨hreceiver, hcontent, hloader⟩ := extraction_settings env
  obtain ⟨hname, hdirectory, hindent, -⟩ := output_settings env
  simp only [allVariables, List.forall_mem_cons]
  refine ⟨?_, ?_, ?_, ?_, ?_, ?_, List.forall_mem_nil _⟩
  · rw [hreceiver, valid?_of_accepts rfl fun s hs => isReceiver_text_iff.2 fun hblank =>
      h ⟨s, hs, hblank⟩]
  · rw [hcontent, valid?_of_accepts rfl fun _ _ => rfl]
  · rw [hloader, valid?_of_accepts rfl fun _ _ => rfl]
  · rw [hname, Variable.valid?,
      ← Option.bind_congr fun s hs => manifestName?_eq (ne_empty_of_value? hs)]
  · rw [hdirectory, valid?_of_accepts rfl fun _ _ => rfl]
  · rw [hindent, Variable.valid?, ← Option.bind_congr fun s _ => indent?_eq]

/-! ## Warnings -/

theorem warning_inj {name' : String} : warning name = warning name' ↔ name = name' := by
  simp [warning, variableName]

/-- There is a warning about a variable exactly if it has a value that cannot be read. -/
theorem warning?_eq_some_iff {read : String → Option Value} {w : String} :
    env.warning? name read = some w ↔
    w = warning name ∧ (env.value? name).isSome = true ∧ (env.value? name).bind read = none := by
  rw [warning?]
  cases env.value? name with
  | none => simp
  | some s => cases hread : read s <;> simp [hread, eq_comm]

/-- Only the name of manifests and the indentation can have values that are not valid. -/
theorem warning_mem_warnings_iff : warning name ∈ env.warnings ↔
    (name = "MANIFEST_NAME" ∧ (env.value? "MANIFEST_NAME").isSome = true ∧
      (env.value? "MANIFEST_NAME").bind manifestName? = none) ∨
    (name = "INDENT" ∧ (env.value? "INDENT").isSome = true ∧
      (env.value? "INDENT").bind indent? = none) := by
  simp only [warnings, List.mem_append, Option.mem_toList, warning?_eq_some_iff, warning_inj]

/-- There is no warning about a variable all of whose values the check accepts. -/
theorem warned_iff_of_accepts {x : Variable} {f : String → Value} (hname : x.name ≠ "MANIFEST_NAME")
    (hindent : x.name ≠ "INDENT") (hmeaning : x.meaning = fun s => some (f s))
    (haccepts : ∀ s, env.value? x.name = some s → x.accepts (f s) = true) :
    warning x.name ∈ env.warnings ↔ (env.value? x.name).isSome = true ∧ x.valid? env = none := by
  refine iff_of_false ?_ ?_
  · rw [warning_mem_warnings_iff]
    simp [hname, hindent]
  · rintro ⟨hsome, hnone⟩
    rw [valid?_of_accepts hmeaning haccepts, Option.map_eq_none_iff] at hnone
    rw [hnone] at hsome
    cases hsome

/-- A warning says that a variable has a value that is not valid, if the receiver is not blank. -/
theorem warned_iff (h : ¬BlankReceiver env) : ∀ x ∈ allVariables,
    (warning x.name ∈ env.warnings ↔ (env.value? x.name).isSome = true ∧ x.valid? env = none) := by
  intro x hx
  simp only [allVariables, List.mem_cons, List.not_mem_nil, or_false] at hx
  rcases hx with rfl | rfl | rfl | rfl | rfl | rfl
  · refine warned_iff_of_accepts (by decide) (by decide) rfl fun s hs => ?_
    exact isReceiver_text_iff.2 fun hblank => h ⟨s, hs, hblank⟩
  · exact warned_iff_of_accepts (by decide) (by decide) rfl fun _ _ => rfl
  · exact warned_iff_of_accepts (by decide) (by decide) rfl fun _ _ => rfl
  · rw [warning_mem_warnings_iff, Variable.valid?,
      ← Option.bind_congr fun s hs => manifestName?_eq (ne_empty_of_value? hs)]
    simp
  · exact warned_iff_of_accepts (by decide) (by decide) rfl fun _ _ => rfl
  · rw [warning_mem_warnings_iff, Variable.valid?, ← Option.bind_congr fun s _ => indent?_eq]
    simp

/-! ## The check -/

theorem layered?_nil {env : Value} {part : String} :
    layered? env (.mapping []) part key = setting? env part key :=
  Option.or_none

/-- A section of an environment is like one that is merged with nothing. -/
theorem merged_nil (env : Environment) (part : String) :
    Merged env.settings (.mapping []) part (env.settings.find? part) := by
  obtain ⟨sections, hsections, -, hflat⟩ := env.exists_settings
  cases hpart : env.settings.find? part with
  | none => exact .absent rfl hpart
  | some v =>
    have hmem : (Value.mapping sections).find? part = some v := hsections ▸ hpart
    obtain ⟨later, rfl, hlater⟩ : ∃ later, v = .mapping later ∧ Flat later :=
      hflat _ (mem_of_lookup hmem)
    exact merged_mergeValue (fun olds holds => absurd holds (by simp [find?, lookup])) hpart hlater

theorem plainSections_nil : PlainSections (.mapping []) := by
  intro part _ v hv
  cases hv

/-- The check of the environment alone is that of an environment above an empty file. -/
theorem check_eq_checks (env : Environment) :
    check env.settings = checks env.settings (.mapping []) := by
  have hplain := plainSections_nil.hasSections
  obtain ⟨sections, hsections, -⟩ := env.exists_settings
  rw [checks, ← (env.merged_nil "extraction").checkPart_extraction (hplain.not_stray (by decide)),
    ← (env.merged_nil "output").checkPart_output (hplain.not_stray (by decide)), hsections,
    check_mapping]
  rfl

theorem accepts_of_valid? {x : Variable} {v : Value} (h : x.valid? env = some v) :
    x.accepts v = true := by
  obtain ⟨s, -, hs⟩ := Option.bind_eq_some_iff.1 h
  exact (Option.filter_eq_some_iff.1 hs).2

/-- The check accepts the settings of an environment, if the receiver is not blank: each of them is
    valid. -/
theorem checks_of_not_blank (h : ¬BlankReceiver env) :
    checks env.settings (.mapping []) = .ok () := by
  have haccepts : ∀ x ∈ allVariables, ∀ v ∈ setting? env.settings x.part x.key, x.accepts v =
      true := by
    intro x hx v hv
    rw [setting?_eq_valid? h x hx] at hv
    exact accepts_of_valid? hv
  simp only [allVariables, List.forall_mem_cons] at haccepts
  obtain ⟨hreceiver, hcontent, hloader, hname, -, hindent, -⟩ := haccepts
  simp only [checks, extractionChecks, outputChecks, bind_eq_ok_iff, require_eq_ok_iff_forall,
    layered?_nil]
  exact ⟨⟨hreceiver, hcontent, hloader⟩, hname, hindent, by simp [(output_settings env).2.2.2]⟩

/-- The check refuses a receiver of white space. -/
theorem checks_of_blank (h : BlankReceiver env) :
    checks env.settings (.mapping []) = .error (.settings .receiver) := by
  obtain ⟨s, hs, hblank⟩ := h
  have hrefused : isReceiver (.text s) = false :=
    Bool.eq_false_iff.2 fun haccepts => isReceiver_text_iff.1 haccepts hblank
  have hreceiver : layered? env.settings (.mapping []) "extraction" "receiver" = some (.text s) := by
    rw [layered?_nil, (extraction_settings env).1, hs]
    rfl
  rw [checks, extractionChecks, hreceiver, require, Option.all_some, hrefused]
  rfl

/-- The check accepts what an environment sets, but for a receiver of white space. -/
theorem check_settings_eq_ok_iff : check env.settings = .ok () ↔ ¬BlankReceiver env := by
  rw [check_eq_checks]
  refine ⟨fun hok hblank => ?_, checks_of_not_blank⟩
  rw [checks_of_blank hblank] at hok
  cases hok

/-! ## Loading -/

variable {d : Disk}

theorem fileValue_none [Host] (h : findFile d [] = none) : fileValue d none = .ok (.mapping []) := by
  rw [fileValue, Option.filter_none, h]

/-- The settings of an environment are the values of its variables that are valid, and the
    defaults. -/
theorem heeded_layered (h : ¬BlankReceiver env) : ∀ x ∈ allVariables,
    ∃ v, setting? (layered env.settings (.mapping [])).toValue x.part x.key = some v ∧
      x.Heeded env v := by
  intro x hx
  have hvalue : setting? (layered env.settings (.mapping [])).toValue x.part x.key =
      some ((setting? env.settings x.part x.key).getD x.default) := by
    simp only [layered, layered?_nil]
    simp only [allVariables, List.mem_cons, List.not_mem_nil, or_false] at hx
    rcases hx with rfl | rfl | rfl | rfl | rfl | rfl <;> rfl
  refine ⟨_, hvalue, ?_, warned_iff h x hx⟩
  rw [setting?_eq_valid? h x hx]

/-- Without a settings file, settings are loaded from an environment exactly if the receiver is not
    blank, which is exactly if the check accepts what the environment sets. Then they are valid, every
    variable is heeded, and what is no variable has its default. A receiver of white space is told as
    a fault. -/
theorem load_heeds_variables [Host] (hnone : findFile d [] = none) (env : Environment) :
    (check env.settings = .ok () ↔ ¬BlankReceiver env) ∧
    ((∃ s, load d none (some env) = .ok s) ↔ ¬BlankReceiver env) ∧
    (BlankReceiver env → load d none (some env) = .error (.settings .receiver)) ∧
    ∀ s, load d none (some env) = .ok s → s.validate = .ok () ∧ s.output.encoding = .text "utf-8" ∧
      ∀ x ∈ allVariables, ∃ v, setting? s.toValue x.part x.key = some v ∧ x.Heeded env v := by
  have hvalue := fileValue_none hnone
  obtain ⟨hload, hanswers⟩ := load_eq_ok_iff env hvalue plainSections_nil
  have hfault : ∀ fault, load d none (some env) = .error (.settings fault) ↔
      checks env.settings (.mapping []) = .error (.settings fault) :=
    fun fault => load_eq_error_iff env hvalue plainSections_nil.hasSections
  have hblank : BlankReceiver env → load d none (some env) = .error (.settings .receiver) :=
    fun h => (hfault _).2 (checks_of_blank h)
  have hreceiver : ∀ s, load d none (some env) = .ok s → ¬BlankReceiver env := by
    intro s hs h
    rw [hblank h] at hs
    cases hs
  refine ⟨check_settings_eq_ok_iff, ⟨fun hs => hs.elim hreceiver, fun h => ?_⟩, hblank,
    fun s hs => ?_⟩
  · rcases hanswers with hok | ⟨fault, hf⟩
    · exact hok
    · rw [hfault, checks_of_not_blank h] at hf
      cases hf
  · obtain ⟨hextraction, houtput, rfl⟩ := (hload s).1 hs
    refine ⟨validate_eq_ok_iff.2 (valid_layered hextraction houtput), ?_,
      heeded_layered (hreceiver _ hs)⟩
    have hencoding : layered? env.settings (.mapping []) "output" "encoding" = none :=
      layered?_nil.trans (output_settings env).2.2.2
    rw [layered, hencoding]
    rfl

open scoped Usual in
/-- A name of manifests that leads out of the directory is left out, and a warning says so. -/
theorem load_of_outer_name :
    let env : Environment :=
      [("LASSO_UNPACK_MANIFEST_NAME", "../escape.json"), ("LASSO_UNPACK_INCLUDE_LOADER", "0")]
    findFile {} [] = none ∧ ∃ s, load {} none (some env) = .ok s ∧ s.validate = .ok () ∧
      s.output.manifestName = .text "lasso-stats.json" ∧ s.extraction.includeLoader = .bool false ∧
      warning "MANIFEST_NAME" ∈ env.warnings := by
  intro env
  have hnone : findFile {} [] = none := rfl
  have hreceiver : ¬BlankReceiver env := by
    rintro ⟨s, hs, -⟩
    cases hs
  obtain ⟨-, hload, -, hheeded⟩ := load_heeds_variables hnone env
  obtain ⟨s, hs⟩ := hload.2 hreceiver
  obtain ⟨hvalid, -, hvariables⟩ := hheeded s hs
  simp only [allVariables, List.forall_mem_cons] at hvariables
  obtain ⟨-, -, ⟨loader, hloader, hloaderHeeded⟩, ⟨name, hname, hnameHeeded⟩, -⟩ := hvariables
  obtain rfl : s.extraction.includeLoader = loader := Option.some.inj hloader
  obtain rfl : s.output.manifestName = name := Option.some.inj hname
  exact ⟨hnone, s, hs, hvalid, hnameHeeded.value_eq, hloaderHeeded.value_eq,
    hnameHeeded.warned_iff.2 ⟨rfl, rfl⟩⟩

open scoped Usual in
/-- A receiver of white space is neither used nor left out, and there is no warning about it. -/
theorem load_blank_receiver : ¬∀ (d : Disk) (env : Environment), findFile d [] = none →
    check env.settings = .ok () ∧ ∃ s, load d none (some env) = .ok s ∧
      ∀ x ∈ allVariables, ∃ v, setting? s.toValue x.part x.key = some v ∧ x.Heeded env v := by
  intro h
  obtain ⟨hcheck, -⟩ := h {} [("LASSO_UNPACK_RECEIVER", " ")] rfl
  have hrefused : check (settings [("LASSO_UNPACK_RECEIVER", " ")]) =
    .error (.settings .receiver) := rfl
  rw [hrefused] at hcheck
  cases hcheck

end BundleManifest.Environment
