import BundleManifest.Proofs.Settings.Merge

/-!
# Sections

What the check of a section and the change of the settings of a section do with the entries that the
section has. A check looks only at the settings, and a refusal of it is one that a person is told. A
section that is no mapping, and an entry that cannot be set, are not found out by a check.

The checks are sequences of requirements, each for one setting that may be left out. They are stated
once as functions of a lookup, and a section, a merged section and the settings of both layers differ
in the lookup alone. This is what makes the check of a merged section the check of the settings of its
layers.

* `Settings.Answers`: whether there is a value, or else a problem with the settings that a person is
  told;
* `Settings.ExtractionPasses`, `Settings.OutputPasses`: what the checks demand of the settings that
  are there;
* `Merged.checkPart_eq`: the check of a merged section is one of the settings that the layers have in
  it;
* `Settings.CanAssign`: the entries that can be set, and `Merged.canAssign_iff`, which are only a
  matter of the file;
* `Settings.get_of_assignAll`: a setting has the value of its key then, or else stays as it is.
-/

namespace BundleManifest.Settings

open Value

/-! ## Answers -/

section Answers

variable {α β : Type} {r : Except Problem α} {next : α → Except Problem β}

/-- There is a value, or else a problem with the settings. -/
def Answers (r : Except Problem α) : Prop :=
  (∃ a, r = .ok a) ∨ ∃ fault, r = .error (.settings fault)

theorem answers_ok {a : α} : Answers (.ok a) :=
  .inl ⟨a, rfl⟩

/-- Of problems, only those with the settings are answers. -/
theorem answers_error_iff {p : Problem} :
    Answers (.error p : Except Problem α) ↔ ∃ fault, p = .settings fault := by
  simp [Answers]

/-- Two steps answer exactly if the first one does, and the second one does with every value of it. -/
theorem answers_bind_iff : Answers (r >>= next) ↔ Answers r ∧ ∀ a, r = .ok a → Answers (next a) := by
  cases r with
  | error p =>
    refine Iff.trans ?_ (and_iff_left (by simp)).symm
    exact answers_error_iff.trans answers_error_iff.symm
  | ok a =>
    refine Iff.trans ?_ (and_iff_right answers_ok).symm
    exact ⟨fun h b hb => Except.ok.inj hb ▸ h, fun h => h a rfl⟩

end Answers

variable {test : Value → Bool} {fault : Fault} {o : Option Value} {v file env : Value}
  {part key : String} {entries : List (Value × Value)} {get : String → Option Value}

/-! ## Checks -/

/-- What the check demands of the settings about what is decoded. Settings that are left out are
    fine. -/
structure ExtractionPasses (get : String → Option Value) : Prop where
  receiver : ∀ v ∈ get "receiver", v = .null ∨ ∃ t, v = .text t ∧ Text.strip t.toList ≠ []
  includeContent : ∀ v ∈ get "include_content", ∃ b, v = .bool b
  includeLoader : ∀ v ∈ get "include_loader", ∃ b, v = .bool b

/-- What the check demands of the settings about what is written. -/
structure OutputPasses (get : String → Option Value) : Prop where
  manifestName : ∀ v ∈ get "manifest_name", ∃ name, v = .text name ∧ name ≠ "" ∧ '/' ∉ name.toList
  indent : ∀ v ∈ get "indent", ∃ n : Nat, v = .int n
  encoding : ∀ v ∈ get "encoding", ∃ name, v = .text name

/-- A requirement is met by what passes the test, and by a setting that is left out. -/
theorem require_eq_ok_iff_forall : require test fault o = .ok () ↔ ∀ v ∈ o, test v = true := by
  cases o with
  | none => simp [require]
  | some v => simp [require_eq_ok_iff]

theorem answers_require : Answers (require test fault o) := by
  rw [require]
  split
  · exact answers_ok
  · exact .inr ⟨fault, rfl⟩

/-- The check of the settings about what is decoded. -/
def extractionChecks (get : String → Option Value) : Except Problem Unit := do
  require isReceiver .receiver (get "receiver")
  require isFlag (.flag "include_content") (get "include_content")
  require isFlag (.flag "include_loader") (get "include_loader")

/-- The check demands what is stated of the settings, one by one. -/
theorem extractionChecks_eq_ok_iff : extractionChecks get = .ok () ↔ ExtractionPasses get := by
  simp only [extractionChecks, bind_eq_ok_iff, require_eq_ok_iff_forall, isReceiver_iff, isFlag_iff]
  constructor
  · rintro ⟨hreceiver, hcontent, hloader⟩
    exact ⟨hreceiver, hcontent, hloader⟩
  · rintro ⟨hreceiver, hcontent, hloader⟩
    exact ⟨hreceiver, hcontent, hloader⟩

theorem answers_extractionChecks : Answers (extractionChecks get) := by
  simp only [extractionChecks, answers_bind_iff, answers_require, implies_true, and_self]

/-- The check of the settings about what is written. -/
def outputChecks (get : String → Option Value) : Except Problem Unit := do
  require isBareName .manifestName (get "manifest_name")
  require isNatural .indent (get "indent")
  require isText .encoding (get "encoding")

theorem outputChecks_eq_ok_iff : outputChecks get = .ok () ↔ OutputPasses get := by
  simp only [outputChecks, bind_eq_ok_iff, require_eq_ok_iff_forall, isBareName_iff, isNatural_iff,
    isText_iff]
  constructor
  · rintro ⟨hname, hindent, hencoding⟩
    exact ⟨hname, hindent, hencoding⟩
  · rintro ⟨hname, hindent, hencoding⟩
    exact ⟨hname, hindent, hencoding⟩

theorem answers_outputChecks : Answers (outputChecks get) := by
  simp only [outputChecks, answers_bind_iff, answers_require, implies_true, and_self]

/-- The check of a section that may be left out. -/
def checkPart (check : Value → Except Problem Unit) : Option Value → Except Problem Unit
  | none => .ok ()
  | some v => check v

/-- The check of a file is that of its two sections, one after the other. -/
theorem check_mapping : check (.mapping entries) =
    (checkPart checkExtraction ((Value.mapping entries).find? "extraction")).bind fun _ =>
      checkPart checkOutput ((Value.mapping entries).find? "output") := by
  simp only [check, field?, ok_bind]
  cases (Value.mapping entries).find? "extraction" <;>
    cases (Value.mapping entries).find? "output" <;> rfl

theorem layered?_eq_none (hfile : file.find? part = none) (henv : env.find? part = none) :
    layered? env file part key = none := by
  rw [layered?, setting?, setting?, hfile, henv]
  rfl

namespace Merged

/-- The check of a merged section looks at nothing but the settings, if it does so for every
    mapping. -/
theorem checkPart_eq {check : Value → Except Problem Unit}
    {checks : (String → Option Value) → Except Problem Unit}
    (h : Merged env file part o) (hmapping : ¬Stray env file part)
    (hentries : ∀ entries, check (.mapping entries) = checks fun key => lookup (.text key) entries)
    (hnone : checks (fun _ => none) = .ok ()) :
    checkPart check o = checks (layered? env file part) := by
  cases h with
  | absent hfile henv =>
    have hlayered : layered? env file part = fun _ => none :=
      funext fun _ => layered?_eq_none hfile henv
    rw [hlayered, hnone, checkPart]
  | stray hfile henv hv => exact absurd ⟨henv, _, hfile, hv⟩ hmapping
  | entries _ hlookup _ _ => rw [checkPart, hentries, funext hlookup]

/-- The check of a merged section is that of its settings, where the environment comes before the
    file. -/
theorem checkPart_extraction (h : Merged env file "extraction" o)
    (hmapping : ¬Stray env file "extraction") :
    checkPart checkExtraction o = extractionChecks (layered? env file "extraction") :=
  h.checkPart_eq hmapping (fun _ => rfl) rfl

theorem checkPart_output (h : Merged env file "output" o) (hmapping : ¬Stray env file "output") :
    checkPart checkOutput o = outputChecks (layered? env file "output") :=
  h.checkPart_eq hmapping (fun _ => rfl) rfl

end Merged

/-! ## Changes -/

/-- An entry of a section that can be set: its key is a name, and if the name has a meaning of its
    own, it stands for all settings and has a mapping behind it. -/
def CanAssign (e : Value × Value) : Prop :=
  ∃ name, e.1 = .text name ∧ (name = wholeKey → ∃ inner, e.2 = .mapping inner) ∧ name ≠ typeKey ∧
    name ≠ referencesKey

section Assign

variable {σ : Type} {set : σ → String → Value → σ} {s₀ s s' : σ} {e : Value × Value}

theorem assign_of_notMem {name : String} (h : name ∉ reservedKeys) :
    assign set s₀ s (.text name) v = .ok (set s name v) := by
  simp only [reservedKeys, List.mem_cons, List.not_mem_nil, or_false, not_or] at h
  rw [assign.eq_def]
  dsimp only
  rw [if_neg h.1, if_neg h.2.1, if_neg h.2.2]

/-- What can be set is set. -/
theorem exists_assign (set : σ → String → Value → σ) (s₀ s : σ) (h : CanAssign e) :
    ∃ s', assign set s₀ s e.1 e.2 = .ok s' := by
  obtain ⟨name, hname, hwhole, htype, hreferences⟩ := h
  rw [hname, assign.eq_def]
  dsimp only
  split
  · next hkey =>
    obtain ⟨inner, hinner⟩ := hwhole hkey
    rw [hinner]
    exact ⟨_, rfl⟩
  · exact ⟨_, rfl⟩

/-- What cannot be set fails with a problem that is not one with the settings. -/
theorem not_answers_assign (h : ¬CanAssign e) : ¬Answers (assign set s₀ s e.1 e.2) := by
  obtain ⟨key, v⟩ := e
  rw [assign.eq_def]
  dsimp only
  split
  · next name =>
    split
    · next hwhole =>
      split
      · -- A mapping behind this name can be set.
        next inner =>
        subst hwhole
        exact absurd ⟨wholeKey, rfl, fun _ => ⟨inner, rfl⟩, by decide, by decide⟩ h
      · simp [answers_error_iff]
    split
    · simp [answers_error_iff]
    split
    · simp [answers_error_iff]
    · next hwhole htype hreferences =>
      exact absurd ⟨name, rfl, fun hkey => absurd hkey hwhole, htype, hreferences⟩ h
  · simp [answers_error_iff]

/-- Entries that can be set are set, one after the other. -/
theorem exists_assignAll (set : σ → String → Value → σ) (s₀ s : σ) (h : ∀ e ∈ entries, CanAssign e) :
    ∃ s', entries.foldlM (fun s e => assign set s₀ s e.1 e.2) s = .ok s' := by
  induction entries generalizing s with
  | nil => exact ⟨s, rfl⟩
  | cons e entries ih =>
    obtain ⟨s₁, hassign⟩ := exists_assign set s₀ s (h e List.mem_cons_self)
    rw [List.foldlM_cons, hassign]
    exact ih s₁ fun f hf => h f (List.mem_cons_of_mem _ hf)

/-- A single entry that cannot be set makes all of it fail. -/
theorem not_answers_assignAll (h : ¬∀ e ∈ entries, CanAssign e) :
    ¬Answers (entries.foldlM (fun s e => assign set s₀ s e.1 e.2) s) := by
  induction entries generalizing s with
  | nil => exact absurd (List.forall_mem_nil _) h
  | cons e entries ih =>
    rw [List.foldlM_cons, answers_bind_iff]
    rintro ⟨hassign, hrest⟩
    by_cases he : CanAssign e
    · obtain ⟨s₁, hs₁⟩ := exists_assign set s₀ s he
      refine ih (fun hall => h ?_) (hrest s₁ hs₁)
      exact List.forall_mem_cons.2 ⟨he, hall⟩
    · exact not_answers_assign he hassign

/-- A setting of a section has the value behind its key afterwards, or else the one before. -/
theorem get_of_assignAll {get : σ → Value}
    (hget : ∀ s name v, get (set s name v) = if name = key then v else get s) (hplain : Plain entries)
    (hdistinct : Distinct entries)
    (h : entries.foldlM (fun s e => assign set s₀ s e.1 e.2) s = .ok s') :
    get s' = (lookup (.text key) entries).getD (get s) := by
  induction entries generalizing s with
  | nil =>
    cases h
    rfl
  | cons e entries ih =>
    obtain ⟨k, v⟩ := e
    obtain ⟨name, rfl, hname⟩ : ∃ name, k = .text name ∧ name ∉ reservedKeys :=
      hplain _ List.mem_cons_self
    rw [List.foldlM_cons, assign_of_notMem hname] at h
    rw [ih (fun f hf => hplain f (List.mem_cons_of_mem _ hf)) hdistinct.tail h, hget]
    by_cases hkey : name = key
    · subst hkey
      rw [hdistinct.lookup_tail (text_sameKey_iff.2 rfl), lookup_cons_self, if_pos rfl]
      rfl
    · rw [if_neg hkey, lookup_cons_of_ne fun htext => hkey (Value.text.inj htext)]

end Assign

theorem Plain.canAssign (h : Plain entries) : ∀ e ∈ entries, CanAssign e := by
  intro e he
  obtain ⟨name, hname, hplain⟩ := h e he
  simp only [reservedKeys, List.mem_cons, List.not_mem_nil, or_false, not_or] at hplain
  exact ⟨name, hname, fun hwhole => absurd hwhole hplain.1, hplain.2.1, hplain.2.2⟩

/-- Whether all entries can be set is a matter of the types of the keys and of three lookups. -/
theorem forall_canAssign_iff (hdistinct : Distinct entries) : (∀ e ∈ entries, CanAssign e) ↔
    Named entries ∧ (∀ v ∈ lookup (.text wholeKey) entries, ∃ inner, v = .mapping inner) ∧
      lookup (.text typeKey) entries = none ∧ lookup (.text referencesKey) entries = none := by
  constructor
  · intro h
    refine ⟨fun e he => ?_, fun v hv => ?_, ?_, ?_⟩
    · obtain ⟨name, hname, -⟩ := h e he
      exact ⟨name, hname⟩
    · obtain ⟨name, hname, hwhole, -⟩ := h _ (mem_of_lookup hv)
      exact hwhole (Value.text.inj hname).symm
    · by_contra hsome
      obtain ⟨v, hv⟩ := Option.ne_none_iff_exists'.1 hsome
      obtain ⟨name, hname, -, htype, -⟩ := h _ (mem_of_lookup hv)
      exact htype (Value.text.inj hname).symm
    · by_contra hsome
      obtain ⟨v, hv⟩ := Option.ne_none_iff_exists'.1 hsome
      obtain ⟨name, hname, -, -, hreferences⟩ := h _ (mem_of_lookup hv)
      exact hreferences (Value.text.inj hname).symm
  · rintro ⟨hnamed, hwhole, htype, hreferences⟩ ⟨k, v⟩ he
    obtain ⟨name, rfl⟩ : ∃ name, k = .text name := hnamed _ he
    have hlookup := hdistinct.lookup_of_mem he (text_sameKey_iff.2 rfl)
    refine ⟨name, rfl, ?_, ?_, ?_⟩
    · rintro rfl
      exact hwhole v hlookup
    · rintro rfl
      rw [htype] at hlookup
      cases hlookup
    · rintro rfl
      rw [hreferences] at hlookup
      cases hlookup

/-- The entries of a merged section can be set if those in the file can be. -/
theorem Merged.canAssign_iff {env : Environment} (hfile : Keyed file)
    (h : Merged env.settings file part (some (.mapping entries))) : (∀ e ∈ entries, CanAssign e) ↔
      ∀ olds, file.find? part = some (.mapping olds) → ∀ e ∈ olds, CanAssign e := by
  cases h with
  | stray _ _ hv => exact absurd rfl (hv entries)
  | entries hdistinct hlookup hnamed _ =>
    -- An environment has nothing behind the keys with a meaning of their own.
    have hreserved : ∀ name ∈ reservedKeys, lookup (.text name) entries =
        setting? file part name := by
      intro name hname
      rw [hlookup, layered?, env.setting?_of_reserved hname, Option.none_or]
    rw [forall_canAssign_iff hdistinct, hnamed, hreserved wholeKey (by decide),
      hreserved typeKey (by decide), hreserved referencesKey (by decide)]
    by_cases hfind : ∃ olds, file.find? part = some (.mapping olds)
    · obtain ⟨olds, hfind⟩ := hfind
      have hsetting : ∀ name, setting? file part name = lookup (.text name) olds := by
        intro name
        rw [setting?, hfind]
        rfl
      have holds := forall_canAssign_iff (hfile.distinct_of_find? hfind)
      simp only [hsetting, hfind, Option.some.injEq, Value.mapping.injEq, forall_eq', holds]
    · have hsetting : ∀ name, setting? file part name = none := fun name => setting?_eq_none hfind
      simp only [not_exists] at hfind
      simp [hsetting, hfind]

/-! ## Loading -/

/-- Loading from a file and an environment takes one merged section after the other. -/
theorem exists_load [Host] {d : Disk} {path : Option String} (env : Environment)
    (hfile : fileValue d path = .ok file) :
    ∃ e o, Merged env.settings file "extraction" e ∧ Merged env.settings file "output" o ∧
      load d path (some env) true = (do
        checkPart checkExtraction e
        checkPart checkOutput o
        let extraction ← assignAll ExtractionSettings.set {} e
        let output ← assignAll OutputSettings.set {} o
        return { extraction, output }) := by
  obtain ⟨sections, rfl, hkeyed⟩ := mapping_of_fileValue hfile
  obtain ⟨merged, hmerge, hmerged⟩ := exists_merge env hkeyed ⟨sections, rfl⟩
  refine ⟨_, _, hmerged "extraction", hmerged "output", ?_⟩
  have hvalues : merge (.mapping sections :: ((some env).map (·.settings)).toList) =
    .ok merged := hmerge
  rw [load, hfile, ok_bind, hvalues, ok_bind]
  dsimp only
  rw [if_pos rfl, check_mapping]
  cases checkPart checkExtraction ((Value.mapping merged).find? "extraction") <;> rfl

end BundleManifest.Settings
