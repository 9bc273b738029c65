import BundleManifest.Proofs.Settings.Keys

/-!
# Merged mappings

What a merged mapping has behind a name depends only on what the mappings that are merged have behind
it: the later value, with what it says about its own entries first, or else the earlier one.

Mappings are lists of entries, and merging walks along the later list. So what is proved first is
about one entry, and then, by induction on the later entries, about all. That each key occurs once
among them is what makes one merged value out of it. The sections of an environment are simpler than
those of a file, as they have no mappings inside, and so nothing in them is merged any further
(`Flat.mergeValue_lookup`).

* `Settings.lookup_mergeEntries`: the value behind a name in merged entries;
* `Settings.merge_mapping`: merging a file with something later never fails;
* `Settings.Flat`: the entries of the sections that come from an environment, in which no value is a
  mapping;
* `Settings.Merged`: what a section of a file is when it is merged with the one of an environment;
* `Settings.exists_merge`: merging a file with an environment succeeds, and yields such sections.
-/

namespace BundleManifest

namespace Settings

open Value

variable {old : Option Value} {v file env : Value} {s part key : String}
  {acc later entries : List (Value × Value)}

/-! ## Merging entries -/

theorem mergeValue_none : mergeValue none v = v := by
  cases v <;> simp only [mergeValue]

/-- A value that is no mapping replaces what is there. -/
theorem mergeValue_of_ne_mapping (h : ∀ entries, v ≠ .mapping entries) : mergeValue old v = v := by
  cases v with
  | mapping entries => exact absurd rfl (h entries)
  | _ => simp only [mergeValue]

/-- What merged entries have behind a key. The later entries have the key at most once, so that one
    value is merged with the earlier one. -/
theorem lookup_mergeEntries (h : Distinct later) (key : Value) :
    lookup key (mergeEntries acc later) =
      ((lookup key later).map (mergeValue (lookup key acc))).or (lookup key acc) := by
  induction later generalizing acc with
  | nil => rw [mergeEntries, lookup, Option.map_none, Option.none_or]
  | cons e later ih =>
    obtain ⟨k, w⟩ := e
    rw [mergeEntries, ih h.tail]
    by_cases hsame : k.sameKey key = true
    · rw [h.lookup_tail hsame, lookup_insert_of_sameKey hsame, lookup, if_pos hsame,
        lookup_congr hsame, Option.map_none, Option.none_or, Option.map_some, Option.some_or]
    · rw [lookup_insert_of_not_sameKey (Bool.eq_false_iff.2 hsame), lookup, if_neg hsame]

/-- Merging adds no key that is there. -/
theorem distinct_mergeEntries (h : Distinct acc) : Distinct (mergeEntries acc later) := by
  induction later generalizing acc with
  | nil => rwa [mergeEntries]
  | cons e later ih =>
    obtain ⟨key, w⟩ := e
    rw [mergeEntries]
    exact ih h.insert

/-- Every key of merged entries is one of the earlier or of the later ones. -/
theorem key_of_mem_mergeEntries {e : Value × Value} (h : e ∈ mergeEntries acc later) :
    (∃ f ∈ acc, f.1 = e.1) ∨ ∃ f ∈ later, f.1 = e.1 := by
  induction later generalizing acc with
  | nil =>
    rw [mergeEntries] at h
    exact .inl ⟨e, h, rfl⟩
  | cons g later ih =>
    obtain ⟨key, w⟩ := g
    rw [mergeEntries] at h
    rcases ih h with ⟨f, hf, hkey⟩ | ⟨f, hf, hkey⟩
    · rcases of_mem_insert hf with rfl | ⟨f', hf', hkey', -⟩
      · exact .inr ⟨(key, w), List.mem_cons_self, hkey⟩
      · exact .inl ⟨f', hf', hkey'.trans hkey⟩
    · exact .inr ⟨f, List.mem_cons_of_mem _ hf, hkey⟩

/-- Merging keeps the keys of the earlier entries. -/
theorem exists_mem_mergeEntries {e : Value × Value} (h : e ∈ acc) (later : List (Value × Value)) :
    ∃ w, (e.1, w) ∈ mergeEntries acc later := by
  induction later generalizing acc e with
  | nil =>
    rw [mergeEntries]
    exact ⟨e.2, h⟩
  | cons g later ih =>
    obtain ⟨key, w⟩ := g
    obtain ⟨w', hw'⟩ := exists_mem_insert h key (mergeValue (lookup key acc) w)
    rw [mergeEntries]
    exact ih (e := (e.1, w')) hw'

theorem mergeOne_mapping : mergeOne acc (.mapping entries) = .ok (mergeEntries acc entries) := by
  cases entries with
  | nil =>
    simp only [mergeEntries, mergeOne, truthy, List.isEmpty_nil, Bool.not_true, Bool.not_false,
      if_true]
  | cons e entries => rw [mergeOne, if_neg (by simp [truthy])]

theorem merge_mapping : merge [.mapping entries, .mapping later] =
    .ok (mergeEntries (mergeEntries [] entries) later) := by
  simp only [merge, List.foldlM_cons, List.foldlM_nil, mergeOne_mapping, bind, Except.bind, pure,
    Except.pure]

/-! ## Sections of merged settings -/

/-- The value of a setting in a mapping of sections. -/
def setting? (v : Value) (part key : String) : Option Value :=
  (v.find? part).bind (·.find? key)

/-- What is no mapping has no settings. -/
theorem setting?_eq_none (h : ¬∃ entries, v.find? part = some (.mapping entries)) :
    setting? v part key = none := by
  rw [setting?]
  cases hfind : v.find? part with
  | none => rfl
  | some w =>
    cases w with
    | mapping entries => exact absurd ⟨entries, hfind⟩ h
    | _ => rfl

/-- The value of a setting that comes from the environment, or else from the file. -/
def layered? (env file : Value) (part key : String) : Option Value :=
  (setting? env part key).or (setting? file part key)

/-- The keys are all names. -/
def Named (entries : List (Value × Value)) : Prop :=
  ∀ e ∈ entries, ∃ name, e.1 = .text name

/-- The keys with a meaning of their own. -/
def reservedKeys : List String :=
  [wholeKey, typeKey, referencesKey]

/-- The keys are all names, and none of them has a meaning of its own. -/
def Plain (entries : List (Value × Value)) : Prop :=
  ∀ e ∈ entries, ∃ name, e.1 = .text name ∧ name ∉ reservedKeys

/-- Plain entries with each key once and without mappings in them. -/
structure Flat (entries : List (Value × Value)) : Prop where
  distinct : Distinct entries
  plain : Plain entries
  values : ∀ e ∈ entries, ∀ inner, e.2 ≠ .mapping inner

/-- Names without a meaning of their own are plain keys. -/
theorem plain_record {fields : List (String × Value)} (h : ∀ f ∈ fields, f.1 ∉ reservedKeys) :
    Plain (fields.map fun (key, value) => (.text key, value)) := by
  intro e he
  obtain ⟨f, hf, rfl⟩ := List.mem_map.1 he
  exact ⟨f.1, rfl, h f hf⟩

theorem Plain.named (h : Plain entries) : Named entries := by
  intro e he
  obtain ⟨name, hname, -⟩ := h e he
  exact ⟨name, hname⟩

/-- No key with a meaning of its own is among plain entries. -/
theorem Plain.lookup_eq_none (h : Plain entries) (hs : s ∈ reservedKeys) :
    lookup (.text s) entries = none := by
  by_contra hsome
  obtain ⟨w, hw⟩ := Option.ne_none_iff_exists'.1 hsome
  obtain ⟨name, hname, hplain⟩ := h _ (mem_of_lookup hw)
  exact hplain (Value.text.inj hname ▸ hs)

/-- A section of the file that is no mapping, and is not replaced. -/
def Stray (env file : Value) (part : String) : Prop :=
  env.find? part = none ∧ ∃ v, file.find? part = some v ∧ ∀ entries, v ≠ .mapping entries

/-- What a section of a file is when it is merged with the one of an environment. -/
inductive Merged (env file : Value) (part : String) : Option Value → Prop
  /-- Neither of them has the section. -/
  | absent (hfile : file.find? part = none) (henv : env.find? part = none) : Merged env file part none
  /-- The section of the file is no mapping, and there is no other one. -/
  | stray {v : Value} (hfile : file.find? part = some v) (henv : env.find? part = none)
      (hv : ∀ entries, v ≠ .mapping entries) : Merged env file part (some v)
  /-- The settings of both of them are there. -/
  | entries {entries : List (Value × Value)} (distinct : Distinct entries)
      (lookup_eq : ∀ key, lookup (.text key) entries = layered? env file part key)
      (named : Named entries ↔ ∀ olds, file.find? part = some (.mapping olds) → Named olds)
      (mapped : ¬Stray env file part) :
      Merged env file part (some (.mapping entries))

/-- What flat entries have for a key replaces what was there before. -/
theorem Flat.mergeValue_lookup (h : Flat later) {old : Option Value} :
    (lookup (.text key) later).map (mergeValue old) = lookup (.text key) later := by
  cases hlookup : lookup (.text key) later with
  | none => rfl
  | some v => rw [Option.map_some, mergeValue_of_ne_mapping (h.values _ (mem_of_lookup hlookup))]

/-- Merging names with other entries leaves names exactly if the other keys were names. -/
theorem named_mergeEntries (h : Named later) :
    Named (mergeEntries entries later) ↔ Named entries := by
  constructor
  · intro hmerged e he
    obtain ⟨w, hw⟩ := exists_mem_mergeEntries he later
    exact hmerged (e.1, w) hw
  · intro hentries e he
    rcases key_of_mem_mergeEntries he with ⟨f, hf, hkey⟩ | ⟨f, hf, hkey⟩
    · exact hkey ▸ hentries f hf
    · exact hkey ▸ h f hf

/-- A section of a file, merged with one that is flat. -/
theorem merged_mergeValue (hfile : ∀ olds, file.find? part = some (.mapping olds) → Distinct olds)
    (henv : env.find? part = some (.mapping later)) (hflat : Flat later) :
    Merged env file part (some (mergeValue (file.find? part) (.mapping later))) := by
  have hmapped : ¬Stray env file part := by
    rintro ⟨hnone, -⟩
    rw [henv] at hnone
    cases hnone
  by_cases hold : ∃ olds, file.find? part = some (.mapping olds)
  · obtain ⟨olds, hold⟩ := hold
    rw [hold, mergeValue]
    refine .entries (distinct_mergeEntries (hfile _ hold)) (fun key => ?_) ?_ hmapped
    · rw [lookup_mergeEntries hflat.distinct, hflat.mergeValue_lookup, layered?, setting?, setting?,
        henv, hold]
      rfl
    · rw [named_mergeEntries hflat.plain.named, hold]
      simp
  · -- What is no mapping is replaced.
    have hmerged : mergeValue (file.find? part) (.mapping later) = .mapping later := by
      rw [mergeValue]
      rintro olds holds
      exact absurd ⟨olds, holds⟩ hold
    rw [hmerged]
    refine .entries hflat.distinct (fun key => ?_) (iff_of_true hflat.plain.named ?_) hmapped
    · rw [layered?, setting?_eq_none hold, Option.or_none, setting?, henv]
      rfl
    · rintro olds holds
      exact absurd ⟨olds, holds⟩ hold

end Settings

namespace Environment

open Settings Value

variable {env : Environment}

/-- Different names with scalars behind them are flat entries. -/
theorem flat_record {fields : List (String × Value)} (hnames : (fields.map (·.1)).Nodup)
    (hfields : ∀ f ∈ fields, f.1 ∉ reservedKeys ∧ ∀ inner, f.2 ≠ .mapping inner) :
    Flat (fields.map fun (key, value) => (.text key, value)) := by
  refine ⟨?_, plain_record fun f hf => (hfields f hf).1, ?_⟩
  · refine List.pairwise_map.2 ((List.pairwise_map.1 hnames).imp fun hne => ?_)
    exact Bool.eq_false_iff.2 fun hsame => hne (Value.text.inj (sameKey_text_iff.1 hsame))
  · intro e he
    obtain ⟨f, hf, rfl⟩ := List.mem_map.1 he
    exact (hfields f hf).2

/-- What an environment says about what is decoded is flat. -/
theorem flat_extraction : Flat (env.extraction.map fun (key, value) => (.text key, value)) := by
  refine flat_record ?_ ?_
  · rw [extraction]
    cases env.value? "RECEIVER" <;> cases env.value? "INCLUDE_CONTENT" <;>
      cases env.value? "INCLUDE_LOADER" <;>
      simp
  · intro f hf
    simp only [extraction, List.mem_append, Option.mem_toList, Option.map_eq_some_iff] at hf
    have hnames : ∀ name ∈ ["receiver", "include_content", "include_loader"],
      name ∉ reservedKeys := by decide
    obtain (⟨w, -, rfl⟩ | ⟨w, -, rfl⟩) | ⟨w, -, rfl⟩ := hf <;> exact ⟨hnames _ (by simp), by simp⟩

/-- The name of manifests is never read as a mapping. -/
theorem ne_mapping_of_manifestName? {s : String} {v : Value} (h : manifestName? s = some v)
    (inner : List (Value × Value)) :
    v ≠ .mapping inner := by
  rw [manifestName?] at h
  split at h <;> cases h
  simp

/-- The indentation is never read as a mapping. -/
theorem ne_mapping_of_indent? {s : String} {v : Value} (h : indent? s = some v)
    (inner : List (Value × Value)) :
    v ≠ .mapping inner := by
  rw [indent?] at h
  split at h
  · split at h <;> cases h
    simp
  · cases h

/-- What an environment says about what is written is flat. -/
theorem flat_output : Flat (env.output.map fun (key, value) => (.text key, value)) := by
  refine flat_record ?_ ?_
  · rw [output]
    cases (env.value? "MANIFEST_NAME").bind manifestName? <;> cases env.value? "OUTPUT_DIR" <;>
      cases (env.value? "INDENT").bind indent? <;> simp
  · intro f hf
    simp only [output, List.mem_append, Option.mem_toList, Option.map_eq_some_iff,
      Option.bind_eq_some_iff] at hf
    have hnames : ∀ name ∈ ["manifest_name", "output_dir", "indent"], name ∉ reservedKeys := by decide
    obtain (⟨w, ⟨s, -, hw⟩, rfl⟩ | ⟨w, -, rfl⟩) | ⟨w, ⟨s, -, hw⟩, rfl⟩ := hf
    · exact ⟨hnames _ (by simp), ne_mapping_of_manifestName? hw⟩
    · exact ⟨hnames _ (by simp), by simp⟩
    · exact ⟨hnames _ (by simp), ne_mapping_of_indent? hw⟩

/-- The settings in an environment are a mapping of flat sections. -/
theorem exists_settings (env : Environment) :
    ∃ sections, env.settings = .mapping sections ∧ Distinct sections ∧
    ∀ e ∈ sections, ∃ entries, e.2 = .mapping entries ∧ Flat entries := by
  refine ⟨_, rfl, ?_, ?_⟩
  · refine List.pairwise_map.2 ?_
    dsimp only
    split <;> split <;> simp [sameKey]
  · intro e he
    obtain ⟨f, hf, rfl⟩ := List.mem_map.1 he
    rcases List.mem_append.1 hf with hf | hf <;> dsimp only at hf
    · split at hf
      · cases hf
      · obtain rfl := List.mem_singleton.1 hf
        exact ⟨_, rfl, flat_extraction⟩
    · split at hf
      · cases hf
      · obtain rfl := List.mem_singleton.1 hf
        exact ⟨_, rfl, flat_output⟩

/-- An environment has nothing behind the keys with a meaning of their own. -/
theorem setting?_of_reserved (env : Environment) {part name : String} (hname : name ∈ reservedKeys) :
    setting? env.settings part name = none := by
  obtain ⟨sections, hsections, -, hflat⟩ := env.exists_settings
  rw [hsections, setting?, find?]
  cases hpart : lookup (.text part) sections with
  | none => rfl
  | some v =>
    obtain ⟨entries, rfl, hentries⟩ : ∃ entries, v = .mapping entries ∧ Flat entries :=
      hflat _ (mem_of_lookup hpart)
    exact hentries.plain.lookup_eq_none hname

end Environment

namespace Settings

open Value

variable {file : Value}

/-- A file can be merged with an environment, section by section. -/
theorem exists_merge (env : Environment) (h : Keyed file)
    (hmapping : ∃ sections, file = .mapping sections) :
    ∃ merged, merge [file, env.settings] = .ok merged ∧
      ∀ part, Merged env.settings file part ((Value.mapping merged).find? part) := by
  obtain ⟨sections, rfl⟩ := hmapping
  obtain ⟨others, hothers, hdistinct, hflat⟩ := env.exists_settings
  rw [hothers]
  refine ⟨_, merge_mapping, fun part => ?_⟩
  have hsection : lookup (.text part) (mergeEntries [] sections) = lookup (.text part) sections := by
    rw [lookup_mergeEntries h.distinct, lookup, Option.or_none]
    cases lookup (.text part) sections with
    | none => rfl
    | some v => rw [Option.map_some, mergeValue_none]
  rw [find?, lookup_mergeEntries hdistinct, hsection]
  cases hother : lookup (.text part) others with
  | none =>
    rw [Option.map_none, Option.none_or]
    cases hfile : lookup (.text part) sections with
    | none => exact .absent hfile hother
    | some v =>
      by_cases hv : ∃ entries, v = .mapping entries
      · obtain ⟨entries, rfl⟩ := hv
        refine .entries (h.of_mem (mem_of_lookup hfile)).distinct (fun key => ?_) ?_ ?_
        · rw [layered?, setting?, setting?, find?, find?, hother, hfile]
          rfl
        · rw [find?, hfile]
          simp
        · rintro ⟨-, v, hv, hmapping⟩
          exact hmapping entries (Option.some.inj (hv.symm.trans hfile))
      · exact .stray hfile hother fun entries hentries => hv ⟨entries, hentries⟩
  | some w =>
    obtain ⟨later, rfl, hlater⟩ : ∃ later, w = .mapping later ∧ Flat later :=
      hflat _ (mem_of_lookup hother)
    rw [Option.map_some, Option.some_or]
    exact merged_mergeValue (fun olds holds => h.distinct_of_find? holds) hother hlater

end Settings

end BundleManifest
