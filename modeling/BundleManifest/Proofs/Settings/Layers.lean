import BundleManifest.Proofs.Settings.Merge
import Mathlib.Data.List.DropRight

/-!
# Mappings in layers

Any number of mappings can be merged, the later ones over the earlier ones. What the layers have
behind a key is merged value by value. A value that is no mapping hides all that is below it, so that
merging is not associative; only the mappings on top of the last such value count.

A single key is looked at first. The values that the layers have behind it are merged from the left,
and the last of them that is no mapping, or the first mapping above it, is where the result begins
(`latest`). For all keys together the same is then an equality of lookups, by induction on the layers
with the last one taken off, as merging goes from left to right.

* `Settings.lookup_foldl_mergeEntries`: merging layers is merging the values that they have behind
  each key;
* `Settings.mergeEntries_self`: a mapping that is merged with itself stays the same;
* `Settings.latest_eq`: what several values leave behind their key;
* `Settings.merge_layers`: what the merged mapping of some layers is.
-/

namespace BundleManifest

namespace Value

variable {key v : Value} {entries : List (Value × Value)}

/-- A new key comes behind the others. -/
theorem insert_of_lookup_eq_none (h : lookup key entries = none) :
    insert key v entries = entries ++ [(key, v)] := by
  induction entries with
  | nil => rfl
  | cons e entries ih =>
    obtain ⟨k, w⟩ := e
    rw [lookup] at h
    split at h
    · cases h
    · next hsame => rw [insert, if_neg hsame, ih h, List.cons_append]

/-- To put in what is there changes nothing. -/
theorem insert_of_lookup_eq_some (h : lookup key entries = some v) :
    insert key v entries = entries := by
  induction entries with
  | nil => cases h
  | cons e entries ih =>
    obtain ⟨k, w⟩ := e
    rw [lookup] at h
    split at h
    · next hsame =>
      cases h
      rw [insert, if_pos hsame]
    · next hsame => rw [insert, if_neg hsame, ih h]

end Value

namespace Settings

open Value

variable {v : Value} {old : Option Value} {acc es later : List (Value × Value)}
  {layers : List (List (Value × Value))} {values : List Value}

/-! ## Keys of merged mappings -/

/-- A mapping replaces what is no mapping. -/
theorem mergeValue_mapping_of_ne (h : ∀ olds, old ≠ some (.mapping olds)) :
    mergeValue old (.mapping es) = .mapping es := by
  rw [mergeValue]
  exact h

/-- Entries with new keys are put behind those that are there. -/
theorem mergeEntries_of_distinct (h : Distinct (acc ++ later)) :
    mergeEntries acc later = acc ++ later := by
  induction later generalizing acc with
  | nil => rw [mergeEntries, List.append_nil]
  | cons e later ih =>
    obtain ⟨key, w⟩ := e
    have hnone : lookup key acc = none := by
      by_contra hsome
      obtain ⟨u, hu⟩ := Option.ne_none_iff_exists'.1 hsome
      obtain ⟨k, hmem, hsame⟩ := exists_mem_of_lookup hu
      have hother : k.sameKey key = false :=
        (List.pairwise_append.1 h).2.2 _ hmem _ List.mem_cons_self
      rw [hsame] at hother
      cases hother
    rw [mergeEntries, hnone, mergeValue_none, insert_of_lookup_eq_none hnone, ih, List.append_assoc]
    · rfl
    · rwa [List.append_assoc]

theorem mergeEntries_nil (h : Distinct es) : mergeEntries [] es = es :=
  mergeEntries_of_distinct h

/-- Entries that are there already, and stay the same when they are merged with themselves, change
    nothing. -/
theorem mergeEntries_of_forall_mem
    (h : ∀ e ∈ later, lookup e.1 acc = some e.2 ∧ mergeValue (some e.2) e.2 = e.2) :
    mergeEntries acc later = acc := by
  induction later with
  | nil => rw [mergeEntries]
  | cons e later ih =>
    obtain ⟨key, w⟩ := e
    obtain ⟨⟨hlookup, hmerge⟩, hlater⟩ := List.forall_mem_cons.1 h
    rw [mergeEntries, hlookup, hmerge, insert_of_lookup_eq_some hlookup, ih hlater]

/-- A value that is merged with itself stays the same, whatever is in it. -/
theorem mergeValue_self (h : Keyed v) : mergeValue (some v) v = v := by
  induction h with
  | @mapping es hkeys hself _ ih =>
    rw [mergeValue,
      mergeEntries_of_forall_mem fun e he => ⟨hkeys.lookup_of_mem he (hself e he), ih e he⟩]
  | other h => exact mergeValue_of_ne_mapping h

/-- Merging a mapping with itself changes nothing. -/
theorem mergeEntries_self (h : Keyed (.mapping es)) : mergeEntries es es = es := by
  have hself := mergeValue_self h
  rw [mergeValue] at hself
  exact Value.mapping.inj hself

/-- Merged mappings have each key once, at every level, if the mappings have. -/
theorem keyed_mergeEntries (hacc : Keyed (.mapping acc)) (hself : ∀ e ∈ later, e.1.sameKey e.1 = true)
    (hvalues : ∀ e ∈ later, ∀ old : Option Value, (∀ w, old = some w → Keyed w) →
      Keyed (mergeValue old e.2)) : Keyed (.mapping (mergeEntries acc later)) := by
  induction later generalizing acc with
  | nil => rwa [mergeEntries]
  | cons e later ih =>
    obtain ⟨key, w⟩ := e
    obtain ⟨hkey, hself⟩ := List.forall_mem_cons.1 hself
    obtain ⟨hvalue, hvalues⟩ := List.forall_mem_cons.1 hvalues
    rw [mergeEntries]
    refine ih (hacc.insert hkey (hvalue _ fun u hu => ?_)) hself hvalues
    obtain ⟨k, hmem, -⟩ := exists_mem_of_lookup hu
    exact hacc.of_mem hmem

/-- Merged values have each key once if both of them have. -/
theorem keyed_mergeValue (h : Keyed v) (old : Option Value) (hold : ∀ w, old = some w → Keyed w) :
    Keyed (mergeValue old v) := by
  induction h generalizing old with
  | @mapping es hkeys hself hvalues ih =>
    by_cases hmapping : ∃ olds, old = some (.mapping olds)
    · obtain ⟨olds, rfl⟩ := hmapping
      rw [mergeValue]
      exact keyed_mergeEntries (hold _ rfl) hself ih
    · rw [mergeValue_mapping_of_ne fun olds holds => hmapping ⟨olds, holds⟩]
      exact .mapping hkeys hself hvalues
  | other h =>
    rw [mergeValue_of_ne_mapping h]
    exact .other h

/-! ## Values of a key -/

/-- What values of one key leave when each is merged with those before. -/
def latest (values : List Value) : Option Value :=
  values.foldl (fun old v => some (mergeValue old v)) none

/-- Whether a value is a mapping. -/
def isMapping : Value → Bool
  | .mapping _ => true
  | _ => false

/-- A last value is merged with what those before it leave. -/
theorem latest_concat : latest (values ++ [v]) = some (mergeValue (latest values) v) := by
  rw [latest, List.foldl_concat, latest]

theorem ne_mapping_of_isMapping (h : isMapping v = false) (entries : List (Value × Value)) :
    v ≠ .mapping entries := by
  rintro rfl
  cases h

theorem merge_singleton (h : Distinct es) : merge [.mapping es] = .ok es := by
  have hfirst : mergeOne [] (.mapping es) = .ok (mergeEntries [] es) := mergeOne_mapping
  rw [merge, List.foldlM_cons, hfirst, mergeEntries_nil h]
  rfl

theorem merge_concat (h : merge values = .ok acc) :
    merge (values ++ [.mapping es]) = .ok (mergeEntries acc es) := by
  rw [merge_append, h]
  exact (bind_pure _).trans mergeOne_mapping

/-- Values of one key leave the last one, if it is no mapping, and else the mappings behind the last
    value that is none, merged. -/
theorem latest_eq (hkeyed : ∀ v ∈ values, Keyed v) (hlast : values.getLast? = some v) :
    (isMapping v = false → latest values = some v) ∧
      (isMapping v = true → ∃ merged, merge (values.rtakeWhile isMapping) = .ok merged ∧
        latest values = some (.mapping merged)) := by
  induction values using List.reverseRecOn generalizing v with
  | nil => cases hlast
  | append_singleton values last ih =>
    obtain rfl : last = v := by simpa using hlast
    rw [latest_concat]
    refine ⟨fun hv => by rw [mergeValue_of_ne_mapping (ne_mapping_of_isMapping hv)], fun hv => ?_⟩
    obtain ⟨es, rfl⟩ : ∃ es, last = .mapping es := by
      cases last <;> first | exact ⟨_, rfl⟩ | cases hv
    have hes : Distinct es := (hkeyed _ (by simp)).distinct
    have hbelow : ∀ u ∈ values, Keyed u := fun u hu => hkeyed u (List.mem_append_left _ hu)
    rw [List.rtakeWhile_concat_pos _ _ _ hv]
    by_cases hmapping : ∃ u, values.getLast? = some u ∧ isMapping u = true
    · obtain ⟨u, hu, humapping⟩ := hmapping
      obtain ⟨merged, hmerge, hlatest⟩ := (ih hbelow hu).2 humapping
      rw [hlatest, mergeValue]
      exact ⟨_, merge_concat hmerge, rfl⟩
    · -- The last mapping is on top of nothing, or hides what is below it.
      have hnone : values.rtakeWhile isMapping = [] :=
        List.rtakeWhile_eq_nil_iff.2 fun hne htop =>
        hmapping ⟨_, List.getLast?_eq_some_getLast hne, htop⟩
      have hhidden : mergeValue (latest values) (.mapping es) = .mapping es := by
        refine mergeValue_mapping_of_ne fun olds holds => ?_
        cases hu : values.getLast? with
        | none =>
          rw [List.getLast?_eq_none_iff.1 hu] at holds
          cases holds
        | some u =>
          have hu' : isMapping u = false :=
            Bool.eq_false_iff.2 fun humapping => hmapping ⟨u, hu, humapping⟩
          rw [(ih hbelow hu).1 hu'] at holds
          cases holds
          cases hu'
      rw [hnone, hhidden]
      exact ⟨es, merge_singleton hes, rfl⟩

/-! ## Layers -/

/-- Mappings can always be merged. -/
theorem merge_map_mapping (layers : List (List (Value × Value))) :
    merge (layers.map .mapping) = .ok (layers.foldl mergeEntries []) := by
  induction layers using List.reverseRecOn with
  | nil => rfl
  | append_singleton layers es ih =>
    rw [List.map_append, List.map_singleton, merge_concat ih, List.foldl_concat]

/-- Merging any number of mappings gives one with each key once. -/
theorem keyed_foldl_mergeEntries (h : ∀ es ∈ layers, Keyed (.mapping es)) :
    Keyed (.mapping (layers.foldl mergeEntries [])) := by
  induction layers using List.reverseRecOn with
  | nil => exact keyed_nil
  | append_singleton layers es ih =>
    obtain ⟨hlayers, hes⟩ := List.forall_mem_append.1 h
    have hvalue :=
      keyed_mergeValue (hes es List.mem_cons_self) (some (.mapping (layers.foldl mergeEntries [])))
    rw [mergeValue] at hvalue
    rw [List.foldl_concat]
    refine hvalue fun w hw => ?_
    cases hw
    exact ih hlayers

/-- Behind a key, the merged layers have what the values of the key leave. -/
theorem lookup_foldl_mergeEntries (h : ∀ es ∈ layers, Keyed (.mapping es)) (key : Value) :
    lookup key (layers.foldl mergeEntries []) = latest (layers.filterMap (lookup key)) := by
  induction layers using List.reverseRecOn with
  | nil => rfl
  | append_singleton layers es ih =>
    obtain ⟨hlayers, hes⟩ := List.forall_mem_append.1 h
    rw [List.foldl_concat, lookup_mergeEntries (hes es List.mem_cons_self).distinct, ih hlayers,
      List.filterMap_append]
    cases hlookup : lookup key es with
    | none => simp [hlookup]
    | some v => simp [hlookup, latest_concat]

/-- Something is left exactly if there was a value. -/
theorem isSome_latest_iff : (latest values).isSome = true ↔ ∃ v, v ∈ values := by
  induction values using List.reverseRecOn with
  | nil => simp [latest]
  | append_singleton values v _ => simp [latest_concat]

/-- Empty mappings among the layers change nothing. -/
theorem foldl_mergeEntries_filter (layers : List (List (Value × Value))) :
    (layers.filter (!·.isEmpty)).foldl mergeEntries [] = layers.foldl mergeEntries [] := by
  induction layers using List.reverseRecOn with
  | nil => rfl
  | append_singleton layers es ih =>
    rw [List.filter_append, List.foldl_append, ih, List.foldl_concat]
    cases es with
    | nil => simp [mergeEntries]
    | cons e es => rfl

/-- Some mappings that have each key once can be merged, and the result is such a mapping again.

    * Its keys are those of all of them.
    * Behind a key it has the last of the values of this key, if that is no mapping; and else what the
      mappings are merged to that come last among these values, without another value between them.
    * It is the mappings but the last one, merged, and then merged with the last one.
    * Mappings without entries make no difference.
    * A mapping that is merged with itself stays the same. -/
theorem merge_layers (layers : List (List (Value × Value))) (h : ∀ es ∈ layers, Keyed (.mapping es)) :
    ∃ merged, merge (layers.map .mapping) = .ok merged ∧ Keyed (.mapping merged) ∧
      (∀ key, (lookup key merged).isSome = true ↔ ∃ es ∈ layers, (lookup key es).isSome = true) ∧
      (∀ key v, (layers.filterMap (lookup key)).getLast? = some v →
        (isMapping v = false → lookup key merged = some v) ∧
        (isMapping v = true → ∃ inner,
          merge ((layers.filterMap (lookup key)).rtakeWhile isMapping) = .ok inner ∧
            lookup key merged = some (.mapping inner))) ∧
      (∀ front last, layers = front ++ [last] → ∃ before, merge (front.map .mapping) = .ok before ∧
        merge [.mapping before, .mapping last] = .ok merged) ∧
      merge ((layers.filter (!·.isEmpty)).map .mapping) = .ok merged ∧
      ∀ es ∈ layers, merge [.mapping es, .mapping es] = .ok es := by
  have hvalues : ∀ key, ∀ v ∈ layers.filterMap (lookup key), Keyed v := by
    intro key v hv
    obtain ⟨es, hes, hlookup⟩ := List.mem_filterMap.1 hv
    obtain ⟨k, hmem, -⟩ := exists_mem_of_lookup hlookup
    exact (h es hes).of_mem hmem
  refine ⟨_, merge_map_mapping layers, keyed_foldl_mergeEntries h, fun key => ?_,
    fun key v hlast => ?_, ?_, ?_, ?_⟩
  · rw [lookup_foldl_mergeEntries h, isSome_latest_iff]
    simp only [List.mem_filterMap, Option.isSome_iff_exists]
    grind
  · rw [lookup_foldl_mergeEntries h]
    exact latest_eq (hvalues key) hlast
  · rintro front last rfl
    have hfront := keyed_foldl_mergeEntries (List.forall_mem_append.1 h).1
    refine ⟨_, merge_map_mapping front, ?_⟩
    rw [merge_mapping, mergeEntries_nil hfront.distinct, List.foldl_concat]
  · rw [merge_map_mapping, foldl_mergeEntries_filter]
  · intro es hes
    rw [merge_mapping, mergeEntries_nil (h es hes).distinct, mergeEntries_self (h es hes)]

/-- A text hides the mapping below it, and two mappings on top of it are merged, with one without
    entries in between. -/
theorem merge_layers_of_hidden :
    let layers := [
      [(.text "a", .record [("x", .int 1), ("y", .record [("p", .int 1)])]), (.text "b", .int 1)],
      [(.text "a", .text "off"), (.text "b", .null)],
      [(.text "a", .record [("y", .record [("q", .int 2)])])],
      [],
      [(.text "a", .record [("y", .record [("r", .int 3)]), ("z", .bool true)])]]
    (∀ es ∈ layers, Keyed (.mapping es)) ∧ ∃ merged, merge (layers.map .mapping) = .ok merged ∧
      lookup (.text "b") merged = some .null ∧
      lookup (.text "a") merged =
        some (.record [("y", .record [("q", .int 2), ("r", .int 3)]), ("z", .bool true)]) := by
  intro layers
  have hkeyed : ∀ es ∈ layers, Keyed (.mapping es) := by
    simp [layers, Value.record, keyed_cons_iff, keyed_nil, lookup, sameKey, Keyed.other]
  obtain ⟨merged, hmerge, -, -, hvalue, -⟩ := merge_layers layers hkeyed
  obtain ⟨inner, hinner, ha⟩ := (hvalue (.text "a") _ rfl).2 rfl
  refine ⟨hkeyed, merged, hmerge, (hvalue _ _ rfl).1 rfl, ha.trans ?_⟩
  obtain rfl : _ = inner := Except.ok.inj hinner
  rfl

end Settings

end BundleManifest
