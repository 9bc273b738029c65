import BundleManifest.Proofs.Settings.Valid
import BundleManifest.Proofs.Value.Key
import BundleManifest.Settings.Load
import Mathlib.Tactic.Common

/-!
# The keys of mappings

A mapping that is read from a file has each of its keys once, and so have the mappings that are values
in it. What stands behind a key can then be said by looking it up.

Within a bound on the depth the reader is a mutual recursion, and what it yields is said for its three
parts together (`ReadsKeyed`), by induction on the bound. The only place where keys come in is the
insertion of an entry, which replaces the value of a key that is there. Of a host the same is a law
(`Settings.Host`), since its reader is not looked into.

* `Value.lookup_cons_self`, `Value.lookup_cons_of_ne`: what a mapping has behind a name;
* `Value.Distinct.lookup_of_mem`: so what stands behind a key of a mapping with each key once;
* `Json.keyed_of_read`: the reader of the one format yields only mappings with each key once, and so
  does a host for the other;
* `Settings.mapping_of_fileValue`: so settings files hold mappings of this kind.
-/

namespace BundleManifest

namespace Value

variable {v w key key' : Value} {s : String} {entries : List (Value × Value)}

/-! ## Looking up names -/

/-- Only a text is the same key as a text. -/
theorem sameKey_text_iff : v.sameKey (.text s) = true ↔ v = .text s := by
  cases v with
  | text t => simp [sameKey]
  | _ => simp [sameKey, integer?]

theorem text_sameKey_iff : (Value.text s).sameKey v = true ↔ v = .text s := by
  cases v with
  | text t => simp [sameKey, eq_comm]
  | _ => simp [sameKey, integer?]

theorem lookup_cons_self : lookup (.text s) ((.text s, v) :: entries) = some v :=
  if_pos (sameKey_text_iff.2 rfl)

theorem lookup_cons_of_ne (h : key ≠ .text s) :
    lookup (.text s) ((key, v) :: entries) = lookup (.text s) entries :=
  if_neg (mt sameKey_text_iff.1 h)

theorem mem_of_lookup (h : lookup (.text s) entries = some v) : (.text s, v) ∈ entries := by
  obtain ⟨k, hmem, hsame⟩ := exists_mem_of_lookup h
  exact sameKey_text_iff.1 hsame ▸ hmem

/-! ## Each key once -/

/-- What stands behind a key at the head stands behind it nowhere else. -/
theorem Distinct.lookup_tail (h : Distinct ((key, v) :: entries)) (hsame : key.sameKey key' = true) :
    lookup key' entries = none := by
  by_contra hsome
  obtain ⟨w, hw⟩ := Option.ne_none_iff_exists'.1 hsome
  obtain ⟨k, hmem, hk⟩ := exists_mem_of_lookup hw
  have hhead : key.sameKey k = false := (List.pairwise_cons.1 h).1 _ hmem
  rw [sameKey_congr hsame, sameKey_comm, hk] at hhead
  cases hhead

/-- Where every key occurs once, each entry is found by its key. -/
theorem Distinct.lookup_of_mem (h : Distinct entries) (hmem : (key, v) ∈ entries)
    (hself : key.sameKey key = true) :
    lookup key entries = some v := by
  induction entries with
  | nil => cases hmem
  | cons e entries ih =>
    rcases List.mem_cons.1 hmem with rfl | hmem
    · exact if_pos hself
    · have hhead : e.1.sameKey key = false := (List.pairwise_cons.1 h).1 _ hmem
      rw [show e = (e.1, e.2) from rfl, lookup, if_neg (Bool.eq_false_iff.1 hhead), ih h.tail hmem]

/-- The keys stay when an entry is put in. -/
theorem exists_mem_insert {e : Value × Value} (h : e ∈ entries) (key v : Value) :
    ∃ w, (e.1, w) ∈ insert key v entries := by
  induction entries with
  | nil => cases h
  | cons g entries ih =>
    obtain ⟨k, w⟩ := g
    rw [insert]
    split
    · rcases List.mem_cons.1 h with rfl | h
      · exact ⟨v, List.mem_cons_self⟩
      · exact ⟨e.2, List.mem_cons_of_mem _ h⟩
    · rcases List.mem_cons.1 h with rfl | h
      · exact ⟨w, List.mem_cons_self⟩
      · obtain ⟨w', hw'⟩ := ih h
        exact ⟨w', List.mem_cons_of_mem _ hw'⟩

/-- The mappings in a value that is read have each key once, too. -/
theorem Keyed.distinct_of_find? (h : Keyed v) (hfind : v.find? s = some (.mapping entries)) :
    Distinct entries := by
  cases v with
  | mapping es => exact (h.of_mem (mem_of_lookup hfind)).distinct
  | _ => cases hfind

/-- A mapping has each key once exactly if the first key is not among the others, and these occur
    once. -/
theorem keyed_cons_iff : Keyed (.mapping ((key, v) :: entries)) ↔
    key.sameKey key = true ∧ lookup key entries = none ∧ Keyed v ∧ Keyed (.mapping entries) := by
  constructor
  · intro h
    have hself := h.sameKey_self List.mem_cons_self
    refine ⟨hself, h.distinct.lookup_tail hself, h.of_mem List.mem_cons_self, ?_⟩
    exact .mapping h.distinct.tail (fun e he => h.sameKey_self (List.mem_cons_of_mem _ he))
      fun e he => h.of_mem (List.mem_cons_of_mem _ he)
  · rintro ⟨hself, hnone, hv, hentries⟩
    refine .mapping (List.pairwise_cons.2 ⟨fun e he => ?_, hentries.distinct⟩) ?_ ?_
    · by_contra hsame
      have hlookup := hentries.distinct.lookup_of_mem he (hentries.sameKey_self he)
      rw [← lookup_congr (Bool.not_eq_false _ ▸ hsame), hnone] at hlookup
      cases hlookup
    · exact List.forall_mem_cons.2 ⟨hself, fun e he => hentries.sameKey_self he⟩
    · exact List.forall_mem_cons.2 ⟨hv, fun e he => hentries.of_mem he⟩

end Value

open Value (Keyed)

/-! ## Values of files -/

namespace Json

variable {limit depth : Option Nat} {s rest : List Char} {v : Value} {fuel : Nat}

/-- A scalar has no keys. -/
theorem keyed_of_scalar (h : scalar limit s = .ok (v, rest)) : Keyed v := by
  refine .other fun entries hentries => ?_
  subst hentries
  rw [scalar] at h
  split at h
  · next word v' hword =>
    obtain rfl : v' = .mapping entries := congrArg Prod.fst (Except.ok.inj h)
    simpa [words] using List.mem_of_find?_eq_some hword
  · simp only [number, numberFrom] at h
    repeat' split at h
    all_goals cases h

/-- Values, lists and objects that are read within a bound have each key once, objects if the entries
    before have. -/
structure ReadsKeyed (limit : Option Nat) (fuel : Nat) : Prop where
  value : ∀ {depth s v rest}, Json.value limit fuel depth s = .ok (v, rest) → Keyed v
  items : ∀ {depth acc s v rest}, Json.items limit fuel depth acc s = .ok (v, rest) → Keyed v
  entries : ∀ {depth acc s v rest}, Keyed (.mapping acc) →
    Json.entries limit fuel depth acc s = .ok (v, rest) →
    Keyed v

/-- One level further out, a value has each key once if the values in it have. -/
theorem ReadsKeyed.value_succ (ih : ReadsKeyed limit fuel)
    (h : Json.value limit (fuel + 1) depth s = .ok (v, rest)) :
    Keyed v := by
  rw [Json.value.eq_def] at h
  dsimp only at h
  split at h
  · -- A string is no mapping.
    split at h <;> cases h
    exact .other (by simp)
  · split at h
    · cases h
    · split at h
      · cases h
        exact .other (by simp)
      · exact ih.items h
  · split at h
    · cases h
    · split at h
      · cases h
        exact Value.keyed_nil
      · exact ih.entries Value.keyed_nil h
  · exact keyed_of_scalar h

/-- The items of a list are values, for which the bound goes down. -/
theorem ReadsKeyed.items_succ {acc : List Value} (ih : ReadsKeyed limit fuel)
    (h : Json.items limit (fuel + 1) depth acc s = .ok (v, rest)) : Keyed v := by
  rw [Json.items] at h
  split at h
  · cases h
  · split at h
    · cases h
      exact .other (by simp)
    · exact ih.items h
    · cases h

/-- The entries of an object are inserted one by one, and a key that is there is not added. -/
theorem ReadsKeyed.entries_succ {acc : List (Value × Value)} (ih : ReadsKeyed limit fuel)
    (hacc : Keyed (.mapping acc)) (h : Json.entries limit (fuel + 1) depth acc s = .ok (v, rest)) :
    Keyed v := by
  rw [Json.entries.eq_def] at h
  dsimp only at h
  split at h
  · split at h
    · cases h
    · next name behind _ =>
      split at h
      · split at h
        · cases h
        · next w behind' hvalue =>
          have hacc' : Keyed (.mapping (Value.insert (.text name) w acc)) := 
            hacc.insert (Value.text_sameKey_iff.2 rfl) (ih.value hvalue)
          split at h
          · cases h
            exact hacc'
          · exact ih.entries hacc' h
          · cases h
      · cases h
  · cases h

/-- This is proved for values, lists and objects at the same time, by induction on the bound that they
    share. -/
theorem readsKeyed (limit : Option Nat) (fuel : Nat) : ReadsKeyed limit fuel := by
  induction fuel with
  | zero => constructor <;> intros <;> contradiction
  | succ fuel ih => exact ⟨ih.value_succ, ih.items_succ, ih.entries_succ⟩

/-- What is read in JSON format has each key once. -/
theorem keyed_of_read {text : List Char} (h : read text limit depth = .ok v) : Keyed v := by
  rw [read] at h
  split at h
  · cases h
  · split at h
    · cases h
    · cases h
    · cases h
    · next w rest hvalue =>
      split at h
      · cases h
        exact (readsKeyed limit _).value hvalue
      · cases h

end Json

namespace Settings

variable [Host] {d : Disk} {path : Option String} {file : Value}

/-- A file in JSON format has each key once. -/
theorem keyed_of_ofJson {bytes : List UInt8} (h : ofJson bytes = .ok file) : Keyed file := by
  obtain ⟨text, -, h⟩ := exists_of_bind h
  split at h
  · next hread =>
    cases h
    exact Json.keyed_of_read hread
  all_goals cases h

/-- A file in YAML format has each key once, by what is known of the host. -/
theorem keyed_of_ofYaml {bytes : List UInt8} (h : ofYaml bytes = .ok file) : Keyed file := by
  obtain ⟨v, hv, h⟩ := exists_of_bind h
  cases h
  split
  · cases hread : Host.readYaml bytes with
    | error f =>
      rw [hread] at hv
      cases hv
    | ok w =>
      rw [hread] at hv
      cases hv
      exact Host.keyed_of_readYaml hread
  · exact Value.keyed_nil

/-- A settings file that is read is a mapping with each key once. -/
theorem mapping_of_ofFile {name : String} (h : ofFile d name = .ok file) :
    ∃ entries, file = .mapping entries ∧ Keyed file := by
  rw [ofFile] at h
  split at h
  · cases h
  split at h
  · cases h
  dsimp only at h
  split at h
  · obtain ⟨v, hv, h⟩ := exists_of_bind h
    split at h <;> cases h
    exact ⟨_, rfl, keyed_of_ofJson hv⟩
  · obtain ⟨v, hv, h⟩ := exists_of_bind h
    split at h <;> cases h
    exact ⟨_, rfl, keyed_of_ofYaml hv⟩

/-- The settings file holds a mapping with each key once, also if there is no file. -/
theorem mapping_of_fileValue (h : fileValue d path = .ok file) :
    ∃ entries, file = .mapping entries ∧ Keyed file := by
  rw [fileValue] at h
  split at h
  · exact mapping_of_ofFile h
  · split at h
    · exact mapping_of_ofFile h
    · cases h
      exact ⟨[], rfl, Value.keyed_nil⟩

end Settings

end BundleManifest
