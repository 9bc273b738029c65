import BundleManifest.Manifest
import BundleManifest.Proofs.Json.RoundTrip
import BundleManifest.Proofs.Registration
import BundleManifest.Proofs.Text.Utf8
import BundleManifest.Walk

/-!
# Reading manifests back

A manifest says everything about the records of a bundle: they can be read back from it. Two things
are needed for this. What is written of a value is read as the value, and what a record does not write
of itself is empty.

* `Record.ofValue?`: the record that a value is written for;
* `ofValue?_toValue`: a record is read back from its value, if it has no content that it does not
  write;
* `Manifest.read_text`: the values of records are read back from a manifest, however its lines are
  indented;
* `Manifest.lossless`: the records of every bundle are read back, so that no two lists of records have
  the same manifest.
-/

namespace BundleManifest

open Json Text

/-! ## Records and values -/

namespace Value

/-- The text that a value is. -/
def text? : Value → Option String
  | text s => some s
  | _ => none

/-- The number that a value is. -/
def int? : Value → Option Int
  | int n => some n
  | _ => none

/-- The text with a key that a mapping need not have, and which is empty if it does not. -/
def textOrEmpty? (v : Value) (key : String) : Option String :=
  match v.find? key with
  | none => some ""
  | some found => found.text?

end Value

namespace Record

/-- The record that a value is written for. -/
def ofValue? (v : Value) : Option Record := do
  let word ← (← v.find? "type").text?
  let kind ← CallKind.ofWord? word
  let size ← (← v.find? "size").int?
  let path ← (← v.find? "path").text?
  let packageName ← (← v.find? "packageName").text?
  let version ← (← v.find? "version").text?
  let fileName ← (← v.find? "fileName").text?
  let content ← v.textOrEmpty? "content"
  let target ← v.textOrEmpty? "target"
  return { kind, size, path, identity := { packageName, version, fileName }, content, target }

variable {r : Record}

/-- A record is read back from its value, if it has no content that it does not write. -/
theorem ofValue?_toValue (h : r.kind ≠ .define → r.content = "") : ofValue? r.toValue = some r := by
  obtain ⟨kind, size, path, ⟨packageName, version, fileName⟩, content, target⟩ := r
  -- Which entries there are depends on the kind and on the target.
  by_cases hkind : kind = .define
  · subst hkind
    by_cases htarget : target = "" <;>
      simp [ofValue?, toValue, Value.record, Value.find?, Value.lookup, Value.sameKey, Value.text?,
        Value.int?, Value.textOrEmpty?, htarget]
  · obtain rfl : content = "" := h hkind
    by_cases htarget : target = "" <;>
      simp [ofValue?, toValue, Value.record, Value.find?, Value.lookup, Value.sameKey, Value.text?,
        Value.int?, Value.textOrEmpty?, hkind, htarget]

/-- The value of a record is plain, if its size is not too long. -/
theorem plain_toValue {limit : Option Nat}
    (h : tooLong limit (Nat.toDigits 10 r.size.natAbs).length = false) :
    Plain limit none r.toValue := by
  refine .record rfl ?_ ?_
  · split <;> split <;> simp
  · intro field hfield
    have htext : (∃ s, field.2 = .text s) ∨ field.2 = .int r.size := by
      split at hfield <;> split at hfield <;> grind
    obtain ⟨s, hs⟩ | hs := htext <;> rw [hs]
    · exact .text s
    · exact .int h

end Record

/-- Only module definitions have content, and only aliases a target. -/
theorem Walker.shape_of_mem_records {w : Walker} {b : Bundle} {r : Record} (h : r ∈ w.records b) :
    (r.kind ≠ .define → r.content = "") ∧ (r.kind.isAlias = false → r.target = "") := by
  obtain ⟨call, -, hbuild⟩ := List.mem_filterMap.1 h
  exact (Extraction.shape_of_build hbuild).2

namespace Manifest

variable {limit : Option Nat} {records : List Record}

/-- The indentation by a number of spaces. -/
def spaces (indent : Option Nat) : Option (List Char) :=
  indent.map (List.replicate · ' ')

/-- A manifest is indented with white space only. -/
theorem blank_spaces (indent : Option Nat) : Layout.Blank { indent := spaces indent } := by
  rintro unit hunit c hc
  obtain ⟨n, -, rfl⟩ := Option.map_eq_some_iff.1 hunit
  rw [List.eq_of_mem_replicate hc]
  rfl

theorem suits_spaces (indent : Option Nat) : Layout.Suits { indent := spaces indent } limit :=
  Layout.suits_of_limit_eq_none rfl

/-- The records of a manifest can be read back if their sizes are not too long for the reader. -/
theorem plain_of_mem
    (h : ∀ r ∈ records, tooLong limit (Nat.toDigits 10 r.size.natAbs).length = false) :
    ∀ v ∈ records.map Record.toValue, Plain limit none v := by
  rintro v hv
  obtain ⟨r, hr, rfl⟩ := List.mem_map.1 hv
  exact Record.plain_toValue (h r hr)

/-- From a manifest the values of its records are read, however its lines are indented. -/
theorem read_text (indent : Option Nat)
    (h : ∀ r ∈ records, tooLong limit (Nat.toDigits 10 r.size.natAbs).length = false) :
    Json.read (text (spaces indent) records).toList limit =
      .ok (.list (records.map Record.toValue)) := by
  rw [text, String.toList_ofList]
  exact read_write (blank_spaces indent) (suits_spaces indent) (.list rfl (plain_of_mem h))
    (List.forall_mem_singleton.2 rfl)

/-- The records are what the values are written for, if they have no content that they do not
    write. -/
theorem map_ofValue?_toValue (h : ∀ r ∈ records, r.kind ≠ .define → r.content = "") :
    (records.map Record.toValue).map Record.ofValue? = records.map some := by
  rw [List.map_map]
  exact List.map_congr_left fun r hr => Record.ofValue?_toValue (h r hr)

/-- Lists of records with the same manifest are equal, if they have no content that they do not
    write. -/
theorem eq_of_text_eq {other : List Record} {indent indent' : Option Nat}
    (h : ∀ r ∈ records, r.kind ≠ .define → r.content = "")
    (hother : ∀ r ∈ other, r.kind ≠ .define → r.content = "")
    (heq : text (spaces indent) records = text (spaces indent') other) : records = other := by
  -- What is read from the text is one list of values.
  have hvalues : records.map Record.toValue = other.map Record.toValue := by
    have hread : Json.read (text (spaces indent) records).toList none =
        .ok (.list (records.map Record.toValue)) := read_text indent fun _ _ => rfl
    rw [heq, read_text indent' fun _ _ => rfl] at hread
    exact (Value.list.inj (Except.ok.inj hread)).symm
  refine List.map_injective_iff.2 (fun _ _ => Option.some.inj) ?_
  rw [← map_ofValue?_toValue h, ← map_ofValue?_toValue hother, hvalues]

/-- The manifest of the records of a bundle is one list in JSON format and a line end. From the list
    every record is read back with all its fields, whatever is looked for and taken, and however the
    lines are indented. Walks with different records never write the same bytes. -/
theorem lossless (w : Walker) (b : Bundle) (indent : Option Nat) :
    ∃ (inside : List Char) (values : List Value),
      (text (spaces indent) (w.records b)).toList = '[' :: (inside ++ [']']) ++ ['\n'] ∧
      Json.read ('[' :: (inside ++ [']'])) none = .ok (.list values) ∧
      Json.read (text (spaces indent) (w.records b)).toList none = .ok (.list values) ∧
      values.map Record.ofValue? = (w.records b).map some ∧
      ∀ (w' : Walker) (b' : Bundle) (indent' : Option Nat), w'.records b' ≠ w.records b →
        Utf8.encode (text (spaces indent') (w'.records b')).toList ≠
          Utf8.encode (text (spaces indent) (w.records b)).toList := by
  have hplain : ∀ v ∈ (w.records b).map Record.toValue, Plain none none v :=
    plain_of_mem fun _ _ => rfl
  obtain ⟨inside, hinside⟩ := write_list (blank_spaces indent) (suits_spaces indent) hplain
  refine ⟨inside, (w.records b).map Record.toValue, ?_, ?_, read_text indent fun _ _ => rfl,
    map_ofValue?_toValue fun r hr => (Walker.shape_of_mem_records hr).1, ?_⟩
  · rw [text, String.toList_ofList, hinside]
  · -- The list is read without the line end, too.
    rw [← hinside, ← List.append_nil (write _ _).text]
    exact read_write (blank_spaces indent) (suits_spaces indent) (.list rfl hplain)
      (List.forall_mem_nil _)
  · intro w' b' indent' hne hbytes
    have heq : text (spaces indent') (w'.records b') = text (spaces indent) (w.records b) :=
      String.toList_inj.1 (Utf8.encode_injective hbytes)
    exact hne (eq_of_text_eq (fun r hr => (Walker.shape_of_mem_records hr).1)
      (fun r hr => (Walker.shape_of_mem_records hr).1) heq)

end Manifest

end BundleManifest
