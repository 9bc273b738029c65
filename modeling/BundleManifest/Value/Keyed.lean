import BundleManifest.Value

/-!
# Mappings with each key once

A mapping has each of its keys once if its entries were put in one after the other, for an entry with
a key that is there takes the place of the one before. Every reader of a settings file makes mappings
in this way, at every depth.

* `Value.Distinct`: entries with each key once;
* `Value.Keyed`: a value whose mappings are like this;
* `Value.Keyed.insert`: a mapping stays like this when an entry is put in.
-/

namespace BundleManifest.Value

variable {v key : Value} {entries : List (Value × Value)}

/-- No two entries have the same key. -/
def Distinct (entries : List (Value × Value)) : Prop :=
  entries.Pairwise fun e f => e.1.sameKey f.1 = false

theorem distinct_nil : Distinct [] :=
  List.Pairwise.nil

theorem Distinct.tail {e : Value × Value} (h : Distinct (e :: entries)) : Distinct entries :=
  (List.pairwise_cons.1 h).2

/-- The keys after an entry was put in are those before and the new one. -/
theorem of_mem_insert {e : Value × Value} (h : e ∈ insert key v entries) :
    e = (key, v) ∨ ∃ f ∈ entries, f.1 = e.1 ∧ (f = e ∨ e.2 = v) := by
  induction entries with
  | nil => exact .inl (List.mem_singleton.1 h)
  | cons g entries ih =>
    obtain ⟨k, w⟩ := g
    rw [insert] at h
    split at h
    · rcases List.mem_cons.1 h with rfl | h
      · exact .inr ⟨(k, w), List.mem_cons_self, rfl, .inr rfl⟩
      · exact .inr ⟨e, List.mem_cons_of_mem _ h, rfl, .inl rfl⟩
    · rcases List.mem_cons.1 h with rfl | h
      · exact .inr ⟨(k, w), List.mem_cons_self, rfl, .inl rfl⟩
      · obtain rfl | ⟨f, hf, hkey⟩ := ih h
        · exact .inl rfl
        · exact .inr ⟨f, List.mem_cons_of_mem _ hf, hkey⟩

/-- Entries keep each key once when one is put in. -/
theorem Distinct.insert (h : Distinct entries) : Distinct (insert key v entries) := by
  induction entries with
  | nil => exact List.pairwise_singleton _ _
  | cons e entries ih =>
    obtain ⟨k, w⟩ := e
    obtain ⟨hhead, hrest⟩ := List.pairwise_cons.1 h
    rw [Value.insert]
    split
    · exact List.pairwise_cons.2 ⟨hhead, hrest⟩
    · next hsame =>
      refine List.pairwise_cons.2 ⟨fun e he => ?_, ih hrest⟩
      rcases of_mem_insert he with rfl | ⟨f, hf, hkey, -⟩
      · exact Bool.eq_false_iff.2 hsame
      · exact hkey ▸ hhead f hf

/-- A value that has each key once, if it is a mapping, and whose entries are such values again. A key
    is the same as itself, which collections are not. -/
inductive Keyed : Value → Prop
  | mapping {entries : List (Value × Value)} (hkeys : Distinct entries)
      (hself : ∀ e ∈ entries, e.1.sameKey e.1 = true) (hvalues : ∀ e ∈ entries, Keyed e.2) :
      Keyed (.mapping entries)
  | other {v : Value} (h : ∀ entries, v ≠ .mapping entries) : Keyed v

theorem keyed_nil : Keyed (.mapping []) :=
  .mapping distinct_nil (fun _ h => nomatch h) fun _ h => nomatch h

theorem Keyed.distinct (h : Keyed (.mapping entries)) : Distinct entries := by
  cases h with
  | mapping hkeys _ _ => exact hkeys
  | other h => exact absurd rfl (h entries)

theorem Keyed.of_mem (h : Keyed (.mapping entries)) {e : Value × Value} (he : e ∈ entries) :
    Keyed e.2 := by
  cases h with
  | mapping _ _ hvalues => exact hvalues e he
  | other h => exact absurd rfl (h entries)

/-- The keys of such a mapping are the same as themselves: none of them is no number. -/
theorem Keyed.sameKey_self (h : Keyed (.mapping entries)) {e : Value × Value} (he : e ∈ entries) :
    e.1.sameKey e.1 = true := by
  cases h with
  | mapping _ hself _ => exact hself e he
  | other h => exact absurd rfl (h entries)

/-- A mapping keeps each key once when an entry is put in. -/
theorem Keyed.insert (h : Keyed (.mapping entries)) (hkey : key.sameKey key = true) (hv : Keyed v) :
    Keyed (.mapping (insert key v entries)) := by
  refine .mapping h.distinct.insert (fun e he => ?_) fun e he => ?_
  · rcases of_mem_insert he with rfl | ⟨f, hf, hsame, -⟩
    · exact hkey
    · exact hsame ▸ h.sameKey_self hf
  · rcases of_mem_insert he with rfl | ⟨f, hf, -, rfl | hvalue⟩
    · exact hv
    · exact h.of_mem hf
    · exact hvalue ▸ hv

end BundleManifest.Value
