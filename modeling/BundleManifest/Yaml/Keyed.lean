import BundleManifest.Result
import BundleManifest.Value.Keyed
import BundleManifest.Yaml.Reader

/-!
# The mappings of a YAML text

The entries of a mapping are put in one after the other, each with a scalar as its key. So every
mapping in a text has each of its keys once (`Yaml.keyed_of_read`).
-/

namespace BundleManifest.Yaml

open Value (Keyed)

variable {v : Value} {fuel : Nat}

theorem keyed_of_map {α : Type} {r : Except Fault α} {f : α → Value}
    (hf : ∀ a entries, f a ≠ .mapping entries) (h : r.map f = .ok v) : Keyed v := by
  obtain ⟨a, -, rfl⟩ := exists_of_map h
  exact .other (hf a)

theorem keyed_of_time {text : String} (h : Scalar.time text = .ok v) : Keyed v := by
  refine .other fun entries hentries => ?_
  subst hentries
  rw [Scalar.time] at h
  repeat' split at h
  all_goals cases h

/-- A scalar is the same key as itself. -/
theorem sameKey_self_of_isScalar (h : v.isScalar = true) : v.sameKey v = true := by
  cases v with
  | list | mapping | tuple | set => cases h
  | float x => cases x <;> simp [Value.sameKey, Number.Binary64.equals]
  | _ => simp [Value.sameKey, Value.integer?]

/-- Values of nodes within a bound have each key once, and so have mappings if the entries before
    have. -/
structure ReadsKeyed (fuel : Nat) : Prop where
  value : ∀ {node v}, Node.value fuel node = .ok v → Keyed v
  entries : ∀ {nodes acc es}, Keyed (.mapping acc) → Node.entries fuel nodes acc = .ok es →
    Keyed (.mapping es)

/-- Each type of scalars is tried in turn. -/
theorem keyed_of_ite {c : Prop} [Decidable c] {a b : Except Fault Value} (ha : a = .ok v → Keyed v)
    (hb : b = .ok v → Keyed v) (h : (if c then a else b) = .ok v) : Keyed v := by
  by_cases hc : c
  · exact ha ((if_pos hc).symm.trans h)
  · exact hb ((if_neg hc).symm.trans h)

/-- A node has each key once if the nodes in it have. -/
theorem ReadsKeyed.value_succ {node : Node} (ih : ReadsKeyed fuel)
    (h : Node.value (fuel + 1) node = .ok v) :
    Keyed v := by
  rw [Node.value.eq_def] at h
  dsimp only at h
  revert h
  -- The types of scalars come first, and then those of collections. (`split` would go through all of
  -- them each time.)
  refine keyed_of_ite (keyed_of_map (by simp)) (keyed_of_ite (keyed_of_map (by simp))
    (keyed_of_ite (keyed_of_map (by simp)) (keyed_of_ite (keyed_of_map (by simp))
      (keyed_of_ite (fun h => ?_) (keyed_of_ite (keyed_of_map (by simp))
        (keyed_of_ite (fun h => ?_) fun h => ?_))))))
  · obtain ⟨text, -, htime⟩ := exists_of_bind h
    exact keyed_of_time htime
  · obtain ⟨text, -, hbinary⟩ := exists_of_bind h
    split at hbinary <;> cases hbinary
    exact .other (by simp)
  split at h
  · split at h
    · exact keyed_of_map (by simp) h
    · split at h
      · exact keyed_of_map (by simp) h
      · cases h
  · split at h
    · obtain ⟨es, hes, rfl⟩ := exists_of_map h
      obtain ⟨nodes, -, hentries⟩ := exists_of_bind hes
      exact ih.entries Value.keyed_nil hentries
    · split at h
      · exact keyed_of_map (by simp) h
      · cases h
  · cases h

/-- Entries are inserted one by one, and a key that is there is not added. -/
theorem ReadsKeyed.entries_succ {nodes : List (Node × Node)} {acc es : List (Value × Value)}
    (ih : ReadsKeyed fuel) (hacc : Keyed (.mapping acc))
    (h : Node.entries (fuel + 1) nodes acc = .ok es) : Keyed (.mapping es) := by
  rw [Node.entries.eq_def] at h
  dsimp only at h
  split at h
  · cases h
  · cases h
    exact hacc
  · next fuel' key node rest _ hfuel =>
    obtain rfl := Nat.succ.inj hfuel
    obtain ⟨k, -, h⟩ := exists_of_bind h
    split at h
    · cases h
    · next hkey =>
      obtain ⟨w, hw, h⟩ := exists_of_bind h
      exact ih.entries (hacc.insert (sameKey_self_of_isScalar (by simpa using hkey)) (ih.value hw)) h

/-- This is proved for values and entries at the same time, by induction on the bound that they
    share. -/
theorem readsKeyed (fuel : Nat) : ReadsKeyed fuel := by
  induction fuel with
  | zero => constructor <;> intros <;> contradiction
  | succ fuel ih => exact ⟨ih.value_succ, ih.entries_succ⟩

/-- What is read in YAML format has each key once. -/
theorem keyed_of_read {text : List Char} (h : read text = .ok v) : Keyed v := by
  obtain ⟨node?, -, h⟩ := exists_of_bind h
  split at h
  · cases h
    exact .other (by simp)
  · rw [Node.construct] at h
    split at h
    · next w hw =>
      cases h
      exact (readsKeyed _).value hw
    · split at h <;> cases h

end BundleManifest.Yaml
