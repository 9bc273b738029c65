import BundleManifest.Value
import Mathlib.Algebra.Order.Field.Rat
import Mathlib.Data.Int.Cast.Lemmas
import Mathlib.Tactic.Ring

/-!
# Keys

Whether two values are the same key is found out by comparing them type by type. Behind these
comparisons is a notion of the *key* that a value is (`Value.Key`): numbers of all types are keys by
their exact values, and collections are no keys. Two values are the same key if they are the key of
each other's (`Value.sameKey_iff`), so that it does not matter by which of them an entry is looked up.

* `Binary64.equals_iff`, `Binary64.equalsInt_iff`: numbers of double precision are compared by their
  values;
* `Value.sameKey_congr`, `Value.lookup_congr`: values that are the same key can be exchanged;
* `Value.lookup_insert_of_sameKey`, `Value.lookup_insert_of_not_sameKey`: what stands behind a key
  after an entry was put in.
-/

namespace BundleManifest

namespace Number.Binary64

/-- The exact value of a finite number. -/
def rational (negative : Bool) (m : Nat) (e : Int) : ℚ :=
  signed negative m * 2 ^ e

variable {negative negative' : Bool} {m m' : Nat} {e e' k n : Int}

/-- A number is what is left of it without some of its factors two, times these. -/
theorem rational_eq (h : k ≤ e) :
    rational negative m e = ((signed negative m * Nat.pow 2 (e - k).toNat : Int) : ℚ) * 2 ^ k := by
  obtain ⟨d, rfl⟩ := Int.le.dest h
  have hd : (k + d - k).toNat = d := by omega
  rw [rational, hd, zpow_add₀ two_ne_zero, zpow_natCast]
  push_cast [Nat.pow_eq]
  ring

/-- Two finite numbers are compared by their exact values. -/
theorem equals_iff : (finite negative m e).equals (finite negative' m' e') = true ↔
    rational negative m e = rational negative' m' e' := by
  rw [equals, decide_eq_true_iff, rational_eq (min_le_left e e'), rational_eq (min_le_right e e'),
    mul_left_inj' (zpow_ne_zero _ two_ne_zero), Int.cast_inj]

/-- A finite number is compared with an integer by its exact value. -/
theorem equalsInt_iff : (finite negative m e).equalsInt n = true ↔ rational negative m e = n := by
  rw [equalsInt]
  split
  · next he =>
    rw [decide_eq_true_iff, rational_eq he, zpow_zero, mul_one, Int.sub_zero, Int.cast_inj]
  · next he =>
    have hk : (2 : ℚ) ^ e * 2 ^ (-e).toNat = 1 := by
      rw [← zpow_natCast, ← zpow_add₀ two_ne_zero, Int.toNat_of_nonneg (by omega), Int.add_right_neg,
        zpow_zero]
    rw [decide_eq_true_iff, rational, ← Int.cast_inj (α := ℚ)]
    push_cast [Nat.pow_eq]
    constructor
    · intro h
      rw [h, mul_assoc, mul_comm (2 ^ _), hk, mul_one]
    · intro h
      rw [← h, mul_assoc, hk, mul_one]

end Number.Binary64

namespace Value

open Number

/-- What a value is as a key. -/
inductive Key where
  | null
  | text (s : String)
  | bytes (bs : List UInt8)
  | other (type shown : String)
  /-- A number of any type, by its exact value. -/
  | number (q : ℚ)
  | infinite (negative : Bool)
  /-- What is no number. -/
  | nan

/-- The key that a number of double precision is. -/
def Key.ofFloat : Binary64 → Key
  | .finite negative m e => .number (Binary64.rational negative m e)
  | .infinite negative => .infinite negative
  | .nan => .nan

/-- The key that a value is, if it can be one. -/
def key? : Value → Option Key
  | null => some .null
  | bool b => some (.number (if b then 1 else 0 : Int))
  | int n => some (.number n)
  | float x => some (.ofFloat x)
  | text s => some (.text s)
  | bytes bs => some (.bytes bs)
  | other type shown => some (.other type shown)
  | list _ | mapping _ | tuple _ | set _ => none

variable {v w key key' : Value} {entries : List (Value × Value)}

/-- Numbers are the same key if they are equal. -/
theorem Key.ofFloat_eq_ofFloat_iff {x y : Binary64} :
    Key.ofFloat x = Key.ofFloat y ↔ x.equals y = true := by
  cases x with
  | finite => cases y with
    | finite => rw [Binary64.equals_iff, ofFloat, ofFloat, number.injEq]
    | _ => simp [ofFloat, Binary64.equals]
  | _ => cases y <;> simp [ofFloat, Binary64.equals]

/-- A number is the same key as the integer that it is. -/
theorem Key.ofFloat_eq_number_iff {x : Binary64} {n : Int} :
    Key.ofFloat x = .number n ↔ x.equalsInt n = true := by
  cases x with
  | finite => rw [Binary64.equalsInt_iff, ofFloat, number.injEq]
  | _ => simp [ofFloat, Binary64.equalsInt]

theorem Key.number_eq_ofFloat_iff {x : Binary64} {n : Int} :
    .number n = Key.ofFloat x ↔ x.equalsInt n = true := by
  rw [eq_comm, ofFloat_eq_number_iff]

/-- A number of double precision is no key of another type. -/
theorem Key.ofFloat_ne {x : Binary64} {k : Key}
    (h : k = .null ∨ (∃ s, k = .text s) ∨ (∃ bs, k = .bytes bs) ∨
      ∃ type shown, k = .other type shown) :
    k ≠ Key.ofFloat x := by
  rcases h with rfl | ⟨s, rfl⟩ | ⟨bs, rfl⟩ | ⟨type, shown, rfl⟩ <;> cases x <;> simp [ofFloat]

/-- Two values are the same key if there is a key that both of them are. -/
theorem sameKey_iff : v.sameKey w = true ↔ v.key? = w.key? ∧ v.key?.isSome = true := by
  cases v with
  | float x =>
    cases w <;> simp [sameKey, integer?, key?, (Key.ofFloat_ne _).symm, Key.ofFloat_eq_ofFloat_iff,
      Key.ofFloat_eq_number_iff, -Int.cast_ite]
  | _ =>
    cases w <;>
      simp [sameKey, integer?, key?, Key.ofFloat_ne, Key.number_eq_ofFloat_iff, -Int.cast_ite]

/-- Being the same key goes both ways. -/
theorem sameKey_comm (v w : Value) : v.sameKey w = w.sameKey v := by
  rw [Bool.eq_iff_iff, sameKey_iff, sameKey_iff]
  constructor <;>
    · rintro ⟨heq, hsome⟩
      exact ⟨heq.symm, heq ▸ hsome⟩

/-- A key can be compared by any value that is the same key. -/
theorem sameKey_congr (h : v.sameKey w = true) (x : Value) : v.sameKey x = w.sameKey x := by
  rw [Bool.eq_iff_iff, sameKey_iff, sameKey_iff, (sameKey_iff.1 h).1]

/-! ## Looking up keys -/

theorem lookup_congr (h : key.sameKey key' = true) : lookup key entries = lookup key' entries := by
  induction entries with
  | nil => rfl
  | cons e entries ih =>
    obtain ⟨k, v⟩ := e
    rw [lookup, lookup, ih, sameKey_comm k key, sameKey_congr h, sameKey_comm key' k]

/-- What is found stands behind the same key among the entries. -/
theorem exists_mem_of_lookup (h : lookup key entries = some v) :
    ∃ k, (k, v) ∈ entries ∧ k.sameKey key = true := by
  induction entries with
  | nil => cases h
  | cons e entries ih =>
    obtain ⟨k, w⟩ := e
    rw [lookup] at h
    split at h
    · next hsame =>
      cases h
      exact ⟨k, List.mem_cons_self, hsame⟩
    · obtain ⟨k', hmem, hsame⟩ := ih h
      exact ⟨k', List.mem_cons_of_mem _ hmem, hsame⟩

/-- What was inserted is found by every key that is the same. -/
theorem lookup_insert_of_sameKey (h : key.sameKey key' = true) :
    lookup key' (insert key v entries) = some v := by
  induction entries with
  | nil => exact if_pos h
  | cons e entries ih =>
    obtain ⟨k, w⟩ := e
    rw [insert]
    split
    · next hsame => exact if_pos ((sameKey_congr hsame key').trans h)
    · next hsame =>
      -- The head has another key than both.
      rw [lookup, if_neg, ih]
      rwa [sameKey_comm k key', ← sameKey_congr h, sameKey_comm key k]

/-- What stands behind other keys stays. -/
theorem lookup_insert_of_not_sameKey (h : key.sameKey key' = false) :
    lookup key' (insert key v entries) = lookup key' entries := by
  induction entries with
  | nil => exact if_neg (Bool.eq_false_iff.1 h)
  | cons e entries ih =>
    obtain ⟨k, w⟩ := e
    rw [insert]
    split
    · next hsame =>
      have hhead : k.sameKey key' = false := (sameKey_congr hsame key').trans h
      rw [lookup, lookup, hhead, if_neg Bool.false_ne_true, if_neg Bool.false_ne_true]
    · rw [lookup, lookup, ih]

end Value

end BundleManifest
