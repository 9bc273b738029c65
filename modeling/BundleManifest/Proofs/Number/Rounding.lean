import BundleManifest.Number.Rounding
import Mathlib.Data.Rat.Cast.Order
import Mathlib.Tactic.Linarith
import Mathlib.Tactic.NormNum
import Mathlib.Tactic.Ring

/-!
# Rounding to the nearest number

What rounding does is said here without the way in which it is computed: `IsNearest q r` if `r` is the
natural number nearest to `q`, or the even one of two that are equally near. There is only one such
number, and it does not become smaller when `q` becomes greater.

* `IsNearest.le`: rounding keeps the order;
* `isNearest_roundHalfEven`: a quotient is rounded to the nearest number.
-/

namespace BundleManifest.Number

variable {q q' : ℚ} {r r' den : ℕ}

/-- Whether a natural number is the one nearest to another number; of two, it is the even one. -/
structure IsNearest (q : ℚ) (r : ℕ) : Prop where
  near : |q - r| ≤ 1 / 2
  even : |q - r| = 1 / 2 → Even r

theorem isNearest_natCast (n : ℕ) : IsNearest n n where
  near := by norm_num
  even h := by norm_num at h

namespace IsNearest

/-- The nearest numbers are in the same order as the numbers that are rounded. -/
theorem le (h : IsNearest q r) (h' : IsNearest q' r') (hq : q ≤ q') : r ≤ r' := by
  by_contra hlt
  have hstep : (r' : ℚ) + 1 ≤ r := by exact_mod_cast Nat.lt_of_not_le hlt
  have hlower := (abs_le.1 h.near).1
  have hupper := (abs_le.1 h'.near).2
  -- There is only room for the order to be reversed at a tie, and then both numbers would be even.
  have htie : |q - r| = 1 / 2 := by
    rw [abs_of_nonpos] <;> linarith
  have htie' : |q' - r'| = 1 / 2 := by
    rw [abs_of_nonneg] <;> linarith
  have hnext : r = r' + 1 := by
    have : (r : ℚ) = r' + 1 := by linarith
    exact_mod_cast this
  exact absurd (h.even htie) (by rw [hnext, Nat.not_even_iff_odd]; exact (h'.even htie').add_one)

/-- No number has two nearest ones, as a tie goes to the even one. -/
theorem unique (h : IsNearest q r) (h' : IsNearest q r') : r = r' :=
  Nat.le_antisymm (h.le h' (le_refl q)) (h'.le h (le_refl q))

end IsNearest

/-- A number above another one by less than a half is rounded down to it, and by a half if it is
    even. -/
theorem isNearest_add {t : ℚ} (ht : 0 ≤ t) (hhalf : t ≤ 1 / 2) (heven : t = 1 / 2 → Even r) :
    IsNearest (r + t) r := by
  have habs : |(r + t : ℚ) - r| = t := by rw [add_sub_cancel_left, abs_of_nonneg ht]
  exact ⟨by rwa [habs], by rwa [habs]⟩

/-- A number below another one by less than a half is rounded up to it, and by a half if it is
    even. -/
theorem isNearest_sub {t : ℚ} (ht : 0 ≤ t) (hhalf : t ≤ 1 / 2) (heven : t = 1 / 2 → Even r) :
    IsNearest (r - t) r := by
  have habs : |(r - t : ℚ) - r| = t := by rw [sub_sub_cancel_left, abs_neg, abs_of_nonneg ht]
  exact ⟨by rwa [habs], by rwa [habs]⟩

/-- A quotient is rounded to the nearest number. -/
theorem isNearest_roundHalfEven (num : ℕ) (hden : 0 < den) :
    IsNearest ((num : ℚ) / den) (roundHalfEven num den) := by
  have hpos : (0 : ℚ) < den := by exact_mod_cast hden
  -- The quotient is its whole part and the remainder divided by the divisor, a number below one.
  obtain ⟨t, ht⟩ : ∃ t : ℚ, t = ((num % den : ℕ) : ℚ) / den := ⟨_, rfl⟩
  have hrem : ((num % den : ℕ) : ℚ) = t * den := by rw [ht, div_mul_cancel₀ _ hpos.ne']
  have hquotient : (num : ℚ) / den = (num / den : ℕ) + t := by
    have hwhole : ((den * (num / den) + num % den : ℕ) : ℚ) = num := by rw [Nat.div_add_mod]
    rw [div_eq_iff hpos.ne', ← hwhole, Nat.cast_add, hrem, Nat.cast_mul]
    ring
  have hnonneg : 0 ≤ t := ht ▸ div_nonneg (Nat.cast_nonneg _) hpos.le
  have hlt : t < 1 := by
    rw [ht, div_lt_iff₀ hpos, one_mul]
    exact_mod_cast Nat.mod_lt num hden
  have hbelow : 2 * (num % den) < den ↔ t < 1 / 2 := by
    rw [← Nat.cast_lt (α := ℚ), Nat.cast_mul, hrem, Nat.cast_two, ← mul_assoc,
      mul_lt_iff_lt_one_left hpos]
    constructor <;> intro h <;> linarith
  have habove : den < 2 * (num % den) ↔ 1 / 2 < t := by
    rw [← Nat.cast_lt (α := ℚ), Nat.cast_mul, hrem, Nat.cast_two, ← mul_assoc,
      lt_mul_iff_one_lt_left hpos]
    constructor <;> intro h <;> linarith
  -- Seen from the next number, the quotient is below it by what is left.
  have hnext : ((num / den : ℕ) : ℚ) + t = ((num / den + 1 : ℕ) : ℚ) - (1 - t) := by
    push_cast
    ring
  rw [hquotient, roundHalfEven]
  simp only [hbelow, habove]
  split_ifs with hdown hup heven
  · exact isNearest_add hnonneg hdown.le fun h => absurd h hdown.ne
  · rw [hnext]
    exact isNearest_sub (by linarith) (by linarith) fun h => absurd h (by linarith)
  · exact isNearest_add hnonneg (not_lt.1 hup) fun _ => Nat.even_iff.2 heven
  · rw [hnext]
    refine isNearest_sub (by linarith) (by linarith) fun _ => ?_
    rw [Nat.even_add_one, Nat.even_iff]
    exact heven

end BundleManifest.Number
