import BundleManifest.Proofs.Json.RoundTrip
import BundleManifest.Proofs.Number.Rounding
import BundleManifest.Report.SizeText
import Mathlib.Algebra.Order.Ring.Abs

/-!
# What the text of a byte count says

The text of a byte count names a number and a unit. It is read here as a person reads it
(`Amount.ofText?`), and what it says is compared with the count: the number is the quotient of the
count and the unit, rounded to one decimal, so that it is wrong by at most half of a tenth.

The unit is chosen before the number is rounded. A count just below a unit may be rounded to the whole
of it, as in `1024.0 KB`, but not beyond, and no count from the unit on is shown as less than the
unit. So a greater count is never shown as less than a smaller one.

* `unitOf`: the unit for a count;
* `exists_sizeText`: what the text of a count says;
* `amount_le`: the amounts that are shown are in the same order as the counts;
* `sizeText_rounded`: all of this, for counts below two to the 53.
-/

namespace BundleManifest.Report

open Number

/-- A number of units of so many bytes each. -/
structure Amount where
  /-- The number of units. -/
  number : ℚ
  /-- The bytes of a unit. -/
  unit : ℕ
  deriving DecidableEq

namespace Amount

/-- The number of bytes. -/
def bytes (a : Amount) : ℚ :=
  a.number * a.unit

/-- The units by their names. -/
def units : List (List Char × ℕ) :=
  [(['B'], 1), (['K', 'B'], 1024), (['M', 'B'], 1024 * 1024)]

/-- The number that has digits, and perhaps more digits behind a point. -/
def decimal? (s : List Char) : Option ℚ :=
  let whole := s.takeWhile Char.isDigit
  match s.drop whole.length with
  | [] => if whole = [] then none else some (Json.digitsValue whole : ℚ)
  | c :: tenths =>
    if c = '.' ∧ whole ≠ [] ∧ tenths ≠ [] ∧ tenths.all Char.isDigit then
      some (Json.digitsValue whole + Json.digitsValue tenths / 10 ^ tenths.length)
    else none

/-- The amount in a text, which is a number, a space, and the name of a unit. -/
def ofText? (text : String) : Option Amount := do
  let s := text.toList
  let number ← decimal? (s.takeWhile (· ≠ ' '))
  let unit ← units.lookup ((s.dropWhile (· ≠ ' ')).drop 1)
  return { number, unit }

end Amount

/-! ## Reading texts -/

variable {n m unit : ℕ} {d : ℚ} {number name : List Char}

theorem takeWhile_isDigit_toDigits (n : ℕ) :
    (Nat.toDigits 10 n).takeWhile Char.isDigit = Nat.toDigits 10 n := by
  rw [← List.append_nil (Nat.toDigits 10 n), Json.takeWhile_toDigits n Json.endsNumber_nil,
    List.append_nil]

theorem all_isDigit_toDigits (n : ℕ) : (Nat.toDigits 10 n).all Char.isDigit = true :=
  List.all_eq_true.2 fun _ hc => Nat.isDigit_of_mem_toDigits (by decide) (by decide) hc

theorem decimal?_toDigits (n : ℕ) : Amount.decimal? (Nat.toDigits 10 n) = some (n : ℚ) := by
  rw [Amount.decimal?, takeWhile_isDigit_toDigits, List.drop_length]
  simp [Nat.toDigits_ne_nil, Json.digitsValue_toDigits]

/-- A number of tenths is read from its digits and the point between them. -/
theorem decimal?_tenthsText (tenths : ℕ) :
    Amount.decimal? (tenthsText tenths).toList = some (tenths / 10 : ℚ) := by
  have htext : (tenthsText tenths).toList =
      Nat.toDigits 10 (tenths / 10) ++ '.' :: Nat.toDigits 10 (tenths % 10) := by
    simp [tenthsText]
  have hwhole :
      (Nat.toDigits 10 (tenths / 10) ++ '.' :: Nat.toDigits 10 (tenths % 10)).takeWhile Char.isDigit =
      Nat.toDigits 10 (tenths / 10) := by
    rw [List.takeWhile_append_of_pos fun c hc => List.all_eq_true.1 (all_isDigit_toDigits _) c hc,
      List.takeWhile_cons_of_neg (by decide), List.append_nil]
  have hone : (Nat.toDigits 10 (tenths % 10)).length = 1 := by
    rw [Nat.toDigits_of_lt_base (Nat.mod_lt _ (by decide)), List.length_singleton]
  have hparts : ((10 * (tenths / 10) + tenths % 10 : ℕ) : ℚ) = tenths := by rw [Nat.div_add_mod]
  rw [htext, Amount.decimal?, hwhole, List.drop_left]
  dsimp only
  rw [if_pos ⟨rfl, Nat.toDigits_ne_nil, Nat.toDigits_ne_nil, all_isDigit_toDigits _⟩,
    Json.digitsValue_toDigits, Json.digitsValue_toDigits, hone, ← hparts]
  push_cast
  ring_nf

/-- A number, a space and the name of a unit are read as an amount. -/
theorem ofText?_eq {text : String} (htext : text.toList = number ++ ' ' :: name)
    (hnumber : ' ' ∉ number)
    (hdecimal : Amount.decimal? number = some d) (hunit : Amount.units.lookup name = some unit) :
    Amount.ofText? text = some ⟨d, unit⟩ := by
  have hall : ∀ c ∈ number, decide (c ≠ ' ') = true :=
    fun c hc => decide_eq_true fun heq => hnumber (heq ▸ hc)
  rw [Amount.ofText?, htext, List.takeWhile_append_of_pos hall, List.dropWhile_append_of_pos hall,
    List.takeWhile_cons_of_neg (by decide), List.dropWhile_cons_of_neg (by decide), List.append_nil,
    List.drop_one, List.tail_cons, hdecimal, hunit]
  rfl

/-! ## What is shown for a count -/

/-- The unit for a count: the greatest one that the count reaches, or the byte. -/
def unitOf (n : ℕ) : ℕ :=
  if n < 1024 then 1 else if n < 1024 * 1024 then 1024 else 1024 * 1024

/-- Counts below two to the 53 have no more than 53 digits to begin with. -/
theorem roundSignificant_of_lt (h : n < 2 ^ 53) : roundSignificant n = n := by
  have hexcess : n.log2 - 52 = 0 := by
    by_cases hn : n = 0
    · subst hn
      rfl
    · have := (Nat.log2_lt hn).2 h
      omega
  rw [roundSignificant, hexcess]
  exact (Nat.mul_one _).trans (roundHalfEven_one n)

/-- Whether a number of tenths is the one nearest to another number; of two, it is the one whose last
    digit is even. -/
def IsNearestTenth (q d : ℚ) : Prop :=
  ∃ tenths : ℕ, d = tenths / 10 ∧ IsNearest (10 * q) tenths

namespace IsNearestTenth

variable {q q' e : ℚ}

/-- The nearest tenths are in the order of what they are near to. -/
theorem le (h : IsNearestTenth q d) (h' : IsNearestTenth q' e) (hq : q ≤ q') : d ≤ e := by
  obtain ⟨tenths, rfl, hnearest⟩ := h
  obtain ⟨tenths', rfl, hnearest'⟩ := h'
  have hle : tenths ≤ tenths' := hnearest.le hnearest' (by linarith)
  gcongr

/-- A number of tenths is wrong by at most half of a tenth. -/
theorem abs_sub_le (h : IsNearestTenth q d) : |d - q| ≤ 1 / 20 := by
  obtain ⟨tenths, rfl, hnearest⟩ := h
  have hnear := abs_le.1 hnearest.near
  rw [abs_le]
  constructor <;> linarith

end IsNearestTenth

/-- A natural number is a number of tenths itself. -/
theorem isNearestTenth_natCast (k : ℕ) : IsNearestTenth k k := by
  refine ⟨10 * k, ?_, ?_⟩
  · push_cast
    ring
  · have := isNearest_natCast (10 * k)
    push_cast at this ⊢
    exact this

/-- A count in units is shown as a number of tenths. -/
theorem ofText?_unitText (unit : ℕ) (name : String) (h : n < 2 ^ 53) (hpos : 0 < unit)
    (hunit : Amount.units.lookup name.toList = some unit) :
    ∃ d, Amount.ofText? (unitText n unit name) = some ⟨d, unit⟩ ∧ IsNearestTenth (n / unit) d := by
  obtain ⟨tenths, htenths⟩ : ∃ tenths, tenths = roundHalfEven (10 * n) unit := ⟨_, rfl⟩
  have htext : (unitText n unit name).toList = (tenthsText tenths).toList ++ ' ' :: name.toList := by
    rw [unitText, roundSignificant_of_lt h, ← htenths]
    simp
  have hspace : ' ' ∉ (tenthsText tenths).toList := by
    simp [tenthsText, Json.notMem_toDigits]
  refine ⟨tenths / 10, ofText?_eq htext hspace (decimal?_tenthsText tenths) hunit, tenths, rfl, ?_⟩
  have hnearest := isNearest_roundHalfEven (10 * n) hpos
  rwa [← htenths, Nat.cast_mul, mul_div_assoc] at hnearest

theorem lt_pow_mul (h : n < 2 ^ 53) {k : ℕ} (hk : 53 ≤ k) : n < Nat.pow 2 k * (1024 * 1024) :=
  calc n < 2 ^ 53 := h
    _ ≤ 2 ^ k := Nat.pow_le_pow_right (by decide) hk
    _ ≤ Nat.pow 2 k * (1024 * 1024) := Nat.le_mul_of_pos_right _ (by decide)

/-- The text of a count names a number of the units for the count. The number is the quotient,
    rounded. -/
theorem exists_sizeText (h : n < 2 ^ 53) : ∃ text d, sizeText? n = some text ∧
    Amount.ofText? text = some ⟨d, unitOf n⟩ ∧ IsNearestTenth (n / unitOf n) d ∧
      (unitOf n = 1 → d = n) := by
  rw [sizeText?, unitOf]
  dsimp only
  rw [Int.toNat_natCast]
  by_cases hbytes : n < 1024
  · rw [if_pos (by omega), if_pos hbytes]
    have htext : (toString (n : ℤ) ++ " B").toList = Nat.toDigits 10 n ++ ' ' :: ['B'] := by
      rw [String.toList_append, Json.toList_toString_int, if_neg (by omega)]
      rfl
    refine ⟨_, n, rfl, ofText?_eq htext (Json.notMem_toDigits rfl n) (decimal?_toDigits n) rfl, ?_,
      fun _ => rfl⟩
    rw [Nat.cast_one, div_one]
    exact isNearestTenth_natCast n
  · rw [if_neg (by omega), if_neg hbytes]
    by_cases hkilo : n < 1024 * 1024
    · rw [if_pos hkilo, if_pos hkilo]
      obtain ⟨d, htext, hnearest⟩ := ofText?_unitText 1024 "KB" h (by decide) rfl
      exact ⟨_, d, rfl, htext, hnearest, fun hone => absurd hone (by decide)⟩
    · rw [if_neg hkilo, if_neg hkilo, roundSignificant_of_lt h]
      split
      · obtain ⟨d, htext, hnearest⟩ := ofText?_unitText (1024 * 1024) "MB" h (by decide) rfl
        exact ⟨_, d, rfl, htext, hnearest, fun hone => absurd hone (by decide)⟩
      · next hlarge => exact absurd (lt_pow_mul h (by decide)) hlarge

/-! ## The order of what is shown -/

theorem unitOf_mem (n : ℕ) : unitOf n ∈ [1, 1024, 1024 * 1024] := by
  rw [unitOf]
  split_ifs <;> decide

theorem unitOf_pos (n : ℕ) : 0 < unitOf n := by
  rw [unitOf]
  split_ifs <;> decide

/-- No other unit is nearer to the count from below. -/
theorem le_unitOf (n : ℕ) : ∀ u ∈ [1, 1024, 1024 * 1024], u ≤ n → u ≤ unitOf n := by
  rw [unitOf]
  split_ifs <;> simp <;> omega

/-- A count with a greater unit than another one reaches it, and the other one does not. -/
theorem unitOf_cases (h : n ≤ m) : unitOf n = unitOf m ∨
    unitOf n ∣ unitOf m ∧ n ≤ unitOf m ∧ unitOf m ≤ m := by
  rw [unitOf, unitOf]
  split_ifs <;> first | exact .inl rfl | omega

/-- The amounts that are shown are in the same order as the counts. -/
theorem amount_le {e : ℚ} (h : n ≤ m) (hd : IsNearestTenth (n / unitOf n) d)
    (he : IsNearestTenth (m / unitOf m) e) :
    d * unitOf n ≤ e * unitOf m := by
  have hle : (n : ℚ) ≤ m := by exact_mod_cast h
  rcases unitOf_cases h with hunit | ⟨⟨k, hk⟩, hbelow, habove⟩
  · rw [← hunit] at he ⊢
    have : d ≤ e := hd.le he (by gcongr)
    gcongr
  · -- The greater unit is a whole number of the smaller ones, and stands between what is shown for
    -- the two.
    have hpos (n : ℕ) : (0 : ℚ) < unitOf n := by exact_mod_cast unitOf_pos n
    have hdk : d ≤ k := by
      refine hd.le (isNearestTenth_natCast k) ?_
      rw [div_le_iff₀ (hpos n), mul_comm]
      exact_mod_cast hk ▸ hbelow
    have hone : ((1 : ℕ) : ℚ) ≤ e := by
      refine (isNearestTenth_natCast 1).le he ?_
      rw [le_div_iff₀ (hpos m), Nat.cast_one, one_mul]
      exact_mod_cast habove
    calc d * unitOf n ≤ k * unitOf n := by gcongr
      _ = unitOf m := by rw [hk, Nat.cast_mul, mul_comm]
      _ ≤ e * unitOf m := le_mul_of_one_le_left (hpos m).le (by exact_mod_cast hone)

/-- The text of every count below two to the 53 names a number of one of three units. The number is
    the quotient of the count and the unit rounded to tenths, a tie to the even one; so the amount is
    wrong by at most half of a tenth of the unit, and a number of bytes is not wrong at all. The unit
    is the greatest that the count reaches. A greater count is never shown as a smaller amount. -/
theorem sizeText_rounded :
    (∀ n : ℕ, n < 2 ^ 53 → ∃ text a, sizeText? n = some text ∧ Amount.ofText? text = some a ∧
      a.unit ∈ [1, 1024, 1024 * 1024] ∧ (∀ unit ∈ [1, 1024, 1024 * 1024], unit ≤ n → unit ≤ a.unit) ∧
      |a.bytes - n| ≤ a.unit / 20 ∧ (a.unit = 1 → a.number = n) ∧
      IsNearestTenth (n / a.unit) a.number) ∧
    ∀ (n m : ℕ) (text text' : String) (a b : Amount), n ≤ m → m < 2 ^ 53 → sizeText? n = some text →
      sizeText? m = some text' → Amount.ofText? text = some a → Amount.ofText? text' = some b →
      a.bytes ≤ b.bytes := by
  refine ⟨fun n h => ?_, fun n m text text' a b h hm hn' hm' ha hb => ?_⟩
  · obtain ⟨text, d, htext, hread, hnearest, hone⟩ := exists_sizeText h
    refine ⟨text, ⟨d, unitOf n⟩, htext, hread, unitOf_mem n, le_unitOf n, ?_, hone, hnearest⟩
    have hpos : (0 : ℚ) < unitOf n := by exact_mod_cast unitOf_pos n
    -- The amount and the count differ by as many units as the number and the quotient.
    have hdiff : Amount.bytes ⟨d, unitOf n⟩ - n = (d - n / unitOf n) * unitOf n := by
      rw [Amount.bytes, sub_mul, div_mul_cancel₀ _ hpos.ne']
    rw [hdiff, abs_mul, abs_of_pos hpos]
    calc |d - n / unitOf n| * unitOf n ≤ 1 / 20 * unitOf n := by gcongr; exact hnearest.abs_sub_le
      _ = unitOf n / 20 := by ring
  · obtain ⟨s, d, hs, hd, hnearest, -⟩ := exists_sizeText (h.trans_lt hm)
    obtain ⟨t, e, ht, he, hnearest', -⟩ := exists_sizeText hm
    obtain rfl := Option.some.inj (hs.symm.trans hn')
    obtain rfl := Option.some.inj (ht.symm.trans hm')
    obtain rfl := Option.some.inj (hd.symm.trans ha)
    obtain rfl := Option.some.inj (he.symm.trans hb)
    exact amount_le h hnearest hnearest'

/-- A tie, which goes down, and the two counts between which the unit changes. -/
theorem sizeText_rounded_of_tie :
    (1280 : ℕ) < 2 ^ 53 ∧ (1048576 : ℕ) < 2 ^ 53 ∧
      sizeText? 1280 = some "1.2 KB" ∧ Amount.ofText? "1.2 KB" = some ⟨12 / 10, 1024⟩ ∧
      |Amount.bytes ⟨12 / 10, 1024⟩ - (1280 : ℕ)| ≤ 1024 / 20 ∧
      sizeText? 1048575 = some "1024.0 KB" ∧ sizeText? 1048576 = some "1.0 MB" ∧
      Amount.bytes ⟨10240 / 10, 1024⟩ ≤ Amount.bytes ⟨10 / 10, 1048576⟩ := by
  have hsmall : (1280 : ℕ) < 2 ^ 53 := by norm_num
  have hlast : (1048576 : ℕ) < 2 ^ 53 := by norm_num
  have htext : sizeText? 1280 = some "1.2 KB" := by decide +kernel
  have hamount : Amount.ofText? "1.2 KB" = some ⟨12 / 10, 1024⟩ := by decide +kernel
  have hkilo : sizeText? 1048575 = some "1024.0 KB" := by decide +kernel
  have hmega : sizeText? 1048576 = some "1.0 MB" := by decide +kernel
  obtain ⟨text, a, hn, ha, -, -, hnear, -⟩ := sizeText_rounded.1 1280 hsmall
  obtain rfl := Option.some.inj (hn.symm.trans htext)
  obtain rfl := Option.some.inj (ha.symm.trans hamount)
  exact ⟨hsmall, hlast, htext, hamount, hnear, hkilo, hmega,
    sizeText_rounded.2 1048575 1048576 _ _ _ _ (by norm_num) hlast hkilo hmega (by decide +kernel)
      (by decide +kernel)⟩

end BundleManifest.Report
