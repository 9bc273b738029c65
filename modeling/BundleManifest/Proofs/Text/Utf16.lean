import BundleManifest.Text.Utf16
import Mathlib.Data.List.Basic

/-!
# Texts and their units

A list of units is the form of some text in UTF-16 exactly when no surrogate in it is *unpaired*
(`Utf16.Unpaired`), and then of one text only.

Reading goes from left to right and takes one unit or two. A surrogate is unpaired by where it stands,
and the positions shift by one or two with every step; `forall_not_unpaired_cons` and
`forall_not_unpaired_pair` say what becomes of the condition then. The rest is arithmetic on the two
halves of a pair, each of which carries ten bits.

* `Utf16.isSome_decode?_iff`: the units can be read if no surrogate is unpaired;
* `Utf16.units_of_decode?`, `Utf16.decode?_units`: reading undoes the writing of texts, and writing
  the reading of units.
-/

namespace BundleManifest.Utf16

/-- The first half of a pair stands at a place of a list of units with no second half behind it, or a
    second half stands there with no first half before it. -/
def Unpaired (w : List Nat) (i : Nat) : Prop :=
  ∃ u, w[i]? = some u ∧
    ((isHigh u = true ∧ ∀ v, w[i + 1]? = some v → isLow v = false) ∨
      (isLow u = true ∧ ∀ j v, i = j + 1 → w[j]? = some v → isHigh v = false))

/-! ## Surrogates -/

theorem isHigh_iff {u : Nat} : isHigh u = true ↔ 0xD800 ≤ u ∧ u < 0xDC00 := by
  simp [isHigh]

theorem isLow_iff {u : Nat} : isLow u = true ↔ 0xDC00 ≤ u ∧ u < 0xE000 := by
  simp [isLow]

/-- No unit is both a first and a second one. -/
theorem not_isLow_of_isHigh {u : Nat} (h : isHigh u = true) : isLow u = false := by
  have := isHigh_iff.1 h
  rw [Bool.eq_false_iff, Ne, isLow_iff]
  omega

theorem not_isHigh_of_isLow {u : Nat} (h : isLow u = true) : isHigh u = false := by
  have := isLow_iff.1 h
  rw [Bool.eq_false_iff, Ne, isHigh_iff]
  omega

/-- No character is a surrogate. -/
theorem not_surrogate (c : Char) : isHigh c.toNat = false ∧ isLow c.toNat = false := by
  have hvalid : c.toNat < 0xD800 ∨ 0xDFFF < c.toNat ∧ c.toNat < 0x110000 := c.valid
  rw [Bool.eq_false_iff, Bool.eq_false_iff, Ne, Ne, isHigh_iff, isLow_iff]
  omega

/-! ## Unpaired surrogates -/

section Unpaired

variable {u v : Nat} {w : List Nat} {i : Nat}

theorem not_unpaired_nil : ¬Unpaired [] i := by
  rintro ⟨u, hu, -⟩
  simp at hu

/-- Away from the first two units, the first one does not matter. -/
theorem unpaired_cons_succ : Unpaired (u :: w) (i + 2) ↔ Unpaired w (i + 1) := by
  simp only [Unpaired, List.getElem?_cons_succ]
  refine exists_congr fun x => and_congr_right fun _ => or_congr_right (and_congr_right fun _ => ?_)
  constructor
  · intro h j v hj hv
    exact h (j + 1) v (by omega) hv
  · rintro h (_ | j) v hj hv
    · omega
    · exact h j v (by omega) hv

/-- A unit that is no first half does not matter for what comes behind it. -/
theorem unpaired_cons (hu : isHigh u = false) : Unpaired (u :: w) (i + 1) ↔ Unpaired w i := by
  cases i with
  | succ i => exact unpaired_cons_succ
  | zero =>
    simp only [Unpaired, List.getElem?_cons_succ]
    refine exists_congr fun x => and_congr_right fun _ => or_congr_right (and_congr_right fun _ => ?_)
    refine ⟨fun _ j v hj => by omega, fun _ j v hj hv => ?_⟩
    obtain rfl : j = 0 := by omega
    rwa [← Option.some.inj hv]

/-- No surrogate is unpaired in front of which stands a unit that is no surrogate, if none is without
    this unit. -/
theorem forall_not_unpaired_cons (hhigh : isHigh u = false) (hlow : isLow u = false) :
    (∀ i, ¬Unpaired (u :: w) i) ↔ ∀ i, ¬Unpaired w i := by
  refine ⟨fun h i hi => h (i + 1) ((unpaired_cons hhigh).2 hi), fun h i hi => ?_⟩
  cases i with
  | succ i => exact h i ((unpaired_cons hhigh).1 hi)
  | zero =>
    obtain ⟨x, hx, ⟨hx', -⟩ | ⟨hx', -⟩⟩ := hi <;> obtain rfl := Option.some.inj hx <;> simp_all

/-- A pair does not matter for what comes behind it. -/
theorem forall_not_unpaired_pair (hu : isHigh u = true) (hv : isLow v = true) :
    (∀ i, ¬Unpaired (u :: v :: w) i) ↔ ∀ i, ¬Unpaired w i := by
  have hv' := not_isHigh_of_isLow hv
  have hrest : ∀ i, Unpaired (u :: v :: w) (i + 2) ↔ Unpaired w i := fun i =>
    unpaired_cons_succ.trans (unpaired_cons hv')
  refine ⟨fun h i hi => h (i + 2) ((hrest i).2 hi), fun h i hi => ?_⟩
  -- Each half of the pair is what the other one needs.
  match i with
  | i + 2 => exact h i ((hrest i).1 hi)
  | 0 =>
    obtain ⟨x, hx, ⟨-, hbehind⟩ | ⟨hx', -⟩⟩ := hi <;> obtain rfl := Option.some.inj hx
    · rw [hbehind v rfl] at hv
      cases hv
    · rw [not_isLow_of_isHigh hu] at hx'
      cases hx'
  | 1 =>
    obtain ⟨x, hx, ⟨hx', -⟩ | ⟨-, hbefore⟩⟩ := hi <;> obtain rfl := Option.some.inj hx
    · rw [hv'] at hx'
      cases hx'
    · rw [hbefore 0 u rfl rfl] at hu
      cases hu

end Unpaired

/-! ## Reading, unit by unit -/

section Reading

variable {u v : Nat} {w : List Nat}

theorem decode?_pair (hu : isHigh u = true) (hv : isLow v = true) : decode? (u :: v :: w) =
    (decode? w).map (Char.ofNat (0x10000 + (u - 0xD800) * 0x400 + (v - 0xDC00)) :: ·) := by
  rw [decode?, if_pos hu, if_pos hv]

/-- A first unit without a second one cannot be read. -/
theorem decode?_of_isHigh (hu : isHigh u = true) (h : ∀ v, w.head? = some v → isLow v = false) :
    decode? (u :: w) = none := by
  cases w with
  | nil => rw [decode?, if_pos hu]
  | cons v w => rw [decode?, if_pos hu, if_neg (by simp [h v rfl])]

theorem decode?_of_isLow (hu : isLow u = true) : decode? (u :: w) = none := by
  have hhigh := not_isHigh_of_isLow hu
  cases w <;> rw [decode?, if_neg (by simp [hhigh]), if_pos hu]

theorem decode?_cons (hhigh : isHigh u = false) (hlow : isLow u = false) :
    decode? (u :: w) = (decode? w).map (Char.ofNat u :: ·) := by
  cases w with
  | nil => simp [decode?, hhigh, hlow]
  | cons v w => rw [decode?, if_neg (by simp [hhigh]), if_neg (by simp [hlow])]

end Reading

/-- Units can be read as a text if no surrogate in them is unpaired. -/
theorem isSome_decode?_iff (w : List Nat) :
    (decode? w).isSome = true ↔ ∀ i, ¬Unpaired w i := by
  induction w using decode?.induct with
  | case1 => exact iff_of_true rfl fun i => not_unpaired_nil
  | case2 u hu v rest hv ih =>
    rw [decode?_pair hu hv, Option.isSome_map, ih, forall_not_unpaired_pair hu hv]
  | case3 u hu v rest hv =>
    have hbehind : ∀ v', (v :: rest).head? = some v' → isLow v' = false := fun v' hv' => by
      rw [← Option.some.inj hv']
      exact Bool.eq_false_iff.2 hv
    rw [decode?_of_isHigh hu hbehind]
    exact iff_of_false Bool.false_ne_true fun h => h 0 ⟨u, rfl, .inl ⟨hu, hbehind⟩⟩
  | case4 u hu =>
    rw [decode?_of_isHigh hu (by simp)]
    exact iff_of_false Bool.false_ne_true fun h => h 0 ⟨u, rfl, .inl ⟨hu, by simp⟩⟩
  | case5 u rest hu hlow =>
    rw [decode?_of_isLow hlow]
    exact iff_of_false Bool.false_ne_true fun h =>
      h 0 ⟨u, rfl, .inr ⟨hlow, fun j v hj => by omega⟩⟩
  | case6 u rest hu hlow ih =>
    rw [Bool.not_eq_true] at hu hlow
    rw [decode?_cons hu hlow, Option.isSome_map, ih, forall_not_unpaired_cons hu hlow]

/-! ## Reading and writing -/

/-- The character with a number that one has. -/
theorem toNat_ofNat {n : Nat} (h : n.isValidChar) : (Char.ofNat n).toNat = n := by
  rw [Char.ofNat, dif_pos h]
  rfl

theorem unitsOf_of_lt {code : Nat} (h : code < 0x10000) : unitsOf code = [code] :=
  if_pos h

/-- The two units of a code point that needs them are the halves of a pair. -/
theorem unitsOf_of_le {code : Nat} (h : 0x10000 ≤ code) (h' : code < 0x110000) :
    ∃ u v, unitsOf code = [u, v] ∧ isHigh u = true ∧ isLow v = true ∧
      0x10000 + (u - 0xD800) * 0x400 + (v - 0xDC00) = code := by
  refine ⟨_, _, if_neg (by omega), isHigh_iff.2 (by omega), isLow_iff.2 (by omega), by omega⟩

theorem units_cons (code : Nat) (codes : List Nat) :
    units (code :: codes) = unitsOf code ++ units codes :=
  List.flatMap_cons

theorem units_singleton (code : Nat) : units [code] = unitsOf code :=
  List.flatMap_singleton _ _

/-- The units of a text are read as the text. -/
theorem decode?_units (t : List Char) : decode? (units (t.map Char.toNat)) = some t := by
  induction t with
  | nil => rfl
  | cons c t ih =>
    have hvalid : c.toNat < 0xD800 ∨ 0xDFFF < c.toNat ∧ c.toNat < 0x110000 := c.valid
    rw [List.map_cons, units_cons]
    by_cases hc : c.toNat < 0x10000
    · obtain ⟨hhigh, hlow⟩ := not_surrogate c
      rw [unitsOf_of_lt hc, List.singleton_append, decode?_cons hhigh hlow, ih, Option.map_some,
        Char.ofNat_toNat]
    · have hle : 0x10000 ≤ c.toNat := Nat.le_of_not_lt hc
      obtain ⟨u, v, hunits, hu, hv, hcode⟩ := unitsOf_of_le hle (by omega)
      rw [hunits, List.cons_append, List.singleton_append, decode?_pair hu hv, ih, Option.map_some,
        hcode, Char.ofNat_toNat]

/-- Units that are read as a text are the units of the text. -/
theorem units_of_decode? {w : List Nat} {t : List Char} (hw : ∀ u ∈ w, u < 0x10000)
    (h : decode? w = some t) : units (t.map Char.toNat) = w := by
  induction w using decode?.induct generalizing t with
  | case1 =>
    obtain rfl := Option.some.inj h
    rfl
  | case2 u hu v rest hv ih =>
    rw [decode?_pair hu hv] at h
    obtain ⟨t, ht, rfl⟩ := Option.map_eq_some_iff.1 h
    have hrest := ih (fun x hx => hw x (by simp [hx])) ht
    have hu' := isHigh_iff.1 hu
    have hv' := isLow_iff.1 hv
    generalize hcode : 0x10000 + (u - 0xD800) * 0x400 + (v - 0xDC00) = code
    have hchar : (Char.ofNat code).toNat = code :=
      toNat_ofNat (.inr ⟨by omega, by omega⟩)
    have hfirst : 0xD800 + (code - 0x10000) / 0x400 = u := by omega
    have hsecond : 0xDC00 + (code - 0x10000) % 0x400 = v := by omega
    rw [List.map_cons, units_cons, hrest, hchar, unitsOf, if_neg (by omega), hfirst, hsecond]
    rfl
  | case3 u hu v rest hv =>
    rw [decode?_of_isHigh hu fun v' hv' => by
      rw [← Option.some.inj hv']
      exact Bool.eq_false_iff.2 hv] at h
    cases h
  | case4 u hu =>
    rw [decode?_of_isHigh hu (by simp)] at h
    cases h
  | case5 u rest hu hlow =>
    rw [decode?_of_isLow hlow] at h
    cases h
  | case6 u rest hu hlow ih =>
    rw [decode?_cons (Bool.eq_false_iff.2 hu) (Bool.eq_false_iff.2 hlow)] at h
    obtain ⟨t, ht, rfl⟩ := Option.map_eq_some_iff.1 h
    have hrest := ih (fun x hx => hw x (List.mem_cons_of_mem _ hx)) ht
    have hu' := hw u List.mem_cons_self
    rw [isHigh_iff] at hu
    rw [isLow_iff] at hlow
    have hchar : (Char.ofNat u).toNat = u := toNat_ofNat (by
      rw [Nat.isValidChar]
      omega)
    rw [List.map_cons, units_cons, hrest, hchar, unitsOf_of_lt hu']
    rfl

/-- The units of code points are units. -/
theorem lt_of_mem_units {codes : List Nat} (h : ∀ code ∈ codes, code < 0x110000) {u : Nat}
    (hu : u ∈ units codes) : u < 0x10000 := by
  obtain ⟨code, hcode, hu⟩ := List.mem_flatMap.1 hu
  have := h code hcode
  rw [unitsOf] at hu
  split at hu
  · obtain rfl := List.mem_singleton.1 hu
    assumption
  · simp only [List.mem_cons, List.not_mem_nil, or_false] at hu
    omega

end BundleManifest.Utf16
