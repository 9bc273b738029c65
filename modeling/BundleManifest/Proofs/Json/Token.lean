import BundleManifest.Json.Printer
import BundleManifest.Json.Reader
import BundleManifest.Proofs.Text.Utf16

/-!
# Reading strings and integers back

What is written of a string or an integer is read as the same string or integer, whatever comes behind
it, and whether or not characters outside ASCII are escaped.

A character is written as itself, as an escape of one letter, or as one or two escapes with four
digits each (`charText_cases`), and the reader tells these apart by their first characters. Of two
escapes, the reader looks at the second one only if the first is half of a pair, which no character is
on its own.

* `stringFrom_charText`: a character is read back from the way it is written;
* `stringFrom_stringText`: so is a string;
* `scalar_int`: so is an integer, unless it has too many digits or a text behind it that goes on with
  it.
-/

namespace BundleManifest.Json

variable {ascii : Bool} {opening acc rest : List Char} {c d : Char} {n : Nat}

/-! ## Characters -/

theorem hexDigit?_hexDigit : ∀ n < 16, hexDigit? (Text.hexDigit n) = some n := by
  decide

/-- Four hexadecimal digits are read as the number that they are written for. -/
theorem unit?_hex (hn : n < 0x10000) : unit? (Text.hex 4 n ++ d :: rest) = some n := by
  simp only [Text.hex, List.nil_append, List.cons_append, unit?]
  rw [hexDigit?_hexDigit _ (Nat.mod_lt _ (by decide)),
    hexDigit?_hexDigit _ (Nat.mod_lt _ (by decide)),
    hexDigit?_hexDigit _ (Nat.mod_lt _ (by decide)), hexDigit?_hexDigit _ (Nat.mod_lt _ (by decide))]
  simp only [Option.bind_eq_bind, Option.bind_some, Option.pure_def, Option.some.injEq]
  omega

theorem drop_hex (n : Nat) (tail : List Char) : (Text.hex 4 n ++ tail).drop 4 = tail :=
  List.drop_left' (Text.length_hex 4 n)

/-- Surrogates apart, an escape for a unit is read as the character with this unit. -/
theorem stringFrom_unitEscape (hn : n < 0x10000) (hhigh : isHigh n = false) (hlow : isLow n = false) :
    stringFrom opening acc (unitEscape n ++ d :: rest) =
      stringFrom opening (Char.ofNat n :: acc) (d :: rest) := by
  rw [unitEscape, List.cons_append, List.cons_append, stringFrom]
  simp only [Char.reduceEq, if_false, if_true, unit?_hex hn, hhigh, Bool.false_eq_true, drop_hex,
    unitChar, hlow, Bool.or_self]

/-- The escapes for the two halves of a pair are read as one character. -/
theorem stringFrom_pair {high low : Nat} (hhigh : isHigh high = true) (hlow : isLow low = true) :
    stringFrom opening acc (unitEscape high ++ (unitEscape low ++ d :: rest)) =
      stringFrom opening (pairChar high low :: acc) (d :: rest) := by
  have hhigh' : high < 0x10000 := by have := Utf16.isHigh_iff.1 hhigh; omega
  have hlow' : low < 0x10000 := by have := Utf16.isLow_iff.1 hlow; omega
  -- The second escape is what the first one wants behind it.
  have hunit : unit? (Text.hex 4 high ++ (unitEscape low ++ d :: rest)) = some high :=
    unit?_hex hhigh'
  have hpartner : partner? (unitEscape low ++ d :: rest) = some low := by
    rw [unitEscape, List.cons_append, List.cons_append, partner?, unit?_hex hlow',
      Option.filter_some, hlow, if_pos rfl]
  have hdrop : (Text.hex 4 high ++ (unitEscape low ++ d :: rest)).drop 10 = d :: rest := by
    rw [← List.append_assoc]
    exact List.drop_left' (by simp [unitEscape])
  rw [unitEscape, List.cons_append, List.cons_append, stringFrom]
  simp only [Char.reduceEq, if_false, if_true, hunit, hhigh, drop_hex, hpartner, hdrop]

/-- An escape of one letter is read as the character that it is for. -/
theorem stringFrom_letter {e : Char} (h : letterEscape? e = some c) :
    stringFrom opening acc ('\\' :: e :: rest) = stringFrom opening (c :: acc) rest := by
  have hu : e ≠ 'u' := by
    rintro rfl
    cases h
  rw [stringFrom]
  simp only [Char.reduceEq, if_false, if_true, hu, h]

/-- A character is written in one of four ways: as an escape of one letter, as an escape for its unit,
    as itself, or as two escapes for the halves of a pair. -/
theorem charText_cases (ascii : Bool) (c : Char) :
    (∃ e, letterEscape? e = some c ∧ charText ascii c = ['\\', e]) ∨
      (c.toNat < 0x10000 ∧ charText ascii c = unitEscape c.toNat) ∨
      (c ≠ '"' ∧ c ≠ '\\' ∧ 0x20 ≤ c.toNat ∧ charText ascii c = [c]) ∨
      (0x10000 ≤ c.toNat ∧ charText ascii c = unitEscape (0xD800 + (c.toNat - 0x10000) / 0x400) ++
        unitEscape (0xDC00 + (c.toNat - 0x10000) % 0x400)) := by
  by_cases hletter : c ∈ ['"', '\\', '\n', '\r', '\t', '\x08', '\x0C']
  · left
    simp only [List.mem_cons, List.not_mem_nil, or_false] at hletter
    obtain rfl | rfl | rfl | rfl | rfl | rfl | rfl := hletter
    exacts [⟨'"', rfl, rfl⟩, ⟨'\\', rfl, rfl⟩, ⟨'n', rfl, rfl⟩, ⟨'r', rfl, rfl⟩, ⟨'t', rfl, rfl⟩,
      ⟨'b', rfl, rfl⟩, ⟨'f', rfl, rfl⟩]
  · simp only [List.mem_cons, List.not_mem_nil, or_false, not_or] at hletter
    obtain ⟨hquote, hbackslash, hfeed, hreturn, htab, hback, hform⟩ := hletter
    rw [charText, if_neg hquote, if_neg hbackslash, if_neg hfeed, if_neg hreturn, if_neg htab,
      if_neg hback, if_neg hform]
    dsimp only
    right
    split
    · exact .inl ⟨by omega, rfl⟩
    · split
      · exact .inr (.inl ⟨hquote, hbackslash, by omega, rfl⟩)
      · split
        · next hshort => exact .inl ⟨hshort, rfl⟩
        · next hlong => exact .inr (.inr ⟨by omega, rfl⟩)

/-- A character is read back from the way it is written. -/
theorem stringFrom_charText (ascii : Bool) (c : Char) :
    stringFrom opening acc (charText ascii c ++ d :: rest) =
      stringFrom opening (c :: acc) (d :: rest) := by
  obtain ⟨e, he, htext⟩ | ⟨hshort, htext⟩ | ⟨hquote, hbackslash, hcontrol, htext⟩ | ⟨hlong, htext⟩ :=
    charText_cases ascii c <;> rw [htext]
  · exact stringFrom_letter he
  · obtain ⟨hhigh, hlow⟩ := Utf16.not_surrogate c
    rw [stringFrom_unitEscape hshort hhigh hlow, Char.ofNat_toNat]
  · rw [List.singleton_append, stringFrom, if_neg hquote, if_neg hbackslash, if_neg (by omega)]
  · have hlt : c.toNat < 0x110000 := by
      have hvalid : c.toNat < 0xD800 ∨ 0xDFFF < c.toNat ∧ c.toNat < 0x110000 := c.valid
      omega
    rw [List.append_assoc,
      stringFrom_pair (Utf16.isHigh_iff.2 (by omega)) (Utf16.isLow_iff.2 (by omega)), pairChar,
      show 0x10000 + (0xD800 + (c.toNat - 0x10000) / 0x400 - 0xD800) * 0x400 +
        (0xDC00 + (c.toNat - 0x10000) % 0x400 - 0xDC00) = c.toNat by omega, Char.ofNat_toNat]

/-- A string ends with a quote. -/
theorem stringFrom_quote :
    stringFrom opening acc ('"' :: rest) = .ok (String.ofList acc.reverse, rest) := by
  rw [stringFrom.eq_def]
  rfl

/-- The characters of a string are read back, up to the quote behind them. -/
theorem stringFrom_flatMap (ascii : Bool) (text : List Char) :
    stringFrom opening acc (text.flatMap (charText ascii) ++ '"' :: rest) =
      .ok (String.ofList (acc.reverse ++ text), rest) := by
  -- By induction on the characters, with those read so far left open.
  induction text generalizing acc with
  | nil => rw [List.flatMap_nil, List.nil_append, stringFrom_quote, List.append_nil]
  | cons c text ih =>
    -- What comes behind a character is never empty, for the closing quote comes at last.
    obtain ⟨d, behind, hbehind⟩ : ∃ d behind,
        text.flatMap (charText ascii) ++ '"' :: rest = d :: behind :=
      List.exists_cons_of_ne_nil (by simp)
    rw [List.flatMap_cons, List.append_assoc, hbehind, stringFrom_charText, ← hbehind, ih,
      List.reverse_cons, List.append_assoc, List.singleton_append]

/-- A string is read back from the way it is written. -/
theorem stringFrom_stringText (ascii : Bool) (s : String) (rest : List Char) :
    stringFrom opening [] (s.toList.flatMap (charText ascii) ++ '"' :: rest) = .ok (s, rest) := by
  rw [stringFrom_flatMap, List.reverse_nil, List.nil_append, String.ofList_toList]

/-! ## Integers -/

/-- Whether a text begins with something that cannot belong to a number before it. -/
def EndsNumber (rest : List Char) : Prop :=
  ∀ c, rest.head? = some c → c.isDigit = false ∧ c ≠ '.' ∧ c ≠ 'e' ∧ c ≠ 'E'

/-- A number is the value of its digits. -/
theorem digitsValue_toDigits (n : Nat) : digitsValue (Nat.toDigits 10 n) = n := by
  have hvalue : digitsValue (Nat.toDigits 10 n) = Nat.ofDigitChars 10 (Nat.toDigits 10 n) 0 := by
    rw [digitsValue, Nat.ofDigitChars_eq_foldl]
    congr
    funext value c
    rw [Nat.mul_comm]
  rw [hvalue, Nat.ofDigitChars_ten_toDigits]

/-- The digits of a number begin with a zero only if the number is zero. -/
theorem eq_zero_of_head?_toDigits {n : Nat} (h : (Nat.toDigits 10 n).head? = some '0') : n = 0 := by
  induction n using Nat.strongRecOn with
  | ind n ih =>
    by_cases hn : n < 10
    · rw [Nat.toDigits_of_lt_base hn] at h
      have hone : ∀ d < 10, [Nat.digitChar d].head? = some '0' → d = 0 := by decide
      exact hone n hn h
    · -- The digits before the last one are those of a smaller number.
      rw [Nat.toDigits_of_base_le (by decide) (by omega),
        List.head?_append_of_ne_nil _ Nat.toDigits_ne_nil] at h
      have := ih (n / 10) (by omega) h
      omega

theorem exists_toDigits_cons (n : Nat) :
    ∃ d more, Nat.toDigits 10 n = d :: more ∧ d.isDigit = true := by
  obtain ⟨d, more, hdigits⟩ := List.exists_cons_of_ne_nil (Nat.toDigits_ne_nil (b := 10) (n := n))
  exact ⟨d, more, hdigits,
    Nat.isDigit_of_mem_toDigits (by decide) (by decide) (hdigits ▸ List.mem_cons_self)⟩

theorem notMem_toDigits (hc : c.isDigit = false) (n : Nat) : c ∉ Nat.toDigits 10 n := by
  intro h
  rw [Nat.isDigit_of_mem_toDigits (by decide) (by decide) h] at hc
  exact Bool.noConfusion hc

/-- The digits of a number are all that is read of it. -/
theorem takeWhile_toDigits (n : Nat) (hrest : EndsNumber rest) :
    (Nat.toDigits 10 n ++ rest).takeWhile Char.isDigit = Nat.toDigits 10 n := by
  have hnone : rest.takeWhile Char.isDigit = [] := by
    cases rest with
    | nil => rfl
    | cons c rest => exact List.takeWhile_cons_of_neg (by simp [(hrest c rfl).1])
  rw [List.takeWhile_append_of_pos fun c hc => Nat.isDigit_of_mem_toDigits (by decide)
    (by decide) hc, hnone, List.append_nil]

/-- Where a number ends no exponent follows. -/
theorem exponent?_of_endsNumber (hrest : EndsNumber rest) : exponent? rest = none := by
  cases rest with
  | nil => rfl
  | cons c rest =>
    obtain ⟨-, -, he, hE⟩ := hrest c rfl
    simp [exponent?, he, hE]

theorem fractionDigits_of_endsNumber (hrest : EndsNumber rest) : fractionDigits rest = [] := by
  rw [fractionDigits.eq_def]
  split
  · exact absurd rfl (hrest '.' rfl).2.1
  · rfl

/-- The digits of a number are all that is read as its digits before the point. -/
theorem wholeDigits_toDigits (n : Nat) (hrest : EndsNumber rest) :
    wholeDigits (Nat.toDigits 10 n ++ rest) = Nat.toDigits 10 n := by
  rw [wholeDigits, List.head?_append_of_ne_nil _ Nat.toDigits_ne_nil, takeWhile_toDigits n hrest]
  split
  · next hzero =>
    rw [eq_zero_of_head?_toDigits hzero]
    rfl
  · rfl

/-- An integer is read from its digits. -/
theorem numberFrom_toDigits {limit : Option Nat} (negative : Bool) (s : List Char) (n : Nat)
    (hlimit : tooLong limit (Nat.toDigits 10 n).length = false) (hrest : EndsNumber rest) :
    numberFrom limit negative s (Nat.toDigits 10 n ++ rest) =
      .ok (.int (if negative then -n else n), rest) := by
  have hdigits : (Nat.toDigits 10 n).isEmpty = false := by
    simp [Nat.toDigits_ne_nil]
  simp only [numberFrom, wholeDigits_toDigits n hrest, hdigits, Bool.false_eq_true, if_false,
    List.drop_left,
    fractionDigits_of_endsNumber hrest, List.isEmpty_nil, if_true,
    exponent?_of_endsNumber hrest, hlimit, digitsValue_toDigits]

/-- The text of an integer: a sign, if the integer is negative, and the digits of its absolute
    value. -/
theorem toList_toString_int (n : Int) :
    (toString n).toList = (if n < 0 then ['-'] else []) ++ Nat.toDigits 10 n.natAbs := by
  cases n with
  | ofNat n =>
    have hsign : ¬ Int.ofNat n < 0 := by simp
    rw [if_neg hsign, List.nil_append]
    exact Nat.toList_repr
  | negSucc n =>
    rw [if_pos (Int.negSucc_lt_zero n)]
    show ("-" ++ Nat.repr (n + 1)).toList = _
    rw [String.toList_append, Nat.toList_repr]
    rfl

/-- An integer is read back from the way it is written. -/
theorem scalar_int {limit : Option Nat} (n : Int)
    (hlimit : tooLong limit (Nat.toDigits 10 n.natAbs).length = false) (hrest : EndsNumber rest) :
    scalar limit ((toString n).toList ++ rest) = .ok (.int n, rest) := by
  obtain ⟨d, more, hdigits, hdigit⟩ := exists_toDigits_cons n.natAbs
  -- Neither a digit nor a sign with a digit behind it begins a word.
  have hne : ∀ c, c.isDigit = false → c ≠ d := by
    rintro c hc rfl
    rw [hdigit] at hc
    cases hc
  have hwords : words.find? (fun p => p.1.toList.isPrefixOf ((toString n).toList ++ rest)) =
      none := by
    rw [toList_toString_int, hdigits]
    split <;> simp [words, List.isPrefixOf, hne]
  rw [scalar, hwords]
  dsimp only
  rw [toList_toString_int]
  split
  · next hneg =>
    rw [List.append_assoc, List.singleton_append, number, numberFrom_toDigits _ _ _ hlimit hrest]
    simp only [if_true]
    congr
    omega
  · next hneg =>
    rw [List.nil_append, number, numberFrom_toDigits _ _ _ hlimit hrest]
    · simp only [Bool.false_eq_true, if_false]
      congr
      omega
    · rintro body hbody
      rw [hdigits] at hbody
      cases hbody
      cases hdigit

end BundleManifest.Json
