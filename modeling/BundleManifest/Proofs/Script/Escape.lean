import BundleManifest.Script.Literal
import Mathlib.Data.Nat.Digits.Lemmas

/-!
# Escape sequences

An escape sequence of a string literal has one of a few forms (`Escape.Form`). Its value is computed
without a look at whether what is read as a number has digits, and whether the number is a code point;
here it is seen that this is always so.

In the end all forms have to be seen as the same thing: a text of digits, perhaps in brackets, that is
a number, and a bound on this number. For octal and hexadecimal digits the bound comes from how many
of them there are; only a `u` escape with brackets can go beyond the last code point, and then stands
for itself.

* `Escape.checkedValue?`: the value, if all numbers in it are numbers of code points;
* `Escape.checkedValue?_of_form`: for an escape sequence of one of the forms, they are;
* `Escape.Writes`: the ways to write a given code point, and `Escape.value_of_writes`, their value.
-/

namespace BundleManifest.Script.Escape

/-! ## Numbers -/

/-- The value of an octal digit. -/
def octalDigit? (c : Char) : Option Nat :=
  if isOctal c then some (c.toNat - '0'.toNat) else none

/-- The number with some digits, if there are any and all of them are digits. -/
def number? (base : Nat) (digit? : Char → Option Nat) (digits : List Char) : Option Nat :=
  if digits ≠ [] ∧ digits.all (fun c => (digit? c).isSome) = true then
    some (Nat.ofDigits base (digits.map fun c => (digit? c).getD 0).reverse)
  else none

variable {base n : Nat} {digit? : Char → Option Nat} {digits : List Char}

theorem isSome_number?_iff : (number? base digit? digits).isSome = true ↔
    digits ≠ [] ∧ ∀ c ∈ digits, (digit? c).isSome = true := by
  rw [number?, ← List.all_eq_true]
  split
  · next h => exact iff_of_true rfl h
  · next h => exact iff_of_false Bool.false_ne_true h

/-- Digits are a number. -/
theorem exists_number? (hne : digits ≠ []) (hdigits : ∀ c ∈ digits, (digit? c).isSome = true) :
    ∃ n, number? base digit? digits = some n :=
  Option.isSome_iff_exists.1 (isSome_number?_iff.2 ⟨hne, hdigits⟩)

/-- A number is the sum of its digits from the left, each with the weight of its place. -/
theorem eq_foldl_of_number? (h : number? base digit? digits = some n) :
    digits.foldl (fun n c => n * base + (digit? c).getD 0) 0 = n := by
  rw [number?] at h
  split at h
  · obtain rfl := Option.some.inj h
    rw [Nat.ofDigits_eq_foldr, List.foldr_reverse, List.foldl_map]
    congr 1
    funext n c
    exact (Nat.add_comm _ _).trans (congrArg _ (Nat.mul_comm _ _))
  · cases h

theorem hexNumber_of_number? (h : number? 16 hexDigit? digits = some n) : hexNumber digits = n :=
  eq_foldl_of_number? h

theorem octalNumber_of_number? (h : number? 8 octalDigit? digits = some n) :
    octalNumber digits = n := by
  rw [← eq_foldl_of_number? h, octalNumber]
  refine List.foldl_ext _ _ _ fun m c hc => ?_
  have hall := (isSome_number?_iff.1 (Option.isSome_of_mem h)).2 c hc
  rw [octalDigit?] at hall ⊢
  split
  · rfl
  · next hoctal => simp [hoctal] at hall

/-- A number with few digits is small. -/
theorem number?_lt (hbase : 1 < base) (hdigit : ∀ c d, digit? c = some d → d < base)
    (h : number? base digit? digits = some n) : n < base ^ digits.length := by
  rw [number?] at h
  split at h
  · next hall =>
    obtain rfl := Option.some.inj h
    have hlt := Nat.ofDigits_lt_base_pow_length (b := base)
      (l := (digits.map fun c => (digit? c).getD 0).reverse) hbase fun d hd => by
        obtain ⟨c, hc, rfl⟩ := List.mem_map.1 (List.mem_reverse.1 hd)
        obtain ⟨d, hd⟩ := Option.isSome_iff_exists.1 (List.all_eq_true.1 hall.2 c hc)
        rw [hd]
        exact hdigit c d hd
    rwa [List.length_reverse, List.length_map] at hlt
  · cases h

theorem char_le_iff {c d : Char} : c ≤ d ↔ c.toNat ≤ d.toNat :=
  Char.le_def.trans UInt32.le_iff_toNat_le

theorem isOctal_iff {c : Char} : isOctal c = true ↔ 0x30 ≤ c.toNat ∧ c.toNat ≤ 0x37 := by
  rw [isOctal, Bool.and_eq_true, decide_eq_true_iff, decide_eq_true_iff, char_le_iff, char_le_iff]
  rfl

theorem octalDigit?_lt {c : Char} {d : Nat} (h : octalDigit? c = some d) : d < 8 := by
  rw [octalDigit?] at h
  split at h
  · next hc =>
    obtain rfl := Option.some.inj h
    have := isOctal_iff.1 hc
    have : '0'.toNat = 0x30 := rfl
    omega
  · cases h

theorem hexDigit?_lt {c : Char} {d : Nat} (h : hexDigit? c = some d) : d < 16 := by
  simp only [hexDigit?, Bool.and_eq_true, decide_eq_true_iff, char_le_iff, Char.reduceToNat] at h
  split at h
  · cases h
    omega
  split at h
  · cases h
    omega
  split at h
  · cases h
    omega
  · cases h

/-- Escapes of a single letter stand for code points. -/
theorem simple?_le {c : Char} {code : Nat} (h : simple? c = some code) : code ≤ lastCodePoint := by
  unfold simple? at h
  split at h
  case h_8 => cases h
  all_goals
    cases h
    decide

theorem char_le_lastCodePoint (c : Char) : c.toNat ≤ lastCodePoint := by
  have hvalid : c.toNat < 0xD800 ∨ 0xDFFF < c.toNat ∧ c.toNat < 0x110000 := c.valid
  rw [lastCodePoint]
  omega

/-! ## Checked values -/

/-- A code point, if there is one with the number. -/
def codePoint? (n : Nat) : Option (List Nat) :=
  if n ≤ lastCodePoint then some [n] else none

/-- The code points of an escape sequence, given with its backslash, if everything that is read as a
    number is one, and is the number of a code point. -/
def checkedValue? : List Char → Option (List Nat)
  | [] => some []
  | [_] => some []
  | backslash :: c :: rest =>
    match simple? c, rest with
    | some code, [] => some [code]
    | _, _ =>
      if isLineEnd c then some []
      else if (c :: rest).length ≤ 3 && (c :: rest).all isOctal then
        (number? 8 octalDigit? (c :: rest)).bind codePoint?
      else if c = 'x' && rest.length = 2 then (number? 16 hexDigit? rest).bind codePoint?
      else if c = 'u' then
        let digits := if rest.head? = some '{' then (rest.drop 1).dropLast else rest
        (number? 16 hexDigit? digits).bind fun n =>
          if lastCodePoint < n then some ((backslash :: c :: rest).map (·.toNat)) else codePoint? n
      else some ((c :: rest).map (·.toNat))

theorem checkedValue?_of_simple {backslash c : Char} {code : Nat} (h : simple? c = some code) :
    checkedValue? [backslash, c] = some [code] := by
  simp only [checkedValue?, h]

/-- A checked value is the value. -/
theorem value_of_checkedValue? {s : List Char} {codes : List Nat}
    (h : checkedValue? s = some codes) : value s = codes := by
  have hcode : ∀ {n : Nat}, codePoint? n = some codes → [n] = codes := fun {n} hn => by
    rw [codePoint?] at hn
    split at hn
    · exact Option.some.inj hn
    · cases hn
  match s with
  | [] | [_] => exact Option.some.inj h
  | backslash :: c :: rest =>
    by_cases hlone : ∃ code, simple? c = some code ∧ rest = []
    · obtain ⟨code, hsimple, rfl⟩ := hlone
      rw [checkedValue?_of_simple hsimple] at h
      rw [← Option.some.inj h]
      simp only [value, hsimple]
    have hnot : ∀ code, simple? c = some code → rest = [] → False := fun code hc hr =>
      hlone ⟨code, hc, hr⟩
    rw [checkedValue?.eq_4 _ _ _ hnot] at h
    rw [value.eq_4 _ _ _ hnot]
    -- Both ask the same questions; a number that was checked is the number.
    split
    · rw [if_pos ‹_›] at h
      exact Option.some.inj h
    rw [if_neg ‹_›] at h
    split
    · rw [if_pos ‹_›] at h
      obtain ⟨n, hn, h⟩ := Option.bind_eq_some_iff.1 h
      rw [octalNumber_of_number? hn, hcode h]
    rw [if_neg ‹_›] at h
    split
    · rw [if_pos ‹_›] at h
      obtain ⟨n, hn, h⟩ := Option.bind_eq_some_iff.1 h
      rw [hexNumber_of_number? hn, hcode h]
    rw [if_neg ‹_›] at h
    split
    · rw [if_pos ‹_›] at h
      obtain ⟨n, hn, h⟩ := Option.bind_eq_some_iff.1 h
      dsimp only
      rw [hexNumber_of_number? hn]
      split
      · rw [if_pos ‹_›] at h
        exact Option.some.inj h
      · rw [if_neg ‹_›] at h
        exact hcode h
    · rw [if_neg ‹_›] at h
      exact Option.some.inj h

/-! ## Forms -/

/-- The forms of an escape sequence. -/
inductive Form : List Char → Prop
  /-- A character that begins no number. -/
  | single {c : Char} : c ≠ 'x' → c ≠ 'u' → isOctal c = false → Form ['\\', c]
  /-- Up to three octal digits. -/
  | octal {digits : List Char} : digits ≠ [] → digits.length ≤ 3 → (∀ c ∈ digits, isOctal c = true) →
      Form ('\\' :: digits)
  /-- Two hexadecimal digits. -/
  | hex {digits : List Char} : digits.length = 2 → (∀ c ∈ digits, (hexDigit? c).isSome = true) →
      Form ('\\' :: 'x' :: digits)
  /-- Four hexadecimal digits. -/
  | unicode {digits : List Char} : digits.length = 4 → (∀ c ∈ digits, (hexDigit? c).isSome = true) →
      Form ('\\' :: 'u' :: digits)
  /-- Any number of hexadecimal digits between braces. -/
  | braced {digits : List Char} : digits ≠ [] → (∀ c ∈ digits, (hexDigit? c).isSome = true) →
      Form ('\\' :: 'u' :: '{' :: (digits ++ ['}']))
  /-- A carriage return or a question mark, and another end of a line. -/
  | lineEnd {c e : Char} : c = '\r' ∨ c = '?' → e = '\n' ∨ e = '\u2028' ∨ e = '\u2029' →
      Form ['\\', c, e]

section Forms

variable {digits : List Char}

/-- An octal escape is the code point with the number. -/
theorem checkedValue?_octal (hne : digits ≠ []) (hlength : digits.length ≤ 3)
    (hdigits : ∀ c ∈ digits, isOctal c = true) :
    checkedValue? ('\\' :: digits) = (number? 8 octalDigit? digits).bind codePoint? := by
  obtain ⟨c, rest, rfl⟩ := List.exists_cons_of_ne_nil hne
  have hc := isOctal_iff.1 (hdigits c List.mem_cons_self)
  by_cases hlone : c = '0' ∧ rest = []
  · obtain ⟨rfl, rfl⟩ := hlone
    rfl
  · have hline : isLineEnd c = false := by
      rw [isLineEnd]
      simp only [← Char.toNat_inj, Bool.or_eq_false_iff, decide_eq_false_iff_not, Char.reduceToNat]
      omega
    have hall : (c :: rest).all isOctal = true := List.all_eq_true.2 hdigits
    rw [checkedValue?, if_neg (by simp [hline]), if_pos (by simp only [hall]; simpa using hlength)]
    -- Of the octal digits, only zero has a meaning on its own.
    rintro code hsimple rfl
    unfold simple? at hsimple
    split at hsimple
    case h_7 => exact hlone ⟨rfl, rfl⟩
    case h_8 => cases hsimple
    all_goals exact absurd hc (by decide)

theorem checkedValue?_hex (hlength : digits.length = 2) :
    checkedValue? ('\\' :: 'x' :: digits) = (number? 16 hexDigit? digits).bind codePoint? := by
  rw [checkedValue?]
  · simp [hlength, isLineEnd, isOctal]
  · simp [simple?]

/-- A `u` escape without braces is the code point with the number. Beyond the last code point it
    stands for itself. -/
theorem checkedValue?_unicode (hhead : digits.head? ≠ some '{') :
    checkedValue? ('\\' :: 'u' :: digits) = (number? 16 hexDigit? digits).bind fun n =>
      if lastCodePoint < n then some (('\\' :: 'u' :: digits).map (·.toNat)) else codePoint? n := by
  rw [checkedValue?]
  · simp [isLineEnd, isOctal, hhead]
  · simp [simple?]

/-- A `u` escape with braces is read in the same way, whatever the number of its digits. -/
theorem checkedValue?_braced :
    checkedValue? ('\\' :: 'u' :: '{' :: (digits ++ ['}'])) =
      (number? 16 hexDigit? digits).bind fun n =>
        if lastCodePoint < n then
          some (('\\' :: 'u' :: '{' :: (digits ++ ['}'])).map (·.toNat))
        else codePoint? n := by
  rw [checkedValue?]
  · simp [isLineEnd, isOctal]
  · simp [simple?]

theorem octalDigit?_isSome {c : Char} : (octalDigit? c).isSome = isOctal c := by
  rw [octalDigit?]
  cases isOctal c <;> rfl

theorem exists_octal? {digits : List Char} (hne : digits ≠ [])
    (hdigits : ∀ c ∈ digits, isOctal c = true) :
    ∃ n, number? 8 octalDigit? digits = some n :=
  exists_number? hne fun c hc => octalDigit?_isSome.trans (hdigits c hc)

theorem exists_hex? {digits : List Char} (hne : digits ≠ [])
    (hdigits : ∀ c ∈ digits, (hexDigit? c).isSome = true) :
    ∃ n, number? 16 hexDigit? digits = some n :=
  exists_number? hne hdigits

theorem codePoint?_of_le {n : Nat} (h : n ≤ lastCodePoint) : codePoint? n = some [n] :=
  if_pos h

/-- What a number of digits of some base stands for is a code point, if there are not too many
    digits. -/
theorem bind_codePoint? {n : Nat} (hbase : 1 < base)
    (hdigit : ∀ c d, digit? c = some d → d < base) (h : number? base digit? digits = some n)
    (hlength : base ^ digits.length ≤ lastCodePoint) :
    (number? base digit? digits).bind codePoint? = some [n] := by
  have := number?_lt hbase hdigit h
  rw [h, Option.bind_some, codePoint?_of_le (by omega)]

theorem head?_ne_brace (h : ∀ c ∈ digits, (hexDigit? c).isSome = true) : digits.head? ≠ some '{' := by
  intro hhead
  have := h '{' (List.mem_of_head? hhead)
  exact absurd this (by decide)

end Forms

/-- In an escape sequence of one of the forms, all numbers are numbers of code points. -/
theorem checkedValue?_of_form {s : List Char} (h : Form s) : checkedValue? s = some (value s) := by
  suffices hsome : ∃ codes, checkedValue? s = some codes by
    obtain ⟨codes, hcodes⟩ := hsome
    rw [hcodes, value_of_checkedValue? hcodes]
  cases h with
  | @single c hx hu hoctal =>
    cases hsimple : simple? c with
    | some code => exact ⟨_, checkedValue?_of_simple hsimple⟩
    | none =>
      rw [checkedValue?.eq_4 _ _ _ (by simp [hsimple])]
      simp only [List.all_cons, hoctal, Bool.false_and, Bool.and_false, hx, hu, decide_false,
        Bool.false_eq_true, if_false]
      cases isLineEnd c <;> exact ⟨_, rfl⟩
  | @octal digits hne hlength hdigits =>
    obtain ⟨n, hn⟩ := exists_octal? hne hdigits
    have hpow : 8 ^ digits.length ≤ 8 ^ 3 := Nat.pow_le_pow_right (by decide) hlength
    exact ⟨_, (checkedValue?_octal hne hlength hdigits).trans
      (bind_codePoint? (by decide) (fun c d => octalDigit?_lt) hn (hpow.trans (by decide)))⟩
  | @hex digits hlength hdigits =>
    obtain ⟨n, hn⟩ := exists_hex? (List.ne_nil_of_length_pos (by omega)) hdigits
    exact ⟨_, (checkedValue?_hex hlength).trans
      (bind_codePoint? (by decide) (fun c d => hexDigit?_lt) hn (by rw [hlength]; decide))⟩
  | @unicode digits hlength hdigits =>
    obtain ⟨n, hn⟩ := exists_hex? (List.ne_nil_of_length_pos (by omega)) hdigits
    have hlt := number?_lt (by decide) (fun c d => hexDigit?_lt) hn
    rw [hlength] at hlt
    have hle : n ≤ lastCodePoint := by
      rw [lastCodePoint]
      omega
    rw [checkedValue?_unicode (head?_ne_brace hdigits), hn, Option.bind_some,
      if_neg (by omega), codePoint?_of_le hle]
    exact ⟨_, rfl⟩
  | @braced digits hne hdigits =>
    obtain ⟨n, hn⟩ := exists_hex? hne hdigits
    rw [checkedValue?_braced, hn, Option.bind_some]
    split
    · exact ⟨_, rfl⟩
    · exact ⟨_, codePoint?_of_le (by omega)⟩
  | @lineEnd c e hc he =>
    rw [checkedValue?.eq_4 _ _ _ (by simp)]
    rcases hc with rfl | rfl
    · exact ⟨_, rfl⟩
    · rcases he with rfl | rfl | rfl <;> exact ⟨_, rfl⟩

theorem octalNumber_lt {digits : List Char} (hne : digits ≠ [])
    (hdigits : digits.all isOctal = true) :
    octalNumber digits < 8 ^ digits.length := by
  obtain ⟨n, hn⟩ := exists_octal? hne (List.all_eq_true.1 hdigits)
  rw [octalNumber_of_number? hn]
  exact number?_lt (by decide) (fun c d => octalDigit?_lt) hn

/-- Anything but a digit counts as zero, so that the bound on a number holds of all characters. -/
theorem hexNumber_lt (digits : List Char) : hexNumber digits < 16 ^ digits.length := by
  induction digits using List.reverseRecOn with
  | nil => exact Nat.one_pos
  | append_singleton digits c ih =>
    have hc : (hexDigit? c).getD 0 < 16 := by
      cases hd : hexDigit? c with
      | none => exact Nat.zero_lt_succ 15
      | some d => exact hexDigit?_lt hd
    rw [hexNumber, List.foldl_append, List.foldl_cons, List.foldl_nil, ← hexNumber,
      List.length_append, List.length_singleton, Nat.pow_succ]
    omega

/-- All that an escape sequence stands for are code points. -/
theorem value_le_lastCodePoint (s : List Char) : ∀ code ∈ value s, code ≤ lastCodePoint := by
  have hchars : ∀ l : List Char, ∀ code ∈ l.map (·.toNat), code ≤ lastCodePoint := fun l code hl => by
    obtain ⟨c, -, rfl⟩ := List.mem_map.1 hl
    exact char_le_lastCodePoint c
  match s with
  | [] | [_] => exact fun _ h => (List.not_mem_nil h).elim
  | backslash :: c :: rest =>
    by_cases hlone : ∃ code, simple? c = some code ∧ rest = []
    · obtain ⟨code, hsimple, rfl⟩ := hlone
      simp only [value, hsimple]
      exact List.forall_mem_singleton.2 (simple?_le hsimple)
    rw [value.eq_4 _ _ _ fun code hc hr => hlone ⟨code, hc, hr⟩]
    split
    · exact fun _ h => (List.not_mem_nil h).elim
    split
    · next hoctal =>
      rw [Bool.and_eq_true, decide_eq_true_iff] at hoctal
      have hlt := octalNumber_lt (List.cons_ne_nil _ _) hoctal.2
      have hpow : 8 ^ (c :: rest).length ≤ 8 ^ 3 := Nat.pow_le_pow_right (by decide) hoctal.1
      rw [List.forall_mem_singleton, lastCodePoint]
      omega
    split
    · next hhex =>
      rw [Bool.and_eq_true, decide_eq_true_iff, decide_eq_true_iff] at hhex
      have hlt := hexNumber_lt rest
      rw [hhex.2] at hlt
      rw [List.forall_mem_singleton, lastCodePoint]
      omega
    split
    · dsimp only
      generalize (if rest.head? = some '\x7b' then (rest.drop 1).dropLast else rest) = digits
      split
      · exact hchars _
      · next hle => exact List.forall_mem_singleton.2 (Nat.le_of_not_lt hle)
    · exact hchars _

/-! ## Writing code points -/

/-- The ways to write a code point as an escape sequence. -/
inductive Writes : List Char → Nat → Prop
  /-- A letter with a meaning. -/
  | simple {c : Char} {code : Nat} : simple? c = some code → Writes ['\\', c] code
  /-- A character without a meaning of its own stands for itself. -/
  | identity {c : Char} : simple? c = none → isLineEnd c = false → isOctal c = false → c ≠ 'x' →
      c ≠ 'u' → Writes ['\\', c] c.toNat
  /-- Up to three octal digits, for the first 256 code points. -/
  | octal {digits : List Char} {code : Nat} : digits.length ≤ 3 →
      number? 8 octalDigit? digits = some code → code ≤ 0o377 → Writes ('\\' :: digits) code
  /-- Two hexadecimal digits. -/
  | hex {digits : List Char} {code : Nat} : digits.length = 2 →
      number? 16 hexDigit? digits = some code → Writes ('\\' :: 'x' :: digits) code
  /-- Four hexadecimal digits. -/
  | unicode {digits : List Char} {code : Nat} : digits.length = 4 →
      number? 16 hexDigit? digits = some code → Writes ('\\' :: 'u' :: digits) code
  /-- Any number of hexadecimal digits between braces. -/
  | braced {digits : List Char} {code : Nat} : number? 16 hexDigit? digits = some code →
      code ≤ lastCodePoint → Writes ('\\' :: 'u' :: '{' :: (digits ++ ['}'])) code

/-- The ways to continue a literal on the next line. -/
inductive Continues : List Char → Prop
  /-- A backslash before the end of a line. -/
  | single {c : Char} : isLineEnd c = true → Continues ['\\', c]
  /-- A backslash before an end of a line that is written as two characters. -/
  | double {e : Char} : e = '\n' ∨ e = '\u2028' ∨ e = '\u2029' → Continues ['\\', '\r', e]

section Writes

variable {s digits : List Char} {code : Nat}

theorem digits_of_number? {base n : Nat} {digit? : Char → Option Nat}
    (h : number? base digit? digits = some n) :
    digits ≠ [] ∧ ∀ c ∈ digits, (digit? c).isSome = true :=
  isSome_number?_iff.1 (Option.isSome_of_mem h)

/-- What writes a code point has one of the forms. -/
theorem form_of_writes (h : Writes s code) : Form s := by
  cases h with
  | @simple c _ hsimple =>
    cases hoctal : isOctal c with
    | true => exact @Form.octal [c] (by simp) (by simp) (by simpa using hoctal)
    | false =>
      refine .single ?_ ?_ hoctal <;>
        · rintro rfl
          cases hsimple
  | identity _ _ hoctal hx hu => exact .single hx hu hoctal
  | octal hlength hdigits _ =>
    obtain ⟨hne, hall⟩ := digits_of_number? hdigits
    exact .octal hne hlength fun c hc => octalDigit?_isSome.symm.trans (hall c hc)
  | hex hlength hdigits => exact .hex hlength (digits_of_number? hdigits).2
  | unicode hlength hdigits => exact .unicode hlength (digits_of_number? hdigits).2
  | braced hdigits _ => exact .braced (digits_of_number? hdigits).1 (digits_of_number? hdigits).2

/-- What writes a code point has this code point as its value. -/
theorem value_of_writes (h : Writes s code) : value s = [code] := by
  apply value_of_checkedValue?
  cases h with
  | simple hsimple => exact checkedValue?_of_simple hsimple
  | @identity c hsimple hline hoctal hx hu =>
    rw [checkedValue?.eq_4 _ _ _ (by simp [hsimple])]
    simp [hline, hoctal, hx, hu]
  | @octal digits _ hlength hdigits hle =>
    obtain ⟨hne, hall⟩ := digits_of_number? hdigits
    rw [checkedValue?_octal hne hlength fun c hc => octalDigit?_isSome.symm.trans
      (hall c hc), hdigits, Option.bind_some, codePoint?_of_le (hle.trans (by decide))]
  | hex hlength hdigits =>
    rw [checkedValue?_hex hlength]
    exact bind_codePoint? (by decide) (fun c d => hexDigit?_lt) hdigits (by rw [hlength]; decide)
  | unicode hlength hdigits =>
    have hlt := number?_lt (by decide) (fun c d => hexDigit?_lt) hdigits
    rw [hlength] at hlt
    have hle : code ≤ lastCodePoint := by
      rw [lastCodePoint]
      omega
    rw [checkedValue?_unicode (head?_ne_brace (digits_of_number? hdigits).2), hdigits,
      Option.bind_some, if_neg (by omega), codePoint?_of_le hle]
  | braced hdigits hle =>
    rw [checkedValue?_braced, hdigits, Option.bind_some, if_neg (by omega), codePoint?_of_le hle]

theorem isOctal_of_isLineEnd {c : Char} (h : isLineEnd c = true) : isOctal c = false := by
  simp only [isLineEnd, Bool.or_eq_true, decide_eq_true_iff] at h
  rcases h with ((rfl | rfl) | rfl) | rfl <;> rfl

/-- What continues a literal has one of the forms. -/
theorem form_of_continues (h : Continues s) : Form s := by
  cases h with
  | single hline =>
    refine .single ?_ ?_ (isOctal_of_isLineEnd hline) <;>
      · rintro rfl
        cases hline
  | double he => exact .lineEnd (.inl rfl) he

/-- What continues a literal stands for nothing. -/
theorem value_of_continues (h : Continues s) : value s = [] := by
  cases h with
  | @single c hline =>
    have hsimple : simple? c = none := by
      simp only [isLineEnd, Bool.or_eq_true, decide_eq_true_iff] at hline
      rcases hline with ((rfl | rfl) | rfl) | rfl <;> rfl
    rw [value.eq_4 _ _ _ (by simp [hsimple]), if_pos hline]
  | double he => rfl

end Writes

end BundleManifest.Script.Escape
