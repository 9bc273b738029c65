import BundleManifest.Proofs.Script.Literal
import BundleManifest.Script.Fault

/-!
# What the language reads in a string literal

The language has its own rules for what stands between the quotes of a literal (`Denotes`): one for
every form of an escape sequence (`EscapeSequence`), some of which look at the character that follows.
The reader of scripts has another, simpler idea of an escape sequence: it is the longest piece of text
that looks like one (`Tokens`). The two do not agree everywhere. A token may hold an escape sequence
of the language and one more character:

* `\?` before a separator of lines, which makes no difference since both stand for themselves;
* two octal digits from `\40` to `\77` and a third octal digit, which the language takes for itself,
  since no octal escape goes beyond `\377`;
* a carriage return that continues the literal on the next line, and a separator of lines behind it.

The last two are `Beyond` the escape sequences of the language. In every literal without them the
units are those that the language reads (`units_of_tokens`), and in every literal with one of them
they are fewer. So the value of a literal is the one that the language gives it exactly if it has no
such token (`value?_eq_denoted`).

The proof goes along the escape sequences of the language. The token at each of them is the sequence,
or holds it and one character more (`Meets`); what the reader makes of the token is compared with what
the language makes of the sequence and the character (`Compares`), and what follows is read on from
behind the token.
-/

namespace BundleManifest.Script.Literal

open Escape

/-! ## The language -/

/-- The code point of an escape of the language that is a single character with a meaning of its
    own. -/
def singleEscape? : Char → Option Nat
  | 'b' => some 0x08
  | 't' => some 0x09
  | 'n' => some 0x0A
  | 'v' => some 0x0B
  | 'f' => some 0x0C
  | 'r' => some 0x0D
  | '"' => some 0x22
  | '\'' => some 0x27
  | '\\' => some 0x5C
  | _ => none

/-- What may stand behind a backslash, with what follows it and the units that it stands for. -/
inductive EscapeSequence : List Char → List Char → List Nat → Prop
  /-- A character with a meaning of its own. -/
  | single {c : Char} {code : Nat} {rest : List Char} (hcode : singleEscape? c = some code) :
      EscapeSequence [c] rest [code]
  /-- Any other character that begins no number and ends no line. -/
  | nonEscape {c : Char} {rest : List Char} (hsingle : singleEscape? c = none)
      (hdigit : c.isDigit = false)
      (hx : c ≠ 'x') (hu : c ≠ 'u') (hline : isLineEnd c = false) :
      EscapeSequence [c] rest (Utf16.unitsOf c.toNat)
  /-- A zero that is not followed by a digit. -/
  | null {rest : List Char} (hrest : rest.head?.any Char.isDigit = false) :
      EscapeSequence ['0'] rest [0]
  /-- A zero before a digit that is not octal. -/
  | octalNull {rest : List Char} (hrest : rest.head? = some '8' ∨ rest.head? = some '9') :
      EscapeSequence ['0'] rest [0]
  /-- An octal digit that is not zero. -/
  | octalOne {a : Char} {code : Nat} {rest : List Char} (ha : a ≠ '0')
      (hcode : number? 8 octalDigit? [a] = some code) (hrest : rest.head?.any isOctal = false) :
      EscapeSequence [a] rest [code]
  /-- Two octal digits that could begin an octal number of three digits. -/
  | octalTwo {a b : Char} {code : Nat} {rest : List Char} (ha : a ≤ '3')
      (hcode : number? 8 octalDigit? [a, b] = some code) (hrest : rest.head?.any isOctal = false) :
      EscapeSequence [a, b] rest [code]
  /-- Two octal digits that could not. -/
  | octalHigh {a b : Char} {code : Nat} {rest : List Char} (ha : '4' ≤ a)
      (hcode : number? 8 octalDigit? [a, b] = some code) : EscapeSequence [a, b] rest [code]
  /-- Three octal digits. -/
  | octalThree {a b c : Char} {code : Nat} {rest : List Char} (ha : a ≤ '3')
      (hcode : number? 8 octalDigit? [a, b, c] = some code) : EscapeSequence [a, b, c] rest [code]
  /-- A digit that is not octal. -/
  | decimal {c : Char} {rest : List Char} (hc : c = '8' ∨ c = '9') : EscapeSequence [c] rest [c.toNat]
  /-- Two hexadecimal digits. -/
  | hex {digits : List Char} {code : Nat} {rest : List Char} (hlength : digits.length = 2)
      (hcode : number? 16 hexDigit? digits = some code) : EscapeSequence ('x' :: digits) rest [code]
  /-- Four hexadecimal digits. -/
  | unicode {digits : List Char} {code : Nat} {rest : List Char} (hlength : digits.length = 4)
      (hcode : number? 16 hexDigit? digits = some code) : EscapeSequence ('u' :: digits) rest [code]
  /-- The hexadecimal number of a code point between braces. -/
  | codePoint {digits : List Char} {code : Nat} {rest : List Char}
      (hcode : number? 16 hexDigit? digits = some code) (hle : code ≤ lastCodePoint) :
      EscapeSequence ('u' :: '{' :: (digits ++ ['}'])) rest (Utf16.unitsOf code)
  /-- The end of a line, which is left out. -/
  | line {c : Char} {rest : List Char} (hc : c = '\n' ∨ c = '\u2028' ∨ c = '\u2029') :
      EscapeSequence [c] rest []
  | carriageReturn {rest : List Char} (hrest : rest.head? ≠ some '\n') : EscapeSequence ['\r'] rest []
  | doubleEnd {rest : List Char} : EscapeSequence ['\r', '\n'] rest []

/-- The units that the language reads in a text between two quotes of one kind. -/
inductive Denotes (quote : Char) : List Char → List Nat → Prop
  | nil : Denotes quote [] []
  | source {c : Char} {rest : List Char} {v : List Nat} (hquote : c ≠ quote) (hbackslash : c ≠ '\\')
      (hline : c ≠ '\n') (hreturn : c ≠ '\r') (hrest : Denotes quote rest v) :
      Denotes quote (c :: rest) (Utf16.unitsOf c.toNat ++ v)
  | escape {e rest : List Char} {w v : List Nat} (he : EscapeSequence e rest w)
      (hrest : Denotes quote rest v) : Denotes quote ('\\' :: (e ++ rest)) (w ++ v)

/-! ## The reader -/

/-- The parts that the reader of scripts takes a text apart into, before a text `after` that it does
    not belong to: escape sequences as long as they can be, and what is between them. -/
inductive Tokens (after : List Char) : List Char → List Part → Prop
  | nil : Tokens after [] []
  | raw {s rest : List Char} {parts : List Part} (hraw : ∀ c ∈ s, c ≠ '\\')
      (hrest : Tokens after rest parts) :
      Tokens after (s ++ rest) (.raw s :: parts)
  | escape {e rest : List Char} {parts : List Part} (hne : e ≠ [])
      (hlength : Lexeme.escapeSequence (e ++ (rest ++ after)) = e.length)
      (hrest : Tokens after rest parts) :
      Tokens after (e ++ rest) (.escape e :: parts)

/-- The tokens that no escape sequence of the language goes as far as. -/
inductive Beyond : List Char → Prop
  /-- An octal number above the largest one. -/
  | octal {digits : List Char} {code : Nat} (hcode : number? 8 octalDigit? digits = some code)
      (hlt : 0o377 < code) : Beyond ('\\' :: digits)
  /-- A separator of lines behind a carriage return. -/
  | separator {c : Char} (hc : c = '\u2028' ∨ c = '\u2029') : Beyond ['\\', '\r', c]

/-! ## How far the tokens go -/

section Lengths

variable {c : Char} {digits look : List Char}

theorem isHexDigit_of_hexDigit? (h : (hexDigit? c).isSome = true) : isHexDigit c = true := by
  rw [hexDigit?] at h
  have hdigit : c.isDigit = ('0' ≤ c && c ≤ '9') := rfl
  rw [isHexDigit, hdigit]
  split at h
  · next hc => rw [hc, Bool.true_or, Bool.true_or]
  split at h
  · next hc => rw [hc, Bool.or_true, Bool.true_or]
  split at h
  · next hc => rw [hc, Bool.or_true]
  · cases h

theorem isOctal_of_number? {n : Nat} (h : number? 8 octalDigit? digits = some n) :
    ∀ c ∈ digits, isOctal c = true :=
  fun c hc => octalDigit?_isSome.symm.trans ((digits_of_number? h).2 c hc)

theorem isHexDigit_of_number? {n : Nat} (h : number? 16 hexDigit? digits = some n) :
    ∀ c ∈ digits, isHexDigit c = true :=
  fun c hc => isHexDigit_of_hexDigit? ((digits_of_number? h).2 c hc)

/-- Before a character that is not in a class there are as many of the class as there are. -/
theorem run_append {p : Char → Bool} (hdigits : ∀ c ∈ digits, p c = true)
    (hlook : look.head?.any p = false) :
    Lexeme.run p (digits ++ look) = digits.length := by
  have hstop : look.takeWhile p = [] := by
    cases look with
    | nil => rfl
    | cons c look => exact List.takeWhile_cons_of_neg (Bool.eq_false_iff.1 hlook)
  rw [Lexeme.run, List.takeWhile_append_of_pos hdigits, hstop, List.append_nil]

/-- How long the token of an escape sequence is depends on the character behind the backslash. -/
theorem escapeSequence_cons (c : Char) (look : List Char) :
    Lexeme.escapeSequence ('\\' :: c :: look) =
    if isOctal c then 1 + min 3 (Lexeme.run isOctal (c :: look))
    else if c = 'x' then if (look.take 2).length = 2 && (look.take 2).all isHexDigit then 4 else 0
    else if c = 'u' then
      if Lexeme.unicodeEscape (c :: look) = 0 then 0 else Lexeme.unicodeEscape (c :: look) + 1
    else if c = '\r' || c = '?' then if look.head?.any isLineBreak then 3 else 2
    else 2 := by
  cases look <;> rfl

/-- An octal escape ends after three digits, or before what is no digit. -/
theorem escapeSequence_octal (hne : digits ≠ []) (hdigits : ∀ c ∈ digits, isOctal c = true)
    (hlook : digits.length = 3 ∨ digits.length < 3 ∧ look.head?.any isOctal = false) :
    Lexeme.escapeSequence ('\\' :: (digits ++ look)) = digits.length + 1 := by
  obtain ⟨c, digits, rfl⟩ := List.exists_cons_of_ne_nil hne
  have hrun : min 3 (Lexeme.run isOctal (c :: (digits ++ look))) = (c :: digits).length := by
    rcases hlook with hlength | ⟨hlt, hlook⟩
    · have hle : (c :: digits).length ≤ Lexeme.run isOctal (c :: digits ++ look) := by
        rw [Lexeme.run, List.takeWhile_append_of_pos hdigits, List.length_append]
        exact Nat.le_add_right _ _
      rw [← List.cons_append]
      omega
    · rw [← List.cons_append, run_append hdigits hlook]
      omega
  rw [List.cons_append, escapeSequence_cons, if_pos (hdigits c List.mem_cons_self), hrun,
    Nat.add_comm]

/-- An escape without digits is a single character. -/
theorem escapeSequence_other (hoctal : isOctal c = false) (hx : c ≠ 'x') (hu : c ≠ 'u')
    (hlook : c = '\r' ∨ c = '?' → look.head?.any isLineBreak = false) :
    Lexeme.escapeSequence ('\\' :: c :: look) = 2 := by
  rw [escapeSequence_cons, if_neg (Bool.eq_false_iff.1 hoctal), if_neg hx, if_neg hu]
  split
  · next hc =>
    rw [Bool.or_eq_true, decide_eq_true_iff, decide_eq_true_iff] at hc
    exact if_neg (Bool.eq_false_iff.1 (hlook hc))
  · rfl

/-- Behind a carriage return or a question mark, a line break belongs to the token. -/
theorem escapeSequence_lineBreak {d : Char} (hc : c = '\r' ∨ c = '?') (hd : isLineBreak d = true) :
    Lexeme.escapeSequence ('\\' :: c :: d :: look) = 3 := by
  rcases hc with rfl | rfl
  · exact if_pos hd
  · exact if_pos hd

theorem escapeSequence_hex (hlength : digits.length = 2)
    (hdigits : ∀ c ∈ digits, isHexDigit c = true) :
    Lexeme.escapeSequence ('\\' :: 'x' :: (digits ++ look)) = 4 := by
  have htake : (digits ++ look).take 2 = digits := by rw [← hlength, List.take_left]
  rw [escapeSequence_cons, if_neg (by decide), if_pos rfl, htake]
  exact if_pos (by rw [hlength, List.all_eq_true.2 hdigits]; rfl)

/-- A `u` escape without braces has four digits. -/
theorem escapeSequence_unicode (hlength : digits.length = 4)
    (hdigits : ∀ c ∈ digits, isHexDigit c = true) :
    Lexeme.escapeSequence ('\\' :: 'u' :: (digits ++ look)) = 6 := by
  have htake : (digits ++ look).take 4 = digits := by rw [← hlength, List.take_left]
  have hlexeme : Lexeme.unicodeEscape ('u' :: (digits ++ look)) = 5 := by
    rw [Lexeme.unicodeEscape]
    · rw [htake]
      exact if_pos (by rw [hlength, List.all_eq_true.2 hdigits]; rfl)
    · -- The first digit is no brace.
      rintro rest hbrace
      obtain ⟨d, digits, rfl⟩ := List.exists_cons_of_length_eq_add_one hlength
      have hd := hdigits d List.mem_cons_self
      rw [(List.cons.inj hbrace).1] at hd
      exact absurd hd (by decide)
  rw [escapeSequence_cons, if_neg (by decide), if_neg (by decide), if_pos rfl, hlexeme]
  rfl

/-- A `u` escape with braces has as many digits as stand between them. -/
theorem escapeSequence_codePoint (hne : digits ≠ []) (hdigits : ∀ c ∈ digits, isHexDigit c = true) :
    Lexeme.escapeSequence ('\\' :: 'u' :: '\x7b' :: (digits ++ '\x7d' :: look)) =
      digits.length + 4 := by
  have hrun : Lexeme.run isHexDigit (digits ++ '\x7d' :: look) = digits.length :=
    run_append hdigits rfl
  have hpos : 0 < digits.length := List.length_pos_iff.2 hne
  have hlexeme : Lexeme.unicodeEscape ('u' :: '\x7b' :: (digits ++ '\x7d' :: look)) =
      digits.length + 3 := by
    rw [Lexeme.unicodeEscape, hrun, List.drop_left]
    exact if_pos (by simp [hpos])
  rw [escapeSequence_cons, if_neg (by decide), if_neg (by decide), if_pos rfl, hlexeme]
  rfl

end Lengths

/-! ## Tokens and escape sequences -/

/-- A token that holds an escape sequence and some characters behind it has the units that the
    language reads in both, or fewer if it is beyond the escape sequences of the language. -/
def Compares (e s : List Char) (w : List Nat) : Prop :=
  ¬Beyond ('\\' :: (e ++ s)) ∧
      Utf16.units (value ('\\' :: (e ++ s))) = w ++ Utf16.units (s.map Char.toNat) ∨
    Beyond ('\\' :: (e ++ s)) ∧
      (Utf16.units (value ('\\' :: (e ++ s)))).length < (w ++ Utf16.units (s.map Char.toNat)).length

section Compares

variable {e s look : List Char} {w : List Nat} {a b c : Char} {code : Nat}

theorem length_unitsOf_pos (code : Nat) : 0 < (Utf16.unitsOf code).length := by
  rw [Utf16.unitsOf]
  split
  · exact Nat.one_pos
  · exact Nat.two_pos

/-- No token of a single character goes beyond the escape sequences of the language. -/
theorem not_beyond_single (c : Char) : ¬Beyond ['\\', c] := by
  intro h
  cases h with
  | octal hcode hlt =>
    have := number?_lt (by decide) (fun c d => octalDigit?_lt) hcode
    rw [List.length_singleton] at this
    omega

/-- Only octal digits and carriage returns can begin a token that goes too far. -/
theorem not_beyond_of_ne (hoctal : isOctal c = false) (hreturn : c ≠ '\r') :
    ¬Beyond ('\\' :: c :: e) := by
  intro h
  cases h with
  | octal hcode _ =>
    rw [isOctal_of_number? hcode c List.mem_cons_self] at hoctal
    cases hoctal
  | separator _ => exact hreturn rfl

/-- A way to write a code point never goes too far. -/
theorem not_beyond_of_writes (h : Writes ('\\' :: e) code) : ¬Beyond ('\\' :: e) := by
  cases h with
  | simple _ => exact not_beyond_single _
  | identity _ _ _ _ _ => exact not_beyond_single _
  | octal _ hcode hle =>
    intro h
    cases h with
    | octal hcode' hlt =>
      rw [hcode] at hcode'
      have := Option.some.inj hcode'
      omega
    | separator _ => exact absurd (isOctal_of_number? hcode '\r' List.mem_cons_self) (by decide)
  | hex _ _ => exact not_beyond_of_ne rfl (by decide)
  | unicode _ _ => exact not_beyond_of_ne rfl (by decide)
  | braced _ _ => exact not_beyond_of_ne rfl (by decide)

/-- What is written for a code point is read with the units of the code point. -/
theorem compares_of_writes (h : Writes ('\\' :: e) code) (hw : w = Utf16.unitsOf code) :
    Compares e [] w := by
  refine .inl ?_
  rw [List.append_nil, value_of_writes h, Utf16.units_singleton, List.map_nil, hw]
  exact ⟨not_beyond_of_writes h, (List.append_nil _).symm⟩

/-- A line that is continued stands for nothing on both sides. -/
theorem compares_of_continues (h : Continues ('\\' :: e)) (hbeyond : ¬Beyond ('\\' :: e)) :
    Compares e [] [] := by
  refine .inl ?_
  rw [List.append_nil, value_of_continues h]
  exact ⟨hbeyond, rfl⟩

theorem isOctal_of_pair (hcode : number? 8 octalDigit? [a, b] = some code) (hc : isOctal c = true) :
    ∀ d ∈ [a, b, c], isOctal d = true := by
  rw [List.forall_mem_cons, List.forall_mem_cons, List.forall_mem_singleton]
  exact ⟨isOctal_of_number? hcode a (by simp), isOctal_of_number? hcode b (by simp), hc⟩

/-- Two octal digits that could not begin a number of three, and a third one. -/
theorem compares_of_octalHigh (ha : '4' ≤ a) (hcode : number? 8 octalDigit? [a, b] = some code)
    (hc : isOctal c = true) : Compares [a, b] [c] [code] := by
  have hdigits := isOctal_of_pair hcode hc
  obtain ⟨n, hn⟩ := exists_octal? (List.cons_ne_nil _ _) hdigits
  have hlt : 0o377 < n := by
    rw [← octalNumber_of_number? hn]
    rw [char_le_iff] at ha
    simp only [octalNumber, List.foldl_cons, List.foldl_nil, Char.reduceToNat] at ha ⊢
    omega
  have hvalue : value ['\\', a, b, c] = [n] := by
    apply value_of_checkedValue?
    rw [checkedValue?_octal (List.cons_ne_nil _ _) (by simp) hdigits]
    exact bind_codePoint? (by decide) (fun c d => octalDigit?_lt) hn (by rw [lastCodePoint]; simp)
  have hlt' : n < 8 ^ 3 := number?_lt (by decide) (fun c d => octalDigit?_lt) hn
  have hunits : Utf16.unitsOf n = [n] := Utf16.unitsOf_of_lt (by omega)
  refine .inr ⟨.octal hn hlt, ?_⟩
  rw [List.cons_append, List.cons_append, List.nil_append, hvalue, Utf16.units_singleton, hunits,
    List.map_singleton, Utf16.units_singleton, List.length_append, List.length_singleton,
    List.length_singleton]
  have := length_unitsOf_pos c.toNat
  omega

/-- A carriage return before a line or paragraph separator takes this into its token, and loses it. -/
theorem compares_of_separator (hc : c = '\u2028' ∨ c = '\u2029') : Compares ['\r'] [c] [] := by
  refine .inr ⟨.separator hc, ?_⟩
  rcases hc with rfl | rfl <;> decide

theorem isLineBreak_iff : isLineBreak c = true ↔ c = '\n' ∨ c = '\u2028' ∨ c = '\u2029' := by
  rw [isLineBreak, Bool.or_eq_true, Bool.or_eq_true, decide_eq_true_iff, decide_eq_true_iff,
    decide_eq_true_iff, or_assoc]

/-- A question mark takes the line break behind it into its token. -/
theorem compares_of_question (hc : isLineBreak c = true) :
    Compares ['?'] [c] (Utf16.unitsOf '?'.toNat) := by
  refine .inl ⟨not_beyond_of_ne rfl (by decide), ?_⟩
  rcases isLineBreak_iff.1 hc with rfl | rfl | rfl <;> decide

end Compares

/-! ## One token of the reader -/

section Token

variable {e rest after look : List Char} {w : List Nat} {a b c quote : Char} {code : Nat}

/-- A single character with a meaning of its own is read with the same meaning. -/
theorem singleEscape?_facts (h : singleEscape? c = some code) : Writes ['\\', c] code ∧
    code < 0x10000 ∧ isOctal c = false ∧ c ≠ 'x' ∧ c ≠ 'u' ∧ c ≠ '\r' ∧ c ≠ '?' := by
  unfold singleEscape? at h
  split at h
  case h_10 => cases h
  all_goals
    cases h
    refine ⟨?_, by decide⟩
    first
      | exact .simple rfl
      | exact .identity rfl rfl rfl (by decide) (by decide)

/-- Apart from digits, no other character has a meaning of its own for the reader. -/
theorem simple?_of_singleEscape? (h : singleEscape? c = none) (hdigit : c.isDigit = false) :
    simple? c = none := by
  unfold simple?
  split
  case h_8 => rfl
  case h_7 => cases hdigit
  all_goals cases h

theorem isDigit_of_isOctal (h : isOctal c = true) : c.isDigit = true := by
  have hdigit : c.isDigit = ('0' ≤ c && c ≤ '9') := rfl
  rw [isOctal_iff] at h
  rw [hdigit, Bool.and_eq_true, decide_eq_true_iff, decide_eq_true_iff, char_le_iff, char_le_iff]
  simp only [Char.reduceToNat]
  omega

theorem head?_any_append {p : Char → Bool} (hquote : p quote = false) (h : rest.head?.any p = false) :
    (rest ++ quote :: after).head?.any p = false := by
  cases rest with
  | nil => exact hquote
  | cons d rest => exact h

theorem exists_cons_of_head?_any {p : Char → Bool} (hquote : p quote = false)
    (h : (rest ++ quote :: after).head?.any p ≠ false) :
    ∃ d rest', rest = d :: rest' ∧ p d = true := by
  cases rest with
  | nil => exact absurd hquote h
  | cons d rest => exact ⟨d, rest, rfl, Bool.not_eq_false _ ▸ h⟩

/-- Three octal digits of which the first is at most `3` are below 256. -/
theorem octalNumber_le (ha : a ≤ '3') (hcode : number? 8 octalDigit? [a, b, c] = some code) :
    code ≤ 0o377 := by
  have hb := isOctal_iff.1 (isOctal_of_number? hcode b (by simp))
  have hc := isOctal_iff.1 (isOctal_of_number? hcode c (by simp))
  rw [← octalNumber_of_number? hcode]
  rw [char_le_iff] at ha
  simp only [octalNumber, List.foldl_cons, List.foldl_nil, Char.reduceToNat] at ha ⊢
  omega

/-- The token at an escape sequence of the language holds it, and possibly characters of the text
    behind it. -/
def Meets (after e rest : List Char) (w : List Nat) : Prop :=
  ∃ s rest', rest = s ++ rest' ∧ (∀ c ∈ s, c ≠ '\\') ∧
    Lexeme.escapeSequence ('\\' :: (e ++ (rest ++ after))) = ('\\' :: (e ++ s)).length ∧
    Compares e s w

/-- Most tokens hold the escape sequence only. -/
theorem meets_alone (hlength : Lexeme.escapeSequence ('\\' :: (e ++ (rest ++ after))) = e.length + 1)
    (hcompares : Compares e [] w) : Meets after e rest w :=
  ⟨[], rest, rfl, fun _ hc => (List.not_mem_nil hc).elim, by
    rw [hlength, List.append_nil, List.length_cons], hcompares⟩

/-- A token may hold one more character than the escape sequence of the language. -/
theorem meets_longer (hc : c ≠ '\\')
    (hlength : Lexeme.escapeSequence ('\\' :: (e ++ (c :: rest ++ after))) = e.length + 2)
    (hcompares : Compares e [c] w) : Meets after e (c :: rest) w :=
  ⟨[c], rest, rfl, by rwa [List.forall_mem_singleton],
    by rw [hlength, List.length_cons, List.length_append, List.length_singleton], hcompares⟩

variable (hquote : quote = '\'' ∨ quote = '"')

include hquote

theorem isOctal_quote : isOctal quote = false := by
  rcases hquote with rfl | rfl <;> rfl

theorem isLineBreak_quote : isLineBreak quote = false := by
  rcases hquote with rfl | rfl <;> rfl

/-- An octal escape of the language is a token, if it has three digits or no octal digit follows. -/
theorem meets_octal (hcode : number? 8 octalDigit? e = some code) (hle : code ≤ 0o377)
    (hlook : e.length = 3 ∨ e.length < 3 ∧ rest.head?.any isOctal = false) :
    Meets (quote :: after) e rest [code] := by
  have hlength : e.length ≤ 3 := by omega
  refine meets_alone (escapeSequence_octal (digits_of_number? hcode).1 (isOctal_of_number? hcode) ?_)
    (compares_of_writes (.octal hlength hcode hle) (Utf16.unitsOf_of_lt (by omega)).symm)
  exact hlook.imp_right (And.imp_right (head?_any_append (isOctal_quote hquote)))

/-- After a first digit of `4` or more the language reads only two, but the token may hold three. -/
theorem meets_octalHigh (ha : '4' ≤ a) (hcode : number? 8 octalDigit? [a, b] = some code) :
    Meets (quote :: after) [a, b] rest [code] := by
  have hlt : code < 8 ^ 2 := number?_lt (by decide) (fun c d => octalDigit?_lt) hcode
  by_cases hlook : (rest ++ quote :: after).head?.any isOctal = false
  · refine meets_octal hquote hcode (by omega) (.inr ⟨by simp, ?_⟩)
    cases rest with
    | nil => rfl
    | cons d rest => exact hlook
  · obtain ⟨d, rest', rfl, hd⟩ := exists_cons_of_head?_any (isOctal_quote hquote) hlook
    refine meets_longer ?_ ?_ (compares_of_octalHigh ha hcode hd)
    · rintro rfl
      cases hd
    · exact escapeSequence_octal (List.cons_ne_nil _ _) (isOctal_of_pair hcode hd) (.inl rfl)

/-- A character without a meaning of its own stands for itself. -/
theorem meets_nonEscape (hsingle : singleEscape? c = none) (hdigit : c.isDigit = false) (hx : c ≠ 'x')
    (hu : c ≠ 'u') (hline : isLineEnd c = false) :
    Meets (quote :: after) [c] rest (Utf16.unitsOf c.toNat) := by
  have hoctal : isOctal c = false := Bool.eq_false_iff.2 fun h => by
    rw [isDigit_of_isOctal h] at hdigit
    cases hdigit
  have hwrites : Writes ['\\', c] c.toNat :=
    .identity (simple?_of_singleEscape? hsingle hdigit) hline hoctal hx hu
  have hreturn : c ≠ '\r' := by
    rintro rfl
    cases hline
  by_cases hlook : c = '?' ∧ (rest ++ quote :: after).head?.any isLineBreak ≠ false
  · obtain ⟨rfl, hlook⟩ := hlook
    obtain ⟨d, rest', rfl, hd⟩ := exists_cons_of_head?_any (isLineBreak_quote hquote) hlook
    refine meets_longer ?_ (escapeSequence_lineBreak (.inr rfl) hd) (compares_of_question hd)
    rintro rfl
    cases hd
  · refine meets_alone (escapeSequence_other hoctal hx hu fun h => ?_)
      (compares_of_writes hwrites rfl)
    exact not_not.1 (not_and.1 hlook (h.resolve_left hreturn))

/-- A carriage return without a line feed continues a line alone. -/
theorem meets_carriageReturn (hrest : rest.head? ≠ some '\n') :
    Meets (quote :: after) ['\r'] rest [] := by
  by_cases hlook : (rest ++ quote :: after).head?.any isLineBreak = false
  · exact meets_alone (escapeSequence_other rfl (by decide) (by decide) fun _ => hlook)
      (compares_of_continues (.single rfl) (not_beyond_single _))
  · obtain ⟨d, rest', rfl, hd⟩ := exists_cons_of_head?_any (isLineBreak_quote hquote) hlook
    have hseparator : d = '\u2028' ∨ d = '\u2029' :=
      (isLineBreak_iff.1 hd).resolve_left fun h => hrest (congrArg some h)
    refine meets_longer ?_ (escapeSequence_lineBreak (.inl rfl) hd) (compares_of_separator hseparator)
    rintro rfl
    cases hd

omit hquote in
/-- An escape of a fixed number of hexadecimal digits is a token of its own. -/
theorem meets_hexDigits {x : Char} {digits : List Char}
    (hcode : number? 16 hexDigit? digits = some code)
    (hlength : digits.length ≤ 4) (hwrites : Writes ('\\' :: x :: digits) code)
    (htoken : ∀ look, Lexeme.escapeSequence ('\\' :: x :: (digits ++ look)) = digits.length + 2) :
    Meets after (x :: digits) rest [code] := by
  have hlt : code < 16 ^ digits.length := number?_lt (by decide) (fun c d => hexDigit?_lt) hcode
  have hpow : 16 ^ digits.length ≤ 16 ^ 4 := Nat.pow_le_pow_right (by decide) hlength
  exact meets_alone (htoken _) (compares_of_writes hwrites (Utf16.unitsOf_of_lt (by omega)).symm)

omit hquote in
/-- A code point in braces is a token of its own. -/
theorem meets_codePoint {digits : List Char} (hcode : number? 16 hexDigit? digits = some code)
    (hle : code ≤ lastCodePoint) :
    Meets after ('u' :: '\x7b' :: (digits ++ ['\x7d'])) rest (Utf16.unitsOf code) := by
  refine meets_alone ?_ (compares_of_writes (.braced hcode hle) rfl)
  rw [List.cons_append, List.cons_append, List.append_assoc, List.singleton_append,
    escapeSequence_codePoint (digits_of_number? hcode).1 (isHexDigit_of_number? hcode),
    List.length_cons, List.length_cons, List.length_append, List.length_singleton]

/-- At every escape sequence of the language there is a token that holds it. -/
theorem meets_of_escapeSequence (after : List Char) (h : EscapeSequence e rest w) :
    Meets (quote :: after) e rest w := by
  cases h with
  | single hcode =>
    obtain ⟨hwrites, hlt, hoctal, hx, hu, hreturn, hquestion⟩ := singleEscape?_facts hcode
    exact meets_alone
      (escapeSequence_other hoctal hx hu fun h => absurd h (not_or.2 ⟨hreturn, hquestion⟩))
      (compares_of_writes hwrites (Utf16.unitsOf_of_lt hlt).symm)
  | nonEscape hsingle hdigit hx hu hline => exact meets_nonEscape hquote hsingle hdigit hx hu hline
  | null hrest =>
    refine meets_octal hquote rfl (by decide) (.inr ⟨by decide, ?_⟩)
    cases rest with
    | nil => rfl
    | cons d rest =>
      refine Bool.eq_false_iff.2 fun h => ?_
      rw [List.head?_cons, Option.any_some, isDigit_of_isOctal h] at hrest
      cases hrest
  | octalNull hrest =>
    refine meets_octal hquote rfl (by decide) (.inr ⟨by decide, ?_⟩)
    rcases hrest with hrest | hrest <;>
      · rw [hrest]
        rfl
  | @octalOne a code rest _ hcode hrest =>
    have hlt : code < 8 ^ 1 := number?_lt (by decide) (fun c d => octalDigit?_lt) hcode
    exact meets_octal hquote hcode (by omega) (.inr ⟨by simp, hrest⟩)
  | @octalTwo a b code rest _ hcode hrest =>
    have hlt : code < 8 ^ 2 := number?_lt (by decide) (fun c d => octalDigit?_lt) hcode
    exact meets_octal hquote hcode (by omega) (.inr ⟨by simp, hrest⟩)
  | octalHigh ha hcode => exact meets_octalHigh hquote ha hcode
  | octalThree ha hcode => exact meets_octal hquote hcode (octalNumber_le ha hcode) (.inl rfl)
  | decimal hc =>
    rcases hc with rfl | rfl <;>
      exact meets_alone
        (escapeSequence_other rfl (by decide) (by decide) fun h => absurd h (by decide))
        (compares_of_writes (.identity rfl rfl rfl (by decide) (by decide)) rfl)
  | hex hlength hcode =>
    exact meets_hexDigits hcode (by omega) (.hex hlength hcode) fun look =>
      (escapeSequence_hex hlength (isHexDigit_of_number? hcode)).trans (by rw [hlength])
  | unicode hlength hcode =>
    exact meets_hexDigits hcode (by omega) (.unicode hlength hcode) fun look =>
      (escapeSequence_unicode hlength (isHexDigit_of_number? hcode)).trans (by rw [hlength])
  | codePoint hcode hle => exact meets_codePoint hcode hle
  | line hc =>
    rcases hc with rfl | rfl | rfl <;>
      exact meets_alone
        (escapeSequence_other rfl (by decide) (by decide) fun h => absurd h (by decide))
        (compares_of_continues (.single rfl) (not_beyond_single _))
  | carriageReturn hrest => exact meets_carriageReturn hquote hrest
  | doubleEnd =>
    refine meets_alone (escapeSequence_lineBreak (.inl rfl) rfl)
      (compares_of_continues (.double (.inl rfl)) ?_)
    intro h
    cases h with
    | octal hcode _ => exact absurd (isOctal_of_number? hcode '\r' List.mem_cons_self) (by decide)
    | separator hc => rcases hc with hc | hc <;> exact absurd hc (by decide)

end Token

/-! ## All tokens of a literal -/

section Literals

variable {quote : Char} {s body after e rest : List Char} {parts : List Part} {v w : List Nat}

/-- Characters that are no backslash stand for themselves. -/
theorem denotes_append (hs : ∀ c ∈ s, c ≠ '\\') (h : Denotes quote (s ++ rest) v) :
    ∃ v', v = Utf16.units (s.map Char.toNat) ++ v' ∧ Denotes quote rest v' := by
  induction s generalizing v with
  | nil => exact ⟨v, rfl, h⟩
  | cons c s ih =>
    obtain ⟨hc, hs⟩ := List.forall_mem_cons.1 hs
    rw [List.cons_append] at h
    generalize hl : s ++ rest = l at h
    cases h with
    | source _ _ _ _ hrest =>
      obtain ⟨v', rfl, hv'⟩ := ih hs (hl ▸ hrest)
      exact ⟨v', by rw [List.map_cons, Utf16.units_cons, List.append_assoc], hv'⟩
    | escape _ _ => exact absurd rfl hc

/-- A token begins with a backslash. -/
theorem exists_cons_of_token {look : List Char} (hne : e ≠ [])
    (hlength : Lexeme.escapeSequence (e ++ look) = e.length) : ∃ e', e = '\\' :: e' := by
  obtain ⟨c, e, rfl⟩ := List.exists_cons_of_ne_nil hne
  by_cases hc : c = '\\'
  · exact ⟨e, by rw [hc]⟩
  · rw [List.cons_append, Lexeme.escapeSequence.eq_3 _ (by simp [hc])] at hlength
    cases hlength

/-- A token is read where the language reads an escape sequence, and the language goes on behind the
    token. -/
theorem denotes_token (hquote : quote = '\'' ∨ quote = '"') (hne : e ≠ [])
    (hlength : Lexeme.escapeSequence (e ++ (rest ++ quote :: after)) = e.length)
    (h : Denotes quote (e ++ rest) v) :
    ∃ w v', v = w ++ v' ∧ Denotes quote rest v' ∧
      (¬Beyond e ∧ Utf16.units (value e) = w ∨ Beyond e ∧
        (Utf16.units (value e)).length < w.length) := by
  obtain ⟨e', he'⟩ := exists_cons_of_token hne hlength
  generalize hbody : e ++ rest = body at h
  rw [← List.append_assoc, hbody] at hlength
  cases h with
  | nil => exact absurd (List.append_eq_nil_iff.1 hbody).1 hne
  | source _ hbackslash _ _ _ =>
    rw [he'] at hbody
    exact absurd (List.cons.inj hbody).1.symm hbackslash
  | @escape sequence body w v hsequence hrest =>
    obtain ⟨s, rest', rfl, hs, hlength', hcompares⟩ :=
      meets_of_escapeSequence hquote after hsequence
    rw [List.cons_append, List.append_assoc, hlength'] at hlength
    obtain ⟨rfl, rfl⟩ : e = '\\' :: (sequence ++ s) ∧ rest = rest' :=
      List.append_inj (by rw [hbody, List.cons_append, List.append_assoc]) hlength.symm
    obtain ⟨v', rfl, hv'⟩ := denotes_append hs hrest
    exact ⟨_, v', (List.append_assoc _ _ _).symm, hv', hcompares⟩

/-- The parts of a literal have the units that the language reads, or fewer if a token is beyond the
    escape sequences of the language. -/
theorem units_of_tokens (hquote : quote = '\'' ∨ quote = '"')
    (htokens : Tokens (quote :: after) body parts) (h : Denotes quote body v) :
    (∀ e, .escape e ∈ parts → ¬Beyond e) ∧ Utf16.units (parts.flatMap Part.codes) = v ∨
      (∃ e, .escape e ∈ parts ∧ Beyond e) ∧
        (Utf16.units (parts.flatMap Part.codes)).length < v.length := by
  induction htokens generalizing v with
  | nil =>
    cases h
    exact .inl ⟨fun e he => (List.not_mem_nil he).elim, rfl⟩
  | @raw s rest parts hraw _ ih =>
    obtain ⟨v', rfl, hv'⟩ := denotes_append hraw h
    rw [List.flatMap_cons, Utf16.units_append]
    rcases ih hv' with ⟨hbeyond, hunits⟩ | ⟨⟨e, he, hbeyond⟩, hlt⟩
    · refine .inl ⟨fun e he => hbeyond e ?_, by rw [hunits, Part.codes]⟩
      exact (List.mem_cons.1 he).resolve_left Part.noConfusion
    · refine .inr ⟨⟨e, List.mem_cons_of_mem _ he, hbeyond⟩, ?_⟩
      rw [List.length_append, List.length_append]
      exact Nat.add_lt_add_left hlt _
  | @escape e rest parts hne hlength _ ih =>
    obtain ⟨w, v', rfl, hv', hcompares⟩ := denotes_token hquote hne hlength h
    rw [List.flatMap_cons, Utf16.units_append, Part.codes]
    have hle : (Utf16.units (value e)).length ≤ w.length := by
      rcases hcompares with ⟨-, hunits⟩ | ⟨-, hlt⟩
      · rw [hunits]
      · omega
    rcases ih hv' with ⟨hrest, hunits⟩ | ⟨⟨e', he', hbeyond'⟩, hlt'⟩
    · rcases hcompares with ⟨hbeyond, hunits'⟩ | ⟨hbeyond, hlt⟩
      · refine .inl ⟨fun e' he' => ?_, by rw [hunits, hunits']⟩
        rcases List.mem_cons.1 he' with he' | he'
        · rwa [Part.escape.inj he']
        · exact hrest e' he'
      · refine .inr ⟨⟨e, List.mem_cons_self, hbeyond⟩, ?_⟩
        rw [List.length_append, List.length_append, hunits]
        omega
    · refine .inr ⟨⟨e', List.mem_cons_of_mem _ he', hbeyond'⟩, ?_⟩
      rw [List.length_append, List.length_append]
      omega

/-! ## The length of what is read -/

/-- A text has at least one unit for each of its characters. -/
theorem length_le_length_units (s : List Char) :
    s.length ≤ (Utf16.units (s.map Char.toNat)).length := by
  induction s with
  | nil => exact Nat.le_refl _
  | cons c s ih =>
    have := length_unitsOf_pos c.toNat
    rw [List.map_cons, Utf16.units_cons, List.length_append, List.length_cons]
    omega

/-- An escape sequence has no more units than what is written for it. -/
theorem length_le_of_escapeSequence (h : EscapeSequence e rest w) :
    w.length ≤ (Utf16.units (e.map Char.toNat)).length := by
  have hle := length_le_length_units e
  cases h with
  | nonEscape => rw [List.map_singleton, Utf16.units_singleton]
  | @codePoint digits code _ _ _ =>
    have htwo : (Utf16.unitsOf code).length ≤ 2 := by
      rw [Utf16.unitsOf]
      split
      · exact Nat.le_succ 1
      · exact Nat.le_refl 2
    rw [List.length_cons, List.length_cons] at hle
    omega
  | line | carriageReturn | doubleEnd => exact Nat.zero_le _
  | _ =>
    rw [List.length_cons] at hle
    rw [List.length_singleton]
    omega

/-- A literal has no more units than what is written for it, and fewer if there is a backslash. -/
theorem length_of_denotes (h : Denotes quote body v) :
    v.length ≤ (Utf16.units (body.map Char.toNat)).length ∧
      ('\\' ∈ body → v.length < (Utf16.units (body.map Char.toNat)).length) := by
  induction h with
  | nil => exact ⟨Nat.le_refl _, fun h => (List.not_mem_nil h).elim⟩
  | @source c rest v _ hbackslash _ _ _ ih =>
    rw [List.map_cons, Utf16.units_cons, List.length_append, List.length_append]
    refine ⟨by omega, fun h => ?_⟩
    have := ih.2 ((List.mem_cons.1 h).resolve_left hbackslash.symm)
    omega
  | @escape e rest w v he _ ih =>
    have hle := length_le_of_escapeSequence he
    have hpos := length_unitsOf_pos '\\'.toNat
    rw [List.map_cons, Utf16.units_cons, List.map_append, Utf16.units_append, List.length_append,
      List.length_append, List.length_append]
    exact ⟨by omega, fun _ => by omega⟩

/-- The units of a text that is read from some units are these units again. -/
theorem units_of_decode?_codes {t : List Char}
    (h : Utf16.decode? (Utf16.units (parts.flatMap Part.codes)) = some t) :
    Utf16.units (t.map Char.toNat) = Utf16.units (parts.flatMap Part.codes) :=
  Utf16.units_of_decode? (fun _ hu => Utf16.lt_of_mem_units (codes_lt parts) hu) h

/-- Without a backslash there is no escape sequence. -/
theorem backslash_mem_of_tokens (h : Tokens after body parts) (he : .escape e ∈ parts) :
    '\\' ∈ body := by
  induction h with
  | nil => cases he
  | raw _ _ ih =>
    rcases List.mem_cons.1 he with he | he
    · cases he
    · exact List.mem_append_right _ (ih he)
  | @escape e' rest parts hne hlength _ ih =>
    rcases List.mem_cons.1 he with he | he
    · obtain ⟨e', rfl⟩ := exists_cons_of_token hne hlength
      exact List.mem_cons_self
    · exact List.mem_append_right _ (ih he)

/-- The tokens of a text are the whole text. -/
theorem text_of_tokens (h : Tokens after body parts) : parts.flatMap Part.text = body := by
  induction h with
  | nil => rfl
  | raw _ _ ih => rw [List.flatMap_cons, ih, Part.text]
  | escape _ _ _ ih => rw [List.flatMap_cons, ih, Part.text]

end Literals

/-- The value of a string literal is the text that the language reads in it, exactly if no token of
    the reader goes beyond the escape sequences of the language: a number of three octal digits above
    `\377`, or a continued line whose carriage return stands before a separator of lines. -/
theorem value?_eq_denoted (text : String) (n : Node) (quote : Char) (body after : List Char)
    (parts : List Part)
    (t : String) (hquote : quote = '\'' ∨ quote = '"') (hparts : ConsistsOf text.toList n parts)
    (htokens : Tokens (quote :: after) body parts)
    (hdenotes : Denotes quote body (Utf16.units (t.toList.map Char.toNat))) :
    value? (Source.ofText text) n = some t ↔ ∀ e, .escape e ∈ parts → ¬Beyond e := by
  rw [value?_of_consistsOf hparts, Option.some.injEq]
  rcases units_of_tokens hquote htokens hdenotes with ⟨hbeyond, hunits⟩ | ⟨⟨e, he, hbeyond⟩, hlt⟩
  · rw [hunits, Utf16.decode?_units, Option.getD_some, String.ofList_toList]
    exact iff_of_true rfl hbeyond
  · refine iff_of_false (fun ht => ?_) fun h => h e he hbeyond
    -- The text has fewer units than the language reads, or is raw and has more of them.
    cases hdecode : Utf16.decode? (Utf16.units (parts.flatMap Part.codes)) with
    | some t' =>
      rw [hdecode, Option.getD_some] at ht
      rw [← units_of_decode?_codes hdecode, ← ht, String.toList_ofList] at hlt
      exact Nat.lt_irrefl _ hlt
    | none =>
      rw [hdecode, Option.getD_none, text_of_tokens htokens] at ht
      have hmore := (length_of_denotes hdenotes).2 (backslash_mem_of_tokens htokens he)
      rw [← ht, String.toList_ofList] at hmore
      exact Nat.lt_irrefl _ hmore

/-- An octal escape before a digit that is not octal, and one of three digits before a fourth one. -/
theorem value?_eq_denoted_of_digits :
    let text := "'ü\\08\\3777'"
    let part (symbol : String) (start stop : Nat) : Node :=
      { symbol, start, stop, point := ⟨0, start⟩ }
    let quote (start : Nat) : Node := { part "'" start (start + 1) with named := false }
    let n : Node := { part "string" 0 12 with
      children :=
      [quote 0, part "string_fragment" 1 3, part "escape_sequence" 3 5, part "string_fragment" 5 6,
        part "escape_sequence" 6 10, part "string_fragment" 10 11, quote 11] }
    let parts :=
      [Part.raw ['ü'], .escape ['\\', '0'], .raw ['8'], .escape ['\\', '3', '7', '7'], .raw ['7']]
    ConsistsOf text.toList n parts ∧ Tokens ['\''] (parts.flatMap Part.text) parts ∧
      Denotes '\'' (parts.flatMap Part.text) (Utf16.units ("ü\x008ÿ7".toList.map Char.toNat)) ∧
      value? (Source.ofText text) n = some "ü\x008ÿ7" := by
  intro text part quote n parts
  have hparts : ConsistsOf text.toList n parts :=
    ⟨by decide +kernel, ⟨'\'', '\'', by decide +kernel⟩, by decide +kernel⟩
  have htokens : Tokens ['\''] (parts.flatMap Part.text) parts :=
    .raw (List.forall_mem_singleton.2 (by decide)) (.escape (by decide) (by decide)
      (.raw (List.forall_mem_singleton.2 (by decide)) (.escape (by decide) (by decide)
        (.raw (List.forall_mem_singleton.2 (by decide)) .nil))))
  have hdenotes :
      Denotes '\'' (parts.flatMap Part.text) (Utf16.units ("ü\x008ÿ7".toList.map Char.toNat)) :=
    .source (by decide) (by decide) (by decide) (by decide) (.escape (.octalNull (.inl rfl))
      (.source (by decide) (by decide) (by decide) (by decide) (.escape (.octalThree (by decide) rfl)
        (.source (by decide) (by decide) (by decide) (by decide) .nil))))
  refine ⟨hparts, htokens, hdenotes,
    (value?_eq_denoted text n '\'' _ [] parts _ (.inl rfl) hparts htokens hdenotes).2 fun e he => ?_⟩
  simp only [parts, List.mem_cons, List.not_mem_nil, or_false, reduceCtorEq, false_or,
    Part.escape.injEq] at he
  rcases he with rfl | rfl
  · exact not_beyond_single '0'
  · exact not_beyond_of_writes (@Writes.octal ['3', '7', '7'] 255 (by decide) rfl (by decide))

/-- Of three octal digits above the largest number, the language leaves out the last one, and the
    reader does not. -/
theorem value?_ne_denoted :
    let text := "'\\400'"
    let body := ['\\', '4', '0', '0']
    let part (symbol : String) (start stop : Nat) : Node :=
      { symbol, start, stop, point := ⟨0, start⟩ }
    let quote (start : Nat) : Node := { part "'" start (start + 1) with named := false }
    let n : Node :=
      { part "string" 0 6 with children := [quote 0, part "escape_sequence" 1 5, quote 5] }
    ConsistsOf text.toList n [.escape body] ∧ Tokens ['\''] body [.escape body] ∧
      Denotes '\'' body (Utf16.units (" 0".toList.map Char.toNat)) ∧
      value? (Source.ofText text) n = some "Ā" ∧
      (reading text.toList).root.preorder.filterMap (value? (Source.ofText text)) = ["Ā"] := by
  intro text body part quote n
  refine ⟨⟨by decide +kernel, ⟨'\'', '\'', by decide +kernel⟩, by decide +kernel⟩,
    @Tokens.escape ['\''] body [] [] (by decide) (by decide) .nil, ?_, by decide +kernel, by
      decide +kernel⟩
  exact .escape (.octalHigh (by decide) rfl)
    (.source (by decide) (by decide) (by decide) (by decide) .nil)

end BundleManifest.Script.Literal
