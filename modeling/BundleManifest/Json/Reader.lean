import BundleManifest.Value

/-!
# Reading JSON

A text in JSON format is read from left to right. What cannot be read has a `Fault`, which is told
together with its place: the line and the column, counted from one, and the number of characters
before it.

Besides the format itself, the reader knows the three number words `NaN`, `Infinity` and `-Infinity`.
In an object with equal names the last value counts, at the place of the first.

The format does not limit the digits of an integer, nor how deep lists and objects are nested, but a
reader may: where a `limit` is given, no integer has more digits, and where a `depth` is given, no
more brackets are open at a time.
-/

namespace BundleManifest.Json

open Number

/-- What is wrong with a text. -/
inductive Fault where
  | byteOrderMark
  | valueExpected
  | nameExpected
  | colonExpected
  | commaExpected
  | extraText
  | openString
  | controlCharacter
  | badEscape
  | badUnicodeEscape
  deriving DecidableEq, Repr

/-- What is wrong, in words. -/
def Fault.message : Fault → String
  | byteOrderMark => "Unexpected UTF-8 BOM (decode using utf-8-sig)"
  | valueExpected => "Expecting value"
  | nameExpected => "Expecting property name enclosed in double quotes"
  | colonExpected => "Expecting ':' delimiter"
  | commaExpected => "Expecting ',' delimiter"
  | extraText => "Extra data"
  | openString => "Unterminated string starting at"
  | controlCharacter => "Invalid control character at"
  | badEscape => "Invalid \\escape"
  | badUnicodeEscape => "Invalid \\uXXXX escape"

/-- Why a text is not read. -/
inductive Error where
  /-- The text is faulty at a place. -/
  | malformed (fault : Fault) (line column position : Nat)
  /-- An integer has more digits than are read. -/
  | tooManyDigits
  /-- More brackets are open than are read. -/
  | tooDeep
  deriving DecidableEq, Repr

/-- The error in words. -/
def Error.message : Error → String
  | malformed fault line column position =>
    fault.message ++ ": line " ++ toString line ++ " column " ++ toString column ++ " (char "
      ++ toString position ++ ")"
  | tooManyDigits => "Too many digits"
  | tooDeep => "Too many brackets"

/-- Why reading stops. -/
inductive Stop where
  /-- There is a fault, and the text from there on. -/
  | fault (fault : Fault) (rest : List Char)
  /-- An integer has more digits than are read. -/
  | tooManyDigits
  /-- More brackets are open than are read. -/
  | tooDeep

/-- A value that was read and the text behind it, or why reading stops. -/
abbrev Step (α : Type) : Type := Except Stop (α × List Char)

/-- Whether a character is white space. -/
def isBlank (c : Char) : Bool :=
  c = ' ' || c = '\t' || c = '\n' || c = '\r'

/-- The text behind white space. -/
def skipBlank (s : List Char) : List Char :=
  s.dropWhile isBlank

/-! ## Strings -/

/-- The value of a hexadecimal digit. -/
def hexDigit? (c : Char) : Option Nat :=
  if '0' ≤ c && c ≤ '9' then some (c.toNat - '0'.toNat)
  else if 'a' ≤ c && c ≤ 'f' then some (c.toNat - 'a'.toNat + 10)
  else if 'A' ≤ c && c ≤ 'F' then some (c.toNat - 'A'.toNat + 10)
  else none

/-- The unit with the four hexadecimal digits at the beginning of a text, behind which it goes on. -/
def unit? : List Char → Option Nat
  | a :: b :: c :: d :: _ :: _ => do
    return (((← hexDigit? a) * 16 + (← hexDigit? b)) * 16 + (← hexDigit? c)) * 16 + (← hexDigit? d)
  | _ => none

/-- Whether a unit is the first half of a pair. -/
def isHigh (unit : Nat) : Bool :=
  0xD800 ≤ unit && unit < 0xDC00

/-- Whether a unit is the second half of a pair. -/
def isLow (unit : Nat) : Bool :=
  0xDC00 ≤ unit && unit < 0xE000

/-- The escaped second half of a pair at the beginning of a text. -/
def partner? : List Char → Option Nat
  | '\\' :: 'u' :: rest => (unit? rest).filter isLow
  | _ => none

/-- The character of a unit. Half of a pair has none, and is replaced. -/
def unitChar (unit : Nat) : Char :=
  if isHigh unit || isLow unit then '\uFFFD' else Char.ofNat unit

/-- The character of a pair. -/
def pairChar (high low : Nat) : Char :=
  Char.ofNat (0x10000 + (high - 0xD800) * 0x400 + (low - 0xDC00))

/-- The character of an escape of one letter. -/
def letterEscape? (c : Char) : Option Char :=
  if c = '"' || c = '\\' || c = '/' then some c
  else if c = 'b' then some '\x08'
  else if c = 'f' then some '\x0C'
  else if c = 'n' then some '\n'
  else if c = 'r' then some '\r'
  else if c = 't' then some '\t'
  else none

/-- Reads a string to its end, with the characters read so far, the last one first. `opening` is the
    text from its opening quote on. -/
def stringFrom (opening acc : List Char) : List Char → Step String
  | [] => .error (.fault .openString opening)
  | c :: rest =>
    if c = '"' then .ok (String.ofList acc.reverse, rest)
    else if c = '\\' then
      match rest with
      | [] => .error (.fault .openString opening)
      | e :: more =>
        if e = 'u' then
          match unit? more with
          | none => .error (.fault .badUnicodeEscape rest)
          | some high =>
            match if isHigh high then partner? (more.drop 4) else none with
            | some low => stringFrom opening (pairChar high low :: acc) (more.drop 10)
            | none => stringFrom opening (unitChar high :: acc) (more.drop 4)
        else
          match letterEscape? e with
          | some x => stringFrom opening (x :: acc) more
          | none => .error (.fault .badEscape (c :: rest))
    else if c.toNat < 0x20 then .error (.fault .controlCharacter (c :: rest))
    else stringFrom opening (c :: acc) rest
  termination_by s => s.length
  decreasing_by all_goals subst_vars; simp only [List.length_drop, List.length_cons]; omega

/-! ## Numbers -/

/-- The number with given decimal digits. -/
def digitsValue (ds : List Char) : Nat :=
  ds.foldl (fun n c => n * 10 + (c.toNat - '0'.toNat)) 0

/-- The limit of settings files: the greatest number of digits of an integer in one. -/
def maxDigits : Nat := 4300

variable (limit : Option Nat)

/-- Whether a number of digits is beyond the limit. -/
def tooLong (digits : Nat) : Bool :=
  limit.any (· < digits)

/-- An exponent and the text behind it. -/
def exponent? : List Char → Option (Int × List Char)
  | e :: rest =>
    if e = 'e' || e = 'E' then
      let (negative, ds) := match rest with
        | '-' :: more => (true, more)
        | '+' :: more => (false, more)
        | _ => (false, rest)
      let found := ds.takeWhile Char.isDigit
      if found.isEmpty then none
      else
        let n : Int := digitsValue found
        some (if negative then -n else n, ds.drop found.length)
    else none
  | [] => none

/-- The digits of a number before the point. -/
def wholeDigits (s : List Char) : List Char :=
  if s.head? = some '0' then ['0'] else s.takeWhile Char.isDigit

/-- The digits of a number behind the point, if it has one. -/
def fractionDigits : List Char → List Char
  | '.' :: more => more.takeWhile Char.isDigit
  | _ => []

/-- Reads a number behind its sign. The text `s` begins with the sign. -/
def numberFrom (negative : Bool) (s body : List Char) : Step Value :=
  let whole := wholeDigits body
  if whole.isEmpty then .error (.fault .valueExpected s)
  else
    let behind := body.drop whole.length
    let fraction := fractionDigits behind
    let behind := if fraction.isEmpty then behind else behind.drop (fraction.length + 1)
    match fraction.isEmpty, exponent? behind with
    | true, none =>
      if tooLong limit whole.length then .error .tooManyDigits
      else
        let n : Int := digitsValue whole
        .ok (.int (if negative then -n else n), behind)
    | _, e =>
      let (e, behind) := e.getD (0, behind)
      let x := Binary64.ofDecimal negative (digitsValue (whole ++ fraction)) (e - fraction.length)
      .ok (.float x, behind)

/-- Reads a number. -/
def number (s : List Char) : Step Value :=
  match s with
  | '-' :: body => numberFrom limit true s body
  | _ => numberFrom limit false s s

/-- The words that are values. -/
def words : List (String × Value) :=
  [("null", .null), ("true", .bool true), ("false", .bool false), ("NaN", .float .nan),
    ("Infinity", .float (.infinite false)), ("-Infinity", .float (.infinite true))]

/-- Reads a word or a number. -/
def scalar (s : List Char) : Step Value :=
  match words.find? fun (word, _) => word.toList.isPrefixOf s with
  | some (word, v) => .ok (v, s.drop word.length)
  | none => number limit s

/-! ## Values -/

/-- How many more brackets can be open inside one, unless this is one too many. -/
def inside? : Option Nat → Option (Option Nat)
  | none => some none
  | some 0 => none
  | some (n + 1) => some (some n)

mutual

/-- Reads a value, where a number of brackets can be opened. -/
def value : Nat → Option Nat → List Char → Step Value
  | 0, _, s => .error (.fault .valueExpected s)
  | fuel + 1, depth, s =>
    match s with
    | '"' :: rest =>
      match stringFrom s [] rest with
      | .ok (text, rest) => .ok (.text text, rest)
      | .error e => .error e
    | '[' :: rest =>
      match inside? depth with
      | none => .error .tooDeep
      | some inner =>
        match skipBlank rest with
        | ']' :: rest => .ok (.list [], rest)
        | rest => items fuel inner [] rest
    | '{' :: rest =>
      match inside? depth with
      | none => .error .tooDeep
      | some inner =>
        match skipBlank rest with
        | '}' :: rest => .ok (.mapping [], rest)
        | rest => entries fuel inner [] rest
    | _ => scalar limit s

/-- Reads the items of a list, with those read so far, the last one first. -/
def items : Nat → Option Nat → List Value → List Char → Step Value
  | 0, _, _, s => .error (.fault .valueExpected s)
  | fuel + 1, depth, acc, s =>
    match value fuel depth s with
    | .error e => .error e
    | .ok (v, rest) =>
      match skipBlank rest with
      | ']' :: rest => .ok (.list (v :: acc).reverse, rest)
      | ',' :: rest => items fuel depth (v :: acc) (skipBlank rest)
      | rest => .error (.fault .commaExpected rest)

/-- Reads the entries of an object, with those read so far. -/
def entries : Nat → Option Nat → List (Value × Value) → List Char → Step Value
  | 0, _, _, s => .error (.fault .valueExpected s)
  | fuel + 1, depth, acc, s =>
    match s with
    | '"' :: rest =>
      match stringFrom s [] rest with
      | .error e => .error e
      | .ok (name, rest) =>
        match skipBlank rest with
        | ':' :: rest =>
          match value fuel depth (skipBlank rest) with
          | .error e => .error e
          | .ok (v, rest) =>
            let acc := Value.insert (.text name) v acc
            match skipBlank rest with
            | '}' :: rest => .ok (.mapping acc, rest)
            | ',' :: rest => entries fuel depth acc (skipBlank rest)
            | rest => .error (.fault .commaExpected rest)
        | rest => .error (.fault .colonExpected rest)
    | _ => .error (.fault .nameExpected s)

end

/-- The error for a fault at the place where `rest` begins. -/
def errorAt (text : List Char) (fault : Fault) (rest : List Char) : Error :=
  let before := text.take (text.length - rest.length)
  .malformed fault (before.count '\n' + 1) ((before.reverse.takeWhile (· ≠ '\n')).length + 1)
    before.length

/-- Reads a text that holds one value. -/
def read (text : List Char) (limit : Option Nat := some maxDigits) (depth : Option Nat := none) :
    Except Error Value :=
  if text.head? = some '\uFEFF' then .error (errorAt text .byteOrderMark text)
  else
    match value limit (2 * text.length + 2) depth (skipBlank text) with
    | .error (.fault f rest) => .error (errorAt text f rest)
    | .error .tooManyDigits => .error .tooManyDigits
    | .error .tooDeep => .error .tooDeep
    | .ok (v, rest) =>
      match skipBlank rest with
      | [] => .ok v
      | rest => .error (errorAt text .extraText rest)

end BundleManifest.Json
