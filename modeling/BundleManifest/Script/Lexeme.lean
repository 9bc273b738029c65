import BundleManifest.Script.Charset

/-!
# Tokens of scripts

Each function here says how many characters at the beginning of a text form a token of one class, with
zero for none. All of them take the longest token of their class.
-/

namespace BundleManifest.Script.Lexeme

/-- The number of characters at the beginning that are in a class. -/
def run (p : Char → Bool) (s : List Char) : Nat :=
  (s.takeWhile p).length

/-- The length of a `u` escape after the backslash: four hexadecimal digits, or any number of them in
    braces. -/
def unicodeEscape : List Char → Nat
  | 'u' :: '{' :: rest =>
    let n := run isHexDigit rest
    if 0 < n && (rest.drop n).head? = some '}' then n + 3 else 0
  | 'u' :: rest => if (rest.take 4).length = 4 && (rest.take 4).all isHexDigit then 5 else 0
  | _ => 0

/-- The length of an escape sequence of a string or a template. -/
def escapeSequence : List Char → Nat
  | '\\' :: c :: rest =>
    if isOctalDigit c then 1 + min 3 (run isOctalDigit (c :: rest))
    else if c = 'x' then
      if (rest.take 2).length = 2 && (rest.take 2).all isHexDigit then 4 else 0
    else if c = 'u' then
      let n := unicodeEscape (c :: rest)
      if n = 0 then 0 else n + 1
    else if c = '\r' || c = '?' then
      match rest with
      | d :: _ => if isLineBreak d then 3 else 2
      | [] => 2
    else 2
  | _ => 0

/-- The length of the first character of a name, which may be written as an escape. -/
def nameUnit (p : Char → Bool) : List Char → Nat
  | [] => 0
  | c :: rest =>
    if c = '\\' then
      let n := unicodeEscape rest
      if n = 0 then 0 else n + 1
    else if p c then 1 else 0

/-- The length of the part of a name that follows its first character. -/
def nameRest : List Char → Nat
  | [] => 0
  | c :: rest =>
    match nameUnit isNamePart (c :: rest) with
    | 0 => 0
    | n + 1 => n + 1 + nameRest (rest.drop n)
  termination_by s => s.length
  decreasing_by simp only [List.length_drop, List.length_cons]; omega

/-- The length of a name. -/
def name (s : List Char) : Nat :=
  let n := nameUnit isNameStart s
  if n = 0 then 0 else n + nameRest (s.drop n)

/-- The length of digits of one kind, where a low line may stand between two of them. -/
def digits (p : Char → Bool) (s : List Char) : Nat :=
  match s with
  | c :: '_' :: d :: rest =>
    if p c then if p d then digits p (d :: rest) + 2 else 1 else 0
  | c :: rest => if p c then digits p rest + 1 else 0
  | [] => 0

/-- The length of an exponent. -/
def exponent : List Char → Nat
  | e :: rest =>
    if e = 'e' || e = 'E' then
      match rest with
      | sign :: more =>
        if sign = '+' || sign = '-' then
          let n := digits Char.isDigit more
          if n = 0 then 0 else n + 2
        else
          let n := digits Char.isDigit rest
          if n = 0 then 0 else n + 1
      | [] => 0
    else 0
  | [] => 0

/-- The length of a number with a radix mark, such as `0x1f`. -/
def radixNumber : List Char → Nat
  | '0' :: r :: rest =>
    let p : Option (Char → Bool) :=
      if r = 'x' || r = 'X' then some isHexDigit
      else if r = 'o' || r = 'O' then some isOctalDigit
      else if r = 'b' || r = 'B' then some isBinaryDigit
      else none
    match p with
    | none => 0
    | some p =>
      let n := digits p rest
      if n = 0 then 0 else n + 2
  | _ => 0

/-- Whether the digits before a point or an exponent may stand there: a zero alone, or digits that
    begin with at most one zero. -/
def isIntegerPart : List Char → Bool
  | ['0'] => true
  | '0' :: c :: _ => c.isDigit && c ≠ '0'
  | _ => true

/-- The length of a decimal number. -/
def decimalNumber (s : List Char) : Nat :=
  let n := digits Char.isDigit s
  if n = 0 then
    match s with
    | '.' :: rest =>
      let m := digits Char.isDigit rest
      if m = 0 then 0 else 1 + m + exponent (rest.drop m)
    | _ => 0
  else if isIntegerPart (s.take n) then
    match s.drop n with
    | '.' :: rest =>
      let m := digits Char.isDigit rest
      n + 1 + m + exponent (rest.drop m)
    | rest => n + exponent rest
  else n

/-- The length of a number. -/
def number (s : List Char) : Nat :=
  let n := max (radixNumber s) (digits Char.isDigit s)
  if 0 < n && (s.drop n).head? = some 'n' then n + 1 else max (radixNumber s) (decimalNumber s)

/-- The length of a comment that runs to the end of its line. -/
def lineComment : List Char → Nat
  | '/' :: '/' :: rest => 2 + run (!endsLineComment ·) rest
  | _ => 0

/-- The length of the text up to the end of a block comment, its mark included, or zero if it has
    none. -/
def blockEnd : List Char → Nat
  | '*' :: '/' :: _ => 2
  | _ :: rest =>
    let n := blockEnd rest
    if n = 0 then 0 else n + 1
  | [] => 0

/-- The length of a comment. -/
def comment (s : List Char) : Nat :=
  match s with
  | '/' :: '*' :: rest =>
    let n := blockEnd rest
    if n = 0 then 0 else n + 2
  | s => lineComment s

/-- The length of the white space and the comment that begins with one of the marks of a comment of a
    page, or zero; the first component is the length of the white space. -/
def pageComment (s : List Char) : Nat × Nat :=
  let blank := run isBreakable s
  match s.drop blank with
  | '<' :: '!' :: '-' :: '-' :: rest => (blank, 4 + run (!isLineBreak ·) rest)
  | '-' :: '-' :: '>' :: rest => (blank, 3 + run (!isLineBreak ·) rest)
  | _ => (blank, 0)

/-- The length of a class in the pattern of a regular expression, after its opening bracket. -/
def patternClass : List Char → Nat
  | ']' :: _ => 1
  | '\\' :: c :: rest =>
    if c = '\n' then 0
    else
      let n := patternClass rest
      if n = 0 then 0 else n + 2
  | '\\' :: [] => 0
  | c :: rest =>
    if c = '\n' then 0
    else
      let n := patternClass rest
      if n = 0 then 0 else n + 1
  | [] => 0

/-- The length of the pattern of a regular expression. -/
def pattern (s : List Char) : Nat :=
  match s with
  | [] => 0
  | c :: rest =>
    if c = '/' || c = '\n' then 0
    else if c = '\\' then
      match rest with
      | d :: more => if d = '\n' then 0 else pattern more + 2
      | [] => 0
    else if c = '[' then
      let n := patternClass rest
      if 0 < n then pattern (rest.drop n) + n + 1 else 0
    else pattern rest + 1
  termination_by s.length
  decreasing_by all_goals subst_vars; simp only [List.length_drop, List.length_cons]; omega

/-- The length of a name of an element that has a hyphen. -/
def hyphenatedName (s : List Char) : Nat :=
  let isLetter (c : Char) : Bool := c.isAlpha || c = '_' || c = '$'
  match s with
  | [] => 0
  | c :: rest =>
    if isLetter c then
      let n := run (fun c => isLetter c || c.isDigit) rest
      match rest.drop n with
      | '-' :: more => 2 + n + run (fun c => isLetter c || c.isDigit || c = '-') more
      | _ => 0
    else 0

/-- The length of a character reference of a page, such as `&amp;`. -/
def characterReference : List Char → Nat
  | '&' :: rest =>
    let body := match rest with
      | '#' :: 'x' :: more | '#' :: 'X' :: more =>
        let n := min 6 (run isHexDigit more)
        if n = 0 then 0 else n + 2
      | '#' :: more =>
        let n := min 5 (run Char.isDigit more)
        if n = 0 then 0 else n + 1
      | _ => min 30 (run Char.isAlpha rest)
    if body = 0 then 0
    else if (rest.drop body).head? = some ';' then body + 2 else body + 1
  | _ => 0

/-- The length of the text of an element: everything up to the next mark, unless it is only a line end
    and the white space of the lines after it. -/
def elementText (s : List Char) : Nat :=
  let isMark (c : Char) : Bool := c = '<' || c = '>' || c = '{' || c = '}' || c = '&'
  let text := s.takeWhile (!isMark ·)
  let step : Bool × Bool → Char → Bool × Bool := fun (saw, newline) c =>
    if c = '\n' then (saw, true)
    else
      let newline := newline && isBreakable c
      (saw || !newline, newline)
  if (text.foldl step (false, false)).1 then text.length else 0

end BundleManifest.Script.Lexeme
