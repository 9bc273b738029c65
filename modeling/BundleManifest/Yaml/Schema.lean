/-!
# Types of plain scalars

A plain scalar has the type whose form it has: a truth value, a number, a time, nothing at all, one of
two marks with a meaning in mappings, or else a text.
-/

namespace BundleManifest.Yaml

/-- The tag of a type of the format. -/
def coreTag (name : String) : String :=
  "tag:yaml.org,2002:" ++ name

namespace Schema

/-- The words that are truth values, with their values. -/
def truthWords : List (String × Bool) :=
  [("yes", true), ("no", false), ("true", true), ("false", false), ("on", true), ("off", false)]

/-- Whether a word is written in lower case, in upper case, or with a capital. -/
def isCasedAs (word : String) (s : List Char) : Bool :=
  let lower := word.toList
  let upper := lower.map Char.toUpper
  s = lower || s = upper || s = upper.take 1 ++ lower.drop 1

/-- Whether a text is a truth value. -/
def isBool (s : List Char) : Bool :=
  truthWords.any fun (word, _) => isCasedAs word s

/-- Whether a text is nothing at all. -/
def isNull (s : List Char) : Bool :=
  s.isEmpty || s = ['~'] || isCasedAs "null" s

/-- Whether a character is a digit or a low line. -/
def isDigitOrLine (c : Char) : Bool :=
  c.isDigit || c = '_'

/-- Whether a character is an octal digit or a low line. -/
def isOctalOrLine (c : Char) : Bool :=
  ('0' ≤ c && c ≤ '7') || c = '_'

/-- A text without the sign at its beginning. -/
def unsigned (s : List Char) : List Char :=
  match s with
  | c :: rest => if c = '+' || c = '-' then rest else s
  | [] => []

/-- Whether a text consists of parts behind colons, each one or two digits for a number below
    sixty. -/
def isSixties : List Char → Bool
  | [] => true
  | [':', a] => a.isDigit
  | ':' :: a :: b :: rest =>
    if b = ':' then a.isDigit && isSixties (b :: rest)
    else '0' ≤ a && a ≤ '5' && b.isDigit && isSixties rest
  | _ => false

/-- Whether a text is a decimal number that begins with another digit than zero, and the text
    behind. -/
def afterDecimal? : List Char → Option (List Char)
  | c :: rest => if c.isDigit && c ≠ '0' then some (rest.dropWhile isDigitOrLine) else none
  | [] => none

/-- Whether a text is an integer. -/
def isInt (s : List Char) : Bool :=
  let body := unsigned s
  match body with
  | '0' :: 'b' :: rest => !rest.isEmpty && rest.all fun c => c = '0' || c = '1' || c = '_'
  | '0' :: 'x' :: rest =>
    !rest.isEmpty && rest.all fun c =>
      c.isDigit || ('a' ≤ c && c ≤ 'f') || ('A' ≤ c && c ≤ 'F') || c = '_'
  | '0' :: rest => rest.all isOctalOrLine
  | _ =>
    match afterDecimal? body with
    | some rest => isSixties rest
    | none => false

/-- Whether a text is an exponent with a sign, or empty. -/
def isExponent : List Char → Bool
  | [] => true
  | e :: sign :: digits =>
    (e = 'e' || e = 'E') && (sign = '+' || sign = '-') && !digits.isEmpty && digits.all Char.isDigit
  | _ => false

/-- Whether a text is a number with a fraction. -/
def isFloat (s : List Char) : Bool :=
  let body := unsigned s
  let fraction (rest : List Char) : Bool :=
    match rest with
    | '.' :: rest => isExponent (rest.dropWhile isDigitOrLine)
    | _ => false
  match s, body with
  | '.' :: c :: rest, _ =>
    (c.isDigit && isExponent (rest.dropWhile isDigitOrLine))
      || ["nan", "NaN", "NAN", "inf", "Inf", "INF"].any (·.toList = c :: rest)
  | _, '.' :: rest => ["inf", "Inf", "INF"].any (·.toList = rest)
  | _, c :: rest =>
    c.isDigit &&
      (fraction (rest.dropWhile isDigitOrLine)
        || (let behind := rest.dropWhile isDigitOrLine
            let parts := behind.takeWhile (· ≠ '.')
            !parts.isEmpty && isSixties parts
              && match behind.dropWhile (· ≠ '.') with
                | '.' :: more => more.all isDigitOrLine
                | _ => false))
  | _, _ => false

/-! ## Times -/

/-- A time, as far as it is given. -/
structure Time where
  /-- Year, month and day. -/
  date : Nat × Nat × Nat
  /-- Hour, minute and second, the digits of the fraction, and the zone in minutes. -/
  clock : Option ((Nat × Nat × Nat) × List Char × Option Int)
  deriving Repr

/-- Reads at least `least` and at most `most` digits. -/
def digits? (least most : Nat) (s : List Char) : Option (Nat × List Char) :=
  let ds := (s.take most).takeWhile Char.isDigit
  if ds.length < least then none
  else some (ds.foldl (fun n c => n * 10 + (c.toNat - '0'.toNat)) 0, s.drop ds.length)

/-- Reads a character. -/
def mark? (c : Char) : List Char → Option (List Char)
  | d :: rest => if c = d then some rest else none
  | [] => none

/-- Reads the zone of a time, to the end of the text. -/
def zone? (s : List Char) : Option (Option Int) :=
  match s.dropWhile fun c => c = ' ' || c = '\t' with
  | [] => if s.isEmpty then some none else none
  | ['Z'] => some (some 0)
  | sign :: rest =>
    if sign = '+' || sign = '-' then do
      let (hours, rest) ← digits? 1 2 rest
      let (minutes, rest) ← match rest with
        | ':' :: rest => digits? 2 2 rest
        | _ => some (0, rest)
      if rest.isEmpty then
        let total : Int := (hours * 60 + minutes : Nat)
        return some (if sign = '-' then -total else total)
      else none
    else none

/-- Reads a time, to the end of the text. -/
def time? (s : List Char) : Option Time := do
  let (year, s) ← digits? 4 4 s
  let (month, s) ← digits? 1 2 (← mark? '-' s)
  let (day, s) ← digits? 1 2 (← mark? '-' s)
  let date := (year, month, day)
  if s.isEmpty then return ⟨date, none⟩
  else
    let behind := s.dropWhile fun c => c = ' ' || c = '\t'
    let s ← if behind.length < s.length then some behind else
      match s with
      | c :: rest => if c = 'T' || c = 't' then some rest else none
      | [] => none
    let (hour, s) ← digits? 1 2 s
    let (minute, s) ← digits? 2 2 (← mark? ':' s)
    let (second, s) ← digits? 2 2 (← mark? ':' s)
    let (fraction, s) := match s with
      | '.' :: rest => (rest.takeWhile Char.isDigit, rest.dropWhile Char.isDigit)
      | _ => ([], s)
    let zone ← zone? s
    return ⟨date, some ((hour, minute, second), fraction, zone)⟩

/-- Whether a plain scalar is a time: without a clock, month and day have two digits. -/
def isTime (s : List Char) : Bool :=
  match time? s with
  | some ⟨_, none⟩ => s.length = 10
  | some _ => true
  | none => false

/-- The tag of a plain scalar. -/
def tagOf (s : List Char) : String :=
  coreTag <|
    if isBool s then "bool"
    else if isFloat s then "float"
    else if isInt s then "int"
    else if s = ['<', '<'] then "merge"
    else if isNull s then "null"
    else if isTime s then "timestamp"
    else if s = ['='] then "value"
    else "str"

end Schema

end BundleManifest.Yaml
