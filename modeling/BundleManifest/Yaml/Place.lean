/-!
# Places in a YAML text

A *place* is what is left of a text, with the line and the column. The layout of a YAML text is part
of its meaning, so that scalars and tokens are read from a place to a place.
-/

namespace BundleManifest.Yaml

/-- Why a text is not read. -/
inductive Fault where
  /-- The text does not follow the format, or names a type that is not known. -/
  | malformed
  /-- A number or a date is out of its range. -/
  | outOfRange
  /-- A number is too large. -/
  | tooLarge
  /-- A number has no digits. -/
  | noDigits
  /-- A truth value is not known. -/
  | unknownWord
  /-- A time has another form. -/
  | noTime
  deriving DecidableEq, Repr

/-- Whether a character ends a line. -/
def isBreak (c : Char) : Bool :=
  c = '\n' || c = '\r' || c = '\u0085' || c = '\u2028' || c = '\u2029'

/-- Whether a character can stand in a text. -/
def isAllowed (c : Char) : Bool :=
  let n := c.toNat
  n = 0x09 || n = 0x0A || n = 0x0D || (0x20 ≤ n && n ≤ 0x7E) || n = 0x85
    || (0xA0 ≤ n && n ≤ 0xFFFD) || 0x10000 ≤ n

/-- Whether a character can stand in the name of an anchor or a directive. -/
def isWordChar (c : Char) : Bool :=
  c.isAlphanum || c = '-' || c = '_'

/-- A place in a text. -/
structure Place where
  /-- What is left. -/
  rest : List Char
  /-- The number of characters before. -/
  index : Nat := 0
  /-- The line. -/
  line : Nat := 0
  /-- The column. -/
  column : Nat := 0
  deriving Inhabited

namespace Place

/-- The place behind the next `n` characters. -/
def skip : Nat → Place → Place
  | 0, p => p
  | n + 1, p =>
    match p.rest with
    | [] => p
    | c :: rest =>
      let ends := isBreak c && !(c = '\r' && rest.head? = some '\n')
      skip n {
        rest, index := p.index + 1
        line := if ends then p.line + 1 else p.line
        column := if ends then 0 else if c = '\uFEFF' then p.column else p.column + 1 }

/-- The next character. -/
def head? (p : Place) : Option Char :=
  p.rest.head?

/-- Whether a character comes next. -/
def sees (p : Place) (c : Char) : Bool :=
  p.rest.head? = some c

/-- How many of the next characters are in a class. -/
def run (p : Place) (isIn : Char → Bool) : Nat :=
  (p.rest.takeWhile isIn).length

/-- The place behind the characters of a class. -/
def skipWhile (p : Place) (isIn : Char → Bool) : Place :=
  p.skip (p.run isIn)

/-- The next `n` characters. -/
def text (p : Place) (n : Nat) : List Char :=
  p.rest.take n

/-- Whether the text or the line ends here. -/
def atBreak (p : Place) : Bool :=
  p.rest.head?.all isBreak

/-- Whether the text or the line ends at the `n`-th of the next characters, or it is a space or a
    tab. -/
def blankAt (p : Place) (n : Nat) : Bool :=
  (p.rest[n]?).all fun c => c = ' ' || c = '\t' || isBreak c

/-- Whether the text or the line ends here, or a space comes next. -/
def atSpace (p : Place) : Bool :=
  p.rest.head?.all fun c => c = ' ' || isBreak c

/-- Takes the end of a line, if it is here: the text that stands for it, and the place behind it. -/
def lineBreak (p : Place) : List Char × Place :=
  match p.rest with
  | '\r' :: '\n' :: _ => (['\n'], p.skip 2)
  | c :: _ =>
    if c = '\n' || c = '\r' || c = '\u0085' then (['\n'], p.skip 1)
    else if isBreak c then ([c], p.skip 1)
    else ([], p)
  | [] => ([], p)

/-- Whether three equal characters stand here with nothing behind them, as at the limits of a
    document. -/
def marks (p : Place) (c : Char) : Bool :=
  p.rest.take 3 = [c, c, c] && p.blankAt 3

/-- Whether a limit of a document is here. -/
def atLimit (p : Place) : Bool :=
  p.marks '-' || p.marks '.'

/-- The place behind spaces and a comment, which have to be all that is left of the line. -/
def endLine (p : Place) : Except Fault Place :=
  let p := p.skipWhile (· = ' ')
  let p := if p.sees '#' then p.skipWhile (!isBreak ·) else p
  if p.atBreak then .ok p.lineBreak.2 else .error .malformed

end Place

end BundleManifest.Yaml
