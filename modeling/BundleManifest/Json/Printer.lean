import BundleManifest.Json.Reader

/-!
# Writing JSON

A value is written on one line, or with every item of a list and every entry of an object on a line of
its own. Characters outside ASCII are written as they are or as escapes.

A tuple is written like a list. Some values have no form in JSON: bytes, sets and values of other
types, and objects with a key that is one of these or a collection. Writing stops there, and `Written`
says so. It also stops at an integer with more digits than are written, and may be given up where too
much is nested.
-/

namespace BundleManifest.Json

/-- How values are laid out. -/
structure Layout where
  /-- What each level of nesting adds to the beginning of a line, or nothing for a value on one
      line. -/
  indent : Option (List Char) := none
  /-- Whether characters outside ASCII are escaped. -/
  ascii : Bool := false
  /-- The greatest number of digits of an integer, if there is one. -/
  limit : Option Nat := none

/-- Why writing stops. -/
inductive Obstacle where
  /-- A value or a key has no form in JSON. -/
  | noForm
  /-- An integer has more digits than are written. -/
  | tooManyDigits
  /-- Too much is nested. -/
  | tooDeep
  deriving DecidableEq, Repr

/-- What was written. -/
structure Written where
  /-- The text. -/
  text : List Char
  /-- Why it ends there, unless all was written. -/
  obstacle : Option Obstacle := none

namespace Written

/-- Whether all was written. -/
def complete (w : Written) : Bool :=
  w.obstacle.isNone

/-- Goes on writing, unless writing has stopped. -/
def andThen (w : Written) (next : Written) : Written :=
  if w.complete then ⟨w.text ++ next.text, next.obstacle⟩ else w

/-- The state in which nothing more can be written. -/
def stopped (o : Obstacle) : Written := ⟨[], some o⟩

/-- Gives up writing behind some characters, because too much is nested. -/
def cutAt (w : Written) (n : Nat) : Written :=
  ⟨w.text.take n, some .tooDeep⟩

end Written

/-- Whether a value is an integer with more digits than are written. -/
def Layout.isTooLong (l : Layout) : Value → Bool
  | .int n => tooLong l.limit (Nat.toDigits 10 n.natAbs).length
  | _ => false

/-- An escape for a UTF-16 unit. -/
def unitEscape (unit : Nat) : List Char :=
  '\\' :: 'u' :: Text.hex 4 unit

/-- A character inside a string. -/
def charText (ascii : Bool) (c : Char) : List Char :=
  if c = '"' then ['\\', '"']
  else if c = '\\' then ['\\', '\\']
  else if c = '\n' then ['\\', 'n']
  else if c = '\r' then ['\\', 'r']
  else if c = '\t' then ['\\', 't']
  else if c = '\x08' then ['\\', 'b']
  else if c = '\x0C' then ['\\', 'f']
  else
    let n := c.toNat
    if n < 0x20 then unitEscape n
    else if !ascii || n < 0x7F then [c]
    else if n < 0x10000 then unitEscape n
    else unitEscape (0xD800 + (n - 0x10000) / 0x400) ++ unitEscape (0xDC00 + (n - 0x10000) % 0x400)

/-- A string. -/
def stringText (ascii : Bool) (s : String) : List Char :=
  '"' :: s.toList.flatMap (charText ascii) ++ ['"']

/-- A number of double precision. -/
def floatText : Number.Binary64 → String
  | .nan => "NaN"
  | .infinite false => "Infinity"
  | .infinite true => "-Infinity"
  | x => x.text

/-- A scalar that is no string. -/
def scalarText? : Value → Option String
  | .null => some "null"
  | .bool b => some (if b then "true" else "false")
  | .int n => some (toString n)
  | .float x => some (floatText x)
  | _ => none

/-- A key of an object. -/
def keyText? (ascii : Bool) : Value → Option (List Char)
  | .text s => some (stringText ascii s)
  | v => (scalarText? v).map (stringText ascii)

/-- The beginning of a line at a level of nesting. -/
def Layout.line (l : Layout) (level : Nat) : List Char :=
  match l.indent with
  | none => []
  | some unit => '\n' :: (List.replicate level unit).flatten

/-- What stands between two items or entries. -/
def Layout.between (l : Layout) (level : Nat) : List Char :=
  match l.indent with
  | none => [',', ' ']
  | some _ => ',' :: l.line level

mutual

/-- A value at a level of nesting. -/
def print (l : Layout) (level : Nat) : Value → Written
  | .null => ⟨"null".toList, none⟩
  | .bool b => ⟨(if b then "true" else "false").toList, none⟩
  | .int n => if l.isTooLong (.int n) then .stopped .tooManyDigits else ⟨(toString n).toList, none⟩
  | .float x => ⟨(floatText x).toList, none⟩
  | .text s => ⟨stringText l.ascii s, none⟩
  | .list items | .tuple items =>
    if items.isEmpty then ⟨['[', ']'], none⟩
    else
      (printItems l (level + 1) ('[' :: l.line (level + 1)) items).andThen
        ⟨l.line level ++ [']'], none⟩
  | .mapping entries =>
    if entries.isEmpty then ⟨['\x7b', '\x7d'], none⟩
    else
      (Written.andThen ⟨'\x7b' :: l.line (level + 1), none⟩
        (printEntries l (level + 1) [] entries)).andThen
        ⟨l.line level ++ ['\x7d'], none⟩
  | .set _ | .bytes _ | .other _ _ => .stopped .noForm

/-- The items of a list, with a text before the first. An integer that is too long stops the writing
    before this text. -/
def printItems (l : Layout) (level : Nat) (before : List Char) : List Value → Written
  | [] => ⟨[], none⟩
  | v :: rest =>
    if l.isTooLong v then .stopped .tooManyDigits
    else
      (Written.andThen ⟨before, none⟩ (print l level v)).andThen
        (printItems l level (l.between level) rest)

/-- The entries of an object, with a text before the first. A key that has no form, or is too long,
    stops the writing before this text. -/
def printEntries (l : Layout) (level : Nat) (before : List Char) : List (Value × Value) → Written
  | [] => ⟨[], none⟩
  | (k, v) :: rest =>
    if l.isTooLong k then .stopped .tooManyDigits
    else
      match keyText? l.ascii k with
      | none => .stopped .noForm
      | some key =>
        (Written.andThen ⟨before ++ key ++ [':', ' '], none⟩ (print l level v)).andThen
          (printEntries l level (l.between level) rest)

end

/-- A value as far as it can be written. -/
def write (l : Layout) (v : Value) : Written :=
  print l 0 v

end BundleManifest.Json
