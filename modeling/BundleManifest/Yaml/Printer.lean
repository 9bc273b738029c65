import BundleManifest.Text.Base64
import BundleManifest.Text.Integer
import BundleManifest.Value
import BundleManifest.Yaml.Place
import BundleManifest.Yaml.Schema

/-!
# Writing YAML

A value is written in blocks: every entry of a mapping and every item of a list is on a line of its
own, and only empty collections have brackets. The keys of a mapping are in order, if they can be
ordered. Tuples, sets and bytes have a tag before them.

A text is plain where that is possible: where it would be read back as the same text. Otherwise it
stands between single quotes, or, if it has characters that need an escape, between double quotes. A
line that is too long goes on in the next line, behind one of its spaces.

Values with an integer of too many digits are not written. `Yaml.hasLong` tells them from the others.
-/

namespace BundleManifest.Yaml

open Number

/-- How a scalar is written. -/
inductive Style where
  | plain
  | single
  | double
  deriving DecidableEq, Repr

namespace Style

/-- Whether a character separates words or lines. -/
def isGap (c : Char) : Bool :=
  c = '\x00' || c = ' ' || c = '\t' || isBreak c

/-- Whether a text holds a colon at the end of a word, or a number sign at the beginning of one.
    `before` is the character before the text. -/
def hasMark (before : Char) : List Char → Bool
  | [] => false
  | c :: rest =>
    (c = ':' && rest.head?.all isGap) || (c = '#' && isGap before) || hasMark c rest

/-- Whether a text begins like something else than a plain scalar. -/
def beginsOtherwise : List Char → Bool
  | [] => false
  | c :: rest =>
    "#,[]\x7b\x7d&*!|>'\"%@".toList.contains c || c = Char.ofNat 0x60
      || ((c = '?' || c = '-') && rest.head?.all isGap)
      || ['-', '-', '-'].isPrefixOf (c :: rest) || ['.', '.', '.'].isPrefixOf (c :: rest)

/-- Whether a space and the end of a line stand side by side. -/
def hasSpaceAtBreak : List Char → Bool
  | c :: d :: rest => (c = ' ' && d = '\n') || (c = '\n' && d = ' ') || hasSpaceAtBreak (d :: rest)
  | _ => false

/-- Whether a character is written without an escape. -/
def isLiteral (c : Char) : Bool :=
  c = '\n' || (' ' ≤ c && c ≤ '~')

/-- Whether a text can stand between single quotes. -/
def allowsSingle (s : List Char) : Bool :=
  s.all isLiteral && !hasSpaceAtBreak s

/-- Whether a text can stand without quotes. -/
def allowsPlain (s : List Char) : Bool :=
  s.all (fun c => isLiteral c && c ≠ '\n') && !hasMark ' ' s && !beginsOtherwise s
    && s.head? ≠ some ' ' && s.getLast? ≠ some ' '

/-- The style of a text. A text that has the form of something else needs quotes. -/
def ofText (isKey : Bool) (s : List Char) : Style :=
  if Schema.tagOf s = coreTag "str" && allowsPlain s then .plain
  else if allowsSingle s && !(isKey && s.contains '\n') then .single
  else .double

end Style

/-! ## Integers -/

mutual

/-- Whether a value has an integer in it with more digits than are written. -/
def hasLong : Value → Bool
  | .int n => Text.maxIntegerDigits < (Nat.toDigits 10 n.natAbs).length
  | .list items | .tuple items | .set items => hasLongItem items
  | .mapping entries => hasLongEntry entries
  | _ => false

/-- Whether an item of a collection has such an integer. -/
def hasLongItem : List Value → Bool
  | [] => false
  | v :: rest => hasLong v || hasLongItem rest

/-- Whether a key or a value of a mapping has such an integer. -/
def hasLongEntry : List (Value × Value) → Bool
  | [] => false
  | (key, v) :: rest => hasLong key || hasLong v || hasLongEntry rest

end

/-! ## Scalars -/

/-- The column behind which a line goes on in the next one. -/
def bestWidth : Nat := 80

/-- Where a scalar stands. -/
structure Margin where
  /-- The column at which the next lines begin. -/
  indent : Nat
  /-- Whether there may be next lines. -/
  wraps : Bool := true

/-- A number of spaces. -/
def spaces (n : Nat) : List Char :=
  List.replicate n ' '

/-- The beginning of the next line. -/
def Margin.nextLine (m : Margin) : List Char :=
  '\n' :: spaces m.indent

/-- Writes a text without quotes or between single ones from a column on, behind a character of it. A
    single space becomes the end of a line, if the line is too long. A line end needs an empty
    line. -/
def folded (m : Margin) (quote : Bool) : Nat → Option Char → List Char → List Char
  | _, _, [] => []
  | column, before, c :: rest =>
    if c = ' ' then
      let alone := before.any (· ≠ ' ') && rest.head?.any (· ≠ ' ')
      if alone && m.wraps && bestWidth < column then
        m.nextLine ++ folded m quote m.indent (some c) rest
      else c :: folded m quote (column + 1) (some c) rest
    else if c = '\n' then
      let first := if before = some '\n' then [] else ['\n']
      let last := if rest.head? = some '\n' then [] else spaces m.indent
      first ++ '\n' :: last ++ folded m quote m.indent (some c) rest
    else if c = '\'' && quote then c :: c :: folded m quote (column + 2) (some c) rest
    else c :: folded m quote (column + 1) (some c) rest

/-- The letters of the escapes of one letter. -/
def escapeLetters : List (Char × Char) :=
  [('\x00', '0'), ('\x07', 'a'), ('\x08', 'b'), ('\t', 't'), ('\n', 'n'), ('\x0B', 'v'),
    ('\x0C', 'f'), ('\r', 'r'), ('\x1B', 'e'), ('"', '"'), ('\\', '\\'), ('\u0085', 'N'),
    ('\u00A0', '_'), ('\u2028', 'L'), ('\u2029', 'P')]

/-- The escape of a character that needs one. -/
def escape? (c : Char) : Option (List Char) :=
  if ' ' ≤ c && c ≤ '~' && c ≠ '"' && c ≠ '\\' then none
  else
    let digits (width : Nat) : List Char := (Text.hex width c.toNat).map Char.toUpper
    some <| '\\' ::
      match escapeLetters.lookup c with
      | some letter => [letter]
      | none =>
        if c.toNat < 0x100 then 'x' :: digits 2
        else if c.toNat < 0x10000 then 'u' :: digits 4
        else 'U' :: digits 8

/-- Writes a text between double quotes from a column on. `first` holds for the first character, and
    `fresh` behind an escape. A line that is too long ends with a backslash, and so begins the next
    one where it would begin with a space. -/
def escaped (m : Margin) (first fresh : Bool) : Nat → List Char → List Char
  | _, [] => []
  | column, c :: rest =>
    let breaks (column : Nat) : Bool := m.wraps && !first && !rest.isEmpty && bestWidth < column
    match escape? c with
    | some e =>
      let column := column + e.length
      if breaks (column - 1) then
        let mark := if rest.head? = some ' ' then ['\\'] else []
        e ++ '\\' :: m.nextLine ++ mark ++ escaped m false true (m.indent + mark.length) rest
      else e ++ escaped m false true column rest
    | none =>
      if (c = ' ' || fresh) && breaks column then
        let mark := if c = ' ' then ['\\'] else []
        '\\' :: m.nextLine ++ mark ++ c :: escaped m false false (m.indent + mark.length + 1) rest
      else c :: escaped m false false (column + 1) rest

/-- Writes a text from a column on. -/
def textFrom (m : Margin) (style : Style) (column : Nat) (s : List Char) : List Char :=
  match style with
  | .plain => folded m false column none s
  | .single => '\'' :: folded m true (column + 1) none s ++ ['\'']
  | .double => '"' :: escaped m true false (column + 1) s ++ ['"']

/-- A number of double precision. A power of ten needs a fraction before it. -/
def floatText : Binary64 → List Char
  | .nan => ".nan".toList
  | .infinite false => ".inf".toList
  | .infinite true => "-.inf".toList
  | x =>
    let s := x.text.toList
    if s.contains '.' || !s.contains 'e' then s
    else s.takeWhile (· ≠ 'e') ++ ['.', '0'] ++ s.dropWhile (· ≠ 'e')

/-- Writes a scalar from a column on. -/
def scalarFrom (m : Margin) (column : Nat) : Value → List Char
  | .text s => textFrom m (.ofText (!m.wraps) s.toList) column s.toList
  | .null => "null".toList
  | .bool b => (if b then "true" else "false").toList
  | .int n => (toString n).toList
  | .float x => floatText x
  | v => folded m false column none v.shown.toList

/-! ## Collections -/

/-- Whether all keys are texts. -/
def hasTextKeys {α : Type} (entries : List (Value × α)) : Bool :=
  entries.all fun (key, _) => match key with
    | .text _ => true
    | _ => false

/-- The text by which a key is ordered: a date or, as told first, bytes, with a character for each of
    them. -/
def keyText? : Value → Option (Bool × String)
  | .bytes bs => some (true, String.ofList (bs.map fun b => Char.ofNat b.toNat))
  | .other "date" shown => some (false, shown)
  | _ => none

/-- Entries in the order of their keys, if these are all texts, all integers, all bytes or all
    dates. -/
def ordered {α : Type} (entries : List (Value × α)) : List (Value × α) :=
  if hasTextKeys entries then
    entries.mergeSort fun (a, _) (b, _) => match a, b with
      | .text s, .text t => s ≤ t
      | _, _ => true
  else if entries.all fun (key, _) => key.integer?.isSome then
    entries.mergeSort fun (a, _) (b, _) => a.integer?.getD 0 ≤ b.integer?.getD 0
  else
    let kinds := entries.map fun (key, _) => (keyText? key).map (·.1)
    if kinds.all (· = some true) || kinds.all (· = some false) then
      entries.mergeSort fun (a, _) (b, _) => (keyText? a).elim "" (·.2) ≤ (keyText? b).elim "" (·.2)
    else entries

/-- Whether a key is short enough to stand before its colon. -/
def isSimpleKey (key : Value) : Bool :=
  let short (tag : String) (s : String) : Bool := s ≠ "" && tag.length + s.length < 128
  match key with
  | .text s => short "!!str" s && !s.toList.contains '\n'
  | .int n => short "!!int" (toString n)
  | .bytes _ => false
  | .list items | .tuple items | .set items => items.isEmpty
  | .mapping entries => entries.isEmpty
  | _ => true

/-- Lines of a text, each of which but the last one has a number of characters. -/
def slices (width : Nat) : Nat → List Char → List (List Char)
  | 0, _ | _, [] => []
  | fuel + 1, s => s.take width :: slices width fuel (s.drop width)

/-- Writes bytes, in lines that begin at a column. -/
def bytesText (indent : Nat) (bs : List UInt8) : List Char :=
  if bs.isEmpty then "!!binary \"\"".toList
  else
    let digits := Text.Base64.encode bs
    "!!binary |".toList ++
      (slices 76 digits.length digits).flatMap fun line => '\n' :: spaces indent ++ line

/-- Parts of a block, each on a line of its own. -/
def lines (indent : Nat) (parts : List (List Char)) : List Char :=
  List.intercalate ('\n' :: spaces indent) parts

/-- Writes a tuple, whose items begin at a column. -/
def tupleText (indent : Nat) (items : List (List Char)) : List Char :=
  "!!python/tuple".toList ++
    if items.isEmpty then " []".toList else '\n' :: spaces indent ++ lines indent items

/-- Writes a set, whose items begin at a column. -/
def setText (indent : Nat) (items : List (Value × List Char)) : List Char :=
  "!!set".toList ++
    if items.isEmpty then " \x7b\x7d".toList
    else '\n' :: spaces indent ++ lines indent ((ordered items).map (·.2))

/-- A key at a column, up to its value: with a colon behind it if it is short, and else with marks
    before it and before the value. `long` is what follows the first of these. -/
def keyText (indent : Nat) (key : Value) (long : List Char) : List Char :=
  if isSimpleKey key then
    match key with
    | .tuple _ => tupleText indent [] ++ [':']
    | .set _ => setText indent [] ++ [':']
    | key => scalarFrom { indent, wraps := false } indent key ++ [':']
  else '?' :: long ++ '\n' :: spaces indent ++ [':']

mutual

/-- What follows the mark of an item at a column. -/
def afterMark (indent : Nat) : Value → List Char
  | .list items =>
    if items.isEmpty then " []".toList
    else ' ' :: lines (indent + 2) (itemParts (indent + 2) items)
  | .mapping entries =>
    if entries.isEmpty then " \x7b\x7d".toList
    else ' ' :: lines (indent + 2) ((ordered (entryParts (indent + 2) entries)).map (·.2))
  | .tuple items => ' ' :: tupleText (indent + 2) (itemParts (indent + 2) items)
  | .set items => ' ' :: setText (indent + 2) (keyParts (indent + 2) items)
  | .bytes bs => ' ' :: bytesText (indent + 2) bs
  | v => ' ' :: scalarFrom { indent := indent + 2 } (indent + 2) v

/-- What follows the colon of an entry at a column, when the line has gone to `column`. -/
def afterColon (indent column : Nat) : Value → List Char
  | .list items =>
    if items.isEmpty then " []".toList
    else '\n' :: spaces indent ++ lines indent (itemParts indent items)
  | .mapping entries =>
    if entries.isEmpty then " \x7b\x7d".toList
    else
      '\n' :: spaces (indent + 2)
        ++ lines (indent + 2) ((ordered (entryParts (indent + 2) entries)).map (·.2))
  | .tuple items => ' ' :: tupleText indent (itemParts indent items)
  | .set items => ' ' :: setText (indent + 2) (keyParts (indent + 2) items)
  | .bytes bs => ' ' :: bytesText (indent + 2) bs
  | v => ' ' :: scalarFrom { indent := indent + 2 } (column + 1) v

/-- The items of a set at a column, with themselves as keys of nothing. -/
def keyParts (indent : Nat) : List Value → List (Value × List Char)
  | [] => []
  | key :: rest =>
    (key, keyText indent key (afterColon indent (indent + 1) key) ++ " null".toList) ::
      keyParts indent rest

/-- The items of a list at a column. -/
def itemParts (indent : Nat) : List Value → List (List Char)
  | [] => []
  | v :: rest => ('-' :: afterMark indent v) :: itemParts indent rest

/-- The entries of a mapping at a column, with their keys. -/
def entryParts (indent : Nat) : List (Value × Value) → List (Value × List Char)
  | [] => []
  | (key, v) :: rest =>
    let k := keyText indent key (afterColon indent (indent + 1) key)
    let part :=
      k ++ if isSimpleKey key then afterColon indent (indent + k.length) v else afterMark indent v
    (key, part) :: entryParts indent rest

end

/-- Writes the entries of a mapping. -/
def write (entries : List (Value × Value)) : List Char :=
  lines 0 ((ordered (entryParts 0 entries)).map (·.2)) ++ ['\n']

end BundleManifest.Yaml
