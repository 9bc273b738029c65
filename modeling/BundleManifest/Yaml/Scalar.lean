import BundleManifest.Text.Utf8
import BundleManifest.Yaml.Place

/-!
# Scalars of a YAML text

A scalar is written plain, between quotes, or as a block. Lines of a scalar are folded: a single line
end stands for a space, and a further one for a line end. A block keeps its line ends unless it asks
for folding.
-/

namespace BundleManifest.Yaml

/-! ## Quoted scalars -/

/-- What a letter behind a backslash stands for. -/
def escapes : List (Char × Char) :=
  [('0', '\x00'), ('a', '\x07'), ('b', '\x08'), ('t', '\t'), ('\t', '\t'), ('n', '\n'), ('v', '\x0B'),
    ('f', '\x0C'), ('r', '\r'), ('e', '\x1B'), (' ', ' '), ('"', '"'), ('\\', '\\'), ('/', '/'),
    ('N', '\u0085'), ('_', '\u00A0'), ('L', '\u2028'), ('P', '\u2029')]

/-- The number of hexadecimal digits behind a letter. -/
def escapeDigits? (c : Char) : Option Nat :=
  if c = 'x' then some 2 else if c = 'u' then some 4 else if c = 'U' then some 8 else none

/-- The value of a hexadecimal digit. -/
def hexDigit? (c : Char) : Option Nat :=
  if c.isDigit then some (c.toNat - '0'.toNat)
  else if 'a' ≤ c && c ≤ 'f' then some (c.toNat - 'a'.toNat + 10)
  else if 'A' ≤ c && c ≤ 'F' then some (c.toNat - 'A'.toNat + 10)
  else none

/-- The number with given digits. -/
def hexNumber? (digits : List Char) : Option Nat :=
  digits.foldlM (fun n c => (hexDigit? c).map (n * 16 + ·)) 0

/-- The character with a code point. A surrogate is replaced. -/
def charOf (code : Nat) : Except Fault Char :=
  if 0x80000000 ≤ code then .error .tooLarge
  else if 0x110000 ≤ code then .error .outOfRange
  else if 0xD800 ≤ code ∧ code < 0xE000 then .ok '\uFFFD'
  else .ok (Char.ofNat code)

/-- The empty lines inside a quoted scalar, behind a line end. -/
def quotedBreaks : Nat → Place → List Char → Except Fault (List Char × Place)
  | 0, p, acc => .ok (acc, p)
  | fuel + 1, p, acc =>
    if p.atLimit then .error .malformed
    else
      let p := p.skipWhile fun c => c = ' ' || c = '\t'
      if p.rest.head?.any isBreak then
        let (text, p) := p.lineBreak
        quotedBreaks fuel p (acc ++ text)
      else .ok (acc, p)

/-- The white space inside a quoted scalar. -/
def quotedSpaces (p : Place) : Except Fault (List Char × Place) :=
  let n := p.run fun c => c = ' ' || c = '\t'
  let blanks := p.text n
  let p := p.skip n
  match p.head? with
  | none => .error .malformed
  | some c =>
    if isBreak c then
      let (first, p) := p.lineBreak
      match quotedBreaks p.rest.length p [] with
      | .error e => .error e
      | .ok (more, p) =>
        let fold := if first ≠ ['\n'] then first else if more.isEmpty then [' '] else []
        .ok (fold ++ more, p)
    else .ok (blanks, p)

/-- An escape behind its backslash. -/
def escape (p : Place) : Except Fault (List Char × Place) :=
  match p.head? with
  | none => .error .malformed
  | some c =>
    match escapes.lookup c, escapeDigits? c with
    | some x, _ => .ok ([x], p.skip 1)
    | none, some n =>
      let p := p.skip 1
      let digits := p.text n
      match (if digits.length = n then hexNumber? digits else none) with
      | none => .error .malformed
      | some code => (charOf code).map fun x => ([x], p.skip n)
    | none, none =>
      if isBreak c then
        let p := p.lineBreak.2
        quotedBreaks p.rest.length p []
      else .error .malformed

/-- Reads a quoted scalar behind its opening quote. -/
def quotedScalar (quote : Char) : Nat → Place → List Char → Except Fault (List Char × Place)
  | 0, _, _ => .error .malformed
  | fuel + 1, p, acc =>
    match p.head? with
    | none => .error .malformed
    | some c =>
      if c = quote then
        if quote = '\'' ∧ p.rest[1]? = some '\'' then
          quotedScalar quote fuel (p.skip 2) (acc ++ ['\''])
        else .ok (acc, p.skip 1)
      else if c = ' ' || c = '\t' || isBreak c then
        match quotedSpaces p with
        | .error e => .error e
        | .ok (text, p) => quotedScalar quote fuel p (acc ++ text)
      else if quote = '"' ∧ c = '\\' then
        match escape (p.skip 1) with
        | .error e => .error e
        | .ok (text, p) => quotedScalar quote fuel p (acc ++ text)
      else quotedScalar quote fuel (p.skip 1) (acc ++ [c])

/-! ## Plain scalars -/

/-- Whether a character has a meaning inside brackets. -/
def isFlowMark (c : Char) : Bool :=
  c = ',' || c = '[' || c = ']' || c = '\x7b' || c = '\x7d'

/-- The number of characters up to where a plain scalar ends or has white space. -/
def plainRun (flow : Bool) : List Char → Nat
  | [] => 0
  | c :: rest =>
    if c = ' ' || c = '\t' || isBreak c then 0
    else if c = ':' &&
        (rest.head?.all fun d => d = ' ' || d = '\t' || isBreak d || (flow && isFlowMark d)) then 0
    else if flow && (isFlowMark c || c = '?') then 0
    else plainRun flow rest + 1

/-- The empty lines inside a plain scalar, behind a line end, or nothing if a limit of a document
    follows. -/
def plainBreaks : Nat → Place → List Char → Option (List Char × Place) × Place
  | 0, p, acc => (some (acc, p), p)
  | fuel + 1, p, acc =>
    match p.head? with
    | some c =>
      if c = ' ' then plainBreaks fuel (p.skip 1) acc
      else if isBreak c then
        let (text, p) := p.lineBreak
        if p.atLimit then (none, p) else plainBreaks fuel p (acc ++ text)
      else (some (acc, p), p)
    | none => (some (acc, p), p)

/-- White space inside a plain scalar. -/
structure PlainGap where
  /-- What it stands for; empty if the scalar ends. -/
  text : List Char
  /-- The place behind it. -/
  behind : Place
  /-- Whether it has a line end. -/
  wraps : Bool

/-- The white space behind a piece of a plain scalar. -/
def plainGap (p : Place) : PlainGap :=
  let n := p.run (· = ' ')
  let blanks := p.text n
  let p := p.skip n
  if p.rest.head?.any isBreak then
    let (first, p) := p.lineBreak
    if p.atLimit then ⟨[], p, true⟩
    else
      match plainBreaks p.rest.length p [] with
      | (none, p) => ⟨[], p, true⟩
      | (some (more, p), _) =>
        let fold := if first ≠ ['\n'] then first else if more.isEmpty then [' '] else []
        ⟨fold ++ more, p, true⟩
  else ⟨blanks, p, false⟩

/-- A plain scalar. -/
structure Plain where
  /-- Its text. -/
  text : List Char
  /-- The place behind it and the white space after it. -/
  behind : Place
  /-- Whether this white space has a line end. -/
  wraps : Bool

/-- Reads a plain scalar that is indented by at least `indent`. `gap` is what the white space before
    the next piece stands for. -/
def plainScalar (flow : Bool) (indent : Int) :
    Nat → Place → List Char → List Char → Bool → Plain
  | 0, p, acc, _, wraps => ⟨acc, p, wraps⟩
  | fuel + 1, p, acc, gap, wraps =>
    let n := if p.sees '#' then 0 else plainRun flow p.rest
    if n = 0 then ⟨acc, p, wraps⟩
    else
      let acc := acc ++ gap ++ p.text n
      let g := plainGap (p.skip n)
      if g.text.isEmpty || g.behind.sees '#' || (!flow && g.behind.column < indent) then
        ⟨acc, g.behind, g.wraps⟩
      else plainScalar flow indent fuel g.behind acc g.text g.wraps

/-! ## Block scalars -/

/-- What becomes of the line ends behind a block. -/
inductive Chomping where
  /-- There is none. -/
  | strip
  /-- There is one. -/
  | clip
  /-- All of them are kept. -/
  | keep
  deriving DecidableEq

/-- The chomping that a mark asks for. -/
def chomping? (c : Char) : Option Chomping :=
  if c = '+' then some .keep else if c = '-' then some .strip else none

/-- The marks behind the mark of a block: its chomping, and its indentation if it is given. -/
def blockMarks (p : Place) : Except Fault (Chomping × Option Nat × Place) :=
  let digit (p : Place) : Except Fault (Option Nat × Place) :=
    match p.head? with
    | some c =>
      if c.isDigit then
        if c = '0' then .error .malformed else .ok (some (c.toNat - '0'.toNat), p.skip 1)
      else .ok (none, p)
    | none => .ok (none, p)
  let finish (how : Chomping) (n : Option Nat) (p : Place) :=
    if p.atSpace then .ok (how, n, p) else .error .malformed
  match p.head?.bind chomping? with
  | some how => do
    let (n, p) ← digit (p.skip 1)
    finish how n p
  | none => do
    let (n, p) ← digit p
    match n, p.head?.bind chomping? with
    | some _, some how => finish how n (p.skip 1)
    | _, _ => finish .clip n p

/-- The empty lines before a block, and how far they are indented. -/
def blockIndentation : Nat → Place → List Char → Nat → List Char × Nat × Place
  | 0, p, acc, widest => (acc, widest, p)
  | fuel + 1, p, acc, widest =>
    match p.head? with
    | some c =>
      if c = ' ' then
        let p := p.skip 1
        blockIndentation fuel p acc (max widest p.column)
      else if isBreak c then
        let (text, p) := p.lineBreak
        blockIndentation fuel p (acc ++ text) widest
      else (acc, widest, p)
    | none => (acc, widest, p)

/-- The place behind the spaces up to a column. -/
def skipIndentation (indent : Nat) (p : Place) : Place :=
  p.skip (min (p.run (· = ' ')) (indent - p.column))

/-- The empty lines inside a block. -/
def blockBreaks (indent : Nat) : Nat → Place → List Char → List Char × Place
  | 0, p, acc => (acc, p)
  | fuel + 1, p, acc =>
    let p := skipIndentation indent p
    if p.rest.head?.any isBreak then
      let (text, p) := p.lineBreak
      blockBreaks indent fuel p (acc ++ text)
    else (acc, p)

/-- The lines of a block: its text, the last line end, and the empty lines behind it. -/
def blockLines (folded : Bool) (indent : Nat) :
    Nat → Place → List Char → List Char → List Char → List Char × List Char × List Char × Place
  | 0, p, acc, last, breaks => (acc, last, breaks, p)
  | fuel + 1, p, acc, last, breaks =>
    if p.column = indent ∧ p.rest ≠ [] then
      let isText (p : Place) : Bool := p.rest.head?.any fun c => c ≠ ' ' && c ≠ '\t'
      let isFlush := isText p
      let n := p.run (!isBreak ·)
      let acc := acc ++ breaks ++ p.text n
      let (last, p) := (p.skip n).lineBreak
      let (breaks, p) := blockBreaks indent p.rest.length p []
      if p.column = indent ∧ p.rest ≠ [] then
        let joint :=
          if folded && last = ['\n'] && isFlush && isText p then
            if breaks.isEmpty then [' '] else []
          else last
        blockLines folded indent fuel p (acc ++ joint) last breaks
      else (acc, last, breaks, p)
    else (acc, last, breaks, p)

/-- Reads a block behind its mark, inside a construct that is indented by `outer`. -/
def blockScalar (folded : Bool) (outer : Int) (p : Place) : Except Fault (List Char × Place) := do
  let (how, increment, p) ← blockMarks p
  let p ← p.endLine
  let least := (max (outer + 1) 1).toNat
  let (indent, breaks, p) :=
    match increment with
    | none =>
      let (breaks, widest, p) := blockIndentation p.rest.length p [] 0
      (max least widest, breaks, p)
    | some n =>
      let indent := least + n - 1
      let (breaks, p) := blockBreaks indent p.rest.length p []
      (indent, breaks, p)
  let (text, last, breaks, p) := blockLines folded indent p.rest.length p [] [] breaks
  let tail := match how with
    | .strip => []
    | .clip => last
    | .keep => last ++ breaks
  return (text ++ tail, p)

end BundleManifest.Yaml
