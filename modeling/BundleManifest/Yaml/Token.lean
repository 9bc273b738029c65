import BundleManifest.Yaml.Scalar

/-!
# Tokens of a YAML text

Indentation is turned into tokens: a collection of a block begins where something is indented more
than before, and ends where something is indented less. A key has no mark before it, so that the token
for it is put in when the colon behind it is found; until then it is a *candidate*.

Tokens are read as they are needed. Where no more can be read, there is a token for the fault, which
only counts when it is needed. The tokens from a candidate on are not there before it is known whether
it is a key.
-/

namespace BundleManifest.Yaml

/-- A token. -/
inductive Token where
  /-- A directive, with its name and what follows. -/
  | directive (name : String) (handle tag : String)
  | documentStart
  | documentEnd
  | streamEnd
  | blockSequenceStart
  | blockMappingStart
  | blockEnd
  | flowSequenceStart
  | flowSequenceEnd
  | flowMappingStart
  | flowMappingEnd
  | key
  | value
  | blockEntry
  | flowEntry
  | alias (name : String)
  | anchor (name : String)
  | tag (handle : Option String) (suffix : String)
  | scalar (text : String) (plain : Bool)
  /-- No more tokens can be read. -/
  | fault (fault : Fault)
  deriving DecidableEq, Repr, Inhabited

/-- A place at which a key may begin. -/
structure Candidate where
  /-- The number of tokens before. -/
  tokens : Nat
  /-- Whether there has to be a key. -/
  required : Bool
  /-- The number of characters before. -/
  index : Nat
  /-- The line. -/
  line : Nat
  /-- The column. -/
  column : Nat

/-- What has been read of a text. -/
structure Lexer where
  /-- Where reading goes on. -/
  place : Place
  /-- The tokens so far. -/
  tokens : Array Token := #[]
  /-- The number of open brackets. -/
  flow : Nat := 0
  /-- The indentation of the innermost collection. -/
  indent : Int := -1
  /-- The indentations of the collections around it. -/
  indents : List Int := []
  /-- Whether a key may begin. -/
  keyAllowed : Bool := true
  /-- The candidates, one for each number of open brackets. -/
  candidates : List (Nat × Candidate) := []

namespace Lexer

/-- Adds a token. -/
def push (l : Lexer) (t : Token) : Lexer :=
  { l with tokens := l.tokens.push t }

/-- Takes `n` characters as a token. -/
def take (l : Lexer) (n : Nat) (t : Token) : Lexer :=
  { l.push t with place := l.place.skip n }

/-- Ends the collections that are indented more than a column. -/
def unwind (column : Int) (l : Lexer) : Lexer :=
  if l.flow ≠ 0 then l else go l.indents.length l
where
  /-- Ends at most `n` collections. -/
  go : Nat → Lexer → Lexer
    | 0, l => l
    | n + 1, l =>
      if column < l.indent then
        go n { l.push .blockEnd with indent := l.indents.headD (-1), indents := l.indents.tail }
      else l

/-- Begins a collection at a column, if it is indented more than the one around it. -/
def deepen (l : Lexer) (column : Nat) : Lexer × Bool :=
  if l.indent < column then ({ l with indents := l.indent :: l.indents, indent := column }, true)
  else (l, false)

/-- Whether a candidate is too far away. -/
def isStale (l : Lexer) (c : Candidate) : Bool :=
  c.line ≠ l.place.line || 1024 < l.place.index - c.index

/-- Drops the candidates that are too far away. -/
def dropStale (l : Lexer) : Except Fault Lexer :=
  if l.candidates.any fun (_, c) => l.isStale c && c.required then .error .malformed
  else .ok { l with candidates := l.candidates.filter fun (_, c) => !l.isStale c }

/-- Drops the candidate inside the innermost brackets. -/
def dropCandidate (l : Lexer) : Except Fault Lexer :=
  match l.candidates.lookup l.flow with
  | none => .ok l
  | some c =>
    if c.required then .error .malformed
    else .ok { l with candidates := l.candidates.filter (·.1 ≠ l.flow) }

/-- Makes the place a candidate, if a key may begin. -/
def addCandidate (l : Lexer) : Except Fault Lexer :=
  if l.keyAllowed then do
    let p := l.place
    let required := l.flow = 0 && l.indent = p.column
    let l ← l.dropCandidate
    let c : Candidate := ⟨l.tokens.size, required, p.index, p.line, p.column⟩
    return { l with candidates := (l.flow, c) :: l.candidates }
  else .ok l

/-- Inserts a token before those that were read since a candidate. -/
def insertAt (l : Lexer) (n : Nat) (t : Token) : Lexer :=
  { l with tokens := l.tokens.extract 0 n ++ #[t] ++ l.tokens.extract n l.tokens.size }

/-- Goes to the next token. -/
def toToken (l : Lexer) : Lexer :=
  let p := l.place
  let p := if p.index = 0 ∧ p.sees '\uFEFF' then p.skip 1 else p
  go p.rest.length { l with place := p }
where
  /-- Skips at most `n` lines. -/
  go : Nat → Lexer → Lexer
    | 0, l => { l with place := l.place.skipWhile (· = ' ') }
    | n + 1, l =>
      let p := l.place.skipWhile (· = ' ')
      let p := if p.sees '#' then p.skipWhile (!isBreak ·) else p
      if p.rest.head?.any isBreak then
        go n { l with place := p.lineBreak.2, keyAllowed := l.keyAllowed || l.flow = 0 }
      else { l with place := p }

/-! ## Names and tags -/

/-- Reads the name of an anchor or an alias behind its mark. -/
def anchorName (p : Place) : Except Fault (String × Place) :=
  let n := p.run isWordChar
  let behind := p.skip n
  let follows := behind.blankAt 0 ||
    behind.head?.any fun c => "?:,]\x7d%@".toList.contains c || c = Char.ofNat 0x60
  if n = 0 ∨ !follows then .error .malformed else .ok (String.ofList (p.text n), behind)

/-- Reads the handle of a tag. -/
def tagHandle (p : Place) : Except Fault (String × Place) :=
  if !p.sees '!' then .error .malformed
  else
    let behind := p.skip 1
    if behind.sees ' ' then .ok ("!", behind)
    else
      let n := behind.run isWordChar
      if (behind.skip n).sees '!' then .ok (String.ofList (p.text (n + 2)), p.skip (n + 2))
      else .error .malformed

/-- Whether a character can stand in a tag. -/
def isTagChar (c : Char) : Bool :=
  c.isAlphanum || "-;/?:@&=+$,_.!~*'()[]%".toList.contains c

/-- The bytes that are written with percent signs at the beginning of a text. -/
def percentBytes : List Char → Except Fault (List UInt8)
  | '%' :: rest =>
    match rest with
    | a :: b :: rest =>
      match hexDigit? a, hexDigit? b with
      | some x, some y => (percentBytes rest).map (UInt8.ofNat (x * 16 + y) :: ·)
      | _, _ => .error .malformed
    | _ => .error .malformed
  | _ => .ok []

/-- Reads the text of a tag. -/
def tagText : Nat → Place → List Char → Except Fault (String × Place)
  | 0, p, acc => .ok (String.ofList acc, p)
  | fuel + 1, p, acc =>
    match p.head? with
    | none => finish p acc
    | some c =>
      if c = '%' then do
        let bytes ← percentBytes p.rest
        match Utf8.decode bytes with
        | .ok text => tagText fuel (p.skip (3 * bytes.length)) (acc ++ text)
        | .error _ => .error .malformed
      else if isTagChar c then tagText fuel (p.skip 1) (acc ++ [c])
      else finish p acc
where
  /-- A tag must not be empty. -/
  finish (p : Place) (acc : List Char) : Except Fault (String × Place) :=
    if acc.isEmpty then .error .malformed else .ok (String.ofList acc, p)

/-- Reads a tag. -/
def tagToken (p : Place) : Except Fault (Token × Place) := do
  let (t, p) ←
    if p.rest[1]? = some '<' then do
      let (suffix, p) ← tagText p.rest.length (p.skip 2) []
      if p.sees '>' then pure (Token.tag none suffix, p.skip 1) else .error .malformed
    else if p.blankAt 1 then pure (Token.tag none "!", p.skip 1)
    else
      let word := (p.rest.drop 1).takeWhile fun c => c ≠ ' ' && !isBreak c
      let (handle, p) ← if word.contains '!' then tagHandle p else pure ("!", p.skip 1)
      let (suffix, p) ← tagText p.rest.length p []
      pure (Token.tag (some handle) suffix, p)
  if p.atSpace then return (t, p) else .error .malformed

/-- Reads a directive behind its mark. -/
def directive (p : Place) : Except Fault (Token × Place) := do
  let n := p.run isWordChar
  let name := String.ofList (p.text n)
  let p := p.skip n
  if n = 0 ∨ !p.atSpace then .error .malformed
  if name = "YAML" then
    let p := p.skipWhile (· = ' ')
    let major := p.run Char.isDigit
    let behind := p.skip major
    let minor := (behind.skip 1).run Char.isDigit
    let stop := behind.skip (1 + minor)
    if major = 0 ∨ minor = 0 ∨ !behind.sees '.' ∨ !stop.atSpace then .error .malformed
    let text := (p.text major).dropWhile (· = '0')
    return (.directive name (String.ofList text) "", ← stop.endLine)
  else if name = "TAG" then
    let (handle, p) ← tagHandle (p.skipWhile (· = ' '))
    if !p.sees ' ' then .error .malformed
    let (prefixText, p) ← tagText p.rest.length (p.skipWhile (· = ' ')) []
    if !p.atSpace then .error .malformed
    return (.directive name handle prefixText, ← p.endLine)
  else return (.directive name "" "", ← (p.skipWhile (!isBreak ·)).endLine)

/-! ## Tokens -/

/-- Begins a construct at the margin: all collections end. -/
def toMargin (l : Lexer) : Except Fault Lexer := do
  let l ← (l.unwind (-1)).dropCandidate
  return { l with keyAllowed := false }

/-- Reads an opening bracket. -/
def opening (l : Lexer) (t : Token) : Except Fault Lexer := do
  let l ← l.addCandidate
  return { l.take 1 t with flow := l.flow + 1, keyAllowed := true }

/-- Reads a closing bracket. -/
def closing (l : Lexer) (t : Token) : Except Fault Lexer := do
  let l ← l.dropCandidate
  return { l.take 1 t with flow := l.flow - 1, keyAllowed := false }

/-- Reads the mark of an entry or a key of a block collection, which may begin the collection. -/
def blockMark (l : Lexer) (start mark : Token) (keyAllowed : Bool) : Except Fault Lexer := do
  let l ←
    if l.flow ≠ 0 then pure l
    else if !l.keyAllowed then .error .malformed
    else
      let (l, isNew) := l.deepen l.place.column
      pure (if isNew then l.push start else l)
  let l ← dropCandidate { l with keyAllowed }
  return l.take 1 mark

/-- Reads the mark of a value. The candidate before it becomes a key. -/
def valueMark (l : Lexer) : Except Fault Lexer :=
  match l.candidates.lookup l.flow with
  | some c =>
    let l := { l with candidates := l.candidates.filter (·.1 ≠ l.flow) }
    let l := l.insertAt c.tokens .key
    let l :=
      if l.flow ≠ 0 then l
      else
        let (l, isNew) := l.deepen c.column
        if isNew then l.insertAt c.tokens .blockMappingStart else l
    .ok ({ l with keyAllowed := false }.take 1 .value)
  | none => l.blockMark .blockMappingStart .value (l.flow = 0)

/-- Reads something that may be a key. -/
def keyLike (l : Lexer) (read : Lexer → Except Fault (Token × Place)) : Except Fault Lexer := do
  let l ← l.addCandidate
  let (t, p) ← read l
  return { l.push t with place := p, keyAllowed := false }

/-- Reads a quoted scalar. -/
def quoted (quote : Char) (l : Lexer) : Except Fault (Token × Place) := do
  let p := l.place.skip 1
  let (text, p) ← quotedScalar quote (p.rest.length + 1) p []
  return (.scalar (String.ofList text) false, p)

/-- Reads a plain scalar. -/
def plain (l : Lexer) : Except Fault Lexer := do
  let l ← l.addCandidate
  let s := plainScalar (l.flow ≠ 0) (l.indent + 1) (l.place.rest.length + 1) l.place [] [] false
  return { l.push (.scalar (String.ofList s.text) true) with
    place := s.behind, keyAllowed := s.wraps }

/-- Reads a block. -/
def block (l : Lexer) (folded : Bool) : Except Fault Lexer := do
  let l ← dropCandidate { l with keyAllowed := true }
  let (text, p) ← blockScalar folded l.indent (l.place.skip 1)
  return { l.push (.scalar (String.ofList text) false) with place := p }

/-- Whether a plain scalar can begin here. -/
def beginsPlain (l : Lexer) (c : Char) : Bool :=
  if !"-?:,[]\x7b\x7d#&*!|>'\"%@".toList.contains c && c ≠ Char.ofNat 0x60 then
    !(c = ' ' || c = '\t' || isBreak c)
  else !l.place.blankAt 1 && (c = '-' || (l.flow = 0 && (c = '?' || c = ':')))

/-- Reads one token, and says whether the text goes on. -/
def step (l : Lexer) : Except Fault (Lexer × Bool) := do
  let l ← l.toToken.dropStale
  let l := l.unwind l.place.column
  let p := l.place
  let goesOn (r : Except Fault Lexer) : Except Fault (Lexer × Bool) := r.map (·, true)
  match p.head? with
  | none =>
    let l ← l.toMargin
    return ({ l.push .streamEnd with candidates := [] }, false)
  | some c =>
    if c = '%' ∧ p.column = 0 then
      let l ← l.toMargin
      let (t, p) ← directive (p.skip 1)
      return ({ l.push t with place := p }, true)
    else if p.column = 0 ∧ p.marks '-' then goesOn (l.toMargin.map fun l => l.take 3 .documentStart)
    else if p.column = 0 ∧ p.marks '.' then goesOn (l.toMargin.map fun l => l.take 3 .documentEnd)
    else if c = '[' then goesOn (l.opening .flowSequenceStart)
    else if c = '\x7b' then goesOn (l.opening .flowMappingStart)
    else if c = ']' then goesOn (l.closing .flowSequenceEnd)
    else if c = '\x7d' then goesOn (l.closing .flowMappingEnd)
    else if c = ',' then
      goesOn ((dropCandidate { l with keyAllowed := true }).map fun l => l.take 1 .flowEntry)
    else if c = '-' ∧ p.blankAt 1 then goesOn (l.blockMark .blockSequenceStart .blockEntry true)
    else if c = '?' ∧ (l.flow ≠ 0 ∨ p.blankAt 1) then
      goesOn (l.blockMark .blockMappingStart .key (l.flow = 0))
    else if c = ':' ∧ (l.flow ≠ 0 ∨ p.blankAt 1) then goesOn l.valueMark
    else if c = '*' then
      goesOn (l.keyLike fun l => (anchorName (l.place.skip 1)).map fun (n, p) => (.alias n, p))
    else if c = '&' then
      goesOn (l.keyLike fun l => (anchorName (l.place.skip 1)).map fun (n, p) => (.anchor n, p))
    else if c = '!' then goesOn (l.keyLike fun l => tagToken l.place)
    else if c = '|' ∧ l.flow = 0 then goesOn (l.block false)
    else if c = '>' ∧ l.flow = 0 then goesOn (l.block true)
    else if c = '\'' ∨ c = '"' then goesOn (l.keyLike (quoted c))
    else if l.beginsPlain c then goesOn l.plain
    else .error .malformed

/-- The tokens that are there although no more can be read: those before the first candidate. -/
def failed (l : Lexer) (f : Fault) : List Token :=
  let pending := l.candidates.filter fun (_, c) => !l.isStale c
  let count := pending.foldl (fun n (_, c) => min n c.tokens) l.tokens.size
  l.tokens.toList.take count ++ [.fault f]

/-- Reads tokens to the end of the text, or as far as they can be read. -/
def run : Nat → Lexer → List Token
  | 0, l => l.failed .malformed
  | fuel + 1, l =>
    match l.step with
    | .error f => l.failed f
    | .ok (l, true) => run fuel l
    | .ok (l, false) => l.tokens.toList

end Lexer

/-- The tokens of a text. -/
def tokens (text : List Char) : List Token :=
  if text.all isAllowed then
    Lexer.run (text.length + 2) { place := { rest := text } }
  else [.fault .malformed]

end BundleManifest.Yaml
