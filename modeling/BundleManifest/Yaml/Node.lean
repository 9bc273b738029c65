import BundleManifest.Yaml.Schema
import BundleManifest.Yaml.Token

/-!
# Nodes of a YAML text

A text is a tree of scalars, sequences and mappings, each with a tag that names its type.
`Node.ofTokens?` builds the tree of a text that holds one document; a text without a document has
none.

A node can have a name, and stands for itself wherever the name occurs later. A node cannot hold
itself.
-/

namespace BundleManifest.Yaml

/-- A node of a document. -/
inductive Node where
  | scalar (tag : String) (text : String)
  | sequence (tag : String) (items : List Node)
  | mapping (tag : String) (entries : List (Node × Node))
  deriving Repr, Inhabited

/-- The tokens that are left, and what is known from those before. -/
structure Reading where
  /-- The tokens. -/
  tokens : List Token
  /-- The nodes with names. A node that is not complete yet is not there. -/
  names : List (String × Option Node) := []
  /-- What the handles of tags stand for. -/
  handles : List (String × String) := []

namespace Reading

/-- The next token, if there is one. -/
def next (r : Reading) : Except Fault Token :=
  match r.tokens with
  | .fault f :: _ => .error f
  | t :: _ => .ok t
  | [] => .ok .streamEnd

/-- The reading behind the next token. -/
def drop (r : Reading) : Reading :=
  { r with tokens := r.tokens.tail }

/-- The handles that need no directive. -/
def commonHandles : List (String × String) :=
  [("!", "!"), ("!!", coreTag "")]

/-- Takes the anchor and the tag before a node. -/
def properties (r : Reading) : Except Fault (Option String × Option String × Reading) := do
  let tagOf (handle : Option String) (suffix : String) : Except Fault String :=
    match handle with
    | none => .ok suffix
    | some h =>
      match r.handles.lookup h with
      | some start => .ok (start ++ suffix)
      | none => .error .malformed
  match ← r.next with
  | .anchor a =>
    let r := r.drop
    match ← r.next with
    | .tag h s => return (some a, some (← tagOf h s), r.drop)
    | _ => return (some a, none, r)
  | .tag h s =>
    let r := r.drop
    match ← r.next with
    | .anchor a => return (some a, some (← tagOf h s), r.drop)
    | _ => return (none, some (← tagOf h s), r)
  | _ => return (none, none, r)

/-- Reserves a name, which must be new. -/
def reserve (r : Reading) (name : Option String) : Except Fault Reading :=
  match name with
  | none => .ok r
  | some n =>
    if (r.names.lookup n).isSome then .error .malformed
    else .ok { r with names := (n, none) :: r.names }

/-- Gives a name to a node. -/
def define (r : Reading) (name : Option String) (node : Node) : Reading :=
  match name with
  | none => r
  | some n => { r with names := (n, some node) :: r.names }

end Reading

namespace Node

/-- The node of a place where nothing is written. -/
def empty : Node :=
  .scalar (Schema.tagOf []) ""

/-- Whether a tag leaves the type to the form. -/
def isOpenTag (tag : Option String) : Bool :=
  tag = none || tag = some "!"

/-- The tag of a collection. -/
def collectionTag (tag : Option String) (name : String) : String :=
  if isOpenTag tag then coreTag name else tag.getD ""

/-- The tag of a scalar. -/
def scalarTag (tag : Option String) (text : String) (plain : Bool) : String :=
  match tag with
  | none => if plain then Schema.tagOf text.toList else coreTag "str"
  | some t => if t = "!" then Schema.tagOf text.toList else t

mutual

/-- Reads a node. A collection of a block has to be `allowed`, and one whose entries are not indented
    is only read as the value of a mapping. -/
def read (allowed unindented : Bool) : Nat → Reading → Except Fault (Node × Reading)
  | 0, _ => .error .malformed
  | fuel + 1, r => do
    match ← r.next with
    | .alias name =>
      match r.names.lookup name with
      | some (some node) => return (node, r.drop)
      | _ => .error .malformed
    | _ =>
      let (name, tag, r) ← r.properties
      let t ← r.next
      let r ← r.reserve name
      let (node, r) ←
        match t with
        | .scalar text plain => pure (Node.scalar (scalarTag tag text plain) text, r.drop)
        | .flowSequenceStart => do
          let (items, r) ← readFlowSequence true fuel r.drop []
          pure (Node.sequence (collectionTag tag "seq") items, r)
        | .flowMappingStart => do
          let (entries, r) ← readFlowMapping true fuel r.drop []
          pure (Node.mapping (collectionTag tag "map") entries, r)
        | t =>
          if unindented ∧ t = .blockEntry then do
            let (items, r) ← readEntries false fuel r []
            pure (Node.sequence (collectionTag tag "seq") items, r)
          else if allowed ∧ t = .blockSequenceStart then do
            let (items, r) ← readEntries true fuel r.drop []
            pure (Node.sequence (collectionTag tag "seq") items, r)
          else if allowed ∧ t = .blockMappingStart then do
            let (entries, r) ← readBlockMapping fuel r.drop []
            pure (Node.mapping (collectionTag tag "map") entries, r)
          else if name.isSome ∨ tag.isSome then
            pure (Node.scalar (if isOpenTag tag then Schema.tagOf [] else tag.getD "") "", r)
          else .error .malformed
      return (node, r.define name node)

/-- Reads the entries of a sequence of a block, with those read so far, the last one first. The end of
    a sequence that is indented has a token. -/
def readEntries (indented : Bool) : Nat → Reading → List Node → Except Fault (List Node × Reading)
  | 0, _, _ => .error .malformed
  | fuel + 1, r, acc => do
    let t ← r.next
    if t = .blockEntry then
      let r := r.drop
      let t ← r.next
      if t = .blockEntry ∨ t = .blockEnd ∨ (!indented ∧ (t = .key ∨ t = .value)) then
        readEntries indented fuel r (empty :: acc)
      else
        let (node, r) ← read true false fuel r
        readEntries indented fuel r (node :: acc)
    else if !indented then return (acc.reverse, r)
    else if t = .blockEnd then return (acc.reverse, r.drop)
    else .error .malformed

/-- Reads the entries of a mapping of a block, with those read so far, the last one first. -/
def readBlockMapping :
    Nat → Reading → List (Node × Node) → Except Fault (List (Node × Node) × Reading)
  | 0, _, _ => .error .malformed
  | fuel + 1, r, acc => do
    let t ← r.next
    if t = .blockEnd then return (acc.reverse, r.drop)
    else if t = .key then
      let (key, r) ← readSide fuel r.drop
      let (value, r) ← if (← r.next) = .value then readSide fuel r.drop else pure (empty, r)
      readBlockMapping fuel r ((key, value) :: acc)
    else .error .malformed

/-- Reads the key or the value of an entry of a block, which may be left out. -/
def readSide : Nat → Reading → Except Fault (Node × Reading)
  | 0, _ => .error .malformed
  | fuel + 1, r => do
    let t ← r.next
    if t = .key ∨ t = .value ∨ t = .blockEnd then return (empty, r)
    else read true true fuel r

/-- Reads the items of a sequence in brackets, with those read so far, the last one first. An item may
    be a mapping with one entry. -/
def readFlowSequence (first : Bool) : Nat → Reading → List Node → Except Fault (List Node × Reading)
  | 0, _, _ => .error .malformed
  | fuel + 1, r, acc => do
    let t ← r.next
    if t = .flowSequenceEnd then return (acc.reverse, r.drop)
    else if !first ∧ t ≠ .flowEntry then .error .malformed
    else
      let r := if first then r else r.drop
      let t ← r.next
      if t = .key then
        let (key, r) ← readFlowSide fuel r.drop
        let (value, r) ← if (← r.next) = .value then readFlowSide fuel r.drop else pure (empty, r)
        readFlowSequence false fuel r (.mapping (coreTag "map") [(key, value)] :: acc)
      else if t = .flowSequenceEnd then return (acc.reverse, r.drop)
      else
        let (node, r) ← read false false fuel r
        readFlowSequence false fuel r (node :: acc)

/-- Reads the entries of a mapping in braces, with those read so far, the last one first. -/
def readFlowMapping (first : Bool) :
    Nat → Reading → List (Node × Node) → Except Fault (List (Node × Node) × Reading)
  | 0, _, _ => .error .malformed
  | fuel + 1, r, acc => do
    let t ← r.next
    if t = .flowMappingEnd then return (acc.reverse, r.drop)
    else if !first ∧ t ≠ .flowEntry then .error .malformed
    else
      let r := if first then r else r.drop
      let t ← r.next
      if t = .key then
        let (key, r) ← readFlowSide fuel r.drop
        let (value, r) ← if (← r.next) = .value then readFlowSide fuel r.drop else pure (empty, r)
        readFlowMapping false fuel r ((key, value) :: acc)
      else if t = .flowMappingEnd then return (acc.reverse, r.drop)
      else
        let (key, r) ← read false false fuel r
        readFlowMapping false fuel r ((key, empty) :: acc)

/-- Reads the key or the value of an entry inside brackets, which may be left out. -/
def readFlowSide : Nat → Reading → Except Fault (Node × Reading)
  | 0, _ => .error .malformed
  | fuel + 1, r => do
    let t ← r.next
    if t = .value ∨ t = .flowEntry ∨ t = .flowSequenceEnd ∨ t = .flowMappingEnd then return (empty, r)
    else read false false fuel r

end

/-- Takes the directives before a document. -/
def directives : Nat → Reading → Bool → Except Fault Reading
  | 0, _, _ => .error .malformed
  | fuel + 1, r, versioned => do
    match ← r.next with
    | .directive name handle tag =>
      if name = "YAML" then
        if versioned ∨ handle ≠ "1" then .error .malformed else directives fuel r.drop true
      else if name = "TAG" then
        if (r.handles.lookup handle).isSome then .error .malformed
        else directives fuel { r.drop with handles := (handle, tag) :: r.handles } versioned
      else directives fuel r.drop versioned
    | _ => return r

/-- Goes to the end of a text behind its document. No other document may follow. -/
def finish (fuel : Nat) (node : Node) (r : Reading) : Except Fault (Option Node) := do
  let r := { r with tokens := r.tokens.dropWhile (· = Token.documentEnd) }
  if (← r.next) = .streamEnd then return some node
  let r ← directives fuel { r with handles := [] } false
  let _ ← r.next
  .error .malformed

/-- Whether a document does not simply begin with its node. -/
def isStart : Token → Bool
  | .directive _ _ _ | .documentStart | .streamEnd => true
  | _ => false

/-- The node of a text that holds one document, if it holds any. -/
def ofTokens? (tokens : List Token) : Except Fault (Option Node) := do
  let fuel := 4 * tokens.length + 8
  let r : Reading := { tokens }
  let t ← r.next
  if !isStart t then
    let (node, r) ← read true false fuel { r with handles := Reading.commonHandles }
    finish fuel node r
  else if t = .streamEnd then return none
  else
    let r ← directives fuel r false
    if (← r.next) ≠ .documentStart then .error .malformed
    let r := { r.drop with handles := r.handles ++ Reading.commonHandles }
    let t ← r.next
    if isStart t ∨ t = .documentEnd then finish fuel empty r
    else
      let (node, r) ← read true false fuel r
      finish fuel node r

end Node

end BundleManifest.Yaml
