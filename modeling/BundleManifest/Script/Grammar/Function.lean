import BundleManifest.Script.Grammar.Literal

/-!
# Functions

Parameters, blocks, and the functions made of them. A function expression has a kind of its own; a
generator and an arrow function are other constructs.
-/

namespace BundleManifest.Script

/-- The words that are never names. -/
def reservedWords : List String :=
  ["break", "case", "catch", "class", "const", "continue", "debugger", "default", "delete", "do",
    "else", "export", "extends", "false", "finally", "for", "function", "if", "import", "in",
    "instanceof", "new", "null", "return", "super", "switch", "this", "throw", "true", "try",
    "typeof", "var", "void", "while", "with"]

/-- Whether a word is a name. -/
def isFreeName (word : String) : Bool :=
  word ≠ "" && !reservedWords.contains word

namespace Parser

/-- Takes the name that stands right here. -/
def identifier (symbol : String := "identifier") : Parser Node := do
  let c ← here
  require (isFreeName c.name)
  leaf symbol (Lexeme.name c.rest)

/-- Takes a name, with the comments before it. -/
def aName : Parser (List Node) := do
  let comments ← toToken
  return comments ++ [← identifier]

/-- Takes a name if one stands there. -/
def optionalName : Parser (List Node) := do
  let t ← peek
  if isFreeName t.token.name then aName else return []

/-- Reads what can be bound: a name, a member or a pattern. -/
def bound (read : Reader) (semi : Bool) : Parser (List Node) := do
  let comments ← toToken
  let p ← read (.operand semi)
  require (p.form = .name || p.form = .pattern)
  return comments ++ [p.node]

/-- Reads the parameters of a function. -/
def parameters (read : Reader) : Parser Node :=
  construct "formal_parameters" do
    let first ← mark "("
    let inner ← items ")" false (spreadable read)
    require inner.bindable
    return first ++ inner.nodes.reverse ++ (← mark ")")

/-- The comments between two statements, which are those of a page as well unless a semicolon may
    still be implied behind the first statement. -/
def betweenStatements (openEnd : Bool) : Parser (List Node) := do
  if openEnd then
    let c ← here
    let nodes := go c.left c []
    goOn nodes.2
    return nodes.1
  else toToken
where
  /-- Reads on, with the comments read so far, the last one first. -/
  go : Nat → Cursor → List Node → List Node × Cursor
    | fuel, c, comments =>
      if Semicolon.isImplied false c.rest then
        let t := c.trivia true
        (comments.reverse ++ t.comments, t.token)
      else
        match fuel, c.comment? false with
        | fuel + 1, some (comment, stop) => go fuel stop (comment :: comments)
        | _, _ => (comments.reverse, c.skipBlank)

/-- Reads statements, up to a place where the list ends, which is left. -/
def statements (read : Reader) (ends : Cursor → Bool) : Parser (List Node) := do
  let (all, _) ← iterate (fun (acc, openEnd) => do
    let start ← here
    let comments ← betweenStatements openEnd
    if ends (← here) then
      goOn start
      return none
    else
      let p ← read .statement
      return some (p.node :: (comments.reverse ++ acc), p.openEnd)) ([], false)
  return all.reverse

/-- Whether the closing brace of a block stands here, or the script ends. -/
def endsBlock (c : Cursor) : Bool :=
  c.atEnd || c.startsWith "\x7d"

/-- Reads a block of statements. -/
def block (read : Reader) : Parser Node :=
  construct "statement_block" do
    let first ← immediate "\x7b"
    let inner ← statements read endsBlock
    return first :: inner ++ (← closing "\x7d" Cursor.atEnd)

/-- Reads a block as the body of a construct, with the comments before it. -/
def bodyBlock (read : Reader) : Parser (List Node) := do
  let comments ← toToken
  return comments ++ [(← block read).withRole .body]

/-- Takes a keyword if it stands there. -/
def optionalKeyword (word : String) : Parser (List Node) := do
  let t ← peek
  if t.token.name = word then keyword word else return []

/-- Takes a mark if it stands there. -/
def optionalMark (text : String) : Parser (List Node) := do
  let t ← peek
  if t.token.startsWith text then mark text else return []

/-- Reads parameters and the body of a function, with the comments before them. -/
def signatureAndBody (read : Reader) : Parser (List Node) := do
  let comments ← toToken
  let params ← parameters read
  return comments ++ params :: (← bodyBlock read)

/-- Reads a function, as a declaration if `declared`, which then has to have a name. -/
def function (read : Reader) (declared : Bool) : Parser Node := do
  let start ← here
  let async ← optionalKeyword "async"
  let word ← keyword "function"
  let star ← optionalMark "*"
  let name ← if declared then aName else optionalName
  let rest ← signatureAndBody read
  let symbol := match star.isEmpty, declared with
    | true, true => "function_declaration"
    | true, false => "function_expression"
    | false, true => "generator_function_declaration"
    | false, false => "generator_function"
  return start.nodeTo (← here) symbol (async ++ word ++ star ++ name ++ rest)

/-- Whether the brace that stands here may open an object: a key and a colon follow it. -/
def opensObject (c : Cursor) : Bool :=
  let key := ((c.skip 1).trivia true).token
  let behind := match key.rest with
    | [] => key
    | x :: rest =>
      if x = '"' || x = '\'' then key.skip (Lexeme.run (· ≠ x) rest + 2)
      else if x.isDigit then key.skip (Lexeme.number key.rest)
      else key.skip (Lexeme.name key.rest)
  c.startsWith "\x7b" && behind.offset ≠ key.offset && (behind.trivia true).token.startsWith ":"

/-- Reads the arrow and the body of an arrow function, whose parameters have been read. A brace opens
    a block, or an object if it cannot be a block. -/
def arrowBody (read : Reader) (semi : Bool) : Parser (List Node) := do
  let arrow ← mark "=>" false
  let comments ← toToken
  let c ← here
  let expression : Parser Node := do
    let p ← read (.expression 0 semi)
    require p.whole
    return p.node
  let body ←
    if c.startsWith "\x7b" then
      if opensObject c then orElse (block read) expression else block read
    else expression
  return arrow ++ comments ++ [body.withRole .body]

end Parser

end BundleManifest.Script
