import BundleManifest.Script.Grammar.Collection

/-!
# Classes

The members of a class are methods, fields and blocks that run once. A field ends like a statement.
-/

namespace BundleManifest.Script.Parser

/-- Reads what follows `@`: a name, a member of one, a call of either, or an expression in
    parentheses. -/
def decorator (read : Reader) : Parser Node :=
  construct "decorator" do
    let first ← immediate "@"
    let comments ← toToken
    let start ← here
    if start.startsWith "(" then
      let p ← read (.operand false)
      require (p.form = .parentheses)
      return first :: comments ++ [p.node]
    else
      let name ← identifier
      let target ← iterate (fun target => do
        let t ← peek
        if t.token.startsWith "." then
          let dot ← mark "."
          let more ← toToken
          let property ← leaf "property_identifier" (Lexeme.name (← here).rest)
          return some (start.nodeTo (← here) "member_expression"
            (target.withRole .object :: dot ++ more ++ [property.withRole .property]))
        else return none) name
      let t ← peek
      if t.token.startsWith "(" then
        let more ← toToken
        let args ← arguments read false
        let call :=
          start.nodeTo (← here) "call_expression" (target.withRole .callee :: more ++ [args])
        return first :: comments ++ [call]
      else return first :: comments ++ [target]

/-- Reads the decorators that stand here. -/
def decorators (read : Reader) : Parser (List Node) :=
  nodes do
    let t ← peek
    if t.token.startsWith "@" then
      let comments ← toToken
      return some (comments ++ [← decorator read])
    else return none

/-- Whether the word behind which we are is the name of a member of a class. -/
def endsMemberName (behind : Cursor) : Bool :=
  let c := (behind.trivia true).token
  Semicolon.isImplied false behind.rest || ["(", ";", "=", ","].any c.startsWith

/-- Reads a method, a field or a block of a class. -/
def member (read : Reader) : Parser (List Node) := do
  let start ← here
  let before ← decorators read
  let t ← peek
  let opening := ((t.token.skip (Lexeme.name t.token.rest)).trivia true).token
  if before.isEmpty && start.name = "static" && opening.startsWith "\x7b" then
    return [← construct "class_static_block" do
      let word ← keyword "static"
      return word ++ (← bodyBlock read)]
  else
    let words ← modifiers endsMemberName
    let key ← propertyName read
    let t ← peek
    if t.token.startsWith "(" then
      let rest ← signatureAndBody read
      return [start.nodeTo (← here) "method_definition" (before ++ words ++ key ++ rest)]
    else
      require (words.all fun n => n.symbol = "static" || n.isComment || n.symbol = "html_comment")
      let value' ← match ← continuation true false with
        | none => pure []
        | some t =>
          if t.token.startsWith "=" then do
            let mark' ← mark "=" false
            pure (mark' ++ (← value read (.expression 0 true)))
          else pure []
      let field := start.nodeTo (← here) "field_definition" (before ++ words ++ key ++ value')
      return field :: (← semicolon (!value'.isEmpty))

/-- Reads the body of a class. -/
def classBody (read : Reader) : Parser Node := do
  let body ← construct "class_body" do
    let first ← immediate "\x7b"
    let inner ← nodes do
      let t ← peek
      if endsBlock t.token then return none
      else if t.token.startsWith ";" then return some (← mark ";")
      else
        let comments ← toToken
        return some (comments ++ (← member read))
    return first :: inner ++ (← closing "\x7d" Cursor.atEnd)
  return body.withRole .body

/-- Reads a class behind its decorators, as a declaration if `declared`, which then has to have a
    name. -/
def classFrom (read : Reader) (start : Cursor) (before : List Node) (declared : Bool) :
    Parser Node := do
  let word ← keyword "class"
  let name ← if declared then aName else optionalName
  let heritage ← do
    let t ← peek
    if t.token.name = "extends" then
      let comments ← toToken
      let node ← construct "class_heritage" do
        let word ← keyword "extends"
        return word ++ (← value read (.expression 0 false))
      pure (comments ++ [node])
    else pure []
  let comments ← toToken
  let body ← classBody read
  let symbol := if declared then "class_declaration" else "class"
  return start.nodeTo (← here) symbol (before ++ word ++ name ++ heritage ++ comments ++ [body])

end BundleManifest.Script.Parser
