import BundleManifest.Script.Grammar.Function

/-!
# Objects, arrays and arguments

The bracketed lists of the grammar. Elements of arrays, objects and argument lists may be left out.
The literals read as patterns as well, unless one of their items cannot be part of one.
-/

namespace BundleManifest.Script.Parser

/-- Whether the closing mark of a construct may be put in: where a semicolon follows that would end
    the statement. -/
def beforeSemicolon (semi : Bool) (c : Cursor) : Bool :=
  semi && c.startsWith ";"

/-- Reads the arguments of a call. -/
def arguments (read : Reader) (semi : Bool) : Parser Node := do
  let n ← construct "arguments" do
    let first ← mark "("
    let inner ← items ")" true (spreadable read)
    require inner.whole
    return first ++ inner.nodes.reverse ++ (← closing ")" (beforeSemicolon semi))
  return n.withRole .arguments

/-- Reads an array, or a pattern of one. -/
def array (read : Reader) (semi : Bool) : Parser Phrase := do
  let start ← here
  let first ← mark "["
  let inner ← items "]" true (spreadable read)
  let last ← closing "]" (beforeSemicolon semi)
  return {
    node := start.nodeTo (← here) "array" (first ++ inner.nodes.reverse ++ last)
    form := if inner.bindable then .pattern else .primary
    whole := inner.whole, bindable := inner.bindable }

/-- Reads the name of a property, with the comments before it. -/
def propertyName (read : Reader) : Parser (List Node) := do
  let comments ← toToken
  let c ← here
  let name ← match c.rest with
    | [] => refuse
    | x :: _ =>
      if x = '"' || x = '\'' then string x
      else if x = '[' then
        construct "computed_property_name" do
          let first ← mark "["
          let inner ← value read (.expression 0 false)
          return first ++ inner ++ (← mark "]" false)
      else if x = '#' then leaf "private_property_identifier" (privateName c.rest)
      else if x.isDigit || x = '.' then number
      else leaf "property_identifier" (Lexeme.name c.rest)
  return comments ++ [name]
where
  /-- The length of a private name. -/
  privateName : List Char → Nat
    | '#' :: rest =>
      let n := Lexeme.name rest
      if n = 0 then 0 else n + 1
    | _ => 0

/-- Takes one of some words before the name of a property. A word is such a word only if a name
    follows. -/
def modifier (ends : Cursor → Bool) (words : List String) : Parser (List Node) := do
  let t ← peek
  if words.contains t.token.name && !ends (t.token.skip (Lexeme.name t.token.rest)) then
    keyword t.token.name
  else return []

/-- Takes the words that stand before the name of a property, each at most once and in their order. -/
def modifiers (ends : Cursor → Bool) : Parser (List Node) := do
  let first ← modifier ends ["static"]
  let second ← modifier ends ["async"]
  let third ← modifier ends ["get", "set"]
  let star ← if third.isEmpty then optionalMark "*" else pure []
  return first ++ second ++ third ++ star

/-- Whether the word behind which we are is the name of a property of an object. -/
def endsKey (behind : Cursor) : Bool :=
  let c := (behind.trivia true).token
  c.atEnd || ["(", ",", ":", "=", "\x7d"].any c.startsWith

/-- Reads one item of an object. -/
def property (read : Reader) : Parser Phrase := do
  let start ← here
  if start.startsWith "..." then spreadable read
  else
    let before ← modifiers endsKey
    let key ← propertyName read
    let t ← peek
    if t.token.startsWith "(" then
      let rest ← signatureAndBody read
      return { node := start.nodeTo (← here) "method_definition" (before ++ key ++ rest) }
    else
      require before.isEmpty
      if t.token.startsWith ":" then
        let colon ← mark ":"
        let comments ← toToken
        let p ← read (.expression 0 false)
        return {
          node := start.nodeTo (← here) "pair" (key ++ colon ++ comments ++ [p.node])
          whole := p.whole, bindable := p.form.isPlace || p.bindable }
      else
        require (isFreeName start.name || start.name = "export")
        let name := start.nodeTo (← here) "shorthand_property_identifier" []
        if t.token.startsWith "=" then
          let mark' ← mark "="
          let right ← value read (.expression 0 false)
          return {
            node := start.nodeTo (← here) "object_assignment_pattern" (name :: mark' ++ right)
            whole := false, bindable := true }
        else return { node := name, bindable := true }

/-- Reads an object, or a pattern of one. -/
def object (read : Reader) (semi : Bool) : Parser Phrase := do
  let start ← here
  let first ← mark "\x7b"
  let inner ← items "\x7d" true (property read)
  let last ← closing "\x7d" (beforeSemicolon semi)
  return {
    node := start.nodeTo (← here) "object" (first ++ inner.nodes.reverse ++ last)
    form := if inner.bindable then .pattern else .primary
    whole := inner.whole, bindable := inner.bindable }

end BundleManifest.Script.Parser
