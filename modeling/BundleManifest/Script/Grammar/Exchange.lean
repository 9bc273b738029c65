import BundleManifest.Script.Grammar.Expression

/-!
# Imports and exports

The statements by which a script exchanges names with others. Names of other scripts may be strings.
-/

namespace BundleManifest.Script.Parser

/-- Reads the name under which something is exchanged. -/
def exchangedName : Parser Node := do
  let c ← here
  if c.startsWith "\"" then string '"'
  else if c.startsWith "'" then string '\''
  else if c.name = "default" then leaf "identifier" 7
  else identifier

/-- Reads a list in braces of names, each of which may be given another name. With `inward` the names
    that are used here have to be free. -/
def specifiers (inward : Bool) (list item : String) : Parser Node :=
  construct list do
    let first ← mark "\x7b"
    let inner ← items "\x7d" false do
      let node ← construct item do
        let c ← here
        let name ← exchangedName
        let t ← peek
        if t.token.name = "as" then
          let word ← keyword "as"
          let comments ← toToken
          return name :: word ++ comments ++ [← if inward then identifier else exchangedName]
        else
          require (!inward || isFreeName c.name)
          return [name]
      return { node }
    return first ++ inner.nodes.reverse ++ (← mark "\x7d")

/-- Reads the script that is exchanged with. -/
def exchangedScript : Parser (List Node) := do
  let comments ← toToken
  let c ← here
  let node ← if c.startsWith "\"" then string '"' else string '\''
  return comments ++ [node]

/-- Reads the word `from` and the script behind it. -/
def fromClause : Parser (List Node) := do
  let word ← keyword "from"
  return word ++ (← exchangedScript)

/-- Reads `* as` and a name. -/
def namespaceClause (inward : Bool) (symbol : String) : Parser Node :=
  construct symbol do
    let star ← mark "*"
    let word ← keyword "as"
    let comments ← toToken
    return star ++ word ++ comments ++ [← if inward then identifier else exchangedName]

/-- Reads the names that an import binds. -/
def importClause : Parser Node :=
  construct "import_clause" do
    let group : Parser Node := do
      if (← here).startsWith "*" then namespaceClause true "namespace_import"
      else specifiers true "named_imports" "import_specifier"
    let c ← here
    if c.startsWith "*" || c.startsWith "\x7b" then return [← group]
    else
      let name ← identifier
      let t ← peek
      if t.token.startsWith "," then
        let comma ← mark ","
        let comments ← toToken
        return name :: comma ++ comments ++ [← group]
      else return [name]

/-- Reads the attributes of an import. -/
def importAttributes (read : Reader) : Parser (List Node) := do
  let t ← peek false
  if t.token.name = "with" then
    let comments ← toToken false
    let node ← construct "import_attribute" do
      let word ← keyword "with"
      let more ← toToken
      let p ← object read false
      return word ++ more ++ [p.node]
    return comments ++ [node]
  else return []

/-- Reads an import statement. -/
def importStatement (read : Reader) : Parser Phrase := do
  let start ← here
  let word ← keyword "import"
  let comments ← toToken
  let c ← here
  let parts ←
    if c.startsWith "\"" || c.startsWith "'" then exchangedScript
    else do
      let clause ← importClause
      pure (clause :: (← fromClause))
  let attributes ← importAttributes read
  let last ← semicolon false
  return {
    node := start.nodeTo (← here) "import_statement"
      (word ++ comments ++ parts ++ attributes ++ last) }

/-- Whether a declaration stands here that may also be exported. -/
def beginsDeclaration (c : Cursor) : Bool :=
  let next := ((c.skip (Lexeme.name c.rest)).trivia true).token
  ["var", "let", "const", "class", "function"].contains c.name
    || (c.name = "async" && next.name = "function") || c.startsWith "@"

/-- Whether a declaration with a name stands here, and not an expression. -/
def declaresName (c : Cursor) : Bool :=
  let behind (c : Cursor) : Cursor := ((c.skip (Lexeme.name c.rest)).trivia true).token
  let c := if c.name = "async" then behind c else c
  let next := behind c
  let next := if next.startsWith "*" then ((next.skip 1).trivia true).token else next
  isFreeName next.name

/-- Reads an export statement behind its decorators. -/
def exportStatement (read : Reader) (start : Cursor) (before : List Node) : Parser Phrase := do
  let word ← keyword "export"
  let comments ← toToken
  let c ← here
  let parts := before ++ word ++ comments
  if c.startsWith "*" then
    let next := ((c.skip 1).trivia true).token
    let star ←
      if next.name = "as" then do pure [← namespaceClause false "namespace_export"] else mark "*"
    let source ← fromClause
    let attributes ← importAttributes read
    let last ← semicolon false
    return {
      node := start.nodeTo (← here) "export_statement"
        (parts ++ star ++ source ++ attributes ++ last) }
  else if c.startsWith "\x7b" then
    let clause ← specifiers false "export_clause" "export_specifier"
    let t ← peek false
    let source ← if t.token.name = "from" then fromClause else pure []
    let attributes ← if source.isEmpty then pure [] else importAttributes read
    let last ← semicolon false
    return {
      node := start.nodeTo (← here) "export_statement"
        (parts ++ clause :: source ++ attributes ++ last) }
  else if c.name = "default" then
    let word ← keyword "default"
    let comments ← toToken
    let c ← here
    if beginsDeclaration c && (c.startsWith "@" || c.name = "let" || declaresName c) then
      let p ← read .statement
      return {
        node := start.nodeTo (← here) "export_statement" (parts ++ word ++ comments ++ [p.node])
        openEnd := p.openEnd }
    else
      let value' ← value read (.expression 0 true)
      let last ← semicolon true
      return {
        node := start.nodeTo (← here) "export_statement"
          (parts ++ word ++ comments ++ value' ++ last) }
  else
    require (beginsDeclaration c)
    let p ← read .statement
    return {
      node := start.nodeTo (← here) "export_statement" (parts ++ [p.node])
      openEnd := p.openEnd }

end BundleManifest.Script.Parser
