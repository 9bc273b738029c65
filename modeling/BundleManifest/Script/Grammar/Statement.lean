import BundleManifest.Script.Grammar.Exchange

/-!
# Statements

A statement is told by its first word, or else is an expression. A block that stands where a statement
is expected is read as an object if it cannot be a block.
-/

namespace BundleManifest.Script.Parser

/-- Whether a statement can begin here, so that a closing parenthesis before it may be put in. -/
def beforeBody (c : Cursor) : Bool :=
  c.startsWith ";" || c.startsWith "\x7b"

/-- Reads an expression in parentheses that a statement needs. -/
def condition (read : Reader) : Parser (List Node) := do
  let comments ← toToken
  let node ← construct "parenthesized_expression" do
    let first ← mark "("
    let inner ← value read (.sequence false)
    return first ++ inner ++ (← closing ")" beforeBody false)
  return comments ++ [node]

/-- Reads the statement that another one governs, with the comments before it. -/
def governed (read : Reader) : Parser (List Node × Bool) := do
  let comments ← toToken
  let p ← read .statement
  return (comments ++ [p.node], p.openEnd)

/-- Reads a variable and its initial value; the second component says whether it has one. -/
def declarator (read : Reader) : Parser (List Node × Bool) := do
  let comments ← toToken
  let start ← here
  let name ←
    if start.startsWith "\x7b" || start.startsWith "[" then bound read true
    else do pure [← identifier]
  match ← continuation true false with
  | none => return (comments ++ [start.nodeTo (← here) "variable_declarator" name], false)
  | some t =>
    if t.token.startsWith "=" then
      let op ← mark "=" false
      let right ← value read (.expression 0 true)
      return (comments ++ [start.nodeTo (← here) "variable_declarator" (name ++ op ++ right)], true)
    else return (comments ++ [start.nodeTo (← here) "variable_declarator" name], false)

/-- Reads variables with commas between them. -/
def declarators (read : Reader) : Parser (List Node × Bool) := do
  let (first, given) ← declarator read
  iterate (fun (parts, given) => do
    match ← continuation true given with
    | none => return none
    | some t =>
      if t.token.startsWith "," then
        let comma ← mark "," false
        let (next, given) ← declarator read
        return some (parts ++ comma ++ next, given)
      else return none) (first, given)

/-- Reads a declaration of variables behind its first words. -/
def declaration (read : Reader) (start : Cursor) (words : List Node) (symbol : String) :
    Parser Phrase := do
  let (parts, given) ← declarators read
  let last ← semicolon given
  return { node := start.nodeTo (← here) symbol (words ++ parts ++ last) }

/-- The kind of declaration that a word begins. -/
def declarationSymbol (word : String) : String :=
  if word = "var" then "variable_declaration" else "lexical_declaration"

/-- Whether the word `let` that stands here begins a declaration. -/
def beginsLet (c : Cursor) : Bool :=
  let next := ((c.skip 3).trivia true).token
  c.name = "let" && (next.startsWith "\x7b" || next.startsWith "[" || isFreeName next.name)

/-- Whether a declaration begins here in the header of a loop, where the word `of` is no name of a
    variable behind `let`. -/
def beginsLoopVariable (c : Cursor) : Bool :=
  c.name = "var" || c.name = "const"
    || (beginsLet c && ((c.skip 3).trivia true).token.name ≠ "of")

/-- Whether the word `using` that stands here begins a declaration. -/
def beginsUsing (c : Cursor) : Bool :=
  let behind := c.skip 5
  let next := (behind.trivia true).token
  c.name = "using" && !Semicolon.isImplied true behind.rest
    && isFreeName next.name && next.name ≠ "of"

/-- Reads the body of a loop and makes the node of the loop. -/
def loop (read : Reader) (start : Cursor) (symbol : String) (parts : List Node) : Parser Phrase := do
  let (body, openEnd) ← governed read
  return { node := start.nodeTo (← here) symbol (parts ++ body), openEnd }

/-- Reads what a loop over a collection runs through: the word between, the collection and the closing
    parenthesis. -/
def collection (read : Reader) : Parser (List Node) := do
  let t ← peek false
  require (t.token.name = "in" || t.token.name = "of")
  let word ← keyword t.token.name false
  let right ← value read (.sequence false)
  return word ++ right ++ (← mark ")" false)

/-- Reads the header of a loop over a collection, behind its opening parenthesis. -/
def collectionHeader (read : Reader) : Parser (List Node) := do
  let comments ← toToken
  let c ← here
  if beginsLoopVariable c then
    let word ← keyword c.name
    let more ← toToken
    let name ←
      if (← here).startsWith "\x7b" || (← here).startsWith "[" then bound read false
      else do pure [← identifier]
    let t ← peek
    let initial ←
      if c.name = "var" && t.token.startsWith "=" then do
        let op ← mark "="
        pure (op ++ (← value read (.expression 9 false)))
      else pure []
    return comments ++ word ++ more ++ name ++ initial ++ (← collection read)
  else
    let p ← read (.reference false)
    require p.form.isTarget
    return comments ++ p.node :: (← collection read)

/-- Reads the header of a loop that counts, behind its opening parenthesis. -/
def countingHeader (read : Reader) : Parser (List Node) := do
  let comments ← toToken
  let c ← here
  let clause : Parser (List Node) := do
    let t ← peek
    if t.token.startsWith ";" then mark ";"
    else
      let inner ← value read (.sequence false)
      return inner ++ (← mark ";" false)
  let initial ←
    if beginsLoopVariable c then do
      let word ← keyword c.name
      let p ← declaration read c word (declarationSymbol c.name)
      pure [p.node]
    else clause
  let test ← clause
  let t ← peek
  let step ← if t.token.startsWith ")" then pure [] else value read (.sequence false)
  return comments ++ initial ++ test ++ step ++ (← mark ")" false)

/-- Reads a `for` loop. -/
def forLoop (read : Reader) : Parser Phrase := do
  let start ← here
  let word ← keyword "for"
  let wait ← optionalKeyword "await"
  let first ← mark "("
  let (header, symbol) ← orElse
    (do return (← collectionHeader read, "for_in_statement"))
    (do
      require wait.isEmpty
      return (← countingHeader read, "for_statement"))
  loop read start symbol (word ++ wait ++ first ++ header)

/-- Reads an `if` statement. -/
def conditional (read : Reader) : Parser Phrase := do
  let start ← here
  let word ← keyword "if"
  let test ← condition read
  let (consequence, openEnd) ← governed read
  let t ← peek
  if t.token.name = "else" then
    let comments ← toToken
    let elseStart ← here
    let elseWord ← keyword "else"
    let (alternative, openEnd) ← governed read
    let clause := elseStart.nodeTo (← here) "else_clause" (elseWord ++ alternative)
    let parts := word ++ test ++ consequence ++ comments ++ [clause]
    return { node := start.nodeTo (← here) "if_statement" parts, openEnd }
  else return { node := start.nodeTo (← here) "if_statement" (word ++ test ++ consequence), openEnd }

/-- Reads a `do` loop. -/
def doLoop (read : Reader) : Parser Phrase := do
  let start ← here
  let word ← keyword "do"
  let (body, _) ← governed read
  let whileWord ← keyword "while"
  let test ← condition read
  let parts := word ++ body ++ whileWord ++ test
  let last ← orElse (semicolon false) (pure [])
  return { node := start.nodeTo (← here) "do_statement" (parts ++ last), openEnd := last.isEmpty }

/-- Reads a `try` statement. -/
def tryStatement (read : Reader) : Parser Phrase := do
  let start ← here
  let word ← keyword "try"
  let body ← bodyBlock read
  let t ← peek
  let handler ←
    if t.token.name = "catch" then do
      let comments ← toToken
      let node ← construct "catch_clause" do
        let word ← keyword "catch"
        let t ← peek
        let parameter ←
          if t.token.startsWith "(" then do
            let first ← mark "("
            let name ← bound read false
            pure (first ++ name ++ (← mark ")"))
          else pure []
        return word ++ parameter ++ (← bodyBlock read)
      pure (comments ++ [node])
    else pure []
  let t ← peek
  let finalizer ←
    if t.token.name = "finally" then do
      let comments ← toToken
      let node ← construct "finally_clause" do
        let word ← keyword "finally"
        return word ++ (← bodyBlock read)
      pure (comments ++ [node])
    else pure []
  return { node := start.nodeTo (← here) "try_statement" (word ++ body ++ handler ++ finalizer)
           openEnd := true }

/-- Whether the statements of a case end here. -/
def endsCase (c : Cursor) : Bool :=
  endsBlock c || c.name = "case" || c.name = "default"

/-- Reads a `switch` statement. -/
def switchStatement (read : Reader) : Parser Phrase := do
  let start ← here
  let word ← keyword "switch"
  let test ← condition read
  let comments ← toToken
  let body ← construct "switch_body" do
    let first ← immediate "\x7b"
    let cases ← nodes do
      let t ← peek
      if endsBlock t.token then return none
      else
        let comments ← toToken
        let node ←
          if t.token.name = "case" then
            construct "switch_case" do
              let word ← keyword "case"
              let test ← value read (.sequence false)
              let colon ← mark ":" false
              return word ++ test ++ colon ++ (← statements read endsCase)
          else
            construct "switch_default" do
              let word ← keyword "default"
              let colon ← mark ":"
              return word ++ colon ++ (← statements read endsCase)
        return some (comments ++ [node])
    return first :: cases ++ (← closing "\x7d" Cursor.atEnd)
  return { node := start.nodeTo (← here) "switch_statement" (word ++ test ++ comments ++ [body]) }

/-- Reads a statement that consists of a word and perhaps a label. -/
def jump (word symbol : String) (labelled : Bool) : Parser Phrase := do
  let start ← here
  let first ← keyword word
  let label ← match ← continuation true false with
    | none => pure []
    | some t =>
      if labelled && isFreeName t.token.name then do
        let comments ← toToken false
        pure (comments ++ [← identifier "statement_identifier"])
      else pure []
  let last ← semicolon false
  return { node := start.nodeTo (← here) symbol (first ++ label ++ last) }

/-- Reads a `return` statement. -/
def returnStatement (read : Reader) : Parser Phrase := do
  let start ← here
  let word ← keyword "return"
  match ← continuation true false with
  | none =>
    let last ← semicolon false
    return { node := start.nodeTo (← here) "return_statement" (word ++ last) }
  | some t =>
    if t.token.startsWith ";" then
      let last ← semicolon false
      return { node := start.nodeTo (← here) "return_statement" (word ++ last) }
    else
      let inner ← value read (.sequence true)
      let last ← semicolon true
      return { node := start.nodeTo (← here) "return_statement" (word ++ inner ++ last) }

/-- Reads an expression that is a statement. -/
def expressionStatement (read : Reader) : Parser Phrase := do
  let start ← here
  let p ← read (.sequence true)
  require p.whole
  let last ← semicolon true
  return { node := start.nodeTo (← here) "expression_statement" (p.node :: last) }

/-- Whether what follows a function or a class with a name makes an expression of it. -/
def continuesExpression (behind : Cursor) : Bool :=
  let c := (behind.trivia false).token
  !Semicolon.isImplied false behind.rest
    && (([",", "=", "*", "%", "&", "|", "^", "?", ">"].any c.startsWith)
      || (c.startsWith "." && !beginsOperand c) || c.name = "in" || c.name = "instanceof")

/-- Reads a function or a class with a name, or an expression that begins with one. -/
def declaredOr (read : Reader) (declared : Parser Node) : Parser Phrase := do
  let start ← here
  let node ← declared
  if continuesExpression (← here) then
    goOn start
    expressionStatement read
  else return { node, openEnd := true }

/-- Reads what a statement begins with that is not an expression, given its first word. -/
def wordStatement? (read : Reader) (word : String) : Parser (Option Phrase) := do
  let start ← here
  let behind := start.skip (Lexeme.name start.rest)
  let next := (behind.trivia true).token
  match word with
  | "if" => return some (← conditional read)
  | "for" => return some (← forLoop read)
  | "while" =>
    let word ← keyword "while"
    let test ← condition read
    return some (← loop read start "while_statement" (word ++ test))
  | "with" =>
    let word ← keyword "with"
    let test ← condition read
    return some (← loop read start "with_statement" (word ++ test))
  | "do" => return some (← doLoop read)
  | "try" => return some (← tryStatement read)
  | "switch" => return some (← switchStatement read)
  | "break" => return some (← jump "break" "break_statement" true)
  | "continue" => return some (← jump "continue" "continue_statement" true)
  | "debugger" => return some (← jump "debugger" "debugger_statement" false)
  | "return" => return some (← returnStatement read)
  | "throw" =>
    let word ← keyword "throw"
    let inner ← value read (.sequence true)
    let last ← semicolon true
    return some { node := start.nodeTo (← here) "throw_statement" (word ++ inner ++ last) }
  | "var" | "const" =>
    let words ← keyword word
    return some (← declaration read start words (declarationSymbol word))
  | "function" =>
    if declaresName start then return some (← declaredOr read (function read true)) else return none
  | "class" =>
    if declaresName start && next.name ≠ "extends" then
      return some (← declaredOr read (classFrom read start [] true))
    else return none
  | "import" =>
    if next.startsWith "(" || next.startsWith "." then return none
    else return some (← importStatement read)
  | "export" =>
    if next.startsWith "*" || next.startsWith "\x7b" || next.name = "default" ||
        beginsDeclaration next
    then return some (← exportStatement read start [])
    else return none
  | _ =>
    if beginsLet start then
      let words ← keyword "let"
      return some (← declaration read start words "lexical_declaration")
    else if beginsUsing start then
      let words ← keyword "using"
      return some (← declaration read start words "using_declaration")
    else if word = "await" && beginsUsing next then
      let first ← keyword "await"
      let words ← keyword "using"
      return some (← declaration read start (first ++ words) "using_declaration")
    else if word = "async" && next.name = "function" && !Semicolon.isImplied true behind.rest
        && declaresName start then
      return some (← declaredOr read (function read true))
    else if (isFreeName word || word = "export") && next.startsWith ":" then
      let label ← leaf "statement_identifier" (Lexeme.name start.rest)
      let colon ← mark ":"
      let (body, openEnd) ← governed read
      let node := start.nodeTo (← here) "labeled_statement" (label :: colon ++ body)
      return some { node, openEnd }
    else return none

/-- Reads a class or an export that begins with decorators. -/
def decorated (read : Reader) : Parser Phrase := do
  let start ← here
  let before ← decorators read
  let comments ← toToken
  let c ← here
  if c.name = "export" then exportStatement read start (before ++ comments)
  else if declaresName c then
    return { node := ← classFrom read start (before ++ comments) true, openEnd := true }
  else
    goOn start
    expressionStatement read

/-- Reads a statement. -/
def statement (read : Reader) : Parser Phrase := do
  let start ← here
  if start.startsWith "\x7b" then
    let asBlock : Parser Phrase := do
      return { node := ← block read, openEnd := true }
    if opensObject start then orElse asBlock (expressionStatement read) else asBlock
  else if start.startsWith ";" then
    let c ← immediate ";"
    return { node := { c with symbol := "empty_statement", named := true } }
  else if start.startsWith "@" then decorated read
  else
    match ← wordStatement? read start.name with
    | some p => return p
    | none => expressionStatement read

end BundleManifest.Script.Parser
