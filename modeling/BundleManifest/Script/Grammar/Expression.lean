import BundleManifest.Script.Grammar.Class
import BundleManifest.Script.Grammar.Element

/-!
# Expressions

An expression is made of operands with members and calls behind them, and of operators between them.
From the tightest to the loosest:

* members, templates and calls, then `++` and `--`, then the prefix operators;
* the binary operators, by levels: `Operator.level?`;
* the conditional operator, and `??` beside it.

Assignments, arrow functions and `yield` are read as operands that reach as far as they can.
-/

namespace BundleManifest.Script

namespace Operator

/-- The level of the prefix operators. -/
def prefixLevel : Nat := 13

/-- The level of the conditional operator. -/
def conditionalLevel : Nat := 1

/-- The binary operators that are marks, each before its beginnings, with their levels. -/
def marks : List (String × Nat) :=
  [(">>>", 9), ("===", 7), ("!==", 7), ("**", 12), ("&&", 3), ("||", 2), ("??", 1), ("<<", 9),
    (">>", 9), ("<=", 8), (">=", 8), ("==", 7), ("!=", 7), ("*", 11), ("/", 11), ("%", 11),
    ("+", 10), ("-", 10), ("<", 8), (">", 8), ("&", 6), ("^", 5), ("|", 4)]

/-- The operators that assign, other than `=`, each before its beginnings. -/
def assigning : List String :=
  [">>>=", "&&=", "||=", "??=", "**=", "<<=", ">>=", "+=", "-=", "*=", "/=", "%=", "^=", "&=", "|="]

/-- Whether `=` stands here, and not a longer mark. -/
def isAssignment (c : Cursor) : Bool :=
  c.startsWith "=" && !c.startsWith "==" && !c.startsWith "=>"

/-- The operator that stands here and assigns. -/
def assignment? (c : Cursor) : Option String :=
  assigning.find? c.startsWith

/-- The binary operator that stands here, with its level. -/
def binary? (c : Cursor) : Option (String × Nat) :=
  if (assignment? c).isSome || c.startsWith "=>" then none
  else if c.name = "in" || c.name = "instanceof" then some (c.name, 8)
  else marks.find? fun op => c.startsWith op.1

/-- Whether the second operand of an operator is read at the level of the operator. -/
def groupsRight (op : String) : Bool :=
  op = "**"

/-- Whether `?.` stands here, and not a question mark before a number. -/
def isOptionalChain (c : Cursor) : Bool :=
  c.startsWith "?." && !((c.skip 2).rest.head?.map Char.isDigit).getD false

/-- Whether the question mark of a conditional expression stands here. -/
def isConditional (c : Cursor) : Bool :=
  c.startsWith "?" && !c.startsWith "??" && !isOptionalChain c

end Operator

/-- Whether an operand can begin here. -/
def beginsOperand (c : Cursor) : Bool :=
  match c.rest with
  | [] => false
  | x :: rest =>
    if x = '.' then (rest.head?.map Char.isDigit).getD false
    else if c.name ≠ "" then c.name ≠ "in" && c.name ≠ "instanceof" && c.name ≠ "of"
    else x.isDigit || x = backtick || "\"'([\x7b/<!~+-@#".toList.contains x

namespace Parser

/-- Reads an expression of a level behind comments, and takes only what is complete as it is. -/
def part (read : Reader) (level : Nat) (semi : Bool) : Parser (List Node) :=
  value read (.expression level semi)

/-- Reads the name of a member behind its point, with the comments before it. -/
def memberName : Parser (List Node) := do
  let comments ← toToken
  let c ← here
  let node ←
    if c.startsWith "#" then leaf "private_property_identifier" (propertyName.privateName c.rest)
    else leaf "property_identifier" (Lexeme.name c.rest)
  return comments ++ [node.withRole .property]

/-- Reads an index in brackets. -/
def index (read : Reader) (semi : Bool) : Parser (List Node) := do
  let first ← mark "["
  let inner ← value read (.sequence false)
  return first ++ inner ++ (← closing "]" (beforeSemicolon semi) false)

/-- Reads what stands directly behind an operand: members, calls, templates, `++` and `--`. -/
def behindOperand (read : Reader) (semi calls updates : Bool) (start : Cursor) (first : Phrase) :
    Parser Phrase :=
  iterate (fun left => do
    match ← continuation semi true with
    | none => return none
    | some t =>
      let c := t.token
      let target := left.node
      let finish (symbol : String) (form : Form) (parts : List Node) : Parser (Option Phrase) := do
        require left.whole
        let bindable := form = .access
        return some { node := start.nodeTo (← here) symbol parts, form, bindable }
      if Operator.isOptionalChain c then
        goOn (c.skip 2)
        let chain := t.comments ++ [c.nodeTo (c.skip 2) "optional_chain" []]
        let next := ((← here).trivia true).token
        if next.startsWith "(" then
          require (calls && left.form.isOperand)
          let comments ← toToken
          let args ← arguments read semi
          finish "call_expression" .primary (target.withRole .callee :: chain ++ comments ++ [args])
        else if next.startsWith "[" then
          let rest ← index read semi
          finish "subscript_expression" .access (target.withRole .object :: chain ++ rest)
        else
          let rest ← memberName
          finish "member_expression" .access (target.withRole .object :: chain ++ rest)
      else if c.startsWith "." && !c.startsWith "..." then
        let dot ← mark "." false
        let rest ← memberName
        finish "member_expression" .access (target.withRole .object :: dot ++ rest)
      else if c.startsWith "[" then
        goOn c
        let rest ← index read semi
        finish "subscript_expression" .access (target.withRole .object :: t.comments ++ rest)
      else if c.startsWith "(" && calls then
        goOn c
        let args ← arguments read semi
        finish "call_expression" .primary (target.withRole .callee :: t.comments ++ [args])
      else if c.startsWith (String.singleton backtick)
          && (left.form.isOperand || left.form = .construction) then
        goOn c
        let text ← template read
        finish "call_expression" .primary
          (target.withRole .callee :: t.comments ++ [text.withRole .arguments])
      else if updates && (c.startsWith "++" || c.startsWith "--") then
        let op := if c.startsWith "++" then "++" else "--"
        let sign ← mark op false
        finish "update_expression" .other (target :: sign)
      else return none) first

/-- Reads what is in parentheses: an expression, or the parameters of an arrow function. -/
def parenthesized (read : Reader) (semi : Bool) : Parser Phrase := do
  let start ← here
  let first ← mark "("
  let inner ← items ")" false (spreadable read)
  let inside := inner.nodes.reverse
  let last ← closing ")" (fun c => 0 < inner.count && beforeSemicolon semi c)
  let stop ← here
  let arrow? ← continuation semi true
  if inner.bindable && (arrow?.map (·.token.startsWith "=>")).getD false then
    let params := start.nodeTo stop "formal_parameters" (first ++ inside ++ last)
    let body ← arrowBody read semi
    return { node := start.nodeTo (← here) "arrow_function" (params :: body), form := .primary }
  else
    require (0 < inner.count && !inner.open' && inner.whole)
    require (!inside.any (·.symbol = "spread_element"))
    let contents :=
      if inner.count = 1 then inside
      else
        let isEdge (n : Node) : Bool := n.isComment || n.symbol = "html_comment"
        let before := inside.takeWhile isEdge
        let after := (inside.reverse.takeWhile isEdge).reverse
        let middle := (inside.drop before.length).take (inside.length - before.length - after.length)
        before ++ together middle ++ after
    return {
      node := start.nodeTo stop "parenthesized_expression" (first ++ contents ++ last)
      form := .parentheses }
where
  /-- The expressions of a list with the commas between them as one node. -/
  together (nodes : List Node) : List Node :=
    match nodes.head?, nodes.getLast? with
    | some a, some z =>
      [{ symbol := "sequence_expression", start := a.start, stop := z.stop, point := a.point,
         children := nodes }]
    | _, _ => nodes

/-- Reads the arrow function whose only parameter is a name that has been read, or leaves the name. -/
def nameOrArrow (read : Reader) (semi : Bool) (start : Cursor) (before : List Node) (name : Node)
    (form : Form) : Parser Phrase := do
  match ← continuation semi true with
  | none => return { node := name, form, bindable := true }
  | some t =>
    if t.token.startsWith "=>" then
      let body ← arrowBody read semi
      return {
        node := start.nodeTo (← here) "arrow_function" (before ++ name :: body), form := .primary }
    else return { node := name, form, bindable := true }

/-- Reads what begins with the word `async`: a function, an arrow function, or the name. -/
def async (read : Reader) (semi : Bool) : Parser Phrase := do
  let start ← here
  let name := start.nodeTo (start.skip 5) "identifier" []
  let asName : Parser Phrase := do
    goOn (start.skip 5)
    nameOrArrow read semi start [] name .name
  goOn (start.skip 5)
  match ← continuation semi true with
  | none => asName
  | some t =>
    let word := start.markTo (start.skip 5) "async"
    if t.token.name = "function" then
      goOn start
      return { node := ← function read false, form := .primary }
    else if t.token.startsWith "(" then
      orElse
        (do
          let comments ← toToken false
          let params ← parameters read
          let body ← arrowBody read semi
          let parts := word :: comments ++ params :: body
          return { node := start.nodeTo (← here) "arrow_function" parts, form := .primary })
        asName
    else if isFreeName t.token.name && t.token.name ≠ "of" then
      orElse
        (do
          let comments ← toToken false
          let param ← identifier
          let body ← arrowBody read semi
          let parts := word :: comments ++ param :: body
          return { node := start.nodeTo (← here) "arrow_function" parts, form := .primary })
        asName
    else asName

/-- Reads what begins with the word `new`. -/
def construction (read : Reader) (semi : Bool) : Parser Phrase := do
  let start ← here
  let word ← keyword "new"
  let t ← peek
  if t.token.startsWith "." then
    let dot ← mark "."
    let target ← keyword "target"
    return { node := start.nodeTo (← here) "meta_property" (word ++ dot ++ target), form := .primary }
  else
    let comments ← toToken
    let p ← read (.construction semi)
    require p.whole
    let parts := word ++ comments ++ [p.node]
    match ← continuation semi true with
    | none => return { node := start.nodeTo (← here) "new_expression" parts, form := .construction }
    | some t =>
      if t.token.startsWith "(" then
        goOn t.token
        let args ← arguments read semi
        let parts := parts ++ t.comments ++ [args]
        return { node := start.nodeTo (← here) "new_expression" parts, form := .construction }
      else return { node := start.nodeTo (← here) "new_expression" parts, form := .construction }

/-- Reads what begins with the word `import` in an expression. -/
def importCall : Parser Phrase := do
  let start ← here
  let word ← leaf "import" 6
  let t ← peek
  let behind := ((t.token.skip 1).trivia true).token
  if t.token.startsWith "." && behind.name = "meta" then
    let dot ← mark "."
    let meta' ← keyword "meta"
    return { node := start.nodeTo (← here) "meta_property" (word :: dot ++ meta'), form := .primary }
  else
    require (t.token.startsWith "(" || t.token.startsWith ".")
    return { node := word, form := .primary }

/-- Reads what begins with the word `yield`. -/
def yield (read : Reader) (semi : Bool) : Parser Phrase := do
  let start ← here
  let word ← keyword "yield"
  match ← continuation semi true with
  | none => return { node := start.nodeTo (← here) "yield_expression" word }
  | some t =>
    if t.token.startsWith "*" then
      let star ← mark "*" false
      let rest ← part read 0 semi
      return { node := start.nodeTo (← here) "yield_expression" (word ++ star ++ rest) }
    else if beginsOperand t.token then
      let rest ← part read 0 semi
      return { node := start.nodeTo (← here) "yield_expression" (word ++ rest) }
    else return { node := start.nodeTo (← here) "yield_expression" word }

/-- Reads a prefix operator that is a word, and its operand. -/
def wordOperator (read : Reader) (semi : Bool) (word symbol : String) : Parser Phrase := do
  let start ← here
  let op ← keyword word
  let rest ← part read Operator.prefixLevel semi
  return { node := start.nodeTo (← here) symbol (op ++ rest) }

/-- Reads a word that is an operand as it is. -/
def constant (symbol : String) (form : Form) : Parser Phrase := do
  let c ← here
  return { node := ← leaf symbol (Lexeme.name c.rest), form, bindable := form = .constant }

/-- Reads an operand that begins with a name or a keyword. -/
def wordOperand (read : Reader) (semi : Bool) (word : String) : Parser Phrase := do
  let start ← here
  match word with
  | "function" => return { node := ← function read false, form := .primary }
  | "async" => async read semi
  | "class" => return { node := ← classFrom read start [] false, form := .primary }
  | "new" => construction read semi
  | "import" => importCall
  | "this" => constant "this" .primary
  | "super" => constant "super" .primary
  | "null" => constant "null" .primary
  | "true" => constant "true" .primary
  | "false" => constant "false" .primary
  | "undefined" => constant "undefined" .constant
  | _ =>
    require (isFreeName word || word = "export")
    let name ← leaf "identifier" (Lexeme.name start.rest)
    nameOrArrow read semi start [] name .name

/-- Reads an operand without anything behind it. -/
def operand (read : Reader) (semi : Bool) : Parser Phrase := do
  let start ← here
  match start.rest with
  | [] => refuse
  | x :: rest =>
    if start.name ≠ "" then wordOperand read semi start.name
    else if x.isDigit || (x = '.' && (rest.head?.map Char.isDigit).getD false) then
      return { node := ← number, form := .primary }
    else if x = '"' || x = '\'' then return { node := ← string x, form := .primary }
    else if x = backtick then return { node := ← template read, form := .primary }
    else if x = '(' then parenthesized read semi
    else if x = '[' then do
      let p ← array read semi
      return { p with bindable := p.form = .pattern }
    else if x = '\x7b' then do
      let p ← object read semi
      return { p with bindable := p.form = .pattern }
    else if x = '/' then return { node := ← regex, form := .primary }
    else if x = '@' then
      let before ← decorators read
      let comments ← toToken
      return { node := ← classFrom read start (before ++ comments) false, form := .primary }
    else refuse

/-- Reads what begins an expression and is no plain operand: a prefix operator, `yield` or an
    element. -/
def prefixed? (read : Reader) (semi : Bool) : Parser (Option Phrase) := do
  let start ← here
  let word := start.name
  let sign? := ["++", "--", "!", "~", "+", "-"].find? start.startsWith
  if word = "typeof" || word = "void" || word = "delete" then
    return some (← wordOperator read semi word "unary_expression")
  else if word = "yield" then return some (← yield read semi)
  else if word = "await" && beginsOperand ((start.skip 5).trivia true).token then
    return some (← wordOperator read semi "await" "await_expression")
  else if start.startsWith "<" then return some (← read .element)
  else if start.startsWith "#" then
    let name ← leaf "private_property_identifier" (propertyName.privateName start.rest)
    let t ← peek
    require (t.token.name = "in")
    return some { node := name }
  else
    match sign? with
    | none => return none
    | some sign =>
      let op ← mark sign
      if sign = "++" || sign = "--" then
        let rest ← value read (.reference semi)
        return some { node := start.nodeTo (← here) "update_expression" (op ++ rest) }
      else
        let rest ← part read Operator.prefixLevel semi
        return some { node := start.nodeTo (← here) "unary_expression" (op ++ rest) }

/-- Reads the rest of an assignment whose left side has been read, or leaves the left side. -/
def assigned (read : Reader) (semi : Bool) (start : Cursor) (left : Phrase) : Parser Phrase := do
  if left.form.isTarget then
    match ← continuation semi true with
    | none => return left
    | some t =>
      if Operator.isAssignment t.token then
        let op ← mark "=" false
        let right ← part read 0 semi
        let node := start.nodeTo (← here) "assignment_expression" (left.node :: op ++ right)
        return { node, bindable := left.form.isPlace }
      else
        match Operator.assignment? t.token with
        | none => return left
        | some sign =>
          require (left.form.isUpdatable && left.whole)
          let op ← mark sign false
          let right ← part read 0 semi
          return {
            node := start.nodeTo (← here) "augmented_assignment_expression"
              (left.node :: op ++ right) }
  else return left

/-- Reads an expression up to the first binary operator. -/
def term (read : Reader) (semi : Bool) : Parser Phrase := do
  let start ← here
  match ← prefixed? read semi with
  | some p => behindOperand read semi true true start p
  | none =>
    let p ← operand read semi
    let p ← behindOperand read semi true true start p
    assigned read semi start p

/-- Reads the binary and conditional operators of a level and above behind an expression. -/
def operators (read : Reader) (level : Nat) (semi : Bool) (start : Cursor) (first : Phrase) :
    Parser Phrase :=
  iterate (fun left => do
    match ← continuation semi true with
    | none => return none
    | some t =>
      let c := t.token
      if Operator.isConditional c then
        if level ≤ Operator.conditionalLevel then
          require left.whole
          let question ← mark "?" false
          let consequence ← part read 0 false
          let colon ← mark ":" false
          let alternative ← part read Operator.conditionalLevel semi
          return some {
            node := start.nodeTo (← here) "ternary_expression"
              (left.node :: question ++ consequence ++ colon ++ alternative) }
        else return none
      else
        match Operator.binary? c with
        | none => return none
        | some (op, opLevel) =>
          if level ≤ opLevel then
            require left.whole
            let sign ← mark op false
            let right ← part read (if Operator.groupsRight op then opLevel else opLevel + 1) semi
            return some {
              node := start.nodeTo (← here) "binary_expression" (left.node :: sign ++ right) }
          else return none) first

/-- Reads an expression of a level. -/
def expression (read : Reader) (level : Nat) (semi : Bool) : Parser Phrase := do
  let start ← here
  let first ← term read semi
  operators read level semi start first

/-- Reads expressions with commas between them. -/
def sequence (read : Reader) (semi : Bool) : Parser Phrase := do
  let start ← here
  let first ← read (.expression 0 semi)
  let parts ← iterate (fun parts => do
    match ← continuation semi true with
    | none => return none
    | some t =>
      if t.token.startsWith "," then
        require first.whole
        let comma ← mark "," false
        return some ((← part read 0 semi).reverse ++ comma.reverse ++ parts)
      else return none) [first.node]
  if parts.length = 1 then return first
  else return { node := start.nodeTo (← here) "sequence_expression" parts.reverse }

/-- Reads what stands behind `new`: an operand with its members, or another construction. -/
def constructor (read : Reader) (semi : Bool) : Parser Phrase := do
  let start ← here
  let p ← operand read semi
  behindOperand read semi false false start p

/-- Reads an operand with its members and calls. -/
def reference (read : Reader) (semi : Bool) : Parser Phrase := do
  let start ← here
  let p ← operand read semi
  behindOperand read semi true false start p

end Parser

end BundleManifest.Script
