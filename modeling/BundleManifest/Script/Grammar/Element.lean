import BundleManifest.Script.Grammar.Literal

/-!
# Elements of pages

An element is a pair of tags with texts, character references, elements and expressions in braces
between them, or a single tag. The names of the two tags of a pair need not agree.
-/

namespace BundleManifest.Script.Parser

/-- Takes the name of an element or an attribute that stands right here: it may have hyphens, and one
    colon between two parts. -/
def elementName (symbol : String) : Parser Node := do
  let start ← here
  let part : Parser Node := do
    let c ← here
    leaf symbol (max (Lexeme.hyphenatedName c.rest) (Lexeme.name c.rest))
  let first ← part
  let t ← peek
  if t.token.startsWith ":" then
    let colon ← mark ":"
    let comments ← toToken
    let second ← part
    return start.nodeTo (← here) "jsx_namespace_name" (first :: colon ++ comments ++ [second])
  else return first

/-- Takes the name of an element, which may be a member of another one. -/
def tagName : Parser Node := do
  let start ← here
  let first ← elementName "identifier"
  iterate (fun target => do
    let t ← peek
    if t.token.startsWith "." then
      let dot ← mark "."
      let comments ← toToken
      let property ← leaf "property_identifier" (Lexeme.name (← here).rest)
      return some (start.nodeTo (← here) "member_expression"
        (target.withRole .object :: dot ++ comments ++ [property.withRole .property]))
    else return none) first

/-- The length of a fragment of an attribute's string. -/
def attributeText (quote : Char) : List Char → Nat
  | [] => 0
  | '&' :: c :: rest =>
    if c = '#' || c.isAlpha then 0 else attributeText quote rest + 2
  | c :: rest => if c = quote || c = '&' then 0 else attributeText quote rest + 1

/-- Reads the string of an attribute, whose quote is given. -/
def attributeString (quote : Char) : Parser Node :=
  construct "string" do
    let mark' := String.singleton quote
    let first ← immediate mark'
    let parts ← nodes do
      let c ← here
      match c.rest with
      | [] => refuse
      | x :: _ =>
        if x = quote then return none
        else if attributeText quote c.rest = 0 then
          return some [← leaf "html_character_reference" (Lexeme.characterReference c.rest)]
        else return some [← leaf "string_fragment" (attributeText quote c.rest)]
    return first :: parts ++ [← immediate mark']

/-- Reads an expression in braces, which may be left out or spread. -/
def braced (read : Reader) : Parser Node :=
  construct "jsx_expression" do
    let first ← mark "\x7b"
    let t ← peek
    if t.token.startsWith "\x7d" then return first ++ (← mark "\x7d")
    else
      let comments ← toToken
      let p ← if t.token.startsWith "..." then spreadable read else read (.sequence false)
      require p.whole
      return first ++ comments ++ p.node :: (← mark "\x7d" false)

/-- Reads an attribute. -/
def tagAttribute (read : Reader) : Parser Node := do
  let start ← here
  if start.startsWith "\x7b" then braced read
  else
    construct "jsx_attribute" do
      let name ← elementName "property_identifier"
      let t ← peek
      if t.token.startsWith "=" then
        let mark' ← mark "="
        let comments ← toToken
        let c ← here
        let value ←
          if c.startsWith "\"" then attributeString '"'
          else if c.startsWith "'" then attributeString '\''
          else if c.startsWith "\x7b" then braced read
          else do
            let p ← read .element
            pure p.node
        return name :: mark' ++ comments ++ [value]
      else return [name]

/-- Reads what stands between the tags of a pair, and the closing tag. -/
def elementRest (read : Reader) : Parser (List Node) := do
  let inner ← nodes do
    let c ← here
    let n := Lexeme.elementText c.rest
    if 0 < n then return some [← leaf "jsx_text" n]
    else
      let comments ← toToken
      let c ← here
      if c.startsWith "\x7b" then return some (comments ++ [← braced read])
      else if c.startsWith "&" then
        return some (comments ++
          [← leaf "html_character_reference" (Lexeme.characterReference c.rest)])
      else if c.startsWith "<" then
        if c.startsWith "</" then
          if comments.isEmpty then return none else return some comments
        else
          let p ← read .element
          return some (comments ++ [p.node])
      else refuse
  let comments ← toToken
  let closing ← construct "jsx_closing_element" do
    let first ← mark "</"
    let t ← peek
    if t.token.startsWith ">" then return first ++ (← mark ">")
    else
      let comments ← toToken
      let name ← tagName
      return first ++ comments ++ name :: (← mark ">")
  return inner ++ comments ++ [closing]

/-- Reads an element. -/
def element (read : Reader) : Parser Phrase := do
  let start ← here
  let first ← mark "<"
  let t ← peek
  if t.token.startsWith ">" then
    let last ← mark ">"
    let opening := start.nodeTo (← here) "jsx_opening_element" (first ++ last)
    let rest ← elementRest read
    return { node := start.nodeTo (← here) "jsx_element" (opening :: rest) }
  else
    let comments ← toToken
    let name ← tagName
    let attributes ← nodes do
      let t ← peek
      if t.token.startsWith ">" || t.token.startsWith "/" then return none
      else
        let comments ← toToken
        return some (comments ++ [← tagAttribute read])
    let t ← peek
    let parts := first ++ comments ++ name :: attributes
    if t.token.startsWith "/>" then
      let last ← mark "/>"
      return { node := start.nodeTo (← here) "jsx_self_closing_element" (parts ++ last) }
    else
      let last ← mark ">"
      let opening := start.nodeTo (← here) "jsx_opening_element" (parts ++ last)
      let rest ← elementRest read
      return { node := start.nodeTo (← here) "jsx_element" (opening :: rest) }

end BundleManifest.Script.Parser
