import BundleManifest.Script.Grammar.Phrase

/-!
# Literals

Strings, templates, regular expressions and numbers. The parts of a string or a template are its raw
fragments and its escape sequences, and the substitutions of a template.
-/

namespace BundleManifest.Script.Parser

/-- Repeats a parser of nodes until it yields none. -/
def nodes (step : Parser (Option (List Node))) : Parser (List Node) := do
  let all ← iterate (fun acc => do
    match ← step with
    | some nodes => return some (nodes.reverse ++ acc)
    | none => return none) []
  return all.reverse

/-- Reads a string literal, whose quote is given. -/
def string (quote : Char) : Parser Node :=
  construct "string" do
    let mark' := String.singleton quote
    let first ← immediate mark'
    let parts ← nodes do
      let c ← here
      match c.rest with
      | [] => refuse
      | x :: _ =>
        if x = quote then return none
        else if x = '\\' then return some [← leaf "escape_sequence" (Lexeme.escapeSequence c.rest)]
        else if x = '\n' || x = '\r' then
          let comments ← toToken false
          require (comments ≠ [] || (← here).startsWith mark')
          return some comments
        else
          let isRaw (y : Char) : Bool := y ≠ quote && y ≠ '\\' && y ≠ '\n' && y ≠ '\r'
          return some [← leaf "string_fragment" (Lexeme.run isRaw c.rest)]
    return first :: parts ++ [← immediate mark']

/-- The length of the raw text of a template. -/
def templateText : List Char → Nat
  | [] => 0
  | '$' :: '{' :: _ => 0
  | c :: rest => if c = backtick || c = '\\' then 0 else templateText rest + 1

/-- Reads a template. -/
def template (read : Reader) : Parser Node :=
  construct "template_string" do
    let mark' := String.singleton backtick
    let first ← immediate mark'
    let parts ← nodes do
      let c ← here
      match c.rest with
      | [] => refuse
      | x :: _ =>
        if x = backtick then return none
        else if x = '\\' then return some [← leaf "escape_sequence" (Lexeme.escapeSequence c.rest)]
        else if c.startsWith "$\x7b" then
          let part ← construct "template_substitution" do
            let first ← immediate "$\x7b"
            let inner ← value read (.sequence false)
            return first :: inner ++ (← mark "\x7d" false)
          return some [part]
        else return some [← leaf "string_fragment" (templateText c.rest)]
    return first :: parts ++ [← immediate mark']

/-- Reads a regular expression. -/
def regex : Parser Node :=
  construct "regex" do
    let first ← immediate "/"
    let pattern ← leaf "regex_pattern" (Lexeme.pattern (← here).rest)
    let last ← immediate "/"
    let n := Lexeme.run (fun c => 'a' ≤ c && c ≤ 'z') (← here).rest
    if n = 0 then return [first, pattern, last]
    else return [first, pattern, last, ← leaf "regex_flags" n]

/-- Reads a number. -/
def number : Parser Node := do
  leaf "number" (Lexeme.number (← here).rest)

end BundleManifest.Script.Parser
