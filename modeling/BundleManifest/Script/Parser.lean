import BundleManifest.Script.Cursor
import BundleManifest.Script.Semicolon

/-!
# Parsers of scripts

A parser begins behind a token and reads on. It either yields a value and the place behind the last
token it took, or it is stuck. Both ways it says how far any attempt got, which is where a faulty
script is at fault.

A parser that is allowed to *repair* a script puts in a closing mark where only this mark is missing.
-/

namespace BundleManifest.Script

/-- The result of a parser. -/
inductive Reply (α : Type) where
  /-- A value, the place behind it, and the farthest place at which an attempt was stuck. -/
  | done (value : α) (behind far : Cursor)
  /-- The farthest place at which an attempt was stuck. -/
  | stuck (far : Cursor)

/-- A parser, which is told whether it may repair, where it begins, and how far earlier attempts
    got. -/
def Parser (α : Type) : Type :=
  Bool → Cursor → Cursor → Reply α

namespace Parser

instance : Monad Parser where
  pure a := fun _ c far => .done a c far
  bind p f := fun repair c far =>
    match p repair c far with
    | .done a c far => f a repair c far
    | .stuck far => .stuck far

/-- The farther one of two places. -/
def farther (a b : Cursor) : Cursor :=
  if a.offset < b.offset then b else a

/-- The parser that is stuck where it begins. -/
def refuse {α : Type} : Parser α :=
  fun _ c far => .stuck (farther far c)

/-- Where the parser is. -/
def here : Parser Cursor :=
  fun _ c far => .done c c far

/-- Goes on at another place. -/
def goOn (c : Cursor) : Parser Unit :=
  fun _ _ far => .done () c far

/-- Whether the parser may repair the script. -/
def mayRepair : Parser Bool :=
  fun repair c far => .done repair c far

/-- Tries a parser, and a second one from the same place if the first is stuck. -/
def orElse {α : Type} (p q : Parser α) : Parser α :=
  fun repair c far =>
    match p repair c far with
    | .done a c far => .done a c far
    | .stuck far => q repair c far

/-- Goes on only if a condition holds. -/
def require (p : Bool) : Parser Unit :=
  if p then pure () else refuse

/-- Repeats a step that yields some value and the state of the repetition, until it yields none. -/
def iterate {σ : Type} (step : σ → Parser (Option σ)) (state : σ) : Parser σ :=
  fun repair c far => go step c.left state repair c far
where
  /-- The repetition, with a bound on the number of steps. -/
  go {σ : Type} (step : σ → Parser (Option σ)) : Nat → σ → Parser σ
    | 0, state => pure state
    | fuel + 1, state => do
      match ← step state with
      | some state => go step fuel state
      | none => pure state

/-! ## Tokens -/

/-- The next token behind white space and comments, without taking it. -/
def peek (page : Bool := true) : Parser Cursor.Trivia := do
  return (← here).trivia page

/-- Takes the comments before the next token, and goes to it. -/
def toToken (page : Bool := true) : Parser (List Node) := do
  let t ← peek page
  goOn t.token
  return t.comments

/-- Takes a mark that stands right here. -/
def immediate (mark : String) : Parser Node := do
  let c ← here
  if c.startsWith mark then
    let stop := c.skip mark.length
    goOn stop
    return c.markTo stop mark
  else refuse

/-- Takes a mark, with the comments before it. -/
def mark (text : String) (page : Bool := true) : Parser (List Node) := do
  let t ← peek page
  if t.token.startsWith text then
    let stop := t.token.skip text.length
    goOn stop
    return t.comments ++ [t.token.markTo stop text]
  else refuse

/-- Takes a keyword, with the comments before it. -/
def keyword (word : String) (page : Bool := true) : Parser (List Node) := do
  let t ← peek page
  if t.token.name = word then
    let stop := t.token.skip word.length
    goOn stop
    return t.comments ++ [t.token.markTo stop word]
  else refuse

/-- Takes a token of `n` characters that stands right here, as a construct of its own. -/
def leaf (symbol : String) (n : Nat) : Parser Node := do
  let c ← here
  if n = 0 then refuse
  else
    let stop := c.skip n
    goOn stop
    return c.nodeTo stop symbol []

/-- Takes the closing mark of a construct. A parser that may repair puts it in when it is missing and
    the text that follows allows this. -/
def closing (text : String) (allowed : Cursor → Bool) (page : Bool := true) : Parser (List Node) := do
  let t ← peek page
  if t.token.startsWith text then
    let stop := t.token.skip text.length
    goOn stop
    return t.comments ++ [t.token.markTo stop text]
  else if (← mayRepair) && allowed t.token then
    goOn t.behind
    return t.comments ++ [{ t.behind.markTo t.behind text with missing := true }]
  else refuse

/-- Runs a parser from the next token on, and makes a construct of the parts it yields. -/
def construct (symbol : String) (p : Parser (List Node)) : Parser Node := do
  let start ← here
  let children ← p
  return start.nodeTo (← here) symbol children

/-- What follows an expression, unless the statement ends here. `semi` says whether a semicolon may be
    implied here, and `operator` whether an operator may follow. -/
def continuation (semi operator : Bool) : Parser (Option Cursor.Trivia) := do
  let c ← here
  return go semi operator (c.left + 1) c []
where
  /-- Reads on, with the comments read so far, the last one first. -/
  go (semi operator : Bool) : Nat → Cursor → List Node → Option Cursor.Trivia
    | 0, c, comments => some ⟨comments.reverse, c, c.skipBlank⟩
    | fuel + 1, c, comments =>
      if semi && Semicolon.isImplied operator c.rest then none
      else
        match c.comment? false with
        | some (comment, stop) => go semi operator fuel stop (comment :: comments)
        | none => some ⟨comments.reverse, c, c.skipBlank⟩

/-- Takes the end of a statement: a semicolon, or nothing where one is implied. -/
def semicolon (operator : Bool) : Parser (List Node) := do
  let c ← here
  match go operator c.left c [] with
  | some (nodes, stop) =>
    goOn stop
    return nodes
  | none => refuse
where
  /-- Reads on, with the comments read so far, the last one first. -/
  go (operator : Bool) : Nat → Cursor → List Node → Option (List Node × Cursor)
    | fuel, c, comments =>
      if Semicolon.isImplied operator c.rest then some (comments.reverse, c)
      else
        match fuel, c.comment? false with
        | fuel + 1, some (comment, stop) => go operator fuel stop (comment :: comments)
        | _, _ =>
          let c := c.skipBlank
          if c.startsWith ";" then
            let stop := c.skip 1
            some ((c.markTo stop ";" :: comments).reverse, stop)
          else none

end Parser

end BundleManifest.Script
