import BundleManifest.Script.Parser

/-!
# Goals of the grammar

The rules of the grammar refer to each other through *goals*: a rule gets a function that reads a
goal, and calls it where the construct may contain itself. The rules are thus plain functions, and
only the program as a whole ties them together.

What was read is a *phrase*: a node with what it can be used for. The brackets of a literal and of a
pattern look alike, so that both are read the same way, and it is settled later which of them a phrase
has to be.
-/

namespace BundleManifest.Script

/-- What can be read. `semi` says whether a semicolon may be implied behind it. -/
inductive Goal where
  /-- Expressions with commas between them. -/
  | sequence (semi : Bool)
  /-- An expression whose operators bind at least as tightly as a level. -/
  | expression (level : Nat) (semi : Bool)
  /-- An operand with its members and calls. -/
  | reference (semi : Bool)
  /-- What stands behind `new`. -/
  | construction (semi : Bool)
  /-- An operand without anything behind it. -/
  | operand (semi : Bool)
  /-- An element of a page. -/
  | element
  /-- A statement. -/
  | statement
  deriving DecidableEq, Repr

/-- How a phrase can go on. -/
inductive Form where
  /-- A name, which can be assigned to in every way. -/
  | name
  /-- The name `undefined`, which can only be replaced. -/
  | constant
  /-- A member, which can be assigned to in every way. -/
  | access
  /-- A literal that reads as a pattern as well. -/
  | pattern
  /-- An expression in parentheses. -/
  | parentheses
  /-- Any other operand. -/
  | primary
  /-- A construction, with or without arguments. -/
  | construction
  /-- Anything that is not an operand. -/
  | other
  deriving DecidableEq, Repr

/-- What was read for a goal. -/
structure Phrase where
  /-- The node. -/
  node : Node
  /-- How it can go on. -/
  form : Form := .other
  /-- Whether it can be used as it is; a literal with a default value is only a pattern. -/
  whole : Bool := true
  /-- Whether it can be a parameter. -/
  bindable : Bool := false
  /-- Whether a semicolon might still be implied behind it, although it is complete. -/
  openEnd : Bool := false
  deriving Inhabited

/-- The reader of goals that the rules get. -/
abbrev Reader := Goal → Parser Phrase

namespace Form

/-- Whether a phrase can stand before `=`, other than in parentheses. -/
def isPlace : Form → Bool
  | name | constant | access | pattern => true
  | _ => false

/-- Whether a phrase can stand before `=`. -/
def isTarget : Form → Bool
  | parentheses => true
  | f => f.isPlace

/-- Whether a phrase can stand before an operator that assigns. -/
def isUpdatable : Form → Bool
  | name | access | parentheses => true
  | _ => false

/-- Whether a phrase is an operand. -/
def isOperand : Form → Bool
  | construction | other => false
  | _ => true

end Form

namespace Parser

/-- Reads a goal behind white space and comments, and takes only what is complete as it is. -/
def value (read : Reader) (goal : Goal) : Parser (List Node) := do
  let comments ← toToken
  let p ← read goal
  require p.whole
  return comments ++ [p.node]

/-- The items of a list that is being read. -/
structure Items where
  /-- The nodes, the last one first. -/
  nodes : List Node := []
  /-- The number of items. -/
  count : Nat := 0
  /-- Whether the last token was a comma, or the list is still empty. -/
  open' : Bool := true
  /-- Whether every item can be used as it is. -/
  whole : Bool := true
  /-- Whether every item can be part of a pattern. -/
  bindable : Bool := true
  deriving Inhabited

namespace Items

/-- The list with a comma. -/
def comma (i : Items) (nodes : List Node) : Items :=
  { i with nodes := nodes.reverse ++ i.nodes, open' := true }

/-- The list with an item, and the comments before it. -/
def item (i : Items) (comments : List Node) (p : Phrase) : Items where
  nodes := p.node :: (comments.reverse ++ i.nodes)
  count := i.count + 1
  open' := false
  whole := i.whole && p.whole
  bindable := i.bindable && p.bindable

end Items

/-- Reads items with commas between them, up to a closing mark, which is left. With `holes` an item
    may be left out. A parser that may repair stops at a semicolon as well. -/
def items (close : String) (holes : Bool) (item : Parser Phrase) : Parser Items :=
  iterate (fun i => do
    let t ← peek
    if t.token.startsWith close then return none
    else if t.token.startsWith "," then
      require (holes || !i.open')
      return some (i.comma (← mark ","))
    else if !i.open' || ((← mayRepair) && t.token.startsWith ";") then return none
    else
      let comments ← toToken
      return some (i.item comments (← item))) {}

/-- Reads an item of a list: an expression, or three points and an expression. -/
def spreadable (read : Reader) : Parser Phrase := do
  let start ← here
  if start.startsWith "..." then
    let dots ← immediate "..."
    let comments ← toToken
    let p ← read (.expression 0 false)
    let node := start.nodeTo (← here) "spread_element" (dots :: comments ++ [p.node])
    return { node, whole := p.whole, bindable := p.form.isPlace }
  else read (.expression 0 false)

end Parser

end BundleManifest.Script
