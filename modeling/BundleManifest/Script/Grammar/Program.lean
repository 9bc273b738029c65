import BundleManifest.Script.Grammar.Statement

/-!
# Programs

The grammar as a whole: `Script.reader` ties its rules together, and `Script.statementsOf` reads the
statements of a script one after the other, up to the first that cannot be read.
-/

namespace BundleManifest.Script

/-- The rule of a goal. -/
def rule (read : Reader) : Goal → Parser Phrase
  | .sequence semi => Parser.sequence read semi
  | .expression level semi => Parser.expression read level semi
  | .reference semi => Parser.reference read semi
  | .construction semi => Parser.constructor read semi
  | .operand semi => Parser.operand read semi
  | .element => Parser.element read
  | .statement => Parser.statement read

/-- The reader of goals, with a bound on how deep they may be nested. -/
def reader : Nat → Reader
  | 0, _ => Parser.refuse
  | depth + 1, goal => rule (reader depth) goal

/-- The statements of a script. -/
structure Statements where
  /-- The statements and the comments between them. -/
  nodes : List Node
  /-- Where the first statement begins that cannot be read, and how far it can be read. -/
  fault : Option (Cursor × Cursor)
  /-- The bound on how deep constructs may be nested. -/
  depth : Nat

/-- Reads the statements from a place on. -/
def statementsFrom (depth : Nat) :
    Nat → Cursor → Bool → List Node → Statements
  | 0, _, _, nodes => ⟨nodes.reverse, none, depth⟩
  | fuel + 1, c, openEnd, nodes =>
    match Parser.betweenStatements openEnd false c c with
    | .stuck far => ⟨nodes.reverse, some (c, far), depth⟩
    | .done comments start _ =>
      let nodes := comments.reverse ++ nodes
      if start.atEnd then ⟨nodes.reverse, none, depth⟩
      else
        match reader depth .statement false start start with
        | .stuck far => ⟨nodes.reverse, some (start, far), depth⟩
        | .done p behind _ => statementsFrom depth fuel behind p.openEnd (p.node :: nodes)

/-- Reads a script, whose first line may name an interpreter. -/
def statementsOf (text : List Char) : Statements :=
  let c := Cursor.ofText text
  let depth := 8 * c.left + 16
  let t := c.trivia true
  if t.token.startsWith "#!" then
    let stop := t.token.skip (Lexeme.run (· ≠ '\n') t.token.rest)
    let line := t.token.nodeTo stop "hash_bang_line" []
    statementsFrom depth (c.left + 1) stop false (line :: t.comments.reverse)
  else statementsFrom depth (c.left + 1) c false []

end BundleManifest.Script
