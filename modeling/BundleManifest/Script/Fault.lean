import BundleManifest.Script.Grammar.Program
import BundleManifest.Script.SyntaxError

/-!
# Faulty scripts

The tree of a script that cannot be read goes up to the first statement at fault. This statement has
two explanations: closing marks may be missing from it, or it is unexpected text up to the next token
with which a statement can begin. Both have a *weight*, and the tree has the lighter one.

* `Script.Reading`: the tree of a script, and whether all of the script was read;
* `Script.reading`: reads any text.
-/

namespace BundleManifest.Script

/-- The weight of a closing mark that is missing. -/
def missingWeight : Nat := 610

/-- The weight of unexpected text, besides what it holds. -/
def skipWeight : Nat := 500

/-- The weight of a part of unexpected text. -/
def skippedPartWeight : Nat := 100

/-- The weight of a line end in unexpected text. -/
def skippedLineWeight : Nat := 30

namespace Node

mutual

/-- The number of parts that have been read before the first missing mark of a tree, in all constructs
    that are open there. -/
def partsBeforeGap : Node → Option Nat
  | ⟨_, _, missing, _, _, _, _, children⟩ => if missing then some 0 else partsBeforeGapAll children

/-- The number of parts that have been read before the first missing mark of some parts of a
    construct. -/
def partsBeforeGapAll : List Node → Option Nat
  | [] => none
  | n :: rest =>
    match n.partsBeforeGap with
    | some parts => some parts
    | none =>
      (partsBeforeGapAll rest).map fun parts =>
        if n.symbol = "comment" || n.symbol = "html_comment" then parts else parts + 1

end

end Node

namespace Cursor

/-- The number of characters of the token that stands here. -/
def tokenLength (c : Cursor) : Nat :=
  let n := max (Lexeme.name c.rest) (Lexeme.number c.rest)
  if 0 < n then n
  else
    match c.rest with
    | [] => 0
    | quote :: rest =>
      if quote = '"' || quote = '\'' then
        let inner := Lexeme.run (fun x => x ≠ quote && x ≠ '\n') rest
        if (rest.drop inner).head? = some quote then inner + 2 else 1
      else 1

/-- The marks with which a statement can begin. -/
def openingMarks : List Char := ";([\x7b+-!~</@\"'#".toList

/-- The words with which no statement begins. -/
def innerWords : List String :=
  ["case", "catch", "default", "else", "extends", "finally", "in", "instanceof"]

/-- Whether a statement can begin with the token that stands here. -/
def beginsStatement (c : Cursor) : Bool :=
  match c.rest with
  | [] => false
  | x :: _ =>
    if 0 < Lexeme.name c.rest then !innerWords.contains c.name
    else x.isDigit || x = backtick || openingMarks.contains x

/-- The end of unexpected text that has been read up to `last`: it takes every token before `far`, and
    goes on to a token with which a statement can begin. -/
def endOfUnexpected (far : Cursor) : Nat → Cursor → Cursor
  | 0, last => last
  | fuel + 1, last =>
    let token := (last.trivia true).token
    if token.atEnd || (far.offset ≤ token.offset && token.beginsStatement) then last
    else endOfUnexpected far fuel (token.skip token.tokenLength)

/-- The unexpected text that begins here and can be read up to `far`. It has at least one token. -/
def unexpected (start far : Cursor) : Node :=
  start.nodeTo (endOfUnexpected far start.left (start.skip start.tokenLength)) Node.faultSymbol []

end Cursor

/-- The weight of unexpected text with a number of parts. -/
def weightOfSkipping (source : Source) (n : Node) (parts : Nat) : Nat :=
  skipWeight + skippedPartWeight * parts + n.span
    + skippedLineWeight * (source.slice n.start n.stop).count 10

/-- The weight of the marks that are missing from a statement. -/
def weightOfGaps (n : Node) : Nat :=
  missingWeight * (n.preorder.filter (·.missing)).length

/-- The explanation of a statement that begins at `start` and can be read up to `far`. -/
def faultyStatement (source : Source) (depth : Nat) (start far : Cursor) : Node :=
  let skipped := start.unexpected far
  match reader depth .statement true start start with
  | .stuck _ => skipped
  | .done p _ _ =>
    match p.node.partsBeforeGap with
    | none => skipped
    | some parts =>
      if weightOfGaps p.node ≤ weightOfSkipping source skipped parts then p.node else skipped

/-- What has been read of a script. -/
structure Reading where
  /-- Its tree. -/
  root : Node
  /-- Whether it was read to its end. -/
  complete : Bool

/-- Reads a script. -/
def reading (text : List Char) : Reading :=
  let source : Source := ⟨(Utf8.encode text).toArray⟩
  let program (children : List Node) : Node :=
    { symbol := "program", start := 0, stop := source.size, point := ⟨0, 0⟩, children }
  let s := statementsOf text
  match s.fault with
  | none => ⟨program s.nodes, true⟩
  | some (start, far) =>
    ⟨program (s.nodes ++ [faultyStatement source s.depth start far]), false⟩

end BundleManifest.Script
