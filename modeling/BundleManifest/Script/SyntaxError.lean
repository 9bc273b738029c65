import BundleManifest.Script.Preorder
import BundleManifest.Text.Blank
import BundleManifest.Text.Quoted

/-!
# Syntax errors

A tree with a faulty node, which is one that the script lacks or one of unexpected text, is explained
by the first of these nodes. The explanation names the place of the node, and what is missing or the
beginning of the text that was not expected.
-/

namespace BundleManifest.Script

/-- Why a script is refused. Lines and columns count from one, a column in bytes. -/
structure SyntaxError where
  /-- What is wrong. -/
  text : String
  /-- The line of the fault. -/
  line : Int := 0
  /-- The column of the fault. -/
  column : Int := 0
  /-- The file of the script. -/
  file : Option String := none
  deriving DecidableEq, Repr, Inhabited

namespace SyntaxError

/-- The same error in a file. -/
def withFile (e : SyntaxError) (file : String) : SyntaxError :=
  { e with file := some file }

/-- The error with its place. A file without a name is not shown. -/
def message (e : SyntaxError) : String :=
  let place := toString e.line ++ ":" ++ toString e.column
  let file := e.file.getD ""
  (if file = "" then place else file ++ ":" ++ place) ++ ": " ++ e.text

@[simp]
theorem withFile_withFile (e : SyntaxError) (file file' : String) :
    (e.withFile file).withFile file' = e.withFile file' := rfl

end SyntaxError

/-- The number of characters of unexpected text that are shown. -/
def excerptLength : Nat := 40

namespace Node

/-- The name of the construct that holds unexpected text. -/
def faultSymbol : String := "ERROR"

/-- Whether a node is at fault: it is missing, or holds unexpected text. -/
def isFaulty (n : Node) : Bool :=
  n.symbol = faultSymbol || n.missing

/-- The beginning of the text of a node, without the white space around it. -/
def excerpt (n : Node) (source : Source) : String :=
  String.ofList (Text.strip ((n.text source).toList.take excerptLength))

/-- What is wrong with a node. -/
def complaint (n : Node) (source : Source) : String :=
  if n.missing then "Missing '" ++ n.symbol ++ "'"
  else
    let excerpt := n.excerpt source
    if excerpt = "" then "Unexpected end of input"
    else "Unexpected token near " ++ Text.quoted excerpt

/-- The first faulty node of a tree, or its root if there is none. -/
def firstFault (root : Node) : Node :=
  ((visit [root]).find? isFaulty).getD root

end Node

/-- The explanation of a faulty tree. -/
def SyntaxError.ofTree (source : Source) (root : Node) : SyntaxError :=
  let fault := root.firstFault
  { text := fault.complaint source, line := fault.point.row + 1, column := fault.point.column + 1 }

end BundleManifest.Script
