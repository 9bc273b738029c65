import BundleManifest.Number.Rounding
import BundleManifest.Number.Total
import BundleManifest.PackageSize
import BundleManifest.Report.SizeText
import BundleManifest.Report.Wrap

/-!
# Tables

A table has a title, a header and rows. Every column is as wide as its widest cell. If the table is
wider than the terminal then the widest columns are made narrower, until it fits, and their cells are
wrapped.

`Report.sizeTable` is the table of the sizes of packages.
-/

namespace BundleManifest.Report

open Number (roundHalfEven)

variable [Console]

/-- The number of spaces around the text of a cell. -/
def padding : Nat := 2

/-! ## Widths of columns -/

/-- Whether a character ends a line when the width of a text is taken. -/
def endsLine (c : Char) : Bool :=
  c = '\n' || ('\x1C' ≤ c && c ≤ '\x1E') || c = '\u0085' || c = '\u2028' || c = '\u2029'

/-- The width of the widest line of a text, given the width up to here. -/
def widest (used : Nat) : List Char → Nat
  | [] => used
  | c :: rest =>
    if endsLine c then max used (widest 0 rest) else widest (used + Console.charWidth c) rest

/-- The width of a column that has to fit into some width. -/
def columnWidth (limit : Nat) (cells : List (List Char)) : Nat :=
  (cells.map fun s => min (widest 0 s + padding) limit).foldl max 0

/-- Takes `excess` away from the widths that are equal to `top`, in equal parts of at most `most`. `n`
    of them are left. -/
def reduce (top most : Nat) : Nat → Nat → List Nat → List Nat
  | _, _, [] => []
  | excess, n, w :: rest =>
    if w = top ∧ 0 < n then
      let part := min most (roundHalfEven excess n)
      (w - part) :: reduce top most (excess - part) (n - 1) rest
    else w :: reduce top most excess n rest

/-- Makes the widest of some columns narrower, again and again, until all fit. It takes at most `fuel`
    steps. -/
def collapse (limit : Nat) : Nat → List Nat → List Nat
  | 0, ws => ws
  | fuel + 1, ws =>
    if Number.total ws ≤ limit then ws
    else
      let top := ws.foldl max 0
      let second := (ws.filter (· ≠ top)).foldl max 0
      let excess := Number.total ws - limit
      collapse limit fuel (reduce top (min excess (top - second)) excess (ws.count top) ws)

/-- The widths of columns on the terminal, where every column and the table have borders. -/
def columnWidths (columns : List (List (List Char))) : List Nat :=
  let limit := Console.width - (columns.length + 1)
  let ws := columns.map (columnWidth limit)
  collapse limit (Number.total ws) ws

/-! ## Borders and rows -/

/-- The characters of a border: the left end, the line, the meeting with a column, and the right
    end. -/
structure Border where
  left : Char
  line : Char
  meeting : Char
  right : Char

/-- The border above the header. -/
def topBorder : Border := ⟨'┏', '━', '┳', '┓'⟩

/-- The border below the header. -/
def headBorder : Border := ⟨'┡', '━', '╇', '┩'⟩

/-- The border below the last row. -/
def bottomBorder : Border := ⟨'└', '─', '┴', '┘'⟩

/-- The line of a border. -/
def Border.text (b : Border) (ws : List Nat) : List Char :=
  b.left :: List.intercalate [b.meeting] (ws.map fun w => List.replicate w b.line) ++ [b.right]

/-- The lines of a cell of a width, with a space on both sides. -/
def cellLines (w : Nat) (s : List Char) : List (List Char) :=
  (wrap (w - padding) s).map fun line => ' ' :: line ++ [' ']

/-- The lines of a row, between marks for its columns. Cells with fewer lines than others have empty
    lines, in the header above their text and else below it. -/
def rowLines (mark : Char) (isHeader : Bool) (ws : List Nat) (cells : List (List Char)) :
    List (List Char) :=
  let blocks := ws.zip (ws.zipWith cellLines cells)
  let height := (blocks.map (·.2.length)).foldl max 1
  let filled := blocks.map fun (w, ls) =>
    let empty := List.replicate (height - ls.length) (List.replicate w ' ')
    if isHeader then empty ++ ls else ls ++ empty
  (List.range height).map fun i =>
    mark :: List.intercalate [mark] (filled.map fun ls => ls.getD i []) ++ [mark]

/-! ## Tables -/

/-- A table of texts. -/
structure Table where
  /-- What stands above the table. -/
  title : String
  /-- The names of the columns. -/
  header : List String
  /-- The rows, each with a text for every column. -/
  rows : List (List String)

/-- The lines of a table. Without a title there is no line for it. -/
def Table.lines (rich : Bool) (t : Table) : Except Problem (List (List Char)) := do
  let shown (s : String) : Except Problem (List Char) := plain rich s.toList
  let header ← t.header.mapM shown
  let rows ← t.rows.mapM (·.mapM shown)
  let columns := header.mapIdx fun i name => name :: rows.map (·.getD i [])
  let ws := columnWidths columns
  let title ← if t.title = "" then pure [] else (shown t.title).map Report.lines
  return title ++ [topBorder.text ws] ++ rowLines '┃' true ws header ++ [headBorder.text ws]
    ++ rows.flatMap (rowLines '│' false ws) ++ [bottomBorder.text ws]

/-- The text of a byte count. -/
def sizeText (n : Int) : Except Problem String :=
  match sizeText? n with
  | some s => .ok s
  | none => .error .tooLarge

/-- The row for a package. -/
def sizeRow (p : PackageSize) : Except Problem (List String) := do
  return [p.packageName, if p.version = "" then "-" else p.version, toString p.modules,
    ← sizeText p.size, ← sizeText p.gzip]

/-- The table of the sizes of packages. -/
def sizeTable (rich : Bool) (title : String) (sizes : List PackageSize) : Except Problem String := do
  let header := ["Package", "Version", "Modules", "Size", "Gzip"]
  let rows ← sizes.mapM sizeRow
  let ls ← Table.lines rich { title, header, rows }
  return String.ofList (unlines ls)

end BundleManifest.Report
