import BundleManifest.Script.Lexeme
import BundleManifest.Script.Node

/-!
# Places in a script that is being read

A *cursor* is a place in a script together with the text that follows it. Behind every token there may
be white space and comments; `Cursor.trivia` reads them up to the next token. Comments are nodes of
the tree, white space is not.

A comment of a page, such as `<!-- ... `, is only a comment where no operator can stand, and it is a
node of a kind of its own.
-/

namespace BundleManifest.Script

/-- A place in a script. -/
structure Cursor where
  /-- The text that follows. -/
  rest : List Char
  /-- The number of characters that follow. -/
  left : Nat
  /-- The number of bytes before the place. -/
  offset : Nat := 0
  /-- The line and the byte in it. -/
  point : Point := ⟨0, 0⟩
  deriving Inhabited

namespace Cursor

/-- The beginning of a script. -/
def ofText (text : List Char) : Cursor :=
  { rest := text, left := text.length }

/-- The place behind the next `n` characters. -/
def skip : Nat → Cursor → Cursor
  | 0, c => c
  | n + 1, c =>
    match c.rest with
    | [] => c
    | x :: rest =>
      skip n {
        rest, left := c.left - 1, offset := c.offset + x.utf8Size
        point :=
          if x = '\n' then ⟨c.point.row + 1, 0⟩ else ⟨c.point.row, c.point.column + x.utf8Size⟩ }

/-- Whether the script ends here. -/
def atEnd (c : Cursor) : Bool :=
  c.rest.isEmpty

/-- Whether a mark stands here. -/
def startsWith (c : Cursor) (mark : String) : Bool :=
  mark.toList.isPrefixOf c.rest

/-- The place behind white space. -/
def skipBlank (c : Cursor) : Cursor :=
  c.skip (Lexeme.run isBlank c.rest)

/-- The node between two places. -/
def nodeTo (start stop : Cursor) (symbol : String) (children : List Node) : Node :=
  { symbol, start := start.offset, stop := stop.offset, point := start.point, children }

/-- The mark or keyword between two places. -/
def markTo (start stop : Cursor) (symbol : String) : Node :=
  { symbol, named := false, start := start.offset, stop := stop.offset, point := start.point }

/-- What lies between two tokens. -/
structure Trivia where
  /-- The comments. -/
  comments : List Node
  /-- The place behind the last comment, or where the reading began. -/
  behind : Cursor
  /-- The next token. -/
  token : Cursor

/-- The comment that stands here behind white space, if there is one, and the place behind it. `page`
    says whether comments of a page are read. -/
def comment? (page : Bool) (c : Cursor) : Option (Node × Cursor) :=
  let (blank, size) := if page then Lexeme.pageComment c.rest else (0, 0)
  if 0 < size then
    let start := c.skip blank
    let stop := start.skip size
    some (start.nodeTo stop "html_comment" [], stop)
  else
    let start := c.skipBlank
    let size := Lexeme.comment start.rest
    if 0 < size then
      let stop := start.skip size
      some (start.nodeTo stop "comment" [], stop)
    else none

/-- The white space and the comments up to the next token. -/
def trivia (page : Bool) (c : Cursor) : Trivia :=
  go c.left c []
where
  /-- Reads on, with the comments read so far, the last one first. -/
  go : Nat → Cursor → List Node → Trivia
    | 0, c, comments => ⟨comments.reverse, c, c.skipBlank⟩
    | fuel + 1, c, comments =>
      match c.comment? page with
      | some (comment, stop) => go fuel stop (comment :: comments)
      | none => ⟨comments.reverse, c, c.skipBlank⟩

/-- The name that stands here, or the empty text. -/
def name (c : Cursor) : String :=
  String.ofList (c.rest.take (Lexeme.name c.rest))

end Cursor

end BundleManifest.Script
