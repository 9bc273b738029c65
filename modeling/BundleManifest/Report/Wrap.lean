import BundleManifest.Report.Line

/-!
# Cells of a table

The text of a cell is wrapped so that its lines fit into a number of cells on the terminal. A line
ends behind a word, with as much white space as there is room for. A word that is longer than a line
is cut off, and an ellipsis says so.
-/

namespace BundleManifest.Report

variable [Console]

/-- The words of a line, each with the white space behind it; the first one also has the white space
    before it. White space alone is no word, and stays apart. -/
def words (s : List Char) : List (List Char) :=
  go s.length s
where
  /-- Cuts off at most `n` words. -/
  go : Nat → List Char → List (List Char)
    | 0, _ => []
    | n + 1, s =>
      let lead := s.takeWhile Text.isBlank
      let body := (s.drop lead.length).takeWhile (!Text.isBlank ·)
      if body.isEmpty then []
      else
        let behind := s.drop (lead.length + body.length)
        let tail := behind.takeWhile Text.isBlank
        (lead ++ body ++ tail) :: go n (behind.drop tail.length)

/-- Puts words on lines of a width, given the words on the open line, the last one first, and the
    width up to their end. -/
def fill (limit used : Nat) (acc : List (List Char)) : List (List Char) → List (List Char)
  | [] => [acc.reverse.flatten]
  | word :: rest =>
    if used + width (Text.stripRight Text.isBlank word) ≤ limit then
      fill limit (used + width word) (word :: acc) rest
    else if acc.isEmpty then fill limit (width word) [word] rest
    else acc.reverse.flatten :: fill limit (width word) [word] rest

/-- A line without the white space that goes beyond a number of characters. -/
def stripEnd (limit : Nat) (s : List Char) : List Char :=
  let blanks := (s.reverse.takeWhile Text.isBlank).length
  s.take (s.length - min blanks (s.length - limit))

/-- The longest beginning of a line that fits into a width, filled up with a space if half a character
    is left. -/
def cut : Nat → List Char → List Char
  | limit, c :: rest =>
    if Console.charWidth c ≤ limit then c :: cut (limit - Console.charWidth c) rest
    else List.replicate limit ' '
  | _, [] => []

/-- A line of exactly a width: filled up with spaces, or cut off before an ellipsis. -/
def fit (limit : Nat) (s : List Char) : List Char :=
  if width s ≤ limit then s ++ List.replicate (limit - width s) ' '
  else cut (limit - 1) s ++ ['…']

/-- The lines of a line that is wrapped. -/
def wrapLine (limit : Nat) (s : List Char) : List (List Char) :=
  match words s with
  | [] => [fit limit (stripEnd limit s)]
  | ws => (fill limit 0 [] ws).map fun line => fit limit (stripEnd limit line)

/-- The lines of a text that is wrapped. -/
def wrap (limit : Nat) (s : List Char) : List (List Char) :=
  (lines s).flatMap (wrapLine limit)

end BundleManifest.Report
