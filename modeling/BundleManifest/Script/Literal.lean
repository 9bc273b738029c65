import BundleManifest.Script.Node
import BundleManifest.Text.Utf16

/-!
# Values of string literals

The parts of a string literal are raw fragments and escape sequences. A fragment stands for itself,
and an escape sequence for the code points that `Escape.value` gives; these can be surrogates, so that
a character beyond the first 65536 can be written as two escapes.

The value of the literal is the text with the UTF-16 units of all parts. When one of these is a
surrogate that is not part of a pair there is no such text, and the literal keeps its raw text between
the quotes, with nothing decoded.
-/

namespace BundleManifest.Script

namespace Escape

/-- The value of a hexadecimal digit. -/
def hexDigit? (c : Char) : Option Nat :=
  if '0' ≤ c && c ≤ '9' then some (c.toNat - '0'.toNat)
  else if 'a' ≤ c && c ≤ 'f' then some (c.toNat - 'a'.toNat + 10)
  else if 'A' ≤ c && c ≤ 'F' then some (c.toNat - 'A'.toNat + 10)
  else none

/-- The number with given hexadecimal digits. Anything but a digit counts as zero. -/
def hexNumber (digits : List Char) : Nat :=
  digits.foldl (fun n c => n * 16 + (hexDigit? c).getD 0) 0

/-- Whether a character is an octal digit. -/
def isOctal (c : Char) : Bool :=
  '0' ≤ c && c ≤ '7'

/-- The number with given octal digits. -/
def octalNumber (digits : List Char) : Nat :=
  digits.foldl (fun n c => n * 8 + (c.toNat - '0'.toNat)) 0

/-- The code point of an escape that is a single letter. -/
def simple? : Char → Option Nat
  | 'n' => some 0x0A
  | 't' => some 0x09
  | 'r' => some 0x0D
  | 'b' => some 0x08
  | 'f' => some 0x0C
  | 'v' => some 0x0B
  | '0' => some 0x00
  | _ => none

/-- Whether a character ends a line, so that a backslash before it continues the literal on the
    next. -/
def isLineEnd (c : Char) : Bool :=
  c = '\n' || c = '\r' || c = '\u2028' || c = '\u2029'

/-- The last code point. -/
def lastCodePoint : Nat := 0x10FFFF

/-- The code points of an escape sequence, given with its backslash. A `u` escape beyond the last code
    point stands for itself, and so does every character without a meaning of its own. -/
def value : List Char → List Nat
  | [] => []
  | [_] => []
  | backslash :: c :: rest =>
    match simple? c, rest with
    | some code, [] => [code]
    | _, _ =>
      if isLineEnd c then []
      else if (c :: rest).length ≤ 3 && (c :: rest).all isOctal then [octalNumber (c :: rest)]
      else if c = 'x' && rest.length = 2 then [hexNumber rest]
      else if c = 'u' then
        let digits := if rest.head? = some '{' then (rest.drop 1).dropLast else rest
        if lastCodePoint < hexNumber digits then (backslash :: c :: rest).map (·.toNat)
        else [hexNumber digits]
      else (c :: rest).map (·.toNat)

end Escape

namespace Literal

/-- The code points that a part of a literal stands for. -/
def partCodes (source : Source) (part : Node) : List Nat :=
  let text := (part.text source).toList
  if part.symbol = "escape_sequence" then Escape.value text else text.map (·.toNat)

/-- The raw text of a literal between its quotes. -/
def raw (source : Source) (literal : Node) : List Char :=
  ((literal.text source).toList.drop 1).dropLast

/-- The value of a node, if it is a string literal. -/
def value? (source : Source) (n : Node) : Option String :=
  if n.kind = .string then
    let units := Utf16.units (n.namedChildren.flatMap (partCodes source))
    some (String.ofList ((Utf16.decode? units).getD (raw source n)))
  else none

end Literal

end BundleManifest.Script
