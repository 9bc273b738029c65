import BundleManifest.Text.Digit
import BundleManifest.Text.Printable

/-!
# Quoted text

A text is shown between quotes with every character recognizable: printable characters stand for
themselves, and the others are written as escapes. The quotes are single unless the text has single
quotes and no double ones, so that a quote has to be escaped only when both occur.
-/

namespace BundleManifest.Text

/-- The quote for a text. -/
def quoteFor (text : List Char) : Char :=
  if text.contains '\'' && !text.contains '"' then '"' else '\''

/-- A character between quotes. -/
def quotedChar (quote c : Char) : List Char :=
  if c = quote || c = '\\' then ['\\', c]
  else if c = '\t' then ['\\', 't']
  else if c = '\n' then ['\\', 'n']
  else if c = '\r' then ['\\', 'r']
  else if isPrintable c then [c]
  else if c.toNat < 0x100 then '\\' :: 'x' :: hex 2 c.toNat
  else if c.toNat < 0x10000 then '\\' :: 'u' :: hex 4 c.toNat
  else '\\' :: 'U' :: hex 8 c.toNat

/-- A text between quotes, as characters. -/
def quotedChars (text : List Char) : List Char :=
  let quote := quoteFor text
  quote :: text.flatMap (quotedChar quote) ++ [quote]

/-- Bytes between quotes, behind a mark: those of ASCII as characters, and the others as escapes. -/
def quotedBytes (bs : List UInt8) : String :=
  let quote := quoteFor (bs.map fun b => Char.ofNat b.toNat)
  let byteText (b : UInt8) : List Char :=
    if b < 0x80 then quotedChar quote (Char.ofNat b.toNat) else '\\' :: 'x' :: hex 2 b.toNat
  String.ofList ('b' :: quote :: bs.flatMap byteText ++ [quote])

/-- A text between quotes. -/
def quoted (text : String) : String :=
  String.ofList (quotedChars text.toList)

end BundleManifest.Text
