/-!
# Character classes of scripts

The classes of characters that the tokens of a script are made of. Two classes of white space are told
apart: between tokens all of them may stand, but the rule that ends a statement at a line end knows
only those at which a line of text may be broken.
-/

namespace BundleManifest.Script

/-- White space between tokens. -/
def isBlank (c : Char) : Bool :=
  c = ' ' || ('\t' ≤ c && c ≤ '\r') || c = '\u00a0' || c = '\u1680' || ('\u2000' ≤ c && c ≤ '\u200b')
    || c = '\u2028' || c = '\u2029' || c = '\u202f' || c = '\u205f' || c = '\u2060' || c = '\u3000'
    || c = '\ufeff'

/-- White space at which a line of text may be broken. -/
def isBreakable (c : Char) : Bool :=
  c = ' ' || ('\t' ≤ c && c ≤ '\r') || c = '\u1680' || ('\u2000' ≤ c && c ≤ '\u2006')
    || ('\u2008' ≤ c && c ≤ '\u200a') || c = '\u2028' || c = '\u2029' || c = '\u205f' || c = '\u3000'

/-- The characters that end a line as far as statements are concerned. -/
def isLineBreak (c : Char) : Bool :=
  c = '\n' || c = '\u2028' || c = '\u2029'

/-- The characters up to which a comment on one line runs. -/
def endsLineComment (c : Char) : Bool :=
  c = '\r' || isLineBreak c

/-- The marks that cannot be part of a name. -/
def nameStops : List Char := ":;`\"'@#.,|^&<=>+-*/\\%?!~()[]\x7b\x7d".toList

/-- Whether a character can stand inside a name. -/
def isNamePart (c : Char) : Bool :=
  0x20 ≤ c.toNat && !isBlank c && !nameStops.contains c

/-- Whether a character can begin a name. -/
def isNameStart (c : Char) : Bool :=
  isNamePart c && !c.isDigit

/-- Whether a character is a hexadecimal digit. -/
def isHexDigit (c : Char) : Bool :=
  c.isDigit || ('a' ≤ c && c ≤ 'f') || ('A' ≤ c && c ≤ 'F')

/-- Whether a character is an octal digit. -/
def isOctalDigit (c : Char) : Bool :=
  '0' ≤ c && c ≤ '7'

/-- Whether a character is a binary digit. -/
def isBinaryDigit (c : Char) : Bool :=
  c = '0' || c = '1'

/-- The backtick, which encloses templates. -/
def backtick : Char := Char.ofNat 0x60

end BundleManifest.Script
