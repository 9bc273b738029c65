import BundleManifest.Text.Encoding

/-!
# The encodings of a system

A system knows more encodings than the ones that are the same everywhere, and has an encoding of its
own for texts whose encoding is not given. Of these encodings only this is known here: each of them
makes a text of some bytes, or says what is wrong with them.
-/

namespace BundleManifest.Text

/-- A way to read bytes as a text. -/
abbrev Decoder := List UInt8 → Except DecodingError (List Char)

/-- What a system knows about encodings. -/
class Codecs where
  /-- The encoding of texts whose encoding is not given. -/
  locale : Decoder
  /-- The other encodings, by their names. -/
  other? : String → Option Decoder

variable [Codecs]

/-- The name of the encoding of texts whose encoding is not given. -/
def localeName : String := "locale"

/-- The encoding with a name. -/
def decoder? (name : String) : Option Decoder :=
  if name = localeName then some Codecs.locale
  else
    match Encoding.ofName? name with
    | some e => some e.decode
    | none => Codecs.other? name

end BundleManifest.Text

namespace BundleManifest.Usual

open Text

/-- A system with UTF-8 for its texts, and with no other encodings. -/
scoped instance codecs : Codecs where
  locale := Encoding.utf8.decode
  other? _ := none

end BundleManifest.Usual
