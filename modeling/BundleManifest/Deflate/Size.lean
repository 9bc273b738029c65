import BundleManifest.Deflate.Block
import BundleManifest.Deflate.Search
import BundleManifest.Text.Utf8

/-!
# The size of compressed text

The size of a text when its bytes are compressed as well as possible, in a file with a header and a
trailer. An empty text needs no file.
-/

namespace BundleManifest.Deflate

/-- The greatest number of tokens of a block. -/
def maxBlockTokens : Nat := 16383

/-- The number of bits of some tokens, after `bits` bits that are written already. A full block is
    followed by another one, even if it is empty. -/
def tokenBits (tokens : Tokens) : Nat → Nat → Nat → Nat
  | 0, _, bits => bits
  | fuel + 1, start, bits =>
    let block := tokens.body.extract start (start + maxBlockTokens)
    if block.size = maxBlockTokens then
      tokenBits tokens fuel (start + maxBlockTokens) (blockEnd bits block)
    else blockEnd bits (block ++ tokens.last.toArray)

/-- The number of bytes of some data when it is compressed. -/
def compressedSize (data : Array UInt8) : Nat :=
  let t := tokens data
  bytesFor (tokenBits t (t.body.size + 1) 0 0)

/-- The number of bytes of the header and the trailer of a file. -/
def wrapperSize : Nat := 18

/-- The number of bytes of a file with a compressed text. -/
def fileSize (text : String) : Nat :=
  if text = "" then 0 else compressedSize (Utf8.encode text.toList).toArray + wrapperSize

@[simp]
theorem fileSize_empty : fileSize "" = 0 := by
  simp [fileSize]

end BundleManifest.Deflate
