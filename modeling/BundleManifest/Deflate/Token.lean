/-!
# Tokens of compressed data

Compressed data is a sequence of tokens: a byte as it is, or a copy of bytes that came before. A token
is written as a symbol, and a copy as two of them, one for its length and one for its distance, each
with some extra bits that choose among the values that share a symbol.
-/

namespace BundleManifest.Deflate

/-- A piece of compressed data. -/
inductive Token where
  /-- A byte. -/
  | literal (byte : UInt8)
  /-- Some bytes that begin `distance` bytes before. -/
  | copy (length distance : Nat)
  deriving DecidableEq, Repr, Inhabited

/-- The length of the shortest copy. -/
def minCopy : Nat := 3

/-- The length of the longest copy. -/
def maxCopy : Nat := 258

namespace Token

/-- The number of bytes that a token stands for. -/
def width : Token → Nat
  | literal _ => 1
  | copy length _ => length

end Token

/-- A symbol, and the number of its extra bits. -/
structure Coded where
  /-- The symbol. -/
  symbol : Nat
  /-- The number of extra bits. -/
  extra : Nat
  deriving DecidableEq, Repr

/-- The symbol that ends a block. -/
def endOfBlock : Nat := 256

/-- The code of the length of a copy: eight lengths have a symbol each, and then four symbols share
    each further number of extra bits. The longest copy has a symbol of its own. -/
def lengthCode (length : Nat) : Coded :=
  let n := length - minCopy
  if length = maxCopy then ⟨285, 0⟩
  else if n < 8 then ⟨257 + n, 0⟩
  else
    let extra := n.log2 - 2
    ⟨257 + 4 * extra + n / Nat.pow 2 extra, extra⟩

/-- The code of the distance of a copy: four distances have a symbol each, and then two symbols share
    each further number of extra bits. -/
def distanceCode (distance : Nat) : Coded :=
  let n := distance - 1
  if n < 4 then ⟨n, 0⟩
  else
    let extra := n.log2 - 1
    ⟨2 * extra + n / Nat.pow 2 extra, extra⟩

end BundleManifest.Deflate
