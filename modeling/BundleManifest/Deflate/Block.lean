import BundleManifest.Deflate.CodeLength
import BundleManifest.Deflate.Token
import BundleManifest.Number.Total

/-!
# The size of blocks

Tokens are written in blocks. A block has one of three forms: its bytes as they are, its tokens with
fixed codes, or its tokens with codes of its own, which are written before them. It has the form that
needs the fewest bytes.
-/

namespace BundleManifest.Deflate

/-- How often the symbols of some tokens occur. -/
structure Weights where
  /-- The symbols of bytes and lengths. -/
  literals : Array Nat
  /-- The symbols of distances. -/
  distances : Array Nat
  /-- The number of extra bits. -/
  extra : Nat

/-- The number of symbols of bytes and lengths. -/
def literalSymbols : Nat := 286

/-- The number of symbols of distances. -/
def distanceSymbols : Nat := 30

/-- The weights of the symbols of some tokens and of the end of their block. -/
def Weights.ofTokens (tokens : Array Token) : Weights :=
  let none : Weights :=
    { literals := (Array.replicate literalSymbols 0).setIfInBounds endOfBlock 1
      distances := Array.replicate distanceSymbols 0
      extra := 0 }
  tokens.foldl (fun w token =>
    match w, token with
    | ⟨literals, distances, extra⟩, .literal byte =>
      ⟨literals.modify byte.toNat (· + 1), distances, extra⟩
    | ⟨literals, distances, extra⟩, .copy length distance =>
      let l := lengthCode length
      let d := distanceCode distance
      ⟨literals.modify l.symbol (· + 1), distances.modify d.symbol (· + 1),
        extra + l.extra + d.extra⟩)
    none

/-- The sum of weights times code lengths. -/
def weightedLength (weights lengths : Array Nat) : Nat :=
  Number.total ((List.range weights.size).map fun s => weights.getD s 0 * lengths.getD s 0)

/-- The lengths of the fixed codes of bytes and lengths. -/
def fixedLengths : Array Nat :=
  ((List.range literalSymbols).map fun s =>
    if s < 144 then 8 else if s < 256 then 9 else if s < 280 then 7 else 8).toArray

/-- The length of a fixed code of a distance. -/
def fixedDistanceLength : Nat := 5

/-- The number of bits of a block with fixed codes, without its header. -/
def fixedBits (w : Weights) : Nat :=
  weightedLength w.literals fixedLengths +
    fixedDistanceLength * Number.total w.distances.toList + w.extra

/-! ## Codes of a block's own -/

/-- Weights with at least two symbols that occur, so that there is a code. -/
def atLeastTwo (weights : Array Nat) : Array Nat :=
  let used := (List.range weights.size).filter fun s => 0 < weights.getD s 0
  match used with
  | [] => (weights.setIfInBounds 0 1).setIfInBounds 1 1
  | [s] => if s < 2 then weights.setIfInBounds (s + 1) 1 else weights.setIfInBounds 0 1
  | _ => weights

/-- Code lengths up to the last symbol that has a code. -/
def trimmed (lengths : Array Nat) : List Nat :=
  (lengths.toList.reverse.dropWhile (· = 0)).reverse

/-- The symbols with which `n` equal code lengths are written, of which the one before is `previous`.
    A run of zeros has symbols of its own, and so has the repetition of a length. -/
def runSymbols (previous : Option Nat) (length : Nat) : Nat → Nat → List Nat
  | 0, _ => []
  | fuel + 1, n =>
    if n = 0 then []
    else if length = 0 then
      if n < 3 then List.replicate n 0
      else if n ≤ 10 then [17]
      else 18 :: runSymbols (some 0) 0 fuel (n - min n 138)
    else if previous = some length then
      if n < 3 then List.replicate n length
      else 16 :: runSymbols previous length fuel (n - min n 6)
    else if n < 4 then List.replicate n length
    else length :: 16 :: runSymbols (some length) length fuel (n - min n 7)

/-- The symbols with which code lengths are written. -/
def lengthSymbols : Nat → Option Nat → List Nat → List Nat
  | 0, _, _ => []
  | fuel + 1, previous, lengths =>
    match lengths with
    | [] => []
    | length :: rest =>
      let n := (rest.takeWhile (· = length)).length + 1
      runSymbols previous length n n ++ lengthSymbols fuel (some length) (lengths.drop n)

/-- The number of extra bits of a symbol with which code lengths are written. -/
def lengthSymbolExtra (symbol : Nat) : Nat :=
  if symbol = 16 then 2 else if symbol = 17 then 3 else if symbol = 18 then 7 else 0

/-- The order in which the lengths of the codes for code lengths are written. -/
def lengthOrder : List Nat :=
  [16, 17, 18, 0, 8, 7, 9, 6, 10, 5, 11, 4, 12, 3, 13, 2, 14, 1, 15]

/-- The number of bits of the codes for code lengths and of the code lengths themselves. -/
def codeTableBits (literals distances : Array Nat) : Nat :=
  let symbolsOf (lengths : List Nat) := lengthSymbols lengths.length none lengths
  let symbols := symbolsOf (trimmed literals) ++ symbolsOf (trimmed distances)
  let weights := symbols.foldl (fun a s => a.modify s (· + 1)) (Array.replicate 19 0)
  let lengths := codeLengths 7 (atLeastTwo weights)
  let written := (lengthOrder.reverse.dropWhile fun s => lengths.getD s 0 = 0).length
  14 + 3 * max 4 written + weightedLength weights lengths +
    Number.total (symbols.map lengthSymbolExtra)

/-- The number of bits of a block with codes of its own, without its header. -/
def ownBits (w : Weights) : Nat :=
  let literals := codeLengths 15 (atLeastTwo w.literals)
  let distances := codeLengths 15 (atLeastTwo w.distances)
  weightedLength w.literals literals + weightedLength w.distances distances + w.extra
    + codeTableBits literals distances

/-! ## Sizes -/

/-- The number of bits of the header of a block. -/
def headerBits : Nat := 3

/-- The number of bytes that hold some bits. -/
def bytesFor (bits : Nat) : Nat :=
  (bits + 7) / 8

/-- The number of bits after a block, given the number before it. -/
def blockEnd (bits : Nat) (tokens : Array Token) : Nat :=
  let w := Weights.ofTokens tokens
  let width := tokens.foldl (fun n token => n + token.width) 0
  let fixed := headerBits + fixedBits w
  let own := headerBits + ownBits w
  let best := if bytesFor fixed ≤ bytesFor own then fixed else own
  if width + 4 ≤ bytesFor best then 8 * (bytesFor (bits + headerBits) + 4 + width)
  else bits + best

end BundleManifest.Deflate
