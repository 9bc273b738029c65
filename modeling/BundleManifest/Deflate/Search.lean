import BundleManifest.Deflate.Token

/-!
# The search for copies

At each byte the longest copy is searched for among the earlier places that begin with the same three
bytes, the latest first. A copy is only taken if none that begins one byte later is longer.

The places are kept in chains, one for each hash of three bytes. The first place of the data is never
found, because its number marks the end of a chain.
-/

namespace BundleManifest.Deflate

/-- The number of places that the chains remember. -/
def windowSize : Nat := 32768

/-- The greatest distance of a copy. -/
def maxDistance : Nat := windowSize - maxCopy - minCopy - 1

/-- The greatest distance of a shortest copy. -/
def maxShortDistance : Nat := 4096

/-- How many places are tried. -/
def maxTries : Nat := 4096

/-- The length from which on a copy is good enough to try fewer places for a better one. -/
def goodLength : Nat := 32

/-- The byte at a place. -/
def byteAt (data : Array UInt8) (i : Nat) : Nat :=
  (data.getD i 0).toNat

/-- The hash of the three bytes from a place on. -/
def hashAt (data : Array UInt8) (i : Nat) : Nat :=
  ((byteAt data i <<< 10) ^^^ (byteAt data (i + 1) <<< 5) ^^^ byteAt data (i + 2)) % windowSize

/-- Adds a place to its chain: `latest` holds the latest place for each hash, and `earlier` the place
    before each place. A place without three bytes has no chain. -/
def addPlace (data : Array UInt8) (i : Nat) (latest earlier : Array Nat) : Array Nat × Array Nat :=
  if i + minCopy ≤ data.size then
    let h := hashAt data i
    let before := latest.getD h 0
    (latest.setIfInBounds h i, earlier.setIfInBounds (i % windowSize) before)
  else (latest, earlier)

/-- Adds `n` places from a place on. -/
def addPlaces (data : Array UInt8) : Nat → Nat → Array Nat → Array Nat → Array Nat × Array Nat
  | 0, _, latest, earlier => (latest, earlier)
  | n + 1, i, latest, earlier =>
    let (latest, earlier) := addPlace data i latest earlier
    addPlaces data n (i + 1) latest earlier

/-- How many bytes agree from two places on, at most `limit`. -/
def agreement (data : Array UInt8) (i j : Nat) : Nat → Nat
  | 0 => 0
  | limit + 1 =>
    if byteAt data i = byteAt data j then agreement data (i + 1) (j + 1) limit + 1 else 0

/-- The longest copy for a place `i` along a chain from the place `j` on, if it is longer than the
    best one so far. `enough` is the length at which the search ends. -/
def longestCopy (data : Array UInt8) (earlier : Array Nat) (i enough : Nat) :
    Nat → Nat → Nat × Nat → Nat × Nat
  | 0, _, best => best
  | tries + 1, j, best =>
    let n := agreement data j i (min maxCopy (data.size - i))
    let best := if best.1 < n then (n, j) else best
    if enough ≤ best.1 then best
    else
      let next := earlier.getD (j % windowSize) 0
      if i - maxDistance < next then longestCopy data earlier i enough tries next best else best

/-- The length and the place of the copy for a place `i`, given the latest place with its hash and the
    length of the copy one byte before. A length below that of the shortest copy means none. -/
def copyAt (data : Array UInt8) (earlier : Array Nat) (i latest previous : Nat) : Nat × Nat :=
  let none := minCopy - 1
  if latest ≠ 0 ∧ previous < maxCopy ∧ i - latest ≤ maxDistance then
    let tries := if goodLength ≤ previous then maxTries / 4 else maxTries
    let enough := min maxCopy (data.size - i)
    let (n, j) := longestCopy data earlier i enough tries latest (previous, 0)
    if n = minCopy ∧ maxShortDistance < i - j then (none, j) else (n, j)
  else (none, 0)

/-- The tokens of some data. A last byte that waited for a longer copy is given apart. -/
structure Tokens where
  /-- The tokens. -/
  body : Array Token
  /-- The last byte. -/
  last : Option Token

/-- The tokens from a place on. `previous` and `start` are the length and the place of the copy one
    byte before, and `waiting` says whether this byte has no token yet. -/
def tokensFrom (data : Array UInt8) :
    Nat → Array Nat → Array Nat → Nat → Nat → Nat → Bool → Array Token → Tokens
  | 0, _, _, _, _, _, _, acc => ⟨acc, none⟩
  | fuel + 1, latest, earlier, i, previous, start, waiting, acc =>
    let before := Token.literal (data.getD (i - 1) 0)
    if data.size ≤ i then ⟨acc, if waiting then some before else none⟩
    else
      let head := if i + minCopy ≤ data.size then latest.getD (hashAt data i) 0 else 0
      let (latest, earlier) := addPlace data i latest earlier
      let (n, j) := copyAt data earlier i head previous
      if minCopy ≤ previous ∧ n ≤ previous then
        let acc := acc.push (.copy previous (i - 1 - start))
        let (latest, earlier) := addPlaces data (previous - 2) (i + 1) latest earlier
        tokensFrom data fuel latest earlier (i + previous - 1) (minCopy - 1) 0 false acc
      else
        let acc := if waiting then acc.push before else acc
        tokensFrom data fuel latest earlier (i + 1) n j true acc

/-- The tokens of some data. -/
def tokens (data : Array UInt8) : Tokens :=
  tokensFrom data (data.size + 1) (Array.replicate windowSize 0) (Array.replicate windowSize 0)
    0 (minCopy - 1) 0 false #[]

end BundleManifest.Deflate
