/-!
# UTF-8

Text as bytes and back. Decoding looks at one piece of the input at a time: either the bytes of a
character, or the longest run of bytes that begins like one and cannot be continued to one.

* `Utf8.encode` writes characters;
* `Utf8.decodeLossy` reads any bytes, with one replacement character for each faulty piece;
* `Utf8.decode` reads only the bytes of some text, and else says which bytes are at fault and why.
-/

namespace BundleManifest.Utf8

/-- The bytes of a text. -/
def encode (text : List Char) : List UInt8 :=
  text.flatMap String.utf8EncodeChar

@[simp]
theorem encode_nil : encode [] = [] := rfl

@[simp]
theorem encode_cons (c : Char) (text : List Char) :
    encode (c :: text) = String.utf8EncodeChar c ++ encode text := rfl

@[simp]
theorem encode_append (s t : List Char) : encode (s ++ t) = encode s ++ encode t :=
  List.flatMap_append

/-- Why a run of bytes is not the beginning of a character. -/
inductive Fault where
  /-- No character begins with this byte. -/
  | start
  /-- The next byte does not continue the character. -/
  | continuation
  /-- The input ends inside the character. -/
  | truncated
  deriving DecidableEq, Repr

/-- Whether a byte can continue a character. -/
def isContinuation (b : UInt8) : Bool :=
  0x80 ≤ b && b < 0xC0

/-- Whether the byte after the lead byte `lead` can continue it: this excludes the overlong forms, the
    surrogates and what lies beyond the last code point. -/
def isSecond (lead b : UInt8) : Bool :=
  isContinuation b && !(lead == 0xE0 && b < 0xA0) && !(lead == 0xED && 0x9F < b)
    && !(lead == 0xF0 && b < 0x90) && !(lead == 0xF4 && 0x8F < b)

/-- The number of bytes that must follow a lead byte, or nothing if no character begins with it. -/
def following? (lead : UInt8) : Option Nat :=
  if lead < 0x80 then some 0
  else if lead < 0xC2 then none
  else if lead < 0xE0 then some 1
  else if lead < 0xF0 then some 2
  else if lead < 0xF5 then some 3
  else none

/-- The code point whose bytes are a lead byte with `n` bytes after it, of which `code` holds the bits
    read so far. -/
def codePoint (code : Nat) : List UInt8 → Nat
  | [] => code
  | b :: rest => codePoint (code * 64 + (b.toNat - 0x80)) rest

theorem codePoint_nil (code : Nat) : codePoint code [] = code := rfl

theorem codePoint_cons (code : Nat) (b : UInt8) (rest : List UInt8) :
    codePoint code (b :: rest) = codePoint (code * 64 + (b.toNat - 0x80)) rest := by
  delta codePoint
  rfl

/-- A piece of the input: what it stands for, and how many bytes it has after its first. -/
structure Piece where
  /-- The character, or why there is none. -/
  outcome : Except Fault Char
  /-- The number of bytes after the first. -/
  extra : Nat

/-- How many of the first `n` bytes continue a character. -/
def continuing (n : Nat) (bytes : List UInt8) : Nat :=
  ((bytes.take n).takeWhile isContinuation).length

/-- The piece that begins with the byte `lead`. -/
def piece (lead : UInt8) (rest : List UInt8) : Piece :=
  match following? lead with
  | none => ⟨.error .start, 0⟩
  | some 0 => ⟨.ok (Char.ofNat lead.toNat), 0⟩
  | some (n + 1) =>
    let found := match rest with
      | [] => 0
      | b :: _ => if isSecond lead b then continuing (n + 1) rest else 0
    if found = n + 1 then
      ⟨.ok (Char.ofNat (codePoint (lead.toNat % Nat.pow 2 (5 - n)) (rest.take (n + 1)))), n + 1⟩
    else if rest.length = found then ⟨.error .truncated, found⟩
    else ⟨.error .continuation, found⟩

/-- The text of any bytes. Each faulty piece becomes one replacement character. -/
def decodeLossy : List UInt8 → List Char
  | [] => []
  | lead :: rest =>
    let p := piece lead rest
    (match p.outcome with
      | .ok c => c
      | .error _ => '\uFFFD') :: decodeLossy (rest.drop p.extra)
  termination_by bytes => bytes.length
  decreasing_by simp only [List.length_drop, List.length_cons]; omega

/-- The first faulty piece of an input. -/
structure Bad where
  /-- Its place. -/
  position : Nat
  /-- Its bytes. -/
  bytes : List UInt8
  /-- What is wrong with it. -/
  fault : Fault
  deriving DecidableEq, Repr

/-- The text of some bytes that begin at the place `position` of the input. -/
def decodeFrom (position : Nat) : List UInt8 → Except Bad (List Char)
  | [] => .ok []
  | lead :: rest =>
    let p := piece lead rest
    match p.outcome with
    | .ok c => (decodeFrom (position + p.extra + 1) (rest.drop p.extra)).map (c :: ·)
    | .error fault => .error ⟨position, lead :: rest.take p.extra, fault⟩
  termination_by bytes => bytes.length
  decreasing_by simp only [List.length_drop, List.length_cons]; omega

/-- The text of some bytes, or the first of them that are at fault. -/
def decode (bytes : List UInt8) : Except Bad (List Char) :=
  decodeFrom 0 bytes

end BundleManifest.Utf8
