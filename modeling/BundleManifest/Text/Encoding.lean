import BundleManifest.Text.Digit
import BundleManifest.Text.Utf16
import BundleManifest.Text.Utf8

/-!
# Encodings of text files

A text file is read with an encoding, which is chosen by one of its names. Bytes that are no text in
the encoding are an error, which says which bytes are at fault and why. An encoding may also refuse
the bytes as a whole.

The encodings here are those that are the same everywhere.

A mark of the byte order at the beginning is part of the text in UTF-8, is skipped in the variant of
UTF-8 that expects it, and is needed in UTF-16, unless the order is part of the name.
-/

namespace BundleManifest.Text

/-- A way to write text as bytes. -/
inductive Encoding where
  | utf8
  /-- UTF-8, perhaps with a byte order mark. -/
  | utf8Marked
  | ascii
  | latin1
  /-- UTF-16 with a byte order mark. -/
  | utf16
  /-- UTF-16 with the low byte first. -/
  | utf16Low
  /-- UTF-16 with the high byte first. -/
  | utf16High
  deriving DecidableEq, Repr

namespace Encoding

/-- The names of an encoding, in simple form. -/
def names : Encoding → List String
  | utf8 => ["utf_8", "u8", "utf", "utf8", "utf8_ucs2", "utf8_ucs4", "cp65001"]
  | utf8Marked => ["utf_8_sig"]
  | ascii =>
    ["ascii", "646", "ansi_x3.4_1968", "ansi_x3_4_1968", "ansi_x3.4_1986", "cp367", "csascii",
      "ibm367", "iso646_us", "iso_646.irv_1991", "iso_ir_6", "us", "us_ascii"]
  | latin1 =>
    ["latin_1", "8859", "cp819", "csisolatin1", "ibm819", "iso8859", "iso8859_1", "iso_8859_1",
      "iso_8859_1_1987", "iso_ir_100", "l1", "latin", "latin1"]
  | utf16 => ["utf_16", "u16", "utf16"]
  | utf16Low => ["utf_16_le", "unicodelittleunmarked", "utf_16le"]
  | utf16High => ["utf_16_be", "unicodebigunmarked", "utf_16be"]

/-- The encodings. -/
def all : List Encoding := [utf8, utf8Marked, ascii, latin1, utf16, utf16Low, utf16High]

/-- The simple form of a name: letters in lower case, and one low line for every run of characters
    that are neither letters nor digits nor points, but none at the ends. -/
def simpleName (name : List Char) : List Char :=
  go false [] name
where
  /-- Reads on, given whether a run is open, and the form so far, its last character first. -/
  go (gap : Bool) (acc : List Char) : List Char → List Char
    | [] => acc.reverse
    | c :: rest =>
      if c.isAlphanum || c = '.' then
        let acc := if gap && !acc.isEmpty then '_' :: acc else acc
        go false (c.toLower :: acc) rest
      else go true acc rest

/-- The encoding with a name, all of whose characters are ASCII. -/
def ofName? (name : String) : Option Encoding :=
  if name.toList.all (·.toNat < 0x80) then
    let simple := String.ofList (simpleName name.toList)
    all.find? (·.names.contains simple)
  else none

end Encoding

/-- Why some bytes are no text. -/
inductive DecodingError where
  /-- Some bytes are at fault. -/
  | bytes (encoding : String) (position : Nat) (bytes : List UInt8) (reason : String)
  /-- The bytes as a whole are refused, in so many words. -/
  | refused (words : String)
  deriving DecidableEq, Repr

/-- The error in words. -/
def DecodingError.message : DecodingError → String
  | bytes encoding position bs reason =>
    let which := match bs with
      | [b] => "byte 0x" ++ String.ofList (hex 2 b.toNat) ++ " in position " ++ toString position
      | _ => "bytes in position " ++ toString position ++ "-" ++ toString (position + bs.length - 1)
    "'" ++ encoding ++ "' codec can't decode " ++ which ++ ": " ++ reason
  | refused words => words

namespace Encoding

/-- What is wrong with a piece of UTF-8, in words. -/
def faultWords : Utf8.Fault → String
  | .start => "invalid start byte"
  | .continuation => "invalid continuation byte"
  | .truncated => "unexpected end of data"

/-- What is said of UTF-16 without a byte order mark. -/
def unmarkedWords : String :=
  "UTF-16 stream does not start with BOM"

/-- Reads UTF-8. -/
def decodeUtf8 (bs : List UInt8) : Except DecodingError (List Char) :=
  match Utf8.decode bs with
  | .ok text => .ok text
  | .error bad => .error (.bytes "utf-8" bad.position bad.bytes (faultWords bad.fault))

/-- Reads ASCII from a position on. -/
def decodeAscii : Nat → List UInt8 → Except DecodingError (List Char)
  | _, [] => .ok []
  | position, b :: rest =>
    if b < 0x80 then (decodeAscii (position + 1) rest).map (Char.ofNat b.toNat :: ·)
    else .error (.bytes "ascii" position [b] "ordinal not in range(128)")

/-- The unit of two bytes. -/
def pairUnit (high : Bool) (a b : UInt8) : Nat :=
  if high then a.toNat * 256 + b.toNat else b.toNat * 256 + a.toNat

/-- Whether a unit is the first half of a pair. -/
def isHigh (unit : Nat) : Bool :=
  0xD800 ≤ unit && unit < 0xDC00

/-- Whether a unit is the second half of a pair. -/
def isLow (unit : Nat) : Bool :=
  0xDC00 ≤ unit && unit < 0xE000

/-- Reads UTF-16 from a position on, with the high byte first if `high`. -/
def decodeUtf16 (high : Bool) (position : Nat) (bs : List UInt8) : Except DecodingError (List Char) :=
  let name := if high then "utf-16-be" else "utf-16-le"
  match bs with
  | [] => .ok []
  | [b] => .error (.bytes name position [b] "truncated data")
  | a :: b :: rest =>
    let unit := pairUnit high a b
    if isLow unit then .error (.bytes name position [a, b] "illegal encoding")
    else if isHigh unit then
      match rest with
      | c :: d :: rest =>
        let low := pairUnit high c d
        if isLow low then
          (decodeUtf16 high (position + 4) rest).map
            (Char.ofNat (0x10000 + (unit - 0xD800) * 0x400 + (low - 0xDC00)) :: ·)
        else .error (.bytes name position [a, b] "illegal UTF-16 surrogate")
      | _ => .error (.bytes name position bs "unexpected end of data")
    else (decodeUtf16 high (position + 2) rest).map (Char.ofNat unit :: ·)

/-- Reads some bytes. -/
def decode (e : Encoding) (bs : List UInt8) : Except DecodingError (List Char) :=
  match e with
  | utf8 => decodeUtf8 bs
  | utf8Marked =>
    match bs with
    | 0xEF :: 0xBB :: 0xBF :: rest => decodeUtf8 rest
    | [0xEF, 0xBB] | [0xEF] => .ok []
    | _ => decodeUtf8 bs
  | ascii => decodeAscii 0 bs
  | latin1 => .ok (bs.map fun b => Char.ofNat b.toNat)
  | utf16Low => decodeUtf16 false 0 bs
  | utf16High => decodeUtf16 true 0 bs
  | utf16 =>
    match bs with
    | 0xFF :: 0xFE :: rest => decodeUtf16 false 2 rest
    | 0xFE :: 0xFF :: rest => decodeUtf16 true 2 rest
    | [] => .ok []
    | _ => (decodeUtf16 false 0 bs).bind fun _ => .error (.refused unmarkedWords)

end Encoding

/-- A text with every line end written as a line feed. -/
def withLineFeeds : List Char → List Char
  | '\r' :: '\n' :: rest => '\n' :: withLineFeeds rest
  | '\r' :: rest => '\n' :: withLineFeeds rest
  | c :: rest => c :: withLineFeeds rest
  | [] => []

end BundleManifest.Text
