/-!
# Base 64

Bytes are written as a text with 64 characters as digits, each of which stands for six bits. At the
end, signs fill up the last four digits.

A text is read in the same way. Characters that are no digits are skipped, and what stands behind the
signs that fill up four digits does not count.
-/

namespace BundleManifest.Text.Base64

/-- The digits. -/
def digits : List Char :=
  "ABCDEFGHIJKLMNOPQRSTUVWXYZabcdefghijklmnopqrstuvwxyz0123456789+/".toList

/-- The digit for six bits. -/
def digit (n : Nat) : Char :=
  digits[n % 64]?.getD 'A'

/-- Writes bytes. -/
def encode : List UInt8 → List Char
  | [] => []
  | [a] =>
    let n := a.toNat * 16
    [digit (n / 64), digit n, '=', '=']
  | [a, b] =>
    let n := (a.toNat * 256 + b.toNat) * 4
    [digit (n / 4096), digit (n / 64), digit n, '=']
  | a :: b :: c :: rest =>
    let n := (a.toNat * 256 + b.toNat) * 256 + c.toNat
    digit (n / 262144) :: digit (n / 4096) :: digit (n / 64) :: digit n :: encode rest

/-- Reads bytes. There were `read` digits since the last four, which left some `bits`, and `fill`
    signs behind them. -/
def decodeFrom? (read bits fill : Nat) : List Char → Option (List UInt8)
  | [] => if read = 0 then some [] else none
  | c :: rest =>
    if c = '=' then
      if read < 2 then decodeFrom? read bits fill rest
      else if 3 ≤ read + fill then some []
      else decodeFrom? read bits (fill + 1) rest
    else if digits.contains c then
      let n := bits * 64 + digits.idxOf c
      match read with
      | 0 => decodeFrom? 1 n 0 rest
      | 1 => (decodeFrom? 2 (n % 16) 0 rest).map (UInt8.ofNat (n / 16) :: ·)
      | 2 => (decodeFrom? 3 (n % 4) 0 rest).map (UInt8.ofNat (n / 4) :: ·)
      | _ => (decodeFrom? 0 0 0 rest).map (UInt8.ofNat n :: ·)
    else decodeFrom? read bits fill rest

/-- The bytes of a text, which has to be in ASCII. -/
def decode? (text : List Char) : Option (List UInt8) :=
  if text.all (·.toNat < 0x80) then decodeFrom? 0 0 0 text else none

end BundleManifest.Text.Base64
