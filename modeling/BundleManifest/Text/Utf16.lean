/-!
# UTF-16

Text as 16-bit units. A code point beyond the first 65536 takes two units, a *surrogate pair*; the
units of such pairs stand for no character on their own, but can be written down on their own.

* `Utf16.units` splits code points, surrogates among them, into units;
* `Utf16.decode?` reads units as text, and fails when a surrogate is not part of a pair.
-/

namespace BundleManifest.Utf16

/-- Whether a unit is the first of a surrogate pair. -/
def isHigh (u : Nat) : Bool :=
  0xD800 ≤ u && u < 0xDC00

/-- Whether a unit is the second of a surrogate pair. -/
def isLow (u : Nat) : Bool :=
  0xDC00 ≤ u && u < 0xE000

/-- The units of a code point. -/
def unitsOf (code : Nat) : List Nat :=
  if code < 0x10000 then [code]
  else [0xD800 + (code - 0x10000) / 0x400, 0xDC00 + (code - 0x10000) % 0x400]

/-- The units of a list of code points. -/
def units (codes : List Nat) : List Nat :=
  codes.flatMap unitsOf

/-- The text with given units, if no surrogate stands alone. -/
def decode? : List Nat → Option (List Char)
  | [] => some []
  | u :: rest =>
    if isHigh u then
      match rest with
      | v :: rest =>
        if isLow v then
          (decode? rest).map (Char.ofNat (0x10000 + (u - 0xD800) * 0x400 + (v - 0xDC00)) :: ·)
        else none
      | [] => none
    else if isLow u then none
    else (decode? rest).map (Char.ofNat u :: ·)

@[simp]
theorem units_append (s t : List Nat) : units (s ++ t) = units s ++ units t :=
  List.flatMap_append

end BundleManifest.Utf16
