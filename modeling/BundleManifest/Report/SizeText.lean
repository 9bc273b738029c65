import BundleManifest.Number.Rounding

/-!
# Byte counts as text

A byte count is shown in bytes below 1024, in units of 1024 bytes (`KB`) below 1024 squared, and in
units of 1024 squared (`MB`) from there on. Counts in units have one decimal.

The quotient is rounded twice, each time to the nearest with ties to the even neighbour: first to
53 significant binary digits, then to tenths. The first rounding changes nothing below 2 to the 53.
A quotient that the first rounding takes to 2 to the 1024 has no text.
-/

namespace BundleManifest.Report

open Number (roundHalfEven)

/-- The number rounded to 53 significant binary digits. -/
def roundSignificant (n : Nat) : Nat :=
  let excess := n.log2 - 52
  roundHalfEven n (Nat.pow 2 excess) * Nat.pow 2 excess

/-- A count of tenths with its decimal point. -/
def tenthsText (tenths : Nat) : String :=
  toString (tenths / 10) ++ "." ++ toString (tenths % 10)

/-- The text of `n` bytes counted in units of `unit` bytes. -/
def unitText (n unit : Nat) (name : String) : String :=
  tenthsText (roundHalfEven (10 * roundSignificant n) unit) ++ " " ++ name

/-- The text of a byte count, or nothing when the count is beyond every text. -/
def sizeText? (n : Int) : Option String :=
  if n < 1024 then some (toString n ++ " B")
  else
    let n := n.toNat
    if n < 1024 * 1024 then some (unitText n 1024 "KB")
    else if roundSignificant n < Nat.pow 2 1024 * (1024 * 1024) then
      some (unitText n (1024 * 1024) "MB")
    else none

end BundleManifest.Report
