import BundleManifest.Number.Rounding

/-!
# Numbers of double precision

A finite number is a significand of at most 53 binary digits times a power of two. A decimal number is
rounded to the nearest of them, a tie to the one with an even significand.

* `Binary64.ofDecimal`: the number nearest to a decimal;
* `Binary64.shortest`: the fewest decimal digits that read back as the same number;
* `Binary64.text`: the number written with these digits.
-/

namespace BundleManifest.Number

/-- A number of double precision. A finite one is the significand times two to the power of the
    exponent; the significand has 53 digits unless the exponent is the least. -/
inductive Binary64 where
  | finite (negative : Bool) (significand : Nat) (exponent : Int)
  | infinite (negative : Bool)
  | nan
  deriving DecidableEq, Repr, Inhabited

namespace Binary64

/-- The number of binary digits of a significand. -/
def digits : Nat := 53

/-- The least exponent. -/
def leastExponent : Int := -1074

/-- The greatest exponent. -/
def greatestExponent : Int := 971

/-- The quotient of two natural numbers divided by a power of two, rounded. -/
def scaled (num den : Nat) (exponent : Int) : Nat :=
  if 0 ≤ exponent then roundHalfEven num (den * Nat.pow 2 exponent.toNat)
  else roundHalfEven (num * Nat.pow 2 (-exponent).toNat) den

/-- The exponent with which a quotient has a significand of full length. -/
def exponentFor (num den : Nat) : Int :=
  let guess : Int := (num.log2 : Int) - den.log2 - digits
  let fits (e : Int) : Bool :=
    if 0 ≤ e then num < den * Nat.pow 2 (e.toNat + digits)
    else num * Nat.pow 2 (-e).toNat < den * Nat.pow 2 digits
  max leastExponent (if fits guess then guess else guess + 1)

/-- The number nearest to a quotient. -/
def ofRatio (negative : Bool) (num den : Nat) : Binary64 :=
  if num = 0 then finite negative 0 leastExponent
  else
    let e := exponentFor num den
    let m := scaled num den e
    let (m, e) := if m = Nat.pow 2 digits then (Nat.pow 2 (digits - 1), e + 1) else (m, e)
    if greatestExponent < e then infinite negative else finite negative m e

/-- A decimal exponent beyond which every number is zero or infinite. -/
def decimalBound : Int := 400

/-- The number nearest to `coefficient` times ten to the power of `exponent`. -/
def ofDecimal (negative : Bool) (coefficient : Nat) (exponent : Int) : Binary64 :=
  let size : Int := exponent + (Nat.toDigits 10 coefficient).length
  if coefficient = 0 || size < -decimalBound then finite negative 0 leastExponent
  else if decimalBound < size then infinite negative
  else if 0 ≤ exponent then ofRatio negative (coefficient * Nat.pow 10 exponent.toNat) 1
  else ofRatio negative coefficient (Nat.pow 10 (-exponent).toNat)

/-- Whether the number is zero. -/
def isZero : Binary64 → Bool
  | finite _ m _ => m = 0
  | _ => false

/-- A significand with its sign. -/
def signed (negative : Bool) (m : Nat) : Int :=
  if negative then -m else m

/-- Whether the number is equal to an integer. -/
def equalsInt (x : Binary64) (n : Int) : Bool :=
  match x with
  | finite negative m e =>
    if 0 ≤ e then signed negative m * Nat.pow 2 e.toNat = n
    else signed negative m = n * Nat.pow 2 (-e).toNat
  | _ => false

/-- Whether two are the same: numbers are compared by their values, so that the two zeros are the
    same, and what is no number is the same as itself. -/
def equals (x y : Binary64) : Bool :=
  match x, y with
  | finite negative m e, finite negative' m' e' =>
    let least := min e e'
    signed negative m * Nat.pow 2 (e - least).toNat =
      signed negative' m' * Nat.pow 2 (e' - least).toNat
  | infinite negative, infinite negative' => negative = negative'
  | nan, nan => true
  | _, _ => false

/-! ## Shortest digits -/

/-- Decimal digits, read as a number, times a power of ten. -/
structure Decimal where
  /-- The digits. -/
  coefficient : Nat
  /-- The power of ten. -/
  exponent : Int
  deriving Repr

/-- The absolute value as a quotient. -/
def ratio (m : Nat) (e : Int) : Nat × Nat :=
  if 0 ≤ e then (m * Nat.pow 2 e.toNat, 1) else (m, Nat.pow 2 (-e).toNat)

/-- The exponent of the first decimal digit of a quotient that is not zero. -/
def decimalExponent (num den : Nat) : Int :=
  let guess : Int := (Nat.toDigits 10 num).length - (Nat.toDigits 10 den).length
  if 0 ≤ guess then if den * Nat.pow 10 guess.toNat ≤ num then guess else guess - 1
  else if den ≤ num * Nat.pow 10 (-guess).toNat then guess else guess - 1

/-- The decimal with `n` digits that reads back as the number and is nearest to it, if there is
    one. -/
def withDigits? (m : Nat) (e : Int) (n : Nat) : Option Decimal :=
  let (num, den) := ratio m e
  let last := decimalExponent num den - n + 1
  let (num, den) :=
    if 0 ≤ last then (num, den * Nat.pow 10 last.toNat) else (num * Nat.pow 10 (-last).toNat, den)
  let reads (c : Nat) : Bool := ofDecimal false c last = finite false m e
  let below := num / den
  let nearest := roundHalfEven num den
  let other := if nearest = below then below + 1 else below
  if reads nearest then some ⟨nearest, last⟩
  else if reads other then some ⟨other, last⟩
  else none

/-- The decimal with the fewest digits that reads back as the number. Seventeen digits are always
    enough. -/
def shortest (m : Nat) (e : Int) : Decimal :=
  ((List.range 17).findSome? fun n => withDigits? m e (n + 1)).getD ⟨0, 0⟩

/-- The decimal without zeros at its end. -/
def Decimal.trimmed (d : Decimal) : Decimal :=
  go (Nat.toDigits 10 d.coefficient).length d
where
  /-- Takes off at most as many zeros as there are digits. -/
  go : Nat → Decimal → Decimal
    | 0, d => d
    | fuel + 1, d =>
      if d.coefficient ≠ 0 ∧ d.coefficient % 10 = 0 then
        go fuel ⟨d.coefficient / 10, d.exponent + 1⟩
      else d

/-- The text of an exponent, with a sign and at least two digits. -/
def exponentText (e : Int) : List Char :=
  let ds := Nat.toDigits 10 e.natAbs
  (if e < 0 then '-' else '+') :: (if ds.length < 2 then '0' :: ds else ds)

/-- The text of a decimal that is not zero. It is written with an exponent if its first digit is
    beyond the sixteenth before the point or the fourth behind it, and else has at least one digit on
    both sides of the point. -/
def Decimal.text (d : Decimal) : List Char :=
  let ds := Nat.toDigits 10 d.coefficient
  let point : Int := d.exponent + ds.length
  if point < -3 ∨ 16 < point then
    let fraction := if ds.length = 1 then [] else '.' :: ds.drop 1
    ds.take 1 ++ fraction ++ 'e' :: exponentText (point - 1)
  else if point ≤ 0 then '0' :: '.' :: List.replicate (-point).toNat '0' ++ ds
  else if ds.length ≤ point.toNat then
    ds ++ List.replicate (point.toNat - ds.length) '0' ++ ['.', '0']
  else ds.take point.toNat ++ '.' :: ds.drop point.toNat

/-- The number as text. -/
def text : Binary64 → String
  | nan => "nan"
  | infinite negative => if negative then "-inf" else "inf"
  | finite negative m e =>
    let body := if m = 0 then ['0', '.', '0'] else (shortest m e).trimmed.text
    String.ofList (if negative then '-' :: body else body)

end Binary64

end BundleManifest.Number
