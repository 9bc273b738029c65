/-!
# Rounding

A quotient of natural numbers is rounded to the nearest number; a tie goes to the even neighbour.
-/

namespace BundleManifest.Number

/-- The quotient rounded to the nearest number; a tie goes to the even neighbour. -/
def roundHalfEven (num den : Nat) : Nat :=
  let q := num / den
  let twice := 2 * (num % den)
  if twice < den then q
  else if den < twice then q + 1
  else if q % 2 = 0 then q else q + 1

theorem roundHalfEven_one (n : Nat) : roundHalfEven n 1 = n := by
  simp [roundHalfEven, Nat.mod_one]

end BundleManifest.Number
