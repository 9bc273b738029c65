import BundleManifest.Text.Blank
import BundleManifest.Text.Digit

/-!
# Integers in text

A text is an integer if it has only decimal digits, of any script, behind a sign or none. White space
around it does not count, and a low line may stand between two digits. In a text of ASCII characters,
only the white space of ASCII is left out.
-/

namespace BundleManifest.Text

/-- The greatest number of digits of an integer. -/
def maxIntegerDigits : Nat := 4300

/-- Whether a character is left out around the integer in a text. -/
def isPadding (ascii : Bool) (c : Char) : Bool :=
  c = ' ' || ('\t' ≤ c && c ≤ '\r') || (!ascii && 0x7F ≤ c.toNat && isBlank c)

/-- The values of digits, between two of which a low line may stand. -/
def digitValues? : List Char → Option (List Nat)
  | [] => none
  | [c] => (digit? c).map ([·])
  | c :: '_' :: rest => do return (← digit? c) :: (← digitValues? rest)
  | c :: rest => do return (← digit? c) :: (← digitValues? rest)

/-- The integer in a text. -/
def integer? (text : List Char) : Option Int :=
  let isOut := isPadding (text.all fun c => c.toNat < 0x80)
  let body := stripRight isOut (text.dropWhile isOut)
  let (negative, digits) := match body with
    | '-' :: rest => (true, rest)
    | '+' :: rest => (false, rest)
    | _ => (false, body)
  match digitValues? digits with
  | none => none
  | some ds =>
    if maxIntegerDigits < ds.length then none
    else
      let n : Nat := ds.foldl (fun n d => n * 10 + d) 0
      some (if negative then -(n : Int) else n)

end BundleManifest.Text
