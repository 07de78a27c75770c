import FixtureKeywords.Double.Basic

/-!
# Six significant digits

Integers in a short form: up to six digits are written out, longer ones are
rounded to six significant digits and written with an exponent. The number is
brought to 53 significant bits first, so an integer beyond the range of a
double-precision number has no such form. Halves go to the even neighbour in both
roundings.
-/

namespace FixtureKeywords.Text

open Double (roundDiv)

/-- The number brought to 53 significant bits. -/
def toDouble (n : Nat) : Nat :=
  let surplus := n.log2 - 52
  roundDiv n (Nat.pow 2 surplus) * Nat.pow 2 surplus

/-- Whether an integer, brought to 53 significant bits, is a double-precision number. -/
def fitsDouble (n : Int) : Bool :=
  toDouble n.natAbs < Nat.pow 2 1024

/-- Removes zeros at the end. -/
def dropTrailingZeros (t : Text) : Text :=
  (t.reverse.dropWhile (· == '0')).reverse

/-- Writes `digits`, six of them, as a decimal fraction times a power of ten. -/
def scientific (digits exponent : Nat) : String :=
  match (toString digits).toList with
  | [] => ""
  | first :: rest =>
      let tail := dropTrailingZeros rest
      let point := if tail.isEmpty then "" else "."
      String.ofList [first] ++ point ++ String.ofList tail ++ "e+" ++ padded 2 exponent

def sixDigits (n : Nat) : String :=
  let length := (toString n).length
  if length ≤ 6 then toString n
  else
    let digits := roundDiv n (Nat.pow 10 (length - 6))
    if digits = 1000000 then scientific 100000 length else scientific digits (length - 1)

/-- An integer with its sign in six significant digits, if it is a double-precision
number. -/
def signedSixDigits? (n : Int) : Option String :=
  if fitsDouble n then
    some ((if n < 0 then "-" else "+") ++ sixDigits (toDouble n.natAbs))
  else none

end FixtureKeywords.Text
