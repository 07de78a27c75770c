import FixtureKeywords.Double.Basic

/-!
# Shortest decimals

A finite number is written with the fewest decimal digits that read back as the
same number, and among those with the digits nearest to it. At each count of
digits only the two decimals around the number can read back, so only they are
tried; 17 digits are always enough.

The digits stand around a decimal point while it is at most sixteen places to the
right of the first digit or at most three zeros to its left; otherwise they are
written with an exponent.
-/

namespace FixtureKeywords.Double

/-- Decimal digits with a point: the value is the digits behind `0.`, times ten to
the power of `point`. -/
structure Decimal where
  digits : Text
  point : Int
deriving DecidableEq, Repr

/-- The decimals at both sides of a quotient that are multiples of `10 ^ unit`, the
nearer one first. -/
def around (n d : Nat) (unit : Int) : List Nat :=
  let (a, b) := scaled 10 (-unit) n d
  let near := roundDiv a b
  [near, if near = a / b then near + 1 else a / b]

/-- The number of digits in front of the point of a positive quotient. -/
def pointOf (n d : Nat) : Int :=
  let guess : Int := (toString n).length - (toString d).length
  let (a, b) := scaled 10 (-guess) n d
  if b ≤ a then guess + 1 else guess

/-- The decimal of `count` digits that reads back as the number, if there is one. -/
def decimalOf? (m : Nat) (e : Int) (count : Nat) : Option Decimal :=
  let (n, d) := scaled 2 e m 1
  let unit := pointOf n d - count
  ((around n d unit).find? fun k => ofDecimal false k unit == finite false m e).map fun k =>
    let written := (toString k).toList
    ⟨(written.reverse.dropWhile (· == '0')).reverse, unit + written.length⟩

/-- The shortest decimal that reads back as a positive number. -/
def shortest (m : Nat) (e : Int) : Decimal :=
  (((List.range 17).map (· + 1)).findSome? (decimalOf? m e)).getD ⟨[], 0⟩

def Decimal.text (decimal : Decimal) : Text :=
  let ⟨digits, point⟩ := decimal
  if point < -3 ∨ 16 < point then
    let more := digits.drop 1
    let sign := if point < 1 then '-' else '+'
    digits.take 1 ++ (if more.isEmpty then [] else '.' :: more) ++
      'e' :: sign :: (Text.padded 2 (point - 1).natAbs).toList
  else if point ≤ 0 then
    ['0', '.'] ++ List.replicate (-point).toNat '0' ++ digits
  else
    let places := point.toNat
    let fraction := digits.drop places
    digits.take places ++ List.replicate (places - digits.length) '0' ++
      '.' :: (if fraction.isEmpty then ['0'] else fraction)

/-- A number as text. -/
def written (x : Double) : String :=
  let sign (negative : Bool) : String := if negative then "-" else ""
  match x with
  | finite negative 0 _ => sign negative ++ "0.0"
  | finite negative m e => sign negative ++ String.ofList (shortest m e).text
  | infinite negative => sign negative ++ "inf"
  | notANumber => "nan"

example : (ofDecimal false 1 (-1)).written = "0.1" := by decide

example : (ofDecimal true 125 20).written = "-1.25e+22" := by decide

end FixtureKeywords.Double
