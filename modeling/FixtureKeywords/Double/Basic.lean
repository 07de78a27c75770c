import FixtureKeywords.Text.Numeral

/-!
# Double-precision numbers

A number that is written with a fraction or an exponent is kept as the nearest
double-precision number: an integer of at most 53 bits times a power of two that is
not below `2 ^ (-1074)`. A number halfway between two of them goes to the one with
the even integer. Too large a number is infinite; zero keeps its sign.
-/

namespace FixtureKeywords

/-- A double-precision number; a finite one is `significand * 2 ^ exponent`. -/
inductive Double where
  | finite (negative : Bool) (significand : Nat) (exponent : Int)
  | infinite (negative : Bool)
  | notANumber
deriving DecidableEq, Repr

namespace Double

/-- A quotient rounded to the nearest integer, a half to the even one. -/
def roundDiv (n d : Nat) : Nat :=
  let q := n / d
  let twice := 2 * (n % d)
  if twice < d then q
  else if d < twice then q + 1
  else if q % 2 = 0 then q else q + 1

/-- The quotient `n * base ^ e / d` as numerator and denominator. -/
def scaled (base : Nat) (e : Int) (n d : Nat) : Nat × Nat :=
  if 0 ≤ e then (n * Nat.pow base e.toNat, d) else (n, d * Nat.pow base (-e).toNat)

/-- The exponent of the least power of two that leaves fewer than 54 bits of a
positive quotient. -/
def exponentOf (n d : Nat) : Int :=
  let guess : Int := (n.log2 : Int) - d.log2 - 53
  let (a, b) := scaled 2 (-guess) n d
  max (-1074) (if Nat.pow 2 53 ≤ a / b then guess + 1 else guess)

/-- The number nearest to a quotient. -/
def ofQuotient (negative : Bool) (n d : Nat) : Double :=
  let e := exponentOf n d
  let (a, b) := scaled 2 (-e) n d
  let m := roundDiv a b
  let (m, e) := if m = Nat.pow 2 53 then (Nat.pow 2 52, e + 1) else (m, e)
  if m = 0 then finite negative 0 0
  else if 971 < e then infinite negative
  else finite negative m e

/-- The number nearest to `digits * 10 ^ exponent`. -/
def ofDecimal (negative : Bool) (digits : Nat) (exponent : Int) : Double :=
  let size := exponent + (toString digits).length
  if digits = 0 ∨ size < -400 then finite negative 0 0
  else if 400 < size then infinite negative
  else
    let (n, d) := scaled 10 exponent digits 1
    ofQuotient negative n d

def isZero : Double → Bool
  | finite _ m _ => m == 0
  | _ => false

/-- The integer that a number is, if it is one. -/
def integer? : Double → Option Int
  | finite negative m e =>
      let (a, b) := scaled 2 e m 1
      if a % b = 0 then some (if negative then -(a / b : Nat) else (a / b : Nat)) else none
  | _ => none

end Double

end FixtureKeywords
