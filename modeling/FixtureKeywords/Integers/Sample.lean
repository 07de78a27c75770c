import FixtureKeywords.Fault
import FixtureKeywords.Random.DrawProgram

/-!
# Random integers

Integers are drawn between two bounds, both included; without bounds, between
the bounds of the signed 32-bit integers. For an integer of a given parity the
bounds are moved inward to that parity and one of the steps of two between them
is drawn, so one draw decides and every candidate is as likely as any other.
-/

namespace FixtureKeywords

namespace Parity

/-- The least number of the parity that is not below `n`. -/
def above (p : Parity) (n : Int) : Int :=
  if p.holds n then n else n + 1

/-- The greatest number of the parity that is not above `n`. -/
def below (p : Parity) (n : Int) : Int :=
  if p.holds n then n else n - 1

end Parity

namespace Sample

/-- The lower bound without a range. -/
def least : Int := -2147483648

/-- The upper bound without a range. -/
def greatest : Int := 2147483647

/-- Draws any integer between the usual bounds. -/
def full : DrawProgram Int :=
  .between least greatest (by decide)

/-- Draws an integer between two bounds; the upper one has to be greater. -/
def between (low high : Int) : Except Fault (DrawProgram Int) :=
  if h : high ≤ low then .error (ArgumentFault.notIncreasing low high).raised
  else .ok (.between low high (by omega))

/-- Draws an integer of a parity between two bounds. -/
def ofParity (parity : Parity) (low high : Int) : Except Fault (DrawProgram Int) :=
  let first := parity.above low
  let last := parity.below high
  if high < low then .error (ArgumentFault.decreasing low high).raised
  else if h : last < first then .error (ArgumentFault.noneOfParity low high parity).raised
  else .ok ((DrawProgram.between 0 ((last - first) / 2) (by omega)).map fun k => first + 2 * k)

/-- Draws an integer between two bounds, of a parity if one is asked for. -/
def within (parity : Option Parity) (low high : Int) : Except Fault (DrawProgram Int) :=
  match parity with
  | some parity => ofParity parity low high
  | none => between low high

end Sample

end FixtureKeywords
