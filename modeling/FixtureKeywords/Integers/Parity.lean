/-!
# Parity

Even or odd, as a request for an integer.
-/

namespace FixtureKeywords

/-- The parity that an integer is asked to have. -/
inductive Parity where
  | even
  | odd
deriving DecidableEq, Repr

namespace Parity

def name : Parity → String
  | even => "even"
  | odd => "odd"

def holds (p : Parity) (n : Int) : Bool :=
  match p with
  | even => n % 2 == 0
  | odd => n % 2 != 0

end Parity

end FixtureKeywords
