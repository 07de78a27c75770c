import FixtureKeywords.Random.DrawProgram

/-!
# Predictable sources

Sources for tests and demonstrations: one that always gives the least number,
one that always gives the greatest, and one that follows a script of integers,
each reduced to the size of the request.
-/

namespace FixtureKeywords.Source

/-- Gives the least number. -/
def least : Source Unit where
  below _ positive state := (⟨0, positive⟩, state)

/-- Gives the greatest number. -/
def greatest : Source Unit where
  below n positive state := (⟨n - 1, by omega⟩, state)

/-- Takes the integers of a script in turn, from the start again after the last.
The state counts the draws made. -/
def script (numbers : List Int) : Source Nat where
  below n positive turn :=
    let number := numbers.getD (turn % numbers.length) 0
    (⟨(number % (n : Int)).toNat, by
      have h := Int.emod_lt_of_pos number (Int.natCast_pos.2 positive)
      have := Int.emod_nonneg number (Int.natCast_ne_zero.2 (by omega : n ≠ 0))
      omega⟩, turn + 1)

end FixtureKeywords.Source
