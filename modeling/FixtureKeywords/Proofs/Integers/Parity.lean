import FixtureKeywords.Proofs.Generation
import FixtureKeywords.Proofs.Integers.Calls
import Mathlib.Algebra.Order.Interval.Set.Group
import Mathlib.Data.Set.Function

/-!
# Draws of even and odd integers

The candidates for an integer of a parity are those integers between the bounds. Moved inward
to the parity, the bounds are the first and the last candidate, if there is any; every other
one lies a number of steps of two behind the first. The number of steps is what is drawn, so
each candidate stands for one answer to the draw and each answer for one candidate.

Bounds that decrease and bounds between which nothing has the parity are the same to the
steps: there is none to draw. The refusal names the bounds, so it is only told of bounds that
can be written.
-/
namespace FixtureKeywords

namespace Parity

/-- The even or the odd integers. -/
def numbers : Parity → Set Int
  | even => {n | Even n}
  | odd => {n | Odd n}

theorem holds_iff (wanted : Parity) (n : Int) : wanted.holds n = true ↔ n ∈ wanted.numbers := by
  cases wanted with
  | even => simp [holds, numbers, Int.even_iff]
  | odd => simp [holds, numbers, Int.odd_iff]

theorem below_lt_above (wanted : Parity) {low high : Int} (h : high < low) :
    wanted.below high < wanted.above low := by
  have hbelow : wanted.below high ≤ high := by
    unfold below
    split_ifs <;> omega
  have habove : low ≤ wanted.above low := by
    unfold above
    split_ifs <;> omega
  omega

end Parity

namespace Sample
variable (wanted : Parity) (low high : Int)

/-- The integers that may be drawn. -/
def candidates : Set Int :=
  Set.Icc low high ∩ wanted.numbers

/-- The last number of steps from the first candidate; below zero if there is none. -/
def lastStep : Int :=
  (wanted.below high - wanted.above low) / 2

def stepped (k : Int) : Int :=
  wanted.above low + 2 * k

theorem stepped_injective : Function.Injective (stepped wanted low) := by
  intro j k hjk
  unfold stepped at hjk
  omega

theorem candidates_eq_image :
    candidates wanted low high = stepped wanted low '' Set.Icc 0 (lastStep wanted low high) := by
  ext n
  have hsteps : (low ≤ n ∧ n ≤ high ∧ wanted.holds n = true) ↔
      ∃ k, (0 ≤ k ∧ k ≤ lastStep wanted low high) ∧ stepped wanted low k = n :=
    wanted.between_iff n
  rw [wanted.holds_iff, ← and_assoc] at hsteps
  exact hsteps

theorem candidates_eq_empty_iff :
    candidates wanted low high = ∅ ↔ wanted.below high < wanted.above low := by
  rw [candidates_eq_image, Set.image_eq_empty, Set.Icc_eq_empty_iff, lastStep]
  omega

/-- The reason why there is nothing to draw. -/
def noCandidate : ArgumentFault :=
  if high < low then .decreasing low high else .noneOfParity low high wanted

theorem ofParity_of_empty (h : candidates wanted low high = ∅) :
    ofParity wanted low high = .error (noCandidate wanted low high).raised := by
  have hnone := (candidates_eq_empty_iff wanted low high).mp h
  unfold noCandidate
  split_ifs with hdecreasing
  · exact if_pos hdecreasing
  · exact (if_neg hdecreasing).trans (dif_pos hnone)

theorem isShort_noCandidate : (noCandidate wanted low high).IsShort ↔
    low.natAbs < 10 ^ Text.digitLimit ∧ high.natAbs < 10 ^ Text.digitLimit := by
  unfold noCandidate
  split_ifs <;> simp [ArgumentFault.IsShort, ArgumentFault.integers]

theorem ofParity_eq_error (h : candidates wanted low high = ∅) :
    ofParity wanted low high = .error
      (if low.natAbs < 10 ^ Text.digitLimit ∧ high.natAbs < 10 ^ Text.digitLimit then
        .argument (noCandidate wanted low high)
      else .integerTooLong) := by
  rw [ofParity_of_empty wanted low high h]
  split_ifs with hshort
  · rw [ArgumentFault.raised_of_isShort ((isShort_noCandidate wanted low high).mpr hshort)]
  · rw [ArgumentFault.raised_of_not_isShort (mt (isShort_noCandidate wanted low high).mp hshort)]

theorem ofParity_of_nonempty (h : candidates wanted low high ≠ ∅) :
    ∃ ordered : 0 ≤ lastStep wanted low high, ofParity wanted low high =
      .ok ((DrawProgram.between 0 (lastStep wanted low high) ordered).map
        (stepped wanted low)) := by
  have hsome : wanted.above low ≤ wanted.below high := by
    rwa [ne_eq, candidates_eq_empty_iff, Int.not_lt] at h
  have hincreasing : ¬ high < low := fun hlt =>
    absurd (wanted.below_lt_above hlt) (Int.not_lt.mpr hsome)
  refine ⟨by unfold lastStep; omega, ?_⟩
  exact (if_neg hincreasing).trans (dif_neg (Int.not_lt.mpr hsome))

/-- An integer of a parity is refused exactly when there is none between the bounds, and in
words that name the bounds if both can be written. Otherwise one number of steps is drawn, and
the numbers of steps stand one for one for the integers of the parity between the bounds. -/
theorem ofParity_exact :
    ((∃ fault, ofParity wanted low high = .error fault) ↔ candidates wanted low high = ∅) ∧
      (candidates wanted low high = ∅ → ofParity wanted low high = .error
        (if low.natAbs < 10 ^ Text.digitLimit ∧ high.natAbs < 10 ^ Text.digitLimit then
          .argument (noCandidate wanted low high)
        else .integerTooLong)) ∧
      (high < low → candidates wanted low high = ∅) ∧
      (candidates wanted low high ≠ ∅ →
        ∃ last, ∃ ordered : 0 ≤ last, ∃ value : Int → Int, ∃ program,
          ofParity wanted low high = .ok program ∧
            program = (DrawProgram.between 0 last ordered).map value ∧
            program.Asks [.between 0 last ordered] ∧
            Set.BijOn value (Set.Icc 0 last) (candidates wanted low high)) := by
  refine ⟨⟨?_, fun h => ⟨_, ofParity_of_empty wanted low high h⟩⟩,
    ofParity_eq_error wanted low high, ?_, fun h => ?_⟩
  · rintro ⟨fault, hfault⟩
    by_contra h
    obtain ⟨ordered, hprogram⟩ := ofParity_of_nonempty wanted low high h
    cases hfault.symm.trans hprogram
  · intro hdecreasing
    exact (candidates_eq_empty_iff wanted low high).mpr (wanted.below_lt_above hdecreasing)
  · obtain ⟨ordered, hprogram⟩ := ofParity_of_nonempty wanted low high h
    refine ⟨_, ordered, stepped wanted low, _, hprogram, rfl,
      (DrawProgram.asks_between ordered).map _, ?_⟩
    rw [candidates_eq_image]
    exact (stepped_injective wanted low).injOn.bijOn_image

/-- Between a number that is too long to be written and 0 there is no even integer. That is
found, and not told. -/
theorem ofParity_untold : candidates .even (10 ^ Text.digitLimit) 0 = ∅ ∧
    ofParity .even (10 ^ Text.digitLimit) 0 = .error .integerTooLong := by
  have hpos : (0 : Int) < 10 ^ Text.digitLimit := Int.pow_pos (by decide)
  have hnone : candidates .even (10 ^ Text.digitLimit) 0 = ∅ :=
    (candidates_eq_empty_iff _ _ _).mpr (Parity.below_lt_above _ hpos)
  have hlong : ¬ ((10 ^ Text.digitLimit : Int).natAbs < 10 ^ Text.digitLimit ∧
      (0 : Int).natAbs < 10 ^ Text.digitLimit) := by
    simp [Int.natAbs_pow]
  refine ⟨hnone, ?_⟩
  rw [ofParity_eq_error _ _ _ hnone, if_neg hlong]

end Sample

end FixtureKeywords
