import FixtureKeywords.Text.Significant
import Mathlib

/-!
# The range of double-precision numbers

An integer is a double-precision number, once it is brought to 53 significant bits, if it
is less than halfway from the largest such number to the next power of two. The integer
halfway itself is rounded to the even neighbour, which is the power of two.

Below `2 ^ 1023` rounding reaches at most that power. From `2 ^ 1024` on it does not come
back below it. In between the last bit that is kept is worth `2 ^ 971`, and the question is
whether the quotient by it is rounded up to `2 ^ 53`.
-/
namespace FixtureKeywords.Text
open Double (roundDiv)

theorem div_le_roundDiv (n d : Nat) : n / d ≤ roundDiv n d := by
  unfold roundDiv
  dsimp only
  split_ifs <;> omega

theorem roundDiv_le (n d : Nat) : roundDiv n d ≤ n / d + 1 := by
  unfold roundDiv
  dsimp only
  split_ifs <;> omega

theorem roundDiv_lt_iff {n half top : Nat} (hhalf : 0 < half) (hn : n < 2 * half * (2 * top)) :
    roundDiv n (2 * half) < 2 * top ↔ n < 2 * half * (2 * top) - half := by
  have hq : n / (2 * half) < 2 * top := Nat.div_lt_of_lt_mul hn
  have hr : n % (2 * half) < 2 * half := Nat.mod_lt n (by omega)
  have hsplit := Nat.div_add_mod n (2 * half)
  rcases Nat.lt_or_ge (n / (2 * half) + 1) (2 * top) with hlow | hhigh
  · have hle : 2 * half * (n / (2 * half) + 2) ≤ 2 * half * (2 * top) :=
      Nat.mul_le_mul_left _ (by omega)
    rw [Nat.mul_add] at hle
    have hround := roundDiv_le n (2 * half)
    constructor <;> omega
  · have hlast : 2 * half * (n / (2 * half) + 1) = 2 * half * (2 * top) := by
      congr 1
      omega
    rw [Nat.mul_add] at hlast
    unfold roundDiv
    dsimp only
    split_ifs <;> omega

theorem toDouble_eq (n : Nat) :
    toDouble n = roundDiv n (2 ^ (n.log2 - 52)) * 2 ^ (n.log2 - 52) := rfl

theorem toDouble_le {n k : Nat} (hk : 53 ≤ k) (hn : n < 2 ^ k) : toDouble n ≤ 2 ^ k := by
  have hlog : n.log2 < k := by
    rcases Nat.eq_zero_or_pos n with rfl | hpos
    · simp
      omega
    · exact (Nat.log2_lt hpos.ne').mpr hn
  have hbelow : n < 2 ^ (n.log2 - 52) * 2 ^ 53 := by
    rw [← pow_add]
    exact Nat.lt_log2_self.trans_le (Nat.pow_le_pow_right (by decide) (by omega))
  have hround : roundDiv n (2 ^ (n.log2 - 52)) ≤ 2 ^ 53 :=
    (roundDiv_le _ _).trans (Nat.div_lt_of_lt_mul hbelow)
  calc toDouble n = roundDiv n (2 ^ (n.log2 - 52)) * 2 ^ (n.log2 - 52) := toDouble_eq n
    _ ≤ 2 ^ 53 * 2 ^ (n.log2 - 52) := Nat.mul_le_mul_right _ hround
    _ = 2 ^ (53 + (n.log2 - 52)) := (pow_add _ _ _).symm
    _ ≤ 2 ^ k := Nat.pow_le_pow_right (by decide) (by omega)

theorem le_toDouble {n k : Nat} (hk : 52 ≤ k) (hn : 2 ^ k ≤ n) : 2 ^ k ≤ toDouble n := by
  have hpos : n ≠ 0 := by
    rintro rfl
    exact absurd hn (by simp)
  have hlog : k ≤ n.log2 := (Nat.le_log2 hpos).mpr hn
  have habove : 2 ^ 52 * 2 ^ (n.log2 - 52) ≤ n := by
    rw [← pow_add, Nat.add_sub_cancel' (hk.trans hlog)]
    exact Nat.log2_self_le hpos
  have hround : 2 ^ 52 ≤ roundDiv n (2 ^ (n.log2 - 52)) :=
    ((Nat.le_div_iff_mul_le (by positivity)).mpr habove).trans (div_le_roundDiv _ _)
  calc 2 ^ k ≤ 2 ^ n.log2 := Nat.pow_le_pow_right (by decide) hlog
    _ = 2 ^ 52 * 2 ^ (n.log2 - 52) := by rw [← pow_add, Nat.add_sub_cancel' (hk.trans hlog)]
    _ ≤ roundDiv n (2 ^ (n.log2 - 52)) * 2 ^ (n.log2 - 52) := Nat.mul_le_mul_right _ hround
    _ = toDouble n := (toDouble_eq n).symm

/-- A number is brought to a power of two above it from halfway below that power on. Half of
what the last bit is worth there is `2 ^ k`. -/
theorem toDouble_lt_iff (n k : Nat) : toDouble n < 2 ^ (k + 54) ↔ n < 2 ^ (k + 54) - 2 ^ k := by
  have hunit : 0 < 2 ^ k := by positivity
  have hbottom : 2 ^ (k + 53) = 2 ^ 53 * 2 ^ k := by rw [pow_add, mul_comm]
  have htop : 2 ^ (k + 54) = 2 ^ 54 * 2 ^ k := by rw [pow_add, mul_comm]
  rcases Nat.lt_or_ge n (2 ^ (k + 53)) with hn | hn
  · have hle := toDouble_le (by omega) hn
    omega
  rcases Nat.lt_or_ge n (2 ^ (k + 54)) with hn' | hn'
  · have hpos : n ≠ 0 := by omega
    have hle := (Nat.le_log2 hpos).mpr hn
    have hlt := (Nat.log2_lt hpos).mpr hn'
    have hlog : n.log2 - 52 = k + 1 := by omega
    have hdouble : toDouble n = roundDiv n (2 * 2 ^ k) * (2 * 2 ^ k) := by
      rw [toDouble_eq, hlog, pow_succ']
    have htop' : 2 ^ (k + 54) = 2 * 2 ^ k * (2 * 2 ^ 52) := by rw [htop]; ring
    have hround := roundDiv_lt_iff hunit (htop' ▸ hn')
    rw [← htop'] at hround
    rw [hdouble, htop', mul_comm, Nat.mul_lt_mul_left (by omega), hround, ← htop']
  · have hle := le_toDouble (by omega) hn'
    omega

/-- The least number that is not brought to a double-precision number. -/
def doubleLimit : Nat :=
  2 ^ 1024 - 2 ^ 970

theorem fitsDouble_iff (n : Int) : fitsDouble n ↔ n.natAbs < doubleLimit := by
  have hlast := toDouble_lt_iff n.natAbs 970
  simp only [Nat.reduceAdd] at hlast
  simp only [fitsDouble, Nat.pow_eq, decide_eq_true_iff, hlast, doubleLimit]

theorem lt_doubleLimit : 2 ^ 53 < doubleLimit := by
  have hunit : 0 < 2 ^ 970 := by positivity
  have htop : 2 ^ 1024 = 2 ^ 54 * 2 ^ 970 := by rw [← pow_add]
  unfold doubleLimit
  omega

end FixtureKeywords.Text
