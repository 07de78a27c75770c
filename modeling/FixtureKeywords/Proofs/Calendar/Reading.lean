import FixtureKeywords.Proofs.Calendar.Date

/-!
# Readings in the supported years

The supported years are a range of days. A reading lies in it exactly if its year is one of
1 to 9999.
-/
namespace FixtureKeywords.Reading

theorem inRange_iff {r : Int} :
    inRange r ↔ -719162 * dayLength ≤ r ∧ r < 2932897 * dayLength := by
  have hfirst : first = -719162 * dayLength := by decide
  have hlast : last = 2932897 * dayLength - 1 := by decide
  simp only [inRange, Bool.and_eq_true, decide_eq_true_eq, hfirst, hlast]
  exact and_congr_right fun _ => Int.le_sub_one_iff

theorem inRange_iff_year {r : Int} : inRange r ↔ 1 ≤ year r ∧ year r ≤ 9999 := by
  obtain ⟨y, index, hdate, hdays, hindex⟩ := Date.ofDays_year (r / dayLength)
  have hyear : year r = y := by
    rw [year, date, hdate, Date.ofYearIndex]
  have hbetween : inRange r ↔
      0 ≤ r / dayLength + Date.epoch ∧ r / dayLength + Date.epoch < 3652059 := by
    have hlength : dayLength = 86400000000 := by decide
    rw [inRange_iff, hlength, Date.epoch]
    omega
  have hbefore : Date.daysBeforeYear 1 = 0 := by decide
  have hafter : Date.daysBeforeYear 10000 = 3652059 := by decide
  rw [hbetween, hyear]
  constructor
  · rintro ⟨hlow, hhigh⟩
    constructor
    · by_contra hy
      have := Date.daysBeforeYear_add_le (show y < 1 by omega)
      omega
    · by_contra hy
      rcases Int.lt_or_eq_of_le (show 10000 ≤ y by omega) with hlate | rfl
      · have := Date.daysBeforeYear_add_le hlate
        omega
      · omega
  · rintro ⟨hlow, hhigh⟩
    have hend := Date.daysBeforeYear_add_le (show y < 10000 by omega)
    rcases Int.lt_or_eq_of_le hlow with hlate | rfl
    · have := Date.daysBeforeYear_add_le hlate
      omega
    · omega

end FixtureKeywords.Reading
