import FixtureKeywords.Calendar.Reading
import Mathlib

/-!
# Dates and day numbers

Counting days and naming them by year, month and day are inverse to each other, in
all years. The year of a day number is the only one whose first day is not behind
it and whose successor's first day is; within the year the rows of months are
walked.

So a reading that is moved by months has the date that the move names, and keeps
the time of the day.
-/
namespace FixtureKeywords
namespace Date

/-- Whether the calendar has such a date, in any year. -/
def IsProper (d : Date) : Prop :=
  1 ≤ d.month ∧ d.month ≤ 12 ∧ 1 ≤ d.day ∧ d.day ≤ monthLength d.year d.month

theorem daysBeforeYear_succ (year : Int) :
    daysBeforeYear (year + 1) = daysBeforeYear year + yearLength year := by
  simp only [daysBeforeYear, yearLength, isLeap, Bool.and_eq_true, Bool.or_eq_true, beq_iff_eq,
    bne_iff_ne]
  split <;> omega

theorem daysBeforeYear_add_le {year later : Int} (h : year < later) :
    daysBeforeYear year + yearLength year ≤ daysBeforeYear later := by
  rw [← daysBeforeYear_succ]
  simp only [daysBeforeYear]
  omega

theorem year_unique {year other days : Int} (h₁ : daysBeforeYear year ≤ days)
    (h₂ : days < daysBeforeYear year + yearLength year) (h₃ : daysBeforeYear other ≤ days)
    (h₄ : days < daysBeforeYear other + yearLength other) : year = other := by
  rcases Int.lt_trichotomy year other with h | h | h
  · have := daysBeforeYear_add_le h
    omega
  · exact h
  · have := daysBeforeYear_add_le h
    omega

theorem daysBeforeYear_cycles {q c g s : Int} (hc₀ : 0 ≤ c) (hc₁ : c ≤ 3) (hg₀ : 0 ≤ g)
    (hg₁ : g ≤ 24) (hs₀ : 0 ≤ s) (hs₁ : s ≤ 3) :
    daysBeforeYear (400 * q + 100 * c + 4 * g + s + 1) =
      146097 * q + 36524 * c + 1461 * g + 365 * s := by
  simp only [daysBeforeYear]
  omega

theorem yearLength_cycles {q c g s : Int} (hc₀ : 0 ≤ c) (hc₁ : c ≤ 3) (hg₀ : 0 ≤ g)
    (hg₁ : g ≤ 24) (hs₀ : 0 ≤ s) (hs₁ : s ≤ 3) :
    (yearLength (400 * q + 100 * c + 4 * g + s + 1) : Int) =
      if s = 3 ∧ (g = 24 → c = 3) then 366 else 365 := by
  simp only [yearLength, isLeap, Bool.and_eq_true, Bool.or_eq_true, beq_iff_eq, bne_iff_ne]
  split <;> split <;> omega

/-- The year that a day number is taken to lie in, and the days of it that are over. -/
theorem ofDays_year (n : Int) :
    ∃ (year : Int) (index : Nat), ofDays n = ofYearIndex year index ∧
      daysBeforeYear year + index = n + epoch ∧ index < yearLength year := by
  obtain ⟨days, hdays⟩ : ∃ days, days = n + epoch := ⟨_, rfl⟩
  obtain ⟨c, hc⟩ : ∃ c, c = min (days % 146097 / 36524) 3 := ⟨_, rfl⟩
  obtain ⟨r, hr⟩ : ∃ r, r = (days % 146097 - c * 36524) % 1461 := ⟨_, rfl⟩
  obtain ⟨g, hg⟩ : ∃ g, g = (days % 146097 - c * 36524) / 1461 := ⟨_, rfl⟩
  obtain ⟨s, hs⟩ : ∃ s, s = min (r / 365) 3 := ⟨_, rfl⟩
  have hparts : ofDays n = ofYearIndex (400 * (days / 146097) + 100 * c + 4 * g + s + 1)
      (r - s * 365).toNat := by
    subst hs hg hr hc hdays
    rfl
  have hc₀ : 0 ≤ c ∧ c ≤ 3 := by omega
  have hg₀ : 0 ≤ g ∧ g ≤ 24 := by omega
  have hs₀ : 0 ≤ s ∧ s ≤ 3 := by omega
  refine ⟨_, _, hparts, ?_, ?_⟩
  · rw [daysBeforeYear_cycles hc₀.1 hc₀.2 hg₀.1 hg₀.2 hs₀.1 hs₀.2]
    omega
  · have hlength := yearLength_cycles (q := days / 146097) hc₀.1 hc₀.2 hg₀.1 hg₀.2 hs₀.1 hs₀.2
    split at hlength <;> omega

/-- The month and the day that are found are in the row, and count up to the index. -/
theorem locate_spec {lengths : List Nat} {n : Nat} (h : n < lengths.sum) :
    1 ≤ (locate lengths n).1 ∧ (locate lengths n).1 ≤ lengths.length ∧
      1 ≤ (locate lengths n).2 ∧ (locate lengths n).2 ≤ lengths.getD ((locate lengths n).1 - 1) 31 ∧
      (lengths.take ((locate lengths n).1 - 1)).sum + (locate lengths n).2 = n + 1 := by
  induction lengths generalizing n with
  | nil => simp at h
  | cons length lengths ih =>
      by_cases hn : n < length
      · have hfound : locate (length :: lengths) n = (1, n + 1) := by simp [locate, hn]
        simp only [hfound, Nat.sub_self, List.getD_cons_zero, List.take_zero, List.sum_nil,
          List.length_cons]
        omega
      · rw [List.sum_cons] at h
        obtain ⟨h₁, h₂, h₃, h₄, h₅⟩ := ih (n := n - length) (by omega)
        obtain ⟨month, hmonth⟩ : ∃ month, (locate lengths (n - length)).1 = month + 1 :=
          ⟨_, (Nat.sub_add_cancel h₁).symm⟩
        simp only [hmonth, Nat.add_sub_cancel, List.getD_eq_getElem?_getD] at h₂ h₄ h₅
        simp [locate, hn, hmonth]
        omega

/-- The month and the day that an index was counted from are found again. -/
theorem locate_eq {lengths : List Nat} {month day : Nat} (hmonth : month < lengths.length)
    (h₁ : 1 ≤ day) (h₂ : day ≤ lengths.getD month 31) :
    locate lengths ((lengths.take month).sum + day - 1) = (month + 1, day) := by
  induction lengths generalizing month with
  | nil => simp at hmonth
  | cons length lengths ih =>
      cases month with
      | zero =>
          have hn : day - 1 < length := by
            simp only [List.getD_cons_zero] at h₂
            omega
          simp [locate, hn]
          omega
      | succ month =>
          simp only [List.length_cons, Nat.add_lt_add_iff_right, List.getD_cons_succ] at hmonth h₂
          have hn : ¬ (length + (lengths.take month).sum + day - 1 < length) := by omega
          have hrest : length + (lengths.take month).sum + day - 1 - length =
              (lengths.take month).sum + day - 1 := by omega
          simp [locate, hn, hrest, ih hmonth h₂]

theorem sum_monthLengths (year : Int) : (monthLengths year).sum = yearLength year := by
  unfold monthLengths yearLength
  split <;> rfl

theorem sum_take_add_le {lengths : List Nat} {month : Nat} (h : month < lengths.length) :
    (lengths.take month).sum + lengths.getD month 31 ≤ lengths.sum := by
  induction lengths generalizing month with
  | nil => simp at h
  | cons length lengths ih =>
      cases month with
      | zero => simp
      | succ month =>
          simp only [List.length_cons, Nat.add_lt_add_iff_right] at h
          have := ih h
          simp only [List.take_succ_cons, List.sum_cons, List.getD_cons_succ]
          omega

theorem dayOfYear_eq (d : Date) :
    d.dayOfYear = ((monthLengths d.year).take (d.month - 1)).sum + d.day := by
  rw [dayOfYear, List.sum_eq_foldr]

theorem dayOfYear_le {d : Date} (h : d.IsProper) : d.dayOfYear ≤ yearLength d.year := by
  obtain ⟨h₁, h₂, -, h₄⟩ := h
  have hmonth : d.month - 1 < (monthLengths d.year).length := by
    have : (monthLengths d.year).length = 12 := rfl
    omega
  have hsum := sum_take_add_le hmonth
  rw [sum_monthLengths] at hsum
  rw [monthLength] at h₄
  rw [dayOfYear_eq]
  omega

theorem isProper_ofDays (n : Int) : (ofDays n).IsProper := by
  obtain ⟨year, index, hdate, -, hindex⟩ := ofDays_year n
  rw [← sum_monthLengths] at hindex
  obtain ⟨h₁, h₂, h₃, h₄, -⟩ := locate_spec hindex
  rw [hdate]
  exact ⟨h₁, h₂, h₃, h₄⟩

theorem toDays_ofDays (n : Int) : (ofDays n).toDays = n := by
  obtain ⟨year, index, hdate, hdays, hindex⟩ := ofDays_year n
  rw [← sum_monthLengths] at hindex
  obtain ⟨-, -, -, -, hsum⟩ := locate_spec hindex
  rw [hdate]
  simp only [toDays, dayOfYear_eq, ofYearIndex, hsum]
  omega

theorem ofDays_toDays {d : Date} (h : d.IsProper) : ofDays d.toDays = d := by
  obtain ⟨year, index, hdate, hdays, hindex⟩ := ofDays_year d.toDays
  have hle := dayOfYear_le h
  obtain ⟨h₁, h₂, h₃, h₄⟩ := h
  have hpos : 1 ≤ d.dayOfYear := by
    rw [dayOfYear_eq]
    omega
  have hyear : year = d.year := by
    rw [toDays] at hdays
    have hstart : daysBeforeYear year ≤ daysBeforeYear year + index := by omega
    exact year_unique hstart (by omega) (by omega) (by omega)
  subst hyear
  have hday : index = ((monthLengths d.year).take (d.month - 1)).sum + d.day - 1 := by
    rw [toDays, dayOfYear_eq] at hdays
    omega
  have hmonth : d.month - 1 < (monthLengths d.year).length := by
    have : (monthLengths d.year).length = 12 := rfl
    omega
  rw [hdate, hday, ofYearIndex, locate_eq hmonth h₃ h₄, Nat.sub_add_cancel h₁]

theorem one_le_monthLength (year : Int) (month : Nat) : 1 ≤ monthLength year month := by
  have hall : ∀ n ∈ monthLengths year, 1 ≤ n := by
    unfold monthLengths
    split <;> decide
  rw [monthLength, List.getD_eq_getElem?_getD]
  cases hmonth : (monthLengths year)[month - 1]? with
  | none => decide
  | some n => exact hall n (List.mem_of_getElem? hmonth)

theorem monthLength_le (year : Int) (month : Nat) : monthLength year month ≤ 31 := by
  have hall : ∀ n ∈ monthLengths year, n ≤ 31 := by
    unfold monthLengths
    split <;> decide
  rw [monthLength, List.getD_eq_getElem?_getD]
  cases hmonth : (monthLengths year)[month - 1]? with
  | none => decide
  | some n => exact hall n (List.mem_of_getElem? hmonth)

/-- A date that is moved by months has the day it had, or else the last of its month. -/
theorem addMonths_spec {d : Date} (h : d.IsProper) (months : Int) :
    let moved := d.addMonths months
    moved.IsProper ∧ 12 * moved.year + moved.month = 12 * d.year + d.month + months ∧
      moved.day = min d.day (monthLength moved.year moved.month) := by
  obtain ⟨h₁, h₂, h₃, -⟩ := h
  refine ⟨⟨?_, ?_, ?_, ?_⟩, ?_, rfl⟩
  · exact Nat.succ_pos _
  · simp only [addMonths]
    omega
  · exact Nat.le_min.mpr ⟨h₃, one_le_monthLength _ _⟩
  · exact Nat.min_le_right _ _
  · simp only [addMonths]
    omega

end Date

namespace Reading

theorem checked_eq_ok {r s : Reading} : checked r = .ok s ↔ inRange r ∧ s = r := by
  unfold checked
  split_ifs with h <;> simp [h, eq_comm]

/-- The date of a reading that is moved by months, and its time of the day. -/
theorem date_addMonths (r : Reading) (months : Int) :
    date (addMonths r months) = (date r).addMonths months ∧
      addMonths r months % dayLength = r % dayLength := by
  have hday : dayLength ≠ 0 := by decide
  have hmod := Int.emod_lt_of_pos r (show 0 < dayLength by decide)
  have hnonneg := Int.emod_nonneg r hday
  constructor
  · have hdiv : addMonths r months / dayLength = ((date r).addMonths months).toDays := by
      rw [addMonths, midnight, Int.add_comm, Int.add_mul_ediv_right _ _ hday,
        Int.ediv_eq_zero_of_lt hnonneg hmod, Int.zero_add]
    rw [date, hdiv]
    exact Date.ofDays_toDays (Date.addMonths_spec (Date.isProper_ofDays _) months).1
  · rw [addMonths, midnight, Int.add_comm, Int.add_mul_emod_self_right, Int.emod_emod_of_dvd _
      (Int.dvd_refl _)]

theorem addMonths_zero (r : Reading) : addMonths r 0 = r := by
  obtain ⟨h₁, h₂, h₃, h₄⟩ := Date.isProper_ofDays (r / dayLength)
  have hsame : (date r).addMonths 0 = date r := by
    rw [date]
    generalize Date.ofDays (r / dayLength) = d at h₁ h₂ h₃ h₄ ⊢
    have hyear : (12 * d.year + (d.month - 1 : Int) + 0) / 12 = d.year := by omega
    have hmonth : ((12 * d.year + (d.month - 1 : Int) + 0) % 12).toNat + 1 = d.month := by omega
    simp only [Date.addMonths, hyear, hmonth, Nat.min_eq_left h₄]
  rw [addMonths, hsame, date, midnight, Date.toDays_ofDays]
  exact Int.ediv_mul_add_emod r dayLength

end Reading
end FixtureKeywords
