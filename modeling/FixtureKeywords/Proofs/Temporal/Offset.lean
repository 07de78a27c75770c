import FixtureKeywords.Proofs.Calendar.Date
import FixtureKeywords.Proofs.Outcome
import FixtureKeywords.Temporal.Spec
import Mathlib

/-!
# Accumulated offsets

Units that are added one after the other accumulate: only their sums count, and
what is carried from months into years does not change what the months come to. A
reading is moved by the months first and then by the days.
-/
namespace FixtureKeywords

/-- What the additions of one unit come to. -/
def amountOf (unit : TemporalUnit) (adds : List (TemporalUnit × Int)) : Int :=
  ((adds.filter (·.1 = unit)).map Prod.snd).sum

@[simp] theorem amountOf_nil (unit : TemporalUnit) : amountOf unit [] = 0 := rfl

theorem amountOf_cons (unit : TemporalUnit) (add : TemporalUnit × Int)
    (adds : List (TemporalUnit × Int)) :
    amountOf unit (add :: adds) = (if add.1 = unit then add.2 else 0) + amountOf unit adds := by
  by_cases h : add.1 = unit <;> simp [amountOf, h]

theorem amountOf_eq_zero {unit : TemporalUnit} {adds : List (TemporalUnit × Int)}
    (h : ∀ add ∈ adds, add.1 ≠ unit) : amountOf unit adds = 0 := by
  have hnone : adds.filter (·.1 = unit) = [] := by simpa [List.filter_eq_nil_iff] using h
  simp [amountOf, hnone]

/-- Calendar offsets in months and days, and clock offsets in minutes. -/
structure Totals where
  months : Int
  days : Int
  minutes : Int
deriving DecidableEq, Repr

namespace Totals

def ofSpec (spec : TemporalSpec) : Totals :=
  ⟨spec.calendar.totalMonths, spec.calendar.days, spec.clock.minutes⟩

def ofAdds (adds : List (TemporalUnit × Int)) : Totals :=
  ⟨12 * amountOf (.calendar .year) adds + amountOf (.calendar .month) adds,
    7 * amountOf (.calendar .week) adds + amountOf (.calendar .day) adds,
    60 * amountOf (.clock .hour) adds + amountOf (.clock .minute) adds⟩

def plus (a b : Totals) : Totals :=
  ⟨a.months + b.months, a.days + b.days, a.minutes + b.minutes⟩

theorem ofAdds_cons (add : TemporalUnit × Int) (adds : List (TemporalUnit × Int)) :
    ofAdds (add :: adds) = (ofAdds [add]).plus (ofAdds adds) := by
  simp only [ofAdds, plus, amountOf_cons, amountOf_nil, mk.injEq]
  omega

theorem plus_assoc (a b c : Totals) : (a.plus b).plus c = a.plus (b.plus c) := by
  simp only [plus, mk.injEq]
  omega

theorem plus_ofAdds_nil (a : Totals) : a.plus (ofAdds []) = a := by
  simp [plus, ofAdds]

end Totals

namespace CalendarOffset

theorem totalMonths_plus (a b : CalendarOffset) :
    (a.plus b).totalMonths = a.totalMonths + b.totalMonths := by
  rw [plus, totalMonths_carry]
  simp only [totalMonths]
  omega

theorem ofUnits_totals (unit : CalendarUnit) (amount : Int) :
    (⟨(ofUnits unit amount).totalMonths, (ofUnits unit amount).days, 0⟩ : Totals) =
      .ofAdds [(.calendar unit, amount)] := by
  cases unit with
  | month =>
      simp only [ofUnits, totalMonths_carry]
      simp [totalMonths, carry, Totals.ofAdds, amountOf_cons]
  | _ => simp [ofUnits, totalMonths, Totals.ofAdds, amountOf_cons]

/-- How a reading is moved: by months, to the same time of the day in the month that
many months away, on the same day or else on the last day of that month; and then by
days. -/
def Moves (months days : Int) (r w : Reading) : Prop :=
  ∃ moved : Reading,
    12 * (Reading.date moved).year + (Reading.date moved).month =
      12 * (Reading.date r).year + (Reading.date r).month + months ∧
    (Reading.date moved).day = min (Reading.date r).day
      (Date.monthLength (Reading.date moved).year (Reading.date moved).month) ∧
    moved % Reading.dayLength = r % Reading.dayLength ∧
    w = moved + days * Reading.dayLength

theorem moves_of_move {o : CalendarOffset} {r w : Reading} (h : o.move r = .ok w) :
    Moves o.totalMonths o.days r w := by
  obtain ⟨moved, hmoved, h⟩ := Outcome.bind_eq_ok.mp h
  obtain ⟨-, rfl⟩ := Reading.checked_eq_ok.mp hmoved
  obtain ⟨-, rfl⟩ := Reading.checked_eq_ok.mp h
  obtain ⟨hdate, htime⟩ := Reading.date_addMonths r o.totalMonths
  obtain ⟨-, hmonths, hday⟩ := Date.addMonths_spec (Date.isProper_ofDays _) o.totalMonths
  refine ⟨_, ?_, ?_, htime, rfl⟩
  · rw [hdate]
    exact hmonths
  · rw [hdate]
    exact hday

theorem eq_of_move_zero {o : CalendarOffset} {r w : Reading} (hmonths : o.totalMonths = 0)
    (hdays : o.days = 0) (h : o.move r = .ok w) : w = r := by
  obtain ⟨moved, hmoved, h⟩ := Outcome.bind_eq_ok.mp h
  obtain ⟨-, rfl⟩ := Reading.checked_eq_ok.mp hmoved
  obtain ⟨-, rfl⟩ := Reading.checked_eq_ok.mp h
  rw [hmonths, hdays, Reading.addMonths_zero]
  simp

end CalendarOffset

namespace TemporalSpec

theorem add_eq_ok {unit : TemporalUnit} {amount : Int} {spec next : TemporalSpec}
    (h : spec.add unit amount = .ok next) :
    next.start = spec.start ∧ next.zone = spec.zone ∧
      Totals.ofSpec next = (Totals.ofSpec spec).plus (.ofAdds [(unit, amount)]) := by
  cases unit with
  | calendar unit =>
      simp only [add, CalendarOffset.add?] at h
      split_ifs at h
      · simp at h
      · obtain rfl := Except.ok.inj h
        refine ⟨rfl, rfl, ?_⟩
        rw [← CalendarOffset.ofUnits_totals]
        simp [Totals.ofSpec, Totals.plus, CalendarOffset.totalMonths_plus]
        rfl
  | clock unit =>
      simp only [add, ClockOffset.add?] at h
      split_ifs at h
      · obtain rfl := Except.ok.inj h
        refine ⟨rfl, rfl, ?_⟩
        cases unit <;>
          simp [Totals.ofSpec, Totals.plus, Totals.ofAdds, amountOf_cons, ClockOffset.ofUnits]
      · simp at h

theorem addAll_append (spec : TemporalSpec) (adds more : List (TemporalUnit × Int)) :
    spec.addAll (adds ++ more) = spec.addAll adds >>= fun next => next.addAll more := by
  induction adds generalizing spec with
  | nil => rfl
  | cons add adds ih =>
      simp only [List.cons_append, addAll]
      cases spec.add add.1 add.2 with
      | error fault => rfl
      | ok next => exact ih next

theorem addAll_eq_ok {adds : List (TemporalUnit × Int)} {spec next : TemporalSpec}
    (h : spec.addAll adds = .ok next) :
    next.start = spec.start ∧ next.zone = spec.zone ∧
      Totals.ofSpec next = (Totals.ofSpec spec).plus (.ofAdds adds) := by
  induction adds generalizing spec with
  | nil =>
      obtain rfl := Except.ok.inj h
      exact ⟨rfl, rfl, (Totals.plus_ofAdds_nil _).symm⟩
  | cons add adds ih =>
      obtain ⟨middle, hmiddle, h⟩ := Outcome.bind_eq_ok.mp h
      obtain ⟨hstart, hzone, htotals⟩ := add_eq_ok hmiddle
      obtain ⟨hstart', hzone', htotals'⟩ := ih h
      refine ⟨hstart'.trans hstart, hzone'.trans hzone, ?_⟩
      rw [htotals', htotals, Totals.ofAdds_cons add adds, Totals.plus_assoc]

/-- Where nothing was added before, the totals are those of the additions. -/
theorem totals_of_addAll {adds : List (TemporalUnit × Int)} {base spec : TemporalSpec}
    (hbase : Totals.ofSpec base = ⟨0, 0, 0⟩) (h : base.addAll adds = .ok spec) :
    Totals.ofSpec spec = .ofAdds adds := by
  obtain ⟨-, -, htotals⟩ := addAll_eq_ok h
  rw [htotals, hbase]
  simp [Totals.plus]

end TemporalSpec
end FixtureKeywords
