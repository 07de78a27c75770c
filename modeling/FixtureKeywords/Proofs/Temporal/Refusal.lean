import FixtureKeywords.Proofs.Calendar.Reading
import FixtureKeywords.Proofs.Temporal.Totals
import FixtureKeywords.Temporal.Modifier

/-!
# How a request ends

A request ends with a moment of its target zone, or it leaves the supported years at one of
its steps. Then it is refused with its offsets and its start, and the wording needs the
offsets written out.

A calendar offset is written in six significant digits of a double-precision number, and
amounts have no bound. So the wording itself fails if the years or the days that were
collected are too many for such a number. The months cannot be: at most eleven are left over.

Such a request has no other way to end. That many years or days lead out of the supported
years from wherever the start is, so the fault of the wording is what comes of every request
with such an offset, and of no other.
-/
namespace FixtureKeywords
open Text

namespace ClockReading

/-- What a clock can show: a reading in the supported years and, if it tells a zone, one that
has an offset then. -/
def IsProper : ClockReading → Prop
  | aware m => Reading.inRange m.reading ∧ m.zone.hasAnswer m.reading
  | naive r => Reading.inRange r

instance (r : ClockReading) : Decidable r.IsProper :=
  match r with
  | aware _ => inferInstanceAs (Decidable (_ ∧ _))
  | naive _ => inferInstanceAs (Decidable (_ = true))

end ClockReading

namespace Zone
variable {z : Zone} {t : Instant} {m : Moment}

theorem inRange_of_atInstant (h : z.atInstant t = .ok m) : Reading.inRange m.reading := by
  cases hhistory : z.history? with
  | some history =>
      rw [atInstant_of_history hhistory] at h
      obtain ⟨r, hr, rfl⟩ := Outcome.map_eq_ok.mp h
      exact (Reading.checked_eq_ok.mp hr).2 ▸ (Reading.checked_eq_ok.mp hr).1
  | none =>
      cases z with
      | system c =>
          obtain ⟨⟨r, second⟩, hr, h⟩ := Outcome.bind_eq_ok.mp h
          obtain rfl := Except.ok.inj h
          exact (SystemClock.atInstant_eq_ok hr).2.1
      | _ => simp [history?] at hhistory

end Zone

namespace CalendarOffset
variable {o : CalendarOffset}

theorem text?_eq_none_iff : o.text? = none ↔
    doubleLimit ≤ o.years.natAbs ∨ doubleLimit ≤ o.months.natAbs ∨ doubleLimit ≤ o.days.natAbs := by
  constructor
  · intro h
    by_contra hsmall
    simp only [not_or, not_le] at hsmall
    obtain ⟨t, ht⟩ := exists_text? hsmall.1 hsmall.2.1 hsmall.2.2
    cases h.symm.trans ht
  · intro hlarge
    have hpart : ∃ part ∈ o.parts, signedSixDigits? part.2 = none := by
      have hpos := lt_doubleLimit
      have hpart (name : String) {n : Int} (hn : doubleLimit ≤ n.natAbs)
          (hmem : (name, n) ∈ [("years", o.years), ("months", o.months), ("days", o.days)]) :
          ∃ part ∈ o.parts, signedSixDigits? part.2 = none := by
        refine ⟨(name, n), List.mem_filter.mpr ⟨hmem, ?_⟩, ?_⟩
        · simp only [decide_eq_true_eq]
          omega
        · have hfits : fitsDouble n = false := by
            rw [← Bool.not_eq_true, fitsDouble_iff, not_lt]
            exact hn
          simp [signedSixDigits?, hfits]
      rcases hlarge with hyears | hmonths | hdays
      · exact hpart "years" hyears (by simp)
      · exact hpart "months" hmonths (by simp)
      · exact hpart "days" hdays (by simp)
    obtain ⟨part, hmem, hnone⟩ := hpart
    have hparts : (o.parts.mapM fun part =>
        (signedSixDigits? part.2).bind fun written => some (part.1 ++ "=" ++ written)) = none := by
      by_contra hne
      obtain ⟨texts, htexts⟩ := Option.ne_none_iff_exists'.mp hne
      obtain ⟨written, hwritten⟩ := Outcome.exists_of_mapM_eq_some htexts hmem
      rw [hnone] at hwritten
      cases hwritten
    exact congrArg (Option.bind · fun texts =>
      some ("relativedelta(" ++ ", ".intercalate texts ++ ")")) hparts

/-- A reading that is moved within the supported years is moved by few years and days. -/
theorem small_of_move {r w : Int} (hr : Reading.inRange r) (hmonths : o.months.natAbs ≤ 11)
    (h : o.move r = .ok w) : o.years.natAbs < doubleLimit ∧ o.days.natAbs < doubleLimit := by
  have hlimit := lt_doubleLimit
  obtain ⟨moved, hmoved, hw⟩ := Outcome.bind_eq_ok.mp h
  obtain ⟨hmovedRange, rfl⟩ := Reading.checked_eq_ok.mp hmoved
  obtain ⟨hwRange, -⟩ := Reading.checked_eq_ok.mp hw
  constructor
  · have hproper := Date.isProper_ofDays (r / Reading.dayLength)
    obtain ⟨⟨hfirst, hlast, -⟩, hcount, -⟩ := Date.addMonths_spec hproper o.totalMonths
    obtain ⟨hmfirst, hmlast, -⟩ := hproper
    have hbefore := Reading.inRange_iff_year.mp hr
    have hafter := Reading.inRange_iff_year.mp hmovedRange
    rw [Reading.year, (Reading.date_addMonths r o.totalMonths).1] at hafter
    rw [Reading.year] at hbefore
    unfold Reading.date at hbefore hafter
    simp only [totalMonths] at hcount hafter hfirst hlast
    omega
  · have hlength : Reading.dayLength = 86400000000 := by decide
    rw [Reading.inRange_iff, hlength] at hmovedRange hwRange
    have hlow : (-719162 * 86400000000 : Int) ≤
      Reading.addMonths r o.totalMonths + o.days * 86400000000 := hwRange.1
    have hhigh : Reading.addMonths r o.totalMonths + o.days * 86400000000 <
      (2932897 * 86400000000 : Int) := hwRange.2
    omega

end CalendarOffset

namespace TemporalSpec
variable {base spec : TemporalSpec} {adds : List (TemporalUnit × Int)} {policy : ZonePolicy}
  {around : Surroundings}

theorem months_of_addAll (hbase : base.calendar.months.natAbs ≤ 11)
    (h : base.addAll adds = .ok spec) : spec.calendar.months.natAbs ≤ 11 := by
  induction adds generalizing base with
  | nil =>
      obtain rfl := Except.ok.inj h
      exact hbase
  | cons add adds ih =>
      obtain ⟨next, hnext, h⟩ := Outcome.bind_eq_ok.mp h
      refine ih ?_ h
      obtain ⟨unit, amount⟩ := add
      cases unit with
      | calendar unit =>
          simp only [TemporalSpec.add] at hnext
          cases hsum : base.calendar.add? unit amount with
          | none => simp [hsum] at hnext
          | some sum =>
              simp only [hsum, Option.map_some] at hnext
              obtain rfl := Except.ok.inj hnext
              exact CalendarOffset.months_of_add? hsum
      | clock unit =>
          simp only [TemporalSpec.add] at hnext
          cases hsum : base.clock.add? unit amount with
          | none => simp [hsum] at hnext
          | some sum =>
              simp only [hsum, Option.map_some] at hnext
              obtain rfl := Except.ok.inj hnext
              exact hbase

/-- What a clock shows lies in the supported years in every zone that it is brought to. -/
theorem inRange_here {here : Moment} (hstart : (spec.origin around).IsProper)
    (h : spec.here policy around = .ok here) : Reading.inRange here.reading := by
  cases horigin : spec.origin around with
  | aware start =>
      rw [horigin] at hstart
      rcases here_cases horigin h with ⟨-, rfl⟩ | h
      · exact hstart.1
      · rw [Moment.inZone] at h
        split_ifs at h
        · obtain rfl := Except.ok.inj h
          exact hstart.1
        · obtain ⟨t, -, h⟩ := Outcome.bind_eq_ok.mp h
          exact Zone.inRange_of_atInstant h
  | naive r =>
      unfold TemporalSpec.here at h
      split at h
      next start _ haware => cases horigin.symm.trans haware
      next =>
        rw [horigin] at h
        obtain ⟨offset, -, h⟩ := Outcome.bind_eq_ok.mp h
        obtain ⟨instant, -, h⟩ := Outcome.bind_eq_ok.mp h
        exact Zone.inRange_of_atInstant h

/-- A request that succeeds has a moment of its target zone, and its calendar offset has been
small. -/
theorem ends_of_moment {m : Moment} (hstart : (spec.origin around).IsProper)
    (hmonths : spec.calendar.months.natAbs ≤ 11) (h : spec.moment policy around = .ok m) :
    (m.zone = spec.target policy around ∧ Reading.inRange m.reading) ∧
      spec.calendar.years.natAbs < doubleLimit ∧ spec.calendar.days.natAbs < doubleLimit := by
  obtain ⟨here, hhere, h⟩ := Outcome.bind_eq_ok.mp h
  obtain ⟨settled, hsettled, h⟩ := Outcome.bind_eq_ok.mp h
  obtain ⟨w, hw, -⟩ := Outcome.bind_eq_ok.mp hsettled
  obtain ⟨t, -, h⟩ := Outcome.bind_eq_ok.mp h
  obtain ⟨u, -, h⟩ := Outcome.bind_eq_ok.mp h
  exact ⟨⟨(Zone.zone_of_atInstant h).1, Zone.inRange_of_atInstant h⟩,
    CalendarOffset.small_of_move (inRange_here hstart hhere) hmonths hw⟩

/-- A request fails if one of its steps does; how depends on whether the offset is written. -/
theorem resolve_eq_error_iff {fault : Fault} : spec.resolve policy around = .error fault ↔
    (∀ m, spec.moment policy around ≠ .ok m) ∧
      ((∃ calendar, spec.calendar.text? = some calendar ∧ fault =
          .argument (.resultOutOfReach calendar spec.clock.text (spec.origin around).iso)) ∨
        spec.calendar.text? = none ∧ fault = .offsetNotPrintable) := by
  unfold resolve
  cases spec.moment policy around with
  | ok m => simp
  | error reason => cases spec.calendar.text? <;> simp [eq_comm]

/-- How a request ends. It succeeds with a moment of its target zone, or it is refused with its
offsets and its start, or its calendar offset cannot be written. The last is what happens
exactly if the years or the days that were collected are beyond double precision. -/
theorem resolve_ends (hbase : base.calendar = .zero) (hadds : base.addAll adds = .ok spec)
    (hstart : (spec.origin around).IsProper) :
    (∀ out, spec.resolve policy around = .ok out →
      out.value.zone = spec.target policy around ∧ Reading.inRange out.value.reading) ∧
    (∀ fault, spec.resolve policy around = .error fault →
      (∃ calendar, spec.calendar.text? = some calendar ∧ fault =
        .argument (.resultOutOfReach calendar spec.clock.text (spec.origin around).iso)) ∨
      fault = .offsetNotPrintable) ∧
    (spec.resolve policy around = .error .offsetNotPrintable ↔
      doubleLimit ≤ spec.calendar.years.natAbs ∨ doubleLimit ≤ spec.calendar.days.natAbs) := by
  have hmonths : spec.calendar.months.natAbs ≤ 11 := by
    refine months_of_addAll ?_ hadds
    rw [hbase]
    decide
  have hlimit := lt_doubleLimit
  have hunwritten : spec.calendar.text? = none ↔
      doubleLimit ≤ spec.calendar.years.natAbs ∨ doubleLimit ≤ spec.calendar.days.natAbs := by
    rw [CalendarOffset.text?_eq_none_iff]
    omega
  rw [← hunwritten]
  refine ⟨fun out hout => (ends_of_moment hstart hmonths (moment_of_resolve hout)).1, ?_, ?_⟩
  · intro fault hfault
    rcases resolve_eq_error_iff.mp hfault with ⟨-, ⟨calendar, hcalendar, rfl⟩ | ⟨-, rfl⟩⟩
    · exact .inl ⟨calendar, hcalendar, rfl⟩
    · exact .inr rfl
  · constructor
    · intro h
      rcases resolve_eq_error_iff.mp h with ⟨-, ⟨calendar, -, hfault⟩ | ⟨hnone, -⟩⟩
      · cases hfault
      · exact hnone
    · intro hnone
      refine resolve_eq_error_iff.mpr ⟨fun m hm => ?_, .inr ⟨hnone, rfl⟩⟩
      have hsmall := (ends_of_moment hstart hmonths hm).2
      have hlarge := hunwritten.mp hnone
      omega

/-- A day after the last day there is no datetime, however many hours are taken off again. -/
theorem resolve_ends_last_day :
    let start : Moment :=
      ⟨Reading.midnight ⟨9999, 12, 31⟩ + 18 * Reading.hour, false, .stamped (5 * Reading.hour)⟩
    let base : TemporalSpec := ⟨.zero, .zero, some start, none⟩
    let around : Surroundings := ⟨.naive 0, .universal⟩
    ∃ spec, base.addAll [(.calendar .day, 1), (.clock .hour, -48)] = .ok spec ∧
      (spec.origin around).IsProper ∧
      spec.resolve .start around = .error (.argument (.resultOutOfReach
        "relativedelta(days=+1)" "-2 days, 0:00:00" "9999-12-31T18:00:00+05:00")) := by
  intro start base around
  obtain ⟨spec, hspec⟩ : ∃ spec : TemporalSpec, spec =
    { base with calendar := ⟨0, 0, 1⟩, clock := ⟨-2880⟩ } := ⟨_, rfl⟩
  have hadds : base.addAll [(.calendar .day, 1), (.clock .hour, -48)] = .ok spec := by
    rw [hspec]
    rfl
  have hfacts : (spec.origin around).IsProper ∧ (spec.resolve .start around).toBool = false ∧
      spec.calendar.text? = some "relativedelta(days=+1)" ∧ spec.clock.text = "-2 days, 0:00:00" ∧
      (spec.origin around).iso = "9999-12-31T18:00:00+05:00" ∧
      ¬ (doubleLimit ≤ spec.calendar.years.natAbs ∨
        doubleLimit ≤ spec.calendar.days.natAbs) := by
    rw [hspec]
    decide +kernel
  obtain ⟨hstart, hfails, hcalendar, hclock, hiso, hsmall⟩ := hfacts
  obtain ⟨-, hends, hunwritten⟩ := @resolve_ends base spec _ .start around rfl hadds hstart
  cases h : spec.resolve .start around with
  | ok out => rw [h] at hfails; cases hfails
  | error fault =>
      rcases hends fault h with ⟨calendar, hwritten, rfl⟩ | rfl
      · obtain rfl := Option.some.inj (hcalendar.symm.trans hwritten)
        rw [hclock, hiso] at h
        exact ⟨spec, hadds, hstart, h⟩
      · exact absurd (hunwritten.mp h) hsmall

/-- So many years that no double-precision number comes near them. -/
theorem resolve_unwritable :
    let start : Moment :=
      ⟨Reading.midnight ⟨2016, 3, 12⟩ + 18 * Reading.hour, false, .stamped (-(5 * Reading.hour))⟩
    let base : TemporalSpec := ⟨.zero, .zero, some start, none⟩
    ∃ spec, base.addAll [(.calendar .year, (10 ^ 103) ^ 3)] = .ok spec ∧
      spec.resolve .start ⟨.naive 0, .universal⟩ = .error .offsetNotPrintable := by
  intro start base
  obtain ⟨spec, hspec⟩ : ∃ spec : TemporalSpec, spec =
    { base with calendar := ⟨(10 ^ 103) ^ 3, 0, 0⟩ } := ⟨_, rfl⟩
  have hadds : base.addAll [(.calendar .year, (10 ^ 103) ^ 3)] = .ok spec := by
    rw [hspec]
    rfl
  have hfacts : (spec.moment .start ⟨.naive 0, .universal⟩).toBool = false ∧
      doubleLimit ≤ spec.calendar.years.natAbs := by
    rw [hspec]
    decide +kernel
  obtain ⟨hfails, hyears⟩ := hfacts
  refine ⟨spec, hadds, resolve_eq_error_iff.mpr ⟨fun m hm => ?_, .inr ⟨?_, rfl⟩⟩⟩
  · rw [hm] at hfails
    cases hfails
  · exact CalendarOffset.text?_eq_none_iff.mpr (.inl hyears)

end TemporalSpec
end FixtureKeywords
