import FixtureKeywords.Proofs.Temporal.Resolve

/-!
# Datetimes in the system's zone

A request without a zone goes through the system's zone. A moved reading that the
clock skips or repeats is there taken for the earlier of the two instants that are
tried, and the result is what the clock shows at this instant.

For a reading that is repeated this is its first instant. For one that is skipped it
is the instant at which the clock still keeps standard time: the result is the
reading moved back by the time saved, not forward. Both statements change places
with each other where the rule's daylight time is behind its standard time. A clock
that was told of one offset only takes every reading for what it is at this offset, and
the result is the reading itself.
-/
namespace FixtureKeywords.TemporalSpec
variable {spec : TemporalSpec} {around : Surroundings} {d : Daylight} {out : Logged Moment}

/-- The result of a request in the system's zone, from the moved reading. -/
theorem reading_of_system (hzone : spec.zone = none) (hclock : spec.clock = .zero)
    (h : spec.resolve .system around = .ok out) :
    ∃ here w, spec.here .system around = .ok here ∧ spec.calendar.move here.reading = .ok w ∧
      let settled := w - (around.system.atReading w false).offset
      out.value.reading = settled + around.system.standardOffset +
        (if around.system.daylightAt settled then around.system.saved else 0) ∧
      out.value.reading - out.value.offset = settled := by
  have htarget : spec.target .system around = .system around.system := by
    simp only [target, hzone]
  have hz : (Zone.system around.system).WellSpaced := by
    intro history hhistory
    cases hhistory
  obtain ⟨here, w, hhere, hw, hlast, -, -⟩ := moment_eq_ok (htarget ▸ hz) (moment_of_resolve h)
  have hmicros : spec.clock.micros = 0 := by
    rw [hclock]
    rfl
  rw [htarget, hmicros, Int.add_zero] at hlast
  obtain ⟨⟨r, second⟩, hr, hout⟩ := Outcome.bind_eq_ok.mp hlast
  obtain ⟨-, -, hreading, -⟩ := SystemClock.atInstant_eq_ok hr
  refine ⟨here, w, hhere, hw, ?_, Zone.sub_offset_of_atInstant hz hlast⟩
  rw [← Except.ok.inj hout]
  exact hreading

/-- What the result of a request in the system's zone reads if the moved reading is skipped
or repeated. If the clock was told of both offsets and daylight time is ahead of standard
time, a skipped reading is moved back by what is skipped, and a repeated one is read with
the earlier of its offsets; if daylight time is behind, the skipped one is read as it is and
the repeated one is moved back. If the clock was told of one offset only, both are read as
they are. So a skipped reading is never moved forward by what is skipped. -/
theorem resolve_system_zone (hd : around.system.rule.daylight = some d)
    (hsampled : around.system.Sampled) (hzone : spec.zone = none) (hclock : spec.clock = .zero)
    (h : spec.resolve .system around = .ok out) :
    let standard := around.system.rule.standard.offset
    let daylight := d.observance.offset
    ∃ (here : Moment) (w : Reading), spec.here .system around = .ok here ∧
      spec.calendar.move here.reading = .ok w ∧
      CalendarOffset.Moves spec.calendar.totalMonths spec.calendar.days here.reading w ∧
      (around.system.Skips w → out.value.reading =
        if around.system.saved ≠ 0 ∧ standard < daylight then w - (daylight - standard) else w) ∧
      (around.system.Repeats w → out.value.reading =
        if around.system.saved ≠ 0 ∧ daylight < standard then w - (standard - daylight) else w) ∧
      ((around.system.Skips w →
            out.value.reading = w + (max standard daylight - min standard daylight)) ∧
          (around.system.Repeats w →
            out.value.reading = w ∧ out.value.offset = max standard daylight) ↔
        ¬ around.system.Skips w ∧ (around.system.Repeats w →
          around.system.saved ≠ 0 ∧ standard < daylight ∨
            around.system.saved = 0 ∧ around.system.standardOffset = max standard daylight)) := by
  obtain ⟨here, w, hhere, hw, hreading, hoffset⟩ := reading_of_system hzone hclock h
  generalize around.system = c at *
  intro standard daylight
  have hskips (hs : c.Skips w) : standard ≠ daylight ∧ out.value.reading =
      if c.saved ≠ 0 ∧ standard < daylight then w - (daylight - standard) else w :=
    ⟨((SystemClock.skips_iff hd).mp hs).1, hreading.trans (hs.shown_settled hd hsampled)⟩
  have hrepeats (hs : c.Repeats w) : standard ≠ daylight ∧ out.value.reading =
      (if c.saved ≠ 0 ∧ daylight < standard then w - (standard - daylight) else w) ∧
        out.value.reading - out.value.offset =
          if c.saved ≠ 0 then w - max standard daylight else w - c.standardOffset :=
    ⟨((SystemClock.repeats_iff hd).mp hs).1, hreading.trans (hs.shown_settled hd hsampled).2,
      hoffset.trans (hs.shown_settled hd hsampled).1⟩
  refine ⟨here, w, hhere, hw, CalendarOffset.moves_of_move hw, fun hs => (hskips hs).2,
    fun hs => (hrepeats hs).2.1, ?_, ?_⟩
  · rintro ⟨hforward, hearlier⟩
    constructor
    · intro hs
      have hback := hskips hs
      rw [hforward hs] at hback
      grind
    · intro hs
      have hshown := hrepeats hs
      rw [(hearlier hs).1, (hearlier hs).2] at hshown
      grind
  · rintro ⟨hnever, hknown⟩
    refine ⟨fun hs => absurd hs hnever, fun hs => ?_⟩
    obtain ⟨hne, hshown, hsettled⟩ := hrepeats hs
    have hcases := hknown hs
    constructor <;> grind

/-- Surroundings with daylight time from October to April. -/
def southern : Surroundings :=
  ⟨.naive 0, .ofText "AEST-10AEDT,M10.1.0,M4.1.0/3".toList (Reading.midnight ⟨2016, 1, 1⟩)⟩

theorem southern_daylight : southern.system.rule.daylight =
    some ⟨⟨11 * Reading.hour, "AEDT"⟩, ⟨.weekday 10 1 0, 2 * Reading.hour⟩,
      ⟨.weekday 4 1 0, 3 * Reading.hour⟩⟩ := by
  decide +kernel

theorem southern_sampled : southern.system.Sampled :=
  SystemClock.sampled_ofRule _ _

def nextDay (start : Moment) : TemporalSpec :=
  ⟨⟨0, 0, 1⟩, .zero, some start, none⟩

/-- Half past two on 3 April 2016 occurs twice and is read in its first pass. -/
theorem resolve_system_zone_repeated :
    let start : Moment := ⟨Reading.midnight ⟨2016, 4, 1⟩ + 930 * Reading.minute, false, .stamped 0⟩
    let w := Reading.midnight ⟨2016, 4, 3⟩ + 150 * Reading.minute
    ∃ out, (nextDay start).resolve .system southern = .ok out ∧ southern.system.Repeats w ∧
      out.value.reading = w := by
  intro start w
  have hmoment : (nextDay start).moment .system southern =
      .ok ⟨w, false, .system southern.system⟩ := by
    decide +kernel
  have hrepeats : southern.system.Repeats w :=
    (SystemClock.repeats_iff southern_daylight).mpr (by decide +kernel)
  obtain ⟨here, w', hhere, hmove, -, -, hshown, -⟩ :=
    resolve_system_zone southern_daylight southern_sampled rfl rfl (resolve_of_moment hmoment)
  have hstart : (nextDay start).here .system southern =
      .ok ⟨w - Reading.dayLength, false, .system southern.system⟩ := by
    decide +kernel
  obtain rfl := Except.ok.inj (hstart.symm.trans hhere)
  have hw : (nextDay start).calendar.move (w - Reading.dayLength) = .ok w := by
    decide
  obtain rfl := Except.ok.inj (hw.symm.trans hmove)
  have hahead : ¬ (southern.system.saved ≠ 0 ∧
      11 * Reading.hour < southern.system.rule.standard.offset) := by
    decide +kernel
  exact ⟨_, resolve_of_moment hmoment, hrepeats, (hshown hrepeats).trans (if_neg hahead)⟩

/-- Half past two on 2 October 2016 is skipped and becomes half past one. -/
theorem resolve_system_zone_backward :
    let start : Moment := ⟨Reading.midnight ⟨2016, 9, 30⟩ + 990 * Reading.minute, false, .stamped 0⟩
    let w := Reading.midnight ⟨2016, 10, 2⟩ + 150 * Reading.minute
    Moment.ofStart "2016-09-30T16:30Z".toList = .ok start ∧
      ∃ out here, (nextDay start).resolve .system southern = .ok out ∧
        (nextDay start).here .system southern = .ok here ∧
        (nextDay start).calendar.move here.reading = .ok w ∧ southern.system.Skips w ∧
        out.value.reading = w - southern.system.saved ∧
        out.value.reading ≠ w + southern.system.saved := by
  intro start w
  have hmoment : (nextDay start).moment .system southern =
      .ok ⟨w - Reading.hour, false, .system southern.system⟩ := by
    decide +kernel
  have hskips : southern.system.Skips w :=
    (SystemClock.skips_iff southern_daylight).mpr (by decide +kernel)
  refine ⟨by decide, _, ⟨w - Reading.dayLength, false, .system southern.system⟩,
    resolve_of_moment hmoment, ?_, ?_, hskips, ?_, ?_⟩
  · decide +kernel
  · decide
  · decide +kernel
  · decide +kernel

end FixtureKeywords.TemporalSpec
