import FixtureKeywords.Proofs.Temporal.Offset
import FixtureKeywords.Proofs.Zone.Basic
import FixtureKeywords.Temporal.Spec
import FixtureKeywords.Zone.Recorded

/-!
# Datetimes of requests

A request that succeeds passes through three readings of the zone: the start's, the
reading that the calendar offset moves it to, and the result's. Between the second
and the third lies an instant, the one that the moved reading is taken for in its
first pass.

Where the zone has a history this gives the law of wall clocks: the moved reading
is taken for its first instant, or is moved forward over the gap that skips it, and
then the clock offset passes.

Without a calendar offset the start's own reading is taken in its first pass. So the
time that passes is what was asked for, except for a start in its second pass: such a
result is early by the difference between the two offsets of the reading.
-/
namespace FixtureKeywords.TemporalSpec
variable {spec : TemporalSpec} {policy : ZonePolicy} {around : Surroundings}

theorem moment_of_resolve {out : Logged Moment} (h : spec.resolve policy around = .ok out) :
    spec.moment policy around = .ok out.value := by
  unfold resolve at h
  split at h
  next m hm =>
    obtain rfl := Except.ok.inj h
    exact hm
  next => split at h <;> simp at h

theorem resolve_of_moment {m : Moment} (h : spec.moment policy around = .ok m) :
    spec.resolve policy around = .ok ⟨spec.record policy around m, m⟩ := by
  rw [resolve, h]

/-- A start that tells its zone stays as it is in it, or is brought to the zone of the result. -/
theorem here_cases {start here : Moment} (hstart : spec.origin around = .aware start)
    (h : spec.here policy around = .ok here) :
    start.zone = spec.target policy around ∧ here = start ∨
      start.inZone (spec.target policy around) = .ok here := by
  unfold TemporalSpec.here at h
  split at h
  next m hzone hm =>
    obtain rfl := ClockReading.aware.inj (hstart.symm.trans hm)
    refine .inl ⟨?_, (Except.ok.inj h).symm⟩
    simp [target, hzone, hstart, ClockReading.zone?]
  next =>
    rw [hstart] at h
    exact .inr h

theorem moment_eq_ok {m : Moment} (hz : (spec.target policy around).WellSpaced)
    (h : spec.moment policy around = .ok m) :
    ∃ here w, spec.here policy around = .ok here ∧
      spec.calendar.move here.reading = .ok w ∧
      let settled := w - (spec.target policy around).offsetAt w false
      (spec.target policy around).atInstant (settled + spec.clock.micros) = .ok m ∧
        m.zone = spec.target policy around ∧
        m.instant = .ok (settled + spec.clock.micros) := by
  obtain ⟨here, hhere, h⟩ := Outcome.bind_eq_ok.mp h
  obtain ⟨settled, hsettled, h⟩ := Outcome.bind_eq_ok.mp h
  obtain ⟨w, hw, hsettled⟩ := Outcome.bind_eq_ok.mp hsettled
  obtain ⟨t, ht, hsettled⟩ := Outcome.bind_eq_ok.mp hsettled
  obtain ⟨t', ht', h⟩ := Outcome.bind_eq_ok.mp h
  obtain ⟨u, hu, h⟩ := Outcome.bind_eq_ok.mp h
  obtain ⟨rfl, hrange⟩ := Moment.instant_eq_ok ht
  rw [Zone.instant_of_atInstant hz hsettled] at ht'
  obtain ⟨-, rfl⟩ := Reading.checked_eq_ok.mp ht'
  obtain ⟨hrange', rfl⟩ := Reading.checked_eq_ok.mp hu
  refine ⟨here, w, hhere, hw, h, (Zone.zone_of_atInstant h).1, ?_⟩
  rw [Zone.instant_of_atInstant hz h]
  exact Reading.checked_eq_ok.mpr ⟨hrange', rfl⟩

section Requests
variable {base : TemporalSpec} {adds : List (TemporalUnit × Int)} {start : Moment}
  {out : Logged Moment}

/-- The law of wall clocks. The start's reading in the zone is moved by the months and the
days that were added up. The moved reading is taken for its first instant, or, if it is
skipped, for the first instant that shows it moved forward by what is skipped. The result
is what the zone shows when the hours and minutes that were added up have passed. -/
theorem resolve_wall_clock {history : History} (hbase : Totals.ofSpec base = ⟨0, 0, 0⟩)
    (hadds : base.addAll adds = .ok spec) (hstart : spec.origin around = .aware start)
    (hz : (spec.target policy around).history? = some history) (hh : history.WellSpaced)
    (h : spec.resolve policy around = .ok out) :
    ∃ here w : Reading, ∃ settled final : Instant,
      (start.zone = spec.target policy around → here = start.reading) ∧
      (start.zone ≠ spec.target policy around →
        ∃ t, start.instant = .ok t ∧ here = history.shown t) ∧
      CalendarOffset.Moves
        (12 * amountOf (.calendar .year) adds + amountOf (.calendar .month) adds)
        (7 * amountOf (.calendar .week) adds + amountOf (.calendar .day) adds) here w ∧
      History.Settles history.shown history.changes w settled ∧
      final = settled +
        (60 * amountOf (.clock .hour) adds + amountOf (.clock .minute) adds) * Reading.minute ∧
      out.value.zone = spec.target policy around ∧ out.value.reading = history.shown final ∧
      out.value.instant = .ok final := by
  have hz' : (spec.target policy around).WellSpaced := by
    intro other hother
    rw [hz] at hother
    exact Option.some.inj hother ▸ hh
  obtain ⟨here, w, hhere, hw, hlast, hzone, hinstant⟩ := moment_eq_ok hz' (moment_of_resolve h)
  obtain ⟨hmonths, hdays, hminutes⟩ := Totals.mk.inj (totals_of_addAll hbase hadds)
  rw [Zone.offsetAt_of_history hz, ClockOffset.micros, hminutes] at hlast hinstant
  refine ⟨here.reading, w, _, _, ?_, ?_, ?_, hh.settles w, rfl, hzone, ?_, hinstant⟩
  · intro hsame
    rcases here_cases hstart hhere with ⟨-, rfl⟩ | hhere
    · rfl
    · exact Moment.reading_inZone_self hz hsame hhere
  · intro hother
    have hhere := (here_cases hstart hhere).resolve_left fun hsame => hother hsame.1
    rw [Moment.inZone_of_ne hother] at hhere
    obtain ⟨t, ht, hhere⟩ := Outcome.bind_eq_ok.mp hhere
    refine ⟨t, ht, ?_⟩
    rw [Zone.atInstant_of_history hz] at hhere
    obtain ⟨r, hr, rfl⟩ := Outcome.map_eq_ok.mp hhere
    exact (Reading.checked_eq_ok.mp hr).2
  · have hmoves := CalendarOffset.moves_of_move hw
    rwa [hmonths, hdays] at hmoves
  · rw [Zone.atInstant_of_history hz] at hlast
    obtain ⟨r, hr, hlast⟩ := Outcome.map_eq_ok.mp hlast
    rw [← hlast]
    exact (Reading.checked_eq_ok.mp hr).2

/-- In Tokyo the first hour of 6 May 1951 was skipped. A day after half past midnight it is
half past one, and an hour later half past two. -/
theorem resolve_wall_clock_skipped :
    let history := Atlas.tokyo.history
    let zone := Zone.region "Asia/Tokyo" history
    let start : Moment :=
      ⟨Reading.midnight ⟨1951, 5, 5⟩ + 30 * Reading.minute, false, .stamped (9 * Reading.hour)⟩
    let around : Surroundings := ⟨.naive 0, .universal⟩
    ∃ spec out, TemporalSpec.addAll ⟨.zero, .zero, some start, some zone⟩
        [(.calendar .day, 1), (.clock .hour, 1)] = .ok spec ∧
      spec.resolve .system around = .ok out ∧
      out.value.reading = Reading.midnight ⟨1951, 5, 6⟩ + 150 * Reading.minute ∧
      ∃ here w : Reading, ∃ settled : Instant,
        (∃ t, start.instant = .ok t ∧ here = history.shown t) ∧
        CalendarOffset.Moves 0 1 here w ∧
        History.Settles history.shown history.changes w settled ∧
        out.value.reading = history.shown (settled + Reading.hour) ∧
        out.value.instant = .ok (settled + Reading.hour) := by
  intro history zone start around
  obtain ⟨spec, hspec⟩ : ∃ spec : TemporalSpec, spec =
    ⟨⟨0, 0, 1⟩, ⟨60⟩, some start, some zone⟩ := ⟨_, rfl⟩
  have hadds : TemporalSpec.addAll ⟨.zero, .zero, some start, some zone⟩
      [(.calendar .day, 1), (.clock .hour, 1)] = .ok spec := by
    rw [hspec]
    rfl
  have hmoment : spec.moment .system around =
      .ok ⟨Reading.midnight ⟨1951, 5, 6⟩ + 150 * Reading.minute, false, zone⟩ := by
    rw [hspec]
    decide
  have hresolve := resolve_of_moment hmoment
  have hstart : spec.origin around = .aware start := by
    rw [hspec]
    rfl
  have hz : (spec.target .system around).history? = some history := by
    rw [hspec]
    rfl
  obtain ⟨here, w, settled, final, -, hother, hmoves, hsettles, rfl, -, hshown, hinstant⟩ :=
    resolve_wall_clock rfl hadds hstart hz (by decide) hresolve
  refine ⟨spec, _, hadds, hresolve, rfl, here, w, settled, hother ?_, hmoves, hsettles, hshown,
    hinstant⟩
  rw [hspec]
  exact fun heq => by cases heq

/-- The law of passing time. With hours and minutes only, the result is later than the
start by what they add up to and by the difference between the offset of the start's
reading in the zone and its offset in the first pass. So exactly the time that was asked
for has passed if and only if these offsets are equal. -/
theorem resolve_elapsed (hbase : Totals.ofSpec base = ⟨0, 0, 0⟩)
    (hadds : base.addAll adds = .ok spec) (hclock : ∀ add ∈ adds, ∃ unit, add.1 = .clock unit)
    (hstart : spec.origin around = .aware start)
    (hz : (spec.target policy around).WellSpaced) (h : spec.resolve policy around = .ok out) :
    ∃ here : Moment, ∃ t elapsed : Int,
      spec.here policy around = .ok here ∧
      elapsed =
        (60 * amountOf (.clock .hour) adds + amountOf (.clock .minute) adds) * Reading.minute ∧
      (spec.target policy around).atInstant t = .ok out.value ∧ out.value.instant = .ok t ∧
      t = start.reading - start.offset + elapsed +
        (here.offset - (spec.target policy around).offsetAt here.reading false) ∧
      (t = start.reading - start.offset + elapsed ↔
        here.offset = (spec.target policy around).offsetAt here.reading false) := by
  obtain ⟨here, w, hhere, hw, hlast, hzone, hinstant⟩ := moment_eq_ok hz (moment_of_resolve h)
  obtain ⟨hmonths, hdays, hminutes⟩ := Totals.mk.inj (totals_of_addAll hbase hadds)
  have hcalendar (unit : CalendarUnit) : amountOf (.calendar unit) adds = 0 := by
    refine amountOf_eq_zero fun add hadd heq => ?_
    obtain ⟨clock, hunit⟩ := hclock add hadd
    rw [hunit] at heq
    cases heq
  rw [hcalendar, hcalendar] at hmonths hdays
  obtain rfl := CalendarOffset.eq_of_move_zero hmonths hdays hw
  have hsame : here.reading - here.offset = start.reading - start.offset := by
    rcases here_cases hstart hhere with ⟨-, rfl⟩ | hhere
    · rfl
    · exact Moment.sub_offset_inZone hz hhere
  rw [ClockOffset.micros, hminutes] at hlast hinstant
  refine ⟨here, _, _, hhere, rfl, hlast, hinstant, ?_, ?_⟩ <;> grind

end Requests

/-- In Tokyo the first hour of 9 September 1951 was repeated, and here is its middle in the
second pass. -/
def secondPass : Moment :=
  ⟨Reading.midnight ⟨1951, 9, 9⟩ + 30 * Reading.minute, true,
    .region "Asia/Tokyo" Atlas.tokyo.history⟩

/-- An hour after the second pass is the second pass again. -/
theorem resolve_elapsed_second_pass :
    let around : Surroundings := ⟨.naive 0, .universal⟩
    ∃ spec out, TemporalSpec.addAll ⟨.zero, .zero, some secondPass, none⟩
        [(.clock .hour, 2), (.clock .minute, -60)] = .ok spec ∧
      spec.resolve .start around = .ok out ∧
      ∃ t, out.value.instant = .ok t ∧
        t = secondPass.reading - secondPass.offset + Reading.hour +
          (9 * Reading.hour - 10 * Reading.hour) := by
  intro around
  obtain ⟨spec, hspec⟩ : ∃ spec : TemporalSpec, spec =
    ⟨.zero, ⟨60⟩, some secondPass, none⟩ := ⟨_, rfl⟩
  have hadds : TemporalSpec.addAll ⟨.zero, .zero, some secondPass, none⟩
      [(.clock .hour, 2), (.clock .minute, -60)] = .ok spec := by
    rw [hspec]
    rfl
  have htarget : spec.target .start around = secondPass.zone := by
    rw [hspec]
    rfl
  have hmoment : spec.moment .start around = .ok secondPass := by
    rw [hspec]
    decide
  have hresolve := resolve_of_moment hmoment
  have hspaced : (spec.target .start around).WellSpaced := by
    rw [htarget]
    intro history hhistory
    obtain rfl := Option.some.inj hhistory
    decide
  have hstart : spec.origin around = .aware secondPass := by
    rw [hspec]
    rfl
  obtain ⟨here, t, elapsed, hhere, rfl, -, hinstant, ht, -⟩ :=
    resolve_elapsed rfl hadds (by simp) hstart hspaced hresolve
  refine ⟨spec, _, hadds, hresolve, t, hinstant, ?_⟩
  obtain rfl : here = secondPass := by
    rw [hspec] at hhere
    exact (Except.ok.inj hhere).symm
  rw [ht, htarget]
  decide

/-- Without any offset the second pass becomes the first pass, an hour earlier. -/
theorem resolve_second_pass_early :
    let around : Surroundings := ⟨.naive 0, .universal⟩
    Moment.ofStart "1951-09-09T00:30+09:00[Asia/Tokyo]".toList = .ok secondPass ∧
      ∃ out t, TemporalSpec.resolve ⟨.zero, .zero, some secondPass, none⟩ .start around = .ok out ∧
        secondPass.instant = .ok t ∧ out.value.instant = .ok (t - Reading.hour) := by
  intro around
  have hmoment : TemporalSpec.moment ⟨.zero, .zero, some secondPass, none⟩ .start around =
      .ok ⟨secondPass.reading, false, secondPass.zone⟩ := by
    decide
  refine ⟨by decide, _, secondPass.reading - 9 * Reading.hour,
    resolve_of_moment hmoment, ?_, ?_⟩
  · decide
  · decide

end FixtureKeywords.TemporalSpec
