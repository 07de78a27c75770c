import FixtureKeywords.Proofs.Temporal.Resolve
import FixtureKeywords.Proofs.Text.Numeral
import FixtureKeywords.Proofs.Text.Significant

/-!
# Calendar offsets by their totals

However years, months, weeks and days are added, the request depends on two sums only: the
months, a year being twelve of them, and the days, a week being seven.

Years and months are kept apart, and the months are carried toward zero after every
addition. So additions with the same sum may end in different pairs, such as no year and
six months, or a year less six months. But at most eleven months are left over on either
side, so a date that is moved by such a pair turns the year at most once, and it gets to
the month that is as many months away as the pair comes to.

An addition of months has to be within the range of double-precision numbers. Beyond that it
is refused; all other additions of calendar units are accepted.
-/
namespace FixtureKeywords
open Text

namespace CalendarOffset
variable {o : CalendarOffset}

/-- The date some years and months later, years and months moved apart. A month beyond
either end of the year turns the year once. -/
def shift (o : CalendarOffset) (d : Date) : Date :=
  let year := d.year + o.years
  let month := d.month + o.months
  let (year, month) :=
    if 12 < month then (year + 1, month - 12)
    else if month < 1 then (year - 1, month + 12)
    else (year, month)
  ⟨year, month.toNat, min d.day (Date.monthLength year month.toNat)⟩

theorem addMonths_totalMonths (hmonths : o.months.natAbs ≤ 11) {d : Date} (hd : d.IsProper) :
    d.addMonths o.totalMonths = o.shift d := by
  obtain ⟨hfirst, hlast, -, -⟩ := hd
  -- A count of months has one year and one month, so each branch only has to name its own.
  have hsplit (year month : Int)
      (hyear : (12 * d.year + (d.month - 1 : Int) + o.totalMonths) / 12 = year)
      (hmonth : (12 * d.year + (d.month - 1 : Int) + o.totalMonths) % 12 + 1 = month) :
      d.addMonths o.totalMonths =
        ⟨year, month.toNat, min d.day (Date.monthLength year month.toNat)⟩ := by
    have hindex : ((12 * d.year + (d.month - 1 : Int) + o.totalMonths) % 12).toNat + 1 =
        month.toNat := by omega
    simp only [Date.addMonths, hyear, hindex]
  unfold totalMonths at hsplit ⊢
  unfold shift
  dsimp only
  split_ifs with hbeyond hbefore
  · exact hsplit _ _ (by omega) (by omega)
  · exact hsplit _ _ (by omega) (by omega)
  · exact hsplit _ _ (by omega) (by omega)

theorem add?_eq_none_iff {unit : CalendarUnit} {amount : Int} :
    o.add? unit amount = none ↔ unit = .month ∧ doubleLimit ≤ amount.natAbs := by
  have hlimit := lt_doubleLimit
  have hfits : (!fitsDouble amount) = true ↔ doubleLimit ≤ amount.natAbs := by
    rw [Bool.not_eq_true', ← Bool.not_eq_true, fitsDouble_iff, not_lt]
  unfold add?
  simp only [hfits]
  split_ifs with h
  · exact iff_of_true rfl ⟨h.1, h.2.2⟩
  · refine iff_of_false (by simp) fun ⟨hunit, hlarge⟩ => h ⟨hunit, ?_, hlarge⟩
    omega

theorem months_of_add? {unit : CalendarUnit} {amount : Int} {sum : CalendarOffset}
    (h : o.add? unit amount = some sum) : sum.months.natAbs ≤ 11 := by
  unfold add? at h
  split_ifs at h
  obtain rfl := Option.some.inj h
  exact Nat.le_of_lt_succ (carry_months_lt _)

theorem exists_text? (hyears : o.years.natAbs < doubleLimit)
    (hmonths : o.months.natAbs < doubleLimit) (hdays : o.days.natAbs < doubleLimit) :
    ∃ t, o.text? = some t := by
  have hparts : ∀ part ∈ o.parts, part.2.natAbs < doubleLimit := by
    intro part hpart
    simp only [parts, List.mem_filter, List.mem_cons, List.not_mem_nil, or_false] at hpart
    rcases hpart.1 with rfl | rfl | rfl
    · exact hyears
    · exact hmonths
    · exact hdays
  obtain ⟨texts, htexts⟩ : ∃ texts, (o.parts.mapM fun part =>
      (signedSixDigits? part.2).bind fun written => some (part.1 ++ "=" ++ written)) =
        some texts := by
    apply Outcome.exists_mapM_eq_some
    intro part hpart
    have hfits := (fitsDouble_iff part.2).mpr (hparts part hpart)
    simp only [signedSixDigits?, hfits, if_true]
    exact ⟨_, rfl⟩
  refine ⟨"relativedelta(" ++ ", ".intercalate texts ++ ")", ?_⟩
  exact congrArg (Option.bind · fun texts =>
    some ("relativedelta(" ++ ", ".intercalate texts ++ ")")) htexts

end CalendarOffset

namespace TemporalSpec
variable {base spec : TemporalSpec} {adds : List (TemporalUnit × Int)}

def IsCalendarAdd (add : TemporalUnit × Int) : Prop :=
  ∃ unit, add.1 = .calendar unit ∧ (unit = .month → add.2.natAbs < doubleLimit)

theorem add_months_eq_error {amount : Int} (h : doubleLimit ≤ amount.natAbs) :
    spec.add (.calendar .month) amount =
      .error (ArgumentFault.offsetTooLarge amount "M").raised := by
  have hnone := (CalendarOffset.add?_eq_none_iff (o := spec.calendar)).mpr ⟨rfl, h⟩
  simp only [add, hnone, Option.map_none]
  rfl

/-- An addition of calendar units touches the calendar offset only, and leaves at most
eleven months over. -/
theorem add_calendar (spec : TemporalSpec) {add : TemporalUnit × Int} (h : IsCalendarAdd add) :
    ∃ calendar, spec.add add.1 add.2 = .ok { spec with calendar } ∧
      calendar.months.natAbs ≤ 11 := by
  obtain ⟨unit, hunit, hamount⟩ := h
  have hsome : spec.calendar.add? unit add.2 ≠ none := by
    rw [Ne, CalendarOffset.add?_eq_none_iff, not_and, not_le]
    exact hamount
  obtain ⟨calendar, hcalendar⟩ := Option.ne_none_iff_exists'.mp hsome
  refine ⟨calendar, ?_, CalendarOffset.months_of_add? hcalendar⟩
  rw [hunit]
  simp only [TemporalSpec.add, hcalendar, Option.map_some]

theorem addAll_calendar (hadds : ∀ add ∈ adds, IsCalendarAdd add)
    (hmonths : spec.calendar.months.natAbs ≤ 11) :
    ∃ calendar, spec.addAll adds = .ok { spec with calendar } ∧ calendar.months.natAbs ≤ 11 := by
  induction adds generalizing spec with
  | nil => exact ⟨spec.calendar, rfl, hmonths⟩
  | cons add adds ih =>
      obtain ⟨middle, hmiddle, hleft⟩ := add_calendar spec (hadds add List.mem_cons_self)
      obtain ⟨calendar, hcalendar, hleft'⟩ := @ih { spec with calendar := middle }
        (fun a ha => hadds a (List.mem_cons_of_mem _ ha)) hleft
      refine ⟨calendar, ?_, hleft'⟩
      rw [addAll, hmiddle]
      exact hcalendar

/-- Requests whose calendar offsets come to the same totals have the same result. -/
theorem moment_congr (base : TemporalSpec) {a b : CalendarOffset}
    (hmonths : a.totalMonths = b.totalMonths) (hdays : a.days = b.days) (policy : ZonePolicy)
    (around : Surroundings) :
    { base with calendar := a }.moment policy around =
      { base with calendar := b }.moment policy around := by
  have hmove (r : Reading) : a.move r = b.move r := by
    simp only [CalendarOffset.move, hmonths, hdays]
  have hsettle (zone : Zone) (m : Moment) : settle a zone m = settle b zone m := by
    simp only [settle, hmove]
  simp only [moment, hsettle]
  rfl

theorem collected (hbase : base.calendar = .zero) (hadds : ∀ add ∈ adds, IsCalendarAdd add) :
    ∃ calendar, base.addAll adds = .ok { base with calendar } ∧ calendar.months.natAbs ≤ 11 ∧
      calendar.totalMonths = (Totals.ofAdds adds).months ∧
      calendar.days = (Totals.ofAdds adds).days := by
  have hmonths : base.calendar.months.natAbs ≤ 11 := by
    rw [hbase]
    decide
  obtain ⟨calendar, hcalendar, hleft⟩ := addAll_calendar hadds hmonths
  obtain ⟨-, -, htotals⟩ := addAll_eq_ok hcalendar
  simp only [Totals.ofSpec, Totals.plus, Totals.mk.injEq, hbase] at htotals
  obtain ⟨hmonths, hdays, -⟩ := htotals
  refine ⟨calendar, hcalendar, hleft, ?_, ?_⟩
  · rw [hmonths]
    simp [CalendarOffset.zero, CalendarOffset.totalMonths]
  · rw [hdays]
    simp [CalendarOffset.zero]

/-- Requests with the same moment have it as their result, or fail both. -/
theorem resolve_congr {other : TemporalSpec} {policy : ZonePolicy} {around : Surroundings}
    (h : spec.moment policy around = other.moment policy around) :
    (∃ out out', spec.resolve policy around = .ok out ∧ other.resolve policy around = .ok out' ∧
      out'.value = out.value) ∨
    ∃ fault fault', spec.resolve policy around = .error fault ∧
      other.resolve policy around = .error fault' := by
  cases hmoment : spec.moment policy around with
  | ok m =>
      left
      exact ⟨_, _, resolve_of_moment hmoment, resolve_of_moment (h ▸ hmoment), rfl⟩
  | error reason =>
      right
      have hfails {s : TemporalSpec} (hs : s.moment policy around = .error reason) :
          ∃ fault, s.resolve policy around = .error fault := by
        cases hout : s.resolve policy around with
        | ok out =>
            have hok := moment_of_resolve hout
            rw [hs] at hok
            cases hok
        | error fault => exact ⟨fault, rfl⟩
      obtain ⟨fault, hfault⟩ := hfails hmoment
      obtain ⟨fault', hfault'⟩ := hfails (h ▸ hmoment)
      exact ⟨fault, fault', hfault, hfault'⟩

/-- A request fails with its offsets and its start if they can be written. -/
theorem resolve_eq_error {o : CalendarOffset} {policy : ZonePolicy} {around : Surroundings}
    {fault : Fault} (hleft : o.months.natAbs ≤ 11)
    (hmonths : o.totalMonths.natAbs + 11 < 12 * doubleLimit) (hdays : o.days.natAbs < doubleLimit)
    (h : { base with calendar := o }.resolve policy around = .error fault) :
    ∃ calendar, fault =
      .argument (.resultOutOfReach calendar base.clock.text (base.origin around).iso) := by
  have hlimit := lt_doubleLimit
  have hyears : o.years.natAbs < doubleLimit := by
    unfold CalendarOffset.totalMonths at hmonths
    omega
  obtain ⟨calendar, hcalendar⟩ := CalendarOffset.exists_text? hyears (by omega) hdays
  refine ⟨calendar, ?_⟩
  unfold resolve at h
  split at h
  · simp at h
  · rw [hcalendar] at h
    exact (Except.error.inj h).symm

/-- Calendar offsets collapse to their totals. Every addition is accepted but that of months
beyond the range of a double-precision number. After any number of additions at most eleven
months are left over, years and months come to the months that were added, and days to the
days; and moving years and months apart is moving by what they come to. Additions with the
same totals have the same result, or fail all of them, as out of reach if the totals can be
written. -/
theorem resolve_totals (hbase : base.calendar = .zero) :
    (∀ (spec : TemporalSpec) (unit : CalendarUnit) (amount : Int),
      ¬ IsCalendarAdd (.calendar unit, amount) →
      ∃ fault, spec.add (.calendar unit) amount = .error fault ∧
        (amount.natAbs < 10 ^ 4300 → fault = .argument (.offsetTooLarge amount "M"))) ∧
    ∀ adds : List (TemporalUnit × Int), (∀ add ∈ adds, IsCalendarAdd add) →
    (∀ front back, adds = front ++ back → ∃ calendar,
      base.addAll front = .ok { base with calendar } ∧ calendar.months.natAbs ≤ 11 ∧
      12 * calendar.years + calendar.months = (Totals.ofAdds front).months ∧
      calendar.days = (Totals.ofAdds front).days ∧
      ∀ d : Date, d.IsProper → d.addMonths calendar.totalMonths = calendar.shift d) ∧
    ∀ others, (∀ add ∈ others, IsCalendarAdd add) →
      (Totals.ofAdds others).months = (Totals.ofAdds adds).months →
      (Totals.ofAdds others).days = (Totals.ofAdds adds).days →
      ∃ spec other, base.addAll adds = .ok spec ∧ base.addAll others = .ok other ∧
        ∀ policy around,
          (∃ out out', spec.resolve policy around = .ok out ∧
            other.resolve policy around = .ok out' ∧ out'.value = out.value) ∨
          ∃ fault fault', spec.resolve policy around = .error fault ∧
            other.resolve policy around = .error fault' ∧
            ((Totals.ofAdds adds).months.natAbs + 11 < 12 * doubleLimit →
              (Totals.ofAdds adds).days.natAbs < doubleLimit →
              ∀ failure ∈ [fault, fault'], ∃ calendar, failure = .argument
                (.resultOutOfReach calendar base.clock.text (base.origin around).iso)) := by
  constructor
  · intro spec unit amount hrefused
    have hlarge : unit = .month ∧ doubleLimit ≤ amount.natAbs := by
      simpa [IsCalendarAdd] using hrefused
    obtain ⟨rfl, hlarge⟩ := hlarge
    refine ⟨_, add_months_eq_error hlarge, fun hshort => ?_⟩
    have hall : (ArgumentFault.offsetTooLarge amount "M").IsShort := by
      intro n hn
      rw [List.mem_singleton.mp hn, Text.digitLimit]
      exact hshort
    exact ArgumentFault.raised_of_isShort hall
  intro adds hadds
  constructor
  · rintro front back rfl
    obtain ⟨calendar, hcalendar, hleft, hmonths, hdays⟩ :=
      collected hbase fun add hadd => hadds add (List.mem_append_left _ hadd)
    exact ⟨calendar, hcalendar, hleft, hmonths, hdays,
      fun _ => CalendarOffset.addMonths_totalMonths hleft⟩
  · intro others hothers hsameMonths hsameDays
    obtain ⟨a, ha, haleft, hamonths, hadays⟩ := collected hbase hadds
    obtain ⟨b, hb, hbleft, hbmonths, hbdays⟩ := collected hbase hothers
    rw [hsameMonths] at hbmonths
    rw [hsameDays] at hbdays
    refine ⟨_, _, ha, hb, fun policy around => ?_⟩
    have hmoment := moment_congr base (hamonths.trans hbmonths.symm) (hadays.trans hbdays.symm)
      policy around
    rcases resolve_congr hmoment with hresult | ⟨fault, fault', hfault, hfault'⟩
    · exact Or.inl hresult
    · refine Or.inr ⟨fault, fault', hfault, hfault', fun hmonths hdays failure hfailure => ?_⟩
      rcases List.mem_pair.mp hfailure with rfl | rfl
      · rw [← hamonths] at hmonths
        rw [← hadays] at hdays
        exact resolve_eq_error haleft hmonths hdays hfault
      · rw [← hbmonths] at hmonths
        rw [← hbdays] at hdays
        exact resolve_eq_error hbleft hmonths hdays hfault'

/-- A year less six months is another offset than six months, and leads to the same day: six
months after 31 August it is 29 February in a leap year. -/
theorem resolve_totals_mixed_signs :
    let start : Moment :=
      ⟨Reading.midnight ⟨2015, 8, 31⟩ + 18 * Reading.hour, false, .stamped (-5 * Reading.hour)⟩
    let base : TemporalSpec := ⟨.zero, ⟨90⟩, some start, none⟩
    let around : Surroundings := ⟨.naive 0, .universal⟩
    ∃ spec other, base.addAll [(.calendar .month, 6)] = .ok spec ∧
      base.addAll [(.calendar .year, 1), (.calendar .month, -6)] = .ok other ∧
      spec.calendar = ⟨0, 6, 0⟩ ∧ other.calendar = ⟨1, -6, 0⟩ ∧
      ∃ out out', spec.resolve .start around = .ok out ∧ other.resolve .start around = .ok out' ∧
        out'.value = out.value ∧
        out.value.reading = Reading.midnight ⟨2016, 2, 29⟩ + 1170 * Reading.minute := by
  intro start base around
  have hsmall := lt_doubleLimit
  have hspec : base.addAll [(.calendar .month, 6)] = .ok { base with calendar := ⟨0, 6, 0⟩ } := rfl
  have hother : base.addAll [(.calendar .year, 1), (.calendar .month, -6)] =
      .ok { base with calendar := ⟨1, -6, 0⟩ } := rfl
  have hmoment : { base with calendar := ⟨0, 6, 0⟩ }.moment .start around =
      .ok ⟨Reading.midnight ⟨2016, 2, 29⟩ + 1170 * Reading.minute, false, start.zone⟩ := by
    decide
  obtain ⟨-, htotals⟩ := @resolve_totals base rfl
  obtain ⟨-, hsame⟩ := htotals [(.calendar .month, 6)] (by
    intro add hadd
    obtain rfl := List.mem_singleton.mp hadd
    exact ⟨.month, rfl, fun _ => by simp; omega⟩)
  obtain ⟨spec, other, hspec', hother', hresult⟩ :=
    hsame [(.calendar .year, 1), (.calendar .month, -6)] (by
      intro add hadd
      rcases List.mem_pair.mp hadd with rfl | rfl
      · exact ⟨.year, rfl, nofun⟩
      · exact ⟨.month, rfl, fun _ => by simp; omega⟩) (by decide) (by decide)
  obtain rfl := Except.ok.inj (hspec.symm.trans hspec')
  obtain rfl := Except.ok.inj (hother.symm.trans hother')
  refine ⟨_, _, hspec, hother, rfl, rfl, ?_⟩
  rcases hresult .start around with ⟨out, out', hout, hout', hvalue⟩ | ⟨fault, -, hfault, -⟩
  · obtain rfl := Except.ok.inj ((resolve_of_moment hmoment).symm.trans hout)
    exact ⟨_, out', hout, hout', hvalue, rfl⟩
  · cases (resolve_of_moment hmoment).symm.trans hfault

/-- So many months that no double-precision number comes near them are refused. -/
theorem add_months_refused :
    TemporalSpec.empty.add (.calendar .month) (10 ^ 309) =
      .error (.argument (.offsetTooLarge (10 ^ 309) "M")) := by
  have hshort : (ArgumentFault.offsetTooLarge (10 ^ 309) "M").IsShort :=
    List.forall_mem_singleton.mpr (by decide +kernel)
  rw [← ArgumentFault.raised_of_isShort hshort]
  exact add_months_eq_error (by decide +kernel)

end TemporalSpec

end FixtureKeywords
