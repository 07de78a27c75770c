import FixtureKeywords.Proofs.Calendar.Date
import FixtureKeywords.Proofs.Outcome
import FixtureKeywords.Zone.SystemClock
import Mathlib.Order.Bounds.Basic

/-!
# Readings and instants of the system clock

A reading is tried at two instants: as one of standard time, and as one of daylight
time, earlier by the time saved. It counts as daylight time if either of them keeps
daylight time. So a reading that occurs twice is taken for the earlier instant, and
a reading that is skipped is taken for the earlier one too, which the clock then
shows on standard time.

Standard time is here what was further west when the clock was set up. Where the rule
itself calls the other half of the year its standard time, the clock takes either half
for the other one. And where both looks at the rule fell into the same half the clock
knows one offset only: a reading is taken for what it is at this offset, and stays as
it is.
-/
namespace FixtureKeywords.SystemClock
variable {c : SystemClock} {d : Daylight} {t : Instant} {r : Reading} {second : Bool}

/-- Whether the rule keeps its daylight time at an instant. -/
def daylightAt (c : SystemClock) (t : Instant) : Bool :=
  c.rule.inDaylight t

/-- What the clock was told when it was set up was observed at some instants. -/
def Sampled (c : SystemClock) : Prop :=
  ∃ first middle, c.january = c.observanceAt first ∧ c.july = c.observanceAt middle

theorem sampled_ofRule (rule : YearRule) (now : Instant) : (ofRule rule now).Sampled :=
  ⟨_, _, rfl, rfl⟩

/-- No instant is shown as the reading. -/
def Skips (c : SystemClock) (r : Reading) : Prop :=
  ∀ t, t + (c.observanceAt t).offset ≠ r

/-- Two instants are shown as the reading. -/
def Repeats (c : SystemClock) (r : Reading) : Prop :=
  ∃ t t', t < t' ∧ t + (c.observanceAt t).offset = r ∧ t' + (c.observanceAt t').offset = r

theorem offset_observanceAt (hd : c.rule.daylight = some d) (t : Instant) :
    (c.observanceAt t).offset =
      if c.daylightAt t then d.observance.offset else c.rule.standard.offset := by
  simp only [observanceAt, YearRule.observanceAt, hd]
  exact apply_ite Observance.offset _ _ _

theorem standardOffset_eq (c : SystemClock) :
    c.standardOffset = min c.january.offset c.july.offset := by
  simp only [standardOffset, halves]
  split_ifs <;> grind

theorem saved_eq (c : SystemClock) :
    c.saved = max c.january.offset c.july.offset - c.standardOffset := by
  rw [standardOffset_eq]
  simp only [saved, halves]
  split_ifs <;> grind

/-- A clock that knows two offsets knows those of the rule, the western one as standard time. -/
theorem Sampled.offsets (h : c.Sampled) (hd : c.rule.daylight = some d) (hsaved : c.saved ≠ 0) :
    c.standardOffset = min c.rule.standard.offset d.observance.offset ∧
      c.saved = max c.rule.standard.offset d.observance.offset - c.standardOffset := by
  obtain ⟨first, middle, hfirst, hmiddle⟩ := h
  have hjanuary := congrArg Observance.offset hfirst
  have hjuly := congrArg Observance.offset hmiddle
  rw [offset_observanceAt hd] at hjanuary hjuly
  rw [saved_eq, standardOffset_eq, hjanuary, hjuly] at hsaved ⊢
  split_ifs at hsaved ⊢ <;> grind

theorem standardInDaylight_add (c : SystemClock) (t : Instant) :
    c.standardInDaylight (t + c.standardOffset) = c.daylightAt t := by
  rw [standardInDaylight, daylightAt, Int.add_sub_cancel]

theorem offset_atReading (c : SystemClock) (r : Reading) (second : Bool) :
    (c.atReading r second).offset =
      c.standardOffset + (if c.inDaylight r second then c.saved else 0) := by
  simp only [atReading, standardOffset, saved]
  split_ifs <;> grind

theorem atInstant_eq_ok (h : c.atInstant t = .ok (r, second)) :
    c.hasAnswer r ∧ Reading.inRange r ∧
      r = t + c.standardOffset + (if c.daylightAt t then c.saved else 0) ∧
      second = (c.saved != 0 && c.isRepeated r && !c.daylightAt t) := by
  unfold atInstant at h
  split_ifs at h with hasked
  obtain ⟨standard, hstandard, h⟩ := Outcome.bind_eq_ok.mp h
  obtain ⟨shown, hshown, h⟩ := Outcome.bind_eq_ok.mp h
  split_ifs at h with hanswer
  obtain ⟨-, rfl⟩ := Reading.checked_eq_ok.mp hstandard
  obtain ⟨hrange, rfl⟩ := Reading.checked_eq_ok.mp hshown
  obtain ⟨rfl, rfl⟩ := Prod.mk.inj (Except.ok.inj h)
  simp only [Bool.not_eq_true', Bool.not_eq_false] at hanswer
  refine ⟨hanswer, hrange, ?_, ?_⟩
  · rw [standardInDaylight_add]
    by_cases hsaved : c.saved = 0
    · simp [hsaved]
    · cases c.daylightAt t <;> simp [hsaved]
  · rw [standardInDaylight_add]
    cases c.saved != 0 <;> simp

/-- The reading of an instant in its pass has the offset that it is shown with. -/
theorem sub_offset_of_atInstant (h : c.atInstant t = .ok (r, second)) :
    r - (c.atReading r second).offset = t := by
  obtain ⟨-, -, hr, hsecond⟩ := atInstant_eq_ok h
  have hstandard : c.standardInDaylight r = c.daylightAt (r - c.standardOffset) := rfl
  have hearlier : c.standardInDaylight (r - c.saved) =
      c.daylightAt (r - c.saved - c.standardOffset) := rfl
  have hday : c.inDaylight r second = (c.saved != 0 && c.daylightAt t) := by
    rw [inDaylight, hsecond, isRepeated, hstandard, hearlier]
    cases hday : c.daylightAt t with
    | true =>
        -- Tried as daylight time, the reading gives the instant back.
        have hback : r - c.saved - c.standardOffset = t := by
          simp only [hday, if_true] at hr
          grind
        rw [hback, hday]
        cases c.daylightAt (r - c.standardOffset) <;> simp
    | false =>
        have hback : r - c.standardOffset = t := by
          simp only [hday, Bool.false_eq_true, if_false] at hr
          grind
        rw [hback, hday]
        cases c.saved != 0 <;> cases c.daylightAt (r - c.saved - c.standardOffset) <;> simp
  rw [offset_atReading, hday]
  by_cases hsaved : c.saved = 0
  · simp only [hsaved, ite_self] at hr ⊢
    grind
  · simp only [bne_iff_ne.mpr hsaved, Bool.true_and]
    grind

theorem sub_offset_first (c : SystemClock) (r : Reading) :
    r - (c.atReading r false).offset =
      r - c.standardOffset -
        (if c.daylightAt (r - c.standardOffset) ∨ c.daylightAt (r - c.standardOffset - c.saved)
          then c.saved else 0) := by
  have hstandard : c.standardInDaylight r = c.daylightAt (r - c.standardOffset) := rfl
  have hearlier : c.standardInDaylight (r - c.saved) =
      c.daylightAt (r - c.standardOffset - c.saved) := by
    rw [standardInDaylight, daylightAt, Int.sub_sub, Int.sub_sub, Int.add_comm c.saved]
  rw [offset_atReading, inDaylight, isRepeated, hstandard, hearlier]
  by_cases hsaved : c.saved = 0
  · simp only [hsaved, ite_self]
    grind
  · cases c.daylightAt (r - c.standardOffset) <;>
      cases c.daylightAt (r - c.standardOffset - c.saved) <;> simp [hsaved] <;> grind

theorem settled_of_unknown (hsaved : c.saved = 0) (r : Reading) :
    r - (c.atReading r false).offset = r - c.standardOffset := by
  rw [sub_offset_first, hsaved, ite_self, Int.sub_zero]

section Rule
variable (hd : c.rule.daylight = some d)
include hd

/-- A reading is skipped if neither of the two instants that can show it does. -/
theorem skips_iff : c.Skips r ↔ c.rule.standard.offset ≠ d.observance.offset ∧
    c.daylightAt (r - max c.rule.standard.offset d.observance.offset) =
      decide (d.observance.offset < c.rule.standard.offset) ∧
    c.daylightAt (r - min c.rule.standard.offset d.observance.offset) =
      decide (c.rule.standard.offset < d.observance.offset) := by
  constructor
  · intro h
    have hfirst := h (r - max c.rule.standard.offset d.observance.offset)
    have hlast := h (r - min c.rule.standard.offset d.observance.offset)
    rw [offset_observanceAt hd] at hfirst hlast
    refine ⟨?_, ?_, ?_⟩ <;> grind
  · rintro ⟨hne, hfirst, hlast⟩ t ht
    rw [offset_observanceAt hd] at ht
    have htried : t = r - max c.rule.standard.offset d.observance.offset ∨
        t = r - min c.rule.standard.offset d.observance.offset := by grind
    rcases htried with rfl | rfl <;> grind

/-- A reading is repeated if both of the two instants that can show it do. -/
theorem repeats_iff : c.Repeats r ↔ c.rule.standard.offset ≠ d.observance.offset ∧
    c.daylightAt (r - max c.rule.standard.offset d.observance.offset) =
      decide (c.rule.standard.offset < d.observance.offset) ∧
    c.daylightAt (r - min c.rule.standard.offset d.observance.offset) =
      decide (d.observance.offset < c.rule.standard.offset) := by
  constructor
  · rintro ⟨t, t', hlt, ht, ht'⟩
    rw [offset_observanceAt hd] at ht ht'
    have hfirst : t = r - max c.rule.standard.offset d.observance.offset := by grind
    have hlast : t' = r - min c.rule.standard.offset d.observance.offset := by grind
    rw [← hfirst, ← hlast]
    refine ⟨?_, ?_, ?_⟩ <;> grind
  · rintro ⟨hne, hfirst, hlast⟩
    refine ⟨r - max c.rule.standard.offset d.observance.offset,
      r - min c.rule.standard.offset d.observance.offset, by grind, ?_, ?_⟩
    · rw [offset_observanceAt hd, hfirst]
      grind
    · rw [offset_observanceAt hd, hlast]
      grind

/-- A reading is taken for the first of the two instants that can show it, unless neither keeps
daylight time. -/
theorem settled_of_known (hsampled : c.Sampled) (hsaved : c.saved ≠ 0) (r : Reading) :
    r - (c.atReading r false).offset =
      if c.daylightAt (r - min c.rule.standard.offset d.observance.offset) ∨
          c.daylightAt (r - max c.rule.standard.offset d.observance.offset)
        then r - max c.rule.standard.offset d.observance.offset
        else r - min c.rule.standard.offset d.observance.offset := by
  obtain ⟨hwest, heast⟩ := hsampled.offsets hd hsaved
  have hearlier : r - min c.rule.standard.offset d.observance.offset - c.saved =
      r - max c.rule.standard.offset d.observance.offset := by grind
  rw [sub_offset_first, hwest, hearlier]
  split_ifs <;> grind

/-- A reading that is skipped is taken for the earlier instant that is tried. There the clock
shows it moved back, or, if daylight time is behind standard time or not known to the clock,
as it is. -/
theorem Skips.shown_settled (hsampled : c.Sampled) (h : c.Skips r) :
    let settled := r - (c.atReading r false).offset
    settled + c.standardOffset + (if c.daylightAt settled then c.saved else 0) =
      if c.saved ≠ 0 ∧ c.rule.standard.offset < d.observance.offset
        then r - (d.observance.offset - c.rule.standard.offset) else r := by
  obtain ⟨hne, hfirst, hlast⟩ := (skips_iff hd).mp h
  by_cases hsaved : c.saved = 0
  · simp only [settled_of_unknown hsaved, hsaved, ite_self, ne_eq, not_true_eq_false, false_and,
      if_false]
    grind
  · obtain ⟨hwest, heast⟩ := hsampled.offsets hd hsaved
    -- One of the two instants keeps daylight time, since the offsets differ.
    have hsettled := settled_of_known hd hsampled hsaved r
    rw [hfirst, hlast, if_pos (by grind)] at hsettled
    simp only [hsettled, hfirst]
    grind

/-- A reading that is repeated is taken for its first instant, if the clock knows both
offsets. There the clock shows it, or, if daylight time is behind standard time, shows it moved
back. -/
theorem Repeats.shown_settled (hsampled : c.Sampled) (h : c.Repeats r) :
    let settled := r - (c.atReading r false).offset
    settled = (if c.saved ≠ 0 then r - max c.rule.standard.offset d.observance.offset
        else r - c.standardOffset) ∧
      settled + c.standardOffset + (if c.daylightAt settled then c.saved else 0) =
        if c.saved ≠ 0 ∧ d.observance.offset < c.rule.standard.offset
          then r - (c.rule.standard.offset - d.observance.offset) else r := by
  obtain ⟨hne, hfirst, hlast⟩ := (repeats_iff hd).mp h
  by_cases hsaved : c.saved = 0
  · simp only [settled_of_unknown hsaved, hsaved, ite_self, ne_eq, not_true_eq_false, false_and,
      if_false]
    grind
  · obtain ⟨hwest, heast⟩ := hsampled.offsets hd hsaved
    have hsettled := settled_of_known hd hsampled hsaved r
    rw [hfirst, hlast, if_pos (by grind)] at hsettled
    simp only [hsettled, hfirst]
    grind

end Rule

end FixtureKeywords.SystemClock
