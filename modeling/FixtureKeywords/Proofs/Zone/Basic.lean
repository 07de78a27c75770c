import FixtureKeywords.Proofs.Zone.History
import FixtureKeywords.Proofs.Zone.SystemClock
import FixtureKeywords.Zone.Basic

/-!
# Moments of a zone

A region, an offset that was given and an offset that was written in a timestamp
are one kind of zone: they have a history, which for an offset knows no transition.
The zone of the system is the other kind.

A moment that a zone shows at an instant denotes that instant: its reading less its
offset is the instant again. For a zone with a history this takes that its changes
are far enough apart; for the system's zone it takes nothing.
-/
namespace FixtureKeywords

namespace Zone

/-- The history of a zone other than the system's. -/
def history? : Zone → Option History
  | region _ history => some history
  | fixed offset | stamped offset => some ⟨⟨offset, ""⟩, []⟩
  | system _ => none

/-- Whether the changes of a zone are far enough apart. -/
def WellSpaced (z : Zone) : Prop :=
  ∀ h, z.history? = some h → h.WellSpaced

variable {z : Zone} {h : History}

theorem wellSpaced_fixed (offset : Int) : (fixed offset).WellSpaced := by
  intro history hhistory
  obtain rfl := Option.some.inj hhistory
  exact .nil

theorem offsetAt_of_history (hz : z.history? = some h) (r : Reading) (second : Bool) :
    z.offsetAt r second = (h.atReading r second).offset := by
  cases z with
  | region _ _ => rw [← Option.some.inj hz]; rfl
  | fixed _ => rw [← Option.some.inj hz]; rfl
  | stamped _ => rw [← Option.some.inj hz]; rfl
  | system _ => simp [history?] at hz

theorem hasAnswer_of_history (hz : z.history? = some h) (r : Reading) : z.hasAnswer r := by
  cases z with
  | system _ => simp [history?] at hz
  | _ => rfl

theorem atInstant_of_history (hz : z.history? = some h) (t : Instant) :
    z.atInstant t =
      (Reading.checked (h.shown t)).map fun r => ⟨r, (h.atInstant t).2, z⟩ := by
  cases z with
  | region _ _ =>
      obtain rfl := Option.some.inj hz
      simp only [atInstant, History.shown]
      cases Reading.checked _ <;> rfl
  | fixed offset | stamped offset =>
      obtain rfl := Option.some.inj hz
      change (Reading.checked (t + offset)).bind (fun r => .ok _) =
        (Reading.checked (t + offset)).map _
      cases Reading.checked (t + offset) <;> rfl
  | system _ => simp [history?] at hz

/-- A moment that a zone shows at an instant is in the zone, which has an offset for it. -/
theorem zone_of_atInstant {t : Instant} {m : Moment} (hm : z.atInstant t = .ok m) :
    m.zone = z ∧ z.hasAnswer m.reading := by
  cases hh : z.history? with
  | some h =>
      rw [atInstant_of_history hh] at hm
      obtain ⟨r, -, rfl⟩ := Outcome.map_eq_ok.mp hm
      exact ⟨rfl, hasAnswer_of_history hh _⟩
  | none =>
      cases z with
      | system c =>
          obtain ⟨⟨r, second⟩, hr, hm⟩ := Outcome.bind_eq_ok.mp hm
          obtain rfl := Except.ok.inj hm
          exact ⟨rfl, (SystemClock.atInstant_eq_ok hr).1⟩
      | _ => simp [history?] at hh

theorem sub_offset_of_atInstant {t : Instant} {m : Moment} (hz : z.WellSpaced)
    (hm : z.atInstant t = .ok m) : m.reading - m.offset = t := by
  cases hh : z.history? with
  | some h =>
      rw [atInstant_of_history hh] at hm
      obtain ⟨r, hr, rfl⟩ := Outcome.map_eq_ok.mp hm
      obtain ⟨-, rfl⟩ := Reading.checked_eq_ok.mp hr
      rw [Moment.offset, offsetAt_of_history hh, (hz h hh).atReading_shown, History.shown]
      exact Int.add_sub_cancel t _
  | none =>
      cases z with
      | system c =>
          obtain ⟨⟨r, second⟩, hr, hm⟩ := Outcome.bind_eq_ok.mp hm
          obtain rfl := Except.ok.inj hm
          exact SystemClock.sub_offset_of_atInstant hr
      | _ => simp [history?] at hh

theorem instant_of_atInstant {t : Instant} {m : Moment} (hz : z.WellSpaced)
    (hm : z.atInstant t = .ok m) : m.instant = Reading.checked t := by
  obtain ⟨hzone, hanswer⟩ := zone_of_atInstant hm
  rw [Moment.instant, hzone, if_pos hanswer, sub_offset_of_atInstant hz hm]

end Zone

namespace Moment

theorem instant_eq_ok {m : Moment} {t : Instant} (h : m.instant = .ok t) :
    t = m.reading - m.offset ∧ Reading.inRange t := by
  rw [instant] at h
  split_ifs at h
  obtain ⟨hrange, rfl⟩ := Reading.checked_eq_ok.mp h
  exact ⟨rfl, hrange⟩

variable {m here : Moment} {z : Zone}

theorem inZone_of_ne (h : m.zone ≠ z) : m.inZone z = m.instant >>= z.atInstant :=
  if_neg fun hsame => h hsame.1

theorem zone_of_inZone (h : m.inZone z = .ok here) : here.zone = z := by
  rw [inZone] at h
  split_ifs at h with hsame
  · obtain rfl := Except.ok.inj h
    exact hsame.1
  · obtain ⟨t, -, h⟩ := Outcome.bind_eq_ok.mp h
    exact (Zone.zone_of_atInstant h).1

/-- A moment that is brought to a zone denotes the instant that it did. -/
theorem sub_offset_inZone (hz : z.WellSpaced) (h : m.inZone z = .ok here) :
    here.reading - here.offset = m.reading - m.offset := by
  rw [inZone] at h
  split_ifs at h with hsame
  · obtain rfl := Except.ok.inj h
    rfl
  · obtain ⟨t, ht, h⟩ := Outcome.bind_eq_ok.mp h
    exact (Zone.sub_offset_of_atInstant hz h).trans (instant_eq_ok ht).1

theorem reading_inZone_self {history : History} (hz : z.history? = some history)
    (hsame : m.zone = z) (h : m.inZone z = .ok here) : here.reading = m.reading := by
  rw [inZone] at h
  split_ifs at h with hsingle
  · rw [Except.ok.inj h]
  · cases z with
    | fixed offset =>
        obtain ⟨t, ht, h⟩ := Outcome.bind_eq_ok.mp h
        obtain ⟨r, hr, h⟩ := Outcome.bind_eq_ok.mp h
        obtain rfl := Except.ok.inj h
        obtain ⟨-, rfl⟩ := Reading.checked_eq_ok.mp hr
        rw [(instant_eq_ok ht).1, Moment.offset, hsame]
        exact Int.sub_add_cancel _ _
    | region key history => exact absurd ⟨hsame, rfl⟩ hsingle
    | stamped offset => exact absurd ⟨hsame, rfl⟩ hsingle
    | system clock => cases hz

end Moment
end FixtureKeywords
