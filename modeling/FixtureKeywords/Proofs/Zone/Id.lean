import FixtureKeywords.Proofs.Calendar.Timestamp
import FixtureKeywords.Proofs.Zone.Basic
import FixtureKeywords.Temporal.Start

/-!
# Zones that are named

An id names a fixed offset or a region, and a start that is read is in the zone of its
offset or in a zone that its id names. Both have a history and never leave a reading
without an offset. That the changes of a region are far enough apart, and that printed
timestamps are read back, is for the almanac to keep.
-/
namespace FixtureKeywords
variable [Almanac]

/-- All regions of an almanac have their changes far enough apart. -/
def Almanac.Spaced : Prop :=
  ∀ key history, Almanac.region key = .found history → history.WellSpaced

/-- A reader of timestamps understands what is printed, and reads no offset but whole minutes
below a day. -/
structure Almanac.ReadsBack : Prop where
  printed {r : Reading} {offset : Int} : Reading.inRange r → Timestamp.IsOffset offset →
    Almanac.timestamp? ((Iso.reading r).toList ++ (Iso.offset ":" offset).toList) =
      some ⟨r, some offset⟩
  isOffset {t : Text} {r : Reading} {offset : Int} :
    Almanac.timestamp? t = some ⟨r, some offset⟩ → Timestamp.IsOffset offset

namespace Zone
variable {t : Text} {z : Zone}

theorem zone_of_ofId (h : ofId t = .ok z) :
    (∃ offset, z = fixed offset) ∨ ∃ key history, Almanac.region key = .found history ∧
      z = region (String.ofList key) history := by
  simp only [ofId] at h
  split_ifs at h
  · exact .inl ⟨0, (Except.ok.inj h).symm⟩
  · split at h
    next o _ =>
      split_ifs at h
      · exact .inl ⟨_, (Except.ok.inj h).symm⟩
      · exact .inl ⟨_, (Except.ok.inj h).symm⟩
    next =>
      split at h
      next history hfound => exact .inr ⟨_, history, hfound, (Except.ok.inj h).symm⟩
      next => cases h
      next => cases h

theorem wellSpaced_of_ofId (hspaced : Almanac.Spaced) (h : ofId t = .ok z) : z.WellSpaced := by
  obtain ⟨offset, rfl⟩ | ⟨key, history, hfound, rfl⟩ := zone_of_ofId h
  · exact wellSpaced_fixed offset
  · intro other hother
    obtain rfl := Option.some.inj hother
    exact hspaced key _ hfound

theorem hasAnswer_of_ofId (h : ofId t = .ok z) (r : Reading) : z.hasAnswer r := by
  obtain ⟨offset, rfl⟩ | ⟨key, history, -, rfl⟩ := zone_of_ofId h <;> rfl

end Zone

namespace Moment
variable {t : Text} {m : Moment}

/-- A start that is read is in the zone of its offset or in a zone that an id names. -/
theorem zone_of_ofStart (h : ofStart t = .ok m) :
    (∃ offset, m.zone = .stamped offset) ∨ ∃ id, Zone.ofId id = .ok m.zone := by
  simp only [ofStart] at h
  split at h
  next => cases h
  next stamp region _ =>
    split at h
    next => cases h
    next => cases h
    next reading offset _ =>
      split at h
      next =>
        obtain rfl := Except.ok.inj h
        exact .inl ⟨offset, rfl⟩
      next region _ =>
        obtain ⟨z, hz, h⟩ := Outcome.bind_eq_ok.mp h
        rw [← zone_of_inZone h] at hz
        exact .inr ⟨region, hz⟩

theorem hasAnswer_of_ofStart (h : ofStart t = .ok m) : m.zone.hasAnswer m.reading := by
  obtain ⟨offset, hzone⟩ | ⟨id, hid⟩ := zone_of_ofStart h
  · rw [hzone]
    rfl
  · exact Zone.hasAnswer_of_ofId hid _

end Moment

end FixtureKeywords
