import FixtureKeywords.Proofs.Keyword.Parsing
import FixtureKeywords.Proofs.Zone.Atlas

/-!
# How the reading of a start ends

A start says a reading, the offset that it is read with, and perhaps the id of a region. If
it says less it is refused, and so is an id that names no zone. Without a region this is all
that can go wrong, since the start stays as it was written.

With a region the database is asked for it, and where the database breaks off, so does the
reading of the start. Then the start is brought there, and that has a fault of its own. The
instant of the start has to lie in the supported years, and so has the reading that the region
shows then. Starts at either end of the years can miss this although they are written
correctly, and are then not refused as a wrong argument is. A keyword with such a start fails
in the same way.
-/
namespace FixtureKeywords
open Text

namespace Zone

/-- An instant lies in the supported years, and so does what a zone shows then. -/
def Reaches (z : Zone) (t : Instant) : Prop :=
  Reading.inRange t ∧ ∀ history, z.history? = some history → Reading.inRange (history.shown t)

section
variable [Almanac] {id : Text} {z : Zone} {fault : Fault}

/-- An id that names no zone is refused, unless the database breaks off. -/
theorem fault_of_ofId (h : ofId id = .error fault) : (∃ cause, fault = .argument cause) ∨
    ∃ kind, fault = .foreign kind ∧ Almanac.region (strip id) = .broken kind := by
  simp only [ofId] at h
  split_ifs at h
  split at h
  next o _ =>
    split_ifs at h
    exact .inl ⟨_, (Except.error.inj h).symm⟩
  next =>
    split at h
    next => cases h
    next => exact .inl ⟨_, (Except.error.inj h).symm⟩
    next kind hbroken => exact .inr ⟨kind, (Except.error.inj h).symm, hbroken⟩

theorem exists_history_of_ofId (h : ofId id = .ok z) : ∃ history, z.history? = some history := by
  obtain ⟨offset, rfl⟩ | ⟨key, history, -, rfl⟩ := zone_of_ofId h
  · exact ⟨_, rfl⟩
  · exact ⟨history, rfl⟩

end

end Zone

namespace Moment
variable {t id : Text} {reading : Reading} {offset : Int} {region : Option Text} {z : Zone}
  {fault : Fault} {m : Moment}

/-- A start is brought to a zone with a history if that reaches its instant, and otherwise it
has left the supported years. -/
theorem inZone_stamped {history : History} (hz : z.history? = some history)
    (hother : Zone.stamped offset ≠ z) (reading : Reading) :
    (z.Reaches (reading - offset) ∧
        ∃ m, inZone ⟨reading, false, .stamped offset⟩ z = .ok m) ∨
      ¬ z.Reaches (reading - offset) ∧
        inZone ⟨reading, false, .stamped offset⟩ z = .error .instantOutOfRange := by
  have hreaches : z.Reaches (reading - offset) ↔
      Reading.inRange (reading - offset) ∧ Reading.inRange (history.shown (reading - offset)) := by
    simp [Zone.Reaches, hz]
  have hinstant : instant ⟨reading, false, .stamped offset⟩ = Reading.checked (reading - offset) :=
    rfl
  have hshows := Zone.atInstant_of_history hz (reading - offset)
  rw [inZone_of_ne hother, hinstant, hreaches]
  by_cases hin : Reading.inRange (reading - offset)
  · have hchecked : Reading.checked (reading - offset) = .ok (reading - offset) := if_pos hin
    rw [hchecked]
    by_cases hshown : Reading.inRange (history.shown (reading - offset))
    · refine .inl ⟨⟨hin, hshown⟩, ⟨history.shown (reading - offset),
        (history.atInstant (reading - offset)).2, z⟩, hshows.trans ?_⟩
      rw [Reading.checked, if_pos hshown]
      rfl
    · refine .inr ⟨fun h => hshown h.2, hshows.trans ?_⟩
      rw [Reading.checked, if_neg hshown]
      rfl
  · refine .inr ⟨fun h => hin h.1, ?_⟩
    rw [Reading.checked, if_neg hin]
    rfl

section
variable [Almanac]

/-- What a start says: a timestamp with an offset, and the id of a region if there are
brackets. -/
def Says (t : Text) (reading : Reading) (offset : Int) (region : Option Text) : Prop :=
  ∃ stamp, startParts? (strip t) = some (stamp, region) ∧
    Almanac.timestamp? (strip stamp) = some ⟨reading, some offset⟩

theorem Says.unique {reading' : Reading} {offset' : Int} {region' : Option Text}
    (h : Says t reading offset region) (h' : Says t reading' offset' region') :
    reading = reading' ∧ offset = offset' ∧ region = region' := by
  obtain ⟨stamp, hparts, hstamp⟩ := h
  obtain ⟨stamp', hparts', hstamp'⟩ := h'
  obtain ⟨rfl, rfl⟩ := Prod.mk.inj (Option.some.inj (hparts.symm.trans hparts'))
  obtain ⟨rfl, hoffset⟩ := Timestamp.mk.inj (Option.some.inj (hstamp.symm.trans hstamp'))
  exact ⟨rfl, Option.some.inj hoffset, rfl⟩

theorem ofStart_plain (h : Says t reading offset none) :
    ofStart t = .ok ⟨reading, false, .stamped offset⟩ := by
  obtain ⟨stamp, hparts, hstamp⟩ := h
  simp only [ofStart, hparts, hstamp]

theorem ofStart_region (h : Says t reading offset (some id)) :
    ofStart t = Zone.ofId id >>= inZone ⟨reading, false, .stamped offset⟩ := by
  obtain ⟨stamp, hparts, hstamp⟩ := h
  simp only [ofStart, hparts, hstamp]

theorem ofStart_of_not_says (h : ∀ reading offset region, ¬ Says t reading offset region) :
    ∃ cause, ofStart t = .error (.argument cause) := by
  unfold ofStart
  dsimp only
  split
  next => exact ⟨_, rfl⟩
  next stamp region hparts =>
    split
    next => exact ⟨_, rfl⟩
    next => exact ⟨_, rfl⟩
    next reading offset hstamp => exact absurd ⟨stamp, hparts, hstamp⟩ (h reading offset region)

theorem inZone_of_ofId (hz : Zone.ofId id = .ok z) (reading : Reading) (offset : Int) :
    (z.Reaches (reading - offset) ∧
        ∃ m, inZone ⟨reading, false, .stamped offset⟩ z = .ok m) ∨
      ¬ z.Reaches (reading - offset) ∧
        inZone ⟨reading, false, .stamped offset⟩ z = .error .instantOutOfRange := by
  obtain ⟨history, hhistory⟩ := Zone.exists_history_of_ofId hz
  refine inZone_stamped hhistory ?_ reading
  rintro rfl
  obtain ⟨_, heq⟩ | ⟨_, _, -, heq⟩ := Zone.zone_of_ofId hz
  · cases heq
  · cases heq

/-- A start that is read is as it was written, or in the region that was written. -/
theorem says_of_ofStart (h : ofStart t = .ok m) :
    ∃ reading offset region, Says t reading offset region ∧
      (region = none → m.reading = reading ∧ m.zone = .stamped offset) ∧
      ∀ id, region = some id → Zone.ofId id = .ok m.zone := by
  have hstart : ∃ reading offset region, Says t reading offset region := by
    by_contra hnone
    obtain ⟨cause, herror⟩ := ofStart_of_not_says fun reading offset region hstart =>
      hnone ⟨reading, offset, region, hstart⟩
    cases h.symm.trans herror
  obtain ⟨reading, offset, region, hstart⟩ := hstart
  refine ⟨reading, offset, region, hstart, ?_⟩
  cases region with
  | none =>
      obtain rfl := Except.ok.inj (h.symm.trans (ofStart_plain hstart))
      exact ⟨fun _ => ⟨rfl, rfl⟩, nofun⟩
  | some id =>
      obtain ⟨z, hz, hm⟩ := Outcome.bind_eq_ok.mp ((ofStart_region hstart).symm.trans h)
      refine ⟨nofun, ?_⟩
      rintro _ ⟨⟩
      rw [zone_of_inZone hm]
      exact hz

theorem sub_offset_of_ofStart (hspaced : Almanac.Spaced) (h : ofStart t = .ok m)
    (hstart : Says t reading offset region) : m.reading - m.offset = reading - offset := by
  cases region with
  | none =>
      obtain rfl := Except.ok.inj (h.symm.trans (ofStart_plain hstart))
      rfl
  | some id =>
      obtain ⟨z, hz, hm⟩ := Outcome.bind_eq_ok.mp ((ofStart_region hstart).symm.trans h)
      exact sub_offset_inZone (Zone.wellSpaced_of_ofId hspaced hz) hm

/-- A start fails with a refusal, unless the database breaks off at its region or its region
does not reach its instant. -/
theorem fault_of_ofStart (h : ofStart t = .error fault) :
    (∃ cause, fault = .argument cause) ∨
      (∃ kind, fault = .foreign kind ∧ ∃ reading offset id, Says t reading offset (some id) ∧
        Zone.ofId id = .error fault ∧ Almanac.region (strip id) = .broken kind) ∨
      fault = .instantOutOfRange ∧ ∃ reading offset id z,
        Says t reading offset (some id) ∧ Zone.ofId id = .ok z ∧
          ¬ z.Reaches (reading - offset) := by
  by_cases hstart : ∃ reading offset region, Says t reading offset region
  · obtain ⟨reading, offset, region, hstart⟩ := hstart
    cases region with
    | none => cases h.symm.trans (ofStart_plain hstart)
    | some id =>
        rw [ofStart_region hstart] at h
        cases hz : Zone.ofId id with
        | error cause =>
            rw [hz] at h
            obtain rfl := Except.error.inj h
            rcases Zone.fault_of_ofId hz with hcause | ⟨kind, hkind, hbroken⟩
            · exact .inl hcause
            · exact .inr (.inl ⟨kind, hkind, reading, offset, id, hstart, hz, hbroken⟩)
        | ok z =>
            rw [hz] at h
            rcases inZone_of_ofId hz reading offset with ⟨-, m, hm⟩ | ⟨hreaches, herror⟩
            · cases (hm.symm.trans h :)
            · exact .inr (.inr ⟨(Except.error.inj (herror.symm.trans h)).symm, reading, offset,
                id, z, hstart, hz, hreaches⟩)
  · obtain ⟨cause, herror⟩ := ofStart_of_not_says fun reading offset region h =>
      hstart ⟨reading, offset, region, h⟩
    exact .inl ⟨cause, Except.error.inj (h.symm.trans herror)⟩

end

end Moment

namespace TemporalModifier

/-- A keyword with one start fails as its start does, since starts are read first. -/
theorem parse_of_start [Almanac] {t : Text} {f : Fragment} {fault : Fault}
    (hkeyword : Family.datetime.encloses t)
    (hfound : Piece.fragments (Piece.split (Recogniser.assignment "start".toList) (strip t)) = [f])
    (h : Moment.ofStart f.payload = .error fault) : parse t = .error fault := by
  have hread : ([f].mapM fun f => (Moment.ofStart f.payload).map start) = .error fault := by
    rw [Outcome.mapM_cons, h]
    rfl
  have hextract : (Rule.assignment "start" fun f => (Moment.ofStart f.payload).map start).extract
      .datetime (strip t) (strip t) = .error fault := by
    simp only [Rule.extract, Rule.assignment, hfound, hread]
    rfl
  have hall : Rule.extractAll .datetime (strip t) rules (strip t) = .error fault := by
    change (_ >>= _ : Except Fault _) = _
    rw [hextract]
    rfl
  simp only [parse, Parsed.parse, hkeyword, if_true, hall]
  rfl

end TemporalModifier

namespace Moment

/-- How the reading of a start ends. What is read has an offset and denotes the instant that
was written, as it was written or in the region. What fails is refused as a wrong argument,
with two exceptions: the years are left exactly if the region does not reach the instant, and
the fault is that of the database exactly if it breaks off at the region. A keyword with one
start fails as the start does. -/
theorem ofStart_ends [Almanac] (hspaced : Almanac.Spaced) (t : Text) :
    (∀ m, ofStart t = .ok m → m.zone.hasAnswer m.reading ∧ ∃ reading offset region,
      Says t reading offset region ∧ m.reading - m.offset = reading - offset ∧
      (region = none → m.reading = reading ∧ m.zone = .stamped offset) ∧
      ∀ id, region = some id → Zone.ofId id = .ok m.zone) ∧
    (∀ fault, ofStart t = .error fault →
      (∃ cause, fault = .argument cause) ∨ fault = .instantOutOfRange ∨
        ∃ kind, fault = .foreign kind) ∧
    (ofStart t = .error .instantOutOfRange ↔ ∃ reading offset id z,
      Says t reading offset (some id) ∧ Zone.ofId id = .ok z ∧ ¬ z.Reaches (reading - offset)) ∧
    (∀ kind, ofStart t = .error (.foreign kind) ↔ ∃ reading offset id,
      Says t reading offset (some id) ∧ Zone.ofId id = .error (.foreign kind) ∧
        Almanac.region (strip id) = .broken kind) ∧
    ∀ keyword f fault, Family.datetime.encloses keyword →
      Piece.fragments (Piece.split (Recogniser.assignment "start".toList) (strip keyword)) = [f] →
      f.payload = t → ofStart t = .error fault → TemporalModifier.parse keyword = .error fault := by
  refine ⟨fun m hm => ⟨hasAnswer_of_ofStart hm, ?_⟩, fun fault hfault => ?_, ⟨fun h => ?_, ?_⟩,
    fun kind => ⟨fun h => ?_, ?_⟩, ?_⟩
  · obtain ⟨reading, offset, region, hstart, hzone⟩ := says_of_ofStart hm
    exact ⟨reading, offset, region, hstart, sub_offset_of_ofStart hspaced hm hstart, hzone⟩
  · rcases fault_of_ofStart hfault with hcause | ⟨kind, hkind, -⟩ | ⟨hrange, -⟩
    · exact .inl hcause
    · exact .inr (.inr ⟨kind, hkind⟩)
    · exact .inr (.inl hrange)
  · rcases fault_of_ofStart h with ⟨cause, hcause⟩ | ⟨kind, hkind, -⟩ | ⟨-, hregion⟩
    · cases hcause
    · cases hkind
    · exact hregion
  · rintro ⟨reading, offset, id, z, hstart, hz, hreaches⟩
    rw [ofStart_region hstart, hz]
    rcases inZone_of_ofId hz reading offset with ⟨hreached, -⟩ | ⟨-, herror⟩
    · exact absurd hreached hreaches
    · exact herror
  · rcases fault_of_ofStart h with ⟨cause, hcause⟩ | ⟨other, hother, hbroken⟩ | ⟨hrange, -⟩
    · cases hcause
    · obtain rfl := Fault.foreign.inj hother
      exact hbroken
    · cases hrange
  · rintro ⟨reading, offset, id, hstart, hid, -⟩
    rw [ofStart_region hstart, hid]
    rfl
  · rintro keyword f fault hkeyword hfound rfl hfault
    exact TemporalModifier.parse_of_start hkeyword hfound hfault

/-- The first instant of all is read in a region to the east, where the year has begun. -/
theorem ofStart_ends_first_instant :
    ∃ m, ofStart "0001-01-01T00:00Z[Asia/Tokyo]".toList = .ok m ∧
      m.zone.hasAnswer m.reading ∧ m.reading - m.offset = Reading.first ∧
      Zone.ofId "Asia/Tokyo".toList = .ok m.zone := by
  have hstart : Says "0001-01-01T00:00Z[Asia/Tokyo]".toList Reading.first 0
      (some "Asia/Tokyo".toList) :=
    ⟨"0001-01-01T00:00Z".toList, by decide, by decide⟩
  have hread : (ofStart "0001-01-01T00:00Z[Asia/Tokyo]".toList).toBool := by decide
  cases hm : ofStart "0001-01-01T00:00Z[Asia/Tokyo]".toList with
  | error fault =>
      rw [hm] at hread
      cases hread
  | ok m =>
      obtain ⟨hok, -⟩ := ofStart_ends Almanac.spaced_recorded "0001-01-01T00:00Z[Asia/Tokyo]".toList
      obtain ⟨hanswer, reading, offset, region, hstart', hinstant, -, hzone⟩ := hok m hm
      obtain ⟨rfl, rfl, rfl⟩ := hstart'.unique hstart
      exact ⟨m, rfl, hanswer, hinstant, hzone _ rfl⟩

/-- In a region to the west the year has not begun at the first instant of all. The fault is
no refusal, in a keyword neither. -/
theorem ofStart_west_of_first_instant :
    ofStart "0001-01-01T00:00Z[America/New_York]".toList = .error .instantOutOfRange ∧
      TemporalModifier.parse
          "[datetime\x7bstart=0001-01-01T00:00Z[America/New_York]\x7d]".toList =
        .error .instantOutOfRange ∧
      ∀ cause, Fault.instantOutOfRange ≠ .argument cause := by
  exact ⟨by decide, by decide, nofun⟩

end Moment

end FixtureKeywords
