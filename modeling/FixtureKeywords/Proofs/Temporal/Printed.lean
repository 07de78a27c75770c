import FixtureKeywords.Proofs.Temporal.Refusal
import FixtureKeywords.Proofs.Temporal.RoundTrip
import FixtureKeywords.Proofs.Temporal.Start

/-!
# Results that are fed back

A result is printed as its reading and its offset, and that is what a start looks like. If
the zone of the result is a fixed offset, then a keyword with this start and nothing else
asks for the same datetime: the start stays as it is, and nothing is added to it.

A printed offset can only be read if it is whole minutes and less than a day. Offsets come
from texts here, from the id of a zone or from a timestamp, and texts say no others. That the
printed reading is in the supported years is known, since the request came to a result, and
so is its instant. What the reader of timestamps has to keep for this is `Almanac.ReadsBack`.
-/
namespace FixtureKeywords
open Text Timestamp

namespace Zone

def fixedOffset? : Zone → Option Int
  | fixed offset | stamped offset => some offset
  | _ => none

variable {z : Zone} {offset : Int} {id : Text}

theorem eq_of_fixedOffset? (h : z.fixedOffset? = some offset) :
    z = .fixed offset ∨ z = .stamped offset := by
  cases z with
  | fixed _ => exact .inl (congrArg fixed (Option.some.inj h))
  | stamped _ => exact .inr (congrArg stamped (Option.some.inj h))
  | _ => cases h

theorem isOffset_of_ofId [Almanac] (h : ofId id = .ok (.fixed offset)) : IsOffset offset := by
  simp only [ofId] at h
  split_ifs at h
  · obtain rfl : 0 = offset := Zone.fixed.inj (Except.ok.inj h)
    exact isOffset_zero
  · split at h
    next o _ =>
      split at h
      · cases h
      next hbounds =>
        refine isOffset_of_ofClock o.hours o.minutes o.negative ?_
        rw [if_pos (by omega)]
        exact congrArg some (Zone.fixed.inj (Except.ok.inj h))
    next =>
      split at h <;> cases h

end Zone

namespace Moment
variable {t : Text} {m : Moment} {offset : Int}

theorem isOffset_of_ofStart [Almanac] (hreads : Almanac.ReadsBack) (h : ofStart t = .ok m)
    (hz : m.zone.fixedOffset? = some offset) : IsOffset offset := by
  obtain ⟨reading, written, region, ⟨stamp, -, hstamp⟩, hplain, hregion⟩ := says_of_ofStart h
  cases region with
  | none =>
      rw [(hplain rfl).2] at hz
      obtain rfl := Option.some.inj hz
      exact hreads.isOffset hstamp
  | some id =>
      have hid := hregion id rfl
      rcases Zone.eq_of_fixedOffset? hz with hfixed | hstamped
      · rw [hfixed] at hid
        exact Zone.isOffset_of_ofId hid
      · obtain ⟨_, hother⟩ | ⟨_, _, -, hother⟩ := Zone.zone_of_ofId hid <;>
          cases hstamped.symm.trans hother

/-- A moment that is printed is a start again, in the zone of its offset. -/
theorem says_iso [Almanac] (hreads : Almanac.ReadsBack) (hr : Reading.inRange m.reading)
    (ho : IsOffset m.offset) : Says m.iso.toList m.reading m.offset none := by
  have hiso : m.iso.toList = (Iso.reading m.reading).toList ++ (Iso.offset ":" m.offset).toList :=
    String.toList_append
  have hprinted : ∀ c ∈ m.iso.toList, isPrinted c := by
    rw [hiso]
    exact List.forall_mem_append.mpr ⟨isPrinted_reading _, isPrinted_offset ho⟩
  have htrimmed : Trimmed m.iso.toList :=
    trimmed_of_forall fun c hc => isBlank_of_isPrinted (hprinted c hc)
  have hinside : ∀ c ∈ m.iso.toList, (!(c == '[' || c == ']')) = true := by
    intro c hc
    have hc := hprinted c hc
    rw [Bool.not_eq_true', Bool.or_eq_false_iff, beq_eq_false_iff_ne, beq_eq_false_iff_ne]
    constructor <;> rintro rfl <;> exact absurd hc (by decide)
  have hne : m.iso.toList ≠ [] := by
    rw [hiso, toList_reading]
    simp
  refine ⟨m.iso.toList, ?_, ?_⟩
  · have htake := List.takeWhile_eq_self_iff.mpr hinside
    have hdrop := List.dropWhile_eq_nil_iff.mpr hinside
    simp only [htrimmed.strip_eq, startParts?, htake, hdrop, List.isEmpty_eq_false_iff.mpr hne,
      Bool.false_eq_true, if_false]
  · rw [htrimmed.strip_eq, hiso]
    exact hreads.printed hr ho

theorem isBrace_iso (ho : IsOffset m.offset) : ∀ c ∈ m.iso.toList, Recogniser.isBrace c = false := by
  have hiso : m.iso.toList = (Iso.reading m.reading).toList ++ (Iso.offset ":" m.offset).toList :=
    String.toList_append
  rw [hiso]
  intro c hc
  have hc := List.forall_mem_append.mpr ⟨isPrinted_reading _, isPrinted_offset ho⟩ c hc
  rw [Recogniser.isBrace, Bool.or_eq_false_iff, beq_eq_false_iff_ne, beq_eq_false_iff_ne]
  constructor <;> rintro rfl <;> exact absurd hc (by decide)

end Moment

namespace TemporalSpec
variable {spec : TemporalSpec} {policy : ZonePolicy} {around : Surroundings} {m : Moment}
  {offset : Int}

/-- A request that starts at a fixed offset and asks for nothing else comes to its start. -/
theorem moment_of_start {r : Int} (hr : Reading.inRange r) (ht : Reading.inRange (r - offset))
    (around : Surroundings) :
    moment ⟨.zero, .zero, some ⟨r, false, .stamped offset⟩, none⟩ .start around =
      .ok ⟨r, false, .stamped offset⟩ := by
  have hmove : CalendarOffset.zero.move r = .ok r := by
    have hmonths : Reading.addMonths r CalendarOffset.zero.totalMonths = r :=
      Reading.addMonths_zero r
    have hdays : r + CalendarOffset.zero.days * Reading.dayLength = r := by
      rw [show CalendarOffset.zero.days = 0 from rfl, zero_mul, add_zero]
    have hchecked : Reading.checked r = .ok r := if_pos hr
    simp only [CalendarOffset.move, hmonths, hchecked, bind, Except.bind, hdays]
  have hinstant : Moment.instant ⟨r, false, .stamped offset⟩ = .ok (r - offset) :=
    if_pos ht
  have hshown : Zone.atInstant (.stamped offset) (r - offset) =
      .ok ⟨r, false, .stamped offset⟩ := by
    have hchecked : Reading.checked (r - offset + offset) = .ok r := by
      rw [Int.sub_add_cancel]
      exact if_pos hr
    simp only [Zone.atInstant, hchecked, bind, Except.bind]
  have hpassed : Reading.checked (r - offset + ClockOffset.zero.micros) = .ok (r - offset) := by
    rw [show ClockOffset.zero.micros = 0 from rfl, add_zero]
    exact if_pos ht
  simp only [moment, TemporalSpec.here, target, origin, Option.map_some, Option.getD_some,
    ClockReading.zone?, settle, pass, hmove, hinstant, hshown, hpassed, bind, Except.bind]

theorem wellSpaced_of_fixedOffset? {z : Zone} (hz : z.fixedOffset? = some offset) :
    z.WellSpaced := by
  rcases Zone.eq_of_fixedOffset? hz with rfl | rfl <;> exact Zone.wellSpaced_fixed offset

theorem moment_fixed (hz : (spec.target policy around).fixedOffset? = some offset)
    (h : spec.moment policy around = .ok m) :
    Reading.inRange m.reading ∧ m.offset = offset ∧ Reading.inRange (m.reading - offset) ∧
      m.instant = .ok (m.reading - offset) := by
  have hspaced := wellSpaced_of_fixedOffset? hz
  obtain ⟨here, w, -, -, hshown, hzone, hinstant⟩ := moment_eq_ok hspaced h
  have hoffset : m.offset = offset := by
    rw [Moment.offset, hzone]
    rcases Zone.eq_of_fixedOffset? hz with hfixed | hfixed <;> rw [hfixed] <;> rfl
  obtain ⟨ht, hrange⟩ := Moment.instant_eq_ok hinstant
  rw [hoffset] at ht
  rw [ht] at hinstant hrange
  exact ⟨Zone.inRange_of_atInstant hshown, hoffset, hrange, hinstant⟩

end TemporalSpec

namespace TemporalModifier
variable {t : Text} {parsed : Parsed TemporalModifier} {policy : ZonePolicy}
  {around : Surroundings} {out : Logged Moment} {offset : Int}

/-- The keyword says itself that its result has this offset: by the id of a zone, or by a start
whose zone is kept. -/
def FixesOffset (parsed : Parsed TemporalModifier) (policy : ZonePolicy) (offset : Int) : Prop :=
  ∃ z : Zone, z.fixedOffset? = some offset ∧
    (parsed.flat.findSome? zone? = some z ∨
      policy = .start ∧ parsed.flat.findSome? zone? = none ∧
        ∃ m, parsed.flat.findSome? start? = some m ∧ m.zone = z)

theorem target_of_fixesOffset (h : FixesOffset parsed policy offset) {spec : TemporalSpec}
    (hrequest : request parsed = .ok spec) (around : Surroundings) :
    (spec.target policy around).fixedOffset? = some offset := by
  obtain ⟨z, hz, hkeyword⟩ := h
  obtain ⟨hstart, hzone, -⟩ := TemporalSpec.addAll_eq_ok hrequest
  have htarget : spec.target policy around = z := by
    rcases hkeyword with hfound | ⟨rfl, hnone, m, hm, rfl⟩
    · simp only [TemporalSpec.target, hzone.trans hfound]
    · simp only [TemporalSpec.target, hzone.trans hnone, TemporalSpec.origin, hstart.trans hm,
        Option.map_some, Option.getD_some, ClockReading.zone?]
  rw [htarget, hz]

section
variable [Almanac]

/-- The zones and starts of a keyword that is accepted were read from texts. -/
theorem read_of_mem_flat (hparse : parse t = .ok parsed) {value : TemporalModifier}
    (hvalue : value ∈ parsed.flat) :
    (∀ z, value = .zone z → ∃ id, Zone.ofId id = .ok z) ∧
      ∀ m, value = .start m → ∃ s, Moment.ofStart s = .ok m := by
  obtain ⟨rule, hrule, f, hread⟩ := Parsed.exists_read_of_mem_flat hparse hvalue
  simp only [rules, List.mem_cons, List.not_mem_nil, or_false] at hrule
  rcases hrule with rfl | rfl | rfl | rfl
  · obtain ⟨m, hm, rfl⟩ := Outcome.map_eq_ok.mp hread
    constructor
    · rintro _ ⟨⟩
    · rintro _ ⟨⟩
      exact ⟨f.payload, hm⟩
  · obtain ⟨z, hz, rfl⟩ := Outcome.map_eq_ok.mp hread
    constructor
    · rintro _ ⟨⟩
      exact ⟨f.payload, hz⟩
    · rintro _ ⟨⟩
  · have hoffset : ∃ unit amount, value = .offset unit amount := by
      change readOffset f = _ at hread
      unfold readOffset at hread
      split at hread
      · obtain ⟨amount, -, rfl⟩ := Outcome.map_eq_ok.mp hread
        exact ⟨_, _, rfl⟩
      · cases hread
    obtain ⟨unit, amount, rfl⟩ := hoffset
    constructor <;> rintro _ ⟨⟩
  · obtain rfl := Except.ok.inj hread
    constructor <;> rintro _ ⟨⟩

theorem isOffset_of_fixesOffset (hreads : Almanac.ReadsBack) (hparse : parse t = .ok parsed)
    (h : FixesOffset parsed policy offset) : Timestamp.IsOffset offset := by
  obtain ⟨z, hz, hfound | ⟨-, -, m, hm, rfl⟩⟩ := h
  · obtain ⟨value, hmem, hvalue⟩ := List.exists_of_findSome?_eq_some hfound
    have hzone : value = .zone z := by
      cases value <;> simp [zone?] at hvalue
      rw [hvalue]
    obtain ⟨id, hid⟩ := (read_of_mem_flat hparse hmem).1 z hzone
    rcases Zone.eq_of_fixedOffset? hz with rfl | rfl
    · exact Zone.isOffset_of_ofId hid
    · obtain ⟨_, hother⟩ | ⟨_, _, -, hother⟩ := Zone.zone_of_ofId hid <;> cases hother
  · obtain ⟨value, hmem, hvalue⟩ := List.exists_of_findSome?_eq_some hm
    have hstart : value = .start m := by
      cases value <;> simp [start?] at hvalue
      rw [hvalue]
    obtain ⟨s, hs⟩ := (read_of_mem_flat hparse hmem).2 m hstart
    exact Moment.isOffset_of_ofStart hreads hs hz

/-- A keyword that gives a start by a text without braces, and nothing else. -/
theorem generate_start {s : Text} (hs : ∀ c ∈ s, Recogniser.isBrace c = false)
    {m : Moment} (hm : Moment.ofStart s = .ok m) (policy : ZonePolicy) (around : Surroundings) :
    generate ("[datetime\x7bstart=".toList ++ (s ++ "\x7d]".toList)) policy around =
      TemporalSpec.resolve ⟨.zero, .zero, some m, none⟩ policy around := by
  have hw := @Recogniser.IsAssignment.intro "start".toList s [] "start".toList [] rfl (by decide)
    rfl hs
  have hbody : TemporalClause.writing.IsBody [.start s] _ :=
    .cons (rfl : Text.isBlankText []) (.start hw) (.nil (rfl : Text.isBlankText []))
  have hkeyword := @Writing.IsKeyword.intro _ _ TemporalClause.writing .datetime _ [] []
    "datetime".toList _ [] rfl rfl (by decide) hbody rfl
  have ht : "[datetime\x7bstart=".toList ++ (s ++ "\x7d]".toList) =
      [] ++ ('[' :: (([] ++ ("datetime".toList ++ ([] ++ ('\x7b' :: ([] ++ ("start".toList ++
        ([] ++ '=' :: (s ++ ['\x7d'])))) ++ [])))) ++ [']'])) ++ [] := by
    simp
  rw [← ht] at hkeyword
  have hrequest : (TemporalClause.writing.gather rules [.start s] >>= fun entries =>
      request ⟨.datetime, Text.strip ("[datetime\x7bstart=".toList ++ (s ++ "\x7d]".toList)),
        entries⟩) = .ok ⟨.zero, .zero, some m, none⟩ := by
    rw [request_gather]
    simp [TemporalClause.described, TemporalClause.start?, TemporalClause.zone?,
      TemporalClause.offset?, hm, TemporalSpec.empty]
    rfl
  obtain ⟨entries, hentries, hspec⟩ := Outcome.bind_eq_ok.mp hrequest
  rw [generate, parse_written hkeyword (le_refl 1) (Nat.zero_le 1), hentries]
  change request _ >>= _ = _
  rw [hspec]
  rfl

/-- What a keyword generates at a fixed offset can be fed back. A keyword with the printed result
as its start, and nothing else, generates the same reading at the same offset, and so the same
instant, whenever it is asked for. -/
theorem generate_printed (hreads : Almanac.ReadsBack) (hparse : parse t = .ok parsed)
    (hfixes : FixesOffset parsed policy offset) (h : generate t policy around = .ok out)
    (later : Surroundings) :
    ∃ again, generate ("[datetime\x7bstart=" ++ out.value.iso ++ "\x7d]").toList .start later =
        .ok again ∧
      again.value.reading = out.value.reading ∧ again.value.offset = out.value.offset ∧
      Reading.micros again.value.reading = Reading.micros out.value.reading ∧
      ∃ instant, again.value.instant = .ok instant ∧ out.value.instant = .ok instant := by
  obtain ⟨parsed', hparsed, h⟩ := Outcome.bind_eq_ok.mp h
  obtain rfl := Except.ok.inj (hparse.symm.trans hparsed)
  obtain ⟨spec, hrequest, h⟩ := Outcome.bind_eq_ok.mp h
  have htarget := target_of_fixesOffset hfixes hrequest around
  obtain ⟨hr, rfl, ht, hinstant⟩ :=
    TemporalSpec.moment_fixed htarget (TemporalSpec.moment_of_resolve h)
  have ho := isOffset_of_fixesOffset hreads hparse hfixes
  have hstart := Moment.ofStart_plain (Moment.says_iso hreads hr ho)
  have hagain := generate_start (Moment.isBrace_iso ho) hstart .start later
  rw [TemporalSpec.resolve_of_moment (TemporalSpec.moment_of_start hr ht later)] at hagain
  have hwritten : ("[datetime\x7bstart=" ++ out.value.iso ++ "\x7d]").toList =
      "[datetime\x7bstart=".toList ++ (out.value.iso.toList ++ "\x7d]".toList) := by
    rw [String.toList_append, String.toList_append, List.append_assoc]
  rw [hwritten, hagain]
  exact ⟨_, rfl, rfl, rfl, rfl, _, if_pos ht, hinstant⟩

end

/-- A quarter of a second, and half an hour of an offset, shortly before the last instant. -/
theorem generate_printed_quarter :
    let written := "[datetime\x7bstart=9999-12-31T18:00:00.25-03:30\x7d\x7b+2h\x7d]".toList
    let around : Surroundings := ⟨.naive 0, .universal⟩
    let printed := "9999-12-31T20:00:00.250000-03:30"
    ∃ parsed out again, parse written = .ok parsed ∧
      FixesOffset parsed .start (-(210 * Reading.minute)) ∧
      generate written .start around = .ok out ∧ out.value.iso = printed ∧
      generate ("[datetime\x7bstart=" ++ printed ++ "\x7d]").toList .start around = .ok again ∧
      again.value.reading = out.value.reading ∧ again.value.offset = out.value.offset := by
  intro written around printed
  obtain ⟨start, hstart⟩ : ∃ start : Moment, start =
    ⟨Reading.midnight ⟨9999, 12, 31⟩ + 18 * Reading.hour + 250000, false,
      .stamped (-(210 * Reading.minute))⟩ := ⟨_, rfl⟩
  have hparse : parse written = .ok ⟨.datetime, written,
      [("start", [.start start]), ("offset", [.offset (.clock .hour) 2])]⟩ := by
    rw [hstart]
    decide
  have hfixes : FixesOffset ⟨.datetime, written,
      [("start", [.start start]), ("offset", [.offset (.clock .hour) 2])]⟩ .start
      (-(210 * Reading.minute)) := by
    refine ⟨.stamped (-(210 * Reading.minute)), rfl, .inr ⟨rfl, rfl, start, rfl, ?_⟩⟩
    rw [hstart]
  have hvalue : (generate written .start around).map Logged.value =
      .ok ⟨Reading.midnight ⟨9999, 12, 31⟩ + 20 * Reading.hour + 250000, false,
        .stamped (-(210 * Reading.minute))⟩ := by
    decide
  obtain ⟨out, hout, hmoment⟩ := Outcome.map_eq_ok.mp hvalue
  have hprinted : out.value.iso = printed := by
    rw [hmoment]
    decide
  obtain ⟨again, hagain, hreading, hoffset, -⟩ :=
    generate_printed Almanac.readsBack_recorded hparse hfixes hout around
  rw [hprinted] at hagain
  exact ⟨_, out, again, hparse, hfixes, hout, hprinted, hagain, hreading, hoffset⟩

end TemporalModifier

end FixtureKeywords
