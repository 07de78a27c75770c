import FixtureKeywords.Proofs.Temporal.Offset
import FixtureKeywords.Proofs.Transcript
import FixtureKeywords.Proofs.Zone.Id
import FixtureKeywords.Temporal.Builder

/-!
# A datetime builder call by call

A builder of datetimes is a request that calls put together. The calls that stand are those
that succeeded since the request was last cleared. At most one of them gives the start and at
most one the zone, and the offsets among them are the ones that the request has collected.

The clock may show another time at every call, and the zone of the system may be another one.
Both are consulted where a datetime is built and have no part in the request.

Readings of the system's zone can be without an offset, at the beginning of the first year.
No such reading is stored as a start, and no other zone has one.
-/
namespace FixtureKeywords.TemporalSpec

/-- The offsets that a request has collected, without its start and its zone. -/
def offsets (spec : TemporalSpec) : TemporalSpec :=
  { spec with start := none, zone := none }

theorem add_offsets (unit : TemporalUnit) (amount : Int) (spec : TemporalSpec) :
    spec.offsets.add unit amount = (spec.add unit amount).map offsets := by
  cases unit with
  | calendar unit =>
      simp only [add, offsets]
      cases spec.calendar.add? unit amount <;> rfl
  | clock unit =>
      simp only [add, offsets]
      cases spec.clock.add? unit amount <;> rfl

variable [Almanac]

def StartGiven.moment : StartGiven → Except Fault Moment
  | text t => Moment.ofStart t
  | clock (.aware m) =>
      if m.zone.hasAnswer m.reading then .ok m else .error .instantOutOfRange
  | clock (.naive r) => .error (.argument (.naiveStart (Iso.reading r)))

theorem StartGiven.hasAnswer_of_moment {given : StartGiven} {m : Moment}
    (h : given.moment = .ok m) : m.zone.hasAnswer m.reading := by
  cases given with
  | text t => exact Moment.hasAnswer_of_ofStart h
  | clock r =>
      cases r with
      | aware shown =>
          rw [moment] at h
          split_ifs at h with hanswer
          rwa [← Except.ok.inj h]
      | naive r => cases h

namespace Call

def renews : Call → Bool
  | clear | buildAndClear => true
  | _ => false

def start? : Call → Option StartGiven
  | start given => some given
  | _ => none

def zone? : Call → Option Text
  | zone id => some id
  | _ => none

def add? : Call → Option (TemporalUnit × Int)
  | add unit amount => some (unit, amount)
  | _ => none

end Call

section
variable {spec : TemporalSpec}

theorem setStart_of_none (h : spec.start = none) (given : StartGiven) :
    setStart given spec = given.moment.map fun m => { spec with start := some m } := by
  simp only [setStart, h, Option.isSome_none, Bool.false_eq_true, if_false]
  cases given with
  | text t =>
      simp only [StartGiven.moment]
      cases Moment.ofStart t <;> rfl
  | clock r =>
      cases r with
      | aware m =>
          simp only [StartGiven.moment]
          split_ifs <;> rfl
      | naive r => rfl

theorem setZone_of_none (h : spec.zone = none) (id : Text) :
    setZone id spec = (Zone.ofId id).map fun z => { spec with zone := some z } := by
  simp only [setZone, h, Option.isSome_none, Bool.false_eq_true, if_false]
  cases Zone.ofId id <;> rfl

theorem setStart_eq_ok {given : StartGiven} {next : TemporalSpec}
    (h : setStart given spec = .ok next) :
    spec.start = none ∧
      ∃ m, given.moment = .ok m ∧ next = { spec with start := some m } := by
  cases hfree : spec.start with
  | some m => simp [setStart, hfree] at h
  | none =>
      rw [setStart_of_none hfree] at h
      obtain ⟨m, hmoment, rfl⟩ := Outcome.map_eq_ok.mp h
      exact ⟨rfl, m, hmoment, rfl⟩

theorem setZone_eq_ok {id : Text} {next : TemporalSpec} (h : setZone id spec = .ok next) :
    spec.zone = none ∧ ∃ z, Zone.ofId id = .ok z ∧ next = { spec with zone := some z } := by
  cases hfree : spec.zone with
  | some z => simp [setZone, hfree] at h
  | none =>
      rw [setZone_of_none hfree] at h
      obtain ⟨z, hzone, rfl⟩ := Outcome.map_eq_ok.mp h
      exact ⟨rfl, z, hzone, rfl⟩

end

/-- Makes a call, with the clock and the system as they are at that time. -/
def respond (spec : TemporalSpec) (visit : Surroundings × Call) :
    Except Fault Answer × TemporalSpec :=
  Id.run (Method.call (act visit.1 visit.2) spec)

theorem map_entries_respond (around : Surroundings) (spec : TemporalSpec) (calls : List Call) :
    (Transcript.entries respond spec (calls.map (around, ·))).map
      (fun e => (e.outcome, e.after)) = spec.performAll around calls := by
  induction calls generalizing spec with
  | nil => rfl
  | cons call calls ih => exact congrArg (_ :: ·) (ih _)

section
variable (spec : TemporalSpec) (around : Surroundings)

theorem respond_build :
    spec.respond (around, .build) = ((spec.build around).map .built, spec) := by
  simp only [respond, act, Method.call_bind, Method.call_get, pure_bind, Method.call_ofOutcome]
  cases spec.build around <;> rfl

theorem respond_buildAndClear :
    spec.respond (around, .buildAndClear) =
      match spec.build around with
      | .error fault => (.error fault, spec)
      | .ok m => (.ok (.built m), empty) := by
  simp only [respond, act, Method.call_bind, Method.call_get, pure_bind, Method.call_ofOutcome]
  cases spec.build around <;> rfl

end

theorem respond_of_assign (spec : TemporalSpec) {around : Surroundings} {call : Call}
    {make : TemporalSpec → Except Fault TemporalSpec}
    (hact : act around call = do Method.assign make; return .chained) :
    spec.respond (around, call) =
      match make spec with
      | .error fault => (.error fault, spec)
      | .ok next => (.ok .chained, next) := by
  unfold respond
  dsimp only
  rw [hact]
  cases hmake : make spec with
  | error fault => exact Method.call_assign_error hmake _
  | ok next => exact Method.call_assign_ok hmake _

/-- What a call can come to. -/
inductive Effect (e : Entry TemporalSpec (Surroundings × Call) Answer) : Prop
  | refuses (fault : Fault) (outcome : e.outcome = .error fault) (after : e.after = e.before)
  | adds (unit : TemporalUnit) (amount : Int) (call : e.call.2 = .add unit amount)
      (outcome : e.outcome = .ok .chained) (after : e.before.add unit amount = .ok e.after)
  | starts (given : StartGiven) (m : Moment) (call : e.call.2 = .start given)
      (free : e.before.start = none) (moment : given.moment = .ok m)
      (outcome : e.outcome = .ok .chained) (after : e.after = { e.before with start := some m })
  | zones (id : Text) (z : Zone) (call : e.call.2 = .zone id) (free : e.before.zone = none)
      (zone : Zone.ofId id = .ok z) (outcome : e.outcome = .ok .chained)
      (after : e.after = { e.before with zone := some z })
  | builds (m : Moment) (call : e.call.2 = .build) (outcome : e.outcome = .ok (.built m))
      (after : e.after = e.before)
  | clears (answer : Answer) (call : e.call.2.renews = true) (outcome : e.outcome = .ok answer)
      (after : e.after = empty)

section
variable {spec : TemporalSpec} {around : Surroundings}

theorem effect_of_respond {call : Call} {outcome : Except Fault Answer} {next : TemporalSpec}
    (h : spec.respond (around, call) = (outcome, next))
    (heffect : Effect ⟨spec, (around, call), outcome, next⟩) :
    Effect (Transcript.entry respond spec (around, call)) := by
  rwa [Transcript.entry, h]

theorem effect_of_assign {call : Call} {make : TemporalSpec → Except Fault TemporalSpec}
    (hact : act around call = do Method.assign make; return .chained)
    (hok : ∀ next, make spec = .ok next → Effect ⟨spec, (around, call), .ok .chained, next⟩) :
    Effect (Transcript.entry respond spec (around, call)) := by
  have hrespond := respond_of_assign spec hact
  cases hmake : make spec with
  | error fault =>
      rw [hmake] at hrespond
      exact effect_of_respond hrespond (.refuses fault rfl rfl)
  | ok next =>
      rw [hmake] at hrespond
      exact effect_of_respond hrespond (hok next hmake)

end

theorem effect (spec : TemporalSpec) (visit : Surroundings × Call) :
    Effect (Transcript.entry respond spec visit) := by
  obtain ⟨around, call⟩ := visit
  cases call with
  | add unit amount =>
      exact effect_of_assign rfl fun next hadd => .adds unit amount rfl rfl hadd
  | start given =>
      refine effect_of_assign rfl fun next hstart => ?_
      obtain ⟨hfree, m, hmoment, rfl⟩ := setStart_eq_ok hstart
      exact .starts given m rfl hfree hmoment rfl rfl
  | zone id =>
      refine effect_of_assign rfl fun next hzone => ?_
      obtain ⟨hfree, z, hread, rfl⟩ := setZone_eq_ok hzone
      exact .zones id z rfl hfree hread rfl rfl
  | build =>
      have hrespond := respond_build spec around
      cases hbuild : spec.build around with
      | error fault =>
          rw [hbuild] at hrespond
          exact effect_of_respond hrespond (.refuses fault rfl rfl)
      | ok m =>
          rw [hbuild] at hrespond
          exact effect_of_respond hrespond (.builds m rfl rfl rfl)
  | clear => exact effect_of_respond rfl (.clears .cleared rfl rfl rfl)
  | buildAndClear =>
      have hrespond := respond_buildAndClear spec around
      cases hbuild : spec.build around with
      | error fault =>
          rw [hbuild] at hrespond
          exact effect_of_respond hrespond (.refuses fault rfl rfl)
      | ok m =>
          rw [hbuild] at hrespond
          exact effect_of_respond hrespond (.clears (.built m) rfl rfl rfl)

theorem Effect.after_of_error {e : Entry TemporalSpec (Surroundings × Call) Answer}
    {fault : Fault} (h : Effect e) (herror : e.outcome = .error fault) : e.after = e.before := by
  cases h with
  | refuses _ _ hafter => exact hafter
  | adds _ _ _ houtcome => cases herror.symm.trans houtcome
  | starts _ _ _ _ _ houtcome => cases herror.symm.trans houtcome
  | zones _ _ _ _ _ houtcome => cases herror.symm.trans houtcome
  | builds _ _ houtcome => cases herror.symm.trans houtcome
  | clears _ _ houtcome => cases herror.symm.trans houtcome

/-- What the calls that stand tell of the request behind them. -/
structure Tells (standing : List (Entry TemporalSpec (Surroundings × Call) Answer))
    (spec : TemporalSpec) : Prop where
  starts : (standing.filterMap fun e => e.call.2.start?).mapM StartGiven.moment =
    .ok spec.start.toList
  zones : (standing.filterMap fun e => e.call.2.zone?).mapM Zone.ofId = .ok spec.zone.toList
  adds : empty.addAll (standing.filterMap fun e => e.call.2.add?) = .ok spec.offsets
  answers : ∀ m ∈ spec.start, m.zone.hasAnswer m.reading = true

namespace Tells
variable {standing : List (Entry TemporalSpec (Surroundings × Call) Answer)}
  {spec : TemporalSpec}

theorem empty : Tells [] empty where
  starts := rfl
  zones := rfl
  adds := rfl
  answers := by simp [TemporalSpec.empty]

theorem starts_eq_nil (h : Tells standing spec) (hfree : spec.start = none) :
    standing.filterMap (fun e => e.call.2.start?) = [] := by
  have hlength := Outcome.length_of_mapM_eq_ok h.starts
  rw [hfree] at hlength
  exact List.length_eq_zero_iff.mp hlength

theorem zones_eq_nil (h : Tells standing spec) (hfree : spec.zone = none) :
    standing.filterMap (fun e => e.call.2.zone?) = [] := by
  have hlength := Outcome.length_of_mapM_eq_ok h.zones
  rw [hfree] at hlength
  exact List.length_eq_zero_iff.mp hlength

theorem after {e : Entry TemporalSpec (Surroundings × Call) Answer}
    (h : Tells standing e.before) (heffect : Effect e) :
    Tells (Transcript.stand (fun visit => visit.2.renews) standing e) e.after := by
  cases heffect with
  | refuses fault houtcome hafter =>
      rw [Transcript.stand_error houtcome, hafter]
      exact h
  | adds unit amount hcall houtcome hafter =>
      have hstart : e.call.2.start? = none := by rw [hcall]; rfl
      have hzone : e.call.2.zone? = none := by rw [hcall]; rfl
      have hadd : e.call.2.add? = some (unit, amount) := by rw [hcall]; rfl
      have hrenews : e.call.2.renews = false := by rw [hcall]; rfl
      obtain ⟨hkeptStart, hkeptZone, -⟩ := add_eq_ok hafter
      rw [Transcript.stand_ok houtcome, hrenews]
      refine ⟨?_, ?_, ?_, ?_⟩
      · simpa [hstart, hkeptStart] using h.starts
      · simpa [hzone, hkeptZone] using h.zones
      · -- What is added does not depend on the start and the zone.
        have hnext : e.before.offsets.addAll [(unit, amount)] = .ok e.after.offsets := by
          simp only [addAll, add_offsets, hafter]
          rfl
        simp only [Bool.false_eq_true, if_false, List.filterMap_append, List.filterMap_cons, hadd,
          List.filterMap_nil, addAll_append, h.adds]
        exact hnext
      · rw [hkeptStart]
        exact h.answers
  | starts given m hcall hfree hmoment houtcome hafter =>
      have hstart : e.call.2.start? = some given := by rw [hcall]; rfl
      have hzone : e.call.2.zone? = none := by rw [hcall]; rfl
      have hadd : e.call.2.add? = none := by rw [hcall]; rfl
      have hrenews : e.call.2.renews = false := by rw [hcall]; rfl
      rw [Transcript.stand_ok houtcome, hrenews, hafter]
      refine ⟨?_, ?_, ?_, ?_⟩
      · simp [h.starts_eq_nil hfree, hstart, hmoment]
      · simpa [hzone] using h.zones
      · simpa [hadd, offsets] using h.adds
      · rintro _ ⟨⟩
        exact StartGiven.hasAnswer_of_moment hmoment
  | zones id z hcall hfree hread houtcome hafter =>
      have hstart : e.call.2.start? = none := by rw [hcall]; rfl
      have hzone : e.call.2.zone? = some id := by rw [hcall]; rfl
      have hadd : e.call.2.add? = none := by rw [hcall]; rfl
      have hrenews : e.call.2.renews = false := by rw [hcall]; rfl
      rw [Transcript.stand_ok houtcome, hrenews, hafter]
      refine ⟨?_, ?_, ?_, h.answers⟩
      · simpa [hstart] using h.starts
      · simp [h.zones_eq_nil hfree, hzone, hread]
      · simpa [hadd, offsets] using h.adds
  | builds m hcall houtcome hafter =>
      have hstart : e.call.2.start? = none := by rw [hcall]; rfl
      have hzone : e.call.2.zone? = none := by rw [hcall]; rfl
      have hadd : e.call.2.add? = none := by rw [hcall]; rfl
      have hrenews : e.call.2.renews = false := by rw [hcall]; rfl
      rw [Transcript.stand_ok houtcome, hrenews, hafter]
      refine ⟨?_, ?_, ?_, h.answers⟩
      · simpa [hstart] using h.starts
      · simpa [hzone] using h.zones
      · simpa [hadd] using h.adds
  | clears answer hcall houtcome hafter =>
      rw [Transcript.stand_ok houtcome, hcall, hafter]
      exact empty

end Tells

theorem after_renewing (spec : TemporalSpec) {visit : Surroundings × Call} {answer : Answer}
    (hrenews : visit.2.renews = true) (houtcome : (spec.respond visit).1 = .ok answer) :
    (spec.respond visit).2 = empty := by
  obtain ⟨around, call⟩ := visit
  cases effect spec (around, call) with
  | refuses _ hrefused => cases hrefused.symm.trans houtcome
  | clears _ _ _ hafter => exact hafter
  | adds _ _ hcall => obtain rfl : call = _ := hcall; cases hrenews
  | starts _ _ hcall => obtain rfl : call = _ := hcall; cases hrenews
  | zones _ _ hcall => obtain rfl : call = _ := hcall; cases hrenews
  | builds _ hcall => obtain rfl : call = _ := hcall; cases hrenews

/-- The calls that stand determine a request, whatever failed in between and whatever the
clock and the system showed. -/
theorem calls_accumulate (calls : List (Surroundings × Call)) :
    let now := Transcript.final respond empty calls
    let standing := Transcript.standing (fun visit => visit.2.renews)
      (Transcript.entries respond empty calls)
    let adds := standing.filterMap fun e => e.call.2.add?
    (∀ around made, calls = made.map (around, ·) → empty.performAll around made =
        (Transcript.entries respond empty calls).map fun e => (e.outcome, e.after)) ∧
      -- The start and the zone, each from at most one call.
      (standing.filterMap fun e => e.call.2.start?).mapM StartGiven.moment =
        .ok now.start.toList ∧
      (standing.filterMap fun e => e.call.2.zone?).mapM Zone.ofId = .ok now.zone.toList ∧
      (∀ m ∈ now.start, m.zone.hasAnswer m.reading = true) ∧
      -- The offsets.
      empty.addAll adds = .ok now.offsets ∧
      now.clock.minutes = 60 * amountOf (.clock .hour) adds + amountOf (.clock .minute) adds ∧
      -- A further call.
      ∀ visit : Surroundings × Call,
        let e := Transcript.entry respond now visit
        (∀ fault, e.outcome = .error fault → e.after = now) ∧
          (visit.2 = .build → e.after = now) ∧
          (visit.2 = .clear → e.outcome = .ok .cleared) ∧
          (∀ answer, visit.2.renews = true → e.outcome = .ok answer → e.after = empty ∧
            ∀ more, (Transcript.entries respond empty (calls ++ visit :: more)).drop
              (calls.length + 1) = Transcript.entries respond empty more) := by
  intro now standing adds
  have htells : Tells standing now :=
    Transcript.keeps Tells (fun _ spec visit h => h.after (effect spec visit)) Tells.empty calls
  have htotals := totals_of_addAll (rfl : Totals.ofSpec empty = ⟨0, 0, 0⟩) htells.adds
  refine ⟨?_, htells.starts, htells.zones, htells.answers, htells.adds,
    congrArg Totals.minutes htotals, fun visit => ⟨fun _ => (effect now visit).after_of_error, ?_, ?_,
      fun answer hrenews houtcome => ?_⟩⟩
  · rintro around made rfl
    exact (map_entries_respond around empty made).symm
  · obtain ⟨around, call⟩ := visit
    rintro rfl
    exact congrArg Prod.snd (respond_build now around)
  · obtain ⟨around, call⟩ := visit
    rintro rfl
    rfl
  · have hempty := after_renewing now hrenews houtcome
    refine ⟨hempty, fun more => ?_⟩
    rw [Transcript.drop_entries]
    exact congrArg (Transcript.entries respond · more) hempty

end FixtureKeywords.TemporalSpec
