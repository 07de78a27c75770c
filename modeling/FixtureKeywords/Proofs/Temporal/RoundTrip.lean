import FixtureKeywords.Proofs.Temporal.Calls
import FixtureKeywords.Proofs.Temporal.Written
import FixtureKeywords.Zone.Recorded

/-!
# Datetime keywords and calls

A written keyword asks for what its clauses would ask for as calls, one after the other:
the start, the zone, every offset in its turn, and then the result. The two ways agree on
the datetime, and where they fail they fail alike, since both read the start first, then
the zone, and add the offsets in the order in which they appear.

A keyword may give its clauses in any order, and a table reads them by kind. That loses
nothing: only the order of the offsets counts, and offsets are of one kind.
-/
namespace FixtureKeywords

namespace TemporalClause

def start? : TemporalClause → Option Text
  | start t => some t
  | _ => none

def zone? : TemporalClause → Option Text
  | zone id => some id
  | _ => none

def offset? : TemporalClause → Option (TemporalUnit × Int)
  | offset unit amount => some (unit, amount)
  | _ => none

/-- Clauses as calls: the start, the zone, the offsets in order, and the result. -/
def calls (clauses : List TemporalClause) : List TemporalSpec.Call :=
  (clauses.filterMap start?).map (fun t => .start (.text t)) ++
    ((clauses.filterMap zone?).map .zone ++
      ((clauses.filterMap offset?).map (fun add => .add add.1 add.2) ++ [.build]))

variable [Almanac]

theorem ownedBy_start (clauses : List TemporalClause) :
    writing.ownedBy "start" clauses = (clauses.filterMap start?).map .start := by
  apply Writing.ownedBy_eq_map
  · intro clause howner
    cases clause with
    | start t => rfl
    | _ => simp [writing, owner] at howner
  · intro clause howner
    cases clause with
    | start t => exact absurd rfl howner
    | _ => rfl

theorem ownedBy_zone (clauses : List TemporalClause) :
    writing.ownedBy "zoneid" clauses = (clauses.filterMap zone?).map .zone := by
  apply Writing.ownedBy_eq_map
  · intro clause howner
    cases clause with
    | zone id => rfl
    | _ => simp [writing, owner] at howner
  · intro clause howner
    cases clause with
    | zone id => exact absurd rfl howner
    | _ => rfl

theorem ownedBy_offset (clauses : List TemporalClause) :
    writing.ownedBy "offset" clauses =
      (clauses.filterMap offset?).map fun add => .offset add.1 add.2 := by
  apply Writing.ownedBy_eq_map
  · intro clause howner
    cases clause with
    | offset unit amount => rfl
    | _ => simp [writing, owner] at howner
  · intro clause howner
    cases clause with
    | offset unit amount => exact absurd rfl howner
    | _ => rfl

theorem ownedBy_empty (clauses : List TemporalClause) :
    ∀ clause ∈ writing.ownedBy "empty" clauses, clause = .empty := by
  intro clause hmem
  simp only [Writing.ownedBy, List.mem_filter, decide_eq_true_eq] at hmem
  cases clause with
  | empty => rfl
  | _ => exact absurd hmem.2 (by simp [writing, owner])

def described (clauses : List TemporalClause) : Except Fault TemporalSpec := do
  let starts ← (clauses.filterMap start?).mapM Moment.ofStart
  let zones ← (clauses.filterMap zone?).mapM Zone.ofId
  { TemporalSpec.empty with start := starts.head?, zone := zones.head? }.addAll
    (clauses.filterMap offset?)

end TemporalClause

namespace TemporalModifier
open TemporalClause

def requestOf (values : List TemporalModifier) : Except Fault TemporalSpec :=
  { TemporalSpec.empty with
    start := values.findSome? start?
    zone := values.findSome? zone? }.addAll (values.filterMap offset?)

/-- Starts, zones, offsets and empties, one behind the other, are a request for the first
start and the first zone, and for all of the offsets. -/
theorem requestOf_append (starts : List Moment) (zones : List Zone)
    (offsets : List (TemporalUnit × Int)) {empties : List TemporalModifier}
    (hempties : ∀ m ∈ empties, m = .empty) :
    requestOf (starts.map .start ++ (zones.map .zone ++
        (offsets.map (fun add => .offset add.1 add.2) ++ empties))) =
      { TemporalSpec.empty with start := starts.head?, zone := zones.head? }.addAll offsets := by
  have hnone {β : Type} {f : TemporalModifier → Option β} (hf : f .empty = none) :
      empties.filterMap f = [] := by
    rw [List.filterMap_eq_nil_iff]
    intro m hm
    rw [hempties m hm, hf]
  unfold requestOf
  rw [← List.head?_filterMap, ← List.head?_filterMap]
  simp only [List.filterMap_append, List.filterMap_map, hnone (f := start?) rfl,
    hnone (f := zone?) rfl, hnone (f := offset?) rfl]
  simp [Function.comp_def, start?, zone?, offset?]

variable [Almanac]

theorem mapM_offsets (adds : List (TemporalUnit × Int)) :
    (adds.map fun add => TemporalClause.offset add.1 add.2).mapM writing.value =
      .ok (adds.map fun add => .offset add.1 add.2) := by
  induction adds with
  | nil => rfl
  | cons add adds ih =>
      rw [List.map_cons, Outcome.mapM_cons, ih]
      rfl

theorem request_gather (clauses : List TemporalClause) (t : Text) :
    (writing.gather rules clauses >>= fun entries => request ⟨.datetime, t, entries⟩) =
      described clauses := by
  have hflat := writing.flat_gather rules clauses
  have hempties : ∃ empties,
      (writing.ownedBy "empty" clauses).mapM writing.value = .ok empties ∧
        ∀ m ∈ empties, m = .empty := by
    refine ⟨_, Outcome.mapM_of_forall_ok (g := fun _ => .empty) ?_, by simp⟩
    intro clause hclause
    rw [ownedBy_empty clauses clause hclause]
    rfl
  obtain ⟨empties, hread, hempties⟩ := hempties
  have hstarts : ((clauses.filterMap TemporalClause.start?).map .start).mapM writing.value =
      ((clauses.filterMap TemporalClause.start?).mapM Moment.ofStart).map (List.map .start) :=
    Outcome.mapM_map (g := writing.value) (fun t => show writing.value (.start t) = _ from rfl) _
  have hzones : ((clauses.filterMap TemporalClause.zone?).map .zone).mapM writing.value =
      ((clauses.filterMap TemporalClause.zone?).mapM Zone.ofId).map (List.map .zone) :=
    Outcome.mapM_map (g := writing.value) (fun id => show writing.value (.zone id) = _ from rfl) _
  have hrequest :
      (writing.gather rules clauses >>= fun entries => request ⟨.datetime, t, entries⟩) =
        ((writing.gather rules clauses).map (·.flatMap Prod.snd) >>= requestOf) := by
    cases writing.gather rules clauses <;> rfl
  rw [hrequest, hflat]
  -- The table reads starts, zones and offsets in this order, as the request does.
  simp only [rules, Outcome.mapM_cons, Rule.assignment, ownedBy_start, ownedBy_zone,
    ownedBy_offset, hstarts, hzones, mapM_offsets, hread]
  unfold described
  cases (clauses.filterMap TemporalClause.start?).mapM Moment.ofStart with
  | error fault => rfl
  | ok starts =>
      cases (clauses.filterMap TemporalClause.zone?).mapM Zone.ofId with
      | error fault => rfl
      | ok zones =>
          have hvalues := requestOf_append starts zones (clauses.filterMap TemporalClause.offset?)
            hempties
          simpa [Except.map, bind, Except.bind, pure, Except.pure] using hvalues

theorem parse_written {clauses : List TemporalClause} {t : Text}
    (h : writing.IsKeyword .datetime clauses t)
    (hstart : (clauses.filterMap TemporalClause.start?).length ≤ 1)
    (hzone : (clauses.filterMap TemporalClause.zone?).length ≤ 1) :
    parse t = (writing.gather rules clauses).map fun entries =>
      ⟨.datetime, Text.strip t, entries⟩ := by
  have hlimit : ∀ rule ∈ rules, ∀ k, rule.limit = some k →
      (writing.ownedBy rule.name clauses).length ≤ k := by
    intro rule hrule k hk
    simp only [rules, List.mem_cons, List.not_mem_nil, or_false] at hrule
    rcases hrule with rfl | rfl | rfl | rfl
    · obtain rfl : 1 = k := Option.some.inj hk
      simpa [Rule.assignment, ownedBy_start] using hstart
    · obtain rfl : 1 = k := Option.some.inj hk
      simpa [Rule.assignment, ownedBy_zone] using hzone
    · exact absurd hk (by simp)
    · exact absurd hk (by simp)
  unfold parse
  rw [Parsed.parse_keyword h handled_rules nodup_names
    (fun clause _ => clause.owner_mem) hlimit]
  cases writing.gather rules clauses with
  | error fault => rfl
  | ok entries => rfl

end TemporalModifier

namespace TemporalSpec
open TemporalClause
variable [Almanac] {around : Surroundings}

/-- What a chain of calls comes to: the first fault, or the answer to the last call. -/
def outcome (around : Surroundings) (spec : TemporalSpec) (calls : List Call) :
    Except Fault (Option Answer) :=
  ((spec.performAll around calls).mapM Prod.fst).map List.getLast?

theorem performAll_cons (spec : TemporalSpec) (call : Call) (calls : List Call) :
    spec.performAll around (call :: calls) =
      spec.respond (around, call) ::
        (spec.respond (around, call)).2.performAll around calls := rfl

theorem length_performAll (spec : TemporalSpec) (calls : List Call) :
    (spec.performAll around calls).length = calls.length := by
  induction calls generalizing spec with
  | nil => rfl
  | cons call calls ih => rw [performAll_cons, List.length_cons, ih, List.length_cons]

/-- A call that cannot make anything of the request ends the chain; behind one that can the
chain goes on. -/
theorem outcome_of_assign (spec : TemporalSpec) {call : Call} {calls : List Call}
    (hcalls : calls ≠ []) {make : TemporalSpec → Except Fault TemporalSpec}
    (hact : act around call = do Method.assign make; return .chained) :
    spec.outcome around (call :: calls) =
      (make spec >>= fun next => next.outcome around calls) := by
  unfold outcome
  rw [performAll_cons, respond_of_assign spec hact, Outcome.mapM_cons]
  cases make spec with
  | error fault => rfl
  | ok next =>
      simp only [bind, Except.bind]
      cases hanswers : (next.performAll around calls).mapM Prod.fst with
      | error fault => rfl
      | ok answers =>
          have hlength := Outcome.length_of_mapM_eq_ok hanswers
          rw [length_performAll] at hlength
          have hne : answers ≠ [] := by
            rintro rfl
            exact hcalls (List.length_eq_zero_iff.mp hlength)
          simp [Except.map, List.getLast?_cons_of_ne_nil hne]

theorem outcome_build (spec : TemporalSpec) :
    spec.outcome around [.build] = (spec.build around).map fun m => some (.built m) := by
  unfold outcome
  rw [performAll_cons, respond_build]
  cases spec.build around <;> rfl

theorem outcome_adds (spec : TemporalSpec) (adds : List (TemporalUnit × Int)) :
    spec.outcome around (adds.map (fun add => .add add.1 add.2) ++ [.build]) =
      (spec.addAll adds >>= fun next => (next.build around).map fun m => some (.built m)) := by
  induction adds generalizing spec with
  | nil =>
      exact outcome_build spec
  | cons add adds ih =>
      rw [List.map_cons, List.cons_append, outcome_of_assign _ (by simp) rfl, addAll]
      cases spec.add add.1 add.2 with
      | error fault => rfl
      | ok next => exact ih next

theorem outcome_zone {spec : TemporalSpec} (h : spec.zone = none) {zones : List Text}
    (hzones : zones.length ≤ 1) (adds : List (TemporalUnit × Int)) :
    spec.outcome around
        (zones.map .zone ++ (adds.map (fun add => .add add.1 add.2) ++ [.build])) =
      (zones.mapM Zone.ofId >>= fun zones =>
        { spec with zone := zones.head? }.addAll adds >>= fun next =>
          (next.build around).map fun m => some (.built m)) := by
  rcases zones with _ | ⟨id, _ | ⟨other, zones⟩⟩
  · have hspec : { spec with zone := none } = spec := by rw [← h]
    simp only [List.map_nil, List.nil_append, outcome_adds]
    exact congrArg (fun s => s.addAll adds >>= _) hspec.symm
  · rw [List.map_cons, List.map_nil, List.cons_append, outcome_of_assign _ (by simp) rfl,
      setZone_of_none h, Outcome.mapM_cons]
    cases Zone.ofId id with
    | error fault => rfl
    | ok zone => exact outcome_adds _ adds
  · simp at hzones

theorem outcome_calls {clauses : List TemporalClause}
    (hstart : (clauses.filterMap TemporalClause.start?).length ≤ 1)
    (hzone : (clauses.filterMap TemporalClause.zone?).length ≤ 1) :
    empty.outcome around (calls clauses) =
      (described clauses >>= fun spec => (spec.build around).map fun m => some (.built m)) := by
  unfold calls described
  generalize clauses.filterMap TemporalClause.start? = starts at hstart
  generalize clauses.filterMap TemporalClause.zone? = zones at hzone
  generalize clauses.filterMap TemporalClause.offset? = adds
  rcases starts with _ | ⟨t, _ | ⟨other, starts⟩⟩
  · rw [List.map_nil, List.nil_append]
    exact (outcome_zone rfl hzone adds).trans (bind_assoc _ _ _).symm
  · rw [List.map_cons, List.map_nil, List.cons_append, List.nil_append,
      outcome_of_assign _ (by simp) rfl, setStart_of_none rfl, StartGiven.moment,
      Outcome.mapM_cons]
    cases Moment.ofStart t with
    | error fault => rfl
    | ok m =>
        have hrest : ({ empty with start := some m } : TemporalSpec).outcome around
            (zones.map .zone ++ (adds.map (fun add => .add add.1 add.2) ++ [.build])) = _ :=
          outcome_zone rfl hzone adds
        exact hrest.trans (bind_assoc _ _ _).symm
  · simp at hstart

end TemporalSpec

/-- A written keyword and the calls of its clauses have the same outcome. -/
theorem TemporalModifier.generate_written [Almanac] {clauses : List TemporalClause} {t : Text}
    (h : TemporalClause.writing.IsKeyword .datetime clauses t)
    (hstart : (clauses.filterMap TemporalClause.start?).length ≤ 1)
    (hzone : (clauses.filterMap TemporalClause.zone?).length ≤ 1) (around : Surroundings) :
    (generate t .system around).map (fun out => some (TemporalSpec.Answer.built out.value)) =
      TemporalSpec.empty.outcome around (TemporalClause.calls clauses) := by
  rw [TemporalSpec.outcome_calls hstart hzone, ← request_gather clauses (Text.strip t)]
  unfold generate
  rw [parse_written h hstart hzone]
  cases TemporalClause.writing.gather rules clauses with
  | error fault => rfl
  | ok entries =>
      simp only [Except.map, bind, Except.bind]
      cases request ⟨.datetime, Text.strip t, entries⟩ with
      | error fault => rfl
      | ok spec =>
          unfold TemporalSpec.build
          cases hout : spec.resolve .system around with
          | error fault => simp [hout, Except.map]
          | ok out => simp [hout, Except.map]

/-- Clauses out of order, with blanks and empty braces between them. -/
theorem TemporalModifier.generate_written_unordered :
    let around : Surroundings := ⟨.naive 0, .universal⟩
    let clauses : List TemporalClause :=
      [.offset (.calendar .day) 1, .zone " Asia/Tokyo".toList, .empty,
        .start "2016-03-12T18:00-05:00".toList, .offset (.clock .hour) (-2)]
    let written := (" [DateTime\x7b+1d\x7d\x7b ZONEID= Asia/Tokyo\x7d\x7b \x7d " ++
      "\x7bstart =2016-03-12T18:00-05:00\x7d\x7b-02h\x7d]\n").toList
    TemporalSpec.empty.outcome around (TemporalClause.calls clauses) =
      (generate written .system around).map
        (fun out => some (TemporalSpec.Answer.built out.value)) ∧
    TemporalSpec.empty.outcome around (TemporalClause.calls clauses) =
      .ok (some (.built ⟨Reading.midnight ⟨2016, 3, 14⟩ + 6 * Reading.hour, false,
        .region "Asia/Tokyo" Atlas.tokyo.history⟩)) := by
  intro around clauses written
  have hone : Text.Writes 1 ['1'] := ⟨by decide, by decide, by decide⟩
  have htwo : Text.Writes 2 "02".toList := ⟨by decide, by decide, by decide⟩
  have hday := @IsOffset.intro (.calendar .day) [] ['+'] ['1'] [] rfl (by decide) (by decide) rfl
  have hhour := @IsOffset.intro (.clock .hour) [] ['-'] "02".toList [] rfl (by decide)
    (by decide) rfl
  have hzone := @Recogniser.IsAssignment.intro "zoneid".toList " Asia/Tokyo".toList [' ']
    "ZONEID".toList [] (by decide) (by decide) rfl (by simp [Recogniser.isBrace])
  have hempty := @IsEmpty.intro [' '] (by decide)
  have hstart := @Recogniser.IsAssignment.intro "start".toList "2016-03-12T18:00-05:00".toList []
    "start".toList [' '] rfl (by decide) (by decide) (by simp [Recogniser.isBrace])
  have hbody : TemporalClause.writing.IsBody clauses _ :=
    .cons (rfl : Text.isBlankText []) (.offset (.plus hone) hday) <|
      .cons (rfl : Text.isBlankText []) (.zone hzone) <|
        .cons (rfl : Text.isBlankText []) (.empty hempty) <|
          .cons (by decide : Text.isBlankText [' ']) (.start hstart) <|
            .cons (rfl : Text.isBlankText []) (.offset (.minus htwo) hhour) <|
              .nil (rfl : Text.isBlankText [])
  have hkeyword := @Writing.IsKeyword.intro _ _ TemporalClause.writing .datetime _ [' '] []
    "DateTime".toList _ ['\n'] (by decide) rfl (by decide) hbody (by decide)
  refine ⟨(generate_written hkeyword (by decide) (by decide) around).symm, ?_⟩
  decide +kernel

end FixtureKeywords
