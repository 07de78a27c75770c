import FixtureKeywords.Proofs.Temporal.Offset
import FixtureKeywords.Proofs.Text.Numeral

/-!
# Clock offsets one after the other

A clock offset is bounded, and every addition of hours or minutes is checked: what is added
and the sum so far both have to be within the bounds. So a list of additions is accepted if
it stays within the bounds all the way; that its total does is not enough. What is accepted
comes to the total, and two orders of one list that are accepted come to the same.

No order goes farther out on one side than all additions to that side. So a list is accepted
in every order exactly if its additions to either side are within the bounds by themselves.
-/
namespace FixtureKeywords

namespace ClockOffset
variable {adds other front : List (ClockUnit × Int)} {add : ClockUnit × Int}

theorem inRange_iff {o : ClockOffset} :
    o.inRange ↔ -(999999999 * 1440) ≤ o.minutes ∧ o.minutes < 1000000000 * 1440 := by
  simp [inRange]

def total (adds : List (ClockUnit × Int)) : ClockOffset :=
  ⟨(adds.map fun add => (ofUnits add.1 add.2).minutes).sum⟩

@[simp] theorem total_nil : total [] = zero := rfl

@[simp] theorem minutes_total_cons (add : ClockUnit × Int) (adds : List (ClockUnit × Int)) :
    (total (add :: adds)).minutes = (ofUnits add.1 add.2).minutes + (total adds).minutes := by
  simp [total]

@[simp] theorem minutes_total_append (adds more : List (ClockUnit × Int)) :
    (total (adds ++ more)).minutes = (total adds).minutes + (total more).minutes := by
  simp [total]

theorem total_eq_of_perm (h : other.Perm adds) : total other = total adds :=
  congrArg mk (h.map _).sum_eq

/-- Additions that stay within the bounds: each amount does, and each sum on the way. -/
structure Stays (adds : List (ClockUnit × Int)) : Prop where
  amounts : ∀ add ∈ adds, (ofUnits add.1 add.2).inRange
  sums : ∀ front, front <+: adds → (total front).inRange

theorem stays_nil : Stays [] where
  amounts := nofun
  sums := by
    intro front hfront
    rw [List.prefix_nil.mp hfront]
    decide

theorem stays_concat_iff :
    Stays (adds ++ [add]) ↔
      Stays adds ∧ (ofUnits add.1 add.2).inRange ∧ (total (adds ++ [add])).inRange := by
  constructor
  · intro h
    refine ⟨⟨fun a ha => h.amounts a (List.mem_append_left _ ha), fun front hfront => ?_⟩,
      h.amounts add (by simp), h.sums _ List.prefix_rfl⟩
    exact h.sums front (hfront.trans (List.prefix_append _ _))
  · rintro ⟨h, hamount, hsum⟩
    constructor
    · intro a ha
      rcases List.mem_append.mp ha with ha | ha
      · exact h.amounts a ha
      · rw [List.mem_singleton.mp ha]
        exact hamount
    · intro front hfront
      rcases List.prefix_concat_iff.mp hfront with rfl | hfront
      · exact hsum
      · exact h.sums front hfront

/-- The additions to the future. -/
def forward (adds : List (ClockUnit × Int)) : List (ClockUnit × Int) :=
  adds.filter (0 < ·.2)

/-- The additions to the past. -/
def backward (adds : List (ClockUnit × Int)) : List (ClockUnit × Int) :=
  adds.filter (·.2 < 0)

theorem ofUnits_sign (add : ClockUnit × Int) :
    (0 < add.2 → 0 < (ofUnits add.1 add.2).minutes) ∧
      (add.2 < 0 → (ofUnits add.1 add.2).minutes < 0) ∧
      (add.2 = 0 → (ofUnits add.1 add.2).minutes = 0) := by
  obtain ⟨unit, amount⟩ := add
  cases unit <;> simp only [ofUnits] <;> omega

/-- A sum lies between the sums of either side, and those lie on their sides. -/
theorem sides (adds : List (ClockUnit × Int)) :
    (total (backward adds)).minutes ≤ (total adds).minutes ∧
      (total adds).minutes ≤ (total (forward adds)).minutes ∧
      (total (backward adds)).minutes ≤ 0 ∧ 0 ≤ (total (forward adds)).minutes := by
  induction adds with
  | nil => decide
  | cons add adds ih =>
      obtain ⟨hpos, hneg, hzero⟩ := ofUnits_sign add
      unfold forward backward at ih ⊢
      simp only [List.filter_cons, decide_eq_true_eq]
      split_ifs <;> simp only [minutes_total_cons] <;> omega

theorem between_sides (hperm : other.Perm adds) (hfront : front <+: other) :
    (total (backward adds)).minutes ≤ (total front).minutes ∧
      (total front).minutes ≤ (total (forward adds)).minutes := by
  obtain ⟨back, rfl⟩ := hfront
  have hforward : (total (forward (front ++ back))).minutes = (total (forward adds)).minutes :=
    congrArg minutes (total_eq_of_perm (hperm.filter _))
  have hbackward : (total (backward (front ++ back))).minutes = (total (backward adds)).minutes :=
    congrArg minutes (total_eq_of_perm (hperm.filter _))
  simp only [forward, List.filter_append, minutes_total_append] at hforward
  simp only [backward, List.filter_append, minutes_total_append] at hbackward
  obtain ⟨hlow, hhigh, -, -⟩ := sides front
  obtain ⟨-, -, hbefore, hbehind⟩ := sides back
  unfold forward backward at *
  omega

theorem amount_between_sides (hadd : add ∈ adds) :
    (total (backward adds)).minutes ≤ (ofUnits add.1 add.2).minutes ∧
      (ofUnits add.1 add.2).minutes ≤ (total (forward adds)).minutes := by
  -- An amount is the first sum of the order in which it comes first.
  have hperm : (add :: adds.erase add).Perm adds := (List.perm_cons_erase hadd).symm
  have h := between_sides hperm (⟨_, rfl⟩ : [add] <+: add :: adds.erase add)
  simpa [total] using h

/-- Every order stays within the bounds if the additions to either side do. -/
theorem forall_perm_stays_iff :
    (∀ other : List (ClockUnit × Int), other.Perm adds → Stays other) ↔
      (total (forward adds)).inRange ∧ (total (backward adds)).inRange := by
  constructor
  · intro h
    have hside (p : ClockUnit × Int → Bool) : (total (adds.filter p)).inRange :=
      (h _ (List.filter_append_perm p adds)).sums _ (List.prefix_append _ _)
    exact ⟨hside _, hside _⟩
  · rintro ⟨hforward, hbackward⟩ other hperm
    rw [inRange_iff] at hforward hbackward
    constructor
    · intro add hadd
      have hbetween := amount_between_sides (hperm.mem_iff.mp hadd)
      rw [inRange_iff]
      omega
    · intro front hfront
      have hbetween := between_sides hperm hfront
      rw [inRange_iff]
      omega

end ClockOffset

namespace TemporalSpec
open ClockOffset Text
variable {base spec : TemporalSpec} {adds : List (ClockUnit × Int)} {add : ClockUnit × Int}

/-- Additions of units of passing time, as a request takes them. -/
def asked (adds : List (ClockUnit × Int)) : List (TemporalUnit × Int) :=
  adds.map fun add => (.clock add.1, add.2)

/-- What is wrong with an addition that leaves the bounds. -/
def outOfRange (add : ClockUnit × Int) : ArgumentFault :=
  .offsetTooLarge add.2 (String.ofList [(TemporalUnit.clock add.1).letter])

/-- One addition: the amount and the sum are checked, and nothing else is touched. -/
theorem add_clock (spec : TemporalSpec) (add : ClockUnit × Int) :
    spec.add (.clock add.1) add.2 =
      if (ofUnits add.1 add.2).inRange ∧
          (⟨spec.clock.minutes + (ofUnits add.1 add.2).minutes⟩ : ClockOffset).inRange then
        .ok { spec with clock := ⟨spec.clock.minutes + (ofUnits add.1 add.2).minutes⟩ }
      else .error (outOfRange add).raised := by
  simp only [TemporalSpec.add, add?, Bool.and_eq_true]
  split_ifs <;> rfl

theorem add_behind_total (base : TemporalSpec) (adds : List (ClockUnit × Int))
    (add : ClockUnit × Int) :
    { base with clock := total adds }.add (.clock add.1) add.2 =
      if (ofUnits add.1 add.2).inRange ∧ (total (adds ++ [add])).inRange then
        .ok { base with clock := total (adds ++ [add]) }
      else .error (outOfRange add).raised := by
  have hsum : (⟨(total adds).minutes + (ofUnits add.1 add.2).minutes⟩ : ClockOffset) =
      total (adds ++ [add]) := by
    simp [total]
  rw [add_clock, hsum]

theorem addAll_asked_concat (base : TemporalSpec) (adds : List (ClockUnit × Int))
    (add : ClockUnit × Int) :
    base.addAll (asked (adds ++ [add])) =
      base.addAll (asked adds) >>= fun next => next.add (.clock add.1) add.2 := by
  rw [asked, List.map_append, addAll_append]
  refine congrArg (base.addAll (asked adds) >>= ·) (funext fun next => ?_)
  cases hnext : next.add (.clock add.1) add.2 <;> simp [addAll, hnext, bind, Except.bind]

theorem addAll_of_stays (hbase : base.clock = .zero) (h : Stays adds) :
    base.addAll (asked adds) = .ok { base with clock := total adds } := by
  induction adds using List.reverseRecOn with
  | nil =>
      rw [total_nil, ← hbase]
      rfl
  | append_singleton adds add ih =>
      obtain ⟨hstays, hadd⟩ := stays_concat_iff.mp h
      rw [addAll_asked_concat, ih hstays]
      exact (add_behind_total base adds add).trans (if_pos hadd)

theorem addAll_of_not_stays (hbase : base.clock = .zero) (h : ¬ Stays adds) :
    ∃ front add back, adds = front ++ add :: back ∧ Stays front ∧ ¬ Stays (front ++ [add]) ∧
      base.addAll (asked adds) = .error (outOfRange add).raised := by
  induction adds using List.reverseRecOn with
  | nil => exact absurd stays_nil h
  | append_singleton adds add ih =>
      by_cases hstays : Stays adds
      · refine ⟨adds, add, [], rfl, hstays, h, ?_⟩
        rw [stays_concat_iff, not_and] at h
        rw [addAll_asked_concat, addAll_of_stays hbase hstays]
        exact (add_behind_total base adds add).trans (if_neg (h hstays))
      · obtain ⟨front, first, back, rfl, hfront, hfirst, herror⟩ := ih hstays
        refine ⟨front, first, back ++ [add], by simp, hfront, hfirst, ?_⟩
        rw [addAll_asked_concat, herror]
        rfl

/-- Hours and minutes that are added to a request without a clock offset are accepted if
they stay within the bounds, and then come to their total; otherwise the first one that
leaves the bounds is refused, with its amount if that can be written. So all orders that are
accepted come to the same, and every order is accepted exactly if the additions to either side
are within the bounds. -/
theorem addAll_clock (hbase : base.clock = .zero) (adds : List (ClockUnit × Int)) :
    ((∃ spec, base.addAll (asked adds) = .ok spec) ↔ Stays adds) ∧
    (∀ spec, base.addAll (asked adds) = .ok spec → spec = { base with clock := total adds }) ∧
    (∀ fault, base.addAll (asked adds) = .error fault →
      ∃ front add back, adds = front ++ add :: back ∧ Stays front ∧ ¬ Stays (front ++ [add]) ∧
        fault = (outOfRange add).raised ∧
        (add.2.natAbs < 10 ^ digitLimit → fault = .argument (outOfRange add))) ∧
    (∀ other : List (ClockUnit × Int), other.Perm adds → Stays other → Stays adds →
      base.addAll (asked other) = base.addAll (asked adds)) ∧
    ((∀ other : List (ClockUnit × Int), other.Perm adds →
        ∃ spec, base.addAll (asked other) = .ok spec) ↔
      (total (forward adds)).inRange ∧ (total (backward adds)).inRange) := by
  have haccepted (adds : List (ClockUnit × Int)) :
      (∃ spec, base.addAll (asked adds) = .ok spec) ↔ Stays adds := by
    constructor
    · rintro ⟨spec, hspec⟩
      by_contra h
      obtain ⟨_, _, _, -, -, -, herror⟩ := addAll_of_not_stays hbase h
      cases hspec.symm.trans herror
    · exact fun h => ⟨_, addAll_of_stays hbase h⟩
  refine ⟨haccepted adds, fun spec hspec => ?_, fun fault hfault => ?_, ?_, ?_⟩
  · have hstays := (haccepted adds).mp ⟨spec, hspec⟩
    exact Except.ok.inj (hspec.symm.trans (addAll_of_stays hbase hstays))
  · have hstays : ¬ Stays adds := by
      intro h
      cases hfault.symm.trans (addAll_of_stays hbase h)
    obtain ⟨front, add, back, hadds, hfront, hadd, herror⟩ := addAll_of_not_stays hbase hstays
    obtain rfl := Except.error.inj (hfault.symm.trans herror)
    refine ⟨front, add, back, hadds, hfront, hadd, rfl, fun hshort => ?_⟩
    exact ArgumentFault.raised_of_isShort (List.forall_mem_singleton.mpr hshort)
  · intro other hperm hother hadds
    rw [addAll_of_stays hbase hother, addAll_of_stays hbase hadds, total_eq_of_perm hperm]
  · simp only [haccepted]
    exact forall_perm_stays_iff

/-- As far as it goes on one side and on the other: every order is accepted. -/
theorem addAll_clock_far_and_back :
    let adds : List (ClockUnit × Int) :=
      [(.hour, 23999999999), (.minute, 59), (.hour, -23999999975)]
    TemporalSpec.empty.clock = .zero ∧
      ∀ other : List (ClockUnit × Int), other.Perm adds →
        TemporalSpec.empty.addAll (asked other) = .ok { empty with clock := ⟨1499⟩ } := by
  intro adds
  have hbase : TemporalSpec.empty.clock = .zero := rfl
  obtain ⟨-, -, -, -, horders⟩ := addAll_clock hbase adds
  refine ⟨hbase, fun other hperm => ?_⟩
  obtain ⟨spec, hspec⟩ := horders.mpr (by decide) other hperm
  obtain ⟨-, htotal, -⟩ := addAll_clock hbase other
  rw [hspec, htotal spec hspec, total_eq_of_perm hperm]
  rfl

/-- The total is no offset at all, but on the way it is out of the bounds; in another order
it is not. -/
theorem addAll_hours_refused :
    let adds : List (ClockUnit × Int) :=
      [(.hour, 20000000000), (.hour, 10000000000), (.hour, -20000000000), (.hour, -10000000000)]
    let other : List (ClockUnit × Int) :=
      [(.hour, 20000000000), (.hour, -20000000000), (.hour, 10000000000), (.hour, -10000000000)]
    total adds = .zero ∧ (total adds).inRange ∧ other.Perm adds ∧
      empty.addAll (asked adds) = .error (.argument (.offsetTooLarge 10000000000 "h")) ∧
      empty.addAll (asked other) = .ok empty :=
  ⟨rfl, rfl, .cons _ (.swap _ _ _), rfl, rfl⟩

end TemporalSpec

end FixtureKeywords
