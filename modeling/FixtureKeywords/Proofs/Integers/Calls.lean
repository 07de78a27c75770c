import FixtureKeywords.Proofs.Integers.Builder
import FixtureKeywords.Proofs.Transcript

/-!
# An integer builder call by call

A range that is stored increases, since the call that gives it refuses any other. There are
two integers in a row in it, one even and one odd, so no parity that is asked for later can
keep the builder from drawing. What is drawn are the steps from the first integer that is
wanted, so each of these has one answer to the draw, and no other integer has any.
-/
namespace FixtureKeywords

namespace DrawProgram
variable {low high : Int}

/-- A single draw between two bounds, whose answers stand one for one for what is wanted. -/
def DrawsOneOf (program : DrawProgram Int) (wanted : Int → Prop) : Prop :=
  ∃ first last, ∃ ordered : first ≤ last,
    ∃ value : Fin (Draw.between first last ordered).span → Int,
      program = .ask (.between first last ordered) (fun k => .done (value k)) ∧
        Function.Injective value ∧ ∀ n, wanted n ↔ ∃ k, value k = n

theorem drawsOneOf_between (ordered : low ≤ high) :
    (between low high ordered).DrawsOneOf fun n => low ≤ n ∧ n ≤ high := by
  refine ⟨low, high, ordered, fun k => low + k.val, rfl, ?_, fun n => ⟨?_, ?_⟩⟩
  · intro j k hjk
    exact Fin.ext (by simpa using hjk)
  · rintro ⟨hlow, hhigh⟩
    exact ⟨⟨(n - low).toNat, by simp only [Draw.span]; omega⟩, by simp only; omega⟩
  · rintro ⟨k, rfl⟩
    have hk : k.val < (high - low + 1).toNat := k.isLt
    dsimp only
    omega

namespace DrawsOneOf
variable {program : DrawProgram Int} {wanted : Int → Prop}

theorem map (h : program.DrawsOneOf wanted) {f : Int → Int} (hf : Function.Injective f) :
    (program.map f).DrawsOneOf fun n => ∃ k, wanted k ∧ f k = n := by
  obtain ⟨first, last, ordered, value, rfl, hvalue, hwanted⟩ := h
  refine ⟨first, last, ordered, fun k => f (value k), rfl, hf.comp hvalue, fun n => ?_⟩
  simp only [hwanted]
  constructor
  · rintro ⟨_, ⟨k, rfl⟩, rfl⟩
    exact ⟨k, rfl⟩
  · rintro ⟨k, rfl⟩
    exact ⟨_, ⟨k, rfl⟩, rfl⟩

theorem congr {others : Int → Prop} (h : program.DrawsOneOf wanted)
    (hsame : ∀ n, others n ↔ wanted n) : program.DrawsOneOf others := by
  obtain ⟨first, last, ordered, value, hprogram, hvalue, hwanted⟩ := h
  exact ⟨first, last, ordered, value, hprogram, hvalue, fun n => (hsame n).trans (hwanted n)⟩

theorem run (h : program.DrawsOneOf wanted) {σ : Type} (source : Source σ) (state : σ) :
    wanted (program.run source state).1 ∧ ∃ first last, ∃ ordered : first ≤ last,
      program.draws source state = [.between first last ordered] := by
  obtain ⟨first, last, ordered, value, rfl, -, hwanted⟩ := h
  exact ⟨(hwanted _).mpr ⟨_, rfl⟩, first, last, ordered, rfl⟩

end DrawsOneOf

end DrawProgram

theorem Parity.between_iff (wanted : Parity) {low high : Int} (n : Int) :
    (low ≤ n ∧ n ≤ high ∧ wanted.holds n = true) ↔
      ∃ k : Int, (0 ≤ k ∧ k ≤ (wanted.below high - wanted.above low) / 2) ∧
        wanted.above low + 2 * k = n := by
  constructor
  · rintro ⟨hlow, hhigh, hn⟩
    refine ⟨(n - wanted.above low) / 2, ?_⟩
    cases wanted <;> simp only [above, below, holds, beq_iff_eq, bne_iff_ne] at hn ⊢ <;>
      split_ifs <;> omega
  · rintro ⟨k, hk, rfl⟩
    cases wanted <;> simp only [above, below, holds, beq_iff_eq, bne_iff_ne] at hk ⊢ <;>
      split_ifs at hk ⊢ <;> omega

/-- Between bounds that increase, every integer of the parity can be drawn. -/
theorem Sample.exists_drawsOneOf {low high : Int} (h : low < high) (wanted : Option Parity) :
    ∃ program, within wanted low high = .ok program ∧
      program.DrawsOneOf fun n => low ≤ n ∧ n ≤ high ∧ ∀ p ∈ wanted, p.holds n = true := by
  cases wanted with
  | none =>
      refine ⟨_, dif_neg (by omega), (DrawProgram.drawsOneOf_between h.le).congr fun n => ?_⟩
      simp
  | some wanted =>
      have hfirst := wanted.above_le_below h
      have hsteps := (DrawProgram.drawsOneOf_between (by omega :
        0 ≤ (wanted.below high - wanted.above low) / 2)).map
          (f := fun k => wanted.above low + 2 * k) fun j k hjk => by dsimp only at hjk; omega
      refine ⟨_, (if_neg (by omega)).trans (dif_neg (by omega)), hsteps.congr fun n => ?_⟩
      rw [← wanted.between_iff]
      simp

namespace IntegerBuilder

/-- An integer between the bounds, and of the parity if one was asked for. -/
def Admits (b : IntegerBuilder) (n : Int) : Prop :=
  b.bounds.1 ≤ n ∧ n ≤ b.bounds.2 ∧ ∀ p ∈ b.parity, p.holds n = true

namespace Call

def renews : Call → Bool
  | clear | buildAndClear => true
  | _ => false

def range? : Call → Option (Int × Int)
  | range low high => some (low, high)
  | _ => none

def parity? : Call → Option Parity
  | parity wanted => some wanted
  | _ => none

end Call

variable {σ : Type} {source : Source σ}

/-- What a call can come to. -/
inductive Effect (e : Entry (Supplied IntegerBuilder σ) Call Answer) : Prop
  | refuses (fault : Fault) (outcome : e.outcome = .error fault) (after : e.after = e.before)
  | bounds (low high : Int) (call : e.call = .range low high) (free : e.before.thing.range = none)
      (increasing : low < high) (outcome : e.outcome = .ok .chained)
      (after : e.after.thing = { e.before.thing with range := some (low, high) })
  | asks (wanted : Parity) (call : e.call = .parity wanted)
      (agrees : ∀ p ∈ e.before.thing.parity, p = wanted) (outcome : e.outcome = .ok .chained)
      (after : e.after.thing = { e.before.thing with parity := some wanted })
  | builds (call : e.call = .build ∨ e.call = .buildAndClear) (n : Int)
      (outcome : e.outcome = .ok (.built n))
      (after : e.after.thing = if e.call.renews then fresh else e.before.thing)
  | clears (call : e.call = .clear) (outcome : e.outcome = .ok .cleared)
      (after : e.after.thing = fresh)

section
variable {b : IntegerBuilder}

theorem setRange_eq_ok {low high : Int} {next : IntegerBuilder}
    (h : setRange low high b = .ok next) :
    b.range = none ∧ low < high ∧ next = { b with range := some (low, high) } := by
  unfold setRange at h
  cases hrange : b.range with
  | some range => simp only [hrange, reduceCtorEq] at h
  | none =>
      simp only [hrange] at h
      split_ifs at h with hhigh
      exact ⟨rfl, Int.not_le.mp hhigh, (Except.ok.inj h).symm⟩

theorem setParity_eq_ok {wanted : Parity} {next : IntegerBuilder}
    (h : setParity wanted b = .ok next) :
    (∀ p ∈ b.parity, p = wanted) ∧ next = { b with parity := some wanted } := by
  obtain ⟨range, parity⟩ := b
  cases parity with
  | none => exact ⟨nofun, (Except.ok.inj h).symm⟩
  | some p =>
      dsimp only [setParity] at h
      split_ifs at h with hp
      obtain rfl := hp
      exact ⟨fun q hq => (Option.some.inj hq).symm, (Except.ok.inj h).symm⟩

theorem call_build_error {fault : Fault} (h : b.build = .error fault) {call : Call}
    (hcall : call = .build ∨ call = .buildAndClear) :
    Method.call (act call) b = pure (.error fault, b) := by
  rcases hcall with rfl | rfl <;>
    simp only [act, Method.call_bind, Method.call_get, pure_bind, Method.call_ofOutcome, h]

theorem call_build_ok {program : DrawProgram Int} (h : b.build = .ok program) {call : Call}
    (hcall : call = .build ∨ call = .buildAndClear) :
    Method.call (act call) b = program.map fun n =>
      (.ok (.built n), if call.renews then fresh else b) := by
  rcases hcall with rfl | rfl
  · simp only [act, Method.call_bind, Method.call_get, pure_bind, Method.call_ofOutcome, h,
      Method.call_draw, DrawProgram.map_eq_bind]
    exact DrawProgram.bind_assoc _ _ _
  · simp only [act, Method.call_bind, Method.call_get, pure_bind, Method.call_ofOutcome, h,
      Method.call_draw, Method.call_set, DrawProgram.map_eq_bind]
    exact DrawProgram.bind_assoc _ _ _

end

variable {s : Supplied IntegerBuilder σ}

theorem effect_of_error {call : Call} {fault : Fault}
    (h : Method.call (act call) s.thing = pure (.error fault, s.thing)) :
    Effect (Transcript.entry (Supplied.respond act source) s call) := by
  have hrespond := Supplied.respond_done source h
  exact .refuses fault (congrArg Prod.fst hrespond) (congrArg Prod.snd hrespond)

theorem effect_of_build {call : Call} (hcall : call = .build ∨ call = .buildAndClear) :
    Effect (Transcript.entry (Supplied.respond act source) s call) := by
  cases hbuild : s.thing.build with
  | error fault => exact effect_of_error (call_build_error hbuild hcall)
  | ok program =>
      have hrespond := Supplied.respond_map source (call_build_ok hbuild hcall)
      exact .builds hcall _ (congrArg Prod.fst hrespond)
        (congrArg (fun r => r.2.thing) hrespond)

theorem effect (s : Supplied IntegerBuilder σ) (call : Call) :
    Effect (Transcript.entry (Supplied.respond act source) s call) := by
  cases call with
  | range low high =>
      cases hrange : setRange low high s.thing with
      | error fault => exact effect_of_error (Method.call_assign_error hrange _)
      | ok next =>
          obtain ⟨hfree, hincreasing, rfl⟩ := setRange_eq_ok hrange
          have hcall : Method.call (act (.range low high)) s.thing =
              pure (.ok .chained, { s.thing with range := some (low, high) }) :=
            Method.call_assign_ok hrange _
          have hrespond := Supplied.respond_done source hcall
          exact .bounds low high rfl hfree hincreasing (congrArg Prod.fst hrespond)
            (congrArg (fun r => r.2.thing) hrespond)
  | parity wanted =>
      cases hparity : setParity wanted s.thing with
      | error fault => exact effect_of_error (Method.call_assign_error hparity _)
      | ok next =>
          obtain ⟨hagrees, rfl⟩ := setParity_eq_ok hparity
          have hcall : Method.call (act (.parity wanted)) s.thing =
              pure (.ok .chained, { s.thing with parity := some wanted }) :=
            Method.call_assign_ok hparity _
          have hrespond := Supplied.respond_done source hcall
          exact .asks wanted rfl hagrees (congrArg Prod.fst hrespond)
            (congrArg (fun r => r.2.thing) hrespond)
  | build => exact effect_of_build (.inl rfl)
  | clear =>
      have hrespond := Supplied.respond_done source
        (rfl : Method.call (act .clear) s.thing = pure (.ok .cleared, fresh))
      exact .clears rfl (congrArg Prod.fst hrespond) (congrArg (fun r => r.2.thing) hrespond)
  | buildAndClear => exact effect_of_build (.inr rfl)

/-- A call that fails leaves the builder and the source as they were, and makes no draw. -/
theorem Effect.after_of_error {e : Entry (Supplied IntegerBuilder σ) Call Answer}
    {fault : Fault} (h : Effect e) (herror : e.outcome = .error fault) : e.after = e.before := by
  cases h with
  | refuses _ _ hafter => exact hafter
  | bounds _ _ _ _ _ houtcome => cases herror.symm.trans houtcome
  | asks _ _ _ houtcome => cases herror.symm.trans houtcome
  | builds _ _ houtcome => cases herror.symm.trans houtcome
  | clears _ houtcome => cases herror.symm.trans houtcome

structure Tells (standing : List (Entry (Supplied IntegerBuilder σ) Call Answer))
    (b : IntegerBuilder) : Prop where
  ranges : standing.filterMap (fun e => e.call.range?) = b.range.toList
  parities : ∀ p, p ∈ standing.filterMap (fun e => e.call.parity?) ↔ p ∈ b.parity
  increasing : ∀ range ∈ b.range, range.1 < range.2

namespace Tells
variable {standing : List (Entry (Supplied IntegerBuilder σ) Call Answer)} {b : IntegerBuilder}

theorem fresh : Tells (σ := σ) [] fresh :=
  ⟨rfl, fun _ => ⟨nofun, nofun⟩, nofun⟩

theorem after {e : Entry (Supplied IntegerBuilder σ) Call Answer}
    (h : Tells standing e.before.thing) (heffect : Effect e) :
    Tells (Transcript.stand Call.renews standing e) e.after.thing := by
  cases heffect with
  | refuses fault houtcome hafter =>
      rw [Transcript.stand_error houtcome, hafter]
      exact h
  | bounds low high hcall hfree hincreasing houtcome hafter =>
      have hrange : e.call.range? = some (low, high) := by rw [hcall]; rfl
      have hparity : e.call.parity? = none := by rw [hcall]; rfl
      have hrenews : e.call.renews = false := by rw [hcall]; rfl
      rw [Transcript.stand_ok houtcome, hrenews, hafter]
      refine ⟨?_, ?_, ?_⟩
      · simp [h.ranges, hfree, hrange]
      · simpa [hparity] using h.parities
      · simpa using hincreasing
  | asks wanted hcall hagrees houtcome hafter =>
      have hrange : e.call.range? = none := by rw [hcall]; rfl
      have hparity : e.call.parity? = some wanted := by rw [hcall]; rfl
      have hrenews : e.call.renews = false := by rw [hcall]; rfl
      rw [Transcript.stand_ok houtcome, hrenews, hafter]
      refine ⟨?_, fun p => ?_, h.increasing⟩
      · simp [h.ranges, hrange]
      · -- A parity that was asked for before is the same one.
        have hstanding := h.parities p
        simp only [Bool.false_eq_true, if_false, List.filterMap_append, List.mem_append, hstanding,
          List.filterMap_cons, hparity, List.filterMap_nil, List.mem_singleton, Option.mem_some_iff]
        exact ⟨fun hp => hp.elim (fun hp => (hagrees p hp).symm) Eq.symm, fun hp => .inr hp.symm⟩
  | builds hcall n houtcome hafter =>
      obtain ⟨hrange, hparity⟩ : e.call.range? = none ∧ e.call.parity? = none := by
        rcases hcall with hcall | hcall <;> rw [hcall] <;> exact ⟨rfl, rfl⟩
      rw [Transcript.stand_ok houtcome, hafter]
      split_ifs
      · exact fresh
      · refine ⟨?_, ?_, h.increasing⟩
        · simp [h.ranges, hrange]
        · simpa [hparity] using h.parities
  | clears hcall houtcome hafter =>
      rw [Transcript.stand_ok houtcome, hcall, hafter]
      exact fresh

theorem bounds_increase (h : Tells standing b) : b.bounds.1 < b.bounds.2 := by
  unfold bounds
  cases hrange : b.range with
  | none => decide
  | some range => exact h.increasing range hrange

end Tells

theorem exists_built {s : Supplied IntegerBuilder σ} {program : DrawProgram Int}
    (hbuild : s.thing.build = .ok program) (hdraws : program.DrawsOneOf s.thing.Admits)
    (source : Source σ) {call : Call} (hcall : call = .build ∨ call = .buildAndClear) :
    let e := Transcript.entry (Supplied.respond act source) s call
    ∃ n first last, ∃ ordered : first ≤ last, e.outcome = .ok (.built n) ∧ s.thing.Admits n ∧
      e.after.drawn = s.drawn ++ [.between first last ordered] ∧
      e.after.thing = if call.renews then fresh else s.thing := by
  intro e
  obtain ⟨hadmits, first, last, ordered, hdrawn⟩ := hdraws.run source s.source
  have hrespond := Supplied.respond_map source (call_build_ok hbuild hcall)
  rw [hdrawn] at hrespond
  exact ⟨_, first, last, ordered, congrArg Prod.fst hrespond, hadmits,
    congrArg (fun r => r.2.drawn) hrespond, congrArg (fun r => r.2.thing) hrespond⟩

/-- Whatever was called, and whatever failed, a builder can draw, and by one draw: what it
admits, and every integer that it admits. -/
theorem calls_build (source : Source σ) (state : σ) (calls : List Call) :
    let new : Supplied IntegerBuilder σ := ⟨fresh, state, []⟩
    let respond := Supplied.respond act source
    let now := Transcript.final respond new calls
    let standing := Transcript.standing Call.renews (Transcript.entries respond new calls)
    Supplied.Makes act source new calls (performAll fresh calls) ∧
      -- The range and the parity.
      standing.filterMap (fun e => e.call.range?) = now.thing.range.toList ∧
      (∀ p, p ∈ standing.filterMap (fun e => e.call.parity?) ↔ p ∈ now.thing.parity) ∧
      (∀ range ∈ now.thing.range, range.1 < range.2) ∧
      -- What can be drawn.
      (∃ program, now.thing.build = .ok program ∧ program.DrawsOneOf now.thing.Admits) ∧
      -- A further call.
      ∀ call : Call,
        let e := Transcript.entry respond now call
        (∀ fault, e.outcome = .error fault → e.after = now) ∧
          (call = .build ∨ call = .buildAndClear →
            ∃ n first last, ∃ ordered : first ≤ last,
              e.outcome = .ok (.built n) ∧ now.thing.Admits n ∧
                e.after.drawn = now.drawn ++ [.between first last ordered] ∧
                e.after.thing = if call.renews then fresh else now.thing) := by
  intro new respond now standing
  have htells : Tells standing now.thing :=
    Transcript.keeps (fun standing s => Tells standing s.thing)
      (fun _ s call h => h.after (effect s call)) Tells.fresh calls
  obtain ⟨program, hbuild, hdraws⟩ :=
    Sample.exists_drawsOneOf htells.bounds_increase now.thing.parity
  exact ⟨Supplied.makes_callAll act source new calls, htells.ranges, htells.parities, htells.increasing,
    ⟨program, hbuild, hdraws⟩, fun call => ⟨fun _ => (effect now call).after_of_error,
      exists_built hbuild hdraws source⟩⟩

end IntegerBuilder

end FixtureKeywords
