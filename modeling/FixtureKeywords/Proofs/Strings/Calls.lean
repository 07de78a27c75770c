import FixtureKeywords.Proofs.Generation
import FixtureKeywords.Proofs.Transcript
import FixtureKeywords.Random.Request
import FixtureKeywords.Random.Scripted

/-!
# A string generator call by call

A generator of random strings is told by the calls that stand: those that succeeded since it
was last cleared. Their texts, one behind the other, are what it draws from, and the one call
among them that fixes a length has fixed it. A range of lengths takes its draw in that call,
so the strings that are built afterwards all have the same length.

What a call can come to is said once, in `Effect`. The relation between the calls that stand
and the generator is read off it, call by call.
-/
namespace FixtureKeywords

namespace DrawProgram
variable {α : Type} {items : Array α} {positive : 0 < items.size}

theorem asks_pickOnto (count : Nat) (taken : List α) :
    (pickOnto items positive count taken).Asks
      (List.replicate count (.pick items.size positive)) := by
  intro σ source state
  induction count generalizing taken state with
  | zero => rfl
  | succ count ih => simp only [pickOnto, draws, List.replicate_succ, ih]

theorem yields_pickOnto (count : Nat) (taken : List α) :
    (pickOnto items positive count taken).Yields fun values =>
      ∃ picked, values = taken.reverse ++ picked ∧ picked.length = count ∧
        ∀ x ∈ picked, x ∈ items := by
  intro σ source state
  induction count generalizing taken state with
  | zero => exact ⟨[], (List.append_nil _).symm, rfl, nofun⟩
  | succ count ih =>
      rw [pickOnto, run]
      rcases source.below items.size positive state with ⟨k, state⟩
      obtain ⟨picked, hvalues, hlength, hitems⟩ := ih (items[k] :: taken) state
      refine ⟨items[k] :: picked, ?_, congrArg Nat.succ hlength, ?_⟩
      · exact hvalues.trans (by rw [List.reverse_cons, List.append_assoc]; rfl)
      · rintro x (_ | ⟨_, hx⟩)
        · exact Array.getElem_mem k.isLt
        · exact hitems x hx

end DrawProgram

namespace StringGenerator

namespace Call

/-- Calls behind which nothing is collected and no length is fixed. -/
def renews : Call → Bool
  | clear | buildAndClear => true
  | _ => false

def fixes : Call → Bool
  | length _ | lengthBetween _ _ => true
  | _ => false

def text? : Call → Option Text
  | select chosen => some chosen.characters
  | add given => given.asText?.map String.toList
  | _ => none

theorem of_text? {call : Call} {t : Text} (h : call.text? = some t) :
    call.renews = false ∧ call.fixes = false := by
  cases call with
  | select _ => exact ⟨rfl, rfl⟩
  | add _ => exact ⟨rfl, rfl⟩
  | _ => cases h

theorem of_fixes {call : Call} (h : call.fixes = true) :
    call.renews = false ∧ call.text? = none := by
  cases call with
  | length _ => exact ⟨rfl, rfl⟩
  | lengthBetween _ _ => exact ⟨rfl, rfl⟩
  | _ => cases h

end Call

variable {σ : Type} {source : Source σ}

theorem asks_build (g : StringGenerator) :
    g.build.Asks (List.replicate g.length
      (.pick g.characters.length (List.length_pos_iff.mpr g.characters_ne_nil))) := by
  intro σ source state
  exact DrawProgram.asks_pickOnto g.length [] σ source state

theorem yields_build (g : StringGenerator) :
    g.build.Yields fun t => t.length = g.length ∧ ∀ c ∈ t, c ∈ g.characters := by
  intro σ source state
  obtain ⟨picked, hvalues, hlength, hitems⟩ :=
    DrawProgram.yields_pickOnto g.length [] σ source state
  rw [show (g.build.run source state).1 = picked from hvalues]
  exact ⟨hlength, fun c hc => List.mem_toArray.mp (hitems c hc)⟩

/-- The length that a call fixes. One of a range is drawn from the source as the call finds
it. -/
def lengthFixed? (source : Source σ) (e : Entry (Supplied StringGenerator σ) Call Answer) :
    Option Nat :=
  match e.call with
  | .length n => some n.toNat
  | .lengthBetween shortest longest =>
      match DrawProgram.integer shortest longest with
      | .ok program => some (program.run source e.before.source).1.toNat
      | .error _ => none
  | _ => none

/-- What a call can come to. -/
inductive Effect (source : Source σ) (e : Entry (Supplied StringGenerator σ) Call Answer) : Prop
  | refuses (fault : Fault) (outcome : e.outcome = .error fault) (after : e.after = e.before)
  | collects (t : Text) (text : e.call.text? = some t) (outcome : e.outcome = .ok .chained)
      (after : e.after = { e.before with thing := e.before.thing.collect t })
  | fixes (n : Nat) (call : e.call.fixes) (free : e.before.thing.fixed = none)
      (positive : 1 ≤ n) (length : lengthFixed? source e = some n)
      (outcome : e.outcome = .ok .chained)
      (after : e.after.thing = { e.before.thing with fixed := some n })
  | builds (call : e.call = .build ∨ e.call = .buildAndClear) (t : Text)
      (outcome : e.outcome = .ok (.built t))
      (after : e.after.thing =
        if e.call.renews then e.before.thing.clear else e.before.thing)
  | clears (call : e.call = .clear) (outcome : e.outcome = .ok .cleared)
      (after : e.after = { e.before with thing := e.before.thing.clear })

section
variable {g next : StringGenerator} {shortest longest : Int}
  {program : DrawProgram StringGenerator}

theorem fixLength_eq_ok {n : Int} (h : fixLength n g = .ok next) :
    g.fixed = none ∧ 1 ≤ n ∧ next = { g with fixed := some n.toNat } := by
  unfold fixLength at h
  cases hfixed : g.fixed with
  | some m => simp only [hfixed, reduceCtorEq] at h
  | none =>
      simp only [hfixed] at h
      split_ifs at h with hn
      exact ⟨rfl, by omega, (Except.ok.inj h).symm⟩

theorem drawLength_eq_ok (h : drawLength shortest longest g = .ok program) :
    g.fixed = none ∧ 1 ≤ shortest ∧ ∃ ordered : shortest ≤ longest,
      program = (DrawProgram.between shortest longest ordered).map fun n =>
        { g with fixed := some n.toNat } := by
  unfold drawLength at h
  cases hfixed : g.fixed with
  | some m => simp only [hfixed, reduceCtorEq] at h
  | none =>
      simp only [hfixed] at h
      split_ifs at h with hshortest hlongest
      exact ⟨rfl, by omega, Int.not_lt.mp hlongest, (Except.ok.inj h).symm⟩

theorem call_lengthBetween_error {fault : Fault}
    (h : drawLength shortest longest g = .error fault) :
    Method.call (act (.lengthBetween shortest longest)) g = pure (.error fault, g) := by
  simp only [act, Method.call_bind, Method.call_get, pure_bind, Method.call_ofOutcome, h]

theorem call_lengthBetween_ok (h : drawLength shortest longest g = .ok program) :
    Method.call (act (.lengthBetween shortest longest)) g =
      program.map fun next => (.ok .chained, next) := by
  simp only [act, Method.call_bind, Method.call_get, pure_bind, Method.call_ofOutcome, h,
    Method.call_draw, DrawProgram.map_eq_bind]
  exact DrawProgram.bind_assoc _ _ _

theorem call_build {call : Call} (hcall : call = .build ∨ call = .buildAndClear) :
    Method.call (act call) g = g.build.map fun t =>
      (.ok (.built t), if call.renews then g.clear else g) := by
  rcases hcall with rfl | rfl
  · simp only [act, Method.call_bind, Method.call_get, pure_bind, Method.call_draw,
      DrawProgram.map_eq_bind]
    exact DrawProgram.bind_assoc _ _ _
  · simp only [act, Method.call_bind, Method.call_get, pure_bind, Method.call_draw,
      Method.call_modify, DrawProgram.map_eq_bind]
    exact DrawProgram.bind_assoc _ _ _

end

variable {s : Supplied StringGenerator σ}

theorem exists_built (source : Source σ) (s : Supplied StringGenerator σ) {call : Call}
    (hcall : call = .build ∨ call = .buildAndClear) :
    let e := Transcript.entry (Supplied.respond act source) s call
    ∃ t, e.outcome = .ok (.built t) ∧ t.length = s.thing.length ∧
      (∀ c ∈ t, c ∈ s.thing.characters) ∧
      e.after.drawn = s.drawn ++ List.replicate s.thing.length
        (.pick s.thing.characters.length
          (List.length_pos_iff.mpr s.thing.characters_ne_nil)) ∧
      e.after.thing = if call.renews then s.thing.clear else s.thing := by
  intro e
  have hbuilt := s.thing.yields_build σ source s.source
  have hdrawn := s.thing.asks_build σ source s.source
  have hrespond := Supplied.respond_map source (call_build (g := s.thing) hcall)
  rw [hdrawn] at hrespond
  exact ⟨_, congrArg Prod.fst hrespond, hbuilt.1, hbuilt.2,
    congrArg (fun r => r.2.drawn) hrespond, congrArg (fun r => r.2.thing) hrespond⟩

theorem effect_of_build {call : Call} (hcall : call = .build ∨ call = .buildAndClear) :
    Effect source (Transcript.entry (Supplied.respond act source) s call) := by
  obtain ⟨t, houtcome, -, -, -, hafter⟩ := exists_built source s hcall
  exact .builds hcall t houtcome hafter

theorem effect_of_error {call : Call} {fault : Fault}
    (h : Method.call (act call) s.thing = pure (.error fault, s.thing)) :
    Effect source (Transcript.entry (Supplied.respond act source) s call) := by
  have hrespond := Supplied.respond_done source h
  exact .refuses fault (congrArg Prod.fst hrespond) (congrArg Prod.snd hrespond)

theorem effect_of_collect {call : Call} {t : Text} (htext : call.text? = some t)
    (h : Method.call (act call) s.thing = pure (.ok .chained, s.thing.collect t)) :
    Effect source (Transcript.entry (Supplied.respond act source) s call) := by
  have hrespond := Supplied.respond_done source h
  exact .collects t htext (congrArg Prod.fst hrespond) (congrArg Prod.snd hrespond)

theorem effect_of_length (n : Int) :
    Effect source (Transcript.entry (Supplied.respond act source) s (.length n)) := by
  cases hlength : fixLength n s.thing with
  | error fault => exact effect_of_error (Method.call_assign_error hlength _)
  | ok next =>
      obtain ⟨hfree, hn, rfl⟩ := fixLength_eq_ok hlength
      have hcall : Method.call (act (.length n)) s.thing =
          pure (.ok .chained, { s.thing with fixed := some n.toNat }) :=
        Method.call_assign_ok hlength _
      have hrespond := Supplied.respond_done source hcall
      exact .fixes n.toNat rfl hfree (by omega) rfl (congrArg Prod.fst hrespond)
        (congrArg (fun r => r.2.thing) hrespond)

theorem effect_of_lengthBetween (shortest longest : Int) :
    Effect source (Transcript.entry (Supplied.respond act source) s
      (.lengthBetween shortest longest)) := by
  cases hlength : drawLength shortest longest s.thing with
  | error fault => exact effect_of_error (call_lengthBetween_error hlength)
  | ok program =>
      obtain ⟨hfree, hshortest, hordered, rfl⟩ := drawLength_eq_ok hlength
      have hrespond := Supplied.respond_map source (call_lengthBetween_ok hlength)
      rw [DrawProgram.run_map, DrawProgram.draws_map] at hrespond
      refine .fixes _ rfl hfree ?_ ?_ (congrArg Prod.fst hrespond)
        (congrArg (fun r => r.2.thing) hrespond)
      · have hdrawn : shortest ≤
            ((DrawProgram.between shortest longest hordered).run source s.source).1 :=
          Int.le_add_of_nonneg_right (Int.natCast_nonneg _)
        omega
      · simp only [lengthFixed?, Transcript.entry, DrawProgram.integer, dif_pos hordered]

theorem effect (s : Supplied StringGenerator σ) (call : Call) :
    Effect source (Transcript.entry (Supplied.respond act source) s call) := by
  cases call with
  | select chosen => exact effect_of_collect rfl rfl
  | add given =>
      cases htext : given.asText? with
      | none =>
          have hadd : collectGiven given s.thing = .error (if given.isWritable then
              .argument (.charactersNotText given.quoted) else .integerTooLong) := by
            simp only [collectGiven, htext]
          exact effect_of_error (Method.call_assign_error hadd _)
      | some t =>
          have hadd : collectGiven given s.thing = .ok (s.thing.collect t.toList) := by
            simp only [collectGiven, htext]
          exact effect_of_collect (congrArg (Option.map String.toList) htext)
            (Method.call_assign_ok hadd _)
  | length n => exact effect_of_length n
  | lengthBetween shortest longest => exact effect_of_lengthBetween shortest longest
  | build => exact effect_of_build (.inl rfl)
  | clear =>
      have hrespond := Supplied.respond_done source
        (rfl : Method.call (act .clear) s.thing = pure (.ok .cleared, s.thing.clear))
      exact .clears rfl (congrArg Prod.fst hrespond) (congrArg Prod.snd hrespond)
  | buildAndClear => exact effect_of_build (.inr rfl)

/-- A call that fails leaves the generator and the source as they were, and makes no draw. -/
theorem Effect.after_of_error {e : Entry (Supplied StringGenerator σ) Call Answer}
    {fault : Fault} (h : Effect source e) (herror : e.outcome = .error fault) :
    e.after = e.before := by
  cases h with
  | refuses _ _ hafter => exact hafter
  | collects _ _ houtcome => cases herror.symm.trans houtcome
  | fixes _ _ _ _ _ houtcome => cases herror.symm.trans houtcome
  | builds _ _ houtcome => cases herror.symm.trans houtcome
  | clears _ houtcome => cases herror.symm.trans houtcome

structure Tells (source : Source σ) (usual : Nat)
    (standing : List (Entry (Supplied StringGenerator σ) Call Answer))
    (g : StringGenerator) : Prop where
  usual : g.defaultLength = usual
  texts : g.collected = standing.filterMap fun e => e.call.text?
  lengths : (standing.filter fun e => e.call.fixes).map (lengthFixed? source) =
    g.fixed.toList.map some
  positive : ∀ n ∈ g.fixed, 1 ≤ n

namespace Tells
variable {usual : Nat} {standing : List (Entry (Supplied StringGenerator σ) Call Answer)}
  {g : StringGenerator}

theorem fresh (usual : Nat) : Tells source usual [] (fresh usual) :=
  ⟨rfl, rfl, rfl, nofun⟩

theorem clear (h : Tells source usual standing g) : Tells source usual [] g.clear :=
  ⟨h.usual, rfl, rfl, nofun⟩

theorem after {e : Entry (Supplied StringGenerator σ) Call Answer}
    (h : Tells source usual standing e.before.thing) (heffect : Effect source e) :
    Tells source usual (Transcript.stand Call.renews standing e) e.after.thing := by
  cases heffect with
  | refuses fault houtcome hafter =>
      rw [Transcript.stand_error houtcome, hafter]
      exact h
  | collects t htext houtcome hafter =>
      obtain ⟨hrenews, hfixes⟩ := Call.of_text? htext
      rw [Transcript.stand_ok houtcome, hrenews, hafter]
      refine ⟨h.usual, ?_, ?_, h.positive⟩
      · simp [collect, h.texts, htext]
      · simpa [collect, hfixes] using h.lengths
  | fixes n hfixes hfree hpositive hlength houtcome hafter =>
      obtain ⟨hrenews, htext⟩ := Call.of_fixes hfixes
      rw [Transcript.stand_ok houtcome, hrenews, hafter]
      -- No length was fixed, so none of the calls that stand has fixed one.
      have hnone : standing.filter (fun e => e.call.fixes) = [] := by
        simpa [hfree] using h.lengths
      refine ⟨h.usual, ?_, ?_, ?_⟩
      · simp [h.texts, htext]
      · simp [hnone, hfixes, hlength]
      · simpa using hpositive
  | builds hcall t houtcome hafter =>
      rw [Transcript.stand_ok houtcome, hafter]
      obtain hcall | hcall := hcall
      · rw [hcall]
        refine ⟨h.usual, ?_, ?_, h.positive⟩
        · simp [Call.renews, h.texts, hcall, Call.text?]
        · simpa [Call.renews, hcall, Call.fixes] using h.lengths
      · rw [hcall]
        exact h.clear
  | clears hcall houtcome hafter =>
      rw [Transcript.stand_ok houtcome, hcall, hafter]
      exact h.clear

theorem characters (h : Tells source usual standing g) :
    g.characters =
      let texts := (standing.filterMap fun e => e.call.text?).flatten
      if texts.isEmpty then CharClass.alphanumeric else texts := by
  unfold StringGenerator.characters
  rw [h.texts]

theorem length_pos (h : Tells source usual standing g) (husual : 1 ≤ usual) : 1 ≤ g.length := by
  unfold StringGenerator.length
  rw [h.usual]
  cases hfixed : g.fixed with
  | none => exact husual
  | some n => exact h.positive n hfixed

end Tells

/-- Only a call that fixes a length where none was fixed changes it without starting anew. -/
theorem Effect.length_after {e : Entry (Supplied StringGenerator σ) Call Answer}
    (h : Effect source e) (hrenews : e.call.renews = false) :
    e.after.thing.length = e.before.thing.length ∧
        e.after.thing.fixed = e.before.thing.fixed ∨
      e.before.thing.fixed = none ∧ e.call.fixes = true ∧ e.outcome = .ok .chained := by
  cases h with
  | refuses fault houtcome hafter => exact .inl (by rw [hafter]; exact ⟨rfl, rfl⟩)
  | collects t htext houtcome hafter => exact .inl (by rw [hafter]; exact ⟨rfl, rfl⟩)
  | fixes n hfixes hfree hpositive hlength houtcome hafter =>
      exact .inr ⟨hfree, hfixes, houtcome⟩
  | builds hcall t houtcome hafter =>
      rw [hrenews] at hafter
      exact .inl (by rw [hafter]; exact ⟨rfl, rfl⟩)
  | clears hcall houtcome hafter =>
      rw [hcall] at hrenews
      cases hrenews

theorem length_final (s : Supplied StringGenerator σ) {more : List Call}
    (hmore : ∀ call ∈ more, call.renews = false) :
    (Transcript.final (Supplied.respond act source) s more).thing.length = s.thing.length ∨
      s.thing.fixed = none ∧ ∃ e ∈ Transcript.entries (Supplied.respond act source) s more,
        e.call.fixes = true ∧ e.outcome = .ok .chained := by
  induction more generalizing s with
  | nil => exact .inl rfl
  | cons call more ih =>
      obtain ⟨hcall, hmore⟩ := List.forall_mem_cons.mp hmore
      obtain ⟨hlength, hfixed⟩ | ⟨hfree, hfixes⟩ := (effect s call).length_after hcall
      · obtain hsame | ⟨hfree, e, he, hfixes⟩ :=
          ih (Transcript.entry (Supplied.respond act source) s call).after hmore
        · exact .inl (hsame.trans hlength)
        · exact .inr ⟨hfixed.symm.trans hfree, e, List.mem_cons_of_mem _ he, hfixes⟩
      · exact .inr ⟨hfree, _, List.mem_cons_self, hfixes⟩

/-- The calls that stand determine a generator, whatever failed in between and whatever
source supplies it. -/
theorem calls_determine (source : Source σ) (state : σ) {defaultLength : Int}
    (hdefault : 1 ≤ defaultLength) (calls : List Call) :
    let new : Supplied StringGenerator σ := ⟨.fresh defaultLength.toNat, state, []⟩
    let respond := Supplied.respond act source
    let now := Transcript.final respond new calls
    let standing := Transcript.standing Call.renews (Transcript.entries respond new calls)
    let texts := (standing.filterMap fun e => e.call.text?).flatten
    start defaultLength = .ok new.thing ∧
      Supplied.Makes act source new calls (performAll new.thing calls) ∧
      -- The characters and the length.
      now.thing.characters = (if texts.isEmpty then CharClass.alphanumeric else texts) ∧
      now.thing.characters ≠ [] ∧
      (standing.filter fun e => e.call.fixes).map (lengthFixed? source) =
        now.thing.fixed.toList.map some ∧
      now.thing.length = now.thing.fixed.getD defaultLength.toNat ∧
      1 ≤ now.thing.length ∧
      (∀ more : List Call, (∀ call ∈ more, call.renews = false) →
        (Transcript.final respond now more).thing.length = now.thing.length ∨
          now.thing.fixed = none ∧ ∃ e ∈ Transcript.entries respond now more,
            e.call.fixes = true ∧ e.outcome = .ok .chained) ∧
      -- A further call.
      ∀ call : Call,
        let e := Transcript.entry respond now call
        (∀ fault, e.outcome = .error fault → e.after = now) ∧
          (call = .build ∨ call = .buildAndClear → ∃ t, e.outcome = .ok (.built t) ∧
            t.length = now.thing.length ∧ (∀ c ∈ t, c ∈ now.thing.characters) ∧
            e.after.drawn = now.drawn ++ List.replicate now.thing.length
              (.pick now.thing.characters.length
                (List.length_pos_iff.mpr now.thing.characters_ne_nil))) ∧
          (call = .build → e.after.thing = now.thing) ∧
          (call = .clear → e.outcome = .ok .cleared ∧ e.after.source = now.source ∧
            e.after.drawn = now.drawn) ∧
          (call.renews = true → e.after.thing = new.thing ∧
            ∀ more, Supplied.Resumes source new e.after (calls.length + 1)
              (performAll new.thing (calls ++ call :: more)) (performAll new.thing more)) := by
  intro new respond now standing texts
  have htells : Tells source defaultLength.toNat standing now.thing :=
    Transcript.keeps (fun standing s => Tells source defaultLength.toNat standing s.thing)
      (fun _ s call h => h.after (effect s call)) (Tells.fresh _) calls
  refine ⟨if_neg (by omega), Supplied.makes_callAll act source new calls, htells.characters,
    now.thing.characters_ne_nil, htells.lengths, ?_, htells.length_pos (by omega),
    fun _ => length_final now, fun call => ?_⟩
  · rw [length, htells.usual]
  · have hclear : now.thing.clear = new.thing := congrArg StringGenerator.fresh htells.usual
    refine ⟨fun _ => (effect now call).after_of_error, fun hcall => ?_, ?_, ?_,
      fun hrenews => ?_⟩
    · obtain ⟨t, houtcome, hlength, hcharacters, hdrawn, -⟩ := exists_built source now hcall
      exact ⟨t, houtcome, hlength, hcharacters, hdrawn⟩
    · rintro rfl
      obtain ⟨-, -, -, -, -, hafter⟩ := exists_built source now (.inl rfl)
      exact hafter
    · rintro rfl
      have hrespond := Supplied.respond_done source
        (rfl : Method.call (act .clear) now.thing = pure (.ok .cleared, now.thing.clear))
      exact ⟨congrArg Prod.fst hrespond, congrArg (fun r => r.2.source) hrespond,
        congrArg (fun r => r.2.drawn) hrespond⟩
    · have hnew : (Transcript.entry respond now call).after.thing = new.thing := by
        rw [← hclear]
        cases call with
        | clear => rfl
        | buildAndClear =>
            obtain ⟨-, -, -, -, -, hafter⟩ := exists_built source now (.inr rfl)
            exact hafter
        | _ => cases hrenews
      refine ⟨hnew, fun more => ?_⟩
      have hrest := Supplied.makes_callAll act source (Transcript.entry respond now call).after more
      rw [hnew] at hrest
      exact (Supplied.makes_callAll act source new (calls ++ call :: more)).resumes_behind hrest

/-- The second length is refused and the first one, drawn between two and four, is kept. -/
theorem calls_determine_second_length :
    let respond := Supplied.respond act (Source.script [1])
    let now := Transcript.final respond ⟨.fresh 7, 0, []⟩
      [.select .numeric, .add (.scalar (.text "")), .length 0, .lengthBetween 2 4, .length 5]
    now.source = 1 ∧ now.thing.characters = "0123456789".toList ∧
      ∃ t, (respond now .build).1 = .ok (.built t) ∧ t.length = 3 := by
  intro respond now
  obtain ⟨-, -, -, -, -, -, -, -, hcall⟩ := calls_determine (Source.script [1]) 0
    (by decide : (1 : Int) ≤ 7)
    [.select .numeric, .add (.scalar (.text "")), .length 0, .lengthBetween 2 4, .length 5]
  obtain ⟨-, hbuild, -⟩ := hcall .build
  obtain ⟨t, houtcome, hlength, -, -⟩ := hbuild (.inl rfl)
  dsimp only [Transcript.entry] at houtcome
  exact ⟨by decide, by decide, t, houtcome, hlength.trans (by decide)⟩

end StringGenerator

end FixtureKeywords
