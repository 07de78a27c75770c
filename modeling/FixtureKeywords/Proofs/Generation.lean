import FixtureKeywords.Proofs.Integers.Bounds
import FixtureKeywords.Proofs.Strings.RoundTrip

/-!
# Reading a keyword decides what generating it can come to

Generating reads a keyword again and goes on from there. What stops it behind the reading
is told apart here by its kind. A wrong format can only be found by the reading: the bounds
of a length have been compared there, and the default length has been checked where the
settings were loaded. Bounds of integers are compared before anything is drawn, and the
offsets of a datetime and its result can leave the supported years.

A source has no part in this, since a program of draws is there or not before one is asked.
-/
namespace FixtureKeywords

namespace DrawProgram
variable {α β : Type} {program : DrawProgram α} {requests : List Draw}

/-- The value has a property, whatever a source answers. -/
def Yields (program : DrawProgram α) (P : α → Prop) : Prop :=
  ∀ (σ : Type) (source : Source σ) (state : σ), P (program.run source state).1

/-- These requests are made, whatever a source answers. -/
def Asks (program : DrawProgram α) (requests : List Draw) : Prop :=
  ∀ (σ : Type) (source : Source σ) (state : σ), program.draws source state = requests

theorem yields_map {P : β → Prop} {f : α → β} (h : ∀ a, P (f a)) : (program.map f).Yields P := by
  intro σ source state
  rw [run_map]
  exact h _

theorem Asks.map (h : program.Asks requests) (f : α → β) : (program.map f).Asks requests := by
  intro σ source state
  rw [draws_map]
  exact h σ source state

theorem asks_between {low high : Int} (ordered : low ≤ high) :
    (between low high ordered).Asks [.between low high ordered] :=
  fun _ _ _ => rfl

end DrawProgram

def WellFormed {α : Type} (outcome : Except Fault α) : Prop :=
  ∀ cause, outcome ≠ .error (.format cause)

namespace WellFormed
variable {α β : Type} {x : Except Fault α}

theorem ok (a : α) : WellFormed (.ok a) := nofun

theorem argument (cause : ArgumentFault) : WellFormed (α := α) (.error (.argument cause)) := nofun

theorem raised (cause : ArgumentFault) : WellFormed (α := α) (.error cause.raised) := by
  unfold ArgumentFault.raised
  split_ifs <;> nofun

theorem bind {f : α → Except Fault β} (hx : WellFormed x) (hf : ∀ a, WellFormed (f a)) :
    WellFormed (x >>= f) := by
  cases x with
  | error fault =>
      intro cause h
      exact hx cause (congrArg Except.error (Except.error.inj h))
  | ok a => exact hf a

theorem map (hx : WellFormed x) (f : α → β) : WellFormed (x.map f) := by
  cases x with
  | error fault =>
      intro cause h
      exact hx cause (congrArg Except.error (Except.error.inj h))
  | ok a => exact ok (f a)

end WellFormed

/-- Whether an integer can be drawn is known before it is drawn, and so is the draw. -/
theorem Sample.within_cases (wanted : Option Parity) (low high : Int) :
    (∃ program first last, ∃ ordered : first ≤ last,
        within wanted low high = .ok program ∧ program.Asks [.between first last ordered]) ∨
      ∃ fault, within wanted low high = .error fault := by
  cases wanted with
  | none =>
      by_cases h : high ≤ low
      · exact .inr ⟨_, dif_pos h⟩
      · exact .inl ⟨_, _, _, _, dif_neg h, DrawProgram.asks_between _⟩
  | some wanted =>
      unfold within ofParity
      dsimp only
      split_ifs with hdecreasing hnone
      · exact .inr ⟨_, rfl⟩
      · exact .inr ⟨_, rfl⟩
      · have hordered : 0 ≤ (wanted.below high - wanted.above low) / 2 := by omega
        exact .inl ⟨_, _, _, hordered, rfl, (DrawProgram.asks_between hordered).map _⟩

namespace StringModifier
variable {t : Text} {parsed : Parsed StringModifier}

/-- Every modifier of an accepted keyword was read by a rule of its kind. -/
theorem read_of_mem_flat (h : parse t = .ok parsed) {m : StringModifier} (hm : m ∈ parsed.flat) :
    (∃ f, readAddition f = .ok m) ∨ (∃ f, readLength f = .ok m) ∨ ∃ chosen, m = .select chosen := by
  obtain ⟨rule, hrule, f, hread⟩ := Parsed.exists_read_of_mem_flat h hm
  simp only [rules, List.mem_append, List.mem_cons, List.mem_map, List.not_mem_nil,
    or_false] at hrule
  rcases hrule with (rfl | rfl) | ⟨chosen, -, rfl⟩
  · exact .inl ⟨f, hread⟩
  · exact .inr (.inl ⟨f, hread⟩)
  · exact .inr (.inr ⟨chosen, (Except.ok.inj hread).symm⟩)

theorem bounds?_eq_some_iff {m : StringModifier} {low high : Nat} :
    m.bounds? = some (low, high) ↔ m = .length low high := by
  cases m <;> simp [bounds?]

theorem bounds_of_parse (h : parse t = .ok parsed) {n m : Nat}
    (hbounds : parsed.flat.findSome? bounds? = some (n, m)) : 1 ≤ n ∧ n ≤ m := by
  obtain ⟨v, hv, hvalue⟩ := List.exists_of_findSome?_eq_some hbounds
  obtain rfl := bounds?_eq_some_iff.mp hvalue
  rcases read_of_mem_flat h hv with ⟨f, hf⟩ | ⟨f, hf⟩ | ⟨chosen, hchosen⟩
  · cases (readAddition_eq_ok.mp hf).2
  · obtain ⟨shortest, longest, heq, hordered⟩ := exists_of_readLength hf
    cases heq
    exact hordered
  · cases hchosen

end StringModifier

namespace StringGenerator
variable {t : Text} {parsed : Parsed StringModifier} {defaultLength : Int}

theorem generate_eq (h : StringModifier.parse t = .ok parsed) (hd : 1 ≤ defaultLength) :
    generate t defaultLength =
      .ok ((described parsed.flat defaultLength.toNat
        (parsed.flat.findSome? StringModifier.bounds?)).bind buildLogged) := by
  have hprogram := ofParsed_eq (fun _ _ => StringModifier.bounds_of_parse h) hd
  unfold generate ofKeyword
  rw [h]
  exact congrArg (Except.map fun p => p.bind buildLogged) hprogram

end StringGenerator

namespace TemporalSpec

theorem wellFormed_add (unit : TemporalUnit) (amount : Int) (spec : TemporalSpec) :
    WellFormed (spec.add unit amount) := by
  unfold add
  dsimp only
  split
  · exact .ok _
  · exact .raised _

theorem wellFormed_addAll (spec : TemporalSpec) (adds : List (TemporalUnit × Int)) :
    WellFormed (spec.addAll adds) := by
  induction adds generalizing spec with
  | nil => exact .ok spec
  | cons add adds ih => exact (wellFormed_add add.1 add.2 spec).bind fun next => ih next

theorem wellFormed_resolve (spec : TemporalSpec) (policy : ZonePolicy) (around : Surroundings) :
    WellFormed (spec.resolve policy around) := by
  unfold resolve
  split
  · exact .ok _
  · split
    · exact .argument _
    · nofun

end TemporalSpec

namespace Keyword

/-- What a keyword that was read promises of generating it. A string is generated. An
integer is generated by one draw, the same for every source, or refused. A datetime has no
fault in its format. -/
def Promises (outcome : Except Fault (DrawProgram (Logged Value))) : Keyword → Prop
  | string _ => ∃ program, outcome = .ok program ∧
      program.Yields fun out => ∃ t, out.value = .text t
  | integer _ =>
      (∃ program first last, ∃ ordered : first ≤ last, outcome = .ok program ∧
        program.Asks [.between first last ordered] ∧
          program.Yields fun out => ∃ n, out.value = .integer n) ∨
      ∃ cause, outcome = .error (.argument cause)
  | datetime _ => WellFormed outcome

theorem Promises.wellFormed {outcome : Except Fault (DrawProgram (Logged Value))} {k : Keyword}
    (h : k.Promises outcome) : WellFormed outcome := by
  cases k with
  | string _ =>
      obtain ⟨program, rfl, -⟩ := h
      exact .ok program
  | integer _ =>
      rcases h with ⟨program, -, -, -, rfl, -⟩ | ⟨cause, rfl⟩
      · exact .ok program
      · exact .argument cause
  | datetime _ => exact h

end Keyword

namespace Value

/-- A keyword that cannot be read is not generated, for the same reason, and one that can
be read keeps what it promises. -/
theorem generate_of_read [Almanac] (cell : Datum) (defaults : Defaults) (hd : 1 ≤ defaults.length)
    (around : Surroundings) :
    match Keyword.read cell with
    | .error fault => generate cell defaults around = .error fault
    | .ok k => k.Promises (generate cell defaults around) := by
  unfold Keyword.read generate
  cases familyOf cell with
  | error fault => rfl
  | ok found =>
      obtain ⟨family, t⟩ := found
      simp only [bind, Except.bind]
      cases family with
      | string =>
          cases hparse : StringModifier.parse t with
          | error fault =>
              simp only [Except.map, StringGenerator.generate, StringGenerator.ofKeyword, hparse,
                bind, Except.bind]
          | ok parsed =>
              simp only [StringGenerator.generate_eq hparse hd]
              refine ⟨_, rfl, ?_⟩
              exact DrawProgram.yields_map fun out => ⟨out.value, rfl⟩
      | integer =>
          cases hparse : IntegerModifier.parse t with
          | error fault =>
              simp only [Except.map, IntegerModifier.generate, hparse, bind, Except.bind]
          | ok parsed =>
              simp only [IntegerModifier.generate, hparse, bind, Except.bind]
              rcases Sample.within_cases (IntegerModifier.request parsed).parity
                (IntegerModifier.request parsed).low (IntegerModifier.request parsed).high with
                ⟨program, first, last, ordered, hprogram, hasks⟩ | ⟨fault, hfault⟩
              · rw [hprogram]
                refine .inl ⟨_, first, last, ordered, rfl, (hasks.map _).map _, ?_⟩
                exact DrawProgram.yields_map fun out => ⟨out.value, rfl⟩
              · obtain ⟨cause, rfl⟩ := IntegerModifier.exists_argument_of_parse hparse hfault
                rw [hfault]
                exact .inr ⟨cause, rfl⟩
      | datetime =>
          cases hparse : TemporalModifier.parse t with
          | error fault =>
              simp only [Except.map, TemporalModifier.generate, hparse, bind, Except.bind]
          | ok parsed =>
              simp only [TemporalModifier.generate, hparse]
              have hrequest : WellFormed (TemporalModifier.request parsed) :=
                TemporalSpec.wellFormed_addAll _ _
              exact (hrequest.bind fun spec => spec.wellFormed_resolve _ _).map _

end Value

end FixtureKeywords
