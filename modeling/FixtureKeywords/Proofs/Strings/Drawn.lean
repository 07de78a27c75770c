import FixtureKeywords.Proofs.Integers.Reach
import FixtureKeywords.Proofs.Strings.Calls
import FixtureKeywords.Zone.Recorded

/-!
# What an accepted string keyword draws

A keyword that was accepted can be generated, and the string is what its modifiers ask for.
It is as long as the length allows, or as long as strings are by default, and each of its
characters is in a selected class or was added. It takes one draw for the length if that is
a range, and then one for each character.

The bounds are those of the only length that an accepted keyword has. Where there is one
the default length is not looked at. There is always a character to draw: a class is never
empty, an addition that adds nothing is not accepted, and with neither there are the letters
and digits.
-/
namespace FixtureKeywords

namespace StringModifier
open Recogniser

/-- A character that is drawn because of a modifier. -/
inductive Offers : StringModifier → Char → Prop
  | addition {characters : Text} {c : Char} : c ∈ characters → Offers (.addition characters) c
  | select {chosen : CharClass} {c : Char} : c ∈ chosen.characters → Offers (.select chosen) c

theorem mem_sources_iff {ms : List StringModifier} {c : Char} :
    c ∈ (StringGenerator.sources ms).flatten ↔ ∃ m ∈ ms, m.Offers c := by
  simp only [StringGenerator.sources, List.mem_flatten, List.mem_append, List.mem_map,
    List.mem_filter, decide_eq_true_eq, List.mem_filterMap]
  constructor
  · rintro ⟨t, ⟨chosen, ⟨-, hchosen⟩, rfl⟩ | ⟨m, hm, hadded⟩, hc⟩
    · exact ⟨_, hchosen, .select hc⟩
    · cases m with
      | addition characters =>
          obtain rfl := Option.some.inj hadded
          exact ⟨_, hm, .addition hc⟩
      | length _ _ => cases hadded
      | select _ => cases hadded
  · rintro ⟨m, hm, hc | hc⟩
    · exact ⟨_, .inr ⟨_, hm, rfl⟩, hc⟩
    · rename_i chosen
      exact ⟨_, .inl ⟨chosen, ⟨by cases chosen <;> decide, hm⟩, rfl⟩, hc⟩

variable {t : Text} {parsed : Parsed StringModifier}

theorem exists_offers (h : parse t = .ok parsed) {m : StringModifier} (hm : m ∈ parsed.flat)
    (hlength : m.bounds? = none) : ∃ c, m.Offers c := by
  rcases read_of_mem_flat h hm with ⟨f, hf⟩ | ⟨f, hf⟩ | ⟨chosen, rfl⟩
  · obtain ⟨hne, rfl⟩ := readAddition_eq_ok.mp hf
    obtain ⟨c, hc⟩ := List.exists_mem_of_ne_nil _ hne
    exact ⟨c, .addition hc⟩
  · obtain ⟨low, high, rfl, -⟩ := exists_of_readLength hf
    cases hlength
  · obtain ⟨c, hc⟩ := List.exists_mem_of_ne_nil _ chosen.characters_ne_nil
    exact ⟨c, .select hc⟩

/-- The rule of lengths has a limit of one, and no other rule reads a length. -/
theorem length_filterMap_bounds_le (h : parse t = .ok parsed) :
    (parsed.flat.filterMap bounds?).length ≤ 1 := by
  obtain ⟨-, -, -, -, _, hextract, -⟩ := Parsed.parse_eq_ok h
  obtain ⟨added, left, others, hadded, hothers, hvalues⟩ := Rule.extractAll_cons_eq_ok.mp hextract
  obtain ⟨lengths, rest, flags, hlengths, hflags, rfl⟩ := Rule.extractAll_cons_eq_ok.mp hothers
  obtain ⟨-, hadded, -⟩ := Rule.extract_eq_ok.mp hadded
  obtain ⟨hlimit, hlengths, -⟩ := Rule.extract_eq_ok.mp hlengths
  have hnone : added.filterMap bounds? = [] := by
    rw [List.filterMap_eq_nil_iff]
    intro m hm
    obtain ⟨f, -, hf⟩ := Outcome.exists_of_mem_mapM hadded hm
    obtain ⟨-, rfl⟩ := readAddition_eq_ok.mp hf
    rfl
  have hflag : (flags.flatMap Prod.snd).filterMap bounds? = [] := by
    rw [List.filterMap_eq_nil_iff]
    intro m hm
    obtain ⟨rule, hrule, f, hf⟩ := Rule.exists_read_of_mem hflags hm
    obtain ⟨chosen, -, rfl⟩ := List.mem_map.mp hrule
    obtain rfl := Except.ok.inj hf
    rfl
  have hone : lengths.length ≤ 1 := Outcome.length_of_mapM_eq_ok hlengths ▸ hlimit 1 rfl
  rw [Parsed.flat, hvalues, Rule.flatMap_snd_entry, Rule.flatMap_snd_entry, List.filterMap_append,
    List.filterMap_append, hnone, hflag, List.nil_append, List.append_nil]
  exact (List.length_filterMap_le _ _).trans hone

theorem findSome?_bounds_of_mem (h : parse t = .ok parsed) {low high : Nat}
    (hm : .length low high ∈ parsed.flat) :
    parsed.flat.findSome? bounds? = some (low, high) := by
  have hmem : (low, high) ∈ parsed.flat.filterMap bounds? :=
    List.mem_filterMap.mpr ⟨_, hm, rfl⟩
  rw [← List.head?_filterMap]
  cases hfound : parsed.flat.filterMap bounds? with
  | nil => simp [hfound] at hmem
  | cons first others =>
      have hle := length_filterMap_bounds_le h
      rw [hfound, List.length_cons] at hle
      obtain rfl : others = [] := List.length_eq_zero_iff.mp (by omega)
      rw [hfound, List.mem_singleton] at hmem
      rw [hmem]
      rfl

end StringModifier

namespace StringGenerator
open StringModifier

/-- The characters that modifiers put together for drawing: the selected classes, then the
additions, or the letters and digits if that is nothing. -/
def offered (ms : List StringModifier) : Text :=
  if (sources ms).flatten.isEmpty then CharClass.alphanumeric else (sources ms).flatten

theorem offered_length_pos (ms : List StringModifier) : 0 < (offered ms).length :=
  List.length_pos_iff.mpr (characters_ne_nil ⟨0, sources ms, none⟩)

/-- The draws of that many characters. -/
def picks (ms : List StringModifier) (count : Nat) : List Draw :=
  List.replicate count (.pick (offered ms).length (offered_length_pos ms))

/-- How a string of modifiers is drawn: by a draw for the length if there are two bounds that
differ, and then by one for each character. -/
structure DrawnBy (ms : List StringModifier) (shortest longest : Nat) (t : Text)
    (draws : List Draw) : Prop where
  offered : ∀ c ∈ t, c ∈ offered ms
  shortest_le : shortest ≤ t.length
  le_longest : t.length ≤ longest
  exact : shortest = longest → draws = picks ms t.length
  ranged : shortest < longest →
    ∃ ordered, draws = .between shortest longest ordered :: picks ms t.length

variable {σ : Type} (source : Source σ) (state : σ) (ms : List StringModifier)

theorem drawnBy_buildLogged (defaultLength : Nat) (fixed : Option Nat) :
    let program := (⟨defaultLength, sources ms, fixed⟩ : StringGenerator).buildLogged
    let n := fixed.getD defaultLength
    DrawnBy ms n n (program.run source state).1.value (program.draws source state) := by
  intro program n
  have hbuilt := (yields_build ⟨defaultLength, sources ms, fixed⟩) σ source state
  have hasked := (asks_build ⟨defaultLength, sources ms, fixed⟩) σ source state
  have hvalue : (program.run source state).1.value =
      ((⟨defaultLength, sources ms, fixed⟩ : StringGenerator).build.run source state).1 := by
    simp only [program, buildLogged, DrawProgram.run_map]
  have hdraws : program.draws source state = picks ms n := by
    simp only [program, buildLogged, DrawProgram.draws_map, hasked]
    rfl
  rw [hvalue, hdraws]
  exact ⟨hbuilt.2, hbuilt.1.ge, hbuilt.1.le, fun _ => congrArg (picks ms) hbuilt.1.symm,
    fun hlt => absurd hlt (lt_irrefl n)⟩

theorem drawnBy_described (defaultLength : Nat) {shortest longest : Nat}
    (hle : shortest ≤ longest) :
    let program := (described ms defaultLength (some (shortest, longest))).bind buildLogged
    DrawnBy ms shortest longest (program.run source state).1.value
      (program.draws source state) := by
  intro program
  rcases hle.lt_or_eq with hlt | rfl
  · have ordered : (shortest : Int) ≤ longest := Int.ofNat_le.mpr hle
    have hprogram : program = (DrawProgram.between shortest longest ordered).bind fun k =>
        (⟨defaultLength, sources ms, some k.toNat⟩ : StringGenerator).buildLogged := by
      simp only [program, described, hlt, dite_true, DrawProgram.map_eq_bind,
        DrawProgram.bind_assoc]
      rfl
    obtain ⟨hlow, hhigh⟩ := DrawProgram.yields_between ordered σ source state
    have hdrawn := drawnBy_buildLogged source
      ((DrawProgram.between shortest longest ordered).run source state).2 ms defaultLength
      (some ((DrawProgram.between shortest longest ordered).run source state).1.toNat)
    have hlength := hdrawn.shortest_le.antisymm hdrawn.le_longest
    rw [hprogram, DrawProgram.run_bind, DrawProgram.draws_bind, hdrawn.exact rfl]
    refine ⟨hdrawn.offered, ?_, ?_, fun heq => absurd heq hlt.ne, fun _ => ⟨ordered, rfl⟩⟩
    · rw [← hlength, Option.getD_some]
      omega
    · rw [← hlength, Option.getD_some]
      omega
  · simp only [program, described, lt_irrefl, dite_false]
    exact drawnBy_buildLogged source state ms defaultLength (some shortest)

theorem described_bind_buildLogged (defaultLength other : Nat) (bounds : Nat × Nat) :
    (described ms defaultLength (some bounds)).bind buildLogged =
      (described ms other (some bounds)).bind buildLogged := by
  unfold described
  dsimp only
  split_ifs
  · simp only [DrawProgram.map_eq_bind, DrawProgram.bind_assoc]
    rfl
  · rfl

variable {ms} {c : Char}

theorem mem_alphanumeric_of_mem_offered (hms : ∀ m ∈ ms, m.bounds?.isSome) (hc : c ∈ offered ms) :
    c ∈ CharClass.alphanumeric := by
  have hnil : (sources ms).flatten = [] := by
    rw [List.eq_nil_iff_forall_not_mem]
    intro d hd
    obtain ⟨m, hm, hoffers⟩ := mem_sources_iff.mp hd
    have := hms m hm
    cases hoffers <;> cases this
  simpa [offered, hnil] using hc

theorem exists_of_mem_offered (hms : ∃ m ∈ ms, ∃ d, m.Offers d) (hc : c ∈ offered ms) :
    ∃ m ∈ ms, m.Offers c := by
  obtain ⟨m, hm, d, hd⟩ := hms
  have hne : (sources ms).flatten ≠ [] :=
    List.ne_nil_of_mem (mem_sources_iff.mpr ⟨m, hm, hd⟩)
  rw [offered, if_neg (by simpa using hne)] at hc
  exact mem_sources_iff.mp hc

/-- An accepted keyword is generated. Its string is made of letters and digits if nothing but
a length was asked for, and of characters that modifiers offer otherwise. It is drawn as the
only length says, whatever the default length is, or as the default length says. -/
theorem generate_accepted [Almanac] {s : String} {parsed : Parsed StringModifier}
    {defaultLength : Int} (h : Keyword.read (.text s) = .ok (.string parsed))
    (hd : 1 ≤ defaultLength) :
    ∃ program, generate s.toList defaultLength = .ok program ∧
      (∀ (σ : Type) (source : Source σ) (state : σ),
        let t := (program.run source state).1.value
        let draws := program.draws source state
        ((∀ m ∈ parsed.flat, m.bounds?.isSome) → ∀ c ∈ t, c ∈ CharClass.alphanumeric) ∧
        ((∃ m ∈ parsed.flat, m.bounds? = none) → ∀ c ∈ t, ∃ m ∈ parsed.flat, m.Offers c) ∧
        ((∀ low high, .length low high ∉ parsed.flat) →
          DrawnBy parsed.flat defaultLength.toNat defaultLength.toNat t draws) ∧
        ∀ low high, .length low high ∈ parsed.flat → DrawnBy parsed.flat low high t draws) ∧
      ∀ low high, .length low high ∈ parsed.flat →
        ∀ other, 1 ≤ other → generate s.toList other = .ok program := by
  have hparse := Keyword.read_eq_ok h
  refine ⟨_, generate_eq hparse hd, fun σ source state => ?_, ?_⟩
  · intro t draws
    have hlength (low high : Nat) (hm : .length low high ∈ parsed.flat) :
        DrawnBy parsed.flat low high t draws := by
      have hbounds := findSome?_bounds_of_mem hparse hm
      have hdrawn := drawnBy_described source state parsed.flat defaultLength.toNat
        (bounds_of_parse hparse hbounds).2
      rw [← hbounds] at hdrawn
      exact hdrawn
    have hdefault (hm : ∀ low high, .length low high ∉ parsed.flat) :
        DrawnBy parsed.flat defaultLength.toNat defaultLength.toNat t draws := by
      have hbounds : parsed.flat.findSome? bounds? = none := by
        rw [List.findSome?_eq_none_iff]
        intro m hmem
        cases m with
        | length low high => exact absurd hmem (hm low high)
        | addition _ => rfl
        | select _ => rfl
      have hdrawn := drawnBy_buildLogged source state parsed.flat defaultLength.toNat none
      simp only [t, draws, hbounds]
      exact hdrawn
    have hoffered : ∀ c ∈ t, c ∈ offered parsed.flat := by
      by_cases hm : ∃ low high, .length low high ∈ parsed.flat
      · obtain ⟨low, high, hm⟩ := hm
        exact (hlength low high hm).offered
      · exact (hdefault fun low high hmem => hm ⟨low, high, hmem⟩).offered
    refine ⟨fun hm c hc => mem_alphanumeric_of_mem_offered hm (hoffered c hc), ?_, hdefault,
      hlength⟩
    rintro ⟨m, hm, hnone⟩ c hc
    exact exists_of_mem_offered ⟨m, hm, exists_offers hparse hm hnone⟩ (hoffered c hc)
  · intro low high hm other hother
    rw [generate_eq hparse hother, findSome?_bounds_of_mem hparse hm,
      described_bind_buildLogged parsed.flat other.toNat defaultLength.toNat]

/-- Two classes, one of them selected twice, an addition that holds a closing and a range. -/
theorem generate_accepted_range :
    let s := "[randstring\x7bnumeric\x7d\x7binclude=[a]\x7db]\x7d\x7blength=2-4\x7d" ++
      "\x7bNumeric\x7d\x7bspaces\x7d]"
    ∃ program, generate s.toList 7 = .ok program ∧ generate s.toList 1 = .ok program ∧
      ∀ (σ : Type) (source : Source σ) (state : σ),
        let t := (program.run source state).1.value
        2 ≤ t.length ∧ t.length ≤ 4 ∧ (∀ c ∈ t, c ∈ "0123456789 a]\x7db".toList) ∧
        ∃ ordered, program.draws source state =
          .between 2 4 ordered :: List.replicate t.length (.pick 15 (by decide)) := by
  intro s
  have h : Keyword.read (.text s) = .ok (.string ⟨.string, s.toList,
      [("include", [.addition "a]\x7db".toList]), ("length", [.length 2 4]),
        ("numeric", [.select .numeric, .select .numeric]), ("spaces", [.select .spaces])]⟩) := by
    decide
  obtain ⟨program, hprogram, hrun, hother⟩ := generate_accepted h (by decide : (1 : Int) ≤ 7)
  refine ⟨program, hprogram, hother 2 4 (by decide) 1 le_rfl, fun σ source state => ?_⟩
  obtain ⟨-, -, -, hlength⟩ := hrun σ source state
  have hdrawn := hlength 2 4 (by decide)
  obtain ⟨ordered, hdraws⟩ := hdrawn.ranged (by decide)
  exact ⟨hdrawn.shortest_le, hdrawn.le_longest, hdrawn.offered, ordered, hdraws⟩

end StringGenerator

end FixtureKeywords
