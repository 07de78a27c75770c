import FixtureKeywords.Proofs.Strings.Elimination
import FixtureKeywords.Strings.Generator

/-!
# Written string keywords are read back

A keyword that was written from a list of modifiers is parsed to the same
modifiers, gathered under their names. So the generator that it describes has the
characters of the selected classes and then those of the additions, and the length
that was written. All of this holds however the modifiers are ordered, repeated,
spelled and spaced, and whatever the additions hold.
-/
namespace FixtureKeywords
open Text

namespace StringModifier

theorem mem_gathered {m : StringModifier} {ms : List StringModifier} :
    m ∈ gathered rules ms ↔ m ∈ ms :=
  Writing.mem_flatMap_ownedBy (W := writing) name_mem

/-- Values that only modifiers of one name have are gathered once, in their order. -/
theorem filterMap_gathered {β : Type} {f : StringModifier → Option β} (name : String)
    (hf : ∀ m, f m ≠ none → m.name = name) {table : List (Rule StringModifier)}
    (hnodup : (table.map Rule.name).Nodup) (ms : List StringModifier) :
    (gathered table ms).filterMap f =
      if name ∈ table.map Rule.name then ms.filterMap f else [] :=
  Writing.filterMap_flatMap_ownedBy (W := writing) hf hnodup ms

theorem added?_gathered (ms : List StringModifier) :
    (gathered rules ms).filterMap added? = ms.filterMap added? :=
  filterMap_gathered "include"
    (fun m hm => by by_contra h; exact hm (added?_eq_none_iff.mpr h)) (by decide) ms

theorem bounds?_gathered (ms : List StringModifier) :
    (gathered rules ms).filterMap bounds? = ms.filterMap bounds? :=
  filterMap_gathered "length"
    (fun _ hm => name_eq_of_bounds? hm) (by decide) ms

theorem length_filter_name (ms : List StringModifier) :
    (ms.filter (·.name = "length")).length = (ms.filterMap bounds?).length := by
  have hsome : ∀ m ∈ ms.filter (·.name = "length"), (bounds? m).isSome := by
    intro m hm
    simp only [List.mem_filter, decide_eq_true_eq] at hm
    obtain ⟨n, k, rfl⟩ := eq_length_of_name hm.2
    rfl
  have hsaid := Writing.filterMap_ownedBy (W := writing) (fun _ hm => name_eq_of_bounds? hm)
    "length" ms
  rw [if_pos rfl] at hsaid
  rw [← List.filterMap_length_eq_length.mpr hsome]
  exact congrArg List.length hsaid

/-- A written keyword with at most one length is parsed to its modifiers. -/
theorem parse_written {ms : List StringModifier} {t : Text} (h : IsKeyword ms t)
    (hlength : (ms.filterMap bounds?).length ≤ 1) :
    ∃ parsed, parse t = .ok parsed ∧ parsed.flat = gathered rules ms := by
  have hlimit : ∀ rule ∈ rules, ∀ k, rule.limit = some k →
      (writing.ownedBy rule.name ms).length ≤ k := by
    intro rule hrule k hk
    simp only [rules, List.mem_append, List.mem_cons, List.mem_map, List.not_mem_nil,
      or_false] at hrule
    rcases hrule with (rfl | rfl) | ⟨chosen, -, rfl⟩
    · exact absurd hk (by simp)
    · obtain rfl : 1 = k := Option.some.inj hk
      exact (length_filter_name ms).trans_le hlength
    · exact absurd hk (by simp [Rule.flag])
  have hparse := Parsed.parse_keyword h.writing handled_rules (by decide)
    (fun m _ => m.name_mem) hlimit []
  have hvalue : ∀ m ∈ ms, writing.value m = .ok m := fun _ _ => rfl
  obtain ⟨entries, hentries, hflat⟩ := Writing.exists_gather hvalue rules
  rw [hentries] at hparse
  exact ⟨⟨.string, strip t, entries⟩, hparse, hflat⟩

end StringModifier

namespace StringGenerator
open StringModifier Recogniser

/-- What the modifiers of a keyword select and add: the selected classes in their order,
each one once, and then the additions as they were written. -/
def sources (ms : List StringModifier) : List Text :=
  (CharClass.all.filter fun c => .select c ∈ ms).map CharClass.characters ++
    ms.filterMap added?

/-- The generator that modifiers describe, without a length or with bounds for one. -/
def described (ms : List StringModifier) (defaultLength : Nat) :
    Option (Nat × Nat) → DrawProgram StringGenerator
  | none => .done ⟨defaultLength, sources ms, none⟩
  | some (n, m) =>
      if h : n < m then
        (DrawProgram.between n m (Int.ofNat_le.mpr h.le)).map fun k =>
          ⟨defaultLength, sources ms, some k.toNat⟩
      else .done ⟨defaultLength, sources ms, some n⟩

theorem fixLength_of_one_le {g : StringGenerator} (hg : g.fixed = none) {n : Int} (hn : 1 ≤ n) :
    g.fixLength n = .ok ⟨g.defaultLength, g.collected, some n.toNat⟩ := by
  have hpos : ¬ n ≤ 0 := by omega
  simp only [fixLength, hg, hpos, if_false]

theorem drawLength_of_le {g : StringGenerator} (hg : g.fixed = none) {n m : Int} (hn : 1 ≤ n)
    (hle : n ≤ m) : g.drawLength n m =
      .ok ((DrawProgram.between n m hle).map fun k =>
        ⟨g.defaultLength, g.collected, some k.toNat⟩) := by
  have hpos : ¬ n < 1 := by omega
  have hordered : ¬ m < n := by omega
  simp only [drawLength, hg, hpos, if_false, hordered, dite_false]

theorem ofParsed_eq {parsed : Parsed StringModifier}
    (hbounds : ∀ n m, parsed.flat.findSome? bounds? = some (n, m) → 1 ≤ n ∧ n ≤ m)
    {defaultLength : Int} (hd : 1 ≤ defaultLength) :
    ofParsed parsed defaultLength =
      .ok (described parsed.flat defaultLength.toNat (parsed.flat.findSome? bounds?)) := by
  have hstart : start defaultLength = .ok (fresh defaultLength.toNat) :=
    if_neg (by omega)
  have hselected : (CharClass.all.filter fun c => parsed.flat.contains (.select c)) =
      CharClass.all.filter fun c => .select c ∈ parsed.flat :=
    List.filter_congr fun c _ => List.contains_eq_mem _ _
  simp only [ofParsed, hstart, bind, Except.bind, hselected]
  cases hms : parsed.flat.findSome? bounds? with
  | none => rfl
  | some bounds =>
      obtain ⟨n, m⟩ := bounds
      obtain ⟨hn, hle⟩ := hbounds n m hms
      have hn' : 1 ≤ (n : Int) := by omega
      rcases hle.lt_or_eq with hlt | rfl
      · simp only [described, hlt, dite_true, hlt.ne, if_false]
        exact drawLength_of_le rfl hn' (Int.ofNat_le.mpr hle)
      · simp only [described, lt_irrefl, dite_false, if_true]
        rw [fixLength_of_one_le rfl hn']
        rfl

theorem sources_gathered (ms : List StringModifier) : sources (gathered rules ms) = sources ms := by
  unfold sources
  simp only [mem_gathered, added?_gathered]

theorem described_gathered (ms : List StringModifier) (defaultLength : Nat)
    (bounds : Option (Nat × Nat)) :
    described (gathered rules ms) defaultLength bounds = described ms defaultLength bounds := by
  unfold described
  rw [sources_gathered]

theorem ofKeyword_eq {ms : List StringModifier} {t : Text} (h : IsKeyword ms t)
    (hlength : (ms.filterMap bounds?).length ≤ 1) {defaultLength : Int} (hd : 1 ≤ defaultLength) :
    ofKeyword t defaultLength =
      .ok (described ms defaultLength.toNat (ms.findSome? bounds?)) := by
  obtain ⟨parsed, hparse, hflat⟩ := parse_written h hlength
  have hfound : parsed.flat.findSome? bounds? = ms.findSome? bounds? := by
    rw [hflat, ← List.head?_filterMap, bounds?_gathered, List.head?_filterMap]
  have hbounds : ∀ n m, parsed.flat.findSome? bounds? = some (n, m) → 1 ≤ n ∧ n ≤ m := by
    rw [hfound]
    exact fun _ _ => h.bounds
  simp only [ofKeyword, hparse, bind, Except.bind]
  rw [ofParsed_eq hbounds hd, hfound, hflat, described_gathered]

theorem collected_described (ms : List StringModifier) (defaultLength : Nat)
    (bounds : Option (Nat × Nat)) {σ : Type} (source : Source σ) (state : σ) :
    ((described ms defaultLength bounds).run source state).1.collected = sources ms := by
  unfold described
  split
  · rfl
  · split_ifs
    · rw [DrawProgram.run_map]
    · rfl

theorem described_range (ms : List StringModifier) (defaultLength : Nat) {n m : Nat}
    (h : n < m) {σ : Type} (source : Source σ) (state : σ) :
    ∃ ordered : (n : Int) ≤ m,
      (described ms defaultLength (some (n, m))).draws source state = [.between n m ordered] ∧
      ((described ms defaultLength (some (n, m))).run source state).1.length =
        n + (source.below (Draw.between n m ordered).span (Draw.span_pos _) state).1.val := by
  refine ⟨Int.ofNat_le.mpr h.le, ?_, ?_⟩
  · simp only [described, h, dite_true]
    rfl
  · simp only [described, h, dite_true, DrawProgram.run_map]
    exact Int.toNat_natCast _

/-- A written keyword is accepted. Its generator draws from the selected classes in
their order and then from the additions in theirs, or from letters and digits if there
is nothing to draw from. Its length is the usual one, the one that was written, or the
answer to a single draw from the range that was written. -/
theorem ofKeyword_written {ms : List StringModifier} {t : Text} (h : IsKeyword ms t)
    (hlength : (ms.filterMap bounds?).length ≤ 1) {defaultLength : Int} (hd : 1 ≤ defaultLength) :
    ∃ program, ofKeyword t defaultLength = .ok program ∧
      ∀ {σ : Type} (source : Source σ) (state : σ),
        let g := (program.run source state).1
        g.collected = sources ms ∧
        g.characters =
          (if (sources ms).flatten = [] then CharClass.alphanumeric else (sources ms).flatten) ∧
        match ms.findSome? bounds? with
        | none => program.draws source state = [] ∧ g.length = defaultLength.toNat
        | some (n, m) => n ≤ g.length ∧ g.length ≤ m ∧
            (n = m → program.draws source state = []) ∧
            (n ≠ m → ∃ ordered, program.draws source state = [.between n m ordered] ∧
              g.length =
                n + (source.below (Draw.between n m ordered).span (Draw.span_pos _) state).1) := by
  refine ⟨_, ofKeyword_eq h hlength hd, fun source state => ?_⟩
  have hcollected := collected_described ms defaultLength.toNat (ms.findSome? bounds?) source state
  refine ⟨hcollected, ?_, ?_⟩
  · simp only [characters, hcollected, List.isEmpty_iff]
  · cases hms : ms.findSome? bounds? with
    | none => exact ⟨rfl, rfl⟩
    | some bounds =>
        obtain ⟨n, m⟩ := bounds
        obtain ⟨hn, hle⟩ := h.bounds hms
        rcases hle.lt_or_eq with hlt | rfl
        · obtain ⟨ordered, hdraws, hanswer⟩ :=
            described_range ms defaultLength.toNat hlt source state
          have hlast := (source.below (Draw.between n m ordered).span
            (Draw.span_pos _) state).1.isLt
          refine ⟨?_, ?_, fun heq => absurd heq hlt.ne, fun _ => ⟨ordered, hdraws, hanswer⟩⟩
          · rw [hanswer]
            omega
          · rw [hanswer]
            simp only [Draw.span] at hlast ⊢
            omega
        · simp only [described, lt_irrefl, dite_false]
          exact ⟨le_rfl, le_rfl, fun _ => rfl, fun hne => absurd rfl hne⟩

/-- A payload that closes, looks like a flag and is followed by flags and a range. -/
theorem ofKeyword_written_lookalike :
    ∃ program, ofKeyword
        (" [RandString\x7bInclude=[a]\x7d\x7bspaces\x7db] \x7d \x7b length = 3 -05 \x7d" ++
          "\x7bNUMERIC\x7d\x7bnumeric \x7d]\n").toList 10 = .ok program ∧
      ∀ {σ : Type} (source : Source σ) (state : σ),
        let g := (program.run source state).1
        g.characters = "0123456789a]\x7d\x7bspaces\x7db".toList ∧ 3 ≤ g.length ∧ g.length ≤ 5 := by
  have hopener := @IsOpener.intro [] "Include".toList [] rfl (by decide) rfl
  have hinclude := @IsAddition.intro "a]\x7d\x7bspaces\x7db".toList _ [] [' '] hopener rfl
    (by decide)
  have hthree : Writes 3 ['3'] := ⟨by decide, by decide, by decide⟩
  have hfive : Writes 5 "05".toList := ⟨by decide, by decide, by decide⟩
  have hrange : IsLength 3 5 " 3 -05 ".toList :=
    @IsLength.range 3 5 [' '] ['3'] [' '] [] "05".toList [' '] (by decide) hthree (by decide) rfl
      hfive (by decide) (by decide) (by decide)
  have hlength := @IsAssignment.intro "length".toList " 3 -05 ".toList [' '] "length".toList [' ']
    (by decide) (by decide) (by decide) (by simp [isBrace])
  have hupper := @IsFlag.intro "numeric".toList [] "NUMERIC".toList [] rfl (by decide) rfl
  have hlower := @IsFlag.intro "numeric".toList [] "numeric".toList [' '] rfl (by decide)
    (by decide)
  have hbody : IsBody
      [.addition "a]\x7d\x7bspaces\x7db".toList, .length 3 5, .select .numeric,
        .select .numeric] _ :=
    .cons (rfl : isBlankText []) (.addition (by decide) (by decide) hinclude) <|
      .cons (by decide : isBlankText [' ']) (.length hrange hlength) <|
        .cons (rfl : isBlankText []) (.select hupper) <|
          .cons (rfl : isBlankText []) (.select hlower) (.nil (rfl : isBlankText []))
  have hkeyword := @IsKeyword.intro _ [' '] [] "RandString".toList _ ['\n'] (by decide) rfl
    (by decide) hbody (by decide)
  obtain ⟨program, hprogram, hrun⟩ := ofKeyword_written hkeyword (by decide) (show 1 ≤ 10 by decide)
  refine ⟨program, hprogram, fun source state => ?_⟩
  obtain ⟨-, hcharacters, hshortest, hlongest, -, -⟩ := hrun source state
  exact ⟨hcharacters, hshortest, hlongest⟩

end StringGenerator

end FixtureKeywords
