import FixtureKeywords.Proofs.Keyword.Origin

/-!
# Accepted keywords that are flat

Reading by elimination does not see where a text was blanked. A modifier that is
written inside the braces of another one is taken out first, and then the other one is
found with a blank in its place. So not every accepted keyword is flat.

The exceptions show in the braces: an accepted keyword is flat exactly if no brace opens
inside another pair, payloads of additions apart. Then the tiling that the passes leave
consists of characters and of modifiers as they were written. All that is left between
the name and the last bracket is blank, and that makes a sequence of the tiles there.
-/
namespace FixtureKeywords
open Text Recogniser StringModifier

namespace Family
variable {family : Family} {tiles : List Piece}

theorem recognisers_eq (family : Family) : family.recognisers = family.table.map Prod.snd := by
  cases family with
  | datetime => rfl
  | _ => simp [recognisers, table]

theorem IsModifier.inBraces {w : Text} (h : family.IsModifier w) : InBraces w := by
  obtain ⟨recognise, hmem, payload, hw⟩ := h
  rw [recognisers_eq] at hmem
  obtain ⟨⟨name, _⟩, hrow, rfl⟩ := List.mem_map.mp hmem
  exact ((bracing_of_mem_table hrow).braces hw).1

/-- Tiles that are blank, or modifiers that were blanked, make up a sequence. -/
theorem isSequence_joined (hmodifiers : ∀ f ∈ Piece.fragments tiles, family.IsModifier f.whole)
    (hblank : isBlankText (Piece.blanked tiles)) : family.IsSequence (Piece.joined tiles) := by
  induction tiles with
  | nil => exact .blank rfl
  | cons tile tiles ih =>
      have hrest : isBlankText (Piece.blanked tiles) := by
        cases tile <;> simp_all [isBlankText]
      have htiles := ih (fun f hf => hmodifiers f (by cases tile <;> simp [hf])) hrest
      cases tile with
      | char c =>
          have hc : isBlankText [c] := by simp_all [isBlankText]
          rw [Piece.joined_char]
          exact htiles.pad hc
      | fragment f =>
          rw [Piece.joined_fragment]
          exact .modifier (b := []) rfl (hmodifiers f (by simp)) htiles

/-- A keyword in tiles is flat if it is bare with its modifiers blanked. -/
theorem isFlat_of_tiles {t : Text} (hencloses : family.encloses t)
    (hjoined : Piece.joined tiles = strip t)
    (hmodifiers : ∀ f ∈ Piece.fragments tiles, family.IsModifier f.whole)
    (hbare : family.isBare (Piece.blanked tiles)) : family.IsFlat (strip t) := by
  have htiles : Piece.Tiling (strip t) (Piece.blanked tiles) tiles :=
    ⟨hjoined, rfl, fun f hf => (hmodifiers f hf).inBraces⟩
  obtain ⟨lead, s, inside, hlead, hs, rfl, ht, hleft⟩ := exists_envelope hencloses htiles
  have hkeyword : '[' :: ((lead ++ (s ++ Piece.blanked inside)) ++ [']']) =
      '[' :: (lead ++ (s ++ (Piece.blanked inside ++ [']']))) := by
    simp
  rw [hleft, hkeyword] at hbare
  obtain ⟨blank, hblank, hlast⟩ := blank_of_isBare hlead hs hbare
  obtain rfl := List.append_cancel_right hlast
  rw [ht]
  refine .intro hlead hs (isSequence_joined (fun f hf => hmodifiers f ?_) hblank)
  simp [hf]

/-- A keyword in tiles is flat if passes of plain rules make it bare, and its braces do not
nest. -/
theorem isFlat_of_extractAll {α : Type} {rules : List (Rule α)} {t keyword left : Text}
    {entries : List (String × List α)} (hencloses : family.encloses t)
    (hjoined : Piece.joined tiles = strip t) (hn : ¬ Piece.Nests (Piece.marks tiles))
    (hmodifiers : ∀ f ∈ Piece.fragments tiles, family.IsModifier f.whole)
    (hplain : ∀ rule ∈ rules, Plain rule.recognise ∧ rule.recognise ∈ family.recognisers)
    (hextract : Rule.extractAll family keyword rules (Piece.blanked tiles) = .ok (entries, left))
    (hbare : family.isBare left) : family.IsFlat (strip t) := by
  obtain ⟨grouped, hgrouped, rfl, hfragments⟩ :=
    Rule.exists_tiles_of_extractAll (fun rule hrule => (hplain rule hrule).1) hn hextract
  refine isFlat_of_tiles hencloses (hgrouped.trans hjoined) (fun f hf => ?_) hbare
  rcases hfragments f hf with hf | ⟨rule, hrule, hf⟩
  · exact hmodifiers f hf
  · exact ⟨rule.recognise, (hplain rule hrule).2, f.payload, hf⟩

/-- A table of plain rules accepts no keyword that is not flat, unless its braces nest. -/
theorem isFlat_of_parse {α : Type} {rules : List (Rule α)} {exclusive : List (List String)}
    {parsed : Parsed α} {t : Text} (h : Parsed.parse t family rules exclusive = .ok parsed)
    (hplain : ∀ rule ∈ rules, Plain rule.recognise ∧ rule.recognise ∈ family.recognisers)
    (hn : ¬ Piece.Nests ((strip t).filter isBrace)) : family.IsFlat (strip t) := by
  obtain ⟨hencloses, -, -, -, left, hextract, hbare⟩ := Parsed.parse_eq_ok h
  have hblanked : Piece.blanked ((strip t).map Piece.char) = strip t := Piece.blanked_map_char _
  rw [← hblanked] at hextract
  rw [← Piece.marks_map_char] at hn
  exact isFlat_of_extractAll hencloses (Piece.joined_map_char _) hn (by simp) hplain
    hextract hbare

/-- Additions are taken out first; the other rules of strings are plain. -/
theorem isFlat_of_parse_string {parsed : Parsed StringModifier} {t : Text}
    (h : StringModifier.parse t = .ok parsed) (hn : ¬ Piece.Nests (string.braces (strip t))) :
    string.IsFlat (strip t) := by
  obtain ⟨hencloses, -, -, -, left, hextract, hbare⟩ := Parsed.parse_eq_ok h
  obtain ⟨values, next, others, hfirst, hothers, -⟩ := Rule.extractAll_cons_eq_ok.mp hextract
  obtain ⟨-, -, rfl⟩ := Rule.extract_eq_ok.mp hfirst
  have hadditions : ∀ f ∈ Piece.fragments (Piece.split recogniseAddition (strip t)),
      string.IsModifier f.whole := by
    intro f hf
    obtain ⟨front, hfront⟩ := Piece.exists_of_mem_fragments hf
    exact ⟨recogniseAddition, List.mem_cons_self, f.payload,
      bracing_recogniseAddition.itself hfront⟩
  have hplain : ∀ rule ∈ StringModifier.rules.tail,
      Plain rule.recognise ∧ rule.recognise ∈ string.recognisers := by
    intro rule hrule
    have hmem := List.mem_of_mem_tail hrule
    refine ⟨plain_of_mem hmem ?_, List.mem_map_of_mem hmem⟩
    intro hname
    have hnames : "include" ∉ StringModifier.rules.tail.map Rule.name := by decide
    exact hnames (hname ▸ List.mem_map_of_mem hrule)
  exact isFlat_of_extractAll hencloses (Piece.joined_split bracing_recogniseAddition.sound _) hn
    hadditions hplain hothers hbare

theorem braces_eq_filter (hfamily : family ≠ .string) (t : Text) :
    family.braces t = t.filter isBrace := by
  have hnone : ∀ s, family.additions s = none := by
    cases family with
    | string => exact absurd rfl hfamily
    | integer => exact fun _ => rfl
    | datetime => exact fun _ => rfl
  unfold braces
  have hsplit : Piece.split family.additions (t ++ []) =
      t.map Piece.char ++ Piece.split family.additions [] :=
    Piece.split_plain [] fun c _ cs => hnone (c :: cs)
  rw [List.append_nil, Piece.split_nil, List.append_nil] at hsplit
  rw [hsplit, Piece.marks_map_char]

end Family

/-- An accepted keyword is flat exactly if no brace opens inside another pair of braces,
payloads of additions apart. -/
theorem Keyword.read_flat_iff [Almanac] {s : String} {k : Keyword}
    (h : Keyword.read (.text s) = .ok k) :
    k.family.IsFlat (strip s.toList) ↔ ¬ Piece.Nests (k.family.braces (strip s.toList)) := by
  constructor
  · exact Family.IsFlat.not_nests
  · intro hn
    have hparse := Keyword.read_eq_ok h
    cases k with
    | string parsed => exact Family.isFlat_of_parse_string hparse hn
    | integer parsed =>
        rw [Keyword.family, Family.braces_eq_filter (by decide)] at hn
        exact Family.isFlat_of_parse hparse (fun rule hrule =>
          ⟨IntegerModifier.plain_of_mem hrule, List.mem_map_of_mem hrule⟩) hn
    | datetime parsed =>
        rw [Keyword.family, Family.braces_eq_filter (by decide)] at hn
        exact Family.isFlat_of_parse hparse (fun rule hrule =>
          ⟨TemporalModifier.plain_of_mem hrule, TemporalModifier.recognise_mem hrule⟩) hn

/-- A payload that looks like a flag nests nothing. -/
theorem Keyword.read_flat_lookalike :
    let written := " [randstring\x7binclude=[\x7bspaces\x7d]\x7d \x7blength=3\x7d]"
    let parsed : Parsed StringModifier := ⟨.string, strip written.toList,
      [("include", [.addition "\x7bspaces\x7d".toList]), ("length", [.length 3 3])]⟩
    Keyword.read (.text written) = .ok (.string parsed) ∧
      Family.string.IsFlat (strip written.toList) := by
  intro written parsed
  have h : Keyword.read (.text written) = .ok (.string parsed) := by decide
  exact ⟨h, (Keyword.read_flat_iff h).mpr (by decide)⟩

/-- A range inside the braces of a flag is blanked before the flag is looked for. -/
theorem Keyword.read_nested :
    let written := "[randint\x7b\x7brange=1:9\x7deven\x7d]"
    let parsed : Parsed IntegerModifier := ⟨.integer, written.toList,
      [("range", [.range 1 9]), ("even", [.parity .even])]⟩
    Keyword.read (.text written) = .ok (.integer parsed) ∧
      ¬ Family.integer.IsFlat (strip written.toList) := by
  intro written parsed
  have h : Keyword.read (.text written) = .ok (.integer parsed) := by decide
  have hn : Piece.Nests (Family.integer.braces (strip written.toList)) := by decide
  exact ⟨h, fun hflat => hflat.not_nests hn⟩

end FixtureKeywords
