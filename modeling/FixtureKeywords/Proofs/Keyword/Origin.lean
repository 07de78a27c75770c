import FixtureKeywords.Proofs.Integers.Written
import FixtureKeywords.Proofs.Keyword.Sequence

/-!
# Where a match was written

A pass of a rule reads the text that earlier passes left, with a space for each fragment
that they found. So a match may reach over such a space. It might then be put together
from what stood on both sides of a fragment.

Whole matches can be, but not the parts that count. The keyword stays in tiles, and each
tile that is blanked begins with an opening brace and ends with a closing one. A pass keeps
this, since a block of tiles that it groups is left with a brace at either end. The bracket
and the name of the family stand in front of the first brace, and the last bracket is no
brace, so both are left by every pass. A run of characters without a space was never
blanked. Hence the name of a match, and each number in its payload, stood in the keyword
as it stands in the match.
-/
namespace FixtureKeywords
open Text Recogniser

/-- An opening brace in front and a closing one at the end; they need not belong together. -/
def InBraces (w : Text) : Prop :=
  ∃ inner, w = '\x7b' :: (inner ++ ['\x7d'])

namespace Recogniser
variable {recognise : Recogniser} {name t : Text} {f : Fragment}

/-- What is found is in braces and holds its payload; and it is found again in a text that
holds nothing else. -/
structure Bracing (recognise : Recogniser) : Prop where
  braces : ∀ {t : Text} {f : Fragment}, recognise t = some f →
    InBraces f.whole ∧ ∃ rest, t = f.whole ++ rest
  payload : ∀ {t : Text} {f : Fragment}, recognise t = some f → f.payload <:+: f.whole
  itself : ∀ {t : Text} {f : Fragment}, recognise t = some f → recognise f.whole = some f

theorem Bracing.sound (h : Bracing recognise) : recognise.Sound := by
  intro t f hf
  obtain ⟨⟨inner, hwhole⟩, hrest⟩ := h.braces hf
  exact ⟨by simp [hwhole], hrest⟩

theorem Plain.bracing (h : Plain recognise)
    (hpayload : ∀ {t : Text} {f : Fragment}, recognise t = some f → f.payload <:+: f.whole) :
    Bracing recognise where
  braces := by
    intro t f hf
    obtain ⟨inner, rest, -, hwhole, ht⟩ := h.braces hf
    exact ⟨⟨inner, hwhole⟩, rest, ht⟩
  payload := hpayload
  itself := h.itself

theorem bracing_flag (hn : IsName name) : Bracing (flag name) := by
  refine (plain_flag hn).bracing fun h => ?_
  obtain ⟨w, rest, -, -, rfl⟩ := (flag_eq_some_iff hn).mp h
  exact List.nil_infix

theorem bracing_assignment (hn : IsName name) : Bracing (assignment name) := by
  refine (plain_assignment hn).bracing fun h => ?_
  obtain ⟨w, payload, rest, ⟨-, -, -, -⟩, -, rfl⟩ := (assignment_eq_some_iff hn).mp h
  rename_i lead s middle
  exact ⟨'\x7b' :: (lead ++ (s ++ (middle ++ ['=']))), ['\x7d'], by simp⟩

/-- A reader that opens with a name finds it behind the brace and blanks. -/
theorem Bracing.exists_name (h : Bracing recognise) (ho : Opens name recognise) (hn : IsName name)
    (hf : recognise t = some f) : ∃ lead s rest, isBlankText lead ∧ Reads name s ∧
      f.whole = '\x7b' :: (lead ++ (s ++ rest)) := by
  have hitself := h.itself hf
  cases hdrop : dropOpening? name f.whole with
  | none => simp [ho _ hdrop] at hitself
  | some rest =>
      obtain ⟨lead, s, hlead, hs, hwhole⟩ := (dropOpening?_eq_some_iff hn).mp hdrop
      exact ⟨lead, s, rest, hlead, hs, hwhole⟩

/-- The text that readers leave that look for their fragments one after the other. -/
def eliminate (passes : List Recogniser) (t : Text) : Text :=
  passes.foldl (fun left recognise => Piece.blanked (Piece.split recognise left)) t

end Recogniser

/-- Where the rules of a table succeed they leave what their readers leave. -/
theorem Rule.eq_eliminate_of_extractAll {α : Type} {family : Family} {keyword reduced left : Text}
    {rules : List (Rule α)} {entries : List (String × List α)}
    (h : extractAll family keyword rules reduced = .ok (entries, left)) :
    left = eliminate (rules.map Rule.recognise) reduced := by
  induction rules generalizing reduced entries with
  | nil => exact (Prod.mk.inj (Except.ok.inj h)).2.symm
  | cons rule rules ih =>
      obtain ⟨values, next, others, hextract, hothers, -⟩ := extractAll_cons_eq_ok.mp h
      obtain ⟨-, -, rfl⟩ := extract_eq_ok.mp hextract
      exact ih hothers

namespace Piece
variable {t left : Text} {tiles pieces grouped : List Piece} {recognise : Recogniser}

/-- A text in tiles, one behind the other, and what is left of it: a space for each tile in
braces, and the other characters. -/
structure Tiling (t left : Text) (tiles : List Piece) : Prop where
  joined_eq : joined tiles = t
  blanked_eq : blanked tiles = left
  inBraces : ∀ f ∈ fragments tiles, InBraces f.whole

theorem tiling_map_char (t : Text) : Tiling t t (t.map char) where
  joined_eq := joined_map_char t
  blanked_eq := blanked_map_char t
  inBraces := by simp

/-- A brace that is left is a character, so tiles that are left in braces are in braces. -/
theorem inBraces_joined (h : InBraces (blanked tiles)) : InBraces (joined tiles) := by
  have hchar {c : Char} (hc : c ≠ ' ') {tile : Piece} (htile : blanked [tile] = [c]) :
      tile = char c := by
    cases tile with
    | fragment f => exact absurd (List.cons.inj htile).1.symm hc
    | char d => exact congrArg char (List.cons.inj htile).1
  -- The first of the tiles and the last one are left as braces.
  obtain ⟨inner, hinner⟩ := h
  obtain ⟨first, more, rfl, hfirst, hmore⟩ := List.map_eq_cons_iff.mp hinner
  obtain ⟨inside, last, rfl, -, hlast⟩ := List.map_eq_append_iff.mp hmore
  obtain ⟨tile, rfl, htile⟩ := List.map_eq_singleton_iff.mp hlast
  obtain rfl := hchar (by decide) (congrArg (fun c => [c]) hfirst)
  obtain rfl := hchar (by decide) (congrArg (fun c => [c]) htile)
  exact ⟨joined inside, by rw [joined_char, joined_append]; rfl⟩

theorem Groups.inBraces (h : Groups tiles pieces grouped)
    (htiles : ∀ f ∈ fragments tiles, InBraces f.whole)
    (hpieces : ∀ f ∈ fragments pieces, InBraces f.whole) :
    ∀ f ∈ fragments grouped, InBraces f.whole := by
  induction h with
  | nil => exact htiles
  | @keep tile c tiles pieces grouped _ _ ih =>
      rw [fragments_cons] at htiles ⊢
      have hrest := ih (fun f hf => htiles f (List.mem_append_right _ hf)) (by simpa using hpieces)
      intro f hf
      exact (List.mem_append.mp hf).elim (fun hf => htiles f (List.mem_append_left _ hf)) (hrest f)
  | @block g block tiles pieces grouped hblock _ ih =>
      rw [fragments_append] at htiles
      rw [fragments_fragment] at hpieces ⊢
      have hrest := ih (fun f hf => htiles f (List.mem_append_right _ hf))
        fun f hf => hpieces f (List.mem_cons_of_mem _ hf)
      have hg : InBraces (joined block) := inBraces_joined (hblock ▸ hpieces g List.mem_cons_self)
      intro f hf
      rcases List.mem_cons.mp hf with rfl | hf
      · exact hg
      · exact hrest f hf

theorem Tiling.exists_pass (h : Tiling t left tiles) (hrecognise : Bracing recognise) :
    ∃ grouped, Tiling t (blanked (split recognise left)) grouped := by
  have hleft : blanked tiles = joined (split recognise left) := by
    rw [joined_split hrecognise.sound, h.blanked_eq]
  obtain ⟨grouped, hgroups⟩ := exists_groups hleft
  refine ⟨grouped, hgroups.joined_eq.trans h.joined_eq, hgroups.blanked_eq,
    hgroups.inBraces h.inBraces fun f hf => ?_⟩
  obtain ⟨front, hfront⟩ := exists_of_mem_fragments hf
  exact (hrecognise.braces hfront).1

theorem Tiling.exists_eliminate {passes : List Recogniser} (h : Tiling t left tiles)
    (hpasses : ∀ recognise ∈ passes, Bracing recognise) :
    ∃ grouped, Tiling t (eliminate passes left) grouped := by
  induction passes generalizing left tiles with
  | nil => exact ⟨tiles, h⟩
  | cons recognise passes ih =>
      obtain ⟨grouped, hgrouped⟩ := h.exists_pass (hpasses recognise List.mem_cons_self)
      exact ih hgrouped fun r hr => hpasses r (List.mem_cons_of_mem _ hr)

/-- A run of characters in the text that is left, with what is left before and behind it. The
tiles of the run are neighbours and none is blanked, so it stands in the text of the tiles
between what the others make up. -/
def Stands (tiles : List Piece) (before run behind : Text) : Prop :=
  ∃ front back, tiles = front ++ (run.map char ++ back) ∧ blanked front = before ∧
    blanked back = behind ∧ joined tiles = joined front ++ (run ++ joined back)

theorem stands_of_blanked {before run behind : Text}
    (h : blanked tiles = before ++ (run ++ behind)) (hrun : ' ' ∉ run) :
    Stands tiles before run behind := by
  obtain ⟨front, rest, rfl, hfront, hrest⟩ := List.map_eq_append_iff.mp h
  obtain ⟨middle, back, rfl, hmiddle, hback⟩ := List.map_eq_append_iff.mp hrest
  obtain rfl := eq_map_char_of_blanked hmiddle hrun
  exact ⟨front, back, rfl, hfront, hback, by simp⟩

end Piece

theorem StringModifier.bracing_recogniseAddition : Bracing recogniseAddition where
  braces := by
    intro t f h
    obtain ⟨w, characters, rest, ⟨ho, -, -⟩, -, -, rfl, rfl⟩ :=
      recogniseAddition_eq_some_iff.mp h
    rename_i opener gap trail
    obtain ⟨inner, rfl, -⟩ := ho.exists_eq_cons
    exact ⟨⟨inner ++ (gap ++ '[' :: (characters ++ ']' :: trail)), by simp⟩, rest, rfl⟩
  payload := by
    intro t f h
    obtain ⟨w, characters, rest, ⟨-, -, -⟩, -, -, -, rfl⟩ := recogniseAddition_eq_some_iff.mp h
    rename_i opener gap trail
    exact ⟨opener ++ (gap ++ ['[']), ']' :: (trail ++ ['\x7d']), by simp⟩
  itself := by
    intro t f h
    obtain ⟨w, characters, rest, hw, hc, -, -, rfl⟩ := recogniseAddition_eq_some_iff.mp h
    have hfound : recogniseAddition (w ++ []) = some ⟨w, characters⟩ :=
      recogniseAddition_append hw hc rfl
    rwa [List.append_nil] at hfound

namespace TemporalModifier

theorem bracing_recogniseOffset : Bracing recogniseOffset := by
  refine plain_recogniseOffset.bracing fun h => ?_
  obtain ⟨w, numeral, unit, rest, ⟨-, -, -, -⟩, -, rfl⟩ := recogniseOffset_eq_some_iff.mp h
  rename_i lead sign digits trail
  exact ⟨'\x7b' :: lead, trail ++ ['\x7d'], by simp⟩

theorem bracing_recogniseEmpty : Bracing recogniseEmpty := by
  refine plain_recogniseEmpty.bracing fun h => ?_
  obtain ⟨w, rest, -, -, rfl⟩ := recogniseEmpty_eq_some_iff.mp h
  exact List.nil_infix

end TemporalModifier

namespace Family
variable {family : Family} {name : String} {recognise : Recogniser} {t left : Text}
  {tiles : List Piece} {f : Fragment}

/-- The rows of the table of a family: the name and the reader of each rule. Those for
datetimes do not depend on the zones that there are. -/
def table : Family → List (String × Recogniser)
  | string => StringModifier.rules.map fun rule => (rule.name, rule.recognise)
  | integer => IntegerModifier.rules.map fun rule => (rule.name, rule.recognise)
  | datetime =>
      [("start", .assignment "start".toList), ("zoneid", .assignment "zoneid".toList),
        ("offset", TemporalModifier.recogniseOffset), ("empty", TemporalModifier.recogniseEmpty)]

theorem table_datetime [Almanac] : datetime.table =
    TemporalModifier.rules.map fun rule => (rule.name, rule.recognise) := rfl

/-- The rules whose modifiers are written without a name. -/
def nameless : List String :=
  ["offset", "empty"]

theorem isName_of_mem_table : ∀ row ∈ family.table, IsName row.1.toList := by
  cases family <;> decide

theorem opens_of_mem_table (h : (name, recognise) ∈ family.table) (hname : name ∉ nameless) :
    Opens name.toList recognise := by
  cases family with
  | string =>
      obtain ⟨rule, hrule, ⟨⟩⟩ := List.mem_map.mp h
      exact StringModifier.opens_of_mem hrule
  | integer =>
      obtain ⟨rule, hrule, ⟨⟩⟩ := List.mem_map.mp h
      exact IntegerModifier.opens_of_mem hrule
  | datetime =>
      simp only [table, List.mem_cons, List.not_mem_nil, or_false, Prod.mk.injEq] at h
      rcases h with ⟨rfl, rfl⟩ | ⟨rfl, rfl⟩ | ⟨rfl, -⟩ | ⟨rfl, -⟩
      · exact opens_assignment _
      · exact opens_assignment _
      · exact absurd (by decide) hname
      · exact absurd (by decide) hname

theorem bracing_of_mem_table (h : (name, recognise) ∈ family.table) : Bracing recognise := by
  have hn := isName_of_mem_table _ h
  cases family with
  | string =>
      simp only [table, StringModifier.rules, List.map_append, List.map_cons, List.map_nil,
        List.map_map, List.mem_append, List.mem_cons, List.mem_map, List.not_mem_nil, or_false,
        Prod.mk.injEq] at h
      rcases h with (⟨rfl, rfl⟩ | ⟨rfl, rfl⟩) | ⟨chosen, -, ⟨⟩⟩
      · exact StringModifier.bracing_recogniseAddition
      · exact bracing_assignment hn
      · exact bracing_flag hn
  | integer =>
      simp only [table, IntegerModifier.rules, List.map_cons, List.map_nil, List.mem_cons,
        List.not_mem_nil, or_false, Prod.mk.injEq] at h
      rcases h with ⟨rfl, rfl⟩ | ⟨rfl, rfl⟩ | ⟨rfl, rfl⟩
      · exact bracing_assignment hn
      · exact bracing_flag hn
      · exact bracing_flag hn
  | datetime =>
      simp only [table, List.mem_cons, List.not_mem_nil, or_false, Prod.mk.injEq] at h
      rcases h with ⟨rfl, rfl⟩ | ⟨rfl, rfl⟩ | ⟨rfl, rfl⟩ | ⟨rfl, rfl⟩
      · exact bracing_assignment hn
      · exact bracing_assignment hn
      · exact TemporalModifier.bracing_recogniseOffset
      · exact TemporalModifier.bracing_recogniseEmpty

/-- The bracket and the name of the family stand in front of all tiles in braces, and the
last tile is the last bracket. -/
theorem exists_envelope (hencloses : family.encloses t)
    (htiles : Piece.Tiling (strip t) left tiles) :
    ∃ lead s inside, isBlankText lead ∧ Reads family.name.toList s ∧
      tiles = ('[' :: (lead ++ s)).map Piece.char ++ (inside ++ [.char ']']) ∧
      strip t = '[' :: ((lead ++ (s ++ Piece.joined inside)) ++ [']']) ∧
      left = '[' :: ((lead ++ (s ++ Piece.blanked inside)) ++ [']']) := by
  obtain ⟨hjoined, rfl, hbraces⟩ := htiles
  obtain ⟨lead, s, body, hlead, hs, ht⟩ := exists_of_encloses hencloses
  have hfront : '\x7b' ∉ '[' :: (lead ++ (s ++ [])) := not_mem_front hlead hs
  rw [List.append_nil] at hfront
  have hkeyword : Piece.joined tiles = '[' :: (lead ++ s) ++ (body ++ [']']) := by
    rw [hjoined, ht]
    simp
  have hopen : ∀ f ∈ Piece.fragments tiles, ∃ inner, f.whole = '\x7b' :: inner := by
    intro f hf
    obtain ⟨inner, hinner⟩ := hbraces f hf
    exact ⟨_, hinner⟩
  obtain ⟨behind, rfl, hbehind⟩ := Piece.exists_tiles_behind hfront hopen hkeyword
  rcases List.eq_nil_or_concat' behind with rfl | ⟨inside, last, rfl⟩
  · simp [Piece.joined] at hbehind
  · rw [Piece.joined_append] at hbehind
    cases last with
    | fragment f =>
        -- A tile in braces ends with a brace.
        obtain ⟨inner, hinner⟩ := hbraces f (by simp)
        have hlast : Piece.joined [.fragment f] = ('\x7b' :: inner) ++ ['\x7d'] := by
          rw [Piece.joined_fragment, hinner]
          exact List.append_nil _
        rw [hlast, ← List.append_assoc] at hbehind
        exact absurd (List.append_singleton_inj.mp hbehind).2 (by decide)
    | char c =>
        obtain ⟨rfl, rfl⟩ := List.append_singleton_inj.mp hbehind
        have hnil : Piece.blanked [] = [] := rfl
        exact ⟨lead, s, inside, hlead, hs, rfl, ht, by simp [hnil]⟩

/-- Where a match was written, that is found with a text in front of it and one behind it. Its
name, if it has one, was written in one piece, and so was each run of its payload that holds
no space, be it of digits. -/
structure WrittenAt (tiles : List Piece) (name : String) (before : Text) (f : Fragment)
    (behind : Text) : Prop where
  named : name ∉ nameless → ∃ lead s rest, isBlankText lead ∧ Reads name.toList s ∧
    f.whole = '\x7b' :: (lead ++ (s ++ rest)) ∧
      Piece.Stands tiles (before ++ '\x7b' :: lead) s (rest ++ behind)
  payload : f.payload <:+: f.whole ∧ ∀ front p run q back : Text,
    f.whole = front ++ (f.payload ++ back) → f.payload = p ++ (run ++ q) → ' ' ∉ run →
      Piece.Stands tiles (before ++ (front ++ p)) run (q ++ (back ++ behind))

theorem writtenAt_of_split (htiles : Piece.Tiling t left tiles)
    (hrow : (name, recognise) ∈ family.table) {front back : List Piece}
    (hsplit : Piece.split recognise left = front ++ .fragment f :: back) :
    WrittenAt tiles name (Piece.joined front) f (Piece.joined back) := by
  have hbracing := bracing_of_mem_table hrow
  obtain ⟨found, hfound⟩ : ∃ found, recognise found = some f := by
    refine Piece.exists_of_mem_fragments (t := left) ?_
    simp [hsplit]
  have hleft : Piece.blanked tiles =
      Piece.joined front ++ (f.whole ++ Piece.joined back) := by
    rw [htiles.blanked_eq, ← Piece.joined_split hbracing.sound left, hsplit, Piece.joined_append,
      Piece.joined_fragment]
  constructor
  · intro hname
    have hn := isName_of_mem_table _ hrow
    obtain ⟨lead, s, rest, hlead, hs, hwhole⟩ :=
      hbracing.exists_name (opens_of_mem_table hrow hname) hn hfound
    refine ⟨lead, s, rest, hlead, hs, hwhole, ?_⟩
    refine Piece.stands_of_blanked ?_ (hs.not_mem hn (by decide))
    rw [hleft, hwhole]
    simp
  · refine ⟨hbracing.payload hfound, fun before p run q behind hwhole hpayload hrun => ?_⟩
    refine Piece.stands_of_blanked ?_ hrun
    rw [hleft, hwhole, hpayload]
    simp

/-- However far the table of a family has been gone through: the text that is left is the
keyword with a space for each of some pieces in braces, and has the envelope of the keyword.
What any rule of the table finds there was written where it is found, as far as its name and
the runs of its payload go. -/
theorem exists_tiling_of_encloses {passes : List (String × Recogniser)}
    (hencloses : family.encloses t) (hpasses : passes <+: family.table) :
    (∀ (α : Type) (rules : List (Rule α)) (keyword left : Text)
        (entries : List (String × List α)),
      rules.map (fun rule => (rule.name, rule.recognise)) = passes →
      Rule.extractAll family keyword rules (strip t) = .ok (entries, left) →
        left = eliminate (passes.map Prod.snd) (strip t)) ∧
    ∃ tiles, Piece.Tiling (strip t) (eliminate (passes.map Prod.snd) (strip t)) tiles ∧
      (∃ lead s inside, isBlankText lead ∧ Reads family.name.toList s ∧
        tiles = ('[' :: (lead ++ s)).map Piece.char ++ (inside ++ [.char ']']) ∧
        strip t = '[' :: ((lead ++ (s ++ Piece.joined inside)) ++ [']']) ∧
        eliminate (passes.map Prod.snd) (strip t) =
          '[' :: ((lead ++ (s ++ Piece.blanked inside)) ++ [']'])) ∧
      ∀ (name : String) (recognise : Recogniser), (name, recognise) ∈ family.table →
        ∀ (front : List Piece) (f : Fragment) (back : List Piece),
          Piece.split recognise (eliminate (passes.map Prod.snd) (strip t)) =
              front ++ .fragment f :: back →
            WrittenAt tiles name (Piece.joined front) f (Piece.joined back) := by
  constructor
  · rintro α rules keyword left entries rfl h
    rw [List.map_map]
    exact Rule.eq_eliminate_of_extractAll h
  · have hbracing : ∀ recognise ∈ passes.map Prod.snd, Bracing recognise := by
      intro recognise hmem
      obtain ⟨⟨name, _⟩, hrow, rfl⟩ := List.mem_map.mp hmem
      exact bracing_of_mem_table (hpasses.subset hrow)
    obtain ⟨tiles, htiles⟩ := (Piece.tiling_map_char (strip t)).exists_eliminate hbracing
    exact ⟨tiles, htiles, exists_envelope hencloses htiles,
      fun name recognise hrow front f back hsplit => writtenAt_of_split htiles hrow hsplit⟩

/-- An offset in whose braces a zone is written: the brace and the offset are on both sides
of the zone, the number of the offset is not. -/
theorem exists_tiling_of_zone_in_offset :
    let written := "[datetime\x7b\x7bzoneid=UTC\x7d+12d\x7d]".toList
    let left := "[datetime\x7b +12d\x7d]".toList
    datetime.encloses written ∧
      eliminate ((datetime.table.take 2).map Prod.snd) (strip written) = left ∧
      ∃ tiles, Piece.Tiling written left tiles ∧
        Piece.Stands tiles "[datetime\x7b +".toList "12".toList "d\x7d]".toList := by
  intro written left
  have hencloses : datetime.encloses written := by decide
  have hstrip : strip written = written := by decide
  have hleft : eliminate ((datetime.table.take 2).map Prod.snd) (strip written) = left := by
    decide
  obtain ⟨-, tiles, htiles, -, hfound⟩ :=
    exists_tiling_of_encloses hencloses (List.take_prefix 2 datetime.table)
  rw [hleft] at htiles hfound
  have hrow : ("offset", TemporalModifier.recogniseOffset) ∈ datetime.table := by
    simp [table]
  have hoffset := hfound "offset" _ hrow ("[datetime".toList.map .char)
    ⟨"\x7b +12d\x7d".toList, "+12d".toList⟩ [.char ']'] (by decide)
  have hnumber := hoffset.payload.2 "\x7b ".toList "+".toList "12".toList "d".toList "\x7d".toList
    (by decide) (by decide) (by decide)
  exact ⟨hencloses, hleft, tiles, hstrip ▸ htiles, hnumber⟩

end Family

end FixtureKeywords
