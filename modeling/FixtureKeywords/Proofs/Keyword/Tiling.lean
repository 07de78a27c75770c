import FixtureKeywords.Proofs.Keyword.Conservation

/-!
# Tilings of a keyword

A pass of a rule looks at the text that earlier passes left. What stood in a place that
is blank there is remembered by a tiling: pieces of the keyword, each a character that is
left or a text that one space is left for. The tiles make up the keyword, blanked they are
the text that is left, and the next pass groups them, a block of tiles for each fragment
that it finds.

A block may hold a tile that was blanked before, and then the fragment was never written
as it was found. This shows in the braces of the tiling: the brace that opens the block is
followed by the one that opens the tile. Where no opening brace follows another one, every
block is a fragment as it was written.
-/
namespace FixtureKeywords
open Recogniser

namespace Piece

/-- How a pass groups tiles: the pieces that it splits the text into go with the tiles
that they were left for. -/
inductive Groups : List Piece → List Piece → List Piece → Prop
  | nil : Groups [] [] []
  | keep {tile : Piece} {c : Char} {tiles pieces grouped : List Piece} : blanked [tile] = [c] →
      Groups tiles pieces grouped → Groups (tile :: tiles) (char c :: pieces) (tile :: grouped)
  | block {f : Fragment} {block tiles pieces grouped : List Piece} : blanked block = f.whole →
      Groups tiles pieces grouped →
      Groups (block ++ tiles) (fragment f :: pieces)
        (fragment ⟨joined block, f.payload⟩ :: grouped)

theorem fragments_cons (piece : Piece) (ps : List Piece) :
    fragments (piece :: ps) = fragments [piece] ++ fragments ps := by
  rw [← fragments_append, List.singleton_append]

@[simp] theorem joined_append (ps qs : List Piece) :
    joined (ps ++ qs) = joined ps ++ joined qs := by
  simp [joined]

@[simp] theorem joined_map_char (t : Text) : joined (t.map char) = t := by
  induction t with
  | nil => rfl
  | cons c cs ih => rw [List.map_cons, joined_char, ih]

theorem eq_map_char_of_blanked {tiles : List Piece} {t : Text} (h : blanked tiles = t)
    (ht : ' ' ∉ t) : tiles = t.map char := by
  induction tiles generalizing t with
  | nil =>
      subst h
      rfl
  | cons tile tiles ih =>
      cases tile with
      | fragment f =>
          rw [blanked_fragment] at h
          exact absurd (h ▸ List.mem_cons_self) ht
      | char c =>
          rw [blanked_char] at h
          subst h
          exact congrArg (char c :: ·) (ih rfl fun hmem => ht (List.mem_cons_of_mem _ hmem))

theorem exists_tiles_behind {tiles : List Piece} {front rest : Text} (hfront : '\x7b' ∉ front)
    (hopen : ∀ f ∈ fragments tiles, ∃ inner, f.whole = '\x7b' :: inner)
    (h : joined tiles = front ++ rest) :
    ∃ behind, tiles = front.map char ++ behind ∧ joined behind = rest := by
  induction front generalizing tiles with
  | nil => exact ⟨tiles, rfl, h⟩
  | cons c cs ih =>
      rw [List.mem_cons, not_or] at hfront
      cases tiles with
      | nil => simp [joined] at h
      | cons tile tiles =>
          cases tile with
          | fragment f =>
              obtain ⟨inner, hinner⟩ := hopen f (by simp)
              rw [joined_fragment, hinner] at h
              exact absurd (List.cons.inj h).1.symm (Ne.symm hfront.1)
          | char d =>
              rw [joined_char] at h
              obtain ⟨rfl, htiles⟩ := List.cons.inj h
              obtain ⟨behind, rfl, hbehind⟩ :=
                ih hfront.2 (fun f hf => hopen f (by simpa using hf)) htiles
              exact ⟨behind, rfl, hbehind⟩

theorem exists_groups {tiles pieces : List Piece} (h : blanked tiles = joined pieces) :
    ∃ grouped, Groups tiles pieces grouped := by
  induction pieces generalizing tiles with
  | nil =>
      have hnil : tiles = [] := by simpa [blanked, joined] using h
      exact ⟨[], hnil ▸ .nil⟩
  | cons piece pieces ih =>
      cases piece with
      | char c =>
          rw [joined_char] at h
          obtain ⟨tile, rest, rfl, hc, hrest⟩ := List.map_eq_cons_iff.mp h
          obtain ⟨grouped, hgrouped⟩ := ih hrest
          exact ⟨_, .keep (by simp only [blanked, List.map_cons, List.map_nil, hc]) hgrouped⟩
      | fragment f =>
          rw [joined_fragment] at h
          obtain ⟨block, rest, rfl, hblock, hrest⟩ := List.map_eq_append_iff.mp h
          obtain ⟨grouped, hgrouped⟩ := ih hrest
          exact ⟨_, .block hblock hgrouped⟩

theorem Groups.joined_eq {tiles pieces grouped : List Piece} (h : Groups tiles pieces grouped) :
    joined grouped = joined tiles := by
  induction h with
  | nil => rfl
  | @keep tile c tiles pieces grouped _ _ ih =>
      have hcons (ps : List Piece) : joined (tile :: ps) = joined [tile] ++ joined ps := by
        simp [joined]
      rw [hcons, ih, ← hcons]
  | block _ _ ih => rw [joined_fragment, joined_append, ih]

theorem Groups.blanked_eq {tiles pieces grouped : List Piece} (h : Groups tiles pieces grouped) :
    blanked grouped = blanked pieces := by
  induction h with
  | nil => rfl
  | @keep tile c tiles pieces grouped htile _ ih =>
      have hcons : blanked (tile :: grouped) = blanked [tile] ++ blanked grouped := by
        simp [blanked]
      rw [hcons, htile, ih, blanked_char]
      rfl
  | block _ _ ih => rw [blanked_fragment, blanked_fragment, ih]

/-- The braces of a text in tiles; a tile that is blanked shows the pair that encloses it. -/
def marks (tiles : List Piece) : Text :=
  tiles.flatMap fun
    | fragment _ => ['\x7b', '\x7d']
    | char c => if isBrace c then [c] else []

@[simp] theorem marks_append (ps qs : List Piece) : marks (ps ++ qs) = marks ps ++ marks qs := by
  simp [marks]

theorem marks_char (c : Char) (ps : List Piece) :
    marks (char c :: ps) = (if isBrace c then [c] else []) ++ marks ps := by
  simp [marks]

theorem marks_fragment (f : Fragment) (ps : List Piece) :
    marks (fragment f :: ps) = '\x7b' :: '\x7d' :: marks ps := by
  simp [marks]

theorem marks_map_char (t : Text) : marks (t.map char) = t.filter isBrace := by
  induction t with
  | nil => rfl
  | cons c cs ih =>
      rw [List.map_cons, marks_char, ih]
      by_cases hc : isBrace c <;> simp [hc]

theorem marks_map_char_of_forall {t : Text} (h : ∀ c ∈ t, isBrace c = false) :
    marks (t.map char) = [] := by
  rw [marks_map_char]
  simpa [List.filter_eq_nil_iff] using h

theorem marks_plain {inner : Text} (h : ∀ c ∈ inner, isBrace c = false) :
    marks (('\x7b' :: (inner ++ ['\x7d'])).map char) = ['\x7b', '\x7d'] := by
  have hinner := marks_map_char_of_forall h
  rw [List.map_cons, List.map_append, marks_char, marks_append, hinner]
  rfl

/-- An opening brace follows another one: the first is not closed before the second opens. -/
def Nests (bs : Text) : Prop :=
  ['\x7b', '\x7b'] <:+: bs

instance (bs : Text) : Decidable (Nests bs) :=
  inferInstanceAs (Decidable (_ <:+: _))

theorem Nests.append_left {bs : Text} (h : Nests bs) (cs : Text) : Nests (cs ++ bs) :=
  h.trans (List.suffix_append cs bs).isInfix

/-- Tiles that end with the first brace among them are characters, unless they open one. -/
theorem eq_map_char_of_marks {tiles : List Piece} {inner ms : Text}
    (htiles : blanked tiles = inner ++ ['\x7d']) (hinner : ∀ c ∈ inner, isBrace c = false)
    (hmarks : ¬ Nests ('\x7b' :: (marks tiles ++ ms))) : tiles = (inner ++ ['\x7d']).map char := by
  induction inner generalizing tiles with
  | nil =>
      obtain ⟨tile, rfl⟩ : ∃ tile, tiles = [tile] := List.length_eq_one_iff.mp (by
        rw [← blanked_length, htiles]
        rfl)
      cases tile with
      | char c => rw [← htiles, blanked_char, List.map_cons]; rfl
      | fragment f => exact absurd ⟨[], _, rfl⟩ hmarks
  | cons c cs ih =>
      rw [List.cons_append] at htiles
      obtain ⟨tile, rest, rfl, hc, hrest⟩ := List.map_eq_cons_iff.mp htiles
      cases tile with
      | fragment f => exact absurd ⟨[], _, rfl⟩ hmarks
      | char d =>
          obtain rfl : d = c := hc
          have hd : isBrace d = false := hinner d List.mem_cons_self
          rw [marks_char, hd] at hmarks
          rw [ih hrest (fun e he => hinner e (List.mem_cons_of_mem _ he)) hmarks]
          rfl

/-- What a pass groups where no brace opens behind another one: the braces stay what they
were, and each block is a fragment as the pass found it. -/
theorem Groups.of_not_nests {tiles pieces grouped : List Piece} (h : Groups tiles pieces grouped)
    (hn : ¬ Nests (marks tiles)) (hpieces : ∀ f ∈ fragments pieces, ∃ inner,
      (∀ c ∈ inner, isBrace c = false) ∧ f.whole = '\x7b' :: (inner ++ ['\x7d'])) :
    marks grouped = marks tiles ∧
      ∀ f ∈ fragments grouped, f ∈ fragments tiles ∨ f ∈ fragments pieces := by
  induction h with
  | nil => exact ⟨rfl, by simp [fragments_nil]⟩
  | @keep tile c tiles pieces grouped _ _ ih =>
      have hmarks (ps : List Piece) : marks (tile :: ps) = marks [tile] ++ marks ps := by
        simp [marks]
      rw [hmarks] at hn
      obtain ⟨heq, hfound⟩ := ih (fun hnests => hn (hnests.append_left _)) (by simpa using hpieces)
      refine ⟨by rw [hmarks grouped, hmarks tiles, heq], fun f hf => ?_⟩
      rw [fragments_cons, List.mem_append] at hf ⊢
      rw [fragments_char]
      rcases hf with hf | hf
      · exact .inl (.inl hf)
      · exact (hfound f hf).imp_left .inr
  | @block f block tiles pieces grouped hblock _ ih =>
      obtain ⟨inner, hinner, hwhole⟩ := hpieces f (by simp)
      rw [marks_append] at hn
      obtain ⟨heq, hfound⟩ := ih (fun hnests => hn (hnests.append_left _))
        (fun g hg => hpieces g (by simp [hg]))
      -- The block opens with a brace that is left, so with a character.
      have hchars : block = f.whole.map char := by
        rw [hwhole] at hblock ⊢
        obtain ⟨tile, rest, rfl, hc, hrest⟩ := List.map_eq_cons_iff.mp hblock
        cases tile with
        | fragment g => exact absurd (show ' ' = '\x7b' from hc) (by decide)
        | char c =>
            obtain rfl : c = '\x7b' := hc
            rw [List.map_cons, eq_map_char_of_marks hrest hinner hn]
      have hbraces : marks block = ['\x7b', '\x7d'] := by
        rw [hchars, hwhole]
        exact marks_plain hinner
      refine ⟨by rw [marks_fragment, marks_append, hbraces, heq]; rfl, fun g hg => ?_⟩
      rw [fragments_fragment, List.mem_cons] at hg
      rcases hg with rfl | hg
      · right
        rw [hchars, joined_map_char, fragments_fragment]
        exact List.mem_cons_self
      · rw [fragments_append, List.mem_append, fragments_fragment, List.mem_cons]
        exact (hfound g hg).imp .inr .inr

end Piece

/-- The passes of a table of plain rules over tiles whose braces do not nest: the keyword is
in tiles again, and each of them that is blanked was there before or is a fragment that
one of the rules recognises by itself. -/
theorem Rule.exists_tiles_of_extractAll {α : Type} {rules : List (Rule α)} {family : Family}
    {keyword left : Text} {entries : List (String × List α)} {tiles : List Piece}
    (hrules : ∀ rule ∈ rules, Plain rule.recognise) (hn : ¬ Piece.Nests (Piece.marks tiles))
    (h : extractAll family keyword rules (Piece.blanked tiles) = .ok (entries, left)) :
    ∃ grouped, Piece.joined grouped = Piece.joined tiles ∧ Piece.blanked grouped = left ∧
      ∀ f ∈ Piece.fragments grouped, f ∈ Piece.fragments tiles ∨
        ∃ rule ∈ rules, rule.recognise f.whole = some f := by
  induction rules generalizing tiles entries with
  | nil =>
      obtain ⟨-, rfl⟩ := Prod.mk.inj (Except.ok.inj h)
      exact ⟨tiles, rfl, rfl, fun f hf => .inl hf⟩
  | cons rule rules ih =>
      have hrule := hrules rule List.mem_cons_self
      obtain ⟨values, next, others, hextract, hothers, -⟩ := extractAll_cons_eq_ok.mp h
      obtain ⟨-, -, rfl⟩ := extract_eq_ok.mp hextract
      obtain ⟨grouped, hgroups⟩ := Piece.exists_groups
        (Piece.joined_split hrule.sound (Piece.blanked tiles)).symm
      have hfound : ∀ f ∈ Piece.fragments (Piece.split rule.recognise (Piece.blanked tiles)),
          ∃ front, rule.recognise front = some f := fun f hf => Piece.exists_of_mem_fragments hf
      obtain ⟨hmarks, hgrouped⟩ := hgroups.of_not_nests hn fun f hf => by
        obtain ⟨front, hfront⟩ := hfound f hf
        obtain ⟨inner, rest, hinner, hwhole, -⟩ := hrule.braces hfront
        exact ⟨inner, hinner, hwhole⟩
      rw [← hgroups.blanked_eq] at hothers
      obtain ⟨last, hjoined, hblanked, hlast⟩ :=
        ih (fun r hr => hrules r (List.mem_cons_of_mem _ hr)) (hmarks ▸ hn) hothers
      refine ⟨last, hjoined.trans hgroups.joined_eq, hblanked, fun f hf => ?_⟩
      rcases hlast f hf with hf | ⟨r, hr, hrecognise⟩
      · rcases hgrouped f hf with hf | hf
        · exact .inl hf
        · obtain ⟨front, hfront⟩ := hfound f hf
          exact .inr ⟨rule, List.mem_cons_self, hrule.itself hfront⟩
      · exact .inr ⟨r, List.mem_cons_of_mem _ hr, hrecognise⟩

end FixtureKeywords
