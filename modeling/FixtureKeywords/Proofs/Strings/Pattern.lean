import FixtureKeywords.Proofs.Strings.Addition

/-!
# Additions by search

An addition can be described by a pattern that is searched for. Each part of a pattern
says which texts it may leave of a text, the preferred one first, and where the rest of
the pattern fails the part before it tries its next choice. The payload is as many
characters as possible, none of which begins an opener, so its last choices are the short
ones.

The search finds what is recognised. All choices for the blanks but the first one are in
vain, since what follows them is no blank. The payload gives back characters until a
closing stands behind it, and so it ends at the last closing before the next opener.
-/
namespace FixtureKeywords

/-- The texts that a part of a pattern may leave, in the order in which it tries them. -/
abbrev Pattern := Text → List Text

namespace Pattern
open Text Recogniser StringModifier

def one (kind : Char → Bool) : Pattern
  | [] => []
  | c :: cs => if kind c then [cs] else []

/-- As many characters as possible, each taken only where `goesOn` holds. -/
def many (goesOn : Text → Bool) : Pattern
  | [] => [[]]
  | c :: cs => if goesOn (c :: cs) then many goesOn cs ++ [c :: cs] else [c :: cs]

/-- One part behind another. -/
def before (first second : Pattern) : Pattern := fun t =>
  (first t).flatMap second

def blanks : Pattern :=
  many fun t => t.head?.any isBlank

/-- A lower-case word, in any case. -/
def word : Text → Pattern
  | [] => fun t => [t]
  | w :: ws => before (one fun c => letterKey c == w) (word ws)

def opener : Pattern :=
  before (one (· == '\x7b')) <| before blanks <| before (word "include".toList) <|
    before blanks <| one (· == '=')

/-- The payload of an addition: no character of it begins an opener. -/
def payload : Pattern :=
  many fun t => (opener t).isEmpty

def closing : Pattern :=
  before (one (· == ']')) <| before blanks <| one (· == '\x7d')

/-- The additions at the start of a text, in the order in which they are tried. -/
def additions (t : Text) : List Fragment :=
  (before opener (before blanks (one (· == '['))) t).flatMap fun inner =>
    (payload inner).flatMap fun rest =>
      (closing rest).map fun behind =>
        .upTo t behind (inner.take (inner.length - rest.length))

theorem one_eq (c : Char) (t : Text) : one (· == c) t = (dropChar? c t).toList := by
  cases t with
  | nil => rfl
  | cons d ds => by_cases h : d = c <;> simp [one, dropChar?, h]

/-- Only the first choice for the blanks counts if what follows begins with no blank. -/
theorem blanks_before {next : Pattern} (h : ∀ c cs, isBlank c → next (c :: cs) = [])
    (t : Text) : before blanks next t = next (dropBlanks t) := by
  induction t with
  | nil => simp [before, blanks, many, dropBlanks]
  | cons c cs ih =>
      by_cases hc : isBlank c
      · have hcons : dropBlanks (c :: cs) = dropBlanks cs := by simp [dropBlanks, hc]
        have hmore : blanks (c :: cs) = blanks cs ++ [c :: cs] := by simp [blanks, many, hc]
        rw [hcons, ← ih, before, before, hmore, List.flatMap_append]
        simp [h c cs hc]
      · rw [Bool.not_eq_true] at hc
        rw [dropBlanks_cons hc]
        simp [before, blanks, many, hc]

theorem blanks_before_one {c : Char} (hc : isBlank c = false) (t : Text) :
    before blanks (one (· == c)) t = (dropChar? c (dropBlanks t)).toList := by
  rw [← one_eq]
  refine blanks_before ?_ t
  intro d ds hd
  have hne : d ≠ c := by
    rintro rfl
    simp [hc] at hd
  simp [one, hne]

theorem word_eq (w t : Text) : word w t = (dropWord? w t).toList := by
  induction w generalizing t with
  | nil => simp [word, dropWord?_nil]
  | cons w ws ih =>
      cases t with
      | nil => rfl
      | cons c cs => by_cases h : letterKey c = w <;> simp [word, before, one, dropWord?, h, ih]

theorem before_eq {first second : Pattern} {drop? next? : Text → Option Text} {t : Text}
    (hfirst : first t = (drop? t).toList) (hsecond : ∀ rest, second rest = (next? rest).toList) :
    before first second t = ((drop? t).bind next?).toList := by
  rw [before, hfirst]
  cases drop? t with
  | none => rfl
  | some rest => simp [hsecond]

theorem opener_eq (t : Text) : opener t = (dropOpener? t).toList := by
  have hword (rest : Text) :
      before (word "include".toList) (before blanks (one (· == '='))) rest =
        ((dropWord? "include".toList rest).bind fun r => dropChar? '=' (dropBlanks r)).toList :=
    before_eq (word_eq _ rest) (blanks_before_one (by decide))
  have hname (rest : Text) :
      before blanks (before (word "include".toList) (before blanks (one (· == '=')))) rest =
        ((dropWord? "include".toList (dropBlanks rest)).bind fun r =>
          dropChar? '=' (dropBlanks r)).toList := by
    rw [blanks_before ?_ rest, hword]
    intro c cs hc
    have hkey : letterKey c ≠ 'i' := by
      intro hkey
      have := isBlank_eq_false_of_isLower (c := c) (by rw [hkey]; decide)
      simp [this] at hc
    have hnone : dropWord? "include".toList (c :: cs) = none := if_neg hkey
    rw [hword, hnone]
    rfl
  rw [opener, before_eq (one_eq _ t) hname]
  simp only [dropOpener?, dropOpening?, Option.bind_eq_bind, Option.bind_assoc]

theorem closing_eq (t : Text) : closing t = ((dropChar? ']' t).bind dropClosing?).toList :=
  before_eq (one_eq _ t) (blanks_before_one (by decide))

theorem payload_cons_of_opener {c : Char} {cs : Text} (h : (dropOpener? (c :: cs)).isSome) :
    payload (c :: cs) = [c :: cs] := by
  obtain ⟨rest, hrest⟩ := Option.isSome_iff_exists.mp h
  simp [payload, many, opener_eq, hrest]

theorem payload_cons {c : Char} {cs : Text} (h : dropOpener? (c :: cs) = none) :
    payload (c :: cs) = payload cs ++ [c :: cs] := by
  simp [payload, many, opener_eq, h]

end Pattern

namespace StringModifier
open Text Recogniser

/-- No opener begins in a closing, so it stands before the next one with all of it or not
at all. -/
theorem dropClosing?_beforeOpener (t : Text) :
    dropClosing? (beforeOpener t) = (dropClosing? t).map beforeOpener := by
  ext rest
  rw [dropClosing?_eq_some_iff, Option.map_eq_some_iff]
  constructor
  · rintro ⟨trail, htrail, hcut⟩
    obtain ⟨behind, rfl, rfl⟩ :=
      beforeOpener_of_append (p := trail ++ ['\x7d']) (by simpa using hcut)
    exact ⟨behind, dropClosing?_eq_some_iff.mpr ⟨trail, htrail, by simp⟩, rfl⟩
  · rintro ⟨behind, hclosing, rfl⟩
    obtain ⟨trail, htrail, rfl⟩ := dropClosing?_eq_some_iff.mp hclosing
    exact ⟨trail, htrail, beforeOpener_trail htrail behind⟩

end StringModifier

namespace Pattern
open Text Recogniser StringModifier

/-- What stands behind a closing is found by its length before the next opener. -/
theorem drop_closing {trail : Text} (htrail : isBlankText trail) (behind : Text) :
    (']' :: (trail ++ '\x7d' :: behind)).drop
      ((beforeOpener (trail ++ '\x7d' :: behind)).length + 1 - (beforeOpener behind).length) =
        behind := by
  rw [beforeOpener_trail htrail, show ']' :: (trail ++ '\x7d' :: behind) =
    ']' :: (trail ++ ['\x7d']) ++ behind by simp]
  refine List.drop_left' ?_
  simp only [List.length_append, List.length_cons, List.length_nil]
  omega

/-- The first choice of the payload behind which a closing stands is the one that ends at
the last closing before the next opener. -/
theorem head_payload (inner : Text) :
    ((payload inner).flatMap fun rest => (closing rest).map fun behind => (rest, behind)).head? =
      (atLastClosing? (beforeOpener inner)).map fun cut =>
        (inner.drop cut.1.length, inner.drop ((beforeOpener inner).length - cut.2.length)) := by
  induction inner with
  | nil => rfl
  | cons c cs ih =>
      by_cases hopen : (dropOpener? (c :: cs)).isSome
      · obtain rfl : c = '\x7b' := by
          by_contra hc
          simp [dropOpener?_of_ne hc] at hopen
        rw [payload_cons_of_opener hopen, beforeOpener, if_pos hopen]
        simp [closing_eq, dropChar?, atLastClosing?]
      · rw [Bool.not_eq_true, Option.isSome_eq_false_iff, Option.isNone_iff_eq_none] at hopen
        rw [payload_cons hopen, List.flatMap_append, List.head?_append, ih]
        simp only [beforeOpener, hopen, Option.isSome_none, Bool.false_eq_true, if_false,
          atLastClosing?, List.flatMap_cons, List.flatMap_nil, List.append_nil]
        cases hlast : atLastClosing? (beforeOpener cs) with
        | some cut =>
            obtain ⟨front, after⟩ := cut
            obtain ⟨trail, -, hwindow, -⟩ := eq_of_atLastClosing? hlast
            have hlen : (beforeOpener cs).length + 1 - after.length =
                (beforeOpener cs).length - after.length + 1 := by
              rw [hwindow]
              simp only [List.length_append, List.length_cons]
              omega
            simp [hlen]
        | none =>
            by_cases hc : c = ']'
            · rw [closing_eq, hc, dropClosing?_beforeOpener]
              cases hclose : dropClosing? cs with
              | none => simp [dropChar?, hclose]
              | some behind =>
                  obtain ⟨trail, htrail, rfl⟩ := dropClosing?_eq_some_iff.mp hclose
                  simp only [dropChar?, if_true, Option.bind_some, hclose, Option.toList_some,
                    List.map_cons, List.map_nil, Option.map_none, Option.none_or,
                    List.head?_cons, Option.map_some, List.length_nil, List.drop_zero,
                    List.length_cons, drop_closing htrail]
            · simp [closing_eq, dropChar?, hc]

theorem recogniseAddition_eq_head? (t : Text) : recogniseAddition t = (additions t).head? := by
  have hfront : before opener (before blanks (one (· == '['))) t =
      ((dropOpener? t).bind fun rest => dropChar? '[' (dropBlanks rest)).toList :=
    before_eq (opener_eq t) (blanks_before_one (by decide))
  have hrecognise : recogniseAddition t =
      ((dropOpener? t).bind fun rest => dropChar? '[' (dropBlanks rest)).bind fun inner =>
        (atLastClosing? (beforeOpener inner)).map fun cut =>
          .upTo t (inner.drop ((beforeOpener inner).length - cut.2.length)) cut.1 := by
    simp only [recogniseAddition, Option.bind_eq_bind, Option.bind_assoc, Option.map_eq_bind]
    rfl
  rw [hrecognise, additions, hfront]
  cases (dropOpener? t).bind fun rest => dropChar? '[' (dropBlanks rest) with
  | none => rfl
  | some inner =>
      have hpairs : ((payload inner).flatMap fun rest => (closing rest).map fun behind =>
            Fragment.upTo t behind (inner.take (inner.length - rest.length))).head? =
          ((payload inner).flatMap fun rest =>
            (closing rest).map fun behind => (rest, behind)).head?.map fun pair =>
              .upTo t pair.2 (inner.take (inner.length - pair.1.length)) := by
        rw [← List.head?_map, List.map_flatMap]
        simp only [List.map_map, Function.comp_def]
      simp only [Option.bind_some, Option.toList_some, List.flatMap_cons, List.flatMap_nil,
        List.append_nil, hpairs, head_payload, Option.map_map]
      refine Option.map_congr ?_
      rintro ⟨characters, after⟩ hcut
      obtain ⟨trail, -, hwindow, -⟩ := eq_of_atLastClosing? hcut
      obtain ⟨rest, rfl, -⟩ := beforeOpener_of_append hwindow
      have htake : (characters ++ rest).take ((characters ++ rest).length -
          ((characters ++ rest).drop characters.length).length) = characters := by
        refine List.take_left' ?_
        rw [List.drop_left, List.length_append, Nat.add_sub_cancel]
      simp only [Function.comp_apply, htake]

end Pattern

end FixtureKeywords
