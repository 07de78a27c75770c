import FixtureKeywords.Proofs.Keyword.Tiling
import FixtureKeywords.Proofs.Strings.Pattern

/-!
# How far payloads run

The payload of an addition runs to the last closing before the next opener, in any text.
Two things have to be seen. What was recognised ends there: its payload holds no opener,
and behind it no closing comes before one. And nothing that could be recognised is
missed: a search from the left takes additions whole, but no opener begins inside one, so
the search comes to every opener.
-/
namespace FixtureKeywords

namespace Piece
variable {recognise : Recogniser}

/-- The first piece of a split is a fragment if one is recognised and a character if not,
and the other pieces are the split of what follows it. -/
theorem split_eq_cons (sound : recognise.Sound) {t : Text} {piece : Piece} {pieces : List Piece}
    (h : split recognise t = piece :: pieces) :
    (∃ c rest, piece = char c ∧ t = c :: rest ∧ split recognise rest = pieces) ∨
      ∃ f rest, piece = fragment f ∧ t = f.whole ++ rest ∧ recognise t = some f ∧
        split recognise rest = pieces := by
  cases t with
  | nil => simp at h
  | cons c cs =>
      cases hr : recognise (c :: cs) with
      | none =>
          rw [split_char hr, List.cons.injEq] at h
          exact .inl ⟨c, cs, h.1.symm, rfl, h.2⟩
      | some f =>
          obtain ⟨hne, rest, hrest⟩ := sound _ f hr
          rw [hrest] at hr h ⊢
          rw [split_fragment hr hne, List.cons.injEq] at h
          exact .inr ⟨f, rest, h.1.symm, rfl, rfl, h.2⟩

theorem split_joined_of_append (sound : recognise.Sound) {ps qs : List Piece} {t : Text}
    (h : split recognise t = ps ++ qs) : split recognise (joined qs) = qs := by
  induction ps generalizing t with
  | nil =>
      rw [List.nil_append] at h
      rw [← h, joined_split sound]
  | cons piece ps ih =>
      rcases split_eq_cons sound h with ⟨_, rest, -, -, hrest⟩ | ⟨_, rest, -, -, -, hrest⟩
      · exact ih hrest
      · exact ih hrest

/-- A fragment of a split was recognised in front of all that follows it. -/
theorem recognise_of_split (sound : recognise.Sound) {ps qs : List Piece} {f : Fragment} {t : Text}
    (h : split recognise t = ps ++ fragment f :: qs) :
    recognise (f.whole ++ joined qs) = some f := by
  have hsuffix := split_joined_of_append sound h
  rcases split_eq_cons sound hsuffix with ⟨c, _, hc, -⟩ | ⟨g, _, hg, -, hrecognise, -⟩
  · exact absurd hc (by simp)
  · rw [fragment.inj hg, ← joined_fragment]
    rw [fragment.inj hg] at hrecognise
    exact hrecognise

theorem eq_of_joined_eq (sound : recognise.Sound) {t : Text} {ps qs ps' qs' : List Piece}
    (h : split recognise t = ps ++ qs) (h' : split recognise t = ps' ++ qs')
    (hfront : joined ps = joined ps') : ps = ps' ∧ qs = qs' := by
  have htext : joined ps ++ joined qs = joined ps' ++ joined qs' := by
    rw [← joined_append, ← joined_append, ← h, ← h']
  rw [hfront] at htext
  have hqs : qs = qs' := by
    rw [← split_joined_of_append sound h, List.append_cancel_left htext,
      split_joined_of_append sound h']
  subst hqs
  exact ⟨List.append_cancel_right (h.symm.trans h'), rfl⟩

end Piece

namespace StringModifier
open Text Recogniser

/-- How an addition closes. -/
inductive IsClosing : Text → Prop
  | intro {trail : Text} : isBlankText trail → IsClosing (']' :: (trail ++ ['\x7d']))

theorem IsAddition.beforeOpener_tail {characters w : Text} (h : IsAddition characters w)
    (hc : ¬ HoldsOpener characters) (rest : Text) :
    beforeOpener (w.tail ++ rest) = w.tail ++ beforeOpener rest := by
  obtain ⟨ho, hgap, htrail⟩ := h
  rename_i opener gap trail
  obtain ⟨inner, rfl, hinner⟩ := ho.exists_eq_cons
  have hplain : '\x7b' ∉ inner ++ (gap ++ ['[']) := by
    have hbrace : '\x7b' ∉ inner := fun hmem => absurd (hinner _ hmem) (by decide)
    simp [hbrace, not_mem_of_isBlankText hgap (show isBlank '\x7b' = false by decide)]
  have hfront := beforeOpener_plain hplain (characters ++ ']' :: (trail ++ '\x7d' :: rest))
  rw [beforeOpener_closing hc htrail] at hfront
  simpa using hfront

/-- What stands before the first opener ends where that one begins, or earlier. -/
theorem length_beforeOpener_le {opener : Text} (h : IsOpener opener) (front rest : Text) :
    (beforeOpener (front ++ (opener ++ rest))).length ≤ front.length := by
  induction front with
  | nil => simp [beforeOpener_opener h]
  | cons c cs ih =>
      rw [List.cons_append, beforeOpener]
      split_ifs
      · simp
      · simpa using ih

theorem length_le_of_recogniseAddition {c : Char} {cs opener rest : Text} {f : Fragment}
    (ho : IsOpener opener) (h : recogniseAddition (c :: cs ++ (opener ++ rest)) = some f) :
    f.whole.length ≤ (c :: cs).length := by
  obtain ⟨w, characters, behind, hw, hc, -, htext, rfl⟩ := recogniseAddition_eq_some_iff.mp h
  have hne : w ≠ [] := by
    obtain ⟨⟨_, _, _⟩, _, _⟩ := hw
    simp
  have htail : w.tail ++ behind = cs ++ (opener ++ rest) := by
    rw [← List.tail_append_of_ne_nil hne, ← htext]
    rfl
  have hcut := length_beforeOpener_le ho cs rest
  rw [← htail, hw.beforeOpener_tail hc, List.length_append, List.length_tail] at hcut
  simp only [List.length_cons]
  omega

/-- The search comes to every opener at which an addition is recognised. -/
theorem exists_split_of_opener {opener rest : Text} {f : Fragment} (ho : IsOpener opener)
    (hf : recogniseAddition (opener ++ rest) = some f) (front : Text) :
    ∃ ps qs, Piece.split recogniseAddition (front ++ (opener ++ rest)) = ps ++ .fragment f :: qs ∧
      Piece.joined ps = front := by
  have hsound : recogniseAddition.Sound := (accounts_of_mem List.mem_cons_self).sound
  -- The induction is on the text before the opener: it loses a character or an addition.
  induction hn : front.length using Nat.strong_induction_on generalizing front with
  | _ n ih =>
    cases front with
    | nil =>
        obtain ⟨hne, behind, hbehind⟩ := hsound _ f hf
        rw [hbehind] at hf
        refine ⟨[], Piece.split recogniseAddition behind, ?_, rfl⟩
        rw [List.nil_append, hbehind, Piece.split_fragment hf hne]
        rfl
    | cons c cs =>
        cases hg : recogniseAddition (c :: cs ++ (opener ++ rest)) with
        | none =>
            obtain ⟨ps, qs, hsplit, hps⟩ := ih cs.length (by simp [← hn]) cs rfl
            refine ⟨.char c :: ps, qs, ?_, by rw [Piece.joined_char, hps]⟩
            rw [List.cons_append] at hg ⊢
            rw [Piece.split_char hg, hsplit]
            rfl
        | some g =>
            obtain ⟨hne, behind, htext⟩ := hsound _ g hg
            obtain ⟨more, hmore⟩ : g.whole <+: c :: cs :=
              List.prefix_of_prefix_length_le ⟨behind, htext.symm⟩ ⟨_, rfl⟩
                (length_le_of_recogniseAddition ho hg)
            have hshorter : more.length < n := by
              rw [← hn, ← hmore, List.length_append]
              have := List.length_pos_of_ne_nil hne
              omega
            obtain ⟨ps, qs, hsplit, hps⟩ := ih more.length hshorter more rfl
            refine ⟨.fragment g :: ps, qs, ?_, by rw [Piece.joined_fragment, hps, hmore]⟩
            rw [← hmore, List.append_assoc] at hg ⊢
            rw [Piece.split_fragment hg hne, hsplit]
            rfl

/-- Payloads are maximal. Additions are what the search for their pattern finds. In any
text, an addition that is taken out has a payload without an opener, and every closing
behind it has an opener before it; and every opener with a bracket that is closed before
the next opener begins exactly one addition. -/
theorem additions_are_maximal :
    (recogniseAddition = fun t => (Pattern.additions t).head?) ∧
    ∀ t : Text,
      (∀ ps f qs, Piece.split recogniseAddition t = ps ++ .fragment f :: qs →
        t = Piece.joined ps ++ (f.whole ++ Piece.joined qs) ∧
        IsAddition f.payload f.whole ∧ ¬ HoldsOpener f.payload ∧
        ∀ between closing rest, IsClosing closing →
          Piece.joined qs = between ++ (closing ++ rest) → HoldsOpener between) ∧
      ∀ front opener gap inner closing rest, IsOpener opener → isBlankText gap →
        IsClosing closing → ¬ HoldsOpener inner →
        t = front ++ (opener ++ (gap ++ '[' :: (inner ++ (closing ++ rest)))) →
        ∃! cut : List Piece × Fragment × List Piece,
          Piece.split recogniseAddition t = cut.1 ++ .fragment cut.2.1 :: cut.2.2 ∧
          Piece.joined cut.1 = front := by
  have hsound : recogniseAddition.Sound := (accounts_of_mem List.mem_cons_self).sound
  refine ⟨funext Pattern.recogniseAddition_eq_head?, fun t => ⟨?_, ?_⟩⟩
  · intro ps f qs hsplit
    have hjoined := Piece.joined_split hsound t
    rw [hsplit, Piece.joined_append, Piece.joined_fragment] at hjoined
    obtain ⟨w, characters, behind, hw, hc, hlast, htext, rfl⟩ :=
      recogniseAddition_eq_some_iff.mp (Piece.recognise_of_split hsound hsplit)
    obtain rfl : Piece.joined qs = behind := List.append_cancel_left htext
    refine ⟨hjoined.symm, hw, hc, ?_⟩
    rintro between closing rest ⟨htrail⟩ hbehind
    rename_i trail
    by_contra hbetween
    rw [hbehind, List.cons_append, List.append_assoc, List.singleton_append,
      beforeOpener_closing hbetween htrail] at hlast
    have hclosing := atLastClosing?_eq_none_iff.mp hlast between _ rfl
    rw [dropClosing?_eq_some_iff.mpr ⟨trail, htrail, rfl⟩] at hclosing
    exact absurd hclosing (by simp)
  · rintro front opener gap inner closing rest ho hgap ⟨htrail⟩ hinner rfl
    rename_i trail
    obtain ⟨more, behind, characters, -, hf, -⟩ :=
      exists_recogniseAddition (.intro ho hgap htrail) hinner rest
    simp only [List.append_assoc, List.cons_append, List.nil_append] at hf ⊢
    obtain ⟨ps, qs, hsplit, hps⟩ := exists_split_of_opener ho hf front
    refine ⟨(ps, _, qs), ⟨hsplit, hps⟩, ?_⟩
    rintro ⟨ps', f, qs'⟩ ⟨hsplit', hps'⟩
    obtain ⟨rfl, hqs⟩ := Piece.eq_of_joined_eq hsound hsplit' hsplit (hps'.trans hps.symm)
    obtain ⟨hf, rfl⟩ := List.cons.inj hqs
    exact congrArg (fun g => (ps', g, qs')) (Piece.fragment.inj hf)

/-- The closing that is meant may come second, and blanks may stand in it. -/
theorem additions_are_maximal_second_closing :
    let t := "[randstring\x7binclude=[x]\x7dy] \x7d\x7b INCLUDE=[z]\x7d]".toList
    let front := "[randstring".toList
    let f : Fragment := ⟨"\x7binclude=[x]\x7dy] \x7d".toList, "x]\x7dy".toList⟩
    (∃ qs, Piece.split recogniseAddition t = front.map .char ++ .fragment f :: qs ∧
      t = front ++ (f.whole ++ Piece.joined qs)) ∧
    IsAddition f.payload f.whole ∧ ¬ HoldsOpener f.payload ∧
    ∃! cut : List Piece × Fragment × List Piece,
      Piece.split recogniseAddition t = cut.1 ++ .fragment cut.2.1 :: cut.2.2 ∧
      Piece.joined cut.1 = front := by
  intro t front f
  obtain ⟨-, hmaximal⟩ := additions_are_maximal
  obtain ⟨hfound, hreached⟩ := hmaximal t
  have hsplit : Piece.split recogniseAddition t = front.map .char ++ .fragment f ::
      [.fragment ⟨"\x7b INCLUDE=[z]\x7d".toList, "z".toList⟩, .char ']'] := by decide
  obtain ⟨htext, hf, hpayload, -⟩ := hfound _ _ _ hsplit
  rw [Piece.joined_map_char] at htext
  have hopener : IsOpener "\x7binclude=".toList :=
    @IsOpener.intro [] "include".toList [] rfl (by decide) rfl
  exact ⟨⟨_, hsplit, htext⟩, hf, hpayload,
    hreached front _ [] ['x'] _ "y] \x7d\x7b INCLUDE=[z]\x7d]".toList hopener rfl
      (@IsClosing.intro [] rfl) (by decide) rfl⟩

end StringModifier

end FixtureKeywords
