import FixtureKeywords.Proofs.Keyword.Braces
import FixtureKeywords.Proofs.Text.Numeral
import FixtureKeywords.Temporal.Modifier

/-!
# Offsets and empty braces as they are written

Two modifiers of a datetime keyword have no name. An offset is a signed numeral with
the letter of a unit behind it; only the closing brace may be set off from the letter
by blanks. Empty braces hold blanks only.

As for named modifiers the readers accept exactly what is written so, whatever
follows.
-/
namespace FixtureKeywords

theorem TemporalUnit.ofLetter?_eq_some_iff {c : Char} {unit : TemporalUnit} :
    ofLetter? c = some unit ↔ c = unit.letter := by
  constructor
  · intro h
    have hletter := List.find?_some h
    simp only [decide_eq_true_eq] at hletter
    exact hletter.symm
  · rintro rfl
    exact ofLetter?_letter unit

namespace TemporalModifier
open Text Recogniser

def IsSign (t : Text) : Prop :=
  t ∈ [[], ['+'], ['-']]

instance (t : Text) : Decidable (IsSign t) :=
  inferInstanceAs (Decidable (_ ∈ _))

theorem isSign_iff {t : Text} : IsSign t ↔ t = [] ∨ t = ['+'] ∨ t = ['-'] := by
  simp only [IsSign, List.mem_cons, List.not_mem_nil, or_false]

/-- How an offset is written; the numeral is the one that is read. -/
inductive IsOffset (unit : TemporalUnit) : Text → Text → Prop
  | intro {lead sign digits trail : Text} : isBlankText lead → IsSign sign →
      isNumeral digits → isBlankText trail →
      IsOffset unit (sign ++ digits)
        ('\x7b' :: (lead ++ (sign ++ digits ++ unit.letter :: (trail ++ ['\x7d']))))

/-- How empty braces are written. -/
inductive IsEmpty : Text → Prop
  | intro {blank : Text} : isBlankText blank → IsEmpty ('\x7b' :: (blank ++ ['\x7d']))

theorem takeSigned_of_ne {c : Char} (hplus : c ≠ '+') (hminus : c ≠ '-') (cs : Text) :
    takeSigned (c :: cs) =
      ((c :: cs).takeWhile Char.isDigit, (c :: cs).dropWhile Char.isDigit) := by
  simp [takeSigned, hplus, hminus]

/-- What is split off is a sign with digits behind it, and all the digits there are. -/
theorem exists_takeSigned (t : Text) : ∃ sign digits rest, IsSign sign ∧
    (∀ c ∈ digits, c.isDigit) ∧ takeSigned t = (sign ++ digits, rest) ∧
      t = sign ++ digits ++ rest := by
  have hdigits (cs : Text) : ∀ c ∈ cs.takeWhile Char.isDigit, c.isDigit :=
    fun c hc => List.mem_takeWhile_imp hc
  cases t with
  | nil => exact ⟨[], [], [], by decide, hdigits [], rfl, rfl⟩
  | cons c cs =>
      by_cases hplus : c = '+'
      · subst hplus
        exact ⟨['+'], cs.takeWhile Char.isDigit, cs.dropWhile Char.isDigit, by decide,
          hdigits cs, rfl, by simp⟩
      by_cases hminus : c = '-'
      · subst hminus
        exact ⟨['-'], cs.takeWhile Char.isDigit, cs.dropWhile Char.isDigit, by decide,
          hdigits cs, rfl, by simp⟩
      exact ⟨[], (c :: cs).takeWhile Char.isDigit, (c :: cs).dropWhile Char.isDigit, by decide,
        hdigits _, takeSigned_of_ne hplus hminus cs, by simp⟩

theorem takeSigned_append {sign digits rest : Text} (hsign : IsSign sign)
    (hdigits : isNumeral digits) (hrest : ∀ c, rest.head? = some c → c.isDigit = false) :
    takeSigned (sign ++ digits ++ rest) = (sign ++ digits, rest) := by
  obtain ⟨htake, hdrop⟩ := digits_append (isDigit_of_mem hdigits) hrest
  obtain rfl | rfl | rfl := isSign_iff.mp hsign
  · obtain ⟨d, ds, rfl⟩ := List.exists_cons_of_ne_nil (ne_nil_of_isNumeral hdigits)
    have hd := isDigit_of_mem hdigits d (by simp)
    have hplus : d ≠ '+' := by
      rintro rfl
      exact absurd hd (by decide)
    have hminus : d ≠ '-' := by
      rintro rfl
      exact absurd hd (by decide)
    have hcut := takeSigned_of_ne hplus hminus (ds ++ rest)
    rw [← List.cons_append, htake, hdrop] at hcut
    exact hcut
  · simp [takeSigned, htake, hdrop]
  · simp [takeSigned, htake, hdrop]

theorem isDigit_letter (unit : TemporalUnit) : unit.letter.isDigit = false := by
  rcases unit with u | u <;> cases u <;> decide

theorem eq_cons_of_isSign {sign digits : Text} (hsign : IsSign sign) (hdigits : isNumeral digits) :
    ∃ c cs, sign ++ digits = c :: cs ∧ isBlank c = false ∧ (c = '+' ∨ c = '-' ∨ c.isDigit) := by
  obtain rfl | rfl | rfl := isSign_iff.mp hsign
  · obtain ⟨d, ds, rfl⟩ := List.exists_cons_of_ne_nil (ne_nil_of_isNumeral hdigits)
    have hd := isDigit_of_mem hdigits d (by simp)
    exact ⟨d, ds, rfl, isBlank_of_isDigit hd, .inr (.inr hd)⟩
  · exact ⟨'+', digits, rfl, by decide, .inl rfl⟩
  · exact ⟨'-', digits, rfl, by decide, .inr (.inl rfl)⟩

/-- A sign with digits behind it in which something is a digit ends in a numeral. -/
theorem isNumeral_of_some_digit {sign digits : Text} (hsign : IsSign sign)
    (hdigits : ∀ c ∈ digits, c.isDigit)
    (hsome : ¬((sign ++ digits).all fun c => !c.isDigit) = true) : isNumeral digits := by
  simp only [isNumeral, Bool.and_eq_true, List.all_eq_true]
  refine ⟨?_, hdigits⟩
  cases digits with
  | cons d ds => rfl
  | nil => obtain rfl | rfl | rfl := isSign_iff.mp hsign <;> exact absurd rfl hsome

theorem isOffset_of_recogniseOffset {t : Text} {f : Fragment} (h : recogniseOffset t = some f) :
    ∃ w numeral unit rest, IsOffset unit numeral w ∧ t = w ++ rest ∧
      f = ⟨w, numeral ++ [unit.letter]⟩ := by
  obtain ⟨inner, hopen, hinner⟩ := Option.bind_eq_some_iff.mp h
  obtain ⟨lead, hlead, hblanks⟩ := exists_blanks inner
  obtain ⟨sign, digits, rest, hsign, hdigits, htake, hcut⟩ := exists_takeSigned (dropBlanks inner)
  simp only [htake] at hinner
  split_ifs at hinner with hall
  cases rest with
  | nil => simp at hinner
  | cons letter rest =>
      obtain ⟨unit, hunit, hbehind⟩ := Option.bind_eq_some_iff.mp hinner
      obtain ⟨left, hclose, hf⟩ := Option.bind_eq_some_iff.mp hbehind
      obtain ⟨trail, htrail, rfl⟩ := dropClosing?_eq_some_iff.mp hclose
      obtain rfl := TemporalUnit.ofLetter?_eq_some_iff.mp hunit
      have ht : t = ('\x7b' :: (lead ++ (sign ++ digits ++
          unit.letter :: (trail ++ ['\x7d'])))) ++ left := by
        rw [dropChar?_eq_some_iff.mp hopen, hblanks, hcut]
        simp
      refine ⟨_, sign ++ digits, unit, left,
        .intro hlead hsign (isNumeral_of_some_digit hsign hdigits hall) htrail, ht, ?_⟩
      rw [← Option.some.inj hf, ht]
      exact Fragment.upTo_append _ left _

theorem recogniseOffset_append {unit : TemporalUnit} {numeral w : Text}
    (hw : IsOffset unit numeral w) (rest : Text) :
    recogniseOffset (w ++ rest) = some ⟨w, numeral ++ [unit.letter]⟩ := by
  obtain @⟨lead, sign, digits, trail, hlead, hsign, hdigits, htrail⟩ := hw
  obtain ⟨c, cs, hcons, hc, -⟩ := eq_cons_of_isSign hsign hdigits
  have hblanks : dropBlanks (lead ++ (sign ++ digits ++
      unit.letter :: (trail ++ ['\x7d'])) ++ rest) =
      sign ++ digits ++ (unit.letter :: (trail ++ '\x7d' :: rest)) := by
    rw [hcons]
    simp only [List.cons_append, List.append_assoc, dropBlanks_append_cons hlead hc,
      List.nil_append]
  have hend : ∀ c, (unit.letter :: (trail ++ '\x7d' :: rest)).head? = some c →
      c.isDigit = false := by
    rintro c hc
    obtain rfl := Option.some.inj hc
    exact isDigit_letter unit
  have htake := takeSigned_append hsign hdigits hend
  have hsome : ((sign ++ digits).all fun c => !c.isDigit) = false := by
    obtain ⟨d, ds, rfl⟩ := List.exists_cons_of_ne_nil (ne_nil_of_isNumeral hdigits)
    simp [isDigit_of_mem hdigits d (by simp)]
  unfold recogniseOffset
  simp only [List.cons_append, dropChar?, if_true, Option.bind_eq_bind, Option.bind_some,
    hblanks, htake, hsome, Bool.false_eq_true, if_false, TemporalUnit.ofLetter?_letter,
    dropClosing?_eq_some_iff.mpr ⟨trail, htrail, rfl⟩, Option.some.injEq]
  rw [← Fragment.upTo_append _ rest]
  rfl

theorem recogniseOffset_eq_some_iff {t : Text} {f : Fragment} :
    recogniseOffset t = some f ↔ ∃ w numeral unit rest, IsOffset unit numeral w ∧
      t = w ++ rest ∧ f = ⟨w, numeral ++ [unit.letter]⟩ := by
  constructor
  · exact isOffset_of_recogniseOffset
  · rintro ⟨w, numeral, unit, rest, hw, rfl, rfl⟩
    exact recogniseOffset_append hw rest

theorem recogniseEmpty_eq_some_iff {t : Text} {f : Fragment} :
    recogniseEmpty t = some f ↔ ∃ w rest, IsEmpty w ∧ t = w ++ rest ∧ f = ⟨w, []⟩ := by
  constructor
  · intro h
    obtain ⟨inner, hopen, hinner⟩ := Option.bind_eq_some_iff.mp h
    obtain ⟨rest, hclose, hf⟩ := Option.bind_eq_some_iff.mp hinner
    obtain ⟨blank, hblank, rfl⟩ := dropClosing?_eq_some_iff.mp hclose
    have ht : t = ('\x7b' :: (blank ++ ['\x7d'])) ++ rest := by
      rw [dropChar?_eq_some_iff.mp hopen]
      simp
    refine ⟨_, rest, .intro hblank, ht, ?_⟩
    rw [← Option.some.inj hf, ht]
    exact Fragment.upTo_append _ rest _
  · rintro ⟨w, rest, ⟨hblank⟩, rfl, rfl⟩
    rename_i blank
    have hclose : dropClosing? (blank ++ ['\x7d'] ++ rest) = some rest :=
      dropClosing?_eq_some_iff.mpr ⟨blank, hblank, by simp⟩
    unfold recogniseEmpty
    simp only [List.cons_append, dropChar?, if_true, Option.bind_eq_bind, Option.bind_some, hclose,
      Option.some.injEq]
    rw [← Fragment.upTo_append _ rest]
    rfl

theorem isBrace_letter (unit : TemporalUnit) : isBrace unit.letter = false := by
  rcases unit with u | u <;> cases u <;> decide

theorem plain_recogniseOffset : Plain recogniseOffset where
  braces := by
    intro t f h
    obtain ⟨w, numeral, unit, rest, ⟨hlead, hsign, hdigits, htrail⟩, rfl, rfl⟩ :=
      recogniseOffset_eq_some_iff.mp h
    rename_i lead sign digits trail
    refine ⟨lead ++ (sign ++ digits ++ unit.letter :: trail), rest, ?_, by simp, rfl⟩
    intro c hc
    simp only [List.mem_append, List.mem_cons] at hc
    rcases hc with hc | (hc | hc) | rfl | hc
    · exact isBrace_eq_false_of_isBlank (isBlank_of_mem hlead c hc)
    · obtain rfl | rfl | rfl := isSign_iff.mp hsign
      · simp at hc
      · obtain rfl := List.mem_singleton.mp hc
        decide
      · obtain rfl := List.mem_singleton.mp hc
        decide
    · exact isBrace_eq_false_of_isDigit (isDigit_of_mem hdigits c hc)
    · exact isBrace_letter unit
    · exact isBrace_eq_false_of_isBlank (isBlank_of_mem htrail c hc)
  itself := by
    intro t f h
    obtain ⟨w, numeral, unit, rest, hw, rfl, rfl⟩ := recogniseOffset_eq_some_iff.mp h
    exact recogniseOffset_eq_some_iff.mpr ⟨w, numeral, unit, [], hw, by simp, rfl⟩

theorem plain_recogniseEmpty : Plain recogniseEmpty where
  braces := by
    intro t f h
    obtain ⟨w, rest, ⟨hblank⟩, rfl, rfl⟩ := recogniseEmpty_eq_some_iff.mp h
    rename_i blank
    exact ⟨blank, rest, fun c hc => isBrace_eq_false_of_isBlank (isBlank_of_mem hblank c hc), rfl,
      rfl⟩
  itself := by
    intro t f h
    obtain ⟨w, rest, hw, rfl, rfl⟩ := recogniseEmpty_eq_some_iff.mp h
    exact recogniseEmpty_eq_some_iff.mpr ⟨w, [], hw, by simp, rfl⟩

end TemporalModifier

end FixtureKeywords
