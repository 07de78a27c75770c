import FixtureKeywords.Proofs.Integers.Written
import FixtureKeywords.Proofs.Text.Phrase
import FixtureKeywords.Random.Seed

/-!
# Seeds that are written

A seed is read from a text without the blanks around it. Digits, with a minus sign before
them or without, are an integer, and any other text stays a text. So a text that was read is
read as the same text again.

Only a numeral of too many digits is neither of the two.
-/
namespace FixtureKeywords

namespace Text

/-- Digits, or digits behind a minus sign. -/
def IsDecimal (t : Text) : Prop :=
  ∃ digits, isNumeral digits ∧ (t = digits ∨ t = '-' :: digits)

theorem signed?_eq_some_iff {t : Text} {s : Signed} : signed? false t = some s ↔
    isNumeral s.digits ∧ t = if s.negative then '-' :: s.digits else s.digits := by
  constructor
  · intro h
    unfold signed? at h
    split at h
    all_goals
      split_ifs at h with hdigits
      obtain rfl := Option.some.inj h
    · exact ⟨hdigits, rfl⟩
    · cases hdigits
    · exact ⟨hdigits, rfl⟩
  · rintro ⟨hdigits, rfl⟩
    obtain ⟨negative, digits⟩ := s
    cases negative with
    | true => exact if_pos hdigits
    | false => exact signed?_of_isNumeral hdigits false

theorem signed?_eq_none_iff {t : Text} : signed? false t = none ↔ ¬ IsDecimal t := by
  rw [← not_iff_not, not_not, ← ne_eq, Option.ne_none_iff_exists']
  simp only [signed?_eq_some_iff]
  constructor
  · rintro ⟨⟨negative, digits⟩, hdigits, rfl⟩
    cases negative with
    | true => exact ⟨digits, hdigits, .inr rfl⟩
    | false => exact ⟨digits, hdigits, .inl rfl⟩
  · rintro ⟨digits, hdigits, rfl | rfl⟩
    · exact ⟨⟨false, t⟩, hdigits, rfl⟩
    · exact ⟨⟨true, digits⟩, hdigits, rfl⟩

end Text

namespace Seed
open Text (Trimmed WritesBound IsDecimal digitLimit isBlankText isNumeral signed? strip)

variable {t v : Text}

theorem ofText_strip (t : Text) : ofText (strip t) = ofText t := by
  unfold ofText
  rw [(Text.trimmed_strip t).strip_eq]

/-- A signed numeral is read as an integer, unless it has too many digits. -/
theorem ofText_of_signed? {s : Text.Signed} (h : signed? false (strip t) = some s) :
    ofText t = if s.digits.length ≤ digitLimit then
        .ok (number (if s.negative then -(Text.value s.digits : Int) else Text.value s.digits))
      else .error (.numeralTooLong s.digits.length) := by
  unfold ofText
  simp only [h, Fault.liftNumeral_read]
  split_ifs <;> rfl

/-- An integer is read from its digits, whatever blanks stand around them. -/
theorem ofText_of_writesBound {n : Int} {w b d : Text} (h : WritesBound n w)
    (hb : isBlankText b) (hd : isBlankText d) : ofText (b ++ w ++ d) = .ok (number n) := by
  obtain ⟨numeral, hnumeral, hread⟩ := h.read
  unfold ofText
  rw [Text.strip_padded hb h.trimmed hd]
  simp only [hnumeral, hread]
  rfl

theorem ofText_eq_text_iff : ofText t = .ok (text v) ↔ v = strip t ∧ ¬ IsDecimal v := by
  rw [← Text.signed?_eq_none_iff]
  cases hsigned : signed? false (strip t) with
  | some s =>
      constructor
      · intro h
        rw [ofText_of_signed? hsigned] at h
        split_ifs at h <;> cases h
      · rintro ⟨rfl, hnone⟩
        cases hnone.symm.trans hsigned
  | none =>
      have htext : ofText t = .ok (text (strip t)) := by
        unfold ofText
        simp only [hsigned]
      rw [htext]
      constructor
      · intro h
        obtain rfl := text.inj (Except.ok.inj h)
        exact ⟨rfl, hsigned⟩
      · rintro ⟨rfl, -⟩
        rfl

theorem ofText_text (h : ofText t = .ok (text v)) :
    Trimmed v ∧ ¬ IsDecimal v ∧ ofText v = .ok (text v) := by
  obtain ⟨rfl, hdecimal⟩ := ofText_eq_text_iff.mp h
  exact ⟨Text.trimmed_strip t, hdecimal, by rw [ofText_strip, h]⟩

theorem ofText_eq_error_iff {fault : Fault} : ofText t = .error fault ↔
    ∃ digits, isNumeral digits ∧ digitLimit < digits.length ∧
      (strip t = digits ∨ strip t = '-' :: digits) ∧ fault = .numeralTooLong digits.length := by
  constructor
  · intro h
    cases hsigned : signed? false (strip t) with
    | none =>
        unfold ofText at h
        simp only [hsigned] at h
        cases h
    | some s =>
        obtain ⟨hdigits, hshape⟩ := Text.signed?_eq_some_iff.mp hsigned
        rw [ofText_of_signed? hsigned] at h
        split_ifs at h with hshort
        refine ⟨s.digits, hdigits, Nat.lt_of_not_le hshort, ?_, (Except.error.inj h).symm⟩
        cases hnegative : s.negative with
        | true => exact .inr (by rw [hshape, if_pos hnegative])
        | false => exact .inl (by rw [hshape, hnegative]; rfl)
  · rintro ⟨digits, hdigits, hlong, hshape, rfl⟩
    obtain ⟨negative, hnegative⟩ : ∃ negative : Bool,
        strip t = if negative then '-' :: digits else digits := by
      rcases hshape with h | h
      · exact ⟨false, h⟩
      · exact ⟨true, h⟩
    have hsigned : signed? false (strip t) = some ⟨negative, digits⟩ :=
      Text.signed?_eq_some_iff.mpr ⟨hdigits, hnegative⟩
    rw [ofText_of_signed? hsigned, if_neg (Nat.not_le.mpr hlong)]

end Seed

end FixtureKeywords
