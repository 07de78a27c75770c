import FixtureKeywords.Fault
import FixtureKeywords.Outcome
import FixtureKeywords.Proofs.Text.Spelling

/-!
# Numerals as they are written

A numeral writes a number if it consists of digits, at least one and not more
than are read, and the number is its value. Leading zeros are allowed. Digits are
not blank, so a numeral is trimmed, and a run of digits ends where the first
other character stands. A numeral with more digits is a fault that tells their number,
and what an integer with more digits is to be told in is never told.
-/
namespace FixtureKeywords.Text

/-- The run of digits writes the number. -/
structure Writes (n : Nat) (digits : Text) : Prop where
  numeral : isNumeral digits
  short : digits.length ≤ digitLimit
  value_eq : value digits = n

theorem isDigit_of_mem {digits : Text} (h : isNumeral digits) : ∀ c ∈ digits, c.isDigit := by
  simp only [isNumeral, Bool.and_eq_true, List.all_eq_true] at h
  exact h.2

theorem ne_nil_of_isNumeral {digits : Text} (h : isNumeral digits) : digits ≠ [] := by
  rintro rfl
  simp [isNumeral] at h

theorem isBlank_of_isDigit {c : Char} (h : c.isDigit) : isBlank c = false := by
  by_contra hb
  rw [Bool.not_eq_false] at hb
  simp only [Char.isDigit, isBlank, Bool.and_eq_true, Bool.or_eq_true, decide_eq_true_eq,
    beq_iff_eq, UInt32.le_iff_toNat_le, Char.toNat, Char.reduceVal, UInt32.reduceToNat] at h hb
  omega

theorem Writes.lift {n : Nat} {digits : Text} (h : Writes n digits) :
    Fault.liftNumeral (readDigits digits) = .ok n := by
  simp [Fault.liftNumeral, readDigits, h.short, h.value_eq]

/-- Where a run of digits ends the longest run in front of the text ends too. -/
theorem digits_append {digits rest : Text} (h : ∀ c ∈ digits, c.isDigit)
    (hrest : ∀ c, rest.head? = some c → c.isDigit = false) :
    (digits ++ rest).takeWhile Char.isDigit = digits ∧
      (digits ++ rest).dropWhile Char.isDigit = rest := by
  rw [List.takeWhile_append_of_pos h, List.dropWhile_append_of_pos h]
  cases rest with
  | nil => simp
  | cons c cs => simp [hrest c rfl]

theorem trimmed_of_isNumeral {digits : Text} (h : isNumeral digits) : Trimmed digits :=
  trimmed_of_forall fun c hc => isBlank_of_isDigit (isDigit_of_mem h c hc)

theorem digitValue_lt {c : Char} (h : c.isDigit) : digitValue c < 10 := by
  simp only [Char.isDigit, Bool.and_eq_true, decide_eq_true_eq, UInt32.le_iff_toNat_le,
    Char.reduceVal, UInt32.reduceToNat] at h
  simp only [digitValue, Char.toNat]
  omega

theorem value_append (digits : Text) (d : Char) :
    value (digits ++ [d]) = 10 * value digits + digitValue d :=
  List.foldl_append

theorem value_lt {digits : Text} (h : ∀ c ∈ digits, c.isDigit) :
    value digits < 10 ^ digits.length := by
  induction digits using List.reverseRecOn with
  | nil => decide
  | append_singleton digits d ih =>
      have hdigits := ih fun c hc => h c (List.mem_append_left _ hc)
      have hlast := digitValue_lt (h d (by simp))
      rw [value_append, List.length_append, List.length_singleton, Nat.pow_succ]
      omega

theorem readDigits_lt {digits : Text} (h : isNumeral digits) {n : Nat}
    (hread : readDigits digits = .ok n) : n < 10 ^ digitLimit := by
  unfold readDigits at hread
  split_ifs at hread with hshort
  obtain rfl := Except.ok.inj hread
  exact (value_lt (isDigit_of_mem h)).trans_le (Nat.pow_le_pow_right (by decide) hshort)

theorem Signed.natAbs_lt {s : Signed} (h : isNumeral s.digits) {n : Int} (hread : s.read = .ok n) :
    n.natAbs < 10 ^ digitLimit := by
  unfold Signed.read at hread
  cases hdigits : readDigits s.digits with
  | error long =>
      rw [hdigits] at hread
      cases hread
  | ok k =>
      have hk := readDigits_lt h hdigits
      rw [hdigits] at hread
      obtain rfl := Except.ok.inj hread
      dsimp only
      split_ifs
      · rwa [Int.natAbs_neg]
      · exact hk

theorem isWritable_iff {n : Int} : isWritable n = true ↔ n.natAbs < 10 ^ digitLimit := by
  rw [isWritable, decide_eq_true_iff]
  exact Nat.length_toDigits_le_iff (by decide) (by decide)

theorem writes_toDigits {n : Nat} (h : n < 10 ^ digitLimit) : Writes n (Nat.toDigits 10 n) where
  numeral := by
    have hdigits : ∀ c ∈ Nat.toDigits 10 n, c.isDigit := fun c hc =>
      Nat.isDigit_of_mem_toDigits (by decide) (by decide) hc
    simpa [isNumeral] using hdigits
  short := (Nat.length_toDigits_le_iff (by decide) (by decide)).mpr h
  value_eq := Nat.ofDigitChars_toDigits (by decide) (by decide)

/-- How an integer is written; a sign may stand before it. -/
inductive WritesInteger : Int → Text → Prop
  | plain {n : Nat} {digits : Text} : Writes n digits → WritesInteger n digits
  | plus {n : Nat} {digits : Text} : Writes n digits → WritesInteger n ('+' :: digits)
  | minus {n : Nat} {digits : Text} : Writes n digits → WritesInteger (-n) ('-' :: digits)

theorem signed?_of_isNumeral {digits : Text} (h : isNumeral digits) (plus : Bool) :
    signed? plus digits = some ⟨false, digits⟩ := by
  obtain ⟨d, ds, rfl⟩ := List.exists_cons_of_ne_nil (ne_nil_of_isNumeral h)
  have hd := isDigit_of_mem h d (by simp)
  have hminus : d ≠ '-' := by
    rintro rfl
    exact absurd hd (by decide)
  have hplus : d ≠ '+' := by
    rintro rfl
    exact absurd hd (by decide)
  unfold signed?
  split
  next heq => exact absurd (List.cons.inj heq).1 hminus
  next heq => exact absurd (List.cons.inj heq).1 hplus
  next => rw [if_pos h]

theorem isNumeral_of_signed? {plus : Bool} {t : Text} {s : Signed} (h : signed? plus t = some s) :
    isNumeral s.digits := by
  unfold signed? at h
  split at h
  all_goals
    split_ifs at h with hdigits
    obtain rfl := Option.some.inj h
  · exact hdigits
  · exact (Bool.and_eq_true_iff.mp hdigits).2
  · exact hdigits

theorem Signed.lift {n : Nat} {digits : Text} (h : Writes n digits) (negative : Bool) :
    Fault.liftNumeral (Signed.read ⟨negative, digits⟩) =
      .ok (if negative then -(n : Int) else n) := by
  simp [Fault.liftNumeral, Signed.read, readDigits, h.short, h.value_eq, Except.map]

/-- A written integer is trimmed, and split into its sign and its digits. -/
theorem WritesInteger.read {n : Int} {t : Text} (h : WritesInteger n t) :
    Trimmed t ∧ ∃ numeral, signed? true t = some numeral ∧
      Fault.liftNumeral numeral.read = .ok n := by
  have htrimmed {c : Char} (hc : isBlank c = false) {digits : Text} (hd : isNumeral digits) :
      Trimmed (c :: digits) := by
    apply trimmed_of_forall
    intro d hmem
    rcases List.mem_cons.mp hmem with rfl | hmem
    · exact hc
    · exact isBlank_of_isDigit (isDigit_of_mem hd d hmem)
  cases h with
  | plain hw =>
      exact ⟨trimmed_of_isNumeral hw.numeral, _, signed?_of_isNumeral hw.numeral true,
        Signed.lift hw false⟩
  | plus hw =>
      refine ⟨htrimmed (by decide) hw.numeral, _, ?_, Signed.lift hw false⟩
      simp [signed?, hw.numeral]
  | minus hw =>
      refine ⟨htrimmed (by decide) hw.numeral, _, ?_, Signed.lift hw true⟩
      simp [signed?, hw.numeral]

end FixtureKeywords.Text

namespace FixtureKeywords
open Text

/-! ### Too many digits -/

namespace ArgumentFault
variable {cause : ArgumentFault}

/-- Whether the integers in the wording of a fault are short enough to be written. -/
def IsShort (cause : ArgumentFault) : Prop :=
  ∀ n ∈ cause.integers, n.natAbs < 10 ^ digitLimit

theorem raised_of_isShort (h : cause.IsShort) : cause.raised = .argument cause :=
  if_pos (List.all_eq_true.mpr fun n hn => isWritable_iff.mpr (h n hn))

theorem raised_of_not_isShort (h : ¬ cause.IsShort) : cause.raised = .integerTooLong :=
  if_neg fun hall => h fun n hn => isWritable_iff.mp (List.all_eq_true.mp hall n hn)

end ArgumentFault

theorem Fault.liftNumeral_readDigits (digits : Text) : liftNumeral (readDigits digits) =
    if digits.length ≤ digitLimit then .ok (value digits)
    else .error (.numeralTooLong digits.length) := by
  unfold readDigits
  split_ifs <;> rfl

theorem Fault.liftNumeral_read (s : Signed) : liftNumeral s.read =
    if s.digits.length ≤ digitLimit then
      .ok (if s.negative then -(value s.digits : Int) else value s.digits)
    else .error (.numeralTooLong s.digits.length) := by
  unfold Signed.read readDigits
  split_ifs <;> rfl

end FixtureKeywords
