import FixtureKeywords.Text.Lowercase
import FixtureKeywords.Proofs.Text.Composed

/-!
# Lower case and composition

The lower-case form of a text has no capital letter in it, and a text without capitals is its
own lower-case form. No row of the decomposition tables leads to a capital from characters
that are none, so composing a lowered text leaves it lowered.
-/
namespace FixtureKeywords.Text

/-- The code points of a run: from the first to the last one in steps. -/
def runPoints (first last step : Nat) : List Nat :=
  List.range' first ((last - first) / step + 1) step

/-- The code points that have a lower-case form of their own. -/
def capitals : List Nat :=
  0x130 :: lowercaseRuns.flatMap fun (first, last, step, _) => runPoints first last step

/-- What a lower-case form has to be: a character, and neither a capital nor a blank. -/
def IsLower (n : Nat) : Prop :=
  n.isValidChar ∧ ¬ (pointSet capitals).testBit n ∧ ¬ (pointSet blankPoints).testBit n

instance (n : Nat) : Decidable (IsLower n) :=
  inferInstanceAs (Decidable (_ ∧ _ ∧ _))

theorem IsLower.not_mem_capitals {n : Nat} (h : IsLower n) : n ∉ capitals := fun hmem =>
  h.2.1 (testBit_pointSet.mpr hmem)

theorem IsLower.not_blank {c : Char} (h : IsLower c.toNat) : isBlank c = false :=
  isBlank_eq_false_iff.mpr fun hmem => h.2.2 (testBit_pointSet.mpr hmem)

-- One computation again, since each of them goes through the set of all capitals.
/-- What holds of every capital: no row leads to one from other characters, no blank is one,
and its lower-case form is none. Outside ASCII the first one is 0xC0. -/
theorem capitals_checked :
    KeptOut capitals ∧
    (∀ n ∈ blankPoints, ¬ (pointSet capitals).testBit n) ∧
    (∀ row ∈ lowercaseRuns, row.1 ≤ row.2.1 ∧
      ∀ n ∈ runPoints row.1 row.2.1 row.2.2.1,
        (n < 0x80 ∨ 0xC0 ≤ n) ∧ IsLower (n + row.2.2.2).toNat) ∧
    (∀ n < 0x80, (Char.ofNat n).toLower.toNat < 0x80 ∧
      if (pointSet capitals).testBit n then IsLower (Char.ofNat n).toLower.toNat
      else (Char.ofNat n).toLower = Char.ofNat n) ∧
    (pointSet capitals).testBit 0x3A3 ∧ ∀ n ∈ [0x69, 0x307, 0x3C2, 0x3C3], IsLower n := by
  decide +kernel

/-- A character that is no capital does not become one by being taken apart or joined. -/
theorem closed_not_mem_capitals : Closed (· ∉ capitals) :=
  capitals_checked.1.closed

theorem not_mem_capitals_of_blank {c : Char} (hc : isBlank c) : c.toNat ∉ capitals := fun hmem =>
  capitals_checked.2.1 _ (isBlank_iff_mem.mp hc) (testBit_pointSet.mpr hmem)

theorem mem_runPoints {first last step n : Nat} (h : first ≤ last) :
    n ∈ runPoints first last step ↔ first ≤ n ∧ n ≤ last ∧ (n - first) % step = 0 := by
  rw [runPoints, List.mem_range']
  constructor
  · rintro ⟨i, hi, rfl⟩
    have hle : step * i ≤ last - first :=
      (Nat.mul_le_mul_left step (Nat.le_of_lt_succ hi)).trans (Nat.mul_div_le _ _)
    refine ⟨by omega, by omega, ?_⟩
    rw [Nat.add_sub_cancel_left, Nat.mul_mod_right]
  · rintro ⟨hfirst, hlast, hmod⟩
    refine ⟨(n - first) / step, ?_, ?_⟩
    · exact Nat.lt_succ_of_le (Nat.div_le_div_right (by omega))
    · rw [Nat.mul_div_cancel' (Nat.dvd_of_mod_eq_zero hmod)]
      omega

theorem mem_capitals_iff {n : Nat} : n ∈ capitals ↔
    n = 0x130 ∨ ∃ row ∈ lowercaseRuns, n ∈ runPoints row.1 row.2.1 row.2.2.1 := by
  simp [capitals]

theorem low_or_high_of_mem_capitals {n : Nat} (h : n ∈ capitals) : n < 0x80 ∨ 0xC0 ≤ n := by
  rcases mem_capitals_iff.mp h with rfl | ⟨row, hrow, hn⟩
  · decide
  · exact ((capitals_checked.2.2.1 row hrow).2 n hn).1

/-- A letter stays as it is, or it is a capital and its lower-case form is none. -/
theorem lowerChar_cases {c : Char} (hc : c ≠ '\u0130') :
    (c.toNat ∉ capitals ∧ lowerChar c = c) ∨ (c.toNat ∈ capitals ∧ IsLower (lowerChar c).toNat) := by
  obtain ⟨-, -, hruns, hascii, -⟩ := capitals_checked
  unfold lowerChar
  split_ifs with hlow
  · have hcase := (hascii c.toNat hlow).2
    rw [Char.ofNat_toNat] at hcase
    split_ifs at hcase with hbit
    · exact .inr ⟨testBit_pointSet.mp hbit, hcase⟩
    · exact .inl ⟨fun hmem => hbit (testBit_pointSet.mpr hmem), hcase⟩
  · cases hfind : lowercaseRuns.find? fun (first, last, step, _) =>
        first ≤ c.toNat && c.toNat ≤ last && (c.toNat - first) % step == 0 with
    | none =>
        refine .inl ⟨fun hmem => ?_, rfl⟩
        rcases mem_capitals_iff.mp hmem with hdot | ⟨row, hrow, hn⟩
        · exact hc (Char.toNat_inj.mp hdot)
        · have hnot := List.find?_eq_none.mp hfind row hrow
          obtain ⟨hfirst, hlast, hmod⟩ := (mem_runPoints (hruns row hrow).1).mp hn
          simp [hfirst, hlast, hmod] at hnot
    | some row =>
        have hrow := List.mem_of_find?_eq_some hfind
        have hrange := List.find?_some hfind
        simp only [Bool.and_eq_true, decide_eq_true_eq, beq_iff_eq] at hrange
        obtain ⟨hle, hlowered⟩ := hruns row hrow
        have hn : c.toNat ∈ runPoints row.1 row.2.1 row.2.2.1 :=
          (mem_runPoints hle).mpr ⟨hrange.1.1, hrange.1.2, hrange.2⟩
        have hlower := (hlowered _ hn).2
        refine .inr ⟨mem_capitals_iff.mpr (.inr ⟨row, hrow, hn⟩), ?_⟩
        have himage : (Char.ofNat (c.toNat + row.2.2.2).toNat).toNat =
            (c.toNat + row.2.2.2).toNat := (Char.toNat_ofNat _).trans (if_pos hlower.1)
        simpa only [himage] using hlower

/-- What a letter becomes in its text: one or two characters, none of them a capital. What is
no capital stays, and no blank comes in. -/
theorem lowerFrom_cons (before : Text) (c : Char) (cs : Text) :
    ∃ here, lowerFrom before (c :: cs) = here ++ lowerFrom (c :: before) cs ∧ here ≠ [] ∧
      (∀ d ∈ here, d.toNat ∉ capitals) ∧ (c.toNat ∉ capitals → here = [c]) ∧
      (isBlank c = false → ∀ d ∈ here, isBlank d = false) := by
  obtain ⟨-, -, -, -, hsigma, hspecial⟩ := capitals_checked
  refine ⟨_, rfl, ?_⟩
  by_cases hc : c = '\u0130' ∨ c = '\u03a3'
  · have hcapital : c.toNat ∈ capitals := by
      rcases hc with rfl | rfl
      · exact mem_capitals_iff.mpr (.inl rfl)
      · exact testBit_pointSet.mp hsigma
    have hsmall : ∀ d ∈ (if c = '\u0130' then ['i', '\u0307']
        else if c = '\u03a3' then
          [if startsCased before && !startsCased cs then '\u03c2' else '\u03c3']
        else [lowerChar c]), IsLower d.toNat := by
      intro d hd
      refine hspecial d.toNat ?_
      rcases hc with rfl | rfl
      · simp only [if_true, List.mem_cons, List.not_mem_nil, or_false] at hd
        rcases hd with rfl | rfl <;> decide
      · rw [if_neg (by decide), if_pos rfl, List.mem_singleton] at hd
        split_ifs at hd <;> subst hd <;> decide
    refine ⟨by split_ifs <;> simp, fun d hd => (hsmall d hd).not_mem_capitals,
      fun h => absurd hcapital h, fun _ d hd => (hsmall d hd).not_blank⟩
  · obtain ⟨hdot, hsig⟩ := not_or.mp hc
    simp only [if_neg hdot, if_neg hsig, List.mem_singleton, forall_eq]
    rcases lowerChar_cases hdot with ⟨hkept, heq⟩ | ⟨hcapital, hlower⟩
    · rw [heq]
      exact ⟨by simp, hkept, fun _ => rfl, id⟩
    · exact ⟨by simp, hlower.not_mem_capitals, fun h => absurd hcapital h,
        fun _ => hlower.not_blank⟩

theorem not_mem_capitals_of_lowerFrom (before t : Text) :
    ∀ d ∈ lowerFrom before t, d.toNat ∉ capitals := by
  induction t generalizing before with
  | nil => simp [lowerFrom]
  | cons c cs ih =>
      obtain ⟨here, heq, -, hlower, -⟩ := lowerFrom_cons before c cs
      rw [heq]
      intro d hd
      rcases List.mem_append.mp hd with hd | hd
      · exact hlower d hd
      · exact ih _ d hd

theorem lowerFrom_of_not_mem_capitals {t : Text} (h : ∀ c ∈ t, c.toNat ∉ capitals)
    (before : Text) : lowerFrom before t = t := by
  induction t generalizing before with
  | nil => rfl
  | cons c cs ih =>
      obtain ⟨here, heq, -, -, hkept, -⟩ := lowerFrom_cons before c cs
      rw [heq, hkept (h c (by simp)), ih fun d hd => h d (by simp [hd])]
      rfl

theorem not_mem_capitals_of_lowered (t : Text) : ∀ d ∈ lowered t, d.toNat ∉ capitals :=
  not_mem_capitals_of_lowerFrom [] t

theorem lowered_of_not_mem_capitals {t : Text} (h : ∀ c ∈ t, c.toNat ∉ capitals) :
    lowered t = t :=
  lowerFrom_of_not_mem_capitals h []

theorem lowered_composed_lowered (t : Text) :
    lowered (composed (lowered t)) = composed (lowered t) :=
  lowered_of_not_mem_capitals (closed_not_mem_capitals.composed (not_mem_capitals_of_lowered t))

theorem ne_special_of_low {c : Char} (hc : c.toNat < 0xC0) : c ≠ '\u0130' ∧ c ≠ '\u03a3' := by
  constructor <;> rintro rfl <;> exact absurd hc (by decide)

/-- Letters below 0xC0 stay there, since only those of ASCII are capitals. -/
theorem lowerChar_of_low {c : Char} (hc : c.toNat < 0xC0) : (lowerChar c).toNat < 0xC0 := by
  rcases Nat.lt_or_ge c.toNat 0x80 with hlow | hhigh
  · have hlower := (capitals_checked.2.2.2.1 c.toNat hlow).1
    rw [Char.ofNat_toNat] at hlower
    rw [lowerChar, if_pos hlow]
    omega
  · rcases lowerChar_cases (ne_special_of_low hc).1 with ⟨-, heq⟩ | ⟨hmem, -⟩
    · rwa [heq]
    · have := low_or_high_of_mem_capitals hmem
      omega

theorem lowerFrom_of_low {t : Text} (h : ∀ c ∈ t, c.toNat < 0xC0) (before : Text) :
    ∀ d ∈ lowerFrom before t, d.toNat < 0xC0 := by
  induction t generalizing before with
  | nil => simp [lowerFrom]
  | cons c cs ih =>
      have hc := h c (by simp)
      obtain ⟨hdot, hsigma⟩ := ne_special_of_low hc
      rw [lowerFrom, if_neg hdot, if_neg hsigma]
      refine List.forall_mem_cons.mpr ⟨lowerChar_of_low hc, ?_⟩
      exact ih (fun d hd => h d (by simp [hd])) _

end FixtureKeywords.Text
