import FixtureKeywords.Proofs.Outcome
import FixtureKeywords.Proofs.Text.Numeral
import FixtureKeywords.Strings.Modifier

/-!
# Lengths as they are written

The payload of a length is one numeral, or two with a hyphen between them, with
blanks at either end and around the hyphen. Such a payload is taken apart into
its numerals again.
-/
namespace FixtureKeywords.StringModifier
open Text

/-- How the bounds of a length are written; one numeral stands for both. -/
inductive IsLength : Nat → Nat → Text → Prop
  | exact {n : Nat} {lead digits trail : Text} : isBlankText lead → Writes n digits →
      isBlankText trail → 1 ≤ n → IsLength n n (lead ++ digits ++ trail)
  | range {n m : Nat} {lead first before behind second trail : Text} :
      isBlankText lead → Writes n first → isBlankText before → isBlankText behind →
      Writes m second → isBlankText trail → 1 ≤ n → n ≤ m →
      IsLength n m (lead ++ (first ++ (before ++ '-' :: (behind ++ second))) ++ trail)

theorem IsLength.bounds {n m : Nat} {payload : Text} (h : IsLength n m payload) :
    1 ≤ n ∧ n ≤ m := by
  cases h with
  | exact _ _ _ hn => exact ⟨hn, le_rfl⟩
  | range _ _ _ _ _ _ hn hm => exact ⟨hn, hm⟩

theorem IsLength.not_mem {n m : Nat} {payload : Text} (h : IsLength n m payload) {c : Char}
    (hblank : isBlank c = false) (hdigit : c.isDigit = false) (hhyphen : c ≠ '-') :
    c ∉ payload := by
  have hdigits {digits : Text} {k : Nat} (hw : Writes k digits) : c ∉ digits := by
    intro hmem
    have := isDigit_of_mem hw.numeral c hmem
    simp [hdigit] at this
  cases h with
  | exact hlead hw htrail _ =>
      simp [not_mem_of_isBlankText hlead hblank, hdigits hw,
        not_mem_of_isBlankText htrail hblank]
  | range hlead hfirst hbefore hbehind hsecond htrail _ _ =>
      simp [not_mem_of_isBlankText hlead hblank, hdigits hfirst,
        not_mem_of_isBlankText hbefore hblank, hhyphen,
        not_mem_of_isBlankText hbehind hblank, hdigits hsecond,
        not_mem_of_isBlankText htrail hblank]

theorem lengthParts?_exact {lead digits trail : Text} (hlead : isBlankText lead)
    (hdigits : isNumeral digits) (htrail : isBlankText trail) :
    lengthParts? (lead ++ digits ++ trail) = some (digits, none) := by
  have hend : ∀ c, ([] : Text).head? = some c → c.isDigit = false := by simp
  have hrun := digits_append (isDigit_of_mem hdigits) hend
  rw [List.append_nil] at hrun
  simp only [lengthParts?, strip_padded hlead (trimmed_of_isNumeral hdigits) htrail,
    hrun.1, hrun.2]
  simp [ne_nil_of_isNumeral hdigits, dropBlanks]

theorem lengthParts?_range {lead first before behind second trail : Text}
    (hlead : isBlankText lead) (hfirst : isNumeral first) (hbefore : isBlankText before)
    (hbehind : isBlankText behind) (hsecond : isNumeral second) (htrail : isBlankText trail) :
    lengthParts? (lead ++ (first ++ (before ++ '-' :: (behind ++ second))) ++ trail) =
      some (first, some second) := by
  have htrimmed : Trimmed (first ++ (before ++ '-' :: (behind ++ second))) := by
    obtain ⟨c, cs, rfl⟩ := List.exists_cons_of_ne_nil (ne_nil_of_isNumeral hfirst)
    have hlast := List.dropLast_concat_getLast (ne_nil_of_isNumeral hsecond)
    have hc := isBlank_of_isDigit (isDigit_of_mem hfirst c (by simp))
    have hd := isBlank_of_isDigit
      (isDigit_of_mem hsecond _ (List.getLast_mem (ne_nil_of_isNumeral hsecond)))
    rw [← hlast]
    have := trimmed_between hc hd (cs ++ (before ++ '-' :: (behind ++ second.dropLast)))
    simpa using this
  have hstop : ∀ c, (before ++ '-' :: (behind ++ second)).head? = some c →
      c.isDigit = false := by
    intro c hc
    cases before with
    | nil =>
        simp only [List.nil_append, List.head?_cons, Option.some.injEq] at hc
        subst hc
        decide
    | cons b bs =>
        simp only [List.cons_append, List.head?_cons, Option.some.injEq] at hc
        subst hc
        by_contra hdigit
        rw [Bool.not_eq_false] at hdigit
        have := isBlank_of_mem hbefore b (by simp)
        simp [isBlank_of_isDigit hdigit] at this
  have hrun := digits_append (isDigit_of_mem hfirst) hstop
  have hsecond' : dropBlanks (behind ++ second) = second := by
    rw [dropBlanks_append hbehind]
    exact (trimmed_of_isNumeral hsecond).1
  simp only [lengthParts?, strip_padded hlead htrimmed htrail, hrun.1, hrun.2,
    dropBlanks_append_cons hbefore (show isBlank '-' = false by decide)]
  simp [ne_nil_of_isNumeral hfirst, dropChar?, hsecond', hsecond]

theorem readLength_of_isLength {n m : Nat} {f : Fragment} (h : IsLength n m f.payload) :
    readLength f = .ok (.length n m) := by
  have hbounds := h.bounds
  have hn : ¬ n < 1 := by omega
  have hm : ¬ m < n := by omega
  unfold readLength
  generalize f.payload = payload at h
  cases h with
  | exact hlead hdigits htrail _ =>
      rw [lengthParts?_exact hlead hdigits.numeral htrail]
      simp [hdigits.lift, bind, Except.bind, hn]
  | range hlead hfirst hbefore hbehind hsecond htrail _ _ =>
      rw [lengthParts?_range hlead hfirst.numeral hbefore hbehind hsecond.numeral htrail]
      simp [hfirst.lift, hsecond.lift, bind, Except.bind, hn, hm]

theorem exists_of_readLength {f : Fragment} {m : StringModifier} (h : readLength f = .ok m) :
    ∃ shortest longest, m = .length shortest longest ∧ 1 ≤ shortest ∧ shortest ≤ longest := by
  unfold readLength at h
  split at h
  next => simp at h
  next first second _ =>
    obtain ⟨shortest, -, hrest⟩ := Outcome.bind_eq_ok.mp h
    have hchecked : ∃ longest,
        (if shortest < 1 then Except.error (Fault.format (.zeroLength f.shown))
        else if longest < shortest then .error (.format (.decreasingLength f.shown))
        else .ok (.length shortest longest)) = Except.ok m := by
      cases second with
      | none => exact ⟨shortest, hrest⟩
      | some digits =>
          obtain ⟨longest, -, hchecked⟩ := Outcome.bind_eq_ok.mp hrest
          exact ⟨longest, hchecked⟩
    obtain ⟨longest, hlongest⟩ := hchecked
    split_ifs at hlongest with hzero hless
    exact ⟨shortest, longest, (Except.ok.inj hlongest).symm, Nat.le_of_not_lt hzero,
      Nat.le_of_not_lt hless⟩

end FixtureKeywords.StringModifier
