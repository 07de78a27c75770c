import FixtureKeywords.Proofs.Text.Numeral

/-!
# Changes of case

Two texts differ in case if they are equal in lower case, letter for letter; only ASCII letters
have one here. Everything that reads keywords looks at letters through `letterKey` and asks of
other characters only whether they are blanks, digits or one certain sign. So reading a text in
lower case comes to what was read, in lower case, and where only numerals are read it comes to
the same.
-/
namespace FixtureKeywords.Text

/-- A text with its ASCII letters in lower case. -/
def folded (t : Text) : Text :=
  t.map Char.toLower

/-- Two texts differ in nothing but the case of ASCII letters. -/
def Recased (t t' : Text) : Prop :=
  folded t = folded t'

instance (t t' : Text) : Decidable (Recased t t') :=
  inferInstanceAs (Decidable (_ = _))

theorem Recased.length_eq {t t' : Text} (h : Recased t t') : t.length = t'.length := by
  simpa [folded] using congrArg List.length h

section Characters

/-- What is the same of all letters is the same of a character and of it in lower case. -/
theorem apply_toLower {β : Type} {f : Char → β} {b : β} (hf : ∀ c : Char, c.isAlpha → f c = b)
    (c : Char) : f c.toLower = f c := by
  by_cases hc : c.isUpper
  · have halpha : c.isAlpha := by simp [Char.isAlpha, hc]
    rw [hf c halpha, hf c.toLower (by rwa [Char.isAlpha_toLower_eq_isAlpha])]
  · rw [Char.toLower_eq_of_not_isUpper hc]

theorem isBlank_of_isAlpha {c : Char} (h : c.isAlpha) : isBlank c = false := by
  by_contra hb
  rw [Bool.not_eq_false] at hb
  simp only [Char.isAlpha, Char.isUpper, Char.isLower, isBlank, Bool.and_eq_true,
    Bool.or_eq_true, decide_eq_true_eq, beq_iff_eq, UInt32.le_iff_toNat_le, Char.toNat,
    Char.reduceVal, UInt32.reduceToNat] at h hb
  omega

theorem isDigit_of_isAlpha {c : Char} (h : c.isAlpha) : c.isDigit = false := by
  by_contra hd
  rw [Bool.not_eq_false] at hd
  simp only [Char.isAlpha, Char.isUpper, Char.isLower, Char.isDigit, Bool.and_eq_true,
    Bool.or_eq_true, decide_eq_true_eq, UInt32.le_iff_toNat_le, Char.reduceVal,
    UInt32.reduceToNat] at h hd
  omega

theorem isBlank_toLower (c : Char) : isBlank c.toLower = isBlank c :=
  apply_toLower (fun _ h => isBlank_of_isAlpha h) c

theorem isDigit_toLower (c : Char) : c.toLower.isDigit = c.isDigit :=
  apply_toLower (fun _ h => isDigit_of_isAlpha h) c

theorem toLower_eq_iff {sign : Char} (h : sign.isAlpha = false) (c : Char) :
    c.toLower = sign ↔ c = sign := by
  have hne (d : Char) (hd : d.isAlpha) : (d == sign) = false := by
    rw [beq_eq_false_iff_ne]
    rintro rfl
    simp [h] at hd
  have heq := apply_toLower hne c
  rw [← beq_iff_eq, heq, beq_iff_eq]

theorem toLower_bne {sign : Char} (h : sign.isAlpha = false) (c : Char) :
    (c.toLower != sign) = (c != sign) := by
  rw [Bool.eq_iff_iff, bne_iff_ne, bne_iff_ne, Ne, toLower_eq_iff h]

theorem toLower_of_isDigit {c : Char} (h : c.isDigit) : c.toLower = c := by
  refine Char.toLower_eq_of_not_isUpper fun hc => ?_
  have halpha : c.isAlpha := by simp [Char.isAlpha, hc]
  rw [isDigit_of_isAlpha halpha] at h
  cases h

theorem letterKey_toLower (c : Char) : letterKey c.toLower = letterKey c := by
  by_cases hc : c.isUpper
  · have hlower : c.toLower.isLower := by simp [Char.isAlpha, hc]
    rw [letterKey_eq_toLower (c := c) hlower, letterKey_eq_toLower (by simpa using hlower),
      Char.toLower_toLower_eq_toLower]
  · rw [Char.toLower_eq_of_not_isUpper hc]

end Characters

section Folding
variable (t : Text)

@[simp] theorem folded_cons (c : Char) : folded (c :: t) = c.toLower :: folded t := rfl

@[simp] theorem length_folded : (folded t).length = t.length :=
  List.length_map _

theorem isEmpty_folded : (folded t).isEmpty = t.isEmpty :=
  List.isEmpty_map

theorem folded_drop (n : Nat) : folded (t.drop n) = (folded t).drop n :=
  List.map_drop

theorem folded_take (n : Nat) : folded (t.take n) = (folded t).take n :=
  List.map_take

variable {p : Char → Bool}

theorem folded_dropWhile (hp : ∀ c, p c.toLower = p c) :
    folded (t.dropWhile p) = (folded t).dropWhile p := by
  unfold folded
  rw [List.dropWhile_map, show p ∘ Char.toLower = p from funext hp]

theorem folded_takeWhile (hp : ∀ c, p c.toLower = p c) :
    folded (t.takeWhile p) = (folded t).takeWhile p := by
  unfold folded
  rw [List.takeWhile_map, show p ∘ Char.toLower = p from funext hp]

theorem folded_dropBlanks : folded (dropBlanks t) = dropBlanks (folded t) :=
  folded_dropWhile t isBlank_toLower

theorem folded_strip : folded (strip t) = strip (folded t) := by
  have hreverse (s : Text) : folded s.reverse = (folded s).reverse := List.map_reverse
  unfold strip dropTrailingBlanks
  rw [hreverse, folded_dropBlanks, hreverse, folded_dropBlanks]

theorem Recased.strip {t t' : Text} (h : Recased t t') : Recased (strip t) (strip t') := by
  unfold Recased
  rw [folded_strip, folded_strip, h]

/-- A sign that is no letter comes first at the same place in texts that differ in case. -/
theorem Recased.length_front_eq {sign : Char} (hsign : sign.isAlpha = false)
    {front rest front' rest' : Text}
    (h : Recased (front ++ sign :: rest) (front' ++ sign :: rest')) (hfront : sign ∉ front)
    (hfront' : sign ∉ front') : front.length = front'.length := by
  have htake {front : Text} (hfront : sign ∉ front) (rest : Text) :
      (front ++ sign :: rest).takeWhile (· != sign) = front := by
    have hpass : ∀ c ∈ front, (c != sign) = true := by
      intro c hc
      rw [bne_iff_ne]
      rintro rfl
      exact hfront hc
    rw [List.takeWhile_append_of_pos hpass]
    simp
  have hfolded := congrArg (List.takeWhile (· != sign)) h
  rw [← folded_takeWhile _ (toLower_bne hsign), ← folded_takeWhile _ (toLower_bne hsign),
    htake hfront, htake hfront'] at hfolded
  exact Recased.length_eq hfolded

theorem dropChar?_folded {sign : Char} (h : sign.isAlpha = false) :
    dropChar? sign (folded t) = (dropChar? sign t).map folded := by
  cases t with
  | nil => rfl
  | cons c cs =>
      simp only [folded_cons, dropChar?, toLower_eq_iff h]
      split_ifs
      · rfl
      · rfl

theorem dropWord?_folded (word : Text) :
    dropWord? word (folded t) = (dropWord? word t).map folded := by
  induction word generalizing t with
  | nil => rw [dropWord?_nil, dropWord?_nil, Option.map_some]
  | cons w ws ih =>
      cases t with
      | nil => rfl
      | cons c cs =>
          rw [folded_cons, dropWord?, dropWord?, letterKey_toLower, ih]
          split_ifs
          · rfl
          · rfl

end Folding

section Numerals
variable (t : Text)

theorem folded_of_isDigit {digits : Text} (h : ∀ c ∈ digits, c.isDigit) :
    folded digits = digits := by
  unfold folded
  rw [List.map_congr_left fun c hc => toLower_of_isDigit (h c hc), List.map_id']

theorem isNumeral_folded : isNumeral (folded t) = isNumeral t := by
  unfold isNumeral folded
  rw [List.isEmpty_map, List.all_map]
  exact congrArg (fun p => !t.isEmpty && t.all p) (funext isDigit_toLower)

theorem takeWhile_isDigit_folded :
    (folded t).takeWhile Char.isDigit = t.takeWhile Char.isDigit := by
  rw [← folded_takeWhile t isDigit_toLower]
  exact folded_of_isDigit fun c hc => List.mem_takeWhile_imp hc

theorem signed?_cons (plus : Bool) (c : Char) (cs : Text) : signed? plus (c :: cs) =
    if c = '-' then if isNumeral cs then some ⟨true, cs⟩ else none
    else if c = '+' then if plus && isNumeral cs then some ⟨false, cs⟩ else none
    else if isNumeral (c :: cs) then some ⟨false, c :: cs⟩ else none := by
  unfold signed?
  split
  next heq =>
    obtain ⟨rfl, rfl⟩ := List.cons.inj heq
    rfl
  next heq =>
    obtain ⟨rfl, rfl⟩ := List.cons.inj heq
    rfl
  next hminus hplus =>
    have hm : c ≠ '-' := fun hc => hminus cs (by rw [hc])
    have hp : c ≠ '+' := fun hc => hplus cs (by rw [hc])
    rw [if_neg hm, if_neg hp]

theorem signed?_folded (plus : Bool) : signed? plus (folded t) = signed? plus t := by
  have hplain (negative : Bool) (s : Text) :
      (if isNumeral (folded s) then some (Signed.mk negative (folded s)) else none) =
        if isNumeral s then some ⟨negative, s⟩ else none := by
    rw [isNumeral_folded]
    split_ifs with hs
    · rw [folded_of_isDigit (isDigit_of_mem hs)]
    · rfl
  cases t with
  | nil => rfl
  | cons c cs =>
      rw [folded_cons, signed?_cons, signed?_cons, ← folded_cons, hplain, hplain]
      simp only [toLower_eq_iff (show '-'.isAlpha = false by decide),
        toLower_eq_iff (show '+'.isAlpha = false by decide)]
      cases plus with
      | false => rfl
      | true => rw [Bool.true_and, Bool.true_and, hplain]

end Numerals

end FixtureKeywords.Text
