import FixtureKeywords.Text.Caseless
import Mathlib

/-!
# Blanks and spellings

Readers pass over blanks and compare names without regard to case. The lemmas
here say what that means for a text that is put together from its parts: blanks
in front are dropped, blanks at either end are stripped, and a word is read
exactly where one of its spellings stands.

A spelling of a word is any text whose letter keys make up the word: the case of
ASCII letters does not count, and a few letters outside ASCII are taken for them.
-/
namespace FixtureKeywords.Text

theorem isBlank_of_mem {b : Text} (hb : isBlankText b) : ∀ c ∈ b, isBlank c := by
  simpa [isBlankText] using hb

theorem not_mem_of_isBlankText {b : Text} (hb : isBlankText b) {c : Char}
    (hc : isBlank c = false) : c ∉ b := by
  intro hmem
  have := isBlank_of_mem hb c hmem
  simp [hc] at this

theorem isBlankText_append {a b : Text} :
    isBlankText (a ++ b) ↔ isBlankText a ∧ isBlankText b := by
  simp [isBlankText]

theorem isBlankText_cons {c : Char} {b : Text} :
    isBlankText (c :: b) ↔ isBlank c ∧ isBlankText b := by
  simp [isBlankText]

theorem dropBlanks_append {b : Text} (hb : isBlankText b) (t : Text) :
    dropBlanks (b ++ t) = dropBlanks t :=
  List.dropWhile_append_of_pos (isBlank_of_mem hb)

theorem dropBlanks_cons {c : Char} (hc : isBlank c = false) (t : Text) :
    dropBlanks (c :: t) = c :: t := by
  simp [dropBlanks, hc]

theorem dropBlanks_append_cons {b : Text} (hb : isBlankText b) {c : Char}
    (hc : isBlank c = false) (t : Text) : dropBlanks (b ++ c :: t) = c :: t := by
  rw [dropBlanks_append hb, dropBlanks_cons hc]

theorem dropBlanks_of_isBlankText {b : Text} (hb : isBlankText b) : dropBlanks b = [] := by
  have h := dropBlanks_append hb []
  simpa [dropBlanks] using h

theorem exists_blanks (t : Text) : ∃ b, isBlankText b ∧ t = b ++ dropBlanks t := by
  refine ⟨t.takeWhile isBlank, ?_, (List.takeWhile_append_dropWhile).symm⟩
  simp only [isBlankText, List.all_eq_true]
  exact fun c hc => List.mem_takeWhile_imp hc

theorem isBlankText_reverse {b : Text} (hb : isBlankText b) : isBlankText b.reverse := by
  simpa [isBlankText] using hb

theorem dropBlanks_append_left {t : Text} (ht : dropBlanks t = t) (hne : t ≠ []) (s : Text) :
    dropBlanks (t ++ s) = t ++ s := by
  cases t with
  | nil => exact absurd rfl hne
  | cons c cs =>
      have hc : isBlank c = false := by
        by_contra hc
        rw [Bool.not_eq_false] at hc
        have hlen := congrArg List.length ht
        simp only [dropBlanks, List.dropWhile_cons, hc, if_true, List.length_cons] at hlen
        have := (List.dropWhile_suffix isBlank : cs.dropWhile isBlank <:+ cs).length_le
        omega
      exact dropBlanks_cons hc _

/-- A text with a blank at neither end. -/
def Trimmed (t : Text) : Prop :=
  dropBlanks t = t ∧ dropBlanks t.reverse = t.reverse

/-- Stripping takes off the blanks around a trimmed text and nothing else. -/
theorem strip_padded {b t d : Text} (hb : isBlankText b) (ht : Trimmed t)
    (hd : isBlankText d) : strip (b ++ t ++ d) = t := by
  unfold strip dropTrailingBlanks
  rw [List.append_assoc, dropBlanks_append hb]
  by_cases hne : t = []
  · subst hne
    rw [List.nil_append, dropBlanks_of_isBlankText hd]
    rfl
  · rw [dropBlanks_append_left ht.1 hne, List.reverse_append,
      dropBlanks_append (isBlankText_reverse hd), ht.2, List.reverse_reverse]

theorem Trimmed.strip_eq {t : Text} (ht : Trimmed t) : strip t = t := by
  rw [strip, dropTrailingBlanks, ht.1, ht.2, List.reverse_reverse]

theorem exists_strip (t : Text) :
    ∃ b d, isBlankText b ∧ isBlankText d ∧ t = b ++ strip t ++ d := by
  obtain ⟨b, hb, ht⟩ := exists_blanks t
  obtain ⟨d, hd, hrest⟩ := exists_blanks (dropBlanks t).reverse
  refine ⟨b, d.reverse, hb, isBlankText_reverse hd, ?_⟩
  have hstrip : dropBlanks t = strip t ++ d.reverse := by
    rw [strip, dropTrailingBlanks, ← List.reverse_append, ← hrest, List.reverse_reverse]
  rw [List.append_assoc, ← hstrip]
  exact ht

theorem trimmed_of_forall {t : Text} (ht : ∀ c ∈ t, isBlank c = false) : Trimmed t := by
  have key (s : Text) (hs : ∀ c ∈ s, isBlank c = false) : dropBlanks s = s := by
    cases s with
    | nil => rfl
    | cons c cs => exact dropBlanks_cons (hs c (by simp)) cs
  exact ⟨key t ht, key t.reverse (by simpa using ht)⟩

theorem trimmed_between {c d : Char} (hc : isBlank c = false) (hd : isBlank d = false)
    (t : Text) : Trimmed (c :: t ++ [d]) := by
  refine ⟨dropBlanks_cons hc _, ?_⟩
  rw [List.reverse_append]
  exact dropBlanks_cons hd _

/-- Spellings of a word: texts that are read as the word. -/
def Reads (word t : Text) : Prop :=
  t.map letterKey = word

instance (word t : Text) : Decidable (Reads word t) :=
  inferInstanceAs (Decidable (_ = _))

theorem letterKey_eq_toLower {c : Char} (hc : c.toLower.isLower) : letterKey c = c.toLower := by
  unfold letterKey
  split_ifs with h₁ h₂ h₃
  · subst h₁
    exact absurd hc (by decide)
  · rcases h₂ with rfl | rfl <;> exact absurd hc (by decide)
  · subst h₃
    exact absurd hc (by decide)
  · rfl

/-- A word to be read: lower-case ASCII letters, at least one. -/
def IsName (word : Text) : Prop :=
  word ≠ [] ∧ ∀ w ∈ word, w.isLower

instance (word : Text) : Decidable (IsName word) :=
  have : Decidable (∀ w ∈ word, w.isLower) := List.decidableBAll _ _
  inferInstanceAs (Decidable (_ ∧ _))

theorem isBlank_eq_false_of_isLower {c : Char} (hc : (letterKey c).isLower) :
    isBlank c = false := by
  by_contra hb
  rw [Bool.not_eq_false] at hb
  have hnot (d : Char) (hd : isBlank d = false) : c ≠ d := by
    rintro rfl
    simp [hd] at hb
  simp only [letterKey, hnot '\u017f' (by decide), hnot '\u0130' (by decide),
    hnot '\u0131' (by decide), hnot '\u212a' (by decide), or_self, if_false] at hc
  have halpha : c.isUpper ∨ c.isLower := by
    by_cases hu : 'A'.val ≤ c.val ∧ c.val ≤ 'Z'.val
    · exact .inl (by simpa [Char.isUpper] using hu)
    · exact .inr (by rwa [Char.toLower, dif_neg hu] at hc)
  simp only [Char.isUpper, Char.isLower, isBlank, Bool.and_eq_true, Bool.or_eq_true,
    decide_eq_true_eq, beq_iff_eq, UInt32.le_iff_toNat_le, Char.toNat, Char.reduceVal,
    UInt32.reduceToNat] at halpha hb
  omega

theorem Reads.not_mem {name s : Text} (h : Reads name s) (hn : IsName name) {c : Char}
    (hc : (letterKey c).isLower = false) : c ∉ s := by
  subst h
  intro hmem
  have := hn.2 _ (List.mem_map_of_mem hmem)
  simp [hc] at this

theorem Reads.not_mem_append {name lead s tail : Text} (h : Reads name s) (hn : IsName name)
    (hlead : isBlankText lead) {c : Char} (hblank : isBlank c = false)
    (hletter : (letterKey c).isLower = false) (htail : c ∉ tail) :
    c ∉ lead ++ (s ++ tail) := by
  simp [not_mem_of_isBlankText hlead hblank, h.not_mem hn hletter, htail]

theorem Reads.eq_cons {name s : Text} (h : Reads name s) (hn : IsName name) :
    ∃ c cs, s = c :: cs ∧ isBlank c = false := by
  subst h
  cases s with
  | nil => exact absurd rfl hn.1
  | cons c cs => exact ⟨c, cs, rfl, isBlank_eq_false_of_isLower (hn.2 _ (by simp))⟩

theorem dropWord?_append {word s : Text} (h : Reads word s) (rest : Text) :
    dropWord? word (s ++ rest) = some rest := by
  subst h
  induction s with
  | nil => exact dropWord?_nil rest
  | cons c cs ih => simpa [dropWord?] using ih

/-- A word is dropped exactly from the texts that begin with one of its spellings. -/
theorem dropWord?_eq_some_iff {word t rest : Text} :
    dropWord? word t = some rest ↔ ∃ s, Reads word s ∧ t = s ++ rest := by
  constructor
  · intro h
    induction word generalizing t with
    | nil =>
        rw [dropWord?_nil, Option.some.injEq] at h
        exact ⟨[], rfl, h⟩
    | cons w ws ih =>
        cases t with
        | nil => simp [dropWord?] at h
        | cons c cs =>
            by_cases hc : letterKey c = w
            · simp only [dropWord?, hc, if_true] at h
              obtain ⟨s, hs, rfl⟩ := ih h
              exact ⟨c :: s, by simp only [Reads, List.map_cons, hc] at hs ⊢; rw [hs], rfl⟩
            · simp [dropWord?, hc] at h
  · rintro ⟨s, hs, rfl⟩
    exact dropWord?_append hs rest

/-- Two words of which neither begins the other are not taken for one another. -/
theorem dropWord?_eq_none {word other s : Text} (h : Reads other s)
    (h₁ : ¬ word <+: other) (h₂ : ¬ other <+: word) (rest : Text) :
    dropWord? word (s ++ rest) = none := by
  by_contra hne
  obtain ⟨left, hleft⟩ := Option.ne_none_iff_exists'.mp hne
  obtain ⟨s', hs', heq⟩ := dropWord?_eq_some_iff.mp hleft
  rcases List.append_eq_append_iff.mp heq with ⟨a, rfl, -⟩ | ⟨a, rfl, -⟩
  · exact h₂ ⟨a.map letterKey, by rw [← hs', ← h]; simp⟩
  · exact h₁ ⟨a.map letterKey, by rw [← hs', ← h]; simp⟩

theorem dropChar?_dropWord?_eq_some_iff {c : Char} {name t rest : Text} (hn : IsName name) :
    ((dropChar? c t).bind fun inner => dropWord? name (dropBlanks inner)) = some rest ↔
      ∃ lead s, isBlankText lead ∧ Reads name s ∧ t = c :: (lead ++ (s ++ rest)) := by
  constructor
  · intro h
    obtain ⟨inner, hopen, hword⟩ := Option.bind_eq_some_iff.mp h
    obtain ⟨s, hs, heq⟩ := dropWord?_eq_some_iff.mp hword
    obtain ⟨lead, hlead, hinner⟩ := exists_blanks inner
    exact ⟨lead, s, hlead, hs, by rw [dropChar?_eq_some_iff.mp hopen, ← heq, ← hinner]⟩
  · rintro ⟨lead, s, hlead, hs, rfl⟩
    obtain ⟨d, ds, rfl, hd⟩ := hs.eq_cons hn
    simp only [dropChar?, if_true, Option.bind_some, List.cons_append,
      dropBlanks_append_cons hlead hd]
    exact dropWord?_append hs rest

end FixtureKeywords.Text
