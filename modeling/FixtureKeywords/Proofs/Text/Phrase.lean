import FixtureKeywords.Proofs.Text.Spelling
import FixtureKeywords.Proofs.Text.Lowercase

/-!
# Phrases

A phrase is made of words with gaps of blanks between them. What is left of a text when it is
stripped is empty or a phrase. Composing and lowering change the words of a phrase and keep
its gaps; collapsing keeps the words and makes a single space of every gap.
-/
namespace FixtureKeywords.Text

/-- A word: at least one character, and none of them blank. -/
def IsWord (w : Text) : Prop :=
  w ≠ [] ∧ ∀ c ∈ w, isBlank c = false

def IsGap (g : Text) : Prop :=
  g ≠ [] ∧ isBlankText g

/-- A gap of a single space. -/
def IsSpace (g : Text) : Prop :=
  g = [' ']

/-- Words with gaps of one kind between them. -/
inductive Phrase (Gap : Text → Prop) : Text → Prop
  | word {w : Text} (hw : IsWord w) : Phrase Gap w
  | more {w g t : Text} (hw : IsWord w) (hg : Gap g) (ht : Phrase Gap t) :
      Phrase Gap (w ++ (g ++ t))

theorem IsSpace.isGap {g : Text} (h : IsSpace g) : IsGap g := by
  subst h
  exact ⟨by simp, by decide⟩

section
variable {Gap : Text → Prop} {t : Text}

theorem Phrase.exists_first (h : Phrase Gap t) : ∃ c s, t = c :: s ∧ isBlank c = false := by
  have hfirst {w : Text} (hw : IsWord w) : ∃ c s, w = c :: s ∧ isBlank c = false := by
    obtain ⟨c, s, rfl⟩ := List.exists_cons_of_ne_nil hw.1
    exact ⟨c, s, rfl, hw.2 c (by simp)⟩
  cases h with
  | word hw => exact hfirst hw
  | more hw _ _ =>
      obtain ⟨c, s, rfl, hc⟩ := hfirst hw
      exact ⟨c, _, rfl, hc⟩

theorem Phrase.exists_last (h : Phrase Gap t) : ∃ s c, t = s ++ [c] ∧ isBlank c = false := by
  induction h with
  | @word w hw =>
      refine ⟨w.dropLast, w.getLast hw.1, (List.dropLast_append_getLast hw.1).symm, ?_⟩
      exact hw.2 _ (List.getLast_mem hw.1)
  | @more w g _ _ _ _ ih =>
      obtain ⟨s, c, rfl, hc⟩ := ih
      exact ⟨w ++ (g ++ s), c, by simp, hc⟩

theorem Phrase.trimmed (h : Phrase Gap t) : Trimmed t := by
  obtain ⟨c, s, hfirst, hc⟩ := h.exists_first
  obtain ⟨s', c', hlast, hc'⟩ := h.exists_last
  constructor
  · rw [hfirst, dropBlanks_cons hc]
  · rw [hlast, List.reverse_append]
    exact dropBlanks_cons hc' _

theorem Phrase.cons (h : Phrase Gap t) {c : Char} (hc : isBlank c = false) :
    Phrase Gap (c :: t) := by
  have hword {w : Text} (hw : IsWord w) : IsWord (c :: w) :=
    ⟨by simp, List.forall_mem_cons.mpr ⟨hc, hw.2⟩⟩
  cases h with
  | word hw => exact .word (hword hw)
  | more hw hg ht => exact .more (hword hw) hg ht

end

theorem exists_phrase (t : Text) : isBlankText t ∨
    ∃ b p d, isBlankText b ∧ Phrase IsGap p ∧ isBlankText d ∧ t = b ++ p ++ d := by
  induction t with
  | nil => exact .inl rfl
  | cons c t ih =>
      have hsingle (hc : isBlank c = false) : IsWord [c] := ⟨by simp, by simpa using hc⟩
      cases hc : isBlank c with
      | true =>
          rcases ih with hblank | ⟨b, p, d, hb, hp, hd, rfl⟩
          · exact .inl (isBlankText_cons.mpr ⟨hc, hblank⟩)
          · exact .inr ⟨c :: b, p, d, isBlankText_cons.mpr ⟨hc, hb⟩, hp, hd, rfl⟩
      | false =>
          rcases ih with hblank | ⟨b, p, d, hb, hp, hd, rfl⟩
          · exact .inr ⟨[], [c], t, rfl, .word (hsingle hc), hblank, rfl⟩
          · refine .inr ⟨[], [c] ++ (b ++ p), d, rfl, ?_, hd, by simp⟩
            by_cases hb' : b = []
            · subst hb'
              exact hp.cons hc
            · exact .more (hsingle hc) ⟨hb', hb⟩ hp

theorem strip_cases (t : Text) : strip t = [] ∨ Phrase IsGap (strip t) := by
  rcases exists_phrase t with hblank | ⟨b, p, d, hb, hp, hd, rfl⟩
  · left
    have hempty : Trimmed [] := ⟨rfl, rfl⟩
    have hnone : isBlankText [] := rfl
    simpa using strip_padded hblank hempty hnone
  · right
    rwa [strip_padded hb hp.trimmed hd]

theorem trimmed_strip (t : Text) : Trimmed (strip t) := by
  rcases strip_cases t with hnil | hphrase
  · rw [hnil]
    exact ⟨rfl, rfl⟩
  · exact hphrase.trimmed

/-! ### Single spaces -/

theorem collapseFrom_word {w : Text} (hw : IsWord w) (inRun : Bool) (rest : Text) :
    collapseFrom inRun (w ++ rest) = w ++ collapseFrom false rest := by
  obtain ⟨hne, hw⟩ := hw
  induction w generalizing inRun with
  | nil => exact absurd rfl hne
  | cons c w ih =>
      have hc := hw c (by simp)
      rw [List.cons_append, collapseFrom, hc]
      by_cases hw' : w = []
      · subst hw'
        rfl
      · simp [ih false hw' fun d hd => hw d (by simp [hd])]

theorem collapseFrom_blanks {b : Text} (hb : isBlankText b) (rest : Text) :
    collapseFrom true (b ++ rest) = collapseFrom true rest := by
  induction b with
  | nil => rfl
  | cons c b ih =>
      obtain ⟨hc, hb⟩ := isBlankText_cons.mp hb
      rw [List.cons_append, collapseFrom, if_pos hc, if_pos rfl, ih hb]

theorem collapseFrom_gap {g : Text} (hg : IsGap g) (rest : Text) :
    collapseFrom false (g ++ rest) = ' ' :: collapseFrom true rest := by
  obtain ⟨c, b, rfl⟩ := List.exists_cons_of_ne_nil hg.1
  obtain ⟨hc, hb⟩ := isBlankText_cons.mp hg.2
  rw [List.cons_append, collapseFrom, if_pos hc, if_neg (by simp), collapseFrom_blanks hb]

theorem Phrase.collapseFrom {t : Text} (h : Phrase IsGap t) (inRun : Bool) :
    Phrase IsSpace (collapseFrom inRun t) := by
  induction h generalizing inRun with
  | @word w hw =>
      have hcollapse := collapseFrom_word hw inRun []
      simp only [Text.collapseFrom, List.append_nil] at hcollapse
      rw [hcollapse]
      exact .word hw
  | more hw hg _ ih =>
      rw [collapseFrom_word hw, collapseFrom_gap hg]
      exact .more hw (g := [' ']) rfl (ih true)

theorem Phrase.collapseFrom_eq {t : Text} (h : Phrase IsSpace t) (inRun : Bool) :
    Text.collapseFrom inRun t = t := by
  induction h generalizing inRun with
  | @word w hw =>
      have hcollapse := collapseFrom_word hw inRun []
      simpa [Text.collapseFrom] using hcollapse
  | more hw hg _ ih =>
      rw [collapseFrom_word hw, collapseFrom_gap hg.isGap, ih, hg]
      rfl

theorem Phrase.eq_space {t : Text} (h : Phrase IsSpace t) : ∀ c ∈ t, isBlank c → c = ' ' := by
  have hword {w : Text} (hw : IsWord w) (c : Char) (hc : c ∈ w) (hb : isBlank c) : c = ' ' := by
    simp [hw.2 c hc] at hb
  induction h with
  | word hw => exact hword hw
  | @more w g t hw hg _ ih =>
      intro c hc
      rcases List.mem_append.mp hc with hc | hc
      · exact hword hw c hc
      · rcases List.mem_append.mp hc with hc | hc
        · exact fun _ => List.mem_singleton.mp (hg ▸ hc)
        · exact ih c hc

theorem Phrase.not_two_spaces {t : Text} (h : Phrase IsSpace t) : ¬ [' ', ' '] <:+: t := by
  have hword {w : Text} (hw : IsWord w) : ∀ c ∈ w, c ≠ ' ' := by
    rintro c hc rfl
    exact absurd (hw.2 ' ' hc) (by decide)
  have hchain : t.IsChain fun a b => ¬ (a = ' ' ∧ b = ' ') := by
    induction h with
    | word hw =>
        refine (List.pairwise_of_forall_mem_list fun a ha b _ => ?_).isChain
        exact fun hspaces => hword hw a ha hspaces.1
    | @more w g t hw hg ht ih =>
        obtain rfl : g = [' '] := hg
        obtain ⟨c, s, rfl, hc⟩ := ht.exists_first
        refine List.isChain_append.mpr ⟨?_, List.isChain_cons.mpr ⟨?_, ih⟩, ?_⟩
        · refine (List.pairwise_of_forall_mem_list fun a ha b _ => ?_).isChain
          exact fun hspaces => hword hw a ha hspaces.1
        · rintro b ⟨⟩ ⟨-, rfl⟩
          exact absurd hc (by decide)
        · exact fun a ha b _ hspaces => hword hw a (List.mem_of_getLast? ha) hspaces.1
  exact fun hinfix => by simpa using hchain.infix hinfix

theorem mem_of_mem_collapseFrom {c : Char} {inRun : Bool} {t : Text}
    (h : c ∈ collapseFrom inRun t) : c ∈ t ∨ c = ' ' := by
  induction t generalizing inRun with
  | nil => simp [collapseFrom] at h
  | cons d t ih =>
      unfold collapseFrom at h
      split_ifs at h
      · exact (ih h).imp_left (List.mem_cons_of_mem d)
      · rcases List.mem_cons.mp h with rfl | h
        · exact .inr rfl
        · exact (ih h).imp_left (List.mem_cons_of_mem d)
      · rcases List.mem_cons.mp h with rfl | h
        · exact .inl List.mem_cons_self
        · exact (ih h).imp_left (List.mem_cons_of_mem d)

/-! ### Changed words -/

theorem composed_isWord {w : Text} (hw : IsWord w) : IsWord (composed w) :=
  ⟨composed_ne_nil hw.1, composed_not_blank hw.2⟩

theorem composed_cons_blank {b : Char} (hb : isBlank b) (s t : Text) :
    composed (s ++ b :: t) = composed s ++ (composed [b] ++ composed t) := by
  obtain ⟨d, -, -, hd⟩ := composed_blank hb
  have hsingle : composed [b] = [d] := hd [] []
  rw [hd, hsingle, List.singleton_append]

theorem composed_gap {g : Text} (hg : IsGap g) (s t : Text) :
    composed (s ++ (g ++ t)) = composed s ++ (composed g ++ composed t) := by
  obtain ⟨hne, hg⟩ := hg
  induction g generalizing s with
  | nil => exact absurd rfl hne
  | cons b g ih =>
      obtain ⟨hb, hg⟩ := isBlankText_cons.mp hg
      have hrest : composed (g ++ t) = composed g ++ composed t := by
        by_cases hg' : g = []
        · subst hg'
          rfl
        · exact ih [] hg' hg
      have hsplit : composed (b :: g) = composed [b] ++ composed g := composed_cons_blank hb [] g
      rw [List.cons_append, composed_cons_blank hb, hrest, hsplit, List.append_assoc]

theorem composed_isBlankText {b : Text} (hb : isBlankText b) : isBlankText (composed b) := by
  induction b with
  | nil => rfl
  | cons c b ih =>
      obtain ⟨hc, hb⟩ := isBlankText_cons.mp hb
      obtain ⟨d, hd, -, hcons⟩ := composed_blank hc
      have hcomposed : composed (c :: b) = d :: composed b := hcons [] b
      rw [hcomposed]
      exact isBlankText_cons.mpr ⟨hd, ih hb⟩

theorem composed_isGap {g : Text} (hg : IsGap g) : IsGap (composed g) :=
  ⟨composed_ne_nil hg.1, composed_isBlankText hg.2⟩

theorem composed_isSpace {g : Text} (hg : IsSpace g) : IsSpace (composed g) := by
  subst hg
  obtain ⟨d, -, hspace, hd⟩ := composed_blank (b := ' ') (by decide)
  obtain rfl := hspace rfl
  exact hd [] []

/-- Composing changes the words of a phrase, and its gaps character by character. -/
theorem Phrase.composed {Gap : Text → Prop} (hgap : ∀ g, Gap g → IsGap g)
    (hkept : ∀ g, Gap g → Gap (composed g)) {t : Text} (h : Phrase Gap t) :
    Phrase Gap (composed t) := by
  induction h with
  | word hw => exact .word (composed_isWord hw)
  | more hw hg _ ih =>
      rw [composed_gap (hgap _ hg)]
      exact .more (composed_isWord hw) (hkept _ hg) ih

/-- Making single spaces of the gaps leaves a composed phrase composed. -/
theorem Phrase.composed_collapseFrom {t : Text} (h : Phrase IsGap t) (inRun : Bool) :
    Text.composed (Text.collapseFrom inRun (Text.composed t)) =
      Text.collapseFrom inRun (Text.composed t) := by
  induction h generalizing inRun with
  | @word w hw =>
      have hcollapse := collapseFrom_word (composed_isWord hw) inRun []
      simp only [Text.collapseFrom, List.append_nil] at hcollapse
      rw [hcollapse, composed_composed]
  | @more w g t hw hg _ ih =>
      have hspace : IsSpace [' '] := rfl
      rw [composed_gap hg, collapseFrom_word (composed_isWord hw),
        collapseFrom_gap (composed_isGap hg), ← List.singleton_append,
        composed_gap hspace.isGap, composed_composed, ih, composed_isSpace hspace]

theorem lowerFrom_word {w : Text} (hw : IsWord w) (before rest : Text) :
    ∃ v, IsWord v ∧ lowerFrom before (w ++ rest) = v ++ lowerFrom (w.reverse ++ before) rest := by
  obtain ⟨hne, hw⟩ := hw
  induction w generalizing before with
  | nil => exact absurd rfl hne
  | cons c w ih =>
      obtain ⟨here, heq, hhere, -, -, hblank⟩ := lowerFrom_cons before c (w ++ rest)
      have hfirst : IsWord here := ⟨hhere, hblank (hw c (by simp))⟩
      by_cases hw' : w = []
      · subst hw'
        exact ⟨here, hfirst, heq⟩
      · obtain ⟨v, hv, hrest⟩ := ih (c :: before) hw' fun d hd => hw d (by simp [hd])
        refine ⟨here ++ v, ⟨by simp [hhere], ?_⟩, ?_⟩
        · exact List.forall_mem_append.mpr ⟨hfirst.2, hv.2⟩
        · rw [List.cons_append, heq, hrest]
          simp

theorem Phrase.lowerFrom {t : Text} (h : Phrase IsSpace t) (before : Text) :
    Phrase IsSpace (lowerFrom before t) := by
  induction h generalizing before with
  | @word w hw =>
      obtain ⟨v, hv, heq⟩ := lowerFrom_word hw before []
      simp only [Text.lowerFrom, List.append_nil] at heq
      rw [heq]
      exact .word hv
  | @more w g t hw hg _ ih =>
      obtain ⟨v, hv, heq⟩ := lowerFrom_word hw before (g ++ t)
      have hspace (before : Text) :
          Text.lowerFrom before (g ++ t) = g ++ Text.lowerFrom (' ' :: before) t := by
        obtain ⟨here, hstep, -, -, hkept, -⟩ := lowerFrom_cons before ' ' t
        rw [hg, List.singleton_append, hstep, hkept (not_mem_capitals_of_blank (by decide))]
      rw [heq, hspace]
      exact .more hv hg (ih _)

end FixtureKeywords.Text
