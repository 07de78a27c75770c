import FixtureKeywords.Proofs.Keyword.Conservation
import FixtureKeywords.Proofs.Keyword.Tiling
import FixtureKeywords.Proofs.Strings.Elimination

/-!
# Flat keywords

A keyword is flat if nothing but blanks and complete modifiers of its family stand
between the name and the last bracket, one behind the other.

The braces of such a text come in pairs, each one closed before the next one opens, once
the payloads of additions are left out. An addition may take up modifiers that stand
behind it, since it runs to the last closing before the next opener. But it ends where a
modifier ends, and what follows is a sequence again.
-/
namespace FixtureKeywords
open Text Recogniser StringModifier

namespace Family
variable {family : Family}

/-- The readers of the modifiers of a family. -/
def recognisers : Family → List Recogniser
  | string => StringModifier.rules.map Rule.recognise
  | integer => IntegerModifier.rules.map Rule.recognise
  | datetime => TemporalModifier.recognisers

/-- A complete modifier: one of the readers takes all of the text. -/
def IsModifier (family : Family) (w : Text) : Prop :=
  ∃ recognise ∈ family.recognisers, ∃ payload, recognise w = some ⟨w, payload⟩

inductive IsSequence (family : Family) : Text → Prop
  | blank {b : Text} : isBlankText b → IsSequence family b
  | modifier {b w rest : Text} : isBlankText b → family.IsModifier w → IsSequence family rest →
      IsSequence family (b ++ (w ++ rest))

inductive IsFlat (family : Family) : Text → Prop
  | intro {lead s body : Text} : isBlankText lead → Reads family.name.toList s →
      family.IsSequence body → IsFlat family ('[' :: ((lead ++ (s ++ body)) ++ [']']))

/-- The reader of the modifiers whose payload may hold braces. -/
def additions : Family → Recogniser
  | string => recogniseAddition
  | _ => fun _ => none

/-- The braces of a text without those in the payloads of additions. -/
def braces (family : Family) (t : Text) : Text :=
  Piece.marks (Piece.split family.additions t)

theorem IsSequence.pad {b rest : Text} (hb : isBlankText b) (h : family.IsSequence rest) :
    family.IsSequence (b ++ rest) := by
  cases h with
  | blank hrest => exact .blank (isBlankText_append.mpr ⟨hb, hrest⟩)
  | modifier hlead hw hrest =>
      rw [← List.append_assoc]
      exact .modifier (isBlankText_append.mpr ⟨hb, hlead⟩) hw hrest

theorem braced_additions (family : Family) : Braced family.additions := by
  cases family with
  | string => exact braced_recogniseAddition
  | integer => exact fun _ _ _ => rfl
  | datetime => exact fun _ _ _ => rfl

/-- A modifier is an addition, or it is plain and opens no addition, whatever follows. -/
theorem isModifier_cases {w : Text} (h : family.IsModifier w) :
    (family = .string ∧ ∃ characters, IsAddition characters w ∧ ¬ HoldsOpener characters) ∨
    ((∃ inner, (∀ c ∈ inner, isBrace c = false) ∧ w = '\x7b' :: (inner ++ ['\x7d'])) ∧
      (family = .string → ∀ rest, dropOpener? (w ++ rest) = none)) := by
  obtain ⟨recognise, hmem, payload, hw⟩ := h
  have hplain (hrecognise : Plain recognise) :
      ∃ inner, (∀ c ∈ inner, isBrace c = false) ∧ w = '\x7b' :: (inner ++ ['\x7d']) := by
    obtain ⟨inner, -, hinner, hwhole, -⟩ := hrecognise.braces hw
    exact ⟨inner, hinner, hwhole⟩
  cases family with
  | integer =>
      obtain ⟨rule, hrule, rfl⟩ := List.mem_map.mp hmem
      exact .inr ⟨hplain (IntegerModifier.plain_of_mem hrule), by simp⟩
  | datetime => exact .inr ⟨hplain (TemporalModifier.plain_of_mem_recognisers hmem), by simp⟩
  | string =>
      obtain ⟨rule, hrule, rfl⟩ := List.mem_map.mp hmem
      by_cases hname : rule.name = "include"
      · left
        have heq : rule.recognise = recogniseAddition := by
          simp only [StringModifier.rules, List.mem_append, List.mem_cons, List.mem_map,
            List.not_mem_nil, or_false] at hrule
          rcases hrule with (rfl | rfl) | ⟨chosen, -, rfl⟩
          · rfl
          · exact absurd hname (by decide)
          · exact absurd hname (by cases chosen <;> decide)
        rw [heq] at hw
        obtain ⟨v, characters, rest, hv, hc, -, -, hfragment⟩ := recogniseAddition_eq_some_iff.mp hw
        obtain ⟨rfl, -⟩ := Fragment.mk.inj hfragment
        exact ⟨rfl, characters, hv, hc⟩
      · right
        refine ⟨hplain (StringModifier.plain_of_mem hrule hname), fun _ rest => ?_⟩
        have hknown : rule.name ∈ StringModifier.rules.map Rule.name := List.mem_map_of_mem hrule
        have hnone := (opens_of_mem hrule).dropOpening?_eq_none (isName_of_mem hknown)
          (not_prefix_of_ne List.mem_cons_self hknown (Ne.symm hname))
          (not_prefix_of_ne hknown List.mem_cons_self hname) hw rest
        unfold dropOpener?
        rw [hnone]
        rfl

theorem additions_eq_none {w : Text}
    (h : family = .string → ∀ rest, dropOpener? (w ++ rest) = none) (rest : Text) :
    family.additions (w ++ rest) = none := by
  cases family with
  | string => exact recogniseAddition_eq_none (h rfl rest)
  | integer => rfl
  | datetime => rfl

theorem braces_append {t : Text} (ht : ∀ c ∈ t, isBrace c = false) (rest : Text) :
    family.braces (t ++ rest) = family.braces rest := by
  unfold braces
  rw [family.braced_additions.split_append fun hmem => absurd (ht _ hmem) (by decide),
    Piece.marks_append, Piece.marks_map_char_of_forall ht, List.nil_append]

theorem isBrace_of_isBlankText {b : Text} (hb : isBlankText b) : ∀ c ∈ b, isBrace c = false :=
  fun c hc => isBrace_eq_false_of_isBlank (isBlank_of_mem hb c hc)

/-- Before the next opener only modifiers close, and behind each of them the sequence
goes on. -/
theorem IsSequence.exists_of_beforeOpener {body p q : Text} (h : IsSequence .string body)
    (hcut : beforeOpener (body ++ [']']) = p ++ '\x7d' :: q) :
    ∃ rest, IsSequence .string rest ∧ body ++ [']'] = p ++ '\x7d' :: (rest ++ [']']) := by
  induction h generalizing p with
  | blank hb =>
      have hclosing : '\x7d' ∉ _ := not_mem_of_isBlankText hb (by decide)
      have hopening : '\x7b' ∉ _ := not_mem_of_isBlankText hb (by decide)
      have hmem : '\x7d' ∈ p ++ '\x7d' :: q := by simp
      rw [← hcut, beforeOpener_plain hopening] at hmem
      simp [hclosing, beforeOpener, dropOpener?_of_ne (show ']' ≠ '\x7b' by decide)] at hmem
  | @modifier b w rest hb hw hrest ih =>
      have hclosing : '\x7d' ∉ b := not_mem_of_isBlankText hb (by decide)
      have hopening : '\x7b' ∉ b := not_mem_of_isBlankText hb (by decide)
      rw [List.append_assoc, List.append_assoc, beforeOpener_plain hopening] at hcut
      rcases isModifier_cases hw with ⟨-, characters, ⟨ho, -, -⟩, -⟩ | ⟨⟨inner, hinner, rfl⟩, hnone⟩
      · have hmem : '\x7d' ∈ p ++ '\x7d' :: q := by simp
        rw [← hcut, List.append_assoc, beforeOpener_opener ho, List.append_nil] at hmem
        exact absurd hmem hclosing
      · have hfront : '\x7b' ∉ inner ++ ['\x7d'] := by
          rw [List.mem_append, not_or]
          exact ⟨fun hmem => absurd (hinner _ hmem) (by decide), by decide⟩
        have hinside : '\x7d' ∉ b ++ '\x7b' :: inner := by
          rw [List.mem_append, List.mem_cons, not_or, not_or]
          exact ⟨hclosing, by decide, fun hmem => absurd (hinner _ hmem) (by decide)⟩
        rw [List.cons_append, beforeOpener, ← List.cons_append, hnone rfl,
          beforeOpener_plain hfront] at hcut
        have htext : (b ++ '\x7b' :: inner) ++ '\x7d' :: beforeOpener (rest ++ [']']) =
            p ++ '\x7d' :: q := by
          rw [← hcut]
          simp
        rcases List.append_eq_append_iff.mp htext with ⟨a, rfl, ha⟩ | ⟨a, ha, ha'⟩
        · cases a with
          | nil => exact ⟨rest, hrest, by simp⟩
          | cons c cs =>
              obtain ⟨rfl, hlater⟩ := List.cons.inj ha
              obtain ⟨later, hsequence, heq⟩ := ih hlater
              refine ⟨later, hsequence, ?_⟩
              simp only [List.append_assoc, List.cons_append, List.nil_append, heq]
        · cases a with
          | nil => exact ⟨rest, hrest, by rw [List.append_nil] at ha; simp [← ha]⟩
          | cons c cs =>
              obtain ⟨rfl, -⟩ := List.cons.inj ha'
              exact absurd (by rw [ha]; simp) hinside

end Family

/-- Pairs of braces one behind the other. -/
inductive Paired : Text → Prop
  | nil : Paired []
  | cons {bs : Text} : Paired bs → Paired ('\x7b' :: '\x7d' :: bs)

theorem Paired.not_nests {bs : Text} (h : Paired bs) : ¬ Piece.Nests bs := by
  unfold Piece.Nests
  induction h with
  | nil => simp
  | cons _ ih =>
      rw [List.infix_cons_iff, List.infix_cons_iff]
      simp [ih]

namespace Family
variable {family : Family}

/-- What an addition takes up of a sequence behind it ends where a modifier ends. -/
theorem IsSequence.exists_after_addition {characters w rest : Text}
    (h : IsSequence .string rest) (hw : IsAddition characters w) (hc : ¬ HoldsOpener characters) :
    ∃ more later payload, rest ++ [']'] = more ++ (later ++ [']']) ∧ IsSequence .string later ∧
      recogniseAddition (w ++ (rest ++ [']'])) = some ⟨w ++ more, payload⟩ := by
  obtain ⟨more, behind, payload, hcut, hfound, hmore⟩ :=
    exists_recogniseAddition hw hc (rest ++ [']'])
  rcases hmore with rfl | ⟨inner, after, rfl, hbefore⟩
  · exact ⟨[], rest, payload, rfl, h, hfound⟩
  · rw [List.append_assoc] at hbefore
    obtain ⟨later, hlater, heq⟩ := h.exists_of_beforeOpener hbefore
    have hbehind : behind = later ++ [']'] := by
      rw [hcut, List.append_assoc] at heq
      exact (List.cons.inj (List.append_cancel_left heq)).2
    exact ⟨_, later, payload, hbehind ▸ hcut, hlater, hfound⟩

theorem IsSequence.paired {body : Text} (h : family.IsSequence body) :
    Paired (family.braces (body ++ [']'])) := by
  induction hlength : body.length using Nat.strong_induction_on generalizing body with
  | _ n ih =>
  cases h with
  | blank hb =>
      rw [braces_append (isBrace_of_isBlankText hb)]
      unfold braces
      rw [Piece.split_char (family.braced_additions _ _ (by decide))]
      exact .nil
  | @modifier b w rest hb hw hrest =>
      rw [List.append_assoc, List.append_assoc, braces_append (isBrace_of_isBlankText hb)]
      rcases isModifier_cases hw with ⟨rfl, characters, hw, hc⟩ | ⟨⟨inner, hinner, rfl⟩, hnone⟩
      · obtain ⟨more, later, payload, hcut, hlater, hfound⟩ := hrest.exists_after_addition hw hc
        have hne : w ≠ [] := by
          obtain ⟨⟨-, -, -⟩, -, -⟩ := hw
          simp
        have hshorter : later.length < n := by
          have hwritten := congrArg List.length hcut
          have hpositive := List.length_pos_iff.mpr hne
          simp only [List.length_append, List.length_cons, List.length_nil] at hwritten hlength
          omega
        rw [hcut, ← List.append_assoc] at hfound ⊢
        have hsplit : Piece.split (additions .string) _ = _ :=
          Piece.split_fragment (f := ⟨w ++ more, payload⟩) hfound (by simp [hne])
        unfold braces
        rw [hsplit, Piece.marks_fragment]
        exact .cons (ih _ hshorter hlater rfl)
      · have hopening : '\x7b' ∉ inner ++ ['\x7d'] := by
          rw [List.mem_append, not_or]
          exact ⟨fun hmem => absurd (hinner _ hmem) (by decide), by decide⟩
        have hshorter : rest.length < n := by
          simp only [List.length_append, List.length_cons] at hlength
          omega
        unfold braces
        rw [family.braced_additions.split_cons_append hopening (additions_eq_none hnone _),
          Piece.marks_append, Piece.marks_plain hinner]
        exact .cons (ih _ hshorter hrest rfl)

theorem IsFlat.not_nests {t : Text} (h : family.IsFlat t) : ¬ Piece.Nests (family.braces t) := by
  obtain ⟨hlead, hs, hbody⟩ := h
  rename_i lead s body
  have hfront : ∀ c ∈ '[' :: (lead ++ s), isBrace c = false := by
    intro c hc
    rw [List.mem_cons, List.mem_append] at hc
    rcases hc with rfl | hc | hc
    · decide
    · exact isBrace_eq_false_of_isBlank (isBlank_of_mem hlead c hc)
    · exact isBrace_eq_false_of_reads family.isName_name hs c hc
  have htext : '[' :: ((lead ++ (s ++ body)) ++ [']']) =
      ('[' :: (lead ++ s)) ++ (body ++ [']']) := by
    simp
  rw [htext, braces_append hfront]
  exact hbody.paired.not_nests

end Family

end FixtureKeywords
