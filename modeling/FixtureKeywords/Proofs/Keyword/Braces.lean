import FixtureKeywords.Keyword.Rule
import FixtureKeywords.Proofs.Keyword.Split
import FixtureKeywords.Proofs.Text.Spelling

/-!
# Modifiers as they are written

The two shapes that the families share, said without the readers: a flag is a
name in braces, an assignment a name, an equals sign and a payload without
braces. Blanks may stand next to each brace and next to the equals sign.

The readers accept exactly these shapes at the start of a text, whatever follows.
A reader for one name refuses a modifier with another name, provided that neither
name begins with the other.
-/
namespace FixtureKeywords.Recogniser
open Text

/-- Only an opening brace starts a fragment. -/
def Braced (recognise : Recogniser) : Prop :=
  ∀ c cs, c ≠ '\x7b' → recognise (c :: cs) = none

theorem dropOpening?_eq_some_iff {name t rest : Text} (hn : IsName name) :
    dropOpening? name t = some rest ↔
      ∃ lead s, isBlankText lead ∧ Reads name s ∧ t = '\x7b' :: (lead ++ (s ++ rest)) :=
  dropChar?_dropWord?_eq_some_iff hn

theorem dropOpening?_eq_none {name other lead s : Text} (ho : IsName other)
    (hs : Reads other s) (hlead : isBlankText lead) (h₁ : ¬ name <+: other)
    (h₂ : ¬ other <+: name) (rest : Text) :
    dropOpening? name ('\x7b' :: (lead ++ (s ++ rest))) = none := by
  have hnone := dropWord?_eq_none hs h₁ h₂ rest
  obtain ⟨c, cs, rfl, hc⟩ := hs.eq_cons ho
  simp only [dropOpening?, dropChar?, if_true, Option.bind_eq_bind, Option.bind_some,
    List.cons_append, dropBlanks_append_cons hlead hc]
  exact hnone

theorem dropOpening?_of_ne {name : Text} {c : Char} (hc : c ≠ '\x7b') (cs : Text) :
    dropOpening? name (c :: cs) = none := by
  simp [dropOpening?, dropChar?, hc]

theorem dropClosing?_eq_some_iff {t rest : Text} :
    dropClosing? t = some rest ↔ ∃ trail, isBlankText trail ∧ t = trail ++ '\x7d' :: rest := by
  constructor
  · intro h
    obtain ⟨trail, htrail, ht⟩ := exists_blanks t
    exact ⟨trail, htrail, by rw [← dropChar?_eq_some_iff.mp h, ← ht]⟩
  · rintro ⟨trail, htrail, rfl⟩
    rw [dropClosing?, dropBlanks_append_cons htrail (by decide)]
    rfl

/-- How a flag is written. -/
inductive IsFlag (name : Text) : Text → Prop
  | intro {lead s trail : Text} : isBlankText lead → Reads name s → isBlankText trail →
      IsFlag name ('\x7b' :: (lead ++ (s ++ (trail ++ ['\x7d']))))

/-- How an assignment of a payload is written. -/
inductive IsAssignment (name payload : Text) : Text → Prop
  | intro {lead s middle : Text} : isBlankText lead → Reads name s → isBlankText middle →
      (∀ c ∈ payload, isBrace c = false) →
      IsAssignment name payload
        ('\x7b' :: (lead ++ (s ++ (middle ++ '=' :: (payload ++ ['\x7d'])))))

theorem flag_eq_some_iff {name t : Text} (hn : IsName name) {f : Fragment} :
    flag name t = some f ↔ ∃ w rest, IsFlag name w ∧ t = w ++ rest ∧ f = ⟨w, []⟩ := by
  constructor
  · intro h
    obtain ⟨inner, hopen, h⟩ := Option.bind_eq_some_iff.mp h
    obtain ⟨rest, hclose, h⟩ := Option.bind_eq_some_iff.mp h
    obtain ⟨lead, s, hlead, hs, rfl⟩ := (dropOpening?_eq_some_iff hn).mp hopen
    obtain ⟨trail, htrail, rfl⟩ := dropClosing?_eq_some_iff.mp hclose
    refine ⟨_, rest, .intro hlead hs htrail, by simp, ?_⟩
    rw [← Fragment.upTo_append _ rest, ← Option.some.inj h]
    simp
  · rintro ⟨w, rest, ⟨hlead, hs, htrail⟩, rfl, rfl⟩
    rw [flag, (dropOpening?_eq_some_iff hn).mpr ⟨_, _, hlead, hs, by simp; rfl⟩]
    simp only [Option.bind_eq_bind, Option.bind_some]
    rw [dropClosing?_eq_some_iff.mpr ⟨_, htrail, rfl⟩]
    simp only [Option.bind_some, Option.some.injEq]
    rw [← Fragment.upTo_append _ rest]

theorem assignment_eq_some_iff {name t : Text} (hn : IsName name) {f : Fragment} :
    assignment name t = some f ↔
      ∃ w payload rest, IsAssignment name payload w ∧ t = w ++ rest ∧ f = ⟨w, payload⟩ := by
  constructor
  · intro h
    obtain ⟨inner, hopen, h⟩ := Option.bind_eq_some_iff.mp h
    obtain ⟨behind, hequals, h⟩ := Option.bind_eq_some_iff.mp h
    obtain ⟨rest, hclose, h⟩ := Option.bind_eq_some_iff.mp h
    obtain ⟨lead, s, hlead, hs, rfl⟩ := (dropOpening?_eq_some_iff hn).mp hopen
    obtain ⟨middle, hmiddle, hinner⟩ := exists_blanks inner
    rw [dropChar?_eq_some_iff] at hequals hclose
    have hbehind : behind = (behind.takeWhile fun c => !isBrace c) ++ '\x7d' :: rest := by
      rw [← hclose, List.takeWhile_append_dropWhile]
    have hpayload : ∀ c ∈ behind.takeWhile fun c => !isBrace c, isBrace c = false := by
      intro c hc
      simpa using List.mem_takeWhile_imp hc
    have ht : '\x7b' :: (lead ++ (s ++ inner)) =
        ('\x7b' :: (lead ++ (s ++ (middle ++ '=' ::
          ((behind.takeWhile fun c => !isBrace c) ++ ['\x7d']))))) ++ rest := by
      rw [hinner, hequals]
      nth_rewrite 1 [hbehind]
      simp
    refine ⟨_, _, rest, .intro hlead hs hmiddle hpayload, ht, ?_⟩
    rw [← Option.some.inj h, ht]
    exact Fragment.upTo_append _ rest _
  · rintro ⟨w, payload, rest, ⟨hlead, hs, hmiddle, hpayload⟩, rfl, rfl⟩
    have hstop : ∀ c ∈ payload, (!isBrace c) = true := by simpa using hpayload
    rw [assignment, (dropOpening?_eq_some_iff hn).mpr ⟨_, _, hlead, hs, by simp; rfl⟩]
    simp only [Option.bind_eq_bind, Option.bind_some]
    rw [dropBlanks_append_cons hmiddle (by decide)]
    simp only [dropChar?, if_true, Option.bind_some]
    rw [List.takeWhile_append_of_pos hstop, List.dropWhile_append_of_pos hstop]
    simp only [List.takeWhile_cons, List.dropWhile_cons, isBrace]
    simp only [beq_self_eq_true, Bool.or_true, Bool.not_true, Bool.false_eq_true, if_false,
      if_true, Option.bind_some, List.append_nil, Option.some.injEq]
    rw [← Fragment.upTo_append _ rest]

/-- A fragment opens with a name: where the name does not stand nothing is found. -/
def Opens (name : Text) (recognise : Recogniser) : Prop :=
  ∀ t, dropOpening? name t = none → recognise t = none

theorem opens_flag (name : Text) : Opens name (flag name) := by
  intro t h
  simp [flag, h]

theorem opens_assignment (name : Text) : Opens name (assignment name) := by
  intro t h
  simp [assignment, h]

theorem Opens.braced {name : Text} {recognise : Recogniser} (h : Opens name recognise) :
    Braced recognise :=
  fun _ cs hc => h _ (dropOpening?_of_ne hc cs)

/-- A text without an opening brace is passed over by a reader of modifiers. -/
theorem Braced.split_append {recognise : Recogniser} (h : Braced recognise) {t : Text}
    (ht : '\x7b' ∉ t) (rest : Text) :
    Piece.split recognise (t ++ rest) = t.map Piece.char ++ Piece.split recognise rest :=
  Piece.split_plain rest fun _ hc cs => h _ cs fun he => ht (he ▸ hc)

/-- A modifier that is not recognised where it opens is passed over too. -/
theorem Braced.split_cons_append {recognise : Recogniser} (h : Braced recognise) {inner : Text}
    (hinner : '\x7b' ∉ inner) {rest : Text}
    (hnone : recognise ('\x7b' :: (inner ++ rest)) = none) :
    Piece.split recognise ('\x7b' :: inner ++ rest) =
      ('\x7b' :: inner).map Piece.char ++ Piece.split recognise rest := by
  rw [List.cons_append, Piece.split_char hnone, h.split_append hinner]
  rfl

theorem Opens.split_append {name other lead s tail : Text} {recognise : Recogniser}
    (h : Opens name recognise) (ho : IsName other) (hs : Reads other s)
    (hlead : isBlankText lead) (h₁ : ¬ name <+: other) (h₂ : ¬ other <+: name)
    (htail : '\x7b' ∉ tail) (rest : Text) :
    Piece.split recognise ('\x7b' :: (lead ++ (s ++ tail)) ++ rest) =
      ('\x7b' :: (lead ++ (s ++ tail))).map Piece.char ++ Piece.split recognise rest := by
  apply h.braced.split_cons_append
  · exact hs.not_mem_append ho hlead (by decide) (by decide) htail
  · refine h _ ?_
    simpa using dropOpening?_eq_none ho hs hlead h₁ h₂ (tail ++ rest)

/-- A text in which a reader of one name finds something does not open with another name. -/
theorem Opens.dropOpening?_eq_none {name other w : Text} {f : Fragment} {recognise : Recogniser}
    (h : Opens other recognise) (ho : IsName other) (h₁ : ¬ name <+: other)
    (h₂ : ¬ other <+: name) (hf : recognise w = some f) (rest : Text) :
    dropOpening? name (w ++ rest) = none := by
  cases hdrop : dropOpening? other w with
  | none => simp [h w hdrop] at hf
  | some behind =>
      obtain ⟨lead, s, hlead, hs, rfl⟩ := (dropOpening?_eq_some_iff ho).mp hdrop
      have hnone := Recogniser.dropOpening?_eq_none ho hs hlead h₁ h₂ (behind ++ rest)
      simpa using hnone

/-- What is found opens with a brace and ends with the next one, which closes it; and it
is found again in a text that holds nothing else. -/
structure Plain (recognise : Recogniser) : Prop where
  braces : ∀ {t : Text} {f : Fragment}, recognise t = some f → ∃ inner rest,
    (∀ c ∈ inner, isBrace c = false) ∧ f.whole = '\x7b' :: (inner ++ ['\x7d']) ∧
      t = f.whole ++ rest
  itself : ∀ {t : Text} {f : Fragment}, recognise t = some f → recognise f.whole = some f

theorem isBrace_eq_false_of_isBlank {c : Char} (h : isBlank c) : isBrace c = false := by
  by_contra hc
  rw [Bool.not_eq_false] at hc
  simp only [isBrace, Bool.or_eq_true, beq_iff_eq] at hc
  rcases hc with rfl | rfl
  · exact absurd h (by decide)
  · exact absurd h (by decide)

theorem isBrace_eq_false_of_isDigit {c : Char} (h : c.isDigit) : isBrace c = false := by
  by_contra hc
  rw [Bool.not_eq_false] at hc
  simp only [isBrace, Bool.or_eq_true, beq_iff_eq] at hc
  rcases hc with rfl | rfl
  · exact absurd h (by decide)
  · exact absurd h (by decide)

theorem isBrace_eq_false_of_reads {name s : Text} (hn : IsName name) (hs : Reads name s) :
    ∀ c ∈ s, isBrace c = false := by
  intro c hc
  by_contra hbrace
  rw [Bool.not_eq_false] at hbrace
  simp only [isBrace, Bool.or_eq_true, beq_iff_eq] at hbrace
  rcases hbrace with rfl | rfl
  · exact hs.not_mem hn (by decide) hc
  · exact hs.not_mem hn (by decide) hc

theorem plain_flag {name : Text} (hn : IsName name) : Plain (flag name) where
  braces := by
    intro t f h
    obtain ⟨w, rest, ⟨hlead, hs, htrail⟩, rfl, rfl⟩ := (flag_eq_some_iff hn).mp h
    rename_i lead s trail
    refine ⟨lead ++ (s ++ trail), rest, ?_, by simp, rfl⟩
    intro c hc
    simp only [List.mem_append] at hc
    rcases hc with hc | hc | hc
    · exact isBrace_eq_false_of_isBlank (isBlank_of_mem hlead c hc)
    · exact isBrace_eq_false_of_reads hn hs c hc
    · exact isBrace_eq_false_of_isBlank (isBlank_of_mem htrail c hc)
  itself := by
    intro t f h
    obtain ⟨w, rest, hw, rfl, rfl⟩ := (flag_eq_some_iff hn).mp h
    exact (flag_eq_some_iff hn).mpr ⟨w, [], hw, by simp, rfl⟩

theorem plain_assignment {name : Text} (hn : IsName name) : Plain (assignment name) where
  braces := by
    intro t f h
    obtain ⟨w, payload, rest, ⟨hlead, hs, hmiddle, hpayload⟩, rfl, rfl⟩ :=
      (assignment_eq_some_iff hn).mp h
    rename_i lead s middle
    refine ⟨lead ++ (s ++ (middle ++ '=' :: payload)), rest, ?_, by simp, rfl⟩
    intro c hc
    simp only [List.mem_append, List.mem_cons] at hc
    rcases hc with hc | hc | hc | rfl | hc
    · exact isBrace_eq_false_of_isBlank (isBlank_of_mem hlead c hc)
    · exact isBrace_eq_false_of_reads hn hs c hc
    · exact isBrace_eq_false_of_isBlank (isBlank_of_mem hmiddle c hc)
    · decide
    · exact hpayload c hc
  itself := by
    intro t f h
    obtain ⟨w, payload, rest, hw, rfl, rfl⟩ := (assignment_eq_some_iff hn).mp h
    exact (assignment_eq_some_iff hn).mpr ⟨w, payload, [], hw, by simp, rfl⟩

theorem Plain.sound {recognise : Recogniser} (h : Plain recognise) : recognise.Sound := by
  intro t f hf
  obtain ⟨inner, rest, -, hwhole, ht⟩ := h.braces hf
  exact ⟨by simp [hwhole], rest, ht⟩

theorem Plain.braced {recognise : Recogniser} (h : Plain recognise) : Braced recognise := by
  intro c cs hc
  by_contra hne
  obtain ⟨f, hf⟩ := Option.ne_none_iff_exists'.mp hne
  obtain ⟨inner, rest, -, hwhole, ht⟩ := h.braces hf
  rw [hwhole] at ht
  exact hc (List.cons.inj ht).1

theorem Plain.count {recognise : Recogniser} (h : Plain recognise) {t : Text} {f : Fragment}
    (hf : recognise t = some f) {c : Char} (hc : isBrace c) : f.whole.count c = 1 := by
  obtain ⟨inner, rest, hinner, hwhole, -⟩ := h.braces hf
  have hnone : inner.count c = 0 := by
    apply List.count_eq_zero.mpr
    intro hmem
    simp [hinner c hmem] at hc
  simp only [isBrace, Bool.or_eq_true, beq_iff_eq] at hc
  rcases hc with rfl | rfl
  · simp [hwhole, hnone]
  · simp [hwhole, hnone]

end FixtureKeywords.Recogniser
