import FixtureKeywords.Proofs.Keyword.Braces
import FixtureKeywords.Strings.Modifier

/-!
# Additions as they are written

An addition is an opener, a payload between brackets, and a closing brace. The
payload is not delimited by its own text: it runs to the last closing before the
next opener. So two facts decide whether a payload is read back as it was
written. It must not hold an opener itself, and no closing may follow before the
next opener. An opener cannot begin in the payload and end behind it, since the
closing bracket belongs to no opener.
-/
namespace FixtureKeywords.StringModifier
open Text Recogniser

theorem isName_include : IsName "include".toList := by decide

/-- How an addition opens, up to its equals sign. -/
inductive IsOpener : Text → Prop
  | intro {lead s middle : Text} : isBlankText lead → Reads "include".toList s →
      isBlankText middle → IsOpener ('\x7b' :: (lead ++ (s ++ (middle ++ ['=']))))

def HoldsOpener (t : Text) : Prop :=
  ∃ before opener after, IsOpener opener ∧ t = before ++ (opener ++ after)

theorem HoldsOpener.cons {t : Text} (h : HoldsOpener t) (c : Char) : HoldsOpener (c :: t) := by
  obtain ⟨before, opener, after, ho, rfl⟩ := h
  exact ⟨c :: before, opener, after, ho, rfl⟩

theorem dropOpener?_eq_some_iff {t rest : Text} :
    dropOpener? t = some rest ↔ ∃ opener, IsOpener opener ∧ t = opener ++ rest := by
  constructor
  · intro h
    obtain ⟨inner, hopen, hequals⟩ := Option.bind_eq_some_iff.mp h
    obtain ⟨lead, s, hlead, hs, rfl⟩ := (dropOpening?_eq_some_iff isName_include).mp hopen
    obtain ⟨middle, hmiddle, hinner⟩ := exists_blanks inner
    refine ⟨_, .intro hlead hs hmiddle, ?_⟩
    rw [hinner, dropChar?_eq_some_iff.mp hequals]
    simp
  · rintro ⟨opener, ⟨hlead, hs, hmiddle⟩, rfl⟩
    rw [dropOpener?, (dropOpening?_eq_some_iff isName_include).mpr ⟨_, _, hlead, hs, by simp; rfl⟩]
    simp only [Option.bind_eq_bind, Option.bind_some]
    rw [dropBlanks_append_cons hmiddle (by decide)]
    rfl

theorem dropOpener?_of_ne {c : Char} (hc : c ≠ '\x7b') (cs : Text) :
    dropOpener? (c :: cs) = none := by
  simp [dropOpener?, dropOpening?_of_ne hc]

theorem IsOpener.not_mem {opener : Text} (h : IsOpener opener) : ']' ∉ opener := by
  obtain ⟨hlead, hs, hmiddle⟩ := h
  rename_i lead s middle
  have hl : ']' ∉ lead := not_mem_of_isBlankText hlead (by decide)
  have hm : ']' ∉ middle := not_mem_of_isBlankText hmiddle (by decide)
  have hmem : ']' ∉ s := by
    intro h
    have := List.mem_map_of_mem (f := letterKey) h
    rw [hs] at this
    exact absurd this (by decide)
  simp [hl, hm, hmem]

/-- No opener begins in a payload that holds none, whatever follows its bracket. -/
theorem dropOpener?_payload {s rest : Text} (hs : ¬ HoldsOpener s) :
    dropOpener? (s ++ ']' :: rest) = none := by
  by_contra hne
  obtain ⟨behind, hbehind⟩ := Option.ne_none_iff_exists'.mp hne
  obtain ⟨opener, ho, heq⟩ := dropOpener?_eq_some_iff.mp hbehind
  rcases List.append_eq_append_iff.mp heq with ⟨a, rfl, ha⟩ | ⟨a, rfl, -⟩
  · cases a with
    | nil => exact hs ⟨[], s, [], by simpa using ho, by simp⟩
    | cons d ds =>
        have hd : d = ']' := (List.cons.inj ha).1.symm
        exact ho.not_mem (by simp [hd])
  · exact hs ⟨[], opener, a, ho, rfl⟩

theorem beforeOpener_payload {payload : Text} (h : ¬ HoldsOpener payload) (rest : Text) :
    beforeOpener (payload ++ ']' :: rest) = payload ++ ']' :: beforeOpener rest := by
  induction payload with
  | nil => simp [beforeOpener, dropOpener?_of_ne (show ']' ≠ '\x7b' by decide)]
  | cons c cs ih =>
      have hnone : dropOpener? (c :: (cs ++ ']' :: rest)) = none := dropOpener?_payload h
      rw [List.cons_append, beforeOpener, hnone, ih fun hcs => h (hcs.cons c)]
      rfl

theorem beforeOpener_plain {t : Text} (h : '\x7b' ∉ t) (rest : Text) :
    beforeOpener (t ++ rest) = t ++ beforeOpener rest := by
  induction t with
  | nil => rfl
  | cons c cs ih =>
      rw [List.mem_cons, not_or] at h
      rw [List.cons_append, beforeOpener, dropOpener?_of_ne (Ne.symm h.1), ih h.2]
      rfl

theorem beforeOpener_opener {opener : Text} (h : IsOpener opener) (rest : Text) :
    beforeOpener (opener ++ rest) = [] := by
  have hsome : dropOpener? (opener ++ rest) = some rest :=
    dropOpener?_eq_some_iff.mpr ⟨opener, h, rfl⟩
  cases h
  rw [List.cons_append] at hsome ⊢
  simp only [beforeOpener, hsome, Option.isSome_some, if_true]

/-- No opener stands in a text exactly if all of it stands before the first one. -/
theorem beforeOpener_eq_self_iff {t : Text} : beforeOpener t = t ↔ ¬ HoldsOpener t := by
  induction t with
  | nil =>
      refine iff_of_true rfl ?_
      rintro ⟨before, opener, after, ⟨-, -, -⟩, heq⟩
      simp at heq
  | cons c cs ih =>
      by_cases hsome : (dropOpener? (c :: cs)).isSome
      · obtain ⟨rest, hrest⟩ := Option.isSome_iff_exists.mp hsome
        obtain ⟨opener, ho, heq⟩ := dropOpener?_eq_some_iff.mp hrest
        refine iff_of_false (by simp [beforeOpener, hsome]) ?_
        rw [heq]
        exact fun h => h ⟨[], opener, rest, ho, rfl⟩
      · simp only [beforeOpener, hsome, Bool.false_eq_true, if_false, List.cons.injEq, true_and, ih]
        refine not_congr ⟨fun h => h.cons c, ?_⟩
        rintro ⟨before, opener, after, ho, heq⟩
        cases before with
        | nil =>
            have := dropOpener?_eq_some_iff.mpr ⟨opener, ho, heq⟩
            simp [this] at hsome
        | cons d ds => exact ⟨ds, opener, after, ho, (List.cons.inj heq).2⟩

instance (t : Text) : Decidable (HoldsOpener t) :=
  decidable_of_iff (beforeOpener t ≠ t) (by rw [Ne, beforeOpener_eq_self_iff, not_not])

/-- There is no last closing exactly if no bracket has blanks and a brace behind it. -/
theorem atLastClosing?_eq_none_iff {t : Text} :
    atLastClosing? t = none ↔
      ∀ before behind, t = before ++ ']' :: behind → dropClosing? behind = none := by
  induction t with
  | nil => simp [atLastClosing?]
  | cons c cs ih =>
      constructor
      · intro h before behind heq
        cases hcs : atLastClosing? cs with
        | some split => simp [atLastClosing?, hcs] at h
        | none =>
            cases before with
            | cons d ds => exact ih.mp hcs ds behind (List.cons.inj heq).2
            | nil =>
                obtain ⟨rfl, rfl⟩ := List.cons.inj heq
                simpa [atLastClosing?, hcs] using h
      · intro h
        have hcs : atLastClosing? cs = none :=
          ih.mpr fun before behind heq => h (c :: before) behind (by rw [heq]; rfl)
        by_cases hc : c = ']'
        · simp [atLastClosing?, hcs, hc, h [] cs (by rw [hc]; rfl)]
        · simp [atLastClosing?, hcs, hc]

theorem atLastClosing?_append {payload trail after : Text} (htrail : isBlankText trail)
    (hafter : atLastClosing? after = none) :
    atLastClosing? (payload ++ ']' :: (trail ++ '\x7d' :: after)) = some (payload, after) := by
  have hbehind : atLastClosing? (trail ++ '\x7d' :: after) = none := by
    rw [atLastClosing?_eq_none_iff] at hafter ⊢
    intro before behind heq
    have hmem : ']' ∉ trail ++ ['\x7d'] := by
      simp [not_mem_of_isBlankText htrail (show isBlank ']' = false by decide)]
    rw [show trail ++ '\x7d' :: after = (trail ++ ['\x7d']) ++ after by simp] at heq
    rcases List.append_eq_append_iff.mp heq with ⟨a, rfl, ha⟩ | ⟨a, ha, ha'⟩
    · exact hafter a behind ha
    · cases a with
      | nil => exact hafter [] behind (by simpa using ha'.symm)
      | cons d ds =>
          have hd : d = ']' := (List.cons.inj ha').1.symm
          exact absurd (by rw [ha, hd]; simp) hmem
  induction payload with
  | nil =>
      have hclose : dropClosing? (trail ++ '\x7d' :: after) = some after :=
        dropClosing?_eq_some_iff.mpr ⟨trail, htrail, rfl⟩
      simp [atLastClosing?, hbehind, hclose]
  | cons c cs ih => simp [atLastClosing?, ih]

theorem recogniseAddition_eq_none {t : Text} (h : dropOpener? t = none) :
    recogniseAddition t = none := by
  simp [recogniseAddition, h]

theorem braced_recogniseAddition : Braced recogniseAddition := by
  intro c cs hc
  exact recogniseAddition_eq_none (dropOpener?_of_ne hc cs)

/-- How an addition of characters is written. -/
inductive IsAddition (characters : Text) : Text → Prop
  | intro {opener gap trail : Text} : IsOpener opener → isBlankText gap → isBlankText trail →
      IsAddition characters (opener ++ (gap ++ '[' :: (characters ++ ']' :: (trail ++ ['\x7d']))))

theorem beforeOpener_trail {trail : Text} (h : isBlankText trail) (rest : Text) :
    beforeOpener (trail ++ '\x7d' :: rest) = trail ++ '\x7d' :: beforeOpener rest := by
  have hplain : '\x7b' ∉ trail ++ ['\x7d'] := by
    simp [not_mem_of_isBlankText h (show isBlank '\x7b' = false by decide)]
  simpa using beforeOpener_plain hplain rest

/-- No opener begins in a payload that holds none, and none in its closing. -/
theorem beforeOpener_closing {characters trail : Text} (hc : ¬ HoldsOpener characters)
    (htrail : isBlankText trail) (rest : Text) :
    beforeOpener (characters ++ ']' :: (trail ++ '\x7d' :: rest)) =
      characters ++ ']' :: (trail ++ '\x7d' :: beforeOpener rest) := by
  rw [beforeOpener_payload hc, beforeOpener_trail htrail]

/-- An addition is recognised with the payload that was written, if that holds no
opener and nothing closes between the addition and the next opener. -/
theorem recogniseAddition_append {characters w rest : Text} (h : IsAddition characters w)
    (hc : ¬ HoldsOpener characters) (hrest : atLastClosing? (beforeOpener rest) = none) :
    recogniseAddition (w ++ rest) = some ⟨w, characters⟩ := by
  obtain ⟨ho, hgap, htrail⟩ := h
  rename_i opener gap trail
  have htext : (opener ++ (gap ++ '[' :: (characters ++ ']' :: (trail ++ ['\x7d'])))) ++ rest =
      opener ++ (gap ++ '[' :: (characters ++ ']' :: (trail ++ '\x7d' :: rest))) := by
    simp
  have hwindow := beforeOpener_closing hc htrail rest
  have hdrop : (characters ++ ']' :: (trail ++ '\x7d' :: rest)).drop
      ((characters ++ ']' :: (trail ++ '\x7d' :: beforeOpener rest)).length -
        (beforeOpener rest).length) = rest := by
    have hlen : (characters ++ ']' :: (trail ++ '\x7d' :: beforeOpener rest)).length -
        (beforeOpener rest).length = (characters ++ ']' :: (trail ++ ['\x7d'])).length := by
      simp only [List.length_append, List.length_cons, List.length_nil]
      omega
    rw [hlen, show characters ++ ']' :: (trail ++ '\x7d' :: rest) =
      (characters ++ ']' :: (trail ++ ['\x7d'])) ++ rest by simp, List.drop_left]
  rw [recogniseAddition, htext, dropOpener?_eq_some_iff.mpr ⟨opener, ho, rfl⟩]
  simp only [Option.bind_eq_bind, Option.bind_some]
  rw [dropBlanks_append_cons hgap (by decide)]
  simp only [dropChar?, if_true, Option.bind_some, hwindow, atLastClosing?_append htrail hrest,
    hdrop, Option.some.injEq]
  rw [← htext]
  exact Fragment.upTo_append _ rest _

theorem readAddition_eq_ok {f : Fragment} {m : StringModifier} :
    readAddition f = .ok m ↔ f.payload ≠ [] ∧ m = .addition f.payload := by
  unfold readAddition
  split_ifs with hempty
  · simp [List.isEmpty_iff.mp hempty]
  · have hne : f.payload ≠ [] := by simpa using hempty
    simp [hne, eq_comm]

theorem IsOpener.exists_eq_cons {opener : Text} (h : IsOpener opener) :
    ∃ inner, opener = '\x7b' :: inner ∧ ∀ c ∈ inner, isBrace c = false := by
  obtain ⟨hlead, hs, hmiddle⟩ := h
  rename_i lead s middle
  refine ⟨_, rfl, ?_⟩
  intro c hc
  simp only [List.mem_append, List.mem_singleton] at hc
  rcases hc with hc | hc | hc | rfl
  · exact isBrace_eq_false_of_isBlank (isBlank_of_mem hlead c hc)
  · exact isBrace_eq_false_of_reads isName_include hs c hc
  · exact isBrace_eq_false_of_isBlank (isBlank_of_mem hmiddle c hc)
  · decide

theorem IsAddition.count {characters w : Text} (h : IsAddition characters w) {c : Char}
    (hc : isBrace c) : w.count c = 1 + characters.count c := by
  obtain ⟨ho, hgap, htrail⟩ := h
  obtain ⟨inner, rfl, hinner⟩ := ho.exists_eq_cons
  have hnone {t : Text} (ht : ∀ d ∈ t, isBrace d = false) : t.count c = 0 := by
    apply List.count_eq_zero.mpr
    intro hmem
    simp [ht c hmem] at hc
  have hblank {b : Text} (hb : isBlankText b) : b.count c = 0 :=
    hnone fun d hd => isBrace_eq_false_of_isBlank (isBlank_of_mem hb d hd)
  simp only [isBrace, Bool.or_eq_true, beq_iff_eq] at hc
  rcases hc with rfl | rfl
  · simp [hnone hinner, hblank hgap, hblank htrail]
    omega
  · simp [hnone hinner, hblank hgap, hblank htrail]
    omega

/-- What follows the front part of a text is cut off at the same opener as the text. -/
theorem beforeOpener_of_append {p q t : Text} (h : beforeOpener t = p ++ q) :
    ∃ rest, t = p ++ rest ∧ beforeOpener rest = q := by
  induction p generalizing t with
  | nil => exact ⟨t, rfl, h⟩
  | cons c cs ih =>
      cases t with
      | nil => simp [beforeOpener] at h
      | cons d ds =>
          unfold beforeOpener at h
          split_ifs at h
          · simp at h
          · obtain ⟨rfl, hds⟩ := List.cons.inj h
            obtain ⟨rest, rfl, hrest⟩ := ih hds
            exact ⟨rest, rfl, hrest⟩

theorem not_holdsOpener_of_append {p q t : Text} (h : beforeOpener t = p ++ q) :
    ¬ HoldsOpener p := by
  rintro ⟨front, opener, tail, ho, rfl⟩
  rw [List.append_assoc] at h
  obtain ⟨left, -, hleft⟩ := beforeOpener_of_append h
  rw [List.append_assoc] at hleft
  obtain ⟨right, rfl, -⟩ := beforeOpener_of_append hleft
  rw [beforeOpener_opener ho] at hleft
  obtain ⟨inner, rfl, -⟩ := ho.exists_eq_cons
  simp at hleft

/-- The last closing of a text: a bracket, blanks and a brace, and no closing behind. -/
theorem eq_of_atLastClosing? {t before after : Text} (h : atLastClosing? t = some (before, after)) :
    ∃ trail, isBlankText trail ∧ t = before ++ ']' :: (trail ++ '\x7d' :: after) ∧
      atLastClosing? after = none := by
  induction t generalizing before with
  | nil => simp [atLastClosing?] at h
  | cons c cs ih =>
      unfold atLastClosing? at h
      split at h
      next b a hcs =>
        obtain ⟨rfl, rfl⟩ := Prod.mk.inj (Option.some.inj h)
        obtain ⟨trail, htrail, rfl, hafter⟩ := ih hcs
        exact ⟨trail, htrail, rfl, hafter⟩
      next hcs =>
        split_ifs at h with hc
        obtain ⟨a, hclose, hpair⟩ := Option.map_eq_some_iff.mp h
        obtain ⟨rfl, rfl⟩ := Prod.mk.inj hpair
        obtain ⟨trail, htrail, rfl⟩ := dropClosing?_eq_some_iff.mp hclose
        refine ⟨trail, htrail, by rw [hc]; rfl, ?_⟩
        rw [atLastClosing?_eq_none_iff] at hcs ⊢
        intro front behind heq
        exact hcs (trail ++ '\x7d' :: front) behind (by rw [heq]; simp)

/-- An addition is recognised exactly where one is written whose payload holds no opener
and behind which nothing closes before the next opener. -/
theorem recogniseAddition_eq_some_iff {t : Text} {f : Fragment} :
    recogniseAddition t = some f ↔ ∃ w characters rest, IsAddition characters w ∧
      ¬ HoldsOpener characters ∧ atLastClosing? (beforeOpener rest) = none ∧
      t = w ++ rest ∧ f = ⟨w, characters⟩ := by
  constructor
  · intro h
    obtain ⟨behind, hopener, h⟩ := Option.bind_eq_some_iff.mp h
    obtain ⟨inner, hbracket, h⟩ := Option.bind_eq_some_iff.mp h
    obtain ⟨⟨characters, after⟩, hclosing, h⟩ := Option.bind_eq_some_iff.mp h
    obtain ⟨opener, ho, rfl⟩ := dropOpener?_eq_some_iff.mp hopener
    obtain ⟨gap, hgap, hbehind⟩ := exists_blanks behind
    rw [dropChar?_eq_some_iff.mp hbracket] at hbehind
    obtain ⟨trail, htrail, hwindow, hafter⟩ := eq_of_atLastClosing? hclosing
    have hcut : beforeOpener inner = (characters ++ ']' :: (trail ++ ['\x7d'])) ++ after := by
      rw [hwindow]
      simp
    obtain ⟨rest, hinner, hrest⟩ := beforeOpener_of_append hcut
    have hdrop : inner.drop ((beforeOpener inner).length - after.length) = rest := by
      rw [hcut, List.length_append, Nat.add_sub_cancel]
      nth_rewrite 1 [hinner]
      exact List.drop_left
    have htext : opener ++ behind =
        (opener ++ (gap ++ '[' :: (characters ++ ']' :: (trail ++ ['\x7d'])))) ++ rest := by
      rw [hbehind, hinner]
      simp
    refine ⟨_, characters, rest, .intro ho hgap htrail, not_holdsOpener_of_append hwindow,
      hrest ▸ hafter, htext, ?_⟩
    rw [← Option.some.inj h, hdrop, htext]
    exact Fragment.upTo_append _ rest _
  · rintro ⟨w, characters, rest, hw, hc, hrest, rfl, rfl⟩
    exact recogniseAddition_append hw hc hrest

/-- Where an addition is written one is found, perhaps a longer one: it takes up what
follows as far as the last closing before the next opener. -/
theorem exists_recogniseAddition {characters w : Text} (h : IsAddition characters w)
    (hc : ¬ HoldsOpener characters) (rest : Text) :
    ∃ more behind payload, rest = more ++ behind ∧
      recogniseAddition (w ++ rest) = some ⟨w ++ more, payload⟩ ∧
      (more = [] ∨
        ∃ inner after, more = inner ++ ['\x7d'] ∧ beforeOpener rest = more ++ after) := by
  cases hlast : atLastClosing? (beforeOpener rest) with
  | none =>
      refine ⟨[], rest, characters, rfl, ?_, .inl rfl⟩
      rw [List.append_nil]
      exact recogniseAddition_append h hc hlast
  | some cut =>
      obtain ⟨before, after⟩ := cut
      obtain ⟨trail, htrail, hwindow, hafter⟩ := eq_of_atLastClosing? hlast
      have hcut : beforeOpener rest = (before ++ ']' :: (trail ++ ['\x7d'])) ++ after := by
        rw [hwindow]
        simp
      obtain ⟨behind, hrest, hbehind⟩ := beforeOpener_of_append hcut
      obtain ⟨ho, hgap, hown⟩ := h
      rename_i opener gap own
      -- The closing that was written becomes a part of the payload that is read.
      have hwide : ¬ HoldsOpener (characters ++ ']' :: (own ++ '\x7d' :: before)) := by
        apply not_holdsOpener_of_append (q := ']' :: (trail ++ '\x7d' :: after))
        rw [beforeOpener_closing hc hown, hwindow]
        simp
      have hfound := recogniseAddition_append (.intro ho hgap htrail) hwide (hbehind ▸ hafter)
      refine ⟨before ++ ']' :: (trail ++ ['\x7d']), behind,
        characters ++ ']' :: (own ++ '\x7d' :: before), hrest, ?_,
        .inr ⟨before ++ ']' :: trail, after, by simp, hcut⟩⟩
      rw [hrest]
      simpa using hfound

end FixtureKeywords.StringModifier
