import FixtureKeywords.Keyword.Family
import FixtureKeywords.Proofs.Text.Spelling

/-!
# The envelope of a keyword

A keyword is a bracket, blanks, the name of its family, its modifiers and a last
bracket, with blanks around all of it. Such a text is enclosed by its family, and
it is bare if there are only blanks in place of the modifiers.
-/
namespace FixtureKeywords.Family
open Text

theorem isName_name (family : Family) : IsName family.name.toList := by
  cases family <;> decide

theorem dropOpening?_eq_some_iff {family : Family} {t rest : Text} :
    family.dropOpening? t = some rest ↔
      ∃ lead s, isBlankText lead ∧ Reads family.name.toList s ∧
        t = '[' :: (lead ++ (s ++ rest)) :=
  dropChar?_dropWord?_eq_some_iff family.isName_name

theorem strip_keyword {before after : Text} (hbefore : isBlankText before)
    (hafter : isBlankText after) (inner : Text) :
    strip (before ++ ('[' :: (inner ++ [']'])) ++ after) = '[' :: (inner ++ [']']) :=
  strip_padded hbefore (trimmed_between (by decide) (by decide) inner) hafter

theorem encloses_keyword {family : Family} {before lead s body after : Text}
    (hbefore : isBlankText before) (hlead : isBlankText lead)
    (hs : Reads family.name.toList s) (hafter : isBlankText after) :
    family.encloses (before ++ ('[' :: ((lead ++ (s ++ body)) ++ [']'])) ++ after) := by
  have hopen : family.dropOpening? ('[' :: ((lead ++ (s ++ body)) ++ [']'])) =
      some (body ++ [']']) :=
    dropOpening?_eq_some_iff.mpr ⟨lead, s, hlead, hs, by simp⟩
  simp only [encloses, strip_keyword hbefore hafter, hopen]
  simp

theorem isBare_keyword {family : Family} {lead s left : Text} (hlead : isBlankText lead)
    (hs : Reads family.name.toList s) (hleft : isBlankText left) :
    family.isBare ('[' :: ((lead ++ (s ++ left)) ++ [']'])) := by
  have hopen : family.dropOpening? ('[' :: ((lead ++ (s ++ left)) ++ [']'])) =
      some (left ++ [']']) :=
    dropOpening?_eq_some_iff.mpr ⟨lead, s, hlead, hs, by simp⟩
  simp only [isBare, hopen, dropBlanks_append_cons hleft (show isBlank ']' = false by decide)]
  simp

/-- An enclosed text has the bracket and the name at its front and a bracket at its end. -/
theorem exists_of_encloses {family : Family} {t : Text} (h : family.encloses t) :
    ∃ lead s body, isBlankText lead ∧ Reads family.name.toList s ∧
      strip t = '[' :: ((lead ++ (s ++ body)) ++ [']']) := by
  unfold encloses at h
  split at h
  next rest hrest =>
    obtain ⟨lead, s, hlead, hs, ht⟩ := dropOpening?_eq_some_iff.mp hrest
    obtain ⟨body, rfl⟩ := List.getLast?_eq_some_iff.mp (beq_iff_eq.mp h)
    exact ⟨lead, s, body, hlead, hs, by rw [ht]; simp⟩
  next => simp at h

theorem name_not_prefix_of_ne {family other : Family} (h : family ≠ other) :
    ¬ family.name.toList <+: other.name.toList := by
  cases family <;> cases other <;> first | exact absurd rfl h | decide

theorem eq_of_encloses {family other : Family} {t : Text} (h : family.encloses t)
    (hother : other.encloses t) : family = other := by
  by_contra hne
  obtain ⟨lead, s, body, hlead, hs, ht⟩ := exists_of_encloses h
  have hnone : other.dropOpening? (strip t) = none := by
    obtain ⟨c, cs, rfl, hc⟩ := hs.eq_cons family.isName_name
    have hword := dropWord?_eq_none hs (name_not_prefix_of_ne (Ne.symm hne))
      (name_not_prefix_of_ne hne) (body ++ [']'])
    rw [ht]
    simp only [dropOpening?, dropChar?, if_true, Option.bind_eq_bind, Option.bind_some,
      List.append_assoc, List.cons_append, dropBlanks_append_cons hlead hc]
    exact hword
  simp [encloses, hnone] at hother

theorem of?_eq_some_iff {family : Family} {t : Text} : of? t = some family ↔ family.encloses t := by
  constructor
  · intro h
    unfold of? at h
    simpa using List.find?_some h
  · intro h
    have hall : family ∈ all := by cases family <;> decide
    cases hfound : of? t with
    | none => exact absurd h (List.find?_eq_none.mp hfound family hall)
    | some other =>
        have hother : other.encloses t := by
          unfold of? at hfound
          simpa using List.find?_some hfound
        rw [eq_of_encloses h hother]

/-- In a bare text only blanks stand between a name at the front and the last bracket. -/
theorem blank_of_isBare {family : Family} {lead s rest : Text} (hlead : isBlankText lead)
    (hs : Reads family.name.toList s) (h : family.isBare ('[' :: (lead ++ (s ++ rest)))) :
    ∃ left, isBlankText left ∧ rest = left ++ [']'] := by
  have hopen : family.dropOpening? ('[' :: (lead ++ (s ++ rest))) = some rest :=
    dropOpening?_eq_some_iff.mpr ⟨lead, s, hlead, hs, rfl⟩
  simp only [isBare, hopen, beq_iff_eq] at h
  obtain ⟨left, hleft, hrest⟩ := exists_blanks rest
  exact ⟨left, hleft, h ▸ hrest⟩

theorem not_mem_of_isBare {family : Family} {t : Text} (h : family.isBare t) {c : Char}
    (hblank : isBlank c = false) (hletter : (letterKey c).isLower = false) (hopen : c ≠ '[')
    (hclose : c ≠ ']') : c ∉ t := by
  cases hdrop : family.dropOpening? t with
  | none => simp [isBare, hdrop] at h
  | some rest =>
      obtain ⟨lead, s, hlead, hs, rfl⟩ := dropOpening?_eq_some_iff.mp hdrop
      obtain ⟨left, hleft, rfl⟩ := blank_of_isBare hlead hs h
      refine List.not_mem_cons_of_ne_of_not_mem hopen ?_
      apply hs.not_mem_append family.isName_name hlead hblank hletter
      simp [not_mem_of_isBlankText hleft hblank, hclose]

end FixtureKeywords.Family
