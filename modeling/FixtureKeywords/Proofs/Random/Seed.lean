import FixtureKeywords.Random.Seed
import FixtureKeywords.Proofs.Text.Phrase

/-!
# Canonical seeds

A canonical seed is empty or a phrase with single spaces and without capitals. So when it is
made canonical again, nothing but the composition may still change it: stripping, collapsing
and lowering leave it and its composed form as they are.

The composition comes before the lowering, and a mark may be one that joins the small letter
and not the capital. Then the canonical seed is not composed, and its own canonical form,
which is its composed form, is another text. From there on nothing changes.
-/
namespace FixtureKeywords.Seed
open Text (Phrase IsSpace IsGap composed lowered collapse strip)

theorem canonical_cases (t : Text) : canonical t = [] ∨ Phrase IsSpace (canonical t) := by
  rcases Text.strip_cases t with hnil | hphrase
  · left
    rw [canonical, hnil]
    rfl
  · right
    have hcomposed := hphrase.composed (fun _ => id) (fun _ => Text.composed_isGap)
    exact (hcomposed.collapseFrom false).lowerFrom []

theorem canonical_canonical (t : Text) : canonical (canonical t) = composed (canonical t) := by
  have hlowered : lowered (composed (canonical t)) = composed (canonical t) :=
    Text.lowered_composed_lowered _
  rcases canonical_cases t with hnil | hphrase
  · rw [hnil]
    rfl
  · have hcomposed := hphrase.composed (fun _ => IsSpace.isGap) (fun _ => Text.composed_isSpace)
    have hcollapse : collapse (composed (canonical t)) = composed (canonical t) :=
      hcomposed.collapseFrom_eq false
    rw [canonical, hphrase.trimmed.strip_eq, hcollapse, hlowered]

theorem forall_mem_strip {P : Char → Prop} {t : Text} (h : ∀ c ∈ t, P c) : ∀ c ∈ strip t, P c := by
  obtain ⟨b, d, -, -, ht⟩ := Text.exists_strip t
  exact fun c hc => h c (by rw [ht]; simp [hc])

theorem composed_canonical_of_lower {t : Text} (h : ∀ c ∈ t, c.toNat ∉ Text.capitals) :
    composed (canonical t) = canonical t := by
  have hcomposed : ∀ c ∈ composed (strip t), c.toNat ∉ Text.capitals :=
    Text.closed_not_mem_capitals.composed (forall_mem_strip h)
  have hcanonical : canonical t = collapse (composed (strip t)) := by
    refine Text.lowered_of_not_mem_capitals fun c hc => ?_
    rcases Text.mem_of_mem_collapseFrom hc with hc | rfl
    · exact hcomposed c hc
    · exact Text.not_mem_capitals_of_blank (by decide)
  rw [hcanonical]
  rcases Text.strip_cases t with hnil | hphrase
  · rw [hnil]
    rfl
  · exact hphrase.composed_collapseFrom false

/-- The canonical form of a text of characters below 0xC0, an ASCII text say, is composed. -/
theorem composed_canonical_of_low {t : Text} (h : ∀ c ∈ t, c.toNat < 0xC0) :
    composed (canonical t) = canonical t := by
  have hstrip := forall_mem_strip h
  refine Text.composed_of_low (Text.lowerFrom_of_low (fun c hc => ?_) [])
  rw [Text.composed_of_low hstrip] at hc
  rcases Text.mem_of_mem_collapseFrom hc with hc | rfl
  · exact hstrip c hc
  · decide

/-- A canonical seed is trimmed, with single spaces and no other blanks. Made canonical again
it is composed, and then it stays as it is. So it is the same at once if and only if it is
composed, and then it seeds as the text did that it came from. -/
theorem canonical_settles (t : Text) :
    (∀ c ∈ canonical t, Text.isBlank c → c = ' ') ∧ Text.Trimmed (canonical t) ∧
      ¬ [' ', ' '] <:+: canonical t ∧
      canonical (canonical t) = composed (canonical t) ∧
      composed (canonical (canonical t)) = canonical (canonical t) ∧
      canonical (canonical (canonical t)) = canonical (canonical t) ∧
      (canonical (canonical t) = canonical t ↔ composed (canonical t) = canonical t) ∧
      (composed (canonical t) = canonical t → start (text (canonical t)) = start (text t)) := by
  have hstep := canonical_canonical t
  have hcomposed : composed (canonical (canonical t)) = canonical (canonical t) := by
    rw [hstep, Text.composed_composed]
  have hspaces : (∀ c ∈ canonical t, Text.isBlank c → c = ' ') ∧ Text.Trimmed (canonical t) ∧
      ¬ [' ', ' '] <:+: canonical t := by
    rcases canonical_cases t with hnil | hphrase
    · rw [hnil]
      exact ⟨by simp, ⟨rfl, rfl⟩, by simp⟩
    · exact ⟨hphrase.eq_space, hphrase.trimmed, hphrase.not_two_spaces⟩
  refine ⟨hspaces.1, hspaces.2.1, hspaces.2.2, hstep, hcomposed, ?_, by rw [hstep], fun h => ?_⟩
  · rw [canonical_canonical (canonical t), hcomposed]
  · rw [start, start, toInt, toInt, hstep, h]

/-- The caron joins the small j and not the capital. -/
theorem canonical_caron : canonical ['J', '\u030C'] = ['j', '\u030C'] ∧
    canonical (canonical ['J', '\u030C']) = ['\u01F0'] ∧
    composed (canonical ['J', '\u030C']) ≠ canonical ['J', '\u030C'] := by
  decide +kernel

end FixtureKeywords.Seed
