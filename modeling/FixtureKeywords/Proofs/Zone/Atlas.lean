import FixtureKeywords.Proofs.Zone.Id
import FixtureKeywords.Proofs.Zone.Seasons
import FixtureKeywords.Zone.Recorded

/-!
# The recorded regions

What a region has recorded is a short table, and its rule is judged by the places of
its two turns. Together they say that the history is well spaced through the last
supported year. So every region that the recorded almanac finds is well spaced.
-/
namespace FixtureKeywords

namespace Region

/-- Whether the recorded changes are apart, and the rule goes on with changes that are far
apart and far behind the last one that was recorded. Only the year of that change and the
next one have to be compared with it. -/
structure Regular (r : Region) : Prop where
  apart : (History.changesFrom r.initial.offset r.recorded).IsChain Change.Apart
  initial : WithinDay r.initial.offset
  recorded : ∀ t ∈ r.recorded, WithinDay t.observance.offset
  rule : ∀ d ∈ r.rule.daylight, r.rule.Regular d
  year : ∀ d ∈ r.rule.daylight,
    ∀ t ∈ History.yearTransitions r.rule d (Reading.year r.lastRecorded),
      r.lastRecorded < t.instant → r.lastRecorded + 2 * Reading.dayLength ≤ t.instant
  next : ∀ d ∈ r.rule.daylight,
    ∀ t ∈ History.yearTransitions r.rule d (Reading.year r.lastRecorded + 1),
      r.lastRecorded + 2 * Reading.dayLength ≤ t.instant

instance (r : Region) : Decidable r.Regular :=
  decidable_of_iff (_ ∧ _ ∧ _ ∧ _ ∧ _ ∧ _)
    ⟨fun ⟨h₁, h₂, h₃, h₄, h₅, h₆⟩ => ⟨h₁, h₂, h₃, h₄, h₅, h₆⟩,
      fun ⟨h₁, h₂, h₃, h₄, h₅, h₆⟩ => ⟨h₁, h₂, h₃, h₄, h₅, h₆⟩⟩

theorem Regular.far_behind {r : Region} (h : r.Regular) {t : Transition}
    (ht : t ∈ History.ruleTransitions r.rule r.lastRecorded) :
    r.lastRecorded + 2 * Reading.dayLength ≤ t.instant := by
  cases hd : r.rule.daylight with
  | none => simp [History.ruleTransitions, hd] at ht
  | some d =>
      obtain ⟨hafter, n, -, ht⟩ := (History.mem_ruleTransitions hd).mp ht
      rcases n with _ | _ | n
      · exact h.year d hd t (by simpa using ht) hafter
      · exact h.next d hd t (by simpa using ht)
      · obtain ⟨next, hnext⟩ : ∃ next, next ∈ History.yearTransitions r.rule d
            (Reading.year r.lastRecorded + 1) :=
          ⟨_, History.mem_yearTransitions.mpr (.inl rfl)⟩
        have hfar := History.far_of_lt (h.rule d hd) (by grind) hnext ht
        have hbehind := h.next d hd next hnext
        have hpos : 0 < Reading.dayLength := by decide
        simp only [History.Far] at hfar
        grind

theorem Regular.wellSpaced {r : Region} (h : r.Regular) : r.history.WellSpaced := by
  have hfar {a b : Transition} (ha : a ∈ r.recorded.getLast?)
      (hb : b ∈ History.ruleTransitions r.rule r.lastRecorded) : History.Far a b := by
    have hbehind := h.far_behind hb
    simp only [lastRecorded, Option.mem_def.mp ha] at hbehind
    exact hbehind
  refine History.isChain_changesFrom_append h.apart h.initial ?_ ?_ fun a ha b hb => hfar ha hb
  · intro t ht
    obtain ht | ht := List.mem_append.mp ht
    · exact h.recorded t ht
    · exact History.withinDay_ruleTransitions h.rule t ht
  · cases hd : r.rule.daylight with
    | none => simp [History.ruleTransitions, hd]
    | some d => exact History.pairwise_ruleTransitions hd (h.rule d hd) _

end Region

theorem Atlas.regular_of_mem {r : Region} (h : r ∈ regions) : r.Regular :=
  (by decide +kernel : ∀ r ∈ regions, r.Regular) r h

theorem Almanac.spaced_recorded : Almanac.Spaced := by
  intro key history h
  cases hr : Atlas.find? (String.ofList key) with
  | some r =>
      simp only [Almanac.region, hr] at h
      obtain rfl := RegionAnswer.found.inj h
      exact (Atlas.regular_of_mem (List.mem_of_find?_eq_some hr)).wellSpaced
  | none =>
      simp only [Almanac.region, hr] at h
      cases h

theorem Almanac.readsBack_recorded : Almanac.ReadsBack where
  printed := Timestamp.read?_printed
  isOffset := Timestamp.isOffset_of_read?

end FixtureKeywords
