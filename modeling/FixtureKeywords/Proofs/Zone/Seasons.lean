import FixtureKeywords.Proofs.Calendar.Date
import FixtureKeywords.Proofs.Zone.History

/-!
# Yearly rules and spacing

The turns of a yearly rule move about in the year, but not far: a day of any of the
three kinds stays within eleven days of a fixed place in the year. So if the places
of the two turns are at least four weeks apart, from year to year as well, the
transitions of the rule are at least two days apart, and the history that follows
the rule is well spaced.
-/
namespace FixtureKeywords

namespace Date

theorem sum_take_monthLengths (year : Int) {month : Nat} (h : month ≤ 12) :
    30 * (month - 1) ≤ ((monthLengths year).take (month - 1)).sum + 1 ∧
      ((monthLengths year).take (month - 1)).sum ≤ 30 * (month - 1) + 5 := by
  unfold monthLengths
  split <;> interval_cases month <;> decide

end Date

namespace Anniversary

def HasMonth : Anniversary → Prop
  | weekday month _ _ => month ≤ 12
  | _ => True

instance : (a : Anniversary) → Decidable a.HasMonth
  | weekday month _ _ => inferInstanceAs (Decidable (month ≤ 12))
  | common _ => isTrue trivial
  | index _ => isTrue trivial

/-- About how many days of the year are over. -/
def place : Anniversary → Int
  | weekday month nth _ => (30 * (month - 1) + 7 * (nth - 1) : Nat)
  | common n => n
  | index n => n

theorem inYear_near_place {a : Anniversary} (h : a.HasMonth) (year : Int) :
    (⟨year, 1, 1⟩ : Date).toDays + a.place - 11 ≤ a.inYear year ∧
      a.inYear year ≤ (⟨year, 1, 1⟩ : Date).toDays + a.place + 11 := by
  cases a with
  | weekday month nth day =>
      have hmonths := Date.sum_take_monthLengths year h
      simp only [inYear, place, Date.nthWeekday, Date.toDays, Date.dayOfYear_eq, Nat.sub_self,
        List.take_zero, List.sum_nil]
      split_ifs <;> omega
  | common n =>
      simp only [inYear, place]
      split_ifs <;> omega
  | index n =>
      simp only [inYear, place]
      omega

end Anniversary

/-- Whether a span of time is at most a day long, in either direction. -/
def WithinDay (span : Int) : Prop :=
  -Reading.dayLength ≤ span ∧ span ≤ Reading.dayLength

instance (span : Int) : Decidable (WithinDay span) :=
  inferInstanceAs (Decidable (_ ∧ _))

theorem Turn.inYear_near_place {t : Turn} (h : t.day.HasMonth) (htime : WithinDay t.time)
    (year : Int) :
    ((⟨year, 1, 1⟩ : Date).toDays + t.day.place - 12) * Reading.dayLength ≤ t.inYear year ∧
      t.inYear year ≤ ((⟨year, 1, 1⟩ : Date).toDays + t.day.place + 12) * Reading.dayLength := by
  have hday := Anniversary.inYear_near_place h year
  have hlength : Reading.dayLength = 86400000000 := rfl
  simp only [WithinDay, hlength] at htime
  simp only [Turn.inYear, hlength]
  grind

namespace YearRule

/-- Whether the turns of a rule are at places that are at least four weeks apart, and its
offsets are at most a day. -/
structure Regular (rule : YearRule) (d : Daylight) : Prop where
  months : d.starts.day.HasMonth ∧ d.ends.day.HasMonth
  times : WithinDay d.starts.time ∧ WithinDay d.ends.time
  offsets : WithinDay rule.standard.offset ∧ WithinDay d.observance.offset
  places : d.starts.day.place + 28 ≤ d.ends.day.place ∧
      d.ends.day.place ≤ d.starts.day.place + 337 ∨
    d.ends.day.place + 28 ≤ d.starts.day.place ∧
      d.starts.day.place ≤ d.ends.day.place + 337

instance (rule : YearRule) (d : Daylight) : Decidable (rule.Regular d) :=
  decidable_of_iff (_ ∧ _ ∧ _ ∧ _)
    ⟨fun ⟨h₁, h₂, h₃, h₄⟩ => ⟨h₁, h₂, h₃, h₄⟩, fun ⟨h₁, h₂, h₃, h₄⟩ => ⟨h₁, h₂, h₃, h₄⟩⟩

theorem turns_near_place {rule : YearRule} {d : Daylight} (h : rule.Regular d) (year : Int) :
    ((⟨year, 1, 1⟩ : Date).toDays + d.starts.day.place - 13) * Reading.dayLength ≤
        (rule.turns d year).1 ∧
      (rule.turns d year).1 ≤
        ((⟨year, 1, 1⟩ : Date).toDays + d.starts.day.place + 13) * Reading.dayLength ∧
      ((⟨year, 1, 1⟩ : Date).toDays + d.ends.day.place - 13) * Reading.dayLength ≤
        (rule.turns d year).2 ∧
      (rule.turns d year).2 ≤
        ((⟨year, 1, 1⟩ : Date).toDays + d.ends.day.place + 13) * Reading.dayLength := by
  have hstarts := Turn.inYear_near_place h.months.1 h.times.1 year
  have hends := Turn.inYear_near_place h.months.2 h.times.2 year
  obtain ⟨hstandard, hdaylight⟩ := h.offsets
  have hlength : Reading.dayLength = 86400000000 := rfl
  simp only [WithinDay, hlength] at hstandard hdaylight hstarts hends
  simp only [turns, hlength]
  grind

end YearRule

namespace History
variable {rule : YearRule} {d : Daylight} {year : Int}

/-- Whether one transition is at least two days before another one. -/
def Far (a b : Transition) : Prop :=
  a.instant + 2 * Reading.dayLength ≤ b.instant

theorem yearTransitions_eq (rule : YearRule) (d : Daylight) (year : Int) :
    yearTransitions rule d year =
      if (rule.turns d year).1 ≤ (rule.turns d year).2 then
        [⟨(rule.turns d year).1, d.observance⟩, ⟨(rule.turns d year).2, rule.standard⟩]
      else [⟨(rule.turns d year).2, rule.standard⟩, ⟨(rule.turns d year).1, d.observance⟩] :=
  rfl

theorem mem_yearTransitions {t : Transition} :
    t ∈ yearTransitions rule d year ↔
      t = ⟨(rule.turns d year).1, d.observance⟩ ∨ t = ⟨(rule.turns d year).2, rule.standard⟩ := by
  rw [yearTransitions_eq]
  split_ifs
  · simp
  · simp [or_comm]

theorem pairwise_yearTransitions (h : rule.Regular d) (year : Int) :
    (yearTransitions rule d year).Pairwise Far := by
  have hturns := YearRule.turns_near_place h year
  have hplaces := h.places
  have hlength : Reading.dayLength = 86400000000 := rfl
  simp only [hlength] at hturns
  rw [yearTransitions_eq]
  split_ifs with hle
  · simp only [List.pairwise_cons, List.mem_singleton, forall_eq, Far, hlength]
    grind
  · simp only [List.pairwise_cons, List.mem_singleton, forall_eq, Far, hlength]
    grind

/-- The transitions of a year are over two days before those of a later one. -/
theorem far_of_lt (h : rule.Regular d) {later : Int} (hyear : year < later) {a b : Transition}
    (ha : a ∈ yearTransitions rule d year) (hb : b ∈ yearTransitions rule d later) :
    Far a b := by
  have hfirst := YearRule.turns_near_place h year
  have hsecond := YearRule.turns_near_place h later
  have hplaces := h.places
  have hdays : (⟨year, 1, 1⟩ : Date).toDays + 365 ≤ (⟨later, 1, 1⟩ : Date).toDays := by
    have hle := Date.daysBeforeYear_add_le hyear
    have hlong : 365 ≤ Date.yearLength year := by
      unfold Date.yearLength
      split_ifs <;> omega
    simp only [Date.toDays, Date.dayOfYear_eq, Nat.sub_self, List.take_zero, List.sum_nil]
    omega
  have hlength : Reading.dayLength = 86400000000 := rfl
  simp only [hlength] at hfirst hsecond
  simp only [Far, hlength]
  obtain rfl | rfl := mem_yearTransitions.mp ha <;> obtain rfl | rfl := mem_yearTransitions.mp hb
  all_goals dsimp only; grind

theorem mem_ruleTransitions (hd : rule.daylight = some d) {after : Instant} {t : Transition} :
    t ∈ ruleTransitions rule after ↔ after < t.instant ∧
      ∃ n : Nat, n < (10000 - Reading.year after).toNat ∧
        t ∈ yearTransitions rule d (Reading.year after + n) := by
  simp only [ruleTransitions, hd, List.mem_filter, List.mem_flatMap, List.mem_range,
    decide_eq_true_eq]
  exact and_comm

theorem pairwise_ruleTransitions (hd : rule.daylight = some d) (h : rule.Regular d)
    (after : Instant) : (ruleTransitions rule after).Pairwise Far := by
  simp only [ruleTransitions, hd]
  refine List.Pairwise.filter _ (List.pairwise_flatMap.mpr ⟨?_, ?_⟩)
  · exact fun n _ => pairwise_yearTransitions h _
  · refine List.pairwise_lt_range.imp ?_
    intro n m hlt a ha b hb
    exact far_of_lt h (by omega) ha hb

theorem withinDay_ruleTransitions (h : ∀ d, rule.daylight = some d → rule.Regular d)
    {after : Instant} : ∀ t ∈ ruleTransitions rule after, WithinDay t.observance.offset := by
  intro t ht
  cases hd : rule.daylight with
  | none => simp [ruleTransitions, hd] at ht
  | some d =>
      obtain ⟨-, n, -, ht⟩ := (mem_ruleTransitions hd).mp ht
      obtain rfl | rfl := mem_yearTransitions.mp ht
      · exact (h d hd).offsets.2
      · exact (h d hd).offsets.1

/-- Changes by at most a day, at least two days from each other, are apart. -/
theorem apart_of_far {before middle after : Int} {a b : Instant} (hbefore : WithinDay before)
    (hmiddle : WithinDay middle) (hafter : WithinDay after)
    (hfar : a + 2 * Reading.dayLength ≤ b) :
    Change.Apart ⟨a, before, middle⟩ ⟨b, middle, after⟩ := by
  simp only [WithinDay] at hbefore hmiddle hafter
  simp only [Change.Apart]
  grind

theorem isChain_changesFrom {before : Int} {ts : List Transition} (hbefore : WithinDay before)
    (hoffsets : ∀ t ∈ ts, WithinDay t.observance.offset) (hts : ts.Pairwise Far) :
    (changesFrom before ts).IsChain Change.Apart := by
  induction ts generalizing before with
  | nil => exact .nil
  | cons t ts ih =>
      obtain ⟨hfar, hts⟩ := List.pairwise_cons.mp hts
      obtain ⟨ht, hoffsets⟩ := List.forall_mem_cons.mp hoffsets
      have hrest := ih ht hoffsets hts
      cases ts with
      | nil => exact .singleton _
      | cons next ts =>
          have hnext := hoffsets next List.mem_cons_self
          have hapart := apart_of_far hbefore ht hnext (hfar next List.mem_cons_self)
          exact List.isChain_cons_cons.mpr ⟨hapart, hrest⟩

/-- Transitions that are far behind the last one of a row keep the changes apart. -/
theorem isChain_changesFrom_append {before : Int} {first later : List Transition}
    (hfirst : (changesFrom before first).IsChain Change.Apart) (hbefore : WithinDay before)
    (hoffsets : ∀ t ∈ first ++ later, WithinDay t.observance.offset)
    (hlater : later.Pairwise Far) (hjoin : ∀ a ∈ first.getLast?, ∀ b ∈ later, Far a b) :
    (changesFrom before (first ++ later)).IsChain Change.Apart := by
  induction first generalizing before with
  | nil => exact isChain_changesFrom hbefore hoffsets hlater
  | cons t first ih =>
      obtain ⟨ht, hoffsets⟩ := List.forall_mem_cons.mp hoffsets
      cases first with
      | nil =>
          have hall : (t :: later).Pairwise Far :=
            List.pairwise_cons.mpr ⟨hjoin t rfl, hlater⟩
          exact isChain_changesFrom hbefore (List.forall_mem_cons.mpr ⟨ht, hoffsets⟩) hall
      | cons next first =>
          obtain ⟨hapart, hfirst⟩ := List.isChain_cons_cons.mp hfirst
          have hjoin' : ∀ a ∈ (next :: first).getLast?, ∀ b ∈ later, Far a b := by
            rwa [List.getLast?_cons_cons] at hjoin
          exact List.isChain_cons_cons.mpr ⟨hapart, ih hfirst ht hoffsets hjoin'⟩

end History
end FixtureKeywords
