import FixtureKeywords.Zone.History
import Mathlib.Data.List.Chain
import Mathlib.Order.Bounds.Basic

/-!
# Readings and instants of a history

A history is read in two directions. At an instant it shows one reading. A reading
is taken for the instant of its first pass, where the clock before a change counts
until it shows the later of the two readings of the change.

Both directions agree if neighbouring changes are far enough apart: the readings
that one of them skips or repeats lie before those of the next one, and what one
skips is passed before the next one. Then a reading that occurs is taken for its
first instant. A reading that a change skips is taken for the first instant at
which the clock shows it moved forward by what was skipped. And an instant is found
again from the reading that it shows and from the pass that this reading is in.
-/
namespace FixtureKeywords

/-- A change of the offset from Universal Time. -/
structure Change where
  instant : Instant
  before : Int
  after : Int
deriving DecidableEq, Repr

namespace Change

/-- Whether a clock never shows a reading because of the change. -/
def Skips (c : Change) (r : Reading) : Prop :=
  c.instant + c.before ≤ r ∧ r < c.instant + c.after

/-- Whether a change is far enough behind another one: the readings next to the
first change lie before those next to the second one, and the time that the first
one skips is over. -/
def Apart (c next : Change) : Prop :=
  c.instant + max c.before c.after ≤ next.instant + min next.before next.after ∧
    c.instant + (c.after - c.before) ≤ next.instant

instance (c next : Change) : Decidable (c.Apart next) :=
  inferInstanceAs (Decidable (_ ∧ _))

end Change

namespace History

def changesFrom (before : Int) : List Transition → List Change
  | [] => []
  | next :: later =>
      ⟨next.instant, before, next.observance.offset⟩ ::
        changesFrom next.observance.offset later

def changes (h : History) : List Change :=
  changesFrom h.initial.offset h.transitions

/-- Whether neighbouring changes are far enough apart. -/
def WellSpaced (h : History) : Prop :=
  h.changes.IsChain Change.Apart

instance (h : History) : Decidable h.WellSpaced :=
  inferInstanceAs (Decidable (List.IsChain _ _))

def shown (h : History) (t : Instant) : Reading :=
  t + (h.atInstant t).1.offset

theorem follow_fst (t : Instant) (current : Observance) (repeats : Option Instant)
    (later : List Transition) :
    (follow t current repeats later).1 = (follow t current none later).1 := by
  cases later with
  | nil => rfl
  | cons next later =>
      rw [follow, follow]
      split_ifs <;> rfl

section Following
variable {t : Instant} {current : Observance} {next : Transition} {later : List Transition}

def shownFrom (current : Observance) (later : List Transition) (t : Instant) : Reading :=
  t + (follow t current none later).1.offset

theorem shownFrom_of_le (h : next.instant ≤ t) :
    shownFrom current (next :: later) t = shownFrom next.observance later t := by
  rw [shownFrom, follow, if_pos h, follow_fst, shownFrom]

theorem shownFrom_of_lt (h : t < next.instant) :
    shownFrom current (next :: later) t = t + current.offset := by
  rw [shownFrom, follow, if_neg (Int.not_le.mpr h)]

/-- After a change no reading before that of the change is shown any more. -/
theorem le_shownFrom {last : Instant} {before : Int}
    (hchain : (⟨last, before, current.offset⟩ :: changesFrom current.offset later).IsChain
      Change.Apart)
    (ht : last ≤ t) : last + current.offset ≤ shownFrom current later t := by
  induction later generalizing current last before with
  | nil =>
      have hshown : shownFrom current [] t = t + current.offset := rfl
      grind
  | cons next later ih =>
      obtain ⟨hapart, hrest⟩ := List.isChain_cons_cons.mp hchain
      by_cases hnext : next.instant ≤ t
      · have hlater := ih hrest hnext
        rw [shownFrom_of_le hnext]
        grind [Change.Apart]
      · rw [shownFrom_of_lt (Int.not_le.mp hnext)]
        grind

theorem shownFrom_of_lt_last {last : Instant} {before : Int}
    (hchain : (⟨last, before, current.offset⟩ :: changesFrom current.offset later).IsChain
      Change.Apart)
    (ht : t < last + max 0 (current.offset - before)) :
    shownFrom current later t = t + current.offset := by
  cases later with
  | nil => rfl
  | cons next later =>
      obtain ⟨hapart, -⟩ := List.isChain_cons_cons.mp hchain
      refine shownFrom_of_lt ?_
      grind [Change.Apart]

/-- From the later of its two readings on, a change does not matter for where a reading
is shown. -/
theorem shownFrom_cons_iff {r : Reading}
    (hchain : (changesFrom current.offset (next :: later)).IsChain Change.Apart)
    (hr : next.instant + max current.offset next.observance.offset ≤ r) :
    shownFrom current (next :: later) t = r ↔ shownFrom next.observance later t = r := by
  by_cases ht : next.instant ≤ t
  · rw [shownFrom_of_le ht]
  · rw [shownFrom_of_lt (Int.not_le.mp ht), shownFrom_of_lt_last hchain (by grind)]
    grind

end Following

section Settling

/-- The instant that a reading is taken for: the first one at which it is shown, or, if
a change skips it, the first one at which it is shown moved forward by what is skipped. -/
def Settles (shown : Instant → Reading) (changes : List Change) (r : Reading) (t : Instant) :
    Prop :=
  ((∃ t', shown t' = r) → IsLeast {t' | shown t' = r} t) ∧
    ((∀ t', shown t' ≠ r) → ∃ c ∈ changes, c.Skips r ∧
      IsLeast {t' | shown t' = r + (c.after - c.before)} t)

theorem Settles.of_shown {shown : Instant → Reading} {changes : List Change} {r : Reading}
    {t : Instant} (h : IsLeast {t' | shown t' = r} t) : Settles shown changes r t :=
  ⟨fun _ => h, fun hnever => absurd h.1 (hnever t)⟩

theorem Settles.of_skips {shown : Instant → Reading} {changes : List Change} {r : Reading}
    {t : Instant} {c : Change} (hc : c ∈ changes) (hskips : c.Skips r)
    (hnever : ∀ t', shown t' ≠ r)
    (h : IsLeast {t' | shown t' = r + (c.after - c.before)} t) : Settles shown changes r t :=
  ⟨fun ⟨t', ht'⟩ => absurd ht' (hnever t'), fun _ => ⟨c, hc, hskips, h⟩⟩

theorem Settles.congr {shown shown' : Instant → Reading} {changes : List Change} {r : Reading}
    {t : Instant} (c : Change) (hshown : ∀ v t', r ≤ v → (shown t' = v ↔ shown' t' = v))
    (h : Settles shown changes r t) : Settles shown' (c :: changes) r t := by
  have hset (v : Reading) (hv : r ≤ v) : {t' | shown t' = v} = {t' | shown' t' = v} :=
    Set.ext fun t' => hshown v t' hv
  constructor
  · rintro ⟨t', ht'⟩
    rw [← hset r (Int.le_refl r)]
    exact h.1 ⟨t', (hshown r t' (Int.le_refl r)).mpr ht'⟩
  · intro hnever
    obtain ⟨c', hc', hskips, hleast⟩ :=
      h.2 fun t' ht' => hnever t' ((hshown r t' (Int.le_refl r)).mp ht')
    refine ⟨c', List.mem_cons_of_mem _ hc', hskips, ?_⟩
    rwa [← hset _ (by grind [Change.Skips])]

/-- A reading that is shown before the first transition, or is skipped by it, is settled by
the offset that stands until then. -/
theorem settles_of_lt {current : Observance} {next : Transition} {later : List Transition}
    (hchain : (changesFrom current.offset (next :: later)).IsChain Change.Apart) {r : Reading}
    (hr : r < next.instant + max current.offset next.observance.offset) :
    Settles (shownFrom current (next :: later)) (changesFrom current.offset (next :: later)) r
      (r - current.offset) := by
  have hbefore (t : Instant) (ht : t < next.instant) :
      shownFrom current (next :: later) t = t + current.offset := shownFrom_of_lt ht
  have hafter (t : Instant) (ht : next.instant ≤ t) :
      next.instant + next.observance.offset ≤ shownFrom current (next :: later) t := by
    rw [shownFrom_of_le ht]
    exact le_shownFrom hchain ht
  by_cases hskipped : r < next.instant + current.offset
  · refine .of_shown ⟨?_, fun t ht => ?_⟩
    · exact (hbefore _ (by grind)).trans (Int.sub_add_cancel r current.offset)
    · have ht : shownFrom current (next :: later) t = r := ht
      grind
  · have hwithin (t : Instant) (ht : next.instant ≤ t)
        (ht' : t < next.instant + (next.observance.offset - current.offset)) :
        shownFrom current (next :: later) t = t + next.observance.offset := by
      rw [shownFrom_of_le ht]
      exact shownFrom_of_lt_last hchain (by grind)
    refine .of_skips List.mem_cons_self (by grind [Change.Skips]) ?_ ⟨?_, fun t ht => ?_⟩
    · intro t ht
      grind
    · exact (hwithin _ (by grind) (by grind)).trans (by grind)
    · have ht : shownFrom current (next :: later) t =
          r + (next.observance.offset - current.offset) := ht
      grind

theorem followReading_settles {current : Observance} {later : List Transition}
    (hchain : (changesFrom current.offset later).IsChain Change.Apart) (r : Reading) :
    Settles (shownFrom current later) (changesFrom current.offset later) r
      (r - (followReading r false current later).offset) := by
  induction later generalizing current with
  | nil =>
      have hshown (t : Instant) : shownFrom current [] t = t + current.offset := rfl
      rw [followReading]
      refine .of_shown ⟨?_, fun t ht => ?_⟩
      · exact Int.sub_add_cancel r current.offset
      · have ht : t + current.offset = r := ht
        grind
  | cons next later ih =>
      by_cases hr : next.instant + max current.offset next.observance.offset ≤ r
      · have hfollow : followReading r false current (next :: later) =
            followReading r false next.observance later := by
          simp [followReading, hr]
        rw [hfollow]
        refine (ih hchain.tail).congr _ fun v t hv => ?_
        exact (shownFrom_cons_iff hchain (by grind)).symm
      · have hfollow : followReading r false current (next :: later) = current := by
          simp [followReading, hr]
        rw [hfollow]
        exact settles_of_lt hchain (not_le.mp hr)

end Settling

section Passes
variable {t : Instant} {current : Observance} {next : Transition} {later : List Transition}

/-- After a change the reading of an instant lies behind the readings of the change:
behind both of them, or behind the earlier one in the second pass. -/
theorem le_follow {last : Instant} {before : Int}
    (hchain : (⟨last, before, current.offset⟩ :: changesFrom current.offset later).IsChain
      Change.Apart)
    (ht : last ≤ t) :
    let found := follow t current (some (last + (before - current.offset))) later
    last + (if found.2 then min before current.offset else max before current.offset) ≤
      t + found.1.offset := by
  cases later with
  | nil =>
      by_cases hrepeats : t < last + (before - current.offset)
      · simp only [follow, Option.any_some, hrepeats, decide_true, if_true]
        grind
      · simp only [follow, Option.any_some, hrepeats, decide_false, Bool.false_eq_true, if_false]
        grind
  | cons next later =>
      obtain ⟨hapart, hrest⟩ := List.isChain_cons_cons.mp hchain
      by_cases hnext : next.instant ≤ t
      · have hlater : next.instant + next.observance.offset ≤
            shownFrom next.observance later t := le_shownFrom hrest hnext
        rw [shownFrom] at hlater
        simp only [follow, hnext, if_true, follow_fst]
        grind [Change.Apart]
      · by_cases hrepeats : t < last + (before - current.offset)
        · simp only [follow, hnext, if_false, Option.any_some, hrepeats, decide_true, if_true]
          grind
        · simp only [follow, hnext, Option.any_some, hrepeats, decide_false, Bool.false_eq_true,
            if_false]
          grind

/-- The observance of an instant is found again from the reading that it shows and the
pass that the reading is in, provided that a pass is over before the next change. -/
theorem followReading_follow {repeats : Option Instant}
    (hchain : (changesFrom current.offset later).IsChain Change.Apart)
    (hrepeats : ∀ finish ∈ repeats, ∀ c ∈ (changesFrom current.offset later).head?,
      finish + c.before ≤ c.instant + min c.before c.after) :
    let found := follow t current repeats later
    followReading (t + found.1.offset) found.2 current later = found.1 := by
  induction later generalizing current repeats with
  | nil => rfl
  | cons next later ih =>
      by_cases hnext : next.instant ≤ t
      · have hpassed := le_follow hchain hnext
        have hover : ∀ c ∈ (changesFrom next.observance.offset later).head?,
            next.instant + (current.offset - next.observance.offset) + c.before ≤
              c.instant + min c.before c.after := by
          intro c hc
          cases later with
          | nil => simp [changesFrom] at hc
          | cons following later =>
              obtain rfl : _ = c := Option.some.inj hc
              obtain ⟨hapart, -⟩ := List.isChain_cons_cons.mp hchain
              grind [Change.Apart]
        have hrest := @ih next.observance
          (some (next.instant + (current.offset - next.observance.offset)))
          hchain.tail (by simpa using hover)
        simp only [follow, hnext, if_true]
        simp only [followReading, hpassed, if_true]
        exact hrest
      · have hstops : ¬ next.instant + (if repeats.any (t < ·) then
            min current.offset next.observance.offset
            else max current.offset next.observance.offset) ≤ t + current.offset := by
          have ht : t < next.instant := Int.not_le.mp hnext
          cases repeats with
          | none =>
              simp only [Option.any_none, Bool.false_eq_true, if_false]
              grind
          | some finish =>
              have hover := hrepeats finish rfl _ rfl
              simp only [Option.any_some, decide_eq_true_eq]
              split_ifs with hsecond <;> grind
        simp only [follow, hnext, if_false, followReading, hstops]

end Passes

/-- In a well spaced history a reading is taken for its first instant, and a reading that
is skipped for the first instant that shows it moved forward. -/
theorem WellSpaced.settles {h : History} (hh : h.WellSpaced) (r : Reading) :
    Settles h.shown h.changes r (r - (h.atReading r false).offset) :=
  followReading_settles hh r

/-- In a well spaced history an instant is found again from its reading and its pass. -/
theorem WellSpaced.atReading_shown {h : History} (hh : h.WellSpaced) (t : Instant) :
    h.atReading (h.shown t) (h.atInstant t).2 = (h.atInstant t).1 :=
  followReading_follow hh (by simp)

end History
end FixtureKeywords
