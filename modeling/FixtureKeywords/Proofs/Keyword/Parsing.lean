import FixtureKeywords.Generation
import FixtureKeywords.Proofs.Keyword.Envelope
import FixtureKeywords.Proofs.Outcome

/-!
# Keywords that are accepted

A keyword is accepted if every step of its reading succeeds. The steps are taken
apart here once: one pass of a rule, the passes of a table, the checks around them,
and the choice of the family. Later proofs about accepted keywords begin with these
lemmas and do not unfold the reading again.
-/
namespace FixtureKeywords

namespace Rule
variable {α : Type} {rule : Rule α} {rules : List (Rule α)} {family : Family}
  {keyword reduced next left : Text} {values : List α} {entries : List (String × List α)}

/-- A pass succeeds if its rule finds no more fragments than it may and reads all of them. -/
theorem extract_eq_ok : rule.extract family keyword reduced = .ok (values, next) ↔
    (∀ k, rule.limit = some k →
      (Piece.fragments (Piece.split rule.recognise reduced)).length ≤ k) ∧
    (Piece.fragments (Piece.split rule.recognise reduced)).mapM rule.read = .ok values ∧
    Piece.blanked (Piece.split rule.recognise reduced) = next := by
  unfold extract
  constructor
  · intro h
    dsimp only at h
    split_ifs at h with hlimit
    obtain ⟨vs, hvs, heq⟩ := Outcome.bind_eq_ok.mp h
    obtain ⟨rfl, rfl⟩ := Prod.mk.inj (Except.ok.inj heq)
    refine ⟨fun k hk => ?_, hvs, rfl⟩
    simpa [hk] using hlimit
  · rintro ⟨hlimit, hvalues, rfl⟩
    have hwithin : rule.limit.any
        (· < (Piece.fragments (Piece.split rule.recognise reduced)).length) = false := by
      cases hk : rule.limit with
      | none => rfl
      | some k => simpa using hlimit k hk
    simp only [hwithin, Bool.false_eq_true, if_false, hvalues]
    rfl

/-- The passes of a table, the first one apart. A rule that finds nothing leaves no entry. -/
theorem extractAll_cons_eq_ok :
    extractAll family keyword (rule :: rules) reduced = .ok (entries, left) ↔
      ∃ values next others, rule.extract family keyword reduced = .ok (values, next) ∧
        extractAll family keyword rules next = .ok (others, left) ∧
        entries = if values.isEmpty then others else (rule.name, values) :: others := by
  constructor
  · intro h
    obtain ⟨⟨values, next⟩, hextract, h⟩ := Outcome.bind_eq_ok.mp h
    obtain ⟨⟨others, rest⟩, hothers, h⟩ := Outcome.bind_eq_ok.mp h
    obtain ⟨rfl, rfl⟩ := Prod.mk.inj (Except.ok.inj h)
    exact ⟨values, next, others, hextract, hothers, rfl⟩
  · rintro ⟨values, next, others, hextract, hothers, rfl⟩
    simp only [extractAll, hextract, hothers, bind, Except.bind]

theorem flatMap_snd_entry (name : String) (values : List α) (others : List (String × List α)) :
    (if values.isEmpty then others else (name, values) :: others).flatMap Prod.snd =
      values ++ others.flatMap Prod.snd := by
  cases values <;> rfl

theorem exists_read_of_mem (h : extractAll family keyword rules reduced = .ok (entries, left))
    {v : α} (hv : v ∈ entries.flatMap Prod.snd) : ∃ rule ∈ rules, ∃ f, rule.read f = .ok v := by
  induction rules generalizing reduced entries with
  | nil =>
      obtain ⟨rfl, rfl⟩ := Prod.mk.inj (Except.ok.inj h)
      simp at hv
  | cons rule rules ih =>
      obtain ⟨values, next, others, hextract, hothers, rfl⟩ := extractAll_cons_eq_ok.mp h
      obtain ⟨-, hread, -⟩ := extract_eq_ok.mp hextract
      rw [flatMap_snd_entry, List.mem_append] at hv
      rcases hv with hv | hv
      · obtain ⟨f, -, hf⟩ := Outcome.exists_of_mem_mapM hread hv
        exact ⟨rule, List.mem_cons_self, f, hf⟩
      · obtain ⟨r, hr, hf⟩ := ih hothers hv
        exact ⟨r, List.mem_cons_of_mem _ hr, hf⟩

end Rule

namespace Parsed
variable {α : Type}

theorem checkExclusive_eq_ok {p : Parsed α} {groups : List (List String)}
    (h : p.checkExclusive groups = .ok ()) : ∀ group ∈ groups, (group.filter p.has).length ≤ 1 := by
  induction groups with
  | nil => simp
  | cons group groups ih =>
      unfold checkExclusive at h
      dsimp only at h
      split_ifs at h with hpresent
      intro other hother
      rcases List.mem_cons.mp hother with rfl | hother
      · exact Nat.le_of_not_lt hpresent
      · exact ih h other hother

theorem parse_eq_ok {t : Text} {family : Family} {rules : List (Rule α)}
    {exclusive : List (List String)} {parsed : Parsed α}
    (h : parse t family rules exclusive = .ok parsed) :
    family.encloses t ∧ parsed.family = family ∧ parsed.text = Text.strip t ∧
      parsed.checkExclusive exclusive = .ok () ∧ ∃ left,
        Rule.extractAll family (Text.strip t) rules (Text.strip t) = .ok (parsed.values, left) ∧
        family.isBare left := by
  unfold parse at h
  split_ifs at h with henclosed
  obtain ⟨⟨values, left⟩, hextract, h⟩ := Outcome.bind_eq_ok.mp h
  obtain ⟨⟨⟩, hexclusive, h⟩ := Outcome.bind_eq_ok.mp h
  split_ifs at h with hbare
  obtain rfl := Except.ok.inj h
  exact ⟨henclosed, rfl, rfl, hexclusive, left, hextract, hbare⟩

theorem exists_read_of_mem_flat {t : Text} {family : Family} {rules : List (Rule α)}
    {exclusive : List (List String)} {parsed : Parsed α}
    (h : parse t family rules exclusive = .ok parsed) {v : α} (hv : v ∈ parsed.flat) :
    ∃ rule ∈ rules, ∃ f, rule.read f = .ok v := by
  obtain ⟨-, -, -, -, left, hextract, -⟩ := parse_eq_ok h
  exact Rule.exists_read_of_mem hextract hv

end Parsed

theorem Keyword.read_eq_ok [Almanac] {s : String} {k : Keyword}
    (h : Keyword.read (.text s) = .ok k) :
    match k with
    | .string parsed => StringModifier.parse s.toList = .ok parsed
    | .integer parsed => IntegerModifier.parse s.toList = .ok parsed
    | .datetime parsed => TemporalModifier.parse s.toList = .ok parsed := by
  obtain ⟨⟨family, t⟩, hfamily, h⟩ := Outcome.bind_eq_ok.mp h
  have ht : t = s.toList := by
    unfold familyOf at hfamily
    split at hfamily
    next found hfound =>
      obtain rfl := Except.ok.inj hfamily
      simp only [Datum.asText?, Option.bind_some, Option.map_eq_some_iff] at hfound
      obtain ⟨_, -, heq⟩ := hfound
      exact (Prod.mk.inj heq).2.symm
    next => simp at hfamily
  subst ht
  cases family with
  | string =>
      obtain ⟨parsed, hparse, rfl⟩ := Outcome.map_eq_ok.mp h
      exact hparse
  | integer =>
      obtain ⟨parsed, hparse, rfl⟩ := Outcome.map_eq_ok.mp h
      exact hparse
  | datetime =>
      obtain ⟨parsed, hparse, rfl⟩ := Outcome.map_eq_ok.mp h
      exact hparse

end FixtureKeywords
