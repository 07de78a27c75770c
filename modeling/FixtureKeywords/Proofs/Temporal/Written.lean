import FixtureKeywords.Proofs.Keyword.Conservation
import FixtureKeywords.Proofs.Keyword.Elimination
import FixtureKeywords.Proofs.Temporal.Braces

/-!
# Datetime keywords as they are written

A datetime keyword is written from clauses: a start and a zone, each given by a text
without braces, offsets, and empty braces that say nothing.

What kind of clause is written shows behind the opening brace. The first character there
that is not blank is a letter of a name, a sign or a digit, or the closing brace. So a rule
finds the clauses of its own kind and passes over all others.
-/
namespace FixtureKeywords
open Text Recogniser TemporalModifier

/-- What a datetime keyword says, as far as it can be said in writing. -/
inductive TemporalClause where
  | start (t : Text)
  | zone (id : Text)
  | offset (unit : TemporalUnit) (amount : Int)
  | empty
deriving DecidableEq, Repr

namespace TemporalClause

inductive IsWritten : TemporalClause → Text → Prop
  | start {t w : Text} : IsAssignment "start".toList t w → IsWritten (.start t) w
  | zone {id w : Text} : IsAssignment "zoneid".toList id w → IsWritten (.zone id) w
  | offset {unit : TemporalUnit} {amount : Int} {numeral w : Text} :
      WritesInteger amount numeral → IsOffset unit numeral w → IsWritten (.offset unit amount) w
  | empty {w : Text} : IsEmpty w → IsWritten .empty w

def owner : TemporalClause → String
  | start _ => "start"
  | zone _ => "zoneid"
  | offset _ _ => "offset"
  | empty => "empty"

/-- The first character behind the opening brace that is not blank. -/
def opening (t : Text) : Option Char :=
  (dropBlanks (t.drop 1)).head?

/-- The kind of clause that opens with a character, if any does. -/
def kindOf (c : Char) : String :=
  if letterKey c = 's' then "start"
  else if letterKey c = 'z' then "zoneid"
  else if c = '\x7d' then "empty"
  else "offset"

theorem opening_append {lead : Text} (hlead : isBlankText lead) {c : Char}
    (hc : isBlank c = false) (rest : Text) : opening ('\x7b' :: (lead ++ c :: rest)) = some c := by
  unfold opening
  rw [List.drop_one, List.tail_cons, dropBlanks_append_cons hlead hc]
  rfl

theorem opening_of_isAssignment {name payload w : Text} (hn : IsName name)
    (h : IsAssignment name payload w) (rest : Text) :
    ∃ c, opening (w ++ rest) = some c ∧ name.head? = some (letterKey c) := by
  obtain ⟨hlead, hs, hmiddle, -⟩ := h
  obtain ⟨c, cs, rfl, hc⟩ := hs.eq_cons hn
  refine ⟨c, ?_, ?_⟩
  · simp only [List.cons_append, List.append_assoc]
    exact opening_append hlead hc _
  · rw [← hs]
    rfl

theorem kindOf_digit {c : Char} (h : c.isDigit) : kindOf c = "offset" := by
  have hdigits : ∀ n, 48 ≤ n → n ≤ 57 → kindOf (Char.ofNat n) = "offset" := by
    intro n hlow hhigh
    interval_cases n <;> decide
  have hbounds : 48 ≤ c.toNat ∧ c.toNat ≤ 57 := by
    simp only [Char.isDigit, Bool.and_eq_true, decide_eq_true_eq, UInt32.le_iff_toNat_le,
      Char.reduceVal, UInt32.reduceToNat] at h
    exact h
  have hkind := hdigits c.toNat hbounds.1 hbounds.2
  rwa [Char.ofNat_toNat] at hkind

theorem kindOf_opening_start {payload w : Text} (h : IsAssignment "start".toList payload w)
    (rest : Text) : (opening (w ++ rest)).map kindOf = some "start" := by
  obtain ⟨c, hc, hletter⟩ := opening_of_isAssignment (by decide) h rest
  have hkey : letterKey c = 's' := (Option.some.inj hletter).symm
  rw [hc, Option.map_some, kindOf, if_pos hkey]

theorem kindOf_opening_zone {payload w : Text} (h : IsAssignment "zoneid".toList payload w)
    (rest : Text) : (opening (w ++ rest)).map kindOf = some "zoneid" := by
  obtain ⟨c, hc, hletter⟩ := opening_of_isAssignment (by decide) h rest
  have hkey : letterKey c = 'z' := (Option.some.inj hletter).symm
  have hother : letterKey c ≠ 's' := by
    rw [hkey]
    decide
  rw [hc, Option.map_some, kindOf, if_neg hother, if_pos hkey]

theorem kindOf_opening_offset {unit : TemporalUnit} {numeral w : Text}
    (h : IsOffset unit numeral w) (rest : Text) :
    (opening (w ++ rest)).map kindOf = some "offset" := by
  obtain ⟨hlead, hsign, hdigits, htrail⟩ := h
  obtain ⟨c, cs, hnumeral, hc, hkind⟩ := eq_cons_of_isSign hsign hdigits
  rw [hnumeral]
  simp only [List.cons_append, List.append_assoc]
  rw [opening_append hlead hc, Option.map_some, Option.some.injEq]
  rcases hkind with rfl | rfl | hdigit
  · decide
  · decide
  · exact kindOf_digit hdigit

theorem kindOf_opening_empty {w : Text} (h : IsEmpty w) (rest : Text) :
    (opening (w ++ rest)).map kindOf = some "empty" := by
  obtain ⟨hblank⟩ := h
  simp only [List.cons_append, List.append_assoc]
  rw [opening_append hblank (by decide)]
  decide

variable [Almanac]

def value : TemporalClause → Except Fault TemporalModifier
  | start t => (Moment.ofStart t).map .start
  | zone id => (Zone.ofId id).map .zone
  | offset unit amount => .ok (.offset unit amount)
  | empty => .ok .empty

/-- How datetime keywords are written and read. -/
def writing : Writing TemporalClause TemporalModifier :=
  ⟨IsWritten, owner, value⟩

/-- Every written clause is found by the rule of its kind, whatever follows. -/
theorem IsWritten.exists_rule {clause : TemporalClause} {w : Text} (h : IsWritten clause w) :
    ∃ rule ∈ rules, rule.name = clause.owner ∧ ∀ rest, ∃ payload,
      rule.recognise (w ++ rest) = some ⟨w, payload⟩ ∧ rule.read ⟨w, payload⟩ = clause.value := by
  cases h with
  | start hw =>
      refine ⟨_, List.mem_cons_self, rfl, fun rest => ⟨_, ?_, rfl⟩⟩
      exact (assignment_eq_some_iff (by decide)).mpr ⟨w, _, rest, hw, rfl, rfl⟩
  | zone hw =>
      refine ⟨_, List.mem_cons_of_mem _ List.mem_cons_self, rfl, fun rest => ⟨_, ?_, rfl⟩⟩
      exact (assignment_eq_some_iff (by decide)).mpr ⟨w, _, rest, hw, rfl, rfl⟩
  | @offset unit amount numeral _ hnumeral hw =>
      refine ⟨_, List.mem_cons_of_mem _ (List.mem_cons_of_mem _ List.mem_cons_self), rfl,
        fun rest => ⟨numeral ++ [unit.letter], ?_, ?_⟩⟩
      · exact recogniseOffset_append hw rest
      · obtain ⟨htrimmed, signed, hsigned, hread⟩ := hnumeral.read
        have hstrip : strip numeral = numeral := by
          simpa using strip_padded (b := []) (d := []) rfl htrimmed rfl
        simp [readOffset, readInteger, hstrip, hsigned, hread, TemporalUnit.ofLetter?_letter, value,
          Except.map]
  | empty hw =>
      refine ⟨_, List.mem_cons_of_mem _ (List.mem_cons_of_mem _ (List.mem_cons_of_mem _
        List.mem_cons_self)), rfl, fun rest => ⟨[], ?_, rfl⟩⟩
      exact recogniseEmpty_eq_some_iff.mpr ⟨w, rest, hw, rfl, rfl⟩

theorem kindOf_opening_of_recognise {rule : Rule TemporalModifier} (hrule : rule ∈ rules) {t : Text}
    {f : Fragment} (h : rule.recognise t = some f) : (opening t).map kindOf = some rule.name := by
  simp only [rules, List.mem_cons, List.not_mem_nil, or_false] at hrule
  rcases hrule with rfl | rfl | rfl | rfl
  · obtain ⟨w, payload, rest, hw, rfl, -⟩ := (assignment_eq_some_iff (by decide)).mp h
    exact kindOf_opening_start hw rest
  · obtain ⟨w, payload, rest, hw, rfl, -⟩ := (assignment_eq_some_iff (by decide)).mp h
    exact kindOf_opening_zone hw rest
  · obtain ⟨w, numeral, unit, rest, hw, rfl, -⟩ := recogniseOffset_eq_some_iff.mp h
    exact kindOf_opening_offset hw rest
  · obtain ⟨w, rest, hw, rfl, -⟩ := recogniseEmpty_eq_some_iff.mp h
    exact kindOf_opening_empty hw rest

theorem owner_mem (clause : TemporalClause) : clause.owner ∈ rules.map Rule.name := by
  cases clause <;> simp [owner, rules, Rule.assignment]

theorem handles_of_mem {rule : Rule TemporalModifier} (hrule : rule ∈ rules)
    (later : List String) : rule.Handles writing later where
  braced := (plain_of_mem hrule).braced
  own := by
    intro clause w clauses body hname hw _
    obtain ⟨other, hother, howner, hfound⟩ := IsWritten.exists_rule hw
    have heq : other = rule := List.inj_on_of_nodup_map nodup_names hother hrule
      (howner.trans hname)
    subst heq
    refine ⟨?_, hfound (body ++ [']'])⟩
    obtain ⟨payload, hrecognise, -⟩ := hfound (body ++ [']'])
    obtain ⟨inner, behind, -, hwhole, -⟩ := (plain_of_mem hother).braces hrecognise
    rintro rfl
    simp at hwhole
  other := by
    intro clause w _ hname hw rest
    obtain ⟨other, hother, howner, hfound⟩ := IsWritten.exists_rule hw
    obtain ⟨payload, hrecognise, -⟩ := hfound rest
    have hkind := kindOf_opening_of_recognise hother hrecognise
    obtain ⟨inner, behind, hinner, rfl, -⟩ := (plain_of_mem hother).braces hrecognise
    apply (plain_of_mem hrule).braced.split_cons_append
    · rw [List.mem_append, not_or]
      exact ⟨fun hmem => absurd (hinner _ hmem) (by decide), by decide⟩
    · by_contra hne
      obtain ⟨f, hf⟩ := Option.ne_none_iff_exists'.mp hne
      have hkind' := kindOf_opening_of_recognise hrule hf
      rw [List.cons_append] at hkind
      rw [hkind, Option.some.injEq] at hkind'
      exact hname (howner.symm.trans hkind')

theorem handled_rules : Rule.Handled writing rules :=
  Rule.handled_of_forall (fun _ => List.mem_map_of_mem) fun _ hrule => handles_of_mem hrule _

end TemporalClause

end FixtureKeywords
