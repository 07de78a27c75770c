import FixtureKeywords.Integers.Modifier
import FixtureKeywords.Proofs.Keyword.Elimination
import FixtureKeywords.Proofs.Text.Numeral

/-!
# Integer keywords as they are written

An integer keyword is written from ranges and parities. The bounds of a range carry at
most a minus sign; blanks may stand on either side of both of them, and a bound has no
more digits than are read, zeros in front of it counted.

The first colon of a range is the one between its bounds, since no numeral and no blank
is a colon. Around it the range falls apart into its numerals again.
-/
namespace FixtureKeywords
open Text Recogniser

namespace Text

inductive WritesBound : Int → Text → Prop
  | plain {n : Nat} {digits : Text} : Writes n digits → WritesBound n digits
  | minus {n : Nat} {digits : Text} : Writes n digits → WritesBound (-n) ('-' :: digits)

variable {n : Int} {t : Text}

theorem writesBound_toString (h : n.natAbs < 10 ^ digitLimit) :
    WritesBound n (toString n).toList := by
  rw [Int.toString_eq_repr, Int.repr_eq_if]
  split_ifs with hn
  · obtain ⟨k, rfl⟩ := Int.eq_ofNat_of_zero_le hn
    rw [Int.toNat_natCast, Nat.toList_repr]
    exact .plain (writes_toDigits h)
  · obtain ⟨k, rfl⟩ := Int.exists_eq_neg_ofNat (by omega : n ≤ 0)
    rw [String.toList_append, neg_neg, Int.toNat_natCast, Nat.toList_repr]
    rw [Int.natAbs_neg] at h
    exact .minus (writes_toDigits h)

theorem WritesBound.forall_mem (h : WritesBound n t) : ∀ c ∈ t, c = '-' ∨ c.isDigit := by
  intro c hc
  cases h with
  | plain hw => exact .inr (isDigit_of_mem hw.numeral c hc)
  | minus hw =>
      rcases List.mem_cons.mp hc with rfl | hc
      · exact .inl rfl
      · exact .inr (isDigit_of_mem hw.numeral c hc)

theorem WritesBound.not_mem (h : WritesBound n t) {c : Char} (hminus : c ≠ '-')
    (hdigit : c.isDigit = false) : c ∉ t := by
  intro hc
  rcases h.forall_mem c hc with rfl | hd
  · exact hminus rfl
  · simp [hdigit] at hd

theorem WritesBound.trimmed (h : WritesBound n t) : Trimmed t := by
  apply trimmed_of_forall
  intro c hc
  rcases h.forall_mem c hc with rfl | hd
  · decide
  · exact isBlank_of_isDigit hd

theorem WritesBound.read (h : WritesBound n t) :
    ∃ numeral, signed? false t = some numeral ∧ Fault.liftNumeral numeral.read = .ok n := by
  cases h with
  | plain hw => exact ⟨_, signed?_of_isNumeral hw.numeral false, Signed.lift hw false⟩
  | minus hw =>
      refine ⟨_, ?_, Signed.lift hw true⟩
      simp [signed?, hw.numeral]

end Text

namespace IntegerModifier

/-- How a range is written behind its equals sign. -/
inductive IsRange (low high : Int) : Text → Prop
  | intro {lead first before behind second trail : Text} : isBlankText lead →
      WritesBound low first → isBlankText before → isBlankText behind →
      WritesBound high second → isBlankText trail →
      IsRange low high ((lead ++ first ++ before) ++ ':' :: (behind ++ second ++ trail))

theorem IsRange.not_mem {low high : Int} {payload : Text} (h : IsRange low high payload) {c : Char}
    (hblank : isBlank c = false) (hdigit : c.isDigit = false) (hminus : c ≠ '-')
    (hcolon : c ≠ ':') : c ∉ payload := by
  obtain ⟨hlead, hfirst, hbefore, hbehind, hsecond, htrail⟩ := h
  simp [not_mem_of_isBlankText hlead hblank, hfirst.not_mem hminus hdigit,
    not_mem_of_isBlankText hbefore hblank, hcolon, not_mem_of_isBlankText hbehind hblank,
    hsecond.not_mem hminus hdigit, not_mem_of_isBlankText htrail hblank]

theorem IsRange.isBrace_eq_false {low high : Int} {payload : Text}
    (h : IsRange low high payload) : ∀ c ∈ payload, isBrace c = false := by
  intro c hc
  by_contra hbrace
  rw [Bool.not_eq_false] at hbrace
  simp only [isBrace, Bool.or_eq_true, beq_iff_eq] at hbrace
  rcases hbrace with rfl | rfl
  · exact h.not_mem (by decide) (by decide) (by decide) (by decide) hc
  · exact h.not_mem (by decide) (by decide) (by decide) (by decide) hc

theorem rangeParts?_of_colon {front : Text} (hfront : ':' ∉ front) (behind : Text) :
    rangeParts? (front ++ ':' :: behind) =
      (signed? false (strip front)).bind fun low =>
        (signed? false (strip behind)).map fun high => (low, high) := by
  have hcolon : ∀ c ∈ front, (c != ':') = true := by
    intro c hc
    rw [bne_iff_ne]
    rintro rfl
    exact hfront hc
  unfold rangeParts?
  rw [List.takeWhile_append_of_pos hcolon, List.dropWhile_append_of_pos hcolon,
    List.takeWhile_cons_of_neg (by decide), List.dropWhile_cons_of_neg (by decide),
    List.append_nil]
  simp only [dropChar?, if_true, Option.bind_eq_bind, Option.bind_some, Option.map_eq_bind]
  rfl

theorem readRange_of_isRange {low high : Int} {f : Fragment} (h : IsRange low high f.payload) :
    readRange f = .ok (.range low high) := by
  unfold readRange
  generalize f.payload = payload at h
  obtain ⟨hlead, hfirst, hbefore, hbehind, hsecond, htrail⟩ := h
  rename_i lead first before behind second trail
  have hfront : ':' ∉ lead ++ first ++ before := by
    simp [not_mem_of_isBlankText hlead (show isBlank ':' = false by decide),
      hfirst.not_mem (show ':' ≠ '-' by decide) (by decide),
      not_mem_of_isBlankText hbefore (show isBlank ':' = false by decide)]
  obtain ⟨lowNumeral, hlow, hlowRead⟩ := hfirst.read
  obtain ⟨highNumeral, hhigh, hhighRead⟩ := hsecond.read
  have hparts : rangeParts? ((lead ++ first ++ before) ++ ':' :: (behind ++ second ++ trail)) =
      some (lowNumeral, highNumeral) := by
    rw [rangeParts?_of_colon hfront, strip_padded hlead hfirst.trimmed hbefore,
      strip_padded hbehind hsecond.trimmed htrail, hlow, hhigh]
    rfl
  rw [hparts]
  simp [hlowRead, hhighRead, bind, Except.bind]

def name : IntegerModifier → String
  | range _ _ => "range"
  | parity wanted => wanted.name

inductive IsWritten : IntegerModifier → Text → Prop
  | range {low high : Int} {payload w : Text} : IsRange low high payload →
      IsAssignment "range".toList payload w → IsWritten (.range low high) w
  | parity {wanted : Parity} {w : Text} : IsFlag wanted.name.toList w →
      IsWritten (.parity wanted) w

def writing : Writing IntegerModifier IntegerModifier :=
  ⟨IsWritten, name, .ok⟩

theorem mem_rules_iff {rule : Rule IntegerModifier} : rule ∈ rules ↔
    rule = Rule.assignment "range" readRange ∨
      ∃ wanted : Parity, rule = Rule.flag wanted.name (.parity wanted) := by
  simp only [rules, List.mem_cons, List.not_mem_nil, or_false]
  constructor
  · rintro (rfl | rfl | rfl)
    · exact .inl rfl
    · exact .inr ⟨.even, rfl⟩
    · exact .inr ⟨.odd, rfl⟩
  · rintro (rfl | ⟨_ | _, rfl⟩)
    · exact .inl rfl
    · exact .inr (.inl rfl)
    · exact .inr (.inr rfl)

theorem name_mem (m : IntegerModifier) : m.name ∈ rules.map Rule.name := by
  cases m with
  | range _ _ => exact List.mem_cons_self
  | parity wanted => exact List.mem_cons_of_mem _ (by cases wanted <;> decide)

theorem nodup_names : (rules.map Rule.name).Nodup := by decide

theorem isName_of_mem {name : String} (h : name ∈ rules.map Rule.name) : IsName name.toList :=
  (by decide : ∀ name ∈ rules.map Rule.name, IsName name.toList) name h

theorem not_prefix_of_ne {name other : String} (h : name ∈ rules.map Rule.name)
    (ho : other ∈ rules.map Rule.name) (hne : name ≠ other) :
    ¬ name.toList <+: other.toList :=
  (by decide : ∀ a ∈ rules.map Rule.name, ∀ b ∈ rules.map Rule.name, a ≠ b →
    ¬ a.toList <+: b.toList) name h other ho hne

theorem opens_of_mem {rule : Rule IntegerModifier} (h : rule ∈ rules) :
    Opens rule.name.toList rule.recognise := by
  rcases mem_rules_iff.mp h with rfl | ⟨wanted, rfl⟩
  · exact opens_assignment _
  · exact opens_flag _

theorem eq_range_of_name {m : IntegerModifier} (h : m.name = "range") :
    ∃ low high, m = .range low high := by
  cases m with
  | range low high => exact ⟨low, high, rfl⟩
  | parity wanted => cases wanted <;> simp [name, Parity.name] at h

theorem eq_parity_of_name {m : IntegerModifier} {wanted : Parity} (h : m.name = wanted.name) :
    m = .parity wanted := by
  cases m with
  | range _ _ => cases wanted <;> simp [name, Parity.name] at h
  | parity other => cases other <;> cases wanted <;> simp [name, Parity.name] at h ⊢

/-- Behind the opening brace of a modifier stands its name, and no other brace opens. -/
theorem IsWritten.opening {m : IntegerModifier} {w : Text} (h : IsWritten m w) :
    ∃ lead s tail, isBlankText lead ∧ Reads m.name.toList s ∧
      w = '\x7b' :: (lead ++ (s ++ tail)) ∧ '\x7b' ∉ tail := by
  cases h with
  | range hrange hw =>
      obtain ⟨hlead, hs, hmiddle, -⟩ := hw
      refine ⟨_, _, _, hlead, hs, rfl, ?_⟩
      simp [not_mem_of_isBlankText hmiddle (show isBlank '\x7b' = false by decide),
        hrange.not_mem (show isBlank '\x7b' = false by decide) (by decide) (by decide) (by decide)]
  | parity hw =>
      obtain ⟨hlead, hs, htrail⟩ := hw
      refine ⟨_, _, _, hlead, hs, rfl, ?_⟩
      simp [not_mem_of_isBlankText htrail (show isBlank '\x7b' = false by decide)]

/-- A rule reads the modifiers of its name where they are written, whatever follows. -/
theorem recognise_written {rule : Rule IntegerModifier} (hrule : rule ∈ rules)
    {m : IntegerModifier} {w : Text} (hname : m.name = rule.name) (hw : IsWritten m w)
    (rest : Text) : ∃ payload,
      rule.recognise (w ++ rest) = some ⟨w, payload⟩ ∧ rule.read ⟨w, payload⟩ = .ok m := by
  rcases mem_rules_iff.mp hrule with rfl | ⟨wanted, rfl⟩
  · obtain ⟨low, high, rfl⟩ := eq_range_of_name hname
    obtain ⟨hrange, hw⟩ | ⟨⟩ := hw
    exact ⟨_, (assignment_eq_some_iff (by decide)).mpr ⟨w, _, rest, hw, rfl, rfl⟩,
      readRange_of_isRange hrange⟩
  · obtain rfl := eq_parity_of_name hname
    obtain ⟨⟩ | ⟨hw⟩ := hw
    exact ⟨[], (flag_eq_some_iff (isName_of_mem (parity wanted).name_mem)).mpr
      ⟨w, rest, hw, rfl, rfl⟩, rfl⟩

theorem handles_of_mem {rule : Rule IntegerModifier} (hrule : rule ∈ rules)
    (later : List String) : rule.Handles writing later where
  braced := (opens_of_mem hrule).braced
  own := by
    intro m w ms body hname hw _
    obtain ⟨lead, s, tail, -, -, rfl, -⟩ := IsWritten.opening hw
    exact ⟨List.cons_ne_nil _ _, recognise_written hrule hname hw _⟩
  other := by
    intro m w _ hname hw rest
    have hrule' : rule.name ∈ rules.map Rule.name := List.mem_map_of_mem hrule
    obtain ⟨lead, s, tail, hlead, hs, rfl, htail⟩ := IsWritten.opening hw
    exact (opens_of_mem hrule).split_append (isName_of_mem m.name_mem) hs hlead
      (not_prefix_of_ne hrule' m.name_mem (Ne.symm hname))
      (not_prefix_of_ne m.name_mem hrule' hname) htail rest

theorem handled_rules : Rule.Handled writing rules :=
  Rule.handled_of_forall (fun _ => List.mem_map_of_mem) fun _ hrule => handles_of_mem hrule _

end IntegerModifier

end FixtureKeywords
