import FixtureKeywords.Integers.Builder
import FixtureKeywords.Proofs.Integers.RoundTrip

/-!
# Integer keywords and calls

A range and a parity can be asked for by a keyword or by calls. Between bounds that
increase there are two integers in a row, so one of either parity, and both ways make
the same draw.

The ways part where the bounds are equal. The call for a range refuses them before a
parity is known. The keyword compares them when the parity is known, and yields the only
integer between them if it is of that parity.
-/
namespace FixtureKeywords

theorem Parity.above_le_below (wanted : Parity) {low high : Int} (h : low < high) :
    wanted.above low ≤ wanted.below high := by
  cases wanted <;> simp only [above, below, holds, beq_iff_eq, bne_iff_ne] <;> split_ifs <;> omega

namespace Sample
variable {low high : Int}

theorem exists_within (h : low < high) (wanted : Option Parity) :
    ∃ program, within wanted low high = .ok program := by
  cases wanted with
  | none => exact ⟨_, dif_neg (by omega)⟩
  | some wanted =>
      have hfirst := wanted.above_le_below h
      refine ⟨_, (if_neg (by omega)).trans (dif_neg (by omega))⟩

theorem ofParity_self {wanted : Parity} {n : Int} (h : wanted.holds n) :
    ofParity wanted n n = .ok ((DrawProgram.between 0 0 le_rfl).map fun k => n + 2 * k) := by
  simp [ofParity, Parity.above, Parity.below, h]

/-- Bounds that do not increase are refused, unless they are equal and of the parity. -/
theorem exists_within_eq_error (h : high ≤ low) {wanted : Option Parity}
    (hwanted : ¬ (low = high ∧ wanted.any (·.holds low))) :
    ∃ cause : ArgumentFault, within wanted low high = .error cause.raised ∧
      cause.integers = [low, high] := by
  cases wanted with
  | none => exact ⟨.notIncreasing low high, dif_pos h, rfl⟩
  | some wanted =>
      by_cases hlt : high < low
      · exact ⟨.decreasing low high, if_pos hlt, rfl⟩
      · obtain rfl : low = high := by omega
        have hnot : wanted.holds low = false := by simpa using hwanted
        refine ⟨.noneOfParity low low wanted, (if_neg hlt).trans (dif_pos ?_), rfl⟩
        simp only [Parity.above, Parity.below, hnot, Bool.false_eq_true, if_false]
        omega

end Sample

/-- A keyword for a range and, if one is wanted, a parity. -/
def IntegerModifier.keyword (low high : Int) (wanted : Option Parity) : String :=
  "[randint\x7brange=" ++ toString low ++ ":" ++ toString high ++ "\x7d" ++
    (wanted.elim "" fun p => "\x7b" ++ p.name ++ "\x7d") ++ "]"

namespace IntegerBuilder
variable {low high : Int}

/-- The calls for a range and, if one is wanted, a parity, and then for the result. -/
def chain (low high : Int) (wanted : Option Parity) : Except Fault (DrawProgram Int) := do
  let ranged ← fresh.setRange low high
  let asked ← wanted.elim (.ok ranged) ranged.setParity
  asked.build

theorem chain_eq (low high : Int) (wanted : Option Parity) :
    chain low high wanted =
      if high ≤ low then .error (ArgumentFault.notIncreasing low high).raised
      else Sample.within wanted low high := by
  unfold chain setRange
  dsimp only [fresh]
  split_ifs
  · rfl
  · cases wanted <;> rfl

end IntegerBuilder

namespace IntegerModifier
variable {low high : Int}

theorem toList_keyword (low high : Int) (wanted : Option Parity) :
    (keyword low high wanted).toList = '[' :: ("randint".toList ++ '\x7b' ::
      ("range".toList ++ ['='])) ++ (toString low).toList ++ [':'] ++ (toString high).toList ++
      ['\x7d'] ++ (wanted.elim "" fun p => "\x7b" ++ p.name ++ "\x7d").toList ++ [']'] := by
  have hopening : "[randint\x7brange=".toList = '[' :: ("randint".toList ++ '\x7b' ::
      ("range".toList ++ ['='])) := rfl
  unfold keyword
  repeat rw [String.toList_append]
  rw [hopening]
  rfl

theorem isBody_parity (wanted : Option Parity) :
    writing.IsBody (wanted.toList.map .parity)
      (wanted.elim "" fun p => "\x7b" ++ p.name ++ "\x7d").toList := by
  have hblank : Text.isBlankText [] := rfl
  cases wanted with
  | none => exact .nil hblank
  | some wanted =>
      have hflag : Recogniser.IsFlag wanted.name.toList _ :=
        .intro hblank (by cases wanted <;> decide : Text.Reads _ wanted.name.toList) hblank
      have hbody : writing.IsBody [.parity wanted] _ :=
        .cons hblank (.parity hflag) (.nil hblank)
      simpa using hbody

theorem isKeyword_keyword (hlow : low.natAbs < 10 ^ Text.digitLimit)
    (hhigh : high.natAbs < 10 ^ Text.digitLimit) (wanted : Option Parity) :
    writing.IsKeyword .integer (.range low high :: wanted.toList.map .parity)
      (keyword low high wanted).toList := by
  have hblank : Text.isBlankText [] := rfl
  have hpayload := IsRange.intro hblank (Text.writesBound_toString hlow) hblank hblank
    (Text.writesBound_toString hhigh) hblank
  have hrange : Recogniser.IsAssignment "range".toList _ _ :=
    .intro hblank (rfl : Text.Reads _ "range".toList) hblank hpayload.isBrace_eq_false
  have hbody : writing.IsBody (.range low high :: wanted.toList.map .parity) _ :=
    .cons hblank (.range hpayload hrange) (isBody_parity wanted)
  have hkeyword : writing.IsKeyword .integer (.range low high :: wanted.toList.map .parity) _ :=
    .intro hblank hblank (by decide : Text.Reads _ "randint".toList) hbody hblank
  rw [toList_keyword]
  simpa only [List.append_assoc, List.nil_append, List.append_nil, List.cons_append] using hkeyword

def drawn (low high : Int) (wanted : Option Parity) : Except Fault (DrawProgram Int) :=
  (generate (keyword low high wanted).toList).map (DrawProgram.map Logged.value)

theorem drawn_eq (hlow : low.natAbs < 10 ^ Text.digitLimit)
    (hhigh : high.natAbs < 10 ^ Text.digitLimit) (wanted : Option Parity) :
    drawn low high wanted = Sample.within wanted low high := by
  have hkeyword := isKeyword_keyword hlow hhigh wanted
  cases wanted with
  | none => exact (generate_of_consistent hkeyword (by simp [bounds?]) (by simp)).2
  | some wanted =>
      have hboth : ¬ (parity .even ∈ [range low high, parity wanted] ∧
          parity .odd ∈ [range low high, parity wanted]) := by
        cases wanted <;> simp
      exact (generate_of_consistent hkeyword (by simp [bounds?]) hboth).2

end IntegerModifier

/-- Two ways to an integer have the same outcome: they draw it alike, or both refuse. -/
inductive SameOutcome : Except Fault (DrawProgram Int) → Except Fault (DrawProgram Int) → Prop
  | drawn (program : DrawProgram Int) : SameOutcome (.ok program) (.ok program)
  | refused (cause other : ArgumentFault) :
      SameOutcome (.error (.argument cause)) (.error (.argument other))

namespace IntegerBuilder
open IntegerModifier (drawn drawn_eq)

/-- Calls and keyword have the same outcome, except for equal bounds of the parity that is
wanted. These are refused as a range of a builder and drawn by the keyword. -/
theorem chain_drawn {low high : Int} (hlow : low.natAbs < 10 ^ Text.digitLimit)
    (hhigh : high.natAbs < 10 ^ Text.digitLimit) (wanted : Option Parity) :
    if low = high ∧ wanted.any (·.holds low) then
      chain low high wanted = .error (.argument (.notIncreasing low high)) ∧
        drawn low high wanted = .ok ((DrawProgram.between 0 0 le_rfl).map fun k => low + 2 * k)
    else SameOutcome (chain low high wanted) (drawn low high wanted) := by
  have htold {cause : ArgumentFault} (h : cause.integers = [low, high]) :
      cause.raised = .argument cause :=
    ArgumentFault.raised_of_isShort (by simp [ArgumentFault.IsShort, h, hlow, hhigh])
  rw [chain_eq, drawn_eq hlow hhigh, htold rfl]
  -- The calls compare the bounds first, the keyword when the parity is known.
  split_ifs with hself hrefused hrefused
  · obtain ⟨rfl, hholds⟩ := hself
    cases wanted with
    | none => cases hholds
    | some wanted => exact ⟨rfl, Sample.ofParity_self hholds⟩
  · omega
  · obtain ⟨cause, hcause, hintegers⟩ := Sample.exists_within_eq_error hrefused hself
    rw [hcause, htold hintegers]
    exact .refused _ _
  · obtain ⟨program, hprogram⟩ := Sample.exists_within (Int.lt_of_not_ge hrefused) wanted
    rw [hprogram]
    exact .drawn program

theorem chain_drawn_dice :
    SameOutcome (chain 1 6 (some .odd)) (drawn 1 6 (some .odd)) := by
  have hdigits {n : Int} (hn : n.natAbs < 10 ^ 1) : n.natAbs < 10 ^ Text.digitLimit :=
    hn.trans_le (Nat.pow_le_pow_right (by decide) (by decide))
  have hsame := chain_drawn (hdigits (by decide : (1 : Int).natAbs < 10 ^ 1))
    (hdigits (by decide : (6 : Int).natAbs < 10 ^ 1)) (some .odd)
  rwa [if_neg (by decide)] at hsame

/-- The only even integer between 4 and 4 is drawn by the keyword and not by the builder. -/
theorem chain_refuses_self : ¬ SameOutcome (chain 4 4 (some .even)) (drawn 4 4 (some .even)) := by
  have hrefused : chain 4 4 (some .even) = .error (.argument (.notIncreasing 4 4)) := rfl
  have hdrawn : (drawn 4 4 (some .even)).isOk = true := by decide
  rw [hrefused]
  cases h : drawn 4 4 (some .even) with
  | error fault =>
      rw [h] at hdrawn
      cases hdrawn
  | ok program => rintro ⟨⟩

end IntegerBuilder

end FixtureKeywords
