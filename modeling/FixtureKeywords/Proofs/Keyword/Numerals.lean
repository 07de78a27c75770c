import FixtureKeywords.Proofs.Integers.Written
import FixtureKeywords.Proofs.Keyword.Parsing
import FixtureKeywords.Proofs.Strings.Addition
import FixtureKeywords.Zone.Recorded

/-!
# Numerals in the payloads of keywords

The payload of a range or of a length is taken apart into its numerals first. A payload that
is nothing of the kind is a wrong format, and so are bounds that cannot be. Between the two
stands the reading of the numerals, which has a limit of its own: a numeral with too many
digits stops the keyword by another fault.

So reading a keyword of strings or of integers comes to one of three ends, and which texts
come to the third one is said here without the reading: the text has the fragments of one
range or one length, and its numerals are not all within the limit. What else is wrong with
such a text is never found, unless it is found by a rule that comes first.
-/
namespace FixtureKeywords
open Text

namespace Text

/-- The number of digits of the first numeral that has more of them than are read. -/
def tooLong? (numerals : List Text) : Option Nat :=
  (numerals.map List.length).find? (digitLimit < ·)

end Text

theorem Text.tooLong?_cons (digits : Text) (numerals : List Text) :
    tooLong? (digits :: numerals) =
      if digits.length ≤ digitLimit then tooLong? numerals else some digits.length := by
  unfold tooLong?
  rw [List.map_cons, List.find?_cons]
  split_ifs with h
  · rw [decide_eq_false (by omega)]
  · rw [decide_eq_true (by omega)]

/-- An outcome is stopped by a numeral of so many digits. If it is not to be stopped, it has
no fault but in the format of a keyword. -/
def StopsAt {α : Type} (digits? : Option Nat) (outcome : Except Fault α) : Prop :=
  match digits? with
  | some n => outcome = .error (.numeralTooLong n)
  | none => ∀ fault, outcome = .error fault → ∃ cause, fault = .format cause

namespace StopsAt
variable {α β : Type} {digits? : Option Nat} {x : Except Fault α}

theorem ok (a : α) : StopsAt none (.ok a) := nofun

theorem format (cause : FormatFault) : StopsAt (α := α) none (.error (.format cause)) :=
  fun _ h => ⟨cause, (Except.error.inj h).symm⟩

/-- What comes behind a step does not matter to the numeral that stops it. -/
theorem bind (hx : StopsAt digits? x) {f : α → Except Fault β}
    (hf : ∀ a, x = .ok a → StopsAt none (f a)) : StopsAt digits? (x >>= f) := by
  cases digits? with
  | some n =>
      obtain rfl := hx
      rfl
  | none =>
      cases x with
      | error fault =>
          obtain ⟨cause, rfl⟩ := hx fault rfl
          exact format cause
      | ok a => exact hf a rfl

theorem bind_of_ok {a : α} (hx : x = .ok a) {f : α → Except Fault β}
    (hf : StopsAt digits? (f a)) : StopsAt digits? (x >>= f) := by
  rw [hx]
  exact hf

theorem map (hx : StopsAt digits? x) (f : α → β) : StopsAt digits? (x.map f) := by
  cases digits? with
  | some n =>
      obtain rfl := hx
      rfl
  | none =>
      cases x with
      | error fault =>
          obtain ⟨cause, rfl⟩ := hx fault rfl
          exact format cause
      | ok a => exact ok (f a)

theorem mapM {f : β → Except Fault α} {xs : List β} (hf : ∀ x ∈ xs, StopsAt none (f x)) :
    StopsAt none (xs.mapM f) := by
  induction xs with
  | nil => exact ok []
  | cons x xs ih =>
      rw [Outcome.mapM_cons]
      refine (hf x List.mem_cons_self).bind fun y _ => ?_
      exact (ih fun z hz => hf z (List.mem_cons_of_mem _ hz)).map _

theorem bind_numeral {digits : Text} {numerals : List Text} {a : α}
    (hx : x = if digits.length ≤ digitLimit then .ok a else .error (.numeralTooLong digits.length))
    {f : α → Except Fault β} (hf : ∀ a, StopsAt (tooLong? numerals) (f a)) :
    StopsAt (tooLong? (digits :: numerals)) (x >>= f) := by
  rw [tooLong?_cons, hx]
  split_ifs
  · exact hf a
  · rfl

theorem ends (hx : StopsAt digits? x) :
    (∀ fault, x = .error fault →
      (∃ cause, fault = .format cause) ∨ ∃ n, fault = .numeralTooLong n) ∧
    ∀ n, x = .error (.numeralTooLong n) ↔ digits? = some n := by
  cases digits? with
  | some n =>
      obtain rfl : x = .error (.numeralTooLong n) := hx
      constructor
      · intro fault h
        exact .inr ⟨n, (Except.error.inj h).symm⟩
      · simp
  | none =>
      constructor
      · intro fault h
        exact .inl (hx fault h)
      · intro n
        constructor
        · intro h
          obtain ⟨cause, hcause⟩ := hx _ h
          cases hcause
        · nofun

end StopsAt

namespace IntegerModifier

def rangeNumerals (payload : Text) : List Text :=
  match rangeParts? payload with
  | some (low, high) => [low.digits, high.digits]
  | none => []

/-- The numerals of a range without signs and blanks are what stands around its colon. -/
theorem rangeNumerals_of_isNumeral {first second : Text} (hfirst : isNumeral first)
    (hsecond : isNumeral second) : rangeNumerals (first ++ ':' :: second) = [first, second] := by
  have hcolon : ':' ∉ first := fun hmem => absurd (isDigit_of_mem hfirst ':' hmem) (by decide)
  have hparts : rangeParts? (first ++ ':' :: second) = some (⟨false, first⟩, ⟨false, second⟩) := by
    rw [rangeParts?_of_colon hcolon, (trimmed_of_isNumeral hfirst).strip_eq,
      (trimmed_of_isNumeral hsecond).strip_eq, signed?_of_isNumeral hfirst,
      signed?_of_isNumeral hsecond]
    rfl
  rw [rangeNumerals, hparts]

theorem stopsAt_readRange (f : Fragment) :
    StopsAt (tooLong? (rangeNumerals f.payload)) (readRange f) := by
  unfold rangeNumerals readRange
  cases rangeParts? f.payload with
  | none => exact .format _
  | some parts =>
      obtain ⟨low, high⟩ := parts
      refine .bind_numeral (Fault.liftNumeral_read low) fun n => ?_
      exact .bind_numeral (Fault.liftNumeral_read high) fun m => .ok _

end IntegerModifier

namespace StringModifier

def lengthNumerals (payload : Text) : List Text :=
  match lengthParts? payload with
  | some (first, second?) => first :: second?.toList
  | none => []

theorem stopsAt_readAddition (f : Fragment) : StopsAt none (readAddition f) := by
  unfold readAddition
  split_ifs
  · exact .format _
  · exact .ok _

theorem stopsAt_readLength (f : Fragment) :
    StopsAt (tooLong? (lengthNumerals f.payload)) (readLength f) := by
  have hchecked (shortest longest : Nat) : StopsAt none
      (if shortest < 1 then Except.error (Fault.format (.zeroLength f.shown))
      else if longest < shortest then .error (.format (.decreasingLength f.shown))
      else .ok (StringModifier.length shortest longest)) := by
    split_ifs
    · exact .format _
    · exact .format _
    · exact .ok _
  unfold lengthNumerals readLength
  cases lengthParts? f.payload with
  | none => exact .format _
  | some parts =>
      obtain ⟨first, second?⟩ := parts
      cases second? with
      | none =>
          exact .bind_numeral (Fault.liftNumeral_readDigits first) fun n => hchecked n n
      | some second =>
          refine .bind_numeral (Fault.liftNumeral_readDigits first) fun n => ?_
          exact .bind_numeral (Fault.liftNumeral_readDigits second) fun m => hchecked n m

end StringModifier

namespace Rule
variable {α : Type} {rule : Rule α} {rules : List (Rule α)} {family : Family}
  {keyword reduced : Text}

theorem stopsAt_extract (hread : ∀ f, StopsAt none (rule.read f)) :
    StopsAt none (rule.extract family keyword reduced) := by
  unfold extract
  dsimp only
  split_ifs
  · exact .format _
  · exact (StopsAt.mapM fun f _ => hread f).bind fun values _ => .ok _

theorem stopsAt_extractAll (hread : ∀ rule ∈ rules, ∀ f, StopsAt none (rule.read f)) :
    StopsAt none (extractAll family keyword rules reduced) := by
  induction rules generalizing reduced with
  | nil => exact .ok _
  | cons rule rules ih =>
      refine (stopsAt_extract (hread rule List.mem_cons_self)).bind fun found _ => ?_
      exact (ih fun r hr => hread r (List.mem_cons_of_mem _ hr)).bind fun _ _ => .ok _

/-- A modifier that occurs once at most is read only if it occurs once. So its pass stops where
the reading of that one payload does. -/
theorem stopsAt_extract_assignment {name : String} {read : Fragment → Except Fault α}
    {numerals : Text → List Text}
    (hread : ∀ f, StopsAt (tooLong? (numerals f.payload)) (read f)) :
    StopsAt
      (match Piece.fragments (Piece.split (Recogniser.assignment name.toList) reduced) with
        | [f] => tooLong? (numerals f.payload)
        | _ => none)
      ((assignment name read).extract family keyword reduced) := by
  unfold extract assignment
  dsimp only
  match hfound : Piece.fragments (Piece.split (Recogniser.assignment name.toList) reduced) with
  | [] => exact .ok _
  | [f] =>
      refine StopsAt.bind ?_ fun values _ => .ok _
      rw [Outcome.mapM_cons]
      exact (hread f).bind fun value _ => .ok _
  | _ :: _ :: _ =>
      rw [if_pos (by simp)]
      exact .format _

end Rule

namespace Parsed
variable {α : Type} {t : Text} {family : Family} {rules : List (Rule α)} {digits? : Option Nat}

theorem stopsAt_checkExclusive (p : Parsed α) (groups : List (List String)) :
    StopsAt none (p.checkExclusive groups) := by
  induction groups with
  | nil => exact .ok ()
  | cons group groups ih =>
      unfold checkExclusive
      dsimp only
      split_ifs
      · exact .format _
      · exact ih

theorem stopsAt_parse (henclosed : family.encloses t)
    (h : StopsAt digits? (Rule.extractAll family (strip t) rules (strip t)))
    (exclusive : List (List String)) : StopsAt digits? (parse t family rules exclusive) := by
  unfold parse
  rw [if_pos henclosed]
  refine h.bind fun found _ => ?_
  refine (stopsAt_checkExclusive _ exclusive).bind fun _ _ => ?_
  split_ifs
  · exact .ok _
  · exact .format _

end Parsed

namespace Keyword

/-- The digits of the numeral that stops the reading of a keyword. In an integer keyword it
stands in the range, if there is one range. In a string keyword it stands in the length, if
there is one length when the additions are gone and each of them has added something. -/
def tooLong? (family : Family) (t : Text) : Option Nat :=
  match family with
  | .integer =>
      match Piece.fragments (Piece.split (Recogniser.assignment "range".toList) (strip t)) with
      | [f] => Text.tooLong? (IntegerModifier.rangeNumerals f.payload)
      | _ => none
  | .string =>
      let pieces := Piece.split StringModifier.recogniseAddition (strip t)
      if (Piece.fragments pieces).all (!·.payload.isEmpty) then
        match Piece.fragments
            (Piece.split (Recogniser.assignment "length".toList) (Piece.blanked pieces)) with
        | [f] => Text.tooLong? (StringModifier.lengthNumerals f.payload)
        | _ => none
      else none
  | .datetime => none

theorem stopsAt_parse_integer {t : Text} (h : Family.integer.encloses t) :
    StopsAt (tooLong? .integer t) (IntegerModifier.parse t) := by
  refine Parsed.stopsAt_parse h ?_ _
  refine (Rule.stopsAt_extract_assignment IntegerModifier.stopsAt_readRange).bind
    fun found _ => ?_
  refine (Rule.stopsAt_extractAll ?_).bind fun _ _ => .ok _
  intro rule hrule f
  rcases List.mem_pair.mp hrule with rfl | rfl
  · exact .ok _
  · exact .ok _

theorem stopsAt_parse_string {t : Text} (h : Family.string.encloses t) :
    StopsAt (tooLong? .string t) (StringModifier.parse t) := by
  refine Parsed.stopsAt_parse h ?_ _
  have hflags (reduced : Text) : StopsAt none (Rule.extractAll .string (strip t)
      (CharClass.all.map fun c => Rule.flag c.name (StringModifier.select c)) reduced) := by
    refine Rule.stopsAt_extractAll fun rule hrule f => ?_
    obtain ⟨c, -, rfl⟩ := List.mem_map.mp hrule
    exact .ok _
  unfold tooLong?
  dsimp only
  split_ifs with hadds
  · -- All additions are read, and the length is looked for in what they leave.
    have hread : (Piece.fragments (Piece.split StringModifier.recogniseAddition (strip t))).mapM
        StringModifier.readAddition = .ok ((Piece.fragments
          (Piece.split StringModifier.recogniseAddition (strip t))).map (.addition ·.payload)) := by
      refine Outcome.mapM_of_forall_ok fun f hf => ?_
      refine StringModifier.readAddition_eq_ok.mpr ⟨?_, rfl⟩
      simpa using List.all_eq_true.mp hadds f hf
    refine StopsAt.bind_of_ok (Rule.extract_eq_ok.mpr ⟨by simp, hread, rfl⟩) ?_
    refine StopsAt.bind ?_ fun _ _ => .ok _
    refine (Rule.stopsAt_extract_assignment StringModifier.stopsAt_readLength).bind
      fun found _ => ?_
    exact (hflags found.2).bind fun _ _ => .ok _
  · -- An addition of nothing is a wrong format, whatever comes behind it.
    refine (Rule.stopsAt_extract StringModifier.stopsAt_readAddition).bind fun found hfound => ?_
    obtain ⟨-, hread, -⟩ := Rule.extract_eq_ok.mp hfound
    refine absurd (List.all_eq_true.mpr fun f hf => ?_) hadds
    obtain ⟨value, hvalue⟩ := Outcome.exists_of_mapM_eq_ok hread hf
    simpa using (StringModifier.readAddition_eq_ok.mp hvalue).1

theorem familyOf_text {s : String} {family : Family} (h : Family.of? s.toList = some family) :
    familyOf (.text s) = .ok (family, s.toList) := by
  simp [familyOf, Datum.asText?, h]

theorem family_of_read [Almanac] {s : String} {family : Family}
    (h : Family.of? s.toList = some family) {k : Keyword} (hread : read (.text s) = .ok k) : k.family = family := by
  obtain ⟨found, hfound, hread⟩ := Outcome.bind_eq_ok.mp hread
  obtain rfl := Except.ok.inj ((familyOf_text h).symm.trans hfound)
  cases family with
  | string =>
      obtain ⟨parsed, -, rfl⟩ := Outcome.map_eq_ok.mp hread
      rfl
  | integer =>
      obtain ⟨parsed, -, rfl⟩ := Outcome.map_eq_ok.mp hread
      rfl
  | datetime =>
      obtain ⟨parsed, -, rfl⟩ := Outcome.map_eq_ok.mp hread
      rfl

theorem stopsAt_read [Almanac] {s : String} {family : Family}
    (h : Family.of? s.toList = some family) (hfamily : family ≠ .datetime) :
    StopsAt (tooLong? family s.toList) (read (.text s)) := by
  have henclosed := Family.of?_eq_some_iff.mp h
  refine StopsAt.bind_of_ok (familyOf_text h) ?_
  cases family with
  | string => exact (stopsAt_parse_string henclosed).map string
  | integer => exact (stopsAt_parse_integer henclosed).map integer
  | datetime => exact absurd rfl hfamily

theorem tooLong?_range {payload w : Text} (hw : Recogniser.IsAssignment "range".toList payload w) :
    Family.integer.encloses ('[' :: (("randint".toList ++ w) ++ [']'])) ∧
      tooLong? .integer ('[' :: (("randint".toList ++ w) ++ [']'])) =
        Text.tooLong? (IntegerModifier.rangeNumerals payload) := by
  have henclosed : Family.integer.encloses ('[' :: (("randint".toList ++ w) ++ [']'])) := by
    have h := @Family.encloses_keyword .integer [] [] "randint".toList w [] rfl rfl (by decide) rfl
    simpa using h
  refine ⟨henclosed, ?_⟩
  have hstrip : strip ('[' :: (("randint".toList ++ w) ++ [']'])) =
      "[randint".toList ++ (w ++ [']']) := by
    have h := @Family.strip_keyword [] [] rfl rfl ("randint".toList ++ w)
    simpa using h
  have hfound : Recogniser.assignment "range".toList (w ++ [']']) = some ⟨w, payload⟩ :=
    (Recogniser.assignment_eq_some_iff (by decide)).mpr ⟨w, payload, [']'], hw, rfl, rfl⟩
  have hne : w ≠ [] := by
    cases hw
    exact List.cons_ne_nil _ _
  have hfront : Piece.fragments (Piece.split (Recogniser.assignment "range".toList)
      ("[randint".toList ++ (w ++ [']']))) = [⟨w, payload⟩] := by
    rw [(Recogniser.opens_assignment _).braced.split_append (by decide)]
    rw [@Piece.split_fragment _ ⟨w, payload⟩ [']'] hfound hne]
    simp only [Piece.fragments_append, Piece.fragments_map_char, Piece.fragments_fragment]
    rfl
  simp only [tooLong?, hstrip, hfront]

/-- Whatever the digits of the numerals of a range are, it is their number that stops it. -/
theorem read_range_of_long [Almanac] {first second : Text} (hfirst : isNumeral first)
    (hsecond : isNumeral second) {n : Nat} (hlong : Text.tooLong? [first, second] = some n)
    {s : String}
    (hs : s.toList = "[randint\x7brange=".toList ++ (first ++ ':' :: (second ++ "\x7d]".toList))) :
    Family.of? s.toList = some .integer ∧ read (.text s) = .error (.numeralTooLong n) := by
  have hw : Recogniser.IsAssignment "range".toList (first ++ ':' :: second)
      ('\x7b' :: ([] ++ ("range".toList ++ ([] ++ '=' :: ((first ++ ':' :: second) ++ ['\x7d']))))) := by
    refine .intro rfl (by decide) rfl fun c hc => ?_
    rw [List.mem_append, List.mem_cons] at hc
    rcases hc with hc | rfl | hc
    · exact Recogniser.isBrace_eq_false_of_isDigit (isDigit_of_mem hfirst c hc)
    · decide
    · exact Recogniser.isBrace_eq_false_of_isDigit (isDigit_of_mem hsecond c hc)
  obtain ⟨henclosed, hstops⟩ := tooLong?_range hw
  have hs' : s.toList = '[' :: (("randint".toList ++ '\x7b' :: ([] ++ ("range".toList ++
      ([] ++ '=' :: ((first ++ ':' :: second) ++ ['\x7d']))))) ++ [']']) := by
    rw [hs]
    simp
  rw [← hs'] at henclosed hstops
  have hread := stopsAt_read (Family.of?_eq_some_iff.mpr henclosed) (by decide)
  rw [hstops, IntegerModifier.rangeNumerals_of_isNumeral hfirst hsecond, hlong] at hread
  exact ⟨Family.of?_eq_some_iff.mpr henclosed, hread⟩

/-- A keyword of strings or of integers is accepted, or refused for its format, or stopped by a
numeral that is too long. The last is what happens exactly if its one range, or its one length,
has such a numeral. -/
theorem read_ends [Almanac] {s : String} {family : Family} (h : Family.of? s.toList = some family)
    (hfamily : family ≠ .datetime) :
    (∀ k, read (.text s) = .ok k → k.family = family) ∧
    (∀ fault, read (.text s) = .error fault →
      (∃ cause, fault = .format cause) ∨ ∃ digits, fault = .numeralTooLong digits) ∧
    ∀ digits, read (.text s) = .error (.numeralTooLong digits) ↔
      tooLong? family s.toList = some digits :=
  ⟨fun _ hread => family_of_read h hread, (stopsAt_read h hfamily).ends⟩

/-- A length that lacks its second bound is a wrong format, and no numeral is too long. -/
theorem read_ends_lone_hyphen :
    Family.of? "[randstring\x7blength=12-\x7d]".toList = some .string ∧
      tooLong? .string "[randstring\x7blength=12-\x7d]".toList = none ∧
      ∀ fault, read (.text "[randstring\x7blength=12-\x7d]") = .error fault →
        ∃ cause, fault = .format cause := by
  have hfamily : Family.of? "[randstring\x7blength=12-\x7d]".toList = some .string := by
    decide
  have hnone : tooLong? .string "[randstring\x7blength=12-\x7d]".toList = none := by
    decide
  obtain ⟨-, hends, hstops⟩ := read_ends hfamily (by decide)
  refine ⟨hfamily, hnone, fun fault hfault => (hends fault hfault).resolve_right ?_⟩
  rintro ⟨digits, rfl⟩
  cases hnone.symm.trans ((hstops digits).mp hfault)

/-- One digit more than is read. -/
theorem read_unreadable :
    let written := "[randint\x7brange=1:" ++ String.ofList (List.replicate 4301 '1') ++ "\x7d]"
    Family.of? written.toList = some .integer ∧
      read (.text written) = .error (.numeralTooLong 4301) := by
  intro written
  refine @read_range_of_long _ ['1'] (List.replicate 4301 '1') rfl ?_ 4301 ?_ written ?_
  · rw [isNumeral, Bool.and_eq_true, List.all_eq_true]
    refine ⟨rfl, fun c hc => ?_⟩
    rw [List.eq_of_mem_replicate hc]
    decide
  · rw [Text.tooLong?_cons, if_pos (by decide), Text.tooLong?_cons, List.length_replicate]
    rfl
  · simp only [written, String.toList_append, String.toList_ofList]
    rw [List.append_assoc]
    rfl

end Keyword
end FixtureKeywords
