import FixtureKeywords.Proofs.Keyword.Parsing
import FixtureKeywords.Proofs.Strings.Written
import FixtureKeywords.Proofs.Temporal.Braces
import FixtureKeywords.Zone.Recorded

/-!
# Conservation of braces

Reading by elimination loses no modifier and counts none twice. What a pass finds it
takes out of the text, and each fragment has one pair of braces besides those in the
payload that its value keeps; only additions keep any. So in every pass the braces that
go are the values that come and the braces of their payloads. In the end a bare text is
left, which has no braces, and the account is closed.
-/
namespace FixtureKeywords
open Recogniser

namespace Piece

theorem count_joined {c : Char} (hc : c ≠ ' ') (pieces : List Piece) :
    (joined pieces).count c =
      (blanked pieces).count c + ((fragments pieces).map (·.whole.count c)).sum := by
  induction pieces with
  | nil => rfl
  | cons piece pieces ih =>
      cases piece with
      | char d =>
          rw [joined_char, blanked_char, fragments_char, List.count_cons, List.count_cons, ih]
          omega
      | fragment f =>
          rw [joined_fragment, blanked_fragment, fragments_fragment, List.count_append,
            List.count_cons_of_ne hc.symm, List.map_cons, List.sum_cons, ih]
          omega

theorem exists_of_mem_fragments {recognise : Recogniser} {t : Text} {f : Fragment}
    (h : f ∈ fragments (split recognise t)) : ∃ front, recognise front = some f := by
  have key (t : Text) : ∀ skip, f ∈ fragments (splitFrom recognise skip t) →
      ∃ front, recognise front = some f := by
    induction t with
    | nil => simp [splitFrom, fragments_nil]
    | cons c cs ih =>
        rintro (_ | skip)
        · rw [splitFrom]
          split
          next g hg =>
            rw [fragments_fragment, List.mem_cons]
            rintro (rfl | hmem)
            · exact ⟨_, hg⟩
            · exact ih _ hmem
          next =>
            rw [fragments_char]
            exact ih 0
        · exact ih skip
  exact key t 0 h

end Piece

namespace Rule
variable {α : Type} {rule : Rule α} {rules : List (Rule α)} {kept : α → Text} {family : Family}
  {keyword reduced next left : Text} {values : List α} {entries : List (String × List α)}

/-- The braces of a fragment are one pair of its own and those that its value keeps. -/
structure Accounts (rule : Rule α) (kept : α → Text) : Prop where
  sound : rule.recognise.Sound
  count : ∀ {t : Text} {f : Fragment} {v : α}, rule.recognise t = some f → rule.read f = .ok v →
    ∀ {c : Char}, isBrace c → f.whole.count c = 1 + (kept v).count c

theorem accounts_of_plain (h : Plain rule.recognise) (hkept : ∀ {t f v},
    rule.recognise t = some f → rule.read f = .ok v → kept v = []) : rule.Accounts kept where
  sound := h.sound
  count := by
    intro t f v hf hv c hc
    rw [h.count hf hc, hkept hf hv]
    rfl

theorem Accounts.sum_count (h : rule.Accounts kept) {found : List Fragment}
    (hfound : ∀ f ∈ found, ∃ front, rule.recognise front = some f)
    (hread : List.Forall₂ (fun f v => rule.read f = .ok v) found values) {c : Char}
    (hc : isBrace c) :
    (found.map (·.whole.count c)).sum = values.length + (values.flatMap kept).count c := by
  induction hread with
  | nil => rfl
  | @cons f v found values hv _ ih =>
      obtain ⟨front, hfront⟩ := hfound f List.mem_cons_self
      have hrest := ih fun g hg => hfound g (List.mem_cons_of_mem _ hg)
      rw [List.map_cons, List.sum_cons, h.count hfront hv hc, hrest, List.flatMap_cons,
        List.count_append, List.length_cons]
      omega

theorem Accounts.count_extract (h : rule.Accounts kept)
    (hx : rule.extract family keyword reduced = .ok (values, next)) {c : Char} (hc : isBrace c) :
    reduced.count c = next.count c + (values.length + (values.flatMap kept).count c) := by
  obtain ⟨-, hread, rfl⟩ := extract_eq_ok.mp hx
  have hspace : c ≠ ' ' := by
    rintro rfl
    exact absurd hc (by decide)
  have hjoined := Piece.count_joined hspace (Piece.split rule.recognise reduced)
  rw [Piece.joined_split h.sound, h.sum_count (fun f hf => Piece.exists_of_mem_fragments hf)
    (Outcome.forall₂_of_mapM_eq_ok hread) hc] at hjoined
  exact hjoined

/-- All passes of a table take out the braces that their values account for. -/
theorem count_extractAll (h : ∀ rule ∈ rules, rule.Accounts kept)
    (hx : extractAll family keyword rules reduced = .ok (entries, left)) {c : Char}
    (hc : isBrace c) :
    reduced.count c = left.count c +
      ((entries.flatMap Prod.snd).length + ((entries.flatMap Prod.snd).flatMap kept).count c) := by
  induction rules generalizing reduced entries with
  | nil =>
      obtain ⟨rfl, rfl⟩ := Prod.mk.inj (Except.ok.inj hx)
      rfl
  | cons rule rules ih =>
      obtain ⟨values, next, others, hextract, hothers, rfl⟩ := extractAll_cons_eq_ok.mp hx
      have hfirst := (h rule List.mem_cons_self).count_extract hextract hc
      have hrest := ih (fun r hr => h r (List.mem_cons_of_mem _ hr)) hothers
      rw [flatMap_snd_entry]
      simp only [List.length_append, List.flatMap_append, List.count_append] at hfirst hrest ⊢
      omega

/-- What the passes of a table record: under each name at most one list, never an empty
one, and as many values in it as the rule allows. -/
theorem recorded_of_extractAll
    (hx : extractAll family keyword rules reduced = .ok (entries, left)) :
    (entries.map Prod.fst).Sublist (rules.map Rule.name) ∧
      ∀ entry ∈ entries, entry.2 ≠ [] ∧ ∃ rule ∈ rules, rule.name = entry.1 ∧
        ∀ k, rule.limit = some k → entry.2.length ≤ k := by
  induction rules generalizing reduced entries with
  | nil =>
      obtain ⟨rfl, rfl⟩ := Prod.mk.inj (Except.ok.inj hx)
      simp
  | cons rule rules ih =>
      obtain ⟨values, next, others, hextract, hothers, rfl⟩ := extractAll_cons_eq_ok.mp hx
      obtain ⟨hlimit, hread, -⟩ := extract_eq_ok.mp hextract
      rw [Outcome.length_of_mapM_eq_ok hread] at hlimit
      obtain ⟨hnames, hentries⟩ := ih hothers
      have hlater : ∀ entry ∈ others, entry.2 ≠ [] ∧ ∃ r ∈ rule :: rules, r.name = entry.1 ∧
          ∀ k, r.limit = some k → entry.2.length ≤ k := by
        intro entry hentry
        obtain ⟨hne, r, hr, hname⟩ := hentries entry hentry
        exact ⟨hne, r, List.mem_cons_of_mem _ hr, hname⟩
      cases values with
      | nil => exact ⟨hnames.cons _, hlater⟩
      | cons v vs =>
          refine ⟨hnames.cons_cons _, ?_⟩
          intro entry hentry
          rcases List.mem_cons.mp hentry with rfl | hentry
          · exact ⟨List.cons_ne_nil v vs, rule, List.mem_cons_self, rfl, hlimit⟩
          · exact hlater entry hentry

end Rule

namespace Parsed
variable {α : Type} {rules : List (Rule α)} {kept : α → Text} {family : Family} {t : Text}
  {exclusive : List (List String)} {parsed : Parsed α}

/-- The account of a text that was read: its braces of either kind are one for each value
and those that the values keep. No name is recorded twice or without a value. -/
structure Balanced (parsed : Parsed α) (kept : α → Text) (t : Text) : Prop where
  opening : t.count '\x7b' = parsed.flat.length + (parsed.flat.flatMap kept).count '\x7b'
  closing : t.count '\x7d' = parsed.flat.length + (parsed.flat.flatMap kept).count '\x7d'
  distinct : (parsed.values.map Prod.fst).Nodup
  recorded : ∀ entry ∈ parsed.values, entry.2 ≠ []

theorem balanced_of_parse (h : parse t family rules exclusive = .ok parsed)
    (hrules : ∀ rule ∈ rules, rule.Accounts kept) (hnames : (rules.map Rule.name).Nodup) :
    parsed.Balanced kept t := by
  obtain ⟨-, -, -, -, left, hextract, hbare⟩ := parse_eq_ok h
  obtain ⟨hsub, hentries⟩ := Rule.recorded_of_extractAll hextract
  have hcount {c : Char} (hc : isBrace c) (hblank : Text.isBlank c = false) (hleft : c ∉ left) :
      t.count c = parsed.flat.length + (parsed.flat.flatMap kept).count c := by
    obtain ⟨b, d, hb, hd, ht⟩ := Text.exists_strip t
    have hstrip := Rule.count_extractAll hrules hextract hc
    rw [List.count_eq_zero.mpr hleft] at hstrip
    rw [ht, List.count_append, List.count_append, hstrip,
      List.count_eq_zero.mpr (Text.not_mem_of_isBlankText hb hblank),
      List.count_eq_zero.mpr (Text.not_mem_of_isBlankText hd hblank), flat]
    omega
  exact ⟨hcount (by decide) (by decide) (Family.not_mem_of_isBare hbare (by decide) (by decide)
      (by decide) (by decide)),
    hcount (by decide) (by decide) (Family.not_mem_of_isBare hbare (by decide) (by decide)
      (by decide) (by decide)),
    hnames.sublist hsub, fun entry hentry => (hentries entry hentry).1⟩

theorem length_all_le (h : parse t family rules exclusive = .ok parsed) {name : String} {k : Nat}
    (hlimit : ∀ rule ∈ rules, rule.name = name → rule.limit = some k) :
    (parsed.all name).length ≤ k := by
  obtain ⟨-, -, -, -, left, hextract, -⟩ := parse_eq_ok h
  unfold all
  cases hlookup : parsed.values.lookup name with
  | none => exact Nat.zero_le k
  | some values =>
      have hmem : (name, values) ∈ parsed.values := by
        obtain ⟨front, back, hvalues, -⟩ := List.lookup_eq_some_iff.mp hlookup
        simp [hvalues]
      obtain ⟨-, rule, hrule, hname, hle⟩ :=
        (Rule.recorded_of_extractAll hextract).2 _ hmem
      exact hle k (hlimit rule hrule hname)

theorem not_has_of_exclusive {name other : String}
    (h : parse t family rules [[name, other]] = .ok parsed) :
    ¬ (parsed.has name ∧ parsed.has other) := by
  obtain ⟨-, -, -, hexclusive, -⟩ := parse_eq_ok h
  have hpresent := checkExclusive_eq_ok hexclusive _ List.mem_cons_self
  rintro ⟨hname, hother⟩
  simp [hname, hother] at hpresent

end Parsed

namespace StringModifier

/-- The text that the value of a modifier keeps as it was written. -/
def kept (m : StringModifier) : Text :=
  m.added?.getD []

theorem plain_of_mem {rule : Rule StringModifier} (h : rule ∈ rules)
    (hname : rule.name ≠ "include") : Plain rule.recognise := by
  simp only [rules, List.mem_append, List.mem_cons, List.mem_map, List.not_mem_nil, or_false] at h
  rcases h with (rfl | rfl) | ⟨chosen, -, rfl⟩
  · exact absurd rfl hname
  · exact plain_assignment (by decide)
  · exact plain_flag (isName_of_mem (select chosen).name_mem)

theorem accounts_of_mem {rule : Rule StringModifier} (h : rule ∈ rules) : rule.Accounts kept := by
  have hplain := plain_of_mem h
  simp only [rules, List.mem_append, List.mem_cons, List.mem_map, List.not_mem_nil, or_false] at h
  rcases h with (rfl | rfl) | ⟨chosen, -, rfl⟩
  · constructor
    · intro t f hf
      obtain ⟨w, characters, rest, ⟨⟨-, -, -⟩, -, -⟩, -, -, rfl, rfl⟩ :=
        recogniseAddition_eq_some_iff.mp hf
      exact ⟨by simp, rest, rfl⟩
    · intro t f v hf hv c hc
      obtain ⟨w, characters, rest, hw, -, -, rfl, rfl⟩ := recogniseAddition_eq_some_iff.mp hf
      obtain ⟨-, rfl⟩ := readAddition_eq_ok.mp hv
      exact hw.count hc
  · apply Rule.accounts_of_plain (hplain (by decide))
    intro t f v _ hv
    obtain ⟨shortest, longest, rfl, -⟩ := exists_of_readLength hv
    rfl
  · apply Rule.accounts_of_plain (hplain (by cases chosen <;> decide))
    intro t f v _ hv
    obtain rfl := Except.ok.inj hv
    rfl

end StringModifier

theorem IntegerModifier.plain_of_mem {rule : Rule IntegerModifier}
    (h : rule ∈ IntegerModifier.rules) : Plain rule.recognise := by
  simp only [rules, List.mem_cons, List.not_mem_nil, or_false] at h
  rcases h with rfl | rfl | rfl
  · exact plain_assignment (by decide)
  · exact plain_flag (by decide)
  · exact plain_flag (by decide)

/-- The readers of the modifiers of a datetime. They do not depend on the zones that there are. -/
def TemporalModifier.recognisers : List Recogniser :=
  [.assignment "start".toList, .assignment "zoneid".toList, recogniseOffset, recogniseEmpty]

theorem TemporalModifier.plain_of_mem_recognisers {recognise : Recogniser}
    (h : recognise ∈ recognisers) : Plain recognise := by
  simp only [recognisers, List.mem_cons, List.not_mem_nil, or_false] at h
  rcases h with rfl | rfl | rfl | rfl
  · exact plain_assignment (by decide)
  · exact plain_assignment (by decide)
  · exact plain_recogniseOffset
  · exact plain_recogniseEmpty

theorem TemporalModifier.recognise_mem [Almanac] {rule : Rule TemporalModifier}
    (h : rule ∈ TemporalModifier.rules) : rule.recognise ∈ recognisers :=
  List.mem_map_of_mem (f := Rule.recognise) h

theorem TemporalModifier.plain_of_mem [Almanac] {rule : Rule TemporalModifier}
    (h : rule ∈ TemporalModifier.rules) : Plain rule.recognise :=
  plain_of_mem_recognisers (recognise_mem h)

theorem TemporalModifier.nodup_names [Almanac] : (TemporalModifier.rules.map Rule.name).Nodup := by
  have hnames : TemporalModifier.rules.map Rule.name = ["start", "zoneid", "offset", "empty"] := rfl
  rw [hnames]
  decide

/-- The account of an accepted keyword. Its braces are one pair for each value and those
of additions; a length, a range, a start and a zone are there at most once; and no integer
is asked to be even and odd. -/
theorem Keyword.read_balanced [Almanac] {s : String} {k : Keyword}
    (h : Keyword.read (.text s) = .ok k) :
    match k with
    | .string parsed =>
        parsed.Balanced StringModifier.kept s.toList ∧ (parsed.all "length").length ≤ 1
    | .integer parsed =>
        parsed.Balanced (fun _ => []) s.toList ∧ (parsed.all "range").length ≤ 1 ∧
          ¬ (parsed.has "even" ∧ parsed.has "odd")
    | .datetime parsed =>
        parsed.Balanced (fun _ => []) s.toList ∧ (parsed.all "start").length ≤ 1 ∧
          (parsed.all "zoneid").length ≤ 1 := by
  have hparse := Keyword.read_eq_ok h
  cases k with
  | string parsed =>
      refine ⟨Parsed.balanced_of_parse hparse (fun _ => StringModifier.accounts_of_mem)
        (by decide), Parsed.length_all_le hparse ?_⟩
      simp [StringModifier.rules, Rule.assignment, Rule.flag, CharClass.all, CharClass.name]
  | integer parsed =>
      refine ⟨Parsed.balanced_of_parse hparse (fun _ hrule => Rule.accounts_of_plain
        (IntegerModifier.plain_of_mem hrule) fun _ _ => rfl) (by decide),
        Parsed.length_all_le hparse ?_, Parsed.not_has_of_exclusive hparse⟩
      simp [IntegerModifier.rules, Rule.assignment, Rule.flag, Parity.name]
  | datetime parsed =>
      refine ⟨Parsed.balanced_of_parse hparse (fun _ hrule => Rule.accounts_of_plain
        (TemporalModifier.plain_of_mem hrule) fun _ _ => rfl) TemporalModifier.nodup_names,
        Parsed.length_all_le hparse ?_, Parsed.length_all_le hparse ?_⟩
      · simp [TemporalModifier.rules, Rule.assignment]
      · simp [TemporalModifier.rules, Rule.assignment]

/-- A payload with braces of its own, and a flag behind it. -/
theorem Keyword.read_balanced_addition :
    let written := "[randstring\x7binclude=[a\x7d\x7bb]\x7d \x7bNumeric\x7d]"
    let parsed : Parsed StringModifier := ⟨.string, written.toList,
      [("include", [.addition "a\x7d\x7bb".toList]), ("numeric", [.select .numeric])]⟩
    Keyword.read (.text written) = .ok (.string parsed) ∧
      written.toList.count '\x7b' = 3 ∧ parsed.Balanced StringModifier.kept written.toList := by
  intro written parsed
  have h : Keyword.read (.text written) = .ok (.string parsed) := by decide
  exact ⟨h, by decide, (Keyword.read_balanced h).1⟩

end FixtureKeywords
