import FixtureKeywords.Proofs.Outcome
import FixtureKeywords.Proofs.Text.Spelling
import FixtureKeywords.Text.Words

/-!
# Command lines as they are written

A word is written in parts: characters that stand for themselves, a backslash with the character
behind it, and what stands between quotes of either kind. A line is words with separators between
them. A line is split into the words that it is written from, and a word that is written from no
character at all does not occur, while one that is written as two quotes does.

Apart from the words, only the quotes that are open at a place matter: a line can be split if none
is open at its end.
-/
namespace FixtureKeywords.Text

/-- A character that stands for itself outside of quotes. -/
def IsBare (c : Char) : Prop :=
  isSeparator c = false ∧ c ≠ '\'' ∧ c ≠ '"' ∧ c ≠ '\\'

/-- How a part of a word is written between double quotes. -/
inductive WritesQuoted : Text → Text → Prop
  | nil : WritesQuoted [] []
  | char {c : Char} {part body : Text} : c ≠ '"' → c ≠ '\\' → WritesQuoted part body →
      WritesQuoted (c :: part) (c :: body)
  | escaped {c : Char} {part body : Text} : c = '"' ∨ c = '\\' → WritesQuoted part body →
      WritesQuoted (c :: part) ('\\' :: c :: body)
  | kept {c : Char} {part body : Text} : c ≠ '"' → c ≠ '\\' → WritesQuoted part body →
      WritesQuoted ('\\' :: c :: part) ('\\' :: c :: body)

inductive WritesWord : Text → Text → Prop
  | nil : WritesWord [] []
  | bare {c : Char} {word s : Text} : IsBare c → WritesWord word s →
      WritesWord (c :: word) (c :: s)
  | escaped {c : Char} {word s : Text} : WritesWord word s →
      WritesWord (c :: word) ('\\' :: c :: s)
  | single {body word s : Text} : '\'' ∉ body → WritesWord word s →
      WritesWord (body ++ word) ('\'' :: (body ++ '\'' :: s))
  | double {part body word s : Text} : WritesQuoted part body → WritesWord word s →
      WritesWord (part ++ word) ('"' :: (body ++ '"' :: s))

/-- Nothing but separators. -/
def IsSpacing (t : Text) : Prop :=
  ∀ c ∈ t, isSeparator c

/-- A word may end before this: nothing follows, or a separator. -/
def EndsWord (t : Text) : Prop :=
  ∀ c ∈ t.head?, isSeparator c

inductive WritesLine : List Text → Text → Prop
  | nil {gap : Text} : IsSpacing gap → WritesLine [] gap
  | cons {gap word s rest : Text} {words : List Text} : IsSpacing gap → WritesWord word s → s ≠ [] →
      EndsWord rest → WritesLine words rest → WritesLine (word :: words) (gap ++ (s ++ rest))

section Splitting
variable {word part body s rest t : Text} {ws : List Text}

theorem splitFrom_plain_cons (word : Option Text) (c : Char) (t : Text) :
    splitFrom .plain word (c :: t) =
      if isSeparator c then (splitFrom .plain none t).map (consWord word)
      else if c = '\'' then splitFrom .single (some (word.getD [])) t
      else if c = '"' then splitFrom .double (some (word.getD [])) t
      else if c = '\\' then splitFrom (.escape false) (some (word.getD [])) t
      else splitFrom .plain (some (word.getD [] ++ [c])) t :=
  rfl

theorem splitFrom_single_cons (word : Option Text) (c : Char) (t : Text) :
    splitFrom .single word (c :: t) =
      if c = '\'' then splitFrom .plain (some (word.getD [])) t
      else splitFrom .single (some (word.getD [] ++ [c])) t :=
  rfl

theorem splitFrom_double_cons (word : Option Text) (c : Char) (t : Text) :
    splitFrom .double word (c :: t) =
      if c = '"' then splitFrom .plain (some (word.getD [])) t
      else if c = '\\' then splitFrom (.escape true) (some (word.getD [])) t
      else splitFrom .double (some (word.getD [] ++ [c])) t :=
  rfl

/-- Outside of double quotes a backslash takes any character as it is. -/
theorem splitFrom_escape_cons (inDouble : Bool) (word : Option Text) (c : Char) (t : Text) :
    splitFrom (.escape inDouble) word (c :: t) =
      if inDouble then
        splitFrom .double (some (word.getD [] ++ if c = '"' ∨ c = '\\' then [c] else ['\\', c])) t
      else splitFrom .plain (some (word.getD [] ++ [c])) t := by
  cases inDouble <;> rfl

theorem splitFrom_single (h : '\'' ∉ body) (soFar rest : Text) :
    splitFrom .single (some soFar) (body ++ '\'' :: rest) =
      splitFrom .plain (some (soFar ++ body)) rest := by
  induction body generalizing soFar with
  | nil => simp [splitFrom_single_cons]
  | cons c cs ih =>
      rw [List.mem_cons, not_or] at h
      rw [List.cons_append, splitFrom_single_cons, if_neg (Ne.symm h.1), Option.getD_some, ih h.2]
      simp

theorem splitFrom_quoted (h : WritesQuoted part body) (soFar rest : Text) :
    splitFrom .double (some soFar) (body ++ '"' :: rest) =
      splitFrom .plain (some (soFar ++ part)) rest := by
  induction h generalizing soFar with
  | nil => simp [splitFrom_double_cons]
  | char hq hb _ ih =>
      simp [splitFrom_double_cons, hq, hb, ih]
  | escaped hc _ ih =>
      simp [splitFrom_double_cons, splitFrom_escape_cons, hc, ih]
  | kept hq hb _ ih =>
      simp [splitFrom_double_cons, splitFrom_escape_cons, hq, hb, ih]

theorem splitFrom_word (h : WritesWord word s) (soFar rest : Text) :
    splitFrom .plain (some soFar) (s ++ rest) = splitFrom .plain (some (soFar ++ word)) rest := by
  induction h generalizing soFar with
  | nil => simp
  | bare hc _ ih =>
      obtain ⟨hsep, hsingle, hdouble, hback⟩ := hc
      simp [splitFrom_plain_cons, hsep, hsingle, hdouble, hback, ih]
  | escaped _ ih =>
      simp [splitFrom_plain_cons, splitFrom_escape_cons, ih, isSeparator]
  | single hbody _ ih =>
      simp [splitFrom_plain_cons, splitFrom_single hbody, ih, isSeparator]
  | double hbody _ ih =>
      simp [splitFrom_plain_cons, splitFrom_quoted hbody, ih, isSeparator]

theorem map_consWord_none (outcome : Except Fault (List Text)) :
    outcome.map (consWord none) = outcome := by
  cases outcome <;> rfl

theorem words_separator {c : Char} (hc : isSeparator c) (t : Text) : words (c :: t) = words t := by
  rw [words, splitFrom_plain_cons, if_pos hc, map_consWord_none]
  rfl

theorem words_gap {gap : Text} (h : IsSpacing gap) (t : Text) : words (gap ++ t) = words t := by
  induction gap with
  | nil => rfl
  | cons c cs ih =>
      rw [List.cons_append, words_separator (h c List.mem_cons_self),
        ih fun d hd => h d (List.mem_cons_of_mem _ hd)]

theorem splitFrom_end (h : EndsWord rest) (word : Text) :
    splitFrom .plain (some word) rest = (words rest).map (word :: ·) := by
  cases rest with
  | nil => rfl
  | cons c cs =>
      have hc : isSeparator c := h c rfl
      rw [words_separator hc, splitFrom_plain_cons, if_pos hc]
      rfl

theorem words_eq_splitFrom {c : Char} (hc : isSeparator c = false) (t : Text) :
    words (c :: t) = splitFrom .plain (some []) (c :: t) := by
  simp [words, splitFrom_plain_cons, hc]

theorem WritesWord.eq_cons (h : WritesWord word s) (hs : s ≠ []) :
    ∃ c cs, s = c :: cs ∧ isSeparator c = false := by
  cases h with
  | nil => exact absurd rfl hs
  | bare hc _ => exact ⟨_, _, rfl, hc.1⟩
  | escaped _ => exact ⟨_, _, rfl, rfl⟩
  | single _ _ => exact ⟨_, _, rfl, rfl⟩
  | double _ _ => exact ⟨_, _, rfl, rfl⟩

theorem words_word {gap : Text} (hgap : IsSpacing gap) (h : WritesWord word s) (hs : s ≠ [])
    (hrest : EndsWord rest) : words (gap ++ (s ++ rest)) = (words rest).map (word :: ·) := by
  have hword := splitFrom_word h [] rest
  obtain ⟨c, cs, rfl, hc⟩ := h.eq_cons hs
  rw [words_gap hgap, List.cons_append, words_eq_splitFrom hc, ← List.cons_append, hword,
    List.nil_append, splitFrom_end hrest]

theorem exists_single {soFar : Text} (h : splitFrom .single (some soFar) t = .ok ws) :
    ∃ body rest, t = body ++ '\'' :: rest ∧ '\'' ∉ body ∧
      splitFrom .plain (some (soFar ++ body)) rest = .ok ws := by
  induction t generalizing soFar with
  | nil => cases h
  | cons c cs ih =>
      rw [splitFrom_single_cons] at h
      split_ifs at h with hc
      · subst hc
        exact ⟨[], cs, rfl, List.not_mem_nil, by simpa using h⟩
      · obtain ⟨body, rest, rfl, hbody, hrest⟩ := ih h
        refine ⟨c :: body, rest, rfl, ?_, by simpa using hrest⟩
        rw [List.mem_cons, not_or]
        exact ⟨Ne.symm hc, hbody⟩

theorem exists_quoted {soFar : Text} (h : splitFrom .double (some soFar) t = .ok ws) :
    ∃ part body rest, t = body ++ '"' :: rest ∧ WritesQuoted part body ∧
      splitFrom .plain (some (soFar ++ part)) rest = .ok ws := by
  -- The induction is on the length, since a backslash takes two characters at once.
  induction hn : t.length using Nat.strong_induction_on generalizing t soFar with
  | _ n ih =>
    cases t with
    | nil => cases h
    | cons c cs =>
        rw [splitFrom_double_cons] at h
        split_ifs at h with hquote hback
        · subst hquote
          exact ⟨[], [], cs, rfl, .nil, by simpa using h⟩
        · subst hback
          cases cs with
          | nil => cases h
          | cons d ds =>
              rw [splitFrom_escape_cons, if_pos rfl] at h
              obtain ⟨part, body, rest, rfl, hbody, hrest⟩ :=
                ih ds.length (by simp [← hn]) h rfl
              by_cases hd : d = '"' ∨ d = '\\'
              · exact ⟨d :: part, '\\' :: d :: body, rest, rfl, .escaped hd hbody,
                  by simpa [hd] using hrest⟩
              · exact ⟨'\\' :: d :: part, '\\' :: d :: body, rest, rfl,
                  .kept (not_or.mp hd).1 (not_or.mp hd).2 hbody, by simpa [hd] using hrest⟩
        · obtain ⟨part, body, rest, rfl, hbody, hrest⟩ := ih cs.length (by simp [← hn]) h rfl
          exact ⟨c :: part, c :: body, rest, rfl, .char hquote hback hbody,
            by simpa using hrest⟩

theorem exists_word {soFar : Text} (h : splitFrom .plain (some soFar) t = .ok ws) :
    ∃ word s rest, t = s ++ rest ∧ WritesWord word s ∧ EndsWord rest ∧
      splitFrom .plain (some (soFar ++ word)) rest = .ok ws := by
  induction hn : t.length using Nat.strong_induction_on generalizing t soFar with
  | _ n ih =>
    cases t with
    | nil => exact ⟨[], [], [], rfl, .nil, nofun, by simpa using h⟩
    | cons c cs =>
        by_cases hsep : isSeparator c
        · refine ⟨[], [], c :: cs, rfl, .nil, ?_, by simpa using h⟩
          rintro d ⟨⟩
          exact hsep
        · rw [splitFrom_plain_cons, if_neg hsep] at h
          split_ifs at h with hsingle hdouble hback
          · subst hsingle
            obtain ⟨body, behind, rfl, hbody, hbehind⟩ := exists_single h
            obtain ⟨word, s, rest, rfl, hword, hrest, hsplit⟩ :=
              ih behind.length (by simp [← hn]; omega) hbehind rfl
            exact ⟨body ++ word, '\'' :: (body ++ '\'' :: s), rest, by simp, .single hbody hword,
              hrest, by simpa using hsplit⟩
          · subst hdouble
            obtain ⟨part, body, behind, rfl, hbody, hbehind⟩ := exists_quoted h
            obtain ⟨word, s, rest, rfl, hword, hrest, hsplit⟩ :=
              ih behind.length (by simp [← hn]; omega) hbehind rfl
            exact ⟨part ++ word, '"' :: (body ++ '"' :: s), rest, by simp, .double hbody hword,
              hrest, by simpa using hsplit⟩
          · subst hback
            cases cs with
            | nil => cases h
            | cons d ds =>
                obtain ⟨word, s, rest, rfl, hword, hrest, hsplit⟩ :=
                  ih ds.length (by simp [← hn]) h rfl
                exact ⟨d :: word, '\\' :: d :: s, rest, rfl, .escaped hword, hrest,
                  by simpa using hsplit⟩
          · obtain ⟨word, s, rest, rfl, hword, hrest, hsplit⟩ :=
              ih cs.length (by simp [← hn]) h rfl
            have hbare : IsBare c := ⟨Bool.eq_false_iff.mpr hsep, hsingle, hdouble, hback⟩
            exact ⟨c :: word, c :: s, rest, rfl, .bare hbare hword, hrest, by simpa using hsplit⟩

theorem WritesLine.separator (h : WritesLine ws t) {c : Char} (hc : isSeparator c) :
    WritesLine ws (c :: t) := by
  cases h with
  | nil hgap => exact .nil (List.forall_mem_cons.mpr ⟨hc, hgap⟩)
  | cons hgap hword hs hrest hline =>
      rw [← List.cons_append]
      exact .cons (List.forall_mem_cons.mpr ⟨hc, hgap⟩) hword hs hrest hline

theorem words_eq_ok_iff : words t = .ok ws ↔ WritesLine ws t := by
  constructor
  · intro h
    -- A word takes a part of the line at once, so the induction is on the length again.
    induction hn : t.length using Nat.strong_induction_on generalizing t ws with
    | _ n ih =>
      cases t with
      | nil =>
          obtain rfl := Except.ok.inj h
          exact .nil (List.forall_mem_nil _)
      | cons c cs =>
          by_cases hsep : isSeparator c
          · rw [words_separator hsep] at h
            exact (ih cs.length (by simp [← hn]) h rfl).separator hsep
          · rw [words_eq_splitFrom (Bool.eq_false_iff.mpr hsep)] at h
            obtain ⟨word, s, rest, htext, hword, hrest, hsplit⟩ := exists_word h
            rw [List.nil_append, splitFrom_end hrest] at hsplit
            obtain ⟨later, hlater, rfl⟩ := Outcome.map_eq_ok.mp hsplit
            -- The line does not open with a separator, so the word is written from something.
            have hs : s ≠ [] := by
              rintro rfl
              exact hsep (hrest c (by rw [← List.nil_append rest, ← htext]; rfl))
            have hshorter : rest.length < n := by
              have hlength := congrArg List.length htext
              have hpos := List.length_pos_of_ne_nil hs
              rw [List.length_append] at hlength
              omega
            rw [htext, ← List.nil_append (s ++ rest)]
            exact .cons (List.forall_mem_nil _) hword hs hrest (ih _ hshorter hlater rfl)
  · intro h
    induction h with
    | nil hgap =>
        have := words_gap hgap []
        rwa [List.append_nil] at this
    | cons hgap hword hs hrest _ ih => rw [words_word hgap hword hs hrest, ih]; rfl

def OpensBlank (t : Text) : Prop :=
  ∃ gap word s rest, IsSpacing gap ∧ WritesWord word s ∧ s ≠ [] ∧ EndsWord rest ∧
    isBlankText word ∧ t = gap ++ (s ++ rest)

theorem opensBlank_iff (h : words t = .ok ws) :
    OpensBlank t ↔ ∃ word others, ws = word :: others ∧ isBlankText word := by
  constructor
  · rintro ⟨gap, word, s, rest, hgap, hword, hs, hrest, hblank, rfl⟩
    rw [words_word hgap hword hs hrest] at h
    obtain ⟨others, -, rfl⟩ := Outcome.map_eq_ok.mp h
    exact ⟨word, others, rfl, hblank⟩
  · rintro ⟨word, others, rfl, hblank⟩
    cases words_eq_ok_iff.mp h with
    | cons hgap hword hs hrest _ => exact ⟨_, word, _, _, hgap, hword, hs, hrest, hblank, rfl⟩

theorem isBlank_of_isSeparator {c : Char} (h : isSeparator c) : isBlank c := by
  simp only [isSeparator, Bool.or_eq_true, beq_iff_eq] at h
  rcases h with ((rfl | rfl) | rfl) | rfl
  all_goals rfl

theorem isBlankText_of_words_eq_nil (h : words t = .ok []) : isBlankText t := by
  cases words_eq_ok_iff.mp h with
  | nil hgap => exact List.all_eq_true.mpr fun c hc => isBlank_of_isSeparator (hgap c hc)

theorem WritesWord.isBlankText (h : WritesWord word s) (hs : isBlankText s) :
    isBlankText word := by
  induction h with
  | nil => rfl
  | bare _ _ ih =>
      obtain ⟨hc, hs⟩ := isBlankText_cons.mp hs
      exact isBlankText_cons.mpr ⟨hc, ih hs⟩
  | escaped _ _ => cases (isBlankText_cons.mp hs).1
  | single _ _ _ => cases (isBlankText_cons.mp hs).1
  | double _ _ _ => cases (isBlankText_cons.mp hs).1

theorem opensBlank_of_isBlankText (h : words t = .ok ws) (hws : ws ≠ []) (ht : isBlankText t) :
    OpensBlank t := by
  cases words_eq_ok_iff.mp h with
  | nil _ => exact absurd rfl hws
  | cons hgap hword hs hrest _ =>
      have hblank := (isBlankText_append.mp (isBlankText_append.mp ht).2).1
      exact ⟨_, _, _, _, hgap, hword, hs, hrest, hword.isBlankText hblank, rfl⟩

end Splitting

namespace Quoting

def next (quoting : Quoting) (c : Char) : Quoting :=
  match quoting with
  | plain =>
      if c = '\'' then single else if c = '"' then double
      else if c = '\\' then escape false else plain
  | single => if c = '\'' then plain else single
  | double => if c = '"' then plain else if c = '\\' then escape true else double
  | escape true => double
  | escape false => plain

/-- What encloses the place behind a text. -/
def after (quoting : Quoting) (t : Text) : Quoting :=
  t.foldl next quoting

theorem after_append (quoting : Quoting) (s t : Text) :
    quoting.after (s ++ t) = (quoting.after s).after t :=
  List.foldl_append

theorem next_blank {c : Char} (hc : isBlank c) :
    plain.next c = .plain ∧ single.next c = .single ∧ double.next c = .double := by
  have hne (d : Char) (hd : isBlank d = false) : c ≠ d := by
    rintro rfl
    rw [hd] at hc
    cases hc
  simp only [next, hne '\'' rfl, hne '"' rfl, hne '\\' rfl, if_false, and_self]

theorem after_blank {b : Text} (hb : isBlankText b) :
    plain.after b = .plain ∧ single.after b = .single ∧ double.after b = .double := by
  induction b with
  | nil => exact ⟨rfl, rfl, rfl⟩
  | cons c cs ih =>
      obtain ⟨hc, hcs⟩ := isBlankText_cons.mp hb
      obtain ⟨hplain, hsingle, hdouble⟩ := next_blank hc
      simp only [after, List.foldl_cons, hplain, hsingle, hdouble]
      exact ih hcs

/-- Only a backslash outside of quotes takes the next character as it is. -/
theorem next_eq_escape_iff {quoting : Quoting} {c : Char} :
    quoting.next c = .escape false ↔ quoting = .plain ∧ c = '\\' := by
  unfold next
  cases quoting with
  | plain => split_ifs <;> simp_all
  | single => split_ifs <;> simp_all
  | double => split_ifs <;> simp_all
  | escape inDouble => cases inDouble <;> simp

end Quoting

section Quotes
variable {t : Text} {ws : List Text}

theorem splitFrom_cons (quoting : Quoting) (word : Option Text) (c : Char) (t : Text) :
    ∃ next f, splitFrom quoting word (c :: t) = (splitFrom (quoting.next c) next t).map f := by
  have hid (outcome : Except Fault (List Text)) : outcome = outcome.map id := by
    cases outcome <;> rfl
  cases quoting with
  | plain =>
      by_cases hsep : isSeparator c
      · refine ⟨none, consWord word, ?_⟩
        rw [splitFrom_plain_cons, if_pos hsep, (Quoting.next_blank (isBlank_of_isSeparator hsep)).1]
      · rw [splitFrom_plain_cons, if_neg hsep]
        unfold Quoting.next
        split_ifs
        all_goals exact ⟨_, _, hid _⟩
  | single =>
      rw [splitFrom_single_cons]
      unfold Quoting.next
      split_ifs
      all_goals exact ⟨_, _, hid _⟩
  | double =>
      rw [splitFrom_double_cons]
      unfold Quoting.next
      split_ifs
      all_goals exact ⟨_, _, hid _⟩
  | escape inDouble =>
      cases inDouble with
      | false => exact ⟨_, _, hid _⟩
      | true => exact ⟨_, _, hid _⟩

theorem splitFrom_cases (quoting : Quoting) (word : Option Text) (t : Text) :
    (quoting.after t = .plain ∧ ∃ ws, splitFrom quoting word t = .ok ws) ∨
      ∃ fault, (quoting.after t).fault? = some fault ∧
        splitFrom quoting word t = .error fault := by
  induction t generalizing quoting word with
  | nil =>
      cases quoting with
      | plain => exact .inl ⟨rfl, _, rfl⟩
      | single => exact .inr ⟨_, rfl, rfl⟩
      | double => exact .inr ⟨_, rfl, rfl⟩
      | escape inDouble => exact .inr ⟨_, rfl, rfl⟩
  | cons c cs ih =>
      obtain ⟨next, f, hstep⟩ := splitFrom_cons quoting word c cs
      rw [hstep]
      rcases ih (quoting.next c) next with ⟨hplain, ws, hws⟩ | ⟨fault, hopen, herror⟩
      · exact .inl ⟨hplain, f ws, by rw [hws]; rfl⟩
      · exact .inr ⟨fault, hopen, by rw [herror]; rfl⟩

theorem words_cases (t : Text) :
    (Quoting.plain.after t = .plain ∧ ∃ ws, words t = .ok ws) ∨
      ∃ fault, (Quoting.plain.after t).fault? = some fault ∧ words t = .error fault :=
  splitFrom_cases .plain none t

theorem exists_words_iff : (∃ ws, words t = .ok ws) ↔ Quoting.plain.after t = .plain := by
  rcases words_cases t with ⟨hplain, hok⟩ | ⟨fault, hopen, herror⟩
  · exact iff_of_true hok hplain
  · refine iff_of_false ?_ fun hplain => ?_
    · rw [herror]
      rintro ⟨ws, ⟨⟩⟩
    · rw [hplain] at hopen
      cases hopen

/-- The last character is a backslash outside of quotes. -/
def EndsInEscape (t : Text) : Prop :=
  ∃ front ws, t = front ++ ['\\'] ∧ words front = .ok ws

theorem after_eq_escape_iff : Quoting.plain.after t = .escape false ↔ EndsInEscape t := by
  rcases List.eq_nil_or_concat t with rfl | ⟨front, c, rfl⟩
  · refine iff_of_false nofun ?_
    rintro ⟨front, ws, hfront, -⟩
    simp at hfront
  · rw [List.concat_eq_append, Quoting.after_append]
    change (Quoting.plain.after front).next c = _ ↔ _
    rw [Quoting.next_eq_escape_iff, ← exists_words_iff]
    constructor
    · rintro ⟨⟨ws, hws⟩, rfl⟩
      exact ⟨front, ws, rfl, hws⟩
    · rintro ⟨front', ws, heq, hws⟩
      obtain ⟨rfl, hc⟩ := List.append_inj' heq rfl
      exact ⟨⟨ws, hws⟩, (List.cons.inj hc).1⟩

/-- What can be split can be split without the blanks around it, unless that cuts off the blank
behind a backslash. -/
theorem words_strip (h : words t = .ok ws) :
    (∃ ws', words (strip t) = .ok ws') ↔ ¬ EndsInEscape (strip t) := by
  obtain ⟨b, d, hb, hd, ht⟩ := exists_strip t
  have hend : (Quoting.plain.after (strip t)).after d = .plain := by
    have hplain := exists_words_iff.mp ⟨ws, h⟩
    rwa [ht, Quoting.after_append, Quoting.after_append, (Quoting.after_blank hb).1] at hplain
  rw [← after_eq_escape_iff, exists_words_iff]
  -- Blanks close no quote, so only a backslash can be open.
  match hq : Quoting.plain.after (strip t) with
  | .plain => exact iff_of_true rfl nofun
  | .single =>
      rw [hq, (Quoting.after_blank hd).2.1] at hend
      cases hend
  | .double =>
      rw [hq, (Quoting.after_blank hd).2.2] at hend
      cases hend
  | .escape false => exact iff_of_false nofun fun hnot => hnot rfl
  | .escape true =>
      rw [hq] at hend
      cases d with
      | nil => cases hend
      | cons c cs =>
          change Quoting.double.after cs = .plain at hend
          rw [(Quoting.after_blank (isBlankText_cons.mp hd).2).2.2] at hend
          cases hend

end Quotes

end FixtureKeywords.Text
