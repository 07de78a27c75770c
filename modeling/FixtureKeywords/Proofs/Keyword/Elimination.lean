import FixtureKeywords.Keyword.Parsed
import FixtureKeywords.Proofs.Keyword.Braces
import FixtureKeywords.Proofs.Keyword.Envelope
import FixtureKeywords.Proofs.Outcome

/-!
# Reading written modifiers by elimination

A family is described by its writing: how each of its items is written, which rule it
belongs to, and what value it is read with. A rule handles the writing if it recognises
its own items wherever they stand, and passes over those of later rules. The items of the
rules before it need not concern it: they are gone by then.

One pass of such a rule over a written body reads the rule's items in order, and leaves
the others as they were written with a blank in place of each item that was read. So what
is left is a written body again. This is the invariant of the elimination: a whole table
reads the items rule by rule, in the order of the table, whatever order they were written
in, and fails exactly where one of the items cannot be read.
-/
namespace FixtureKeywords
open Text Recogniser

/-- How the items of a family are written, and how each of them is to be read. -/
structure Writing (ι α : Type) where
  written : ι → Text → Prop
  owner : ι → String
  value : ι → Except Fault α

namespace Writing
variable {ι α : Type} {W : Writing ι α} {is : List ι} {family : Family}

/-- Items written one behind the other, with blanks around each of them. -/
inductive IsBody (W : Writing ι α) : List ι → Text → Prop
  | nil {b : Text} : isBlankText b → IsBody W [] b
  | cons {i : ι} {is : List ι} {b w rest : Text} : isBlankText b → W.written i w →
      IsBody W is rest → IsBody W (i :: is) (b ++ (w ++ rest))

inductive IsKeyword (W : Writing ι α) (family : Family) (is : List ι) : Text → Prop
  | intro {before lead s body after : Text} : isBlankText before → isBlankText lead →
      Reads family.name.toList s → W.IsBody is body → isBlankText after →
      IsKeyword W family is (before ++ ('[' :: ((lead ++ (s ++ body)) ++ [']'])) ++ after)

theorem IsBody.pad {b body : Text} (hb : isBlankText b) (h : W.IsBody is body) :
    W.IsBody is (b ++ body) := by
  cases h with
  | nil hbody => exact .nil (isBlankText_append.mpr ⟨hb, hbody⟩)
  | cons hlead hw hrest =>
      rw [← List.append_assoc]
      exact .cons (isBlankText_append.mpr ⟨hb, hlead⟩) hw hrest

/-- The items of one rule. -/
def ownedBy (W : Writing ι α) (name : String) (is : List ι) : List ι :=
  is.filter (W.owner · = name)

theorem ownedBy_eq_map {β : Type} {name : String} {parts? : ι → Option β} {item : β → ι}
    (hown : ∀ i, W.owner i = name → (parts? i).map item = some i)
    (hother : ∀ i, W.owner i ≠ name → parts? i = none) (is : List ι) :
    W.ownedBy name is = (is.filterMap parts?).map item := by
  unfold ownedBy
  induction is with
  | nil => rfl
  | cons i is ih =>
      by_cases hi : W.owner i = name
      · obtain ⟨parts, hparts, rfl⟩ := Option.map_eq_some_iff.mp (hown i hi)
        simp [hi, hparts, ih]
      · simp [hi, hother i hi, ih]

/-- What a table reads from items: the values of each rule in order, under its name. -/
def gather (W : Writing ι α) : List (Rule α) → List ι → Except Fault (List (String × List α))
  | [], _ => .ok []
  | rule :: rules, is => do
      let values ← (W.ownedBy rule.name is).mapM W.value
      let others ← W.gather rules is
      .ok (if values.isEmpty then others else (rule.name, values) :: others)

/-- A rule that is passed over later reads what it would have read at first. -/
theorem gather_filter_ne {rules : List (Rule α)} {name : String}
    (hname : name ∉ rules.map Rule.name) (is : List ι) :
    W.gather rules (is.filter (W.owner · ≠ name)) = W.gather rules is := by
  induction rules with
  | nil => rfl
  | cons rule rules ih =>
      rw [List.map_cons, List.mem_cons, not_or] at hname
      have howned : W.ownedBy rule.name (is.filter (W.owner · ≠ name)) =
          W.ownedBy rule.name is := by
        unfold ownedBy
        rw [List.filter_filter]
        refine List.filter_congr fun i _ => ?_
        by_cases hi : W.owner i = rule.name
        · simp [hi, Ne.symm hname.1]
        · simp [hi]
      simp only [gather, howned, ih hname.2]

/-- All that is gathered: the values of the first rule, then those of the next one. -/
theorem flat_gather (rules : List (Rule α)) (is : List ι) :
    (W.gather rules is).map (·.flatMap Prod.snd) =
      (rules.mapM fun rule => (W.ownedBy rule.name is).mapM W.value).map List.flatten := by
  induction rules with
  | nil => rfl
  | cons rule rules ih =>
      have hstep : (W.gather (rule :: rules) is).map (·.flatMap Prod.snd) =
          ((W.ownedBy rule.name is).mapM W.value >>= fun values =>
            ((W.gather rules is).map (·.flatMap Prod.snd)).map (values ++ ·)) := by
        rw [gather]
        cases (W.ownedBy rule.name is).mapM W.value with
        | error fault => rfl
        | ok values =>
            cases W.gather rules is with
            | error fault => rfl
            | ok entries => cases values <;> simp [bind, Except.bind, Except.map]
      rw [hstep, ih, Outcome.mapM_cons]
      cases (W.ownedBy rule.name is).mapM W.value with
      | error fault => rfl
      | ok values =>
          cases rules.mapM fun rule => (W.ownedBy rule.name is).mapM W.value with
          | error fault => rfl
          | ok others => rfl

theorem lookup_gather_eq_none {rules : List (Rule α)} {entries : List (String × List α)}
    (h : W.gather rules is = .ok entries) {name : String} (hname : name ∉ rules.map Rule.name) :
    entries.lookup name = none := by
  induction rules generalizing entries with
  | nil =>
      obtain rfl := Except.ok.inj h
      rfl
  | cons rule rules ih =>
      rw [List.map_cons, List.mem_cons, not_or] at hname
      obtain ⟨values, -, h⟩ := Outcome.bind_eq_ok.mp h
      obtain ⟨others, hothers, h⟩ := Outcome.bind_eq_ok.mp h
      obtain rfl := Except.ok.inj h
      have hrest := ih hothers hname.2
      split_ifs
      · exact hrest
      · rw [List.lookup_cons, beq_false_of_ne hname.1]
        exact hrest

theorem lookup_gather {rules : List (Rule α)} {entries : List (String × List α)}
    (h : W.gather rules is = .ok entries) (hnodup : (rules.map Rule.name).Nodup)
    {name : String} (hname : name ∈ rules.map Rule.name) :
    (W.ownedBy name is).mapM W.value = .ok ((entries.lookup name).getD []) := by
  induction rules generalizing entries with
  | nil => simp at hname
  | cons rule rules ih =>
      rw [List.map_cons, List.nodup_cons] at hnodup
      obtain ⟨values, hvalues, h⟩ := Outcome.bind_eq_ok.mp h
      obtain ⟨others, hothers, h⟩ := Outcome.bind_eq_ok.mp h
      obtain rfl := Except.ok.inj h
      by_cases heq : name = rule.name
      · subst heq
        rw [hvalues, Except.ok.injEq]
        -- A rule without items leaves no entry, and no later rule has its name.
        cases values with
        | nil => simp [lookup_gather_eq_none hothers hnodup.1]
        | cons value values => simp
      · have hrest := ih hothers hnodup.2 ((List.mem_cons.mp hname).resolve_left heq)
        split_ifs
        · exact hrest
        · rw [List.lookup_cons, beq_false_of_ne heq]
          exact hrest

theorem mapM_ownedBy {W : Writing α α} {is : List α} (hvalue : ∀ i ∈ is, W.value i = .ok i)
    (name : String) : (W.ownedBy name is).mapM W.value = .ok (W.ownedBy name is) := by
  have hread : ∀ i ∈ W.ownedBy name is, W.value i = .ok (id i) :=
    fun i hi => hvalue i (List.mem_of_mem_filter hi)
  rw [Outcome.mapM_of_forall_ok hread, List.map_id]

theorem exists_gather {W : Writing α α} {is : List α} (hvalue : ∀ i ∈ is, W.value i = .ok i)
    (rules : List (Rule α)) :
    ∃ entries, W.gather rules is = .ok entries ∧
      entries.flatMap Prod.snd = rules.flatMap fun rule => W.ownedBy rule.name is := by
  have hflat := W.flat_gather rules is
  rw [Outcome.mapM_of_forall_ok fun rule _ => mapM_ownedBy hvalue rule.name] at hflat
  exact Outcome.map_eq_ok.mp hflat

theorem filterMap_ownedBy {β : Type} {f : ι → Option β} {name : String}
    (hf : ∀ i, f i ≠ none → W.owner i = name) (other : String) (is : List ι) :
    (W.ownedBy other is).filterMap f = if other = name then is.filterMap f else [] := by
  unfold ownedBy
  rw [List.filterMap_filter]
  split_ifs with h
  · refine List.filterMap_congr fun i _ => ?_
    by_cases hi : f i = none
    · simp [hi]
    · simp [hf i hi, h]
  · refine List.filterMap_eq_nil_iff.mpr fun i _ => ?_
    by_cases hi : f i = none
    · simp [hi]
    · simp [hf i hi, Ne.symm h]

theorem filterMap_flatMap_ownedBy {β : Type} {f : ι → Option β} {name : String}
    (hf : ∀ i, f i ≠ none → W.owner i = name) {rules : List (Rule α)}
    (hnodup : (rules.map Rule.name).Nodup) (is : List ι) :
    (rules.flatMap fun rule => W.ownedBy rule.name is).filterMap f =
      if name ∈ rules.map Rule.name then is.filterMap f else [] := by
  induction rules with
  | nil => rfl
  | cons rule rules ih =>
      rw [List.map_cons, List.nodup_cons] at hnodup
      rw [List.flatMap_cons, List.filterMap_append, filterMap_ownedBy hf, ih hnodup.2]
      by_cases hrule : rule.name = name
      · subst hrule
        simp [hnodup.1]
      · simp [hrule, Ne.symm hrule]

theorem mem_flatMap_ownedBy {rules : List (Rule α)} (hknown : ∀ i, W.owner i ∈ rules.map Rule.name)
    {i : ι} : i ∈ (rules.flatMap fun rule => W.ownedBy rule.name is) ↔ i ∈ is := by
  simp only [ownedBy, List.mem_flatMap, List.mem_filter, decide_eq_true_eq]
  constructor
  · rintro ⟨rule, -, hi, -⟩
    exact hi
  · intro hi
    obtain ⟨rule, hrule, hname⟩ := List.mem_map.mp (hknown i)
    exact ⟨rule, hrule, hi, hname.symm⟩

end Writing

namespace Rule
variable {ι α : Type} {W : Writing ι α} {rule : Rule α} {rules : List (Rule α)}
  {later : List String} {is : List ι} {front body : Text}

/-- A rule finds its own items, whatever items follow, and passes over those of later rules. -/
structure Handles (rule : Rule α) (W : Writing ι α) (later : List String) : Prop where
  braced : Braced rule.recognise
  own : ∀ {i : ι} {w : Text} {is : List ι} {body : Text}, W.owner i = rule.name →
    W.written i w → W.IsBody is body → w ≠ [] ∧ ∃ payload,
      rule.recognise (w ++ (body ++ [']'])) = some ⟨w, payload⟩ ∧
        rule.read ⟨w, payload⟩ = W.value i
  other : ∀ {i : ι} {w : Text}, W.owner i ∈ later → W.owner i ≠ rule.name → W.written i w →
    ∀ rest, Piece.split rule.recognise (w ++ rest) =
      w.map Piece.char ++ Piece.split rule.recognise rest

def Handled (W : Writing ι α) : List (Rule α) → Prop
  | [] => True
  | rule :: rules => rule.Handles W (rules.map Rule.name) ∧ Handled W rules

theorem handled_of_forall (hlater : ∀ rule ∈ rules, rule.name ∈ later)
    (h : ∀ rule ∈ rules, rule.Handles W later) : Handled W rules := by
  induction rules with
  | nil => trivial
  | cons rule rules ih =>
      have hrule := h rule List.mem_cons_self
      have hsub : ∀ name ∈ rules.map Rule.name, name ∈ later := by
        intro name hname
        obtain ⟨r, hr, rfl⟩ := List.mem_map.mp hname
        exact hlater r (List.mem_cons_of_mem _ hr)
      constructor
      · exact ⟨hrule.braced, hrule.own, fun hi => hrule.other (hsub _ hi)⟩
      · exact ih (fun r hr => hlater r (List.mem_cons_of_mem _ hr))
          (fun r hr => h r (List.mem_cons_of_mem _ hr))

/-- What one pass over written items finds and leaves. -/
structure Passed (rule : Rule α) (W : Writing ι α) (is : List ι) (pieces : List Piece) : Prop where
  count : (Piece.fragments pieces).length = (W.ownedBy rule.name is).length
  found : (Piece.fragments pieces).mapM rule.read = (W.ownedBy rule.name is).mapM W.value
  left : ∃ body, Piece.blanked pieces = body ++ [']'] ∧
    W.IsBody (is.filter (W.owner · ≠ rule.name)) body

theorem Handles.passed (h : rule.Handles W later) (hbody : W.IsBody is body)
    (hlater : ∀ i ∈ is, W.owner i ≠ rule.name → W.owner i ∈ later) :
    rule.Passed W is (Piece.split rule.recognise (body ++ [']'])) := by
  have hpass {b : Text} (hb : isBlankText b) (t : Text) : Piece.split rule.recognise (b ++ t) =
      b.map Piece.char ++ Piece.split rule.recognise t :=
    h.braced.split_append (not_mem_of_isBlankText hb (by decide)) t
  induction hbody with
  | @nil b hb =>
      have hlast : Piece.split rule.recognise [']'] = [Piece.char ']'] :=
        Piece.split_char (h.braced _ _ (by decide))
      rw [hpass hb, hlast]
      constructor
      · simp [Piece.fragments_nil, Writing.ownedBy]
      · simp [Piece.fragments_nil, Writing.ownedBy]
      · refine ⟨b, ?_, .nil hb⟩
        rw [Piece.blanked_append, Piece.blanked_map_char]
        rfl
  | @cons i is b w rest hb hw hrest ih =>
      obtain ⟨hcount, hfound, left, hblanked, hleft⟩ :=
        ih fun j hj => hlater j (List.mem_cons_of_mem _ hj)
      rw [List.append_assoc, List.append_assoc, hpass hb]
      by_cases hname : W.owner i = rule.name
      · obtain ⟨hne, payload, hrecognise, hread⟩ := h.own hname hw hrest
        have hsplit : Piece.split rule.recognise (w ++ (rest ++ [']'])) =
            .fragment ⟨w, payload⟩ :: Piece.split rule.recognise (rest ++ [']']) :=
          Piece.split_fragment (f := ⟨w, payload⟩) hrecognise hne
        have howned : W.ownedBy rule.name (i :: is) = i :: W.ownedBy rule.name is := by
          simp [Writing.ownedBy, hname]
        rw [hsplit]
        constructor
        · simp [howned, hcount]
        · simp [howned, hread, hfound]
        · refine ⟨(b ++ [' ']) ++ left, by simp [hblanked], ?_⟩
          have hpad : isBlankText (b ++ [' ']) := isBlankText_append.mpr ⟨hb, by decide⟩
          simpa [hname] using hleft.pad hpad
      · have howned : W.ownedBy rule.name (i :: is) = W.ownedBy rule.name is := by
          simp [Writing.ownedBy, hname]
        rw [h.other (hlater i List.mem_cons_self hname) hname hw]
        constructor
        · simp [howned, hcount]
        · simp [howned, hfound]
        · refine ⟨b ++ (w ++ left), by simp [hblanked], ?_⟩
          simpa [hname] using Writing.IsBody.cons hb hw hleft

/-- One pass fails if there are more items of its rule than there may be. -/
theorem Handles.extract_repeated (h : rule.Handles W later) (hfront : '\x7b' ∉ front)
    (hbody : W.IsBody is body) (hlater : ∀ i ∈ is, W.owner i ≠ rule.name → W.owner i ∈ later)
    {limit : Nat} (hlimit : rule.limit = some limit)
    (hmore : limit < (W.ownedBy rule.name is).length) (family : Family) (keyword : Text) :
    rule.extract family keyword (front ++ (body ++ [']'])) =
      .error (.format (.repeated rule.name family (String.ofList keyword))) := by
  have hcount := (h.passed hbody hlater).count
  simp only [Rule.extract, h.braced.split_append hfront, Piece.fragments_append,
    Piece.fragments_map_char, List.nil_append, hcount, hlimit, Option.any_some,
    decide_eq_true hmore, if_true]

theorem Handles.extract (h : rule.Handles W later) (hfront : '\x7b' ∉ front)
    (hbody : W.IsBody is body) (hlater : ∀ i ∈ is, W.owner i ≠ rule.name → W.owner i ∈ later)
    (hlimit : ∀ k, rule.limit = some k → (W.ownedBy rule.name is).length ≤ k)
    (family : Family) (keyword : Text) :
    ∃ left, W.IsBody (is.filter (W.owner · ≠ rule.name)) left ∧
      rule.extract family keyword (front ++ (body ++ [']'])) =
        ((W.ownedBy rule.name is).mapM W.value).map fun values =>
          (values, front ++ (left ++ [']'])) := by
  obtain ⟨hcount, hfound, left, hblanked, hleft⟩ := h.passed hbody hlater
  refine ⟨left, hleft, ?_⟩
  have hwithin : rule.limit.any (· < (W.ownedBy rule.name is).length) = false := by
    cases hk : rule.limit with
    | none => rfl
    | some k => simpa using hlimit k hk
  simp only [Rule.extract, h.braced.split_append hfront, Piece.fragments_append,
    Piece.fragments_map_char, List.nil_append, Piece.blanked_append, Piece.blanked_map_char,
    hblanked, hcount, hwithin, hfound]
  rfl

/-- A table that handles a writing reads from a written body what it gathers from the items. -/
theorem extractAll_body (hhandles : Handled W rules)
    (hnodup : (rules.map Rule.name).Nodup) (hfront : '\x7b' ∉ front) (hbody : W.IsBody is body)
    (hknown : ∀ i ∈ is, W.owner i ∈ rules.map Rule.name)
    (hlimit : ∀ rule ∈ rules, ∀ k, rule.limit = some k → (W.ownedBy rule.name is).length ≤ k)
    (family : Family) (keyword : Text) :
    ∃ left, isBlankText left ∧
      extractAll family keyword rules (front ++ (body ++ [']'])) =
        (W.gather rules is).map fun entries => (entries, front ++ (left ++ [']'])) := by
  induction rules generalizing is body with
  | nil =>
      cases hbody with
      | nil hb => exact ⟨body, hb, rfl⟩
      | cons _ _ _ => exact absurd (hknown _ List.mem_cons_self) (by simp)
  | cons rule rules ih =>
      rw [List.map_cons, List.nodup_cons] at hnodup
      have hlater : ∀ i ∈ is, W.owner i ≠ rule.name → W.owner i ∈ rules.map Rule.name := by
        intro i hi hname
        have hi' := hknown i hi
        rw [List.map_cons, List.mem_cons] at hi'
        exact hi'.resolve_left hname
      obtain ⟨next, hnext, hextract⟩ := hhandles.1.extract hfront hbody hlater
        (hlimit rule List.mem_cons_self) family keyword
      have hleftover : ∀ i ∈ is.filter (W.owner · ≠ rule.name),
          W.owner i ∈ rules.map Rule.name := by
        intro i hi
        simp only [List.mem_filter, decide_eq_true_eq] at hi
        exact hlater i hi.1 hi.2
      have hfewer : ∀ r ∈ rules, ∀ k, r.limit = some k →
          (W.ownedBy r.name (is.filter (W.owner · ≠ rule.name))).length ≤ k := by
        intro r hr k hk
        have hsub : (W.ownedBy r.name (is.filter (W.owner · ≠ rule.name))).length ≤
            (W.ownedBy r.name is).length := ((List.filter_sublist).filter _).length_le
        exact hsub.trans (hlimit r (List.mem_cons_of_mem _ hr) k hk)
      obtain ⟨left, hleft, hrest⟩ := ih hhandles.2 hnodup.2 hnext hleftover hfewer
      -- What this rule took away is of no other rule, so the rest of the table misses nothing.
      rw [Writing.gather_filter_ne hnodup.1] at hrest
      refine ⟨left, hleft, ?_⟩
      simp only [extractAll, hextract, Writing.gather]
      cases (W.ownedBy rule.name is).mapM W.value with
      | error fault => rfl
      | ok values =>
          simp only [Except.map, bind, Except.bind, hrest]
          cases W.gather rules is with
          | error fault => rfl
          | ok others => rfl

end Rule

theorem not_mem_front {family : Family} {lead s : Text} (hlead : isBlankText lead)
    (hs : Reads family.name.toList s) : '\x7b' ∉ '[' :: (lead ++ (s ++ [])) := by
  refine List.not_mem_cons_of_ne_of_not_mem (by decide) ?_
  exact hs.not_mem_append family.isName_name hlead (by decide) (by decide) List.not_mem_nil

theorem Parsed.parse_keyword {ι α : Type} {W : Writing ι α} {is : List ι} {family : Family}
    {rules : List (Rule α)} {t : Text} (h : W.IsKeyword family is t)
    (hhandles : Rule.Handled W rules) (hnodup : (rules.map Rule.name).Nodup)
    (hknown : ∀ i ∈ is, W.owner i ∈ rules.map Rule.name)
    (hlimit : ∀ rule ∈ rules, ∀ k, rule.limit = some k → (W.ownedBy rule.name is).length ≤ k)
    (exclusive : List (List String)) :
    parse t family rules exclusive =
      (W.gather rules is >>= fun entries =>
        let parsed : Parsed α := ⟨family, strip t, entries⟩
        (parsed.checkExclusive exclusive).map fun _ => parsed) := by
  obtain ⟨hbefore, hlead, hs, hbody, hafter⟩ := h
  rename_i before lead s body after
  have hfront := not_mem_front hlead hs
  obtain ⟨left, hleft, hextract⟩ := Rule.extractAll_body hhandles hnodup hfront hbody hknown hlimit
    family ('[' :: ((lead ++ (s ++ body)) ++ [']']))
  have hkeyword : '[' :: (lead ++ (s ++ [])) ++ (body ++ [']']) =
      '[' :: ((lead ++ (s ++ body)) ++ [']']) := by simp
  have hrest : '[' :: (lead ++ (s ++ [])) ++ (left ++ [']']) =
      '[' :: ((lead ++ (s ++ left)) ++ [']']) := by simp
  rw [hkeyword, hrest] at hextract
  unfold parse
  simp only [Family.encloses_keyword hbefore hlead hs hafter, if_true,
    Family.strip_keyword hbefore hafter, hextract]
  cases W.gather rules is with
  | error fault => rfl
  | ok entries =>
      simp only [Except.map, bind, Except.bind, Family.isBare_keyword hlead hs hleft, if_true]

/-- A written keyword is refused if there are too many items of its first rule. -/
theorem Parsed.parse_repeated {ι α : Type} {W : Writing ι α} {is : List ι} {family : Family}
    {rule : Rule α} {rules : List (Rule α)} {t : Text} (h : W.IsKeyword family is t)
    (hhandles : Rule.Handled W (rule :: rules))
    (hknown : ∀ i ∈ is, W.owner i ∈ (rule :: rules).map Rule.name)
    {limit : Nat} (hlimit : rule.limit = some limit)
    (hmore : limit < (W.ownedBy rule.name is).length) (exclusive : List (List String)) :
    parse t family (rule :: rules) exclusive =
      .error (.format (.repeated rule.name family (String.ofList (strip t)))) := by
  obtain ⟨hbefore, hlead, hs, hbody, hafter⟩ := h
  rename_i before lead s body after
  have hfront := not_mem_front hlead hs
  have hlater : ∀ i ∈ is, W.owner i ≠ rule.name → W.owner i ∈ rules.map Rule.name :=
    fun i hi hne => (List.mem_cons.mp (hknown i hi)).resolve_left hne
  have hextract := hhandles.1.extract_repeated hfront hbody hlater hlimit hmore family
    ('[' :: ((lead ++ (s ++ body)) ++ [']']))
  have hkeyword : '[' :: (lead ++ (s ++ [])) ++ (body ++ [']']) =
      '[' :: ((lead ++ (s ++ body)) ++ [']']) := by simp
  rw [hkeyword] at hextract
  unfold parse
  simp only [Family.encloses_keyword hbefore hlead hs hafter, if_true,
    Family.strip_keyword hbefore hafter, Rule.extractAll, hextract, bind, Except.bind]

end FixtureKeywords
