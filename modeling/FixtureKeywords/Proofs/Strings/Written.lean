import FixtureKeywords.Proofs.Keyword.Envelope
import FixtureKeywords.Proofs.Strings.Addition
import FixtureKeywords.Proofs.Strings.Length

/-!
# String keywords as they are written

A string keyword is written from a list of modifiers, one behind the other in any
order. Between them, around them and inside their braces stand any blanks, and
names are spelled in any case. The payload of an addition is any text at all that
does not hold the opener of another one.

Two properties of such a text carry the reading. A modifier that is no addition
holds neither a brace nor a bracket behind its opening brace. And whatever modifiers
follow a place, no closing stands between it and the next opener: an addition is
read up to its own closing.
-/
namespace FixtureKeywords.StringModifier
open Text Recogniser

def name : StringModifier → String
  | addition _ => "include"
  | length _ _ => "length"
  | select chosen => chosen.name

inductive IsWritten : StringModifier → Text → Prop
  | addition {characters w : Text} : characters ≠ [] → ¬ HoldsOpener characters →
      IsAddition characters w → IsWritten (.addition characters) w
  | length {n m : Nat} {payload w : Text} : IsLength n m payload →
      IsAssignment "length".toList payload w → IsWritten (.length n m) w
  | select {chosen : CharClass} {w : Text} : IsFlag chosen.name.toList w →
      IsWritten (.select chosen) w

/-- How modifiers are written one behind the other. -/
inductive IsBody : List StringModifier → Text → Prop
  | nil {b : Text} : isBlankText b → IsBody [] b
  | cons {m : StringModifier} {ms : List StringModifier} {b w rest : Text} :
      isBlankText b → IsWritten m w → IsBody ms rest → IsBody (m :: ms) (b ++ (w ++ rest))

inductive IsKeyword (ms : List StringModifier) : Text → Prop
  | intro {before lead s body after : Text} : isBlankText before → isBlankText lead →
      Reads Family.string.name.toList s → IsBody ms body → isBlankText after →
      IsKeyword ms (before ++ ('[' :: ((lead ++ (s ++ body)) ++ [']'])) ++ after)

theorem name_mem (m : StringModifier) : m.name ∈ rules.map Rule.name := by
  cases m with
  | addition _ => exact List.mem_cons_self
  | length _ _ => exact List.mem_cons_of_mem _ List.mem_cons_self
  | select chosen => cases chosen <;> simp [rules, name, CharClass.all, Rule.flag]

theorem isName_of_mem {name : String} (h : name ∈ rules.map Rule.name) : IsName name.toList :=
  (by decide : ∀ name ∈ rules.map Rule.name, IsName name.toList) name h

theorem not_prefix_of_ne {name other : String} (h : name ∈ rules.map Rule.name)
    (ho : other ∈ rules.map Rule.name) (hne : name ≠ other) :
    ¬ name.toList <+: other.toList :=
  (by decide : ∀ a ∈ rules.map Rule.name, ∀ b ∈ rules.map Rule.name, a ≠ b →
    ¬ a.toList <+: b.toList) name h other ho hne

theorem eq_addition_of_name {m : StringModifier} (h : m.name = "include") :
    ∃ characters, m = addition characters := by
  cases m with
  | addition characters => exact ⟨characters, rfl⟩
  | length _ _ => simp [name] at h
  | select chosen => cases chosen <;> simp [name, CharClass.name] at h

theorem eq_length_of_name {m : StringModifier} (h : m.name = "length") :
    ∃ shortest longest, m = length shortest longest := by
  cases m with
  | addition _ => simp [name] at h
  | length shortest longest => exact ⟨shortest, longest, rfl⟩
  | select chosen => cases chosen <;> simp [name, CharClass.name] at h

theorem eq_select_of_name {m : StringModifier} {chosen : CharClass} (h : m.name = chosen.name) :
    m = select chosen := by
  cases m with
  | addition _ => cases chosen <;> simp [name, CharClass.name] at h
  | length _ _ => cases chosen <;> simp [name, CharClass.name] at h
  | select other => cases other <;> cases chosen <;> simp [name, CharClass.name] at h ⊢

theorem added?_eq_none_iff {m : StringModifier} : m.added? = none ↔ m.name ≠ "include" := by
  constructor
  · rintro h hname
    obtain ⟨characters, rfl⟩ := eq_addition_of_name hname
    simp [added?] at h
  · intro h
    cases m with
    | addition _ => exact absurd rfl h
    | length _ _ => rfl
    | select _ => rfl

theorem name_eq_of_bounds? {m : StringModifier} (h : m.bounds? ≠ none) : m.name = "length" := by
  cases m with
  | addition _ => exact absurd rfl h
  | length _ _ => rfl
  | select _ => exact absurd rfl h

theorem IsBody.bounds {ms : List StringModifier} {body : Text} (h : IsBody ms body) {n k : Nat}
    (hbounds : ms.findSome? bounds? = some (n, k)) : 1 ≤ n ∧ n ≤ k := by
  induction h with
  | nil _ => simp at hbounds
  | cons _ hw _ ih =>
      cases hw with
      | addition _ _ _ => exact ih hbounds
      | length hlength _ =>
          obtain ⟨rfl, rfl⟩ := Prod.mk.inj (Option.some.inj hbounds)
          exact hlength.bounds
      | select _ => exact ih hbounds

theorem IsKeyword.bounds {ms : List StringModifier} {t : Text} (h : IsKeyword ms t) {n k : Nat}
    (hbounds : ms.findSome? bounds? = some (n, k)) : 1 ≤ n ∧ n ≤ k := by
  obtain ⟨_, _, _, hbody, _⟩ := h
  exact hbody.bounds hbounds

/-- Behind the opening brace of a modifier that is no addition there is no other one,
and no bracket. -/
theorem IsWritten.plain {m : StringModifier} {w : Text} (h : IsWritten m w)
    (hm : m.added? = none) :
    ∃ lead s tail, isBlankText lead ∧ Reads m.name.toList s ∧
      w = '\x7b' :: (lead ++ (s ++ tail)) ∧ '\x7b' ∉ tail ∧ ']' ∉ tail := by
  cases h with
  | addition _ _ _ => simp [added?] at hm
  | length hlength hw =>
      obtain ⟨hlead, hs, hmiddle, hpayload⟩ := hw
      rename_i middle
      refine ⟨_, _, _, hlead, hs, rfl, ?_, ?_⟩
      · have hbrace : '\x7b' ∉ (_ : Text) := fun h => absurd (hpayload _ h) (by decide)
        simp [not_mem_of_isBlankText hmiddle (show isBlank '\x7b' = false by decide), hbrace]
      · simp [not_mem_of_isBlankText hmiddle (show isBlank ']' = false by decide),
          hlength.not_mem (show isBlank ']' = false by decide) (by decide) (by decide)]
  | select hw =>
      obtain ⟨hlead, hs, htrail⟩ := hw
      refine ⟨_, _, _, hlead, hs, rfl, ?_, ?_⟩
      · simp [not_mem_of_isBlankText htrail (show isBlank '\x7b' = false by decide)]
      · simp [not_mem_of_isBlankText htrail (show isBlank ']' = false by decide)]

/-- A text without a bracket, with or without a bracket behind it, has no closing. -/
theorem atLastClosing?_plain {t tail : Text} (ht : ']' ∉ t) (htail : tail = [] ∨ tail = [']']) :
    atLastClosing? (t ++ tail) = none := by
  rw [atLastClosing?_eq_none_iff]
  intro before behind heq
  rcases List.append_eq_append_iff.mp heq with ⟨a, -, ha⟩ | ⟨a, rfl, ha⟩
  · rcases htail with rfl | rfl
    · simp at ha
    · cases a with
      | nil =>
          obtain ⟨-, rfl⟩ := List.cons.inj ha
          rfl
      | cons c cs => simp at ha
  · cases a with
    | nil =>
        rcases htail with rfl | rfl
        · simp at ha
        · obtain ⟨-, rfl⟩ := List.cons.inj ha
          rfl
    | cons c cs =>
        obtain ⟨rfl, -⟩ := List.cons.inj ha
        simp at ht

/-- What stands before the next opener: all of the text up to its last bracket, or
a part of it without a bracket. -/
theorem beforeOpener_body {ms : List StringModifier} {body : Text} (h : IsBody ms body) :
    ∃ t tail, beforeOpener (body ++ [']']) = t ++ tail ∧ ']' ∉ t ∧
      (tail = [] ∨ tail = [']']) := by
  induction h with
  | nil hb =>
      refine ⟨_, [']'], ?_, not_mem_of_isBlankText hb (by decide), .inr rfl⟩
      rw [beforeOpener_plain (not_mem_of_isBlankText hb (by decide))]
      simp [beforeOpener, dropOpener?_of_ne (show ']' ≠ '\x7b' by decide)]
  | @cons m ms b w rest hb hw _ ih =>
      have hb' : ']' ∉ b := not_mem_of_isBlankText hb (by decide)
      rw [List.append_assoc, List.append_assoc,
        beforeOpener_plain (not_mem_of_isBlankText hb (by decide))]
      by_cases hm : m.added? = none
      · obtain ⟨t, tail, heq, ht, htail⟩ := ih
        obtain ⟨lead, s, u, hlead, hs, rfl, hu, hu'⟩ := hw.plain hm
        have hname := isName_of_mem m.name_mem
        have hinner : '\x7b' ∉ lead ++ (s ++ u) :=
          hs.not_mem_append hname hlead (by decide) (by decide) hu
        have hinner' : ']' ∉ '\x7b' :: (lead ++ (s ++ u)) := by
          refine List.not_mem_cons_of_ne_of_not_mem (by decide) ?_
          exact hs.not_mem_append hname hlead (by decide) (by decide) hu'
        have hnone : dropOpener? ('\x7b' :: (lead ++ (s ++ u) ++ (rest ++ [']']))) = none := by
          have hne := added?_eq_none_iff.mp hm
          have := dropOpening?_eq_none hname hs hlead
            (not_prefix_of_ne List.mem_cons_self m.name_mem hne.symm)
            (not_prefix_of_ne m.name_mem List.mem_cons_self hne) (u ++ (rest ++ [']']))
          simp only [List.append_assoc, dropOpener?]
          rw [this]
          rfl
        refine ⟨b ++ ('\x7b' :: (lead ++ (s ++ u)) ++ t), tail, ?_, ?_, htail⟩
        · rw [List.cons_append, beforeOpener, hnone, beforeOpener_plain hinner, heq]
          simp
        · rw [List.mem_append, List.mem_append, not_or, not_or]
          exact ⟨hb', hinner', ht⟩
      · cases hw with
        | length _ _ => exact absurd rfl hm
        | select _ => exact absurd rfl hm
        | addition _ _ hw =>
            obtain ⟨ho, -, -⟩ := hw
            refine ⟨b, [], ?_, hb', .inl rfl⟩
            rw [List.append_assoc, beforeOpener_opener ho]

/-- Whatever modifiers follow a place, nothing closes between it and the next opener. -/
theorem atLastClosing?_body {ms : List StringModifier} {body : Text} (h : IsBody ms body) :
    atLastClosing? (beforeOpener (body ++ [']'])) = none := by
  obtain ⟨t, tail, heq, ht, htail⟩ := beforeOpener_body h
  rw [heq]
  exact atLastClosing?_plain ht htail

end FixtureKeywords.StringModifier
