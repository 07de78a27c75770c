import FixtureKeywords.Proofs.Text.Spelling

/-!
# Letters in any case

A name is matched letter by letter without regard to case. Which characters match a letter is
said here by listing them, apart from the key by which the reader compares: the letter, its
capital, and four letters outside ASCII that differ from an ASCII letter in nothing but case.
-/
namespace FixtureKeywords.Text

/-- The characters that match a lower-case ASCII letter. -/
def formsOf (w : Char) : List Char :=
  w :: w.toUpper ::
    match w with
    | 's' => ['\u017f']
    | 'i' => ['\u0130', '\u0131']
    | 'k' => ['\u212a']
    | _ => []

def InAnyCase (word t : Text) : Prop :=
  List.Forall₂ (fun w c => c ∈ formsOf w) word t

instance (word t : Text) : Decidable (InAnyCase word t) :=
  inferInstanceAs (Decidable (List.Forall₂ _ word t))

theorem letterKey_mem_formsOf (c : Char) : c ∈ formsOf (letterKey c) := by
  unfold letterKey
  split_ifs with hs hi hk
  · subst hs
    decide
  · rcases hi with rfl | rfl
    · decide
    · decide
  · subst hk
    decide
  · by_cases hc : c.isUpper
    · refine List.mem_cons_of_mem _ (List.mem_cons.mpr (.inl ?_))
      rw [Char.toUpper_toLower_eq_toUpper,
        Char.toUpper_eq_of_not_isLower (Char.not_isLower_of_isUpper hc)]
    · rw [Char.toLower_eq_of_not_isUpper hc]
      exact List.mem_cons_self

theorem letterKey_of_mem_formsOf {w c : Char} (hw : w.isLower) (h : c ∈ formsOf w) :
    letterKey c = w := by
  have hself : w.toLower = w :=
    Char.toLower_eq_of_not_isUpper (Char.not_isUpper_of_isLower hw)
  rcases List.mem_cons.mp h with rfl | h
  · rw [letterKey_eq_toLower (by rwa [hself]), hself]
  · rcases List.mem_cons.mp h with rfl | h
    · have hlower : w.toUpper.toLower = w := by rw [Char.toLower_toUpper_eq_toLower, hself]
      rw [letterKey_eq_toLower (by rwa [hlower]), hlower]
    · split at h
      · obtain rfl := List.mem_singleton.mp h
        rfl
      · rcases List.mem_pair.mp h with rfl | rfl
        · rfl
        · rfl
      · obtain rfl := List.mem_singleton.mp h
        rfl
      · exact absurd h List.not_mem_nil

theorem inAnyCase_iff_reads {name t : Text} (hn : IsName name) :
    InAnyCase name t ↔ Reads name t := by
  obtain ⟨-, hlower⟩ := hn
  unfold Reads
  constructor
  · intro h
    induction h with
    | nil => rfl
    | @cons w c word t hc _ ih =>
        rw [List.map_cons, letterKey_of_mem_formsOf (hlower w List.mem_cons_self) hc,
          ih fun v hv => hlower v (List.mem_cons_of_mem _ hv)]
  · rintro rfl
    unfold InAnyCase
    rw [List.forall₂_map_left_iff, List.forall₂_same]
    exact fun c _ => letterKey_mem_formsOf c

end FixtureKeywords.Text
