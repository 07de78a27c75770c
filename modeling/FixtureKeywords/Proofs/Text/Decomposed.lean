import FixtureKeywords.Text.Composed
import Mathlib

/-!
# Characters taken apart

A character is taken apart by the rows of the tables, level by level, and a Hangul syllable by
arithmetic. How many levels there are is a fact about the tables: behind three of them no
character is left that a row takes apart. So what a character is taken apart into are atoms,
which stand for themselves, and joining a mark to a letter adds this mark to the atoms of the
letter.

Facts about all rows are checked by computation. A set of code points is one number there,
with a bit for each of its members, since a search for every code point of every row would
take too long.
-/
namespace FixtureKeywords.Text

/-- A set of code points as the bits of a number. -/
def pointSet (points : List Nat) : Nat :=
  points.foldr (fun n set => set ||| 1 <<< n) 0

theorem testBit_pointSet {points : List Nat} {n : Nat} :
    (pointSet points).testBit n ↔ n ∈ points := by
  induction points with
  | nil => simp [pointSet]
  | cons m points ih =>
      have hcons : pointSet (m :: points) = pointSet points ||| 1 <<< m := rfl
      rw [hcons, Nat.testBit_or, Bool.or_eq_true, ih, List.mem_cons, Nat.one_shiftLeft,
        Nat.testBit_two_pow, decide_eq_true_eq, eq_comm, or_comm]

/-- Each character that stands for one other, and what it stands for. -/
def singletons : List (Nat × Nat) :=
  singletonRuns.flatMap fun (first, targets) => (targets.zipIdx first).map Prod.swap

/-- The rows of the tables: a character and what it is taken apart into, one level deep. -/
def rewrites : List (Nat × List Nat) :=
  (composablePairs ++ oneWayPairs).map (fun (n, base, mark) => (n, [base, mark])) ++
    singletons.map fun (n, target) => (n, [target])

/-- Whether a code point is a Hangul syllable. -/
def IsSyllable (n : Nat) : Prop :=
  0xAC00 ≤ n ∧ n < 0xAC00 + 11172

instance (n : Nat) : Decidable (IsSyllable n) :=
  inferInstanceAs (Decidable (_ ∧ _))

/-- Whether a code point is one that syllables are made of. -/
def IsJamo (n : Nat) : Prop :=
  0x1100 ≤ n ∧ n < 0x1200

instance (n : Nat) : Decidable (IsJamo n) :=
  inferInstanceAs (Decidable (_ ∧ _))

/-- What a character is taken apart into one level deep, if it is no atom. -/
def parts? (n : Nat) : Option (List Nat) :=
  if n < 0xC0 then none else
  match hangulParts? n with
  | some parts => some parts
  | none =>
    match (partsIn composablePairs n).orElse fun _ => partsIn oneWayPairs n with
    | some (base, mark) => some [base, mark]
    | none => (singleton? n).map fun target => [target]

theorem partsIn_mem {table : List (Nat × Nat × Nat)} {n base mark : Nat}
    (h : partsIn table n = some (base, mark)) : (n, base, mark) ∈ table := by
  obtain ⟨⟨n', parts⟩, hfind, rfl⟩ := Option.map_eq_some_iff.mp h
  obtain rfl : n' = n := by simpa using List.find?_some hfind
  exact List.mem_of_find?_eq_some hfind

theorem singleton?_mem {n target : Nat} (h : singleton? n = some target) :
    (n, target) ∈ singletons := by
  obtain ⟨⟨first, targets⟩, hfind, hget⟩ := Option.bind_eq_some_iff.mp h
  have hrange := List.find?_some hfind
  simp only [Bool.and_eq_true, decide_eq_true_eq] at hrange
  refine List.mem_flatMap.mpr ⟨_, List.mem_of_find?_eq_some hfind, ?_⟩
  refine List.mem_map.mpr ⟨(target, n), ?_, rfl⟩
  rw [List.mem_zipIdx_iff_le_and_getElem?_sub]
  exact ⟨hrange.1, hget⟩

theorem hangulParts?_eq_some {n : Nat} {parts : List Nat} (h : hangulParts? n = some parts) :
    IsSyllable n ∧ ∀ p ∈ parts, IsJamo p := by
  unfold hangulParts? at h
  split_ifs at h with hrange
  simp only [Bool.and_eq_true, decide_eq_true_eq] at hrange
  refine ⟨hrange, fun p hp => ?_⟩
  rw [← Option.some.inj h] at hp
  unfold IsJamo
  split_ifs at hp <;> simp at hp <;> omega

theorem hangulParts?_eq_none {n : Nat} (h : ¬ IsSyllable n) : hangulParts? n = none := by
  by_contra hsome
  obtain ⟨parts, hparts⟩ := Option.ne_none_iff_exists'.mp hsome
  exact h (hangulParts?_eq_some hparts).1

theorem parts?_eq_some {n : Nat} {parts : List Nat} (h : parts? n = some parts) :
    (IsSyllable n ∧ ∀ p ∈ parts, IsJamo p) ∨ (n, parts) ∈ rewrites := by
  unfold parts? at h
  split_ifs at h
  cases hhangul : hangulParts? n with
  | some syllable =>
      simp only [hhangul, Option.some.injEq] at h
      subst h
      exact .inl (hangulParts?_eq_some hhangul)
  | none =>
      refine .inr (List.mem_append.mpr ?_)
      cases hpair : (partsIn composablePairs n).orElse fun _ => partsIn oneWayPairs n with
      | some pair =>
          obtain ⟨base, mark⟩ := pair
          simp only [hhangul, hpair, Option.some.injEq] at h
          refine .inl (List.mem_map.mpr ⟨(n, base, mark), List.mem_append.mpr ?_, by rw [← h]⟩)
          cases hc : partsIn composablePairs n with
          | some pair =>
              rw [hc] at hpair
              exact .inl (partsIn_mem (hc.trans hpair))
          | none =>
              rw [hc] at hpair
              exact .inr (partsIn_mem hpair)
      | none =>
          simp only [hhangul, hpair, Option.map_eq_some_iff] at h
          obtain ⟨target, htarget, rfl⟩ := h
          exact .inr (List.mem_map.mpr ⟨(n, target), singleton?_mem htarget, rfl⟩)

/-- A character that stands for itself. -/
def IsAtom (n : Nat) : Prop :=
  parts? n = none

theorem isAtom_of_not_mem {n : Nat} (hkey : n ∉ rewrites.map Prod.fst) (hs : ¬ IsSyllable n) :
    IsAtom n := by
  by_contra hsome
  obtain ⟨parts, hparts⟩ := Option.ne_none_iff_exists'.mp hsome
  rcases parts?_eq_some hparts with ⟨hn, -⟩ | hrow
  · exact hs hn
  · exact hkey (List.mem_map_of_mem hrow)

/-- The rows with a chain of more than `k` rows behind them. -/
def deepRows : Nat → List (Nat × List Nat)
  | 0 => rewrites
  | k + 1 => (deepRows k).filter fun row =>
      row.2.any (pointSet ((deepRows k).map Prod.fst)).testBit

/-- A code point that is neither a syllable nor one that stands for nothing. -/
def IsPlain (n : Nat) : Prop :=
  n < 0xAC00 ∨ 0xF900 ≤ n ∧ n < 0x110000

instance (n : Nat) : Decidable (IsPlain n) :=
  inferInstanceAs (Decidable (_ ∨ _))

theorem IsPlain.not_isSyllable {n : Nat} (h : IsPlain n) : ¬ IsSyllable n := by
  unfold IsPlain at h
  unfold IsSyllable
  omega

theorem IsPlain.isValidChar {n : Nat} (h : IsPlain n) : n.isValidChar := by
  unfold IsPlain at h
  unfold Nat.isValidChar
  omega

-- One computation for all of it: going through the tables is what takes the time.
/-- What holds of every row of the tables. No row takes apart what a syllable is made of, no
chain has more than three rows, and a mark that is joined is not taken apart. -/
theorem tables_checked :
    (∀ row ∈ rewrites, (0xC0 ≤ row.1 ∧ ¬ IsJamo row.1 ∧ IsPlain row.1) ∧
      ∀ p ∈ row.2, IsPlain p) ∧
    deepRows 3 = [] ∧
    (composablePairs.IsChain fun a b => a.1 < b.1) ∧
    (∀ row ∈ composablePairs, 0xC0 ≤ row.2.2 ∧
      ¬ (pointSet ((deepRows 0).map Prod.fst)).testBit row.2.2) ∧
    ∀ range ∈ combiningRanges, 0xC0 ≤ range.1 := by
  decide +kernel

theorem rewrites_bounds : ∀ row ∈ rewrites,
    (0xC0 ≤ row.1 ∧ ¬ IsJamo row.1 ∧ IsPlain row.1) ∧ ∀ p ∈ row.2, IsPlain p :=
  tables_checked.1

theorem deepRows_three : deepRows 3 = [] :=
  tables_checked.2.1

theorem deepRows_four : deepRows 4 = [] := by
  rw [deepRows, deepRows_three, List.filter_nil]

theorem IsJamo.isAtom {n : Nat} (h : IsJamo n) : IsAtom n := by
  refine isAtom_of_not_mem ?_ ?_
  · rintro hkey
    obtain ⟨row, hrow, rfl⟩ := List.mem_map.mp hkey
    exact (rewrites_bounds row hrow).1.2.1 h
  · rintro hs
    have := h.2
    have := hs.1
    omega

theorem flatMap_eq_self {f : Nat → List Nat} {l : List Nat} (h : ∀ n ∈ l, f n = [n]) :
    l.flatMap f = l := by
  rw [List.flatMap_congr h, List.flatMap_singleton']

theorem IsAtom.decomposePoint {n : Nat} (h : IsAtom n) (k : Nat) : decomposePoint k n = [n] := by
  cases k with
  | zero => rfl
  | succ k =>
      unfold IsAtom parts? at h
      unfold Text.decomposePoint
      split_ifs at h ⊢ with hlow
      · rfl
      · cases hhangul : hangulParts? n with
        | some parts => simp [hhangul] at h
        | none =>
            simp only [hhangul] at h ⊢
            cases hpair : (partsIn composablePairs n).orElse fun _ => partsIn oneWayPairs n with
            | some pair => simp only [hpair, reduceCtorEq] at h
            | none =>
                simp only [hpair, Option.map_eq_none_iff] at h ⊢
                rw [h]

theorem decomposePoint_succ (k n : Nat) :
    decomposePoint (k + 1) n =
      match parts? n with
      | some parts => parts.flatMap (decomposePoint k)
      | none => [n] := by
  cases hparts : parts? n with
  | none => exact IsAtom.decomposePoint hparts (k + 1)
  | some parts =>
      have hknown := hparts
      unfold parts? at hparts
      rw [decomposePoint]
      split_ifs at hparts ⊢ with hlow
      cases hhangul : hangulParts? n with
      | some syllable =>
          simp only [hhangul, Option.some.injEq] at hparts ⊢
          subst hparts
          exact (flatMap_eq_self fun p hp =>
            ((hangulParts?_eq_some hhangul).2 p hp).isAtom.decomposePoint k).symm
      | none =>
          simp only [hhangul] at hparts ⊢
          cases hpair : (partsIn composablePairs n).orElse fun _ => partsIn oneWayPairs n with
          | some pair =>
              simp only [hpair, Option.some.injEq] at hparts ⊢
              simp [← hparts]
          | none =>
              simp only [hpair, Option.map_eq_some_iff] at hparts ⊢
              obtain ⟨target, htarget, rfl⟩ := hparts
              simp [htarget]

theorem mem_deepRows {k n p : Nat} {parts : List Nat} (hrow : (n, parts) ∈ rewrites)
    (hp : p ∈ parts) (hdeep : p ∈ (deepRows k).map Prod.fst) : (n, parts) ∈ deepRows (k + 1) := by
  have hany {points : List Nat} (hmem : p ∈ points) : parts.any (pointSet points).testBit :=
    List.any_eq_true.mpr ⟨p, hp, testBit_pointSet.mpr hmem⟩
  induction k with
  | zero => exact List.mem_filter.mpr ⟨hrow, hany hdeep⟩
  | succ k ih =>
      obtain ⟨row, hmem, rfl⟩ := List.mem_map.mp hdeep
      have hless := ih (List.mem_map_of_mem (List.mem_of_mem_filter hmem))
      exact List.mem_filter.mpr ⟨hless, hany hdeep⟩

theorem isAtom_of_mem_decomposePoint {k n : Nat} (hdeep : n ∉ (deepRows k).map Prod.fst)
    (hs : k = 0 → ¬ IsSyllable n) : ∀ p ∈ decomposePoint k n, IsAtom p := by
  induction k generalizing n with
  | zero =>
      intro p hp
      obtain rfl := List.mem_singleton.mp hp
      exact isAtom_of_not_mem hdeep (hs rfl)
  | succ k ih =>
      rw [decomposePoint_succ]
      cases hparts : parts? n with
      | none =>
          intro p hp
          obtain rfl := List.mem_singleton.mp hp
          exact hparts
      | some parts =>
          intro p hp
          obtain ⟨part, hpart, hp⟩ := List.mem_flatMap.mp hp
          rcases parts?_eq_some hparts with ⟨-, hjamo⟩ | hrow
          -- The parts of a syllable are atoms on every level, so the depth does not matter.
          · have hatom := (hjamo part hpart).isAtom
            rw [hatom.decomposePoint, List.mem_singleton] at hp
            exact hp ▸ hatom
          · refine ih (fun hmem => hdeep ?_) (fun _ => ?_) p hp
            · exact List.mem_map_of_mem (mem_deepRows hrow hpart hmem)
            · exact ((rewrites_bounds _ hrow).2 part hpart).not_isSyllable

theorem decomposePoint_succ_eq {k n : Nat} (h : ∀ p ∈ decomposePoint k n, IsAtom p) :
    decomposePoint (k + 1) n = decomposePoint k n := by
  induction k generalizing n with
  | zero => exact (h n (by simp [decomposePoint])).decomposePoint 1
  | succ k ih =>
      rw [decomposePoint_succ (k + 1), decomposePoint_succ k] at *
      cases hparts : parts? n with
      | none => rfl
      | some parts =>
          simp only [hparts, List.mem_flatMap] at h ⊢
          exact List.flatMap_congr fun part hpart => ih fun p hp => h p ⟨part, hpart, hp⟩

theorem decomposePoint_ne_nil (k n : Nat) : decomposePoint k n ≠ [] := by
  induction k generalizing n with
  | zero => simp [decomposePoint]
  | succ k ih =>
      unfold decomposePoint
      split_ifs
      · simp
      · split
        · rename_i parts hparts
          unfold hangulParts? at hparts
          split_ifs at hparts
          rw [← Option.some.inj hparts]
          split_ifs <;> simp
        · split
          · simp [ih]
          · split
            · exact ih _
            · simp

theorem isAtom_of_mem_decomposed {n p : Nat} (hp : p ∈ decomposed n) : IsAtom p :=
  isAtom_of_mem_decomposePoint (by simp [deepRows_four]) (by simp) p hp

theorem IsAtom.decomposed {n : Nat} (h : IsAtom n) : decomposed n = [n] :=
  h.decomposePoint 4

theorem decomposed_of_parts {n : Nat} {parts : List Nat} (h : parts? n = some parts) :
    decomposed n = parts.flatMap decomposed := by
  rw [Text.decomposed, decomposePoint_succ, h]
  refine List.flatMap_congr fun p _ => (decomposePoint_succ_eq ?_).symm
  exact isAtom_of_mem_decomposePoint (by simp [deepRows_three]) (by simp)

/-- The rows that are used in both directions are in order, so each character has one. -/
theorem composablePairs_increasing : composablePairs.IsChain fun a b => a.1 < b.1 :=
  tables_checked.2.2.1

theorem partsIn_composablePairs {whole base mark : Nat}
    (h : (whole, base, mark) ∈ composablePairs) :
    partsIn composablePairs whole = some (base, mark) := by
  have hsome : (composablePairs.find? fun row => row.1 == whole).isSome :=
    List.find?_isSome.mpr ⟨_, h, by simp⟩
  obtain ⟨row, hfind⟩ := Option.isSome_iff_exists.mp hsome
  have hkey : row.1 = whole := by simpa using List.find?_some hfind
  have hnodup : (composablePairs.map Prod.fst).Nodup := by
    refine List.pairwise_map.mpr (List.Pairwise.imp (fun hlt => Nat.ne_of_lt hlt) ?_)
    exact List.isChain_iff_pairwise.mp composablePairs_increasing
  have hrow : row = (whole, base, mark) :=
    List.inj_on_of_nodup_map hnodup (List.mem_of_find?_eq_some hfind) h hkey
  rw [partsIn, hfind, hrow]
  rfl

theorem rewrites_of_composable {row : Nat × Nat × Nat} (h : row ∈ composablePairs) :
    (row.1, [row.2.1, row.2.2]) ∈ rewrites :=
  List.mem_append_left _ (List.mem_map.mpr ⟨row, List.mem_append_left _ h, rfl⟩)

theorem composable_of_find {whole base mark : Nat}
    (h : (composablePairs.find? fun (_, b, m) => b == base && m == mark).map Prod.fst =
      some whole) : (whole, base, mark) ∈ composablePairs := by
  obtain ⟨⟨whole', base', mark'⟩, hfind, rfl⟩ := Option.map_eq_some_iff.mp h
  have hkey := List.find?_some hfind
  simp only [Bool.and_eq_true, beq_iff_eq] at hkey
  obtain ⟨rfl, rfl⟩ := hkey
  exact List.mem_of_find?_eq_some hfind

theorem joined?_cases {base mark whole : Nat} (h : joined? base mark = some whole) :
    (IsSyllable whole ∧ (IsJamo base ∨ IsSyllable base) ∧ IsJamo mark) ∨
      (whole, base, mark) ∈ composablePairs := by
  unfold joined? at h
  split_ifs at h with hleading htrailing
  · simp only [Bool.and_eq_true, decide_eq_true_eq] at hleading
    rw [Option.some.injEq] at h
    exact .inl ⟨⟨by omega, by omega⟩, .inl ⟨by omega, by omega⟩, ⟨by omega, by omega⟩⟩
  · simp only [Bool.and_eq_true, decide_eq_true_eq, beq_iff_eq] at htrailing
    rw [Option.some.injEq] at h
    exact .inl ⟨⟨by omega, by omega⟩, .inr ⟨by omega, by omega⟩, ⟨by omega, by omega⟩⟩
  · exact .inr (composable_of_find h)

theorem parts?_of_composable {whole base mark : Nat}
    (h : (whole, base, mark) ∈ composablePairs) : parts? whole = some [base, mark] := by
  have hbounds := rewrites_bounds _ (rewrites_of_composable h)
  rw [parts?, if_neg (Nat.not_lt.mpr hbounds.1.1), hangulParts?_eq_none hbounds.1.2.2.not_isSyllable,
    partsIn_composablePairs h]
  rfl

theorem isAtom_of_composable {whole base mark : Nat}
    (h : (whole, base, mark) ∈ composablePairs) : IsAtom mark := by
  have hplain : IsPlain mark := (rewrites_bounds _ (rewrites_of_composable h)).2 mark (by simp)
  have hkey : ¬ (pointSet (rewrites.map Prod.fst)).testBit mark :=
    (tables_checked.2.2.2.1 _ h).2
  exact isAtom_of_not_mem (fun hmem => hkey (testBit_pointSet.mpr hmem)) hplain.not_isSyllable

theorem parts?_of_isSyllable {n : Nat} (h : IsSyllable n) :
    parts? n =
      let head := [0x1100 + (n - 0xAC00) / 588, 0x1161 + (n - 0xAC00) % 588 / 28]
      some (if (n - 0xAC00) % 28 = 0 then head else head ++ [0x11A7 + (n - 0xAC00) % 28]) := by
  have hlow : ¬ n < 0xC0 := by
    have := h.1
    omega
  have hrange : (decide (0xAC00 ≤ n) && decide (n < 0xAC00 + 11172)) = true := by
    rw [decide_eq_true h.1, decide_eq_true h.2, Bool.and_self]
  rw [parts?, if_neg hlow, hangulParts?, if_pos hrange]

/-- Joining a mark to a letter is undone by one level: the mark comes off, or it comes last
among the parts. -/
theorem joined?_eq_some {base mark whole : Nat} (h : joined? base mark = some whole) :
    IsAtom mark ∧ (parts? whole = some [base, mark] ∨
      ∃ parts, parts? base = some parts ∧ parts? whole = some (parts ++ [mark])) := by
  unfold joined? at h
  split_ifs at h with hleading htrailing
  · simp only [Bool.and_eq_true, decide_eq_true_eq] at hleading
    obtain ⟨⟨⟨hb, hb'⟩, hm⟩, hm'⟩ := hleading
    rw [Option.some.injEq] at h
    have hsyllable : IsSyllable whole := by
      unfold IsSyllable
      omega
    refine ⟨IsJamo.isAtom ⟨by omega, by omega⟩, .inl ?_⟩
    rw [parts?_of_isSyllable hsyllable]
    have hvowel : (whole - 0xAC00) % 28 = 0 := by omega
    have hbase : 0x1100 + (whole - 0xAC00) / 588 = base := by omega
    have hmark : 0x1161 + (whole - 0xAC00) % 588 / 28 = mark := by omega
    simp only [hvowel, hbase, hmark, if_true]
  · simp only [Bool.and_eq_true, decide_eq_true_eq, beq_iff_eq] at htrailing
    obtain ⟨⟨⟨⟨hb, hb'⟩, hopen⟩, hm⟩, hm'⟩ := htrailing
    rw [Option.some.injEq] at h
    have hsyllable : IsSyllable whole := by
      unfold IsSyllable
      omega
    have hbase : IsSyllable base := ⟨hb, hb'⟩
    refine ⟨IsJamo.isAtom ⟨by omega, by omega⟩, .inr
      ⟨[0x1100 + (base - 0xAC00) / 588, 0x1161 + (base - 0xAC00) % 588 / 28], ?_, ?_⟩⟩
    · rw [parts?_of_isSyllable hbase]
      simp only [hopen, if_true]
    · have hclosed : (whole - 0xAC00) % 28 ≠ 0 := by omega
      have hfirst : (whole - 0xAC00) / 588 = (base - 0xAC00) / 588 := by omega
      have hvowel : (whole - 0xAC00) % 588 / 28 = (base - 0xAC00) % 588 / 28 := by omega
      have hmark : 0x11A7 + (whole - 0xAC00) % 28 = mark := by omega
      rw [parts?_of_isSyllable hsyllable]
      simp only [hclosed, hfirst, hvowel, hmark, if_false]
  · have hrow := composable_of_find h
    exact ⟨isAtom_of_composable hrow, .inl (parts?_of_composable hrow)⟩

/-- Joining a mark to a letter adds the mark to the atoms of the letter. -/
theorem decomposed_joined {base mark whole : Nat} (h : joined? base mark = some whole) :
    decomposed whole = decomposed base ++ [mark] := by
  obtain ⟨hatom, hparts | ⟨parts, hbase, hparts⟩⟩ := joined?_eq_some h
  · simp [decomposed_of_parts hparts, hatom.decomposed]
  · simp [decomposed_of_parts hparts, decomposed_of_parts hbase, hatom.decomposed]

/-- Properties that go over to what a character is taken apart into, and to what a mark and a
letter are joined to. All syllables have them, and all that syllables are made of. -/
structure Closed (P : Nat → Prop) : Prop where
  parts : ∀ row ∈ rewrites, P row.1 → ∀ p ∈ row.2, P p
  whole : ∀ row ∈ composablePairs, P row.2.1 → P row.2.2 → P row.1
  jamo : ∀ n, IsJamo n → P n
  syllable : ∀ n, IsSyllable n → P n

theorem Closed.parts? {P : Nat → Prop} (hP : Closed P) {n : Nat} {parts : List Nat}
    (h : parts? n = some parts) (hn : P n) : ∀ p ∈ parts, P p := by
  rcases parts?_eq_some h with ⟨-, hjamo⟩ | hrow
  · exact fun p hp => hP.jamo p (hjamo p hp)
  · exact hP.parts _ hrow hn

theorem Closed.decomposePoint {P : Nat → Prop} (hP : Closed P) (k : Nat) {n : Nat} (hn : P n) :
    ∀ p ∈ decomposePoint k n, P p := by
  induction k generalizing n with
  | zero => simpa [Text.decomposePoint] using hn
  | succ k ih =>
      rw [decomposePoint_succ]
      cases hparts : Text.parts? n with
      | none => simpa using hn
      | some parts =>
          intro p hp
          obtain ⟨part, hpart, hp⟩ := List.mem_flatMap.mp hp
          exact ih (hP.parts? hparts hn part hpart) p hp

theorem Closed.decomposed {P : Nat → Prop} (hP : Closed P) {n : Nat} (hn : P n) :
    ∀ p ∈ decomposed n, P p :=
  hP.decomposePoint 4 hn

theorem Closed.joined? {P : Nat → Prop} (hP : Closed P) {base mark whole : Nat}
    (h : joined? base mark = some whole) (hb : P base) (hm : P mark) : P whole := by
  rcases joined?_cases h with ⟨hwhole, -, -⟩ | hrow
  · exact hP.syllable whole hwhole
  · exact hP.whole _ hrow hb hm

/-- No row leads to one of the characters from others. The check goes by bits. -/
def KeptOut (points : List Nat) : Prop :=
  (∀ row ∈ rewrites, ∀ p ∈ row.2,
    (pointSet points).testBit p → (pointSet points).testBit row.1) ∧
  (∀ row ∈ composablePairs, (pointSet points).testBit row.1 →
    (pointSet points).testBit row.2.1 ∨ (pointSet points).testBit row.2.2) ∧
  ∀ n ∈ points, ¬ IsJamo n ∧ ¬ IsSyllable n

instance (points : List Nat) : Decidable (KeptOut points) :=
  inferInstanceAs (Decidable (_ ∧ _ ∧ _))

theorem KeptOut.closed {points : List Nat} (h : KeptOut points) : Closed (· ∉ points) where
  parts row hrow hn p hp hmem :=
    hn (testBit_pointSet.mp (h.1 row hrow p hp (testBit_pointSet.mpr hmem)))
  whole row hrow hb hm hmem := by
    rcases h.2.1 row hrow (testBit_pointSet.mpr hmem) with hbase | hmark
    · exact hb (testBit_pointSet.mp hbase)
    · exact hm (testBit_pointSet.mp hmark)
  jamo n hn hmem := (h.2.2 n hmem).1 hn
  syllable n hn hmem := (h.2.2 n hmem).2 hn

theorem closed_isValidChar : Closed Nat.isValidChar where
  parts row hrow _ p hp := ((rewrites_bounds row hrow).2 p hp).isValidChar
  whole row hrow _ _ := (rewrites_bounds _ (rewrites_of_composable hrow)).1.2.2.isValidChar
  jamo n hn := .inl (hn.2.trans (by decide))
  syllable n hn := .inl (hn.2.trans (by decide))

end FixtureKeywords.Text
