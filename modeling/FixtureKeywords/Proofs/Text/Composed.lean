import FixtureKeywords.Proofs.Text.Decomposed

/-!
# Composed form is a normal form

Taking a composed text apart and sorting its marks gives back the marks it was joined from: a
mark is joined past marks of a lower class only, and sorting moves it back. So composing is
idempotent.

A character that is joined to nothing, neither to what stands before it nor to what follows
it, is a barrier: the texts on its two sides are composed on their own. Blanks are barriers.
-/
namespace FixtureKeywords.Text

/-- The marks of a text that is taken apart, in their order in the text. -/
def marksOf (points : List Nat) : List Mark :=
  (points.flatMap decomposed).map fun n => ⟨n, combiningClass n⟩

theorem composedPoints_eq (points : List Nat) :
    composedPoints points = joinMarks none [] (sortMarks [] (marksOf points)) := rfl

@[simp]
theorem marksOf_nil : marksOf [] = [] := rfl

@[simp]
theorem marksOf_append (xs ys : List Nat) : marksOf (xs ++ ys) = marksOf xs ++ marksOf ys := by
  simp [marksOf]

theorem marksOf_cons (n : Nat) (xs : List Nat) : marksOf (n :: xs) = marksOf [n] ++ marksOf xs :=
  marksOf_append [n] xs

/-- An atom with its own combining class. -/
def Mark.Proper (m : Mark) : Prop :=
  IsAtom m.point ∧ m.rank = combiningClass m.point

theorem Mark.Proper.marksOf {m : Mark} (h : m.Proper) : marksOf [m.point] = [m] := by
  obtain ⟨hatom, hrank⟩ := h
  simp [Text.marksOf, hatom.decomposed, ← hrank]

theorem marksOf_points {ms : List Mark} (h : ∀ m ∈ ms, m.Proper) :
    marksOf (ms.map Mark.point) = ms := by
  induction ms with
  | nil => rfl
  | cons m ms ih =>
      rw [List.map_cons, marksOf_cons, (h m (by simp)).marksOf, ih fun x hx => h x (by simp [hx])]
      rfl

theorem proper_of_mem_marksOf {points : List Nat} : ∀ m ∈ marksOf points, m.Proper := by
  intro m hm
  obtain ⟨n, hn, rfl⟩ := List.mem_map.mp hm
  obtain ⟨c, -, hn⟩ := List.mem_flatMap.mp hn
  exact ⟨isAtom_of_mem_decomposed hn, rfl⟩

/-! ### Sorting -/

theorem insertMark_perm (m : Mark) (run : List Mark) : (insertMark m run).Perm (m :: run) := by
  induction run with
  | nil => rfl
  | cons x xs ih =>
      unfold insertMark
      split_ifs
      · exact (ih.cons x).trans (.swap m x xs)
      · rfl

theorem sortMarks_perm (run xs : List Mark) : (sortMarks run xs).Perm (run ++ xs) := by
  induction xs generalizing run with
  | nil => simp [sortMarks]
  | cons x xs ih =>
      unfold sortMarks
      split_ifs
      · exact ((ih []).cons x).append_left run
      · calc List.Perm (sortMarks (insertMark x run) xs) (insertMark x run ++ xs) := ih _
          List.Perm _ (x :: run ++ xs) := (insertMark_perm x run).append_right xs
          List.Perm _ (run ++ x :: xs) := List.perm_middle.symm

theorem sortMarks_append_cons (run xs : List Mark) {x : Mark} (hx : x.rank = 0)
    (ys : List Mark) :
    sortMarks run (xs ++ x :: ys) = sortMarks run xs ++ x :: sortMarks [] ys := by
  induction xs generalizing run with
  | nil => simp [sortMarks, hx]
  | cons y xs ih =>
      rw [List.cons_append, sortMarks, sortMarks]
      split_ifs
      · rw [ih, List.append_assoc, List.cons_append]
      · exact ih _

theorem insertMark_comm {p x : Mark} (h : p.rank < x.rank) (run : List Mark) :
    insertMark x (insertMark p run) = insertMark p (insertMark x run) := by
  induction run with
  | nil => simp [insertMark, h.le, Nat.not_le.mpr h]
  | cons y ys ih =>
      by_cases hp : y.rank ≤ p.rank
      · simp [insertMark, hp, hp.trans h.le, ih]
      · by_cases hx : y.rank ≤ x.rank <;>
          simp [insertMark, hp, hx, h.le, Nat.not_le.mpr h]

/-- Sorting does not see whether a mark stands before or behind marks of lower classes. -/
theorem sortMarks_move {x : Mark} {ps : List Mark} (h : ∀ p ∈ ps, 0 < p.rank ∧ p.rank < x.rank)
    (run rest : List Mark) :
    sortMarks run (x :: (ps ++ rest)) = sortMarks run (ps ++ x :: rest) := by
  induction ps generalizing run with
  | nil => rfl
  | cons p ps ih =>
      obtain ⟨hp, hpx⟩ := h p (by simp)
      have hx : x.rank ≠ 0 := by omega
      calc sortMarks run (x :: p :: (ps ++ rest))
          = sortMarks (insertMark p (insertMark x run)) (ps ++ rest) := by
            rw [sortMarks, if_neg hx, sortMarks, if_neg hp.ne']
        _ = sortMarks (insertMark x (insertMark p run)) (ps ++ rest) := by
            rw [insertMark_comm hpx]
        _ = sortMarks (insertMark p run) (x :: (ps ++ rest)) := by
            rw [sortMarks, if_neg hx]
        _ = sortMarks (insertMark p run) (ps ++ x :: rest) :=
            ih (fun q hq => h q (by simp [hq])) _
        _ = sortMarks run (p :: ps ++ x :: rest) := by
            rw [List.cons_append, sortMarks, if_neg hp.ne']

theorem sortMarks_append_congr {ys zs : List Mark}
    (h : ∀ run, sortMarks run ys = sortMarks run zs) (run xs : List Mark) :
    sortMarks run (xs ++ ys) = sortMarks run (xs ++ zs) := by
  induction xs generalizing run with
  | nil => exact h run
  | cons x xs ih =>
      rw [List.cons_append, List.cons_append, sortMarks, sortMarks, ih, ih]

/-- Whether a mark may stand right behind another: a letter may, and a mark of no lower
class. -/
def Mark.Follows (b a : Mark) : Prop :=
  b.rank = 0 ∨ a.rank ≤ b.rank

/-- Marks in order: the classes do not decrease between two letters. -/
def Ordered (xs : List Mark) : Prop :=
  xs.IsChain fun a b => b.Follows a

theorem pairwise_insertMark {run : List Mark} (h : run.Pairwise (·.rank ≤ ·.rank)) (m : Mark) :
    (insertMark m run).Pairwise (·.rank ≤ ·.rank) := by
  induction run with
  | nil => simp [insertMark]
  | cons x xs ih =>
      rw [List.pairwise_cons] at h
      unfold insertMark
      split_ifs with hle
      · refine List.pairwise_cons.mpr ⟨fun y hy => ?_, ih h.2⟩
        rcases List.mem_cons.mp ((insertMark_perm m xs).mem_iff.mp hy) with rfl | hy
        · exact hle
        · exact h.1 y hy
      · refine List.pairwise_cons.mpr ⟨fun y hy => ?_, List.pairwise_cons.mpr h⟩
        rcases List.mem_cons.mp hy with rfl | hy
        · omega
        · have := h.1 y hy
          omega

theorem ordered_sortMarks {run : List Mark} (h : run.Pairwise (·.rank ≤ ·.rank))
    (xs : List Mark) : Ordered (sortMarks run xs) := by
  induction xs generalizing run with
  | nil => exact h.isChain.imp fun _ _ hab => .inr hab
  | cons x xs ih =>
      unfold sortMarks
      split_ifs with hx
      · refine List.isChain_append.mpr ⟨h.isChain.imp fun _ _ hab => .inr hab, ?_, ?_⟩
        · have hrest := ih List.Pairwise.nil
          refine List.isChain_cons.mpr ⟨fun y hy => ?_, hrest⟩
          exact .inr (by omega)
        · intro a _ b hb
          obtain rfl : x = b := by simpa using hb
          exact .inl hx
      · exact ih (pairwise_insertMark h x)

theorem insertMark_of_le {x : Mark} {run : List Mark} (h : ∀ r ∈ run, r.rank ≤ x.rank) :
    insertMark x run = run ++ [x] := by
  induction run with
  | nil => rfl
  | cons r run ih =>
      rw [insertMark, if_pos (h r (by simp)), ih fun s hs => h s (by simp [hs])]
      rfl

theorem sortMarks_of_ordered {run xs : List Mark} (h : Ordered xs)
    (hrun : ∀ r ∈ run, ∀ x ∈ xs.head?, x.Follows r) : sortMarks run xs = run ++ xs := by
  induction xs generalizing run with
  | nil => simp [sortMarks]
  | cons x xs ih =>
      obtain ⟨hhead, htail⟩ := List.isChain_cons.mp h
      unfold sortMarks
      split_ifs with hx
      · rw [ih htail (by simp), List.nil_append]
      · have hle : ∀ r ∈ run, r.rank ≤ x.rank := fun r hr =>
          (hrun r hr x (by simp)).resolve_left hx
        rw [insertMark_of_le hle, ih htail, List.append_assoc, List.singleton_append]
        intro r hr y hy
        have hxy : y.Follows x := hhead y hy
        rcases List.mem_append.mp hr with hr | hr
        · exact hxy.imp_right (hle r hr).trans
        · obtain rfl := List.mem_singleton.mp hr
          exact hxy

/-! ### Joining -/

/-- What becomes of the next mark: it is joined to the letter, it is a letter itself and ends
the marks that wait, or it waits with them. -/
theorem joinMarks_cons (letter : Option Nat) (pending : List Mark) (x : Mark) (xs : List Mark) :
    (∃ base whole, letter = some base ∧ joined? base x.point = some whole ∧
      (∀ p ∈ pending.head?, p.rank < x.rank) ∧
      joinMarks letter pending (x :: xs) = joinMarks (some whole) pending xs) ∨
    (x.rank = 0 ∧ joinMarks letter pending (x :: xs) =
      letter.toList ++ pending.reverse.map Mark.point ++ joinMarks (some x.point) [] xs) ∨
    (x.rank ≠ 0 ∧ joinMarks letter pending (x :: xs) = joinMarks letter (x :: pending) xs) := by
  rw [joinMarks.eq_def letter pending (x :: xs)]
  dsimp only
  split
  · rename_i whole hjoin
    left
    split_ifs at hjoin with hopen
    obtain ⟨base, hletter, hwhole⟩ := Option.bind_eq_some_iff.mp hjoin
    refine ⟨base, whole, hletter, hwhole, ?_, rfl⟩
    cases pending with
    | nil => simp
    | cons p ps => simpa using hopen
  · right
    split_ifs with hx
    · exact .inl ⟨hx, rfl⟩
    · exact .inr ⟨hx, rfl⟩

/-- What is joined from a letter on begins with the marks of the letter. -/
theorem marksOf_joinMarks_some (l : Nat) (pending xs : List Mark) :
    ∃ rest, marksOf (joinMarks (some l) pending xs) = marksOf [l] ++ rest := by
  induction xs generalizing l pending with
  | nil =>
      refine ⟨marksOf (pending.reverse.map Mark.point), ?_⟩
      rw [joinMarks, Option.toList_some, marksOf_append]
  | cons x xs ih =>
      rcases joinMarks_cons (some l) pending x xs with
        ⟨base, whole, hbase, hwhole, -, heq⟩ | ⟨-, heq⟩ | ⟨-, heq⟩
      · obtain rfl := Option.some.inj hbase
        obtain ⟨rest, hrest⟩ := ih whole pending
        refine ⟨⟨x.point, combiningClass x.point⟩ :: rest, ?_⟩
        rw [heq, hrest]
        simp [marksOf, decomposed_joined hwhole]
      · refine ⟨marksOf (pending.reverse.map Mark.point ++ joinMarks (some x.point) [] xs), ?_⟩
        rw [heq, Option.toList_some, List.append_assoc, marksOf_append]
      · rw [heq]
        exact ih l (x :: pending)

/-- What holds of the marks that wait for their letter, last first, and of those to come. -/
structure Waiting (pending xs : List Mark) : Prop where
  proper : ∀ m ∈ pending ++ xs, m.Proper
  marks : ∀ p ∈ pending, 0 < p.rank
  falling : pending.Pairwise fun a b => b.rank ≤ a.rank
  ordered : Ordered xs
  follows : ∀ p ∈ pending, ∀ x ∈ xs.head?, x.Follows p

theorem Waiting.letter {pending xs : List Mark} {x : Mark} (h : Waiting pending (x :: xs)) :
    Waiting [] xs where
  proper m hm := h.proper m (by simp_all)
  marks := by simp
  falling := .nil
  ordered := (List.isChain_cons.mp h.ordered).2
  follows := by simp

theorem Waiting.wait {pending xs : List Mark} {x : Mark} (h : Waiting pending (x :: xs))
    (hx : x.rank ≠ 0) : Waiting (x :: pending) xs := by
  obtain ⟨hhead, htail⟩ := List.isChain_cons.mp h.ordered
  have hle : ∀ p ∈ pending, p.rank ≤ x.rank := fun p hp =>
    (h.follows p hp x (by simp)).resolve_left hx
  refine ⟨fun m hm => h.proper m ?_, fun p hp => ?_, ?_, htail, fun p hp y hy => ?_⟩
  · simp only [List.cons_append, List.mem_cons, List.mem_append] at hm ⊢
    tauto
  · rcases List.mem_cons.mp hp with rfl | hp
    · exact Nat.pos_of_ne_zero hx
    · exact h.marks p hp
  · exact List.pairwise_cons.mpr ⟨hle, h.falling⟩
  · rcases List.mem_cons.mp hp with rfl | hp
    · exact hhead y hy
    · exact (hhead y hy).imp_right (hle p hp).trans

theorem Waiting.lt {pending xs : List Mark} {x : Mark} (h : Waiting pending (x :: xs))
    (hx : ∀ p ∈ pending.head?, p.rank < x.rank) : ∀ p ∈ pending, p.rank < x.rank := by
  cases pending with
  | nil => simp
  | cons p ps =>
      have hp : p.rank < x.rank := hx p (by simp)
      intro q hq
      rcases List.mem_cons.mp hq with rfl | hq
      · exact hp
      · exact ((List.pairwise_cons.mp h.falling).1 q hq).trans_lt hp

theorem Waiting.join {pending xs : List Mark} {x : Mark} (h : Waiting pending (x :: xs))
    (hx : ∀ p ∈ pending, p.rank < x.rank) : Waiting pending xs := by
  obtain ⟨hhead, htail⟩ := List.isChain_cons.mp h.ordered
  refine ⟨fun m hm => h.proper m ?_, h.marks, h.falling, htail, fun p hp y hy => ?_⟩
  · simp only [List.mem_append, List.mem_cons] at hm ⊢
    tauto
  · exact (hhead y hy).imp_right (hx p hp).le.trans

/-- Taking apart what was joined, and sorting, gives the marks that it was joined from. -/
theorem sortMarks_marksOf_joinMarks {letter : Option Nat} {pending xs : List Mark}
    (h : Waiting pending xs) :
    sortMarks [] (marksOf (joinMarks letter pending xs)) =
      sortMarks [] (marksOf letter.toList ++ pending.reverse ++ xs) := by
  induction xs generalizing letter pending with
  | nil =>
      have hpending : ∀ m ∈ pending.reverse, m.Proper := fun m hm =>
        h.proper m (by simpa using hm)
      rw [joinMarks, marksOf_append, marksOf_points hpending, List.append_nil]
  | cons x xs ih =>
      have hx : x.Proper := h.proper x (by simp)
      rcases joinMarks_cons letter pending x xs with
        ⟨base, whole, rfl, hwhole, hlt, heq⟩ | ⟨hzero, heq⟩ | ⟨hne, heq⟩
      -- The mark comes off right behind the letter, in front of the marks that wait.
      · have hlt := h.lt hlt
        have hmarks : marksOf [whole] = marksOf [base] ++ [x] := by
          have hpoint := hx.marksOf
          simp only [marksOf, List.flatMap_singleton, hx.1.decomposed] at hpoint ⊢
          rw [decomposed_joined hwhole, List.map_append, hpoint]
        have hmove : ∀ p ∈ pending.reverse, 0 < p.rank ∧ p.rank < x.rank := fun p hp =>
          ⟨h.marks p (List.mem_reverse.mp hp), hlt p (List.mem_reverse.mp hp)⟩
        rw [heq, ih (h.join hlt), Option.toList_some, hmarks, Option.toList_some]
        simp only [List.append_assoc, List.singleton_append]
        exact sortMarks_append_congr (fun run => sortMarks_move hmove run xs) _ _
      -- The new letter divides the marks on both sides, and the rest is its own text.
      · obtain ⟨rest, hrest⟩ := marksOf_joinMarks_some x.point [] xs
        have htail := @ih (some x.point) [] h.letter
        rw [hrest, Option.toList_some, hx.marksOf, List.reverse_nil, List.append_nil,
          List.singleton_append, List.singleton_append, sortMarks, sortMarks, if_pos hzero,
          if_pos hzero, List.nil_append, List.nil_append, List.cons.injEq] at htail
        have hpending : ∀ m ∈ pending.reverse, m.Proper := fun m hm =>
          h.proper m (by simp_all)
        rw [heq, marksOf_append, marksOf_append, hrest, hx.marksOf, marksOf_points hpending,
          List.singleton_append, sortMarks_append_cons _ _ hzero, htail.2,
          sortMarks_append_cons _ _ hzero]
      · rw [heq, ih (h.wait hne)]
        simp

theorem sortMarks_marksOf_composedPoints (points : List Nat) :
    sortMarks [] (marksOf (composedPoints points)) = sortMarks [] (marksOf points) := by
  have hproper : ∀ m ∈ sortMarks [] (marksOf points), m.Proper := fun m hm =>
    proper_of_mem_marksOf m (by simpa using (sortMarks_perm [] (marksOf points)).mem_iff.mp hm)
  have hordered := ordered_sortMarks .nil (marksOf points)
  have hwaiting : Waiting [] (sortMarks [] (marksOf points)) :=
    ⟨by simpa using hproper, by simp, .nil, hordered, by simp⟩
  calc sortMarks [] (marksOf (composedPoints points))
      = sortMarks [] (sortMarks [] (marksOf points)) :=
        sortMarks_marksOf_joinMarks hwaiting
    _ = sortMarks [] (marksOf points) := sortMarks_of_ordered hordered (by simp)

theorem composedPoints_idem (points : List Nat) :
    composedPoints (composedPoints points) = composedPoints points := by
  rw [composedPoints_eq (composedPoints points), sortMarks_marksOf_composedPoints,
    composedPoints_eq]

theorem composedPoints_ne_nil {points : List Nat} (h : points ≠ []) :
    composedPoints points ≠ [] := by
  intro hnil
  have hmarks := sortMarks_marksOf_composedPoints points
  rw [hnil, marksOf_nil, sortMarks] at hmarks
  have hperm := sortMarks_perm [] (marksOf points)
  rw [← hmarks, List.nil_append, List.nil_perm, marksOf, List.map_eq_nil_iff,
    List.flatMap_eq_nil_iff] at hperm
  obtain ⟨n, hn⟩ := List.exists_mem_of_ne_nil points h
  exact decomposePoint_ne_nil 4 n (hperm n hn)

/-! ### Properties that composing keeps -/

theorem Closed.joinMarks {P : Nat → Prop} (hP : Closed P) {letter : Option Nat}
    {pending xs : List Mark} (hletter : ∀ l ∈ letter, P l)
    (hpending : ∀ m ∈ pending, P m.point) (hmarks : ∀ m ∈ xs, P m.point) :
    ∀ n ∈ joinMarks letter pending xs, P n := by
  have hwaiting : ∀ {letter : Option Nat} {pending : List Mark}, (∀ l ∈ letter, P l) →
      (∀ m ∈ pending, P m.point) →
      ∀ n ∈ letter.toList ++ pending.reverse.map Mark.point, P n := by
    intro letter pending hletter hpending
    simp only [List.mem_append, Option.mem_toList, List.mem_map, List.mem_reverse]
    rintro n (hn | ⟨m, hm, rfl⟩)
    · exact hletter n hn
    · exact hpending m hm
  induction xs generalizing letter pending with
  | nil => exact hwaiting hletter hpending
  | cons x xs ih =>
      have hx : P x.point := hmarks x (by simp)
      have hxs : ∀ m ∈ xs, P m.point := fun m hm => hmarks m (by simp [hm])
      rcases joinMarks_cons letter pending x xs with
        ⟨base, whole, rfl, hwhole, -, heq⟩ | ⟨-, heq⟩ | ⟨-, heq⟩
      · rw [heq]
        refine ih ?_ hpending hxs
        rintro l ⟨⟩
        exact hP.joined? hwhole (hletter base rfl) hx
      · rw [heq]
        intro n hn
        rcases List.mem_append.mp hn with hn | hn
        · exact hwaiting hletter hpending n hn
        · refine ih ?_ (by simp) hxs n hn
          rintro l ⟨⟩
          exact hx
      · rw [heq]
        refine ih hletter (fun m hm => ?_) hxs
        rcases List.mem_cons.mp hm with rfl | hm
        · exact hx
        · exact hpending m hm

theorem Closed.composedPoints {P : Nat → Prop} (hP : Closed P) {points : List Nat}
    (h : ∀ n ∈ points, P n) : ∀ n ∈ composedPoints points, P n := by
  refine hP.joinMarks (by simp) (by simp) fun m hm => ?_
  have hmem : m ∈ marksOf points := by
    simpa using (sortMarks_perm [] (marksOf points)).mem_iff.mp hm
  obtain ⟨p, hp, rfl⟩ := List.mem_map.mp hmem
  obtain ⟨n, hn, hp⟩ := List.mem_flatMap.mp hp
  exact hP.decomposed (h n hn) p hp

theorem toNat_composed (t : Text) :
    (composed t).map Char.toNat = composedPoints (t.map Char.toNat) := by
  have hvalid : ∀ n ∈ composedPoints (t.map Char.toNat), n.isValidChar := by
    refine closed_isValidChar.composedPoints fun n hn => ?_
    obtain ⟨c, -, rfl⟩ := List.mem_map.mp hn
    exact c.valid
  rw [composed, List.map_map]
  refine (List.map_congr_left fun n hn => ?_).trans (List.map_id _)
  exact (Char.toNat_ofNat n).trans (if_pos (hvalid n hn))

theorem toNat_injective : Function.Injective Char.toNat :=
  fun _ _ => Char.toNat_inj.mp

theorem composed_eq_iff {s t : Text} :
    composed s = t ↔ composedPoints (s.map Char.toNat) = t.map Char.toNat := by
  rw [← toNat_composed, (List.map_injective_iff.mpr toNat_injective).eq_iff]

/-- A property of all characters of a text goes over to the composed text. -/
theorem Closed.composed {P : Nat → Prop} (hP : Closed P) {t : Text} (h : ∀ c ∈ t, P c.toNat) :
    ∀ c ∈ composed t, P c.toNat := by
  have hpoints : ∀ n ∈ Text.composedPoints (t.map Char.toNat), P n :=
    hP.composedPoints (by simpa using h)
  rw [← toNat_composed] at hpoints
  exact fun c hc => hpoints c.toNat (List.mem_map_of_mem hc)

theorem composed_composed (t : Text) : composed (composed t) = composed t := by
  rw [composed_eq_iff, toNat_composed, composedPoints_idem]

theorem composed_ne_nil {t : Text} (h : t ≠ []) : composed t ≠ [] := by
  have hpoints : composedPoints (t.map Char.toNat) ≠ [] :=
    composedPoints_ne_nil (by simpa using h)
  rw [← toNat_composed] at hpoints
  exact fun hnil => hpoints (by rw [hnil, List.map_nil])

/-! ### Barriers -/

/-- A character that is taken apart into one that is joined to nothing. -/
structure Barrier (n m : Nat) : Prop where
  parts : decomposed n = [m]
  letter : combiningClass m = 0
  behind : ∀ base, joined? base m = none
  before : ∀ mark, joined? m mark = none

theorem joinMarks_some {l : Nat} (h : ∀ mark, joined? l mark = none) (pending xs : List Mark) :
    joinMarks (some l) pending xs = l :: joinMarks none pending xs := by
  induction xs generalizing pending with
  | nil => simp [joinMarks]
  | cons x xs ih =>
      rw [joinMarks.eq_def (some l), joinMarks.eq_def none]
      simp only [Option.bind_some, Option.bind_none, h, ite_self]
      split_ifs
      · simp
      · exact ih _

theorem Barrier.joinMarks {n m : Nat} (h : Barrier n m) (letter : Option Nat)
    (pending xs ys : List Mark) :
    joinMarks letter pending (xs ++ ⟨m, 0⟩ :: ys) =
      joinMarks letter pending xs ++ m :: joinMarks none [] ys := by
  induction xs generalizing letter pending with
  | nil =>
      have hnone : letter.bind (joined? · m) = none := by
        cases letter with
        | none => rfl
        | some l => exact h.behind l
      rw [List.nil_append, joinMarks.eq_def letter pending (_ :: _)]
      simp only [hnone, ite_self, if_true, joinMarks_some h.before]
      simp [Text.joinMarks]
  | cons x xs ih =>
      rw [List.cons_append, joinMarks.eq_def letter pending (_ :: _),
        joinMarks.eq_def letter pending (_ :: _)]
      dsimp only
      split
      · exact ih _ _
      · split_ifs
        · simp [ih]
        · exact ih _ _

theorem Barrier.composedPoints {n m : Nat} (h : Barrier n m) (xs ys : List Nat) :
    composedPoints (xs ++ n :: ys) = composedPoints xs ++ m :: composedPoints ys := by
  have hmark : marksOf [n] = [⟨m, 0⟩] := by simp [marksOf, h.parts, h.letter]
  rw [composedPoints_eq, marksOf_append, marksOf_cons, hmark, List.singleton_append,
    sortMarks_append_cons _ _ rfl, h.joinMarks]
  rfl

theorem Barrier.composed {n m : Char} (h : Barrier n.toNat m.toNat) (s t : Text) :
    composed (s ++ n :: t) = composed s ++ m :: composed t := by
  rw [composed_eq_iff, List.map_append, List.map_cons, h.composedPoints, List.map_append,
    List.map_cons, toNat_composed, toNat_composed]

def blankPoints : List Nat :=
  List.range' 0x09 5 ++ List.range' 0x1C 5 ++ [0x85, 0xA0, 0x1680] ++ List.range' 0x2000 11 ++
    [0x2028, 0x2029, 0x202F, 0x205F, 0x3000]

theorem isBlank_iff_mem {c : Char} : isBlank c ↔ c.toNat ∈ blankPoints := by
  simp only [isBlank, blankPoints, List.mem_append, List.mem_range'_1, List.mem_cons,
    List.not_mem_nil, or_false, Bool.or_eq_true, Bool.and_eq_true, decide_eq_true_eq, beq_iff_eq]
  omega

/-- No row leads to a blank from other characters, and a row for a blank leads to one blank
for which there is none. No range of combining classes has a blank in it. -/
theorem blanks_checked : KeptOut blankPoints ∧
    (∀ row ∈ rewrites, (pointSet blankPoints).testBit row.1 → row.2.length = 1 ∧
      ∀ m ∈ row.2, (pointSet blankPoints).testBit m ∧
        ¬ (pointSet (rewrites.map Prod.fst)).testBit m) ∧
    ∀ range ∈ combiningRanges, ∀ n ∈ List.range' range.1 (range.2.1 - range.1 + 1),
      ¬ (pointSet blankPoints).testBit n := by
  decide +kernel

theorem combiningClass_eq_zero {n : Nat}
    (h : ∀ range ∈ combiningRanges, ¬ (range.1 ≤ n ∧ n ≤ range.2.1)) : combiningClass n = 0 := by
  unfold combiningClass
  split
  · rename_i hfind
    have hrange := List.find?_some hfind
    simp only [Bool.and_eq_true, decide_eq_true_eq] at hrange
    exact absurd hrange (h _ (List.mem_of_find?_eq_some hfind))
  · rfl

theorem combiningClass_blank {n : Nat} (hn : n ∈ blankPoints) : combiningClass n = 0 := by
  refine combiningClass_eq_zero fun range hrange hmem => ?_
  refine blanks_checked.2.2 range hrange n ?_ (testBit_pointSet.mpr hn)
  rw [List.mem_range'_1]
  omega

theorem closed_not_mem_blankPoints : Closed (· ∉ blankPoints) :=
  blanks_checked.1.closed

theorem decomposed_blank {n : Nat} (hn : n ∈ blankPoints) :
    ∃ m ∈ blankPoints, decomposed n = [m] ∧ combiningClass m = 0 := by
  obtain ⟨hkept, hrows, -⟩ := blanks_checked
  simp only [testBit_pointSet] at hrows
  cases hparts : parts? n with
  | none => exact ⟨n, hn, IsAtom.decomposed hparts, combiningClass_blank hn⟩
  | some parts =>
      rcases parts?_eq_some hparts with ⟨hs, -⟩ | hrow
      · exact absurd hs (hkept.2.2 n hn).2
      · obtain ⟨hlength, hblank⟩ := hrows _ hrow hn
        obtain ⟨m, rfl⟩ := List.length_eq_one_iff.mp hlength
        obtain ⟨hm, hkey⟩ := hblank m (by simp)
        have hatom : IsAtom m := isAtom_of_not_mem hkey (hkept.2.2 m hm).2
        refine ⟨m, hm, ?_, combiningClass_blank hm⟩
        rw [decomposed_of_parts hparts, List.flatMap_singleton, hatom.decomposed]

/-- No row joins a blank: what it gives would be one, and be taken apart into two characters. -/
theorem not_composable_blank {whole base mark : Nat}
    (h : (whole, base, mark) ∈ composablePairs) : base ∉ blankPoints ∧ mark ∉ blankPoints := by
  have hwhole : whole ∉ blankPoints := by
    intro hmem
    obtain ⟨m, -, hsingle, -⟩ := decomposed_blank hmem
    have hlength := congrArg List.length hsingle
    have hbase := List.length_pos_iff.mpr (decomposePoint_ne_nil 4 base)
    have hmark := List.length_pos_iff.mpr (decomposePoint_ne_nil 4 mark)
    rw [decomposed_of_parts (parts?_of_composable h)] at hlength
    simp only [decomposed, List.flatMap_cons, List.flatMap_nil, List.append_nil,
      List.length_append, List.length_singleton] at hlength
    omega
  have hrow := blanks_checked.1.1 _ (rewrites_of_composable h)
  simp only [List.mem_cons, List.not_mem_nil, or_false, forall_eq_or_imp, forall_eq,
    testBit_pointSet] at hrow
  exact ⟨fun hb => hwhole (hrow.1 hb), fun hm => hwhole (hrow.2 hm)⟩

theorem barrier_of_blank {n m : Nat} (hm : m ∈ blankPoints) (hparts : decomposed n = [m])
    (hclass : combiningClass m = 0) : Barrier n m := by
  have hbounds := blanks_checked.1.2.2 m hm
  refine ⟨hparts, hclass, fun base => ?_, fun mark => ?_⟩
  · by_contra hsome
    obtain ⟨whole, hwhole⟩ := Option.ne_none_iff_exists'.mp hsome
    rcases joined?_cases hwhole with ⟨-, -, hjamo⟩ | hrow
    · exact hbounds.1 hjamo
    · exact (not_composable_blank hrow).2 hm
  · by_contra hsome
    obtain ⟨whole, hwhole⟩ := Option.ne_none_iff_exists'.mp hsome
    rcases joined?_cases hwhole with ⟨-, hbase, -⟩ | hrow
    · exact hbase.elim hbounds.1 hbounds.2
    · exact (not_composable_blank hrow).1 hm

/-- A blank keeps the texts before and behind it apart; a space stays a space. -/
theorem composed_blank {b : Char} (hb : isBlank b) :
    ∃ d, isBlank d ∧ (b = ' ' → d = ' ') ∧
      ∀ s t, composed (s ++ b :: t) = composed s ++ d :: composed t := by
  obtain ⟨m, hm, hparts, hclass⟩ := decomposed_blank (isBlank_iff_mem.mp hb)
  have hvalid : m.isValidChar := by
    refine closed_isValidChar.decomposed b.valid m ?_
    rw [show b.val.toNat = b.toNat from rfl, hparts]
    exact List.mem_singleton_self m
  have hpoint : (Char.ofNat m).toNat = m := (Char.toNat_ofNat m).trans (if_pos hvalid)
  refine ⟨Char.ofNat m, isBlank_iff_mem.mpr (by rwa [hpoint]), ?_, fun s t => ?_⟩
  · rintro rfl
    have hspace : [m] = [0x20] := hparts.symm.trans rfl
    obtain rfl := List.singleton_injective hspace
    rfl
  · refine Barrier.composed ?_ s t
    rw [hpoint]
    exact barrier_of_blank hm hparts hclass

theorem isBlank_eq_false_iff {c : Char} : isBlank c = false ↔ c.toNat ∉ blankPoints := by
  rw [← isBlank_iff_mem, Bool.not_eq_true]

theorem composed_not_blank {w : Text} (hw : ∀ c ∈ w, isBlank c = false) :
    ∀ c ∈ composed w, isBlank c = false := by
  simp only [isBlank_eq_false_iff] at hw ⊢
  exact closed_not_mem_blankPoints.composed hw

/-! ### Texts without marks -/

theorem joined?_of_low {n : Nat} (hn : n < 0xC0) (base : Nat) : joined? base n = none := by
  by_contra hsome
  obtain ⟨whole, hwhole⟩ := Option.ne_none_iff_exists'.mp hsome
  rcases joined?_cases hwhole with ⟨-, -, hjamo⟩ | hrow
  · have := hjamo.1
    omega
  · have hhigh : 0xC0 ≤ n := (tables_checked.2.2.2.1 _ hrow).1
    omega

theorem combiningClass_of_low {n : Nat} (hn : n < 0xC0) : combiningClass n = 0 := by
  refine combiningClass_eq_zero fun range hrange hmem => ?_
  have := tables_checked.2.2.2.2 range hrange
  omega

theorem joinMarks_of_low {points : List Nat} (h : ∀ n ∈ points, n < 0xC0) (letter : Option Nat) :
    joinMarks letter [] (points.map fun n => ⟨n, 0⟩) = letter.toList ++ points := by
  induction points generalizing letter with
  | nil => simp [joinMarks]
  | cons n points ih =>
      have hnone : letter.bind (joined? · n) = none := by
        cases letter with
        | none => rfl
        | some base => exact joined?_of_low (h n (by simp)) base
      rw [List.map_cons, joinMarks.eq_def letter [] (_ :: _)]
      simp only [hnone, ite_self, if_true, ih (fun m hm => h m (by simp [hm]))]
      simp

theorem composedPoints_of_low {points : List Nat} (h : ∀ n ∈ points, n < 0xC0) :
    composedPoints points = points := by
  have hmarks : marksOf points = points.map fun n => ⟨n, 0⟩ := by
    have hatoms : points.flatMap decomposed = points :=
      flatMap_eq_self fun n hn => by simp [decomposed, decomposePoint, h n hn]
    rw [marksOf, hatoms]
    exact List.map_congr_left fun n hn => by rw [combiningClass_of_low (h n hn)]
  have hordered : Ordered (points.map fun n => ⟨n, 0⟩) := by
    refine (List.pairwise_of_forall_mem_list fun a _ b hb => .inl ?_).isChain
    obtain ⟨n, -, rfl⟩ := List.mem_map.mp hb
    rfl
  rw [composedPoints_eq, hmarks, sortMarks_of_ordered hordered (by simp), List.nil_append,
    joinMarks_of_low h]
  rfl

theorem composed_of_low {t : Text} (h : ∀ c ∈ t, c.toNat < 0xC0) : composed t = t := by
  rw [composed_eq_iff]
  exact composedPoints_of_low (by simpa using h)

end FixtureKeywords.Text
