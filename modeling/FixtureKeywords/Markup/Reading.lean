import FixtureKeywords.Markup.Document
import FixtureKeywords.Outcome

/-!
# Reading a document

A table that is read has one entry for a key, however often the text names it: an entry is
only put behind the others if none of them has a key that is the same. Two keys can be the
same without being equal, but an equal key is the same one.
-/
namespace FixtureKeywords.Markup

theorem isSameKey_self (key : Scalar) : isSameKey key key = true := by
  unfold isSameKey
  split
  · exact beq_self_eq_true _
  · rw [beq_self_eq_true, Bool.true_or]

theorem keys_enter (entries : List (Scalar × Datum)) (entry : Scalar × Datum) :
    (enter entries entry).map Prod.fst = entries.map Prod.fst ∨
      entry.1 ∉ entries.map Prod.fst ∧
        (enter entries entry).map Prod.fst = entries.map Prod.fst ++ [entry.1] := by
  induction entries with
  | nil => exact .inr ⟨List.not_mem_nil, rfl⟩
  | cons first rest ih =>
      obtain ⟨key, value⟩ := first
      rw [enter]
      split
      next => exact .inl rfl
      next hsame =>
        have hne : entry.1 ≠ key := fun heq => hsame (heq ▸ isSameKey_self key)
        rcases ih with hkeys | ⟨hnew, hkeys⟩
        · exact .inl (congrArg (key :: ·) hkeys)
        · exact .inr ⟨List.not_mem_cons_of_ne_of_not_mem hne hnew, congrArg (key :: ·) hkeys⟩

theorem mem_enter {entries : List (Scalar × Datum)} {entry other : Scalar × Datum}
    (h : other ∈ enter entries entry) : other ∈ entries ∨ other.2 = entry.2 := by
  induction entries with
  | nil => exact .inr (congrArg Prod.snd (List.mem_singleton.mp h))
  | cons first rest ih =>
      obtain ⟨key, value⟩ := first
      rw [enter] at h
      split at h
      next =>
        rcases List.mem_cons.mp h with rfl | hrest
        · exact .inr rfl
        · exact .inl (List.mem_cons_of_mem _ hrest)
      next =>
        rcases List.mem_cons.mp h with rfl | hrest
        · exact .inl List.mem_cons_self
        · exact (ih hrest).imp_left (List.mem_cons_of_mem _)

theorem keyed_enter {entries : List (Scalar × Datum)} {entry : Scalar × Datum}
    (h : (Datum.table entries).Keyed) (hentry : entry.2.Keyed) :
    (Datum.table (enter entries entry)).Keyed := by
  cases h with
  | table hkeys hentries =>
      refine .table ?_ fun other hother => ?_
      · rcases keys_enter entries entry with hsame | ⟨hnew, hmore⟩
        · rwa [hsame]
        · rw [hmore]
          exact List.nodup_append.mpr ⟨hkeys, List.pairwise_singleton _ _,
            fun a ha b hb heq => hnew (List.mem_singleton.mp hb ▸ heq ▸ ha)⟩
      · rcases mem_enter hother with hold | hnew
        · exact hentries other hold
        · exact hnew ▸ hentry

theorem keyed_foldl_enter {data entries : List (Scalar × Datum)}
    (hdata : ∀ entry ∈ data, entry.2.Keyed) (h : (Datum.table entries).Keyed) :
    (Datum.table (data.foldl enter entries)).Keyed := by
  induction data generalizing entries with
  | nil => exact h
  | cons entry data ih =>
      obtain ⟨hentry, hrest⟩ := List.forall_mem_cons.mp hdata
      exact ih hrest (keyed_enter h hentry)

theorem both_eq_ok {α β : Type} {a : Except Misfit α} {b : Except Misfit β} {p : α × β} :
    both a b = .ok p ↔ a = .ok p.1 ∧ b = .ok p.2 := by
  obtain ⟨x, y⟩ := p
  unfold both
  cases a <;> cases b <;> simp

mutual

theorem keyed_datum (depth : Nat) : ∀ (n : Node) {d : Datum}, n.datum depth = .ok d → d.Keyed
  | .scalar true text, d, h => by
      unfold Node.datum at h
      obtain ⟨s, -, rfl⟩ := Outcome.map_eq_ok.mp (Outcome.mapError_eq_ok.mp h)
      exact .scalar s
  | .scalar false text, d, h => by
      unfold Node.datum at h
      obtain rfl := Except.ok.inj h
      exact .scalar _
  | .list items, d, h => by
      unfold Node.datum at h
      obtain ⟨data, hdata, rfl⟩ := Outcome.map_eq_ok.mp h
      exact .list (keyed_items (depth + 1) items hdata)
  | .table entries, d, h => by
      unfold Node.datum at h
      obtain ⟨data, hdata, rfl⟩ := Outcome.map_eq_ok.mp h
      exact keyed_foldl_enter (keyed_entries (depth + 1) entries hdata) Datum.keyed_nil

theorem keyed_items (depth : Nat) : ∀ (items : List Node) {data : List Datum},
    itemData depth items = .ok data → ∀ d ∈ data, d.Keyed
  | [], data, h => by
      unfold itemData at h
      obtain rfl := Except.ok.inj h
      exact nofun
  | item :: items, data, h => by
      unfold itemData at h
      obtain ⟨⟨d, rest⟩, hboth, rfl⟩ := Outcome.map_eq_ok.mp h
      obtain ⟨hd, hrest⟩ := both_eq_ok.mp hboth
      exact List.forall_mem_cons.mpr ⟨keyed_datum depth item hd, keyed_items depth items hrest⟩

theorem keyed_entries (depth : Nat) : ∀ (entries : List (Node × Node))
    {data : List (Scalar × Datum)}, entryData depth entries = .ok data →
      ∀ entry ∈ data, entry.2.Keyed
  | [], data, h => by
      unfold entryData at h
      obtain rfl := Except.ok.inj h
      exact nofun
  | (key, value) :: entries, data, h => by
      unfold entryData at h
      obtain ⟨⟨entry, rest⟩, hboth, rfl⟩ := Outcome.map_eq_ok.mp h
      obtain ⟨hentry, hrest⟩ := both_eq_ok.mp hboth
      obtain ⟨-, hvalue⟩ := both_eq_ok.mp hentry
      exact List.forall_mem_cons.mpr
        ⟨keyed_datum depth value hvalue, keyed_entries depth entries hrest⟩

end

def read (t : Text) : Except Fault Document :=
  if !t.all isAllowed then .error .notPrintable else
  let t := unifyBreaks ((Text.dropChar? '\ufeff' t).getD t)
  match Node.ofTokens (Token.ofText t) with
  | .error fault => .error fault
  | .ok root =>
      match h : root.datum 0 with
      | .error misfit => .error misfit.fault
      | .ok datum => .ok ⟨datum, keyed_datum 0 root h⟩

end FixtureKeywords.Markup
