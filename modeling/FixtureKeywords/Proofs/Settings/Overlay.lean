import FixtureKeywords.Proofs.Settings.Merge

/-!
# Laws of merging

Two tables laid over one another, seen from every place in them. What the upper one has without
being a table stands; what it leaves out stays as it was in the lower one, as far as both have
tables on the way; and on each level that both have, the keys of the lower table keep their
order and the new ones of the upper table follow.

Without an upper table, or without a lower one, nothing changes, and laying the same table over
the outcome a second time changes nothing. A table is known by the order of its keys and by what
it has under each of them, so the last two laws come from what is known of keys and lookups.
-/
namespace FixtureKeywords.Datum

section Entries
variable {entries others lower upper : List (Scalar × Datum)} {key : Scalar}

/-- Entries with distinct keys are known by their keys and by what stands under each of them. -/
theorem entries_ext (hkeys : entries.map Prod.fst = others.map Prod.fst)
    (hnodup : (entries.map Prod.fst).Nodup)
    (hlookup : ∀ sought, entries.lookup sought = others.lookup sought) : entries = others := by
  induction entries generalizing others with
  | nil => exact (List.map_eq_nil_iff.mp hkeys.symm).symm
  | cons entry entries ih =>
      obtain ⟨⟨k, v⟩, others, rfl, hk, hrest⟩ := List.map_eq_cons_iff.mp hkeys.symm
      obtain ⟨first, d⟩ := entry
      obtain rfl : k = first := hk
      obtain ⟨hnew, htail⟩ := List.nodup_cons.mp hnodup
      have hfirst := hlookup k
      rw [List.lookup_cons_self, List.lookup_cons_self] at hfirst
      obtain rfl := Option.some.inj hfirst
      rw [ih hrest.symm htail fun sought => ?_]
      by_cases hsought : sought = k
      · subst hsought
        rw [lookup_eq_none hnew, lookup_eq_none (hrest ▸ hnew)]
      · have hnext := hlookup sought
        rwa [List.lookup_cons, List.lookup_cons, beq_eq_false_iff_ne.mpr hsought] at hnext

theorem keys_put (value : Datum) : (put key value entries).map Prod.fst =
    if key ∈ entries.map Prod.fst then entries.map Prod.fst
    else entries.map Prod.fst ++ [key] := by
  induction entries with
  | nil => rfl
  | cons entry entries ih =>
      obtain ⟨k, v⟩ := entry
      by_cases hk : k = key
      · subst hk
        rw [put, if_pos rfl, List.map_cons, List.map_cons, if_pos List.mem_cons_self]
      · have hmem : key ∈ ((k, v) :: entries).map Prod.fst ↔ key ∈ entries.map Prod.fst := by
          rw [List.map_cons, List.mem_cons, or_iff_right (Ne.symm hk)]
        rw [put, if_neg hk, List.map_cons, ih]
        simp only [hmem]
        split_ifs
        · rfl
        · rfl

/-- The keys of a merge: those of the lower table, then those that only the upper one has. -/
theorem keys_mergeEntries (h : (upper.map Prod.fst).Nodup) :
    (mergeEntries lower upper).map Prod.fst =
      lower.map Prod.fst ++ (upper.map Prod.fst).filter (· ∉ lower.map Prod.fst) := by
  induction upper generalizing lower with
  | nil => rw [mergeEntries, List.map_nil, List.filter_nil, List.append_nil]
  | cons entry upper ih =>
      obtain ⟨k, v⟩ := entry
      obtain ⟨hnew, hrest⟩ := List.nodup_cons.mp h
      rw [mergeEntries_cons, ih hrest, keys_put, List.map_cons, List.filter_cons]
      by_cases hk : k ∈ lower.map Prod.fst
      · simp only [hk, if_true, not_true_eq_false, decide_false, Bool.false_eq_true, if_false]
      · have hlater : (upper.map Prod.fst).filter (· ∉ lower.map Prod.fst ++ [k]) =
            (upper.map Prod.fst).filter (· ∉ lower.map Prod.fst) := by
          refine List.filter_congr fun other hother => ?_
          have hne : other ≠ k := fun heq => hnew (heq ▸ hother)
          simp only [List.mem_append, List.mem_singleton, hne, or_false]
        simp only [hk, if_false, not_false_eq_true, decide_true, if_true, hlater]
        rw [List.append_assoc, List.singleton_append]

theorem nodup_keys_mergeEntries (hlower : (lower.map Prod.fst).Nodup)
    (hupper : (upper.map Prod.fst).Nodup) : ((mergeEntries lower upper).map Prod.fst).Nodup := by
  rw [keys_mergeEntries hupper, List.nodup_append]
  refine ⟨hlower, hupper.filter _, fun key hkey other hother heq => ?_⟩
  subst heq
  have hnew := (List.mem_filter.mp hother).2
  rw [decide_eq_true_eq] at hnew
  exact hnew hkey

theorem keys_mergeEntries_of_subset (h : (upper.map Prod.fst).Nodup)
    (hsubset : ∀ key ∈ upper.map Prod.fst, key ∈ lower.map Prod.fst) :
    (mergeEntries lower upper).map Prod.fst = lower.map Prod.fst := by
  rw [keys_mergeEntries h, List.filter_eq_nil_iff.mpr fun key hkey => ?_, List.append_nil]
  simpa using hsubset key hkey

end Entries

variable {lower upper d : Datum} {place : List Scalar}

def IsTable (d : Datum) : Prop :=
  ∃ entries, d = .table entries

def HasTable (d : Datum) (place : List Scalar) : Prop :=
  ∃ entries, d.get? place = some (.table entries)

theorem laidOver_of_not_isTable (h : ¬ d.IsTable) (below : Option Datum) :
    laidOver below d = d := by
  cases below with
  | none => rfl
  | some b =>
      cases d with
      | scalar s => exact merge_scalar b s
      | list items => exact merge_list b items
      | table entries => exact absurd ⟨entries, rfl⟩ h

theorem keyed_of_get? (hkeyed : upper.Keyed) (h : upper.get? place = some d) : d.Keyed := by
  induction place generalizing upper with
  | nil => exact Option.some.inj h ▸ hkeyed
  | cons key place ih =>
      cases hkeyed with
      | scalar s => cases h
      | list hitems => cases h
      | table hkeys hentries =>
          obtain ⟨v, hv, hd⟩ := Option.bind_eq_some_iff.mp h
          exact ih (hentries _ (mem_of_lookup hv)) hd

/-- Where the upper datum has nothing the merge has what the lower one has, if both have tables
wherever the upper one has something on the way. -/
theorem get?_merge_of_eq_none (hkeyed : upper.Keyed) (hnone : upper.get? place = none)
    (htables : ∀ front, front <+: place → front ≠ place → upper.get? front ≠ none →
      upper.HasTable front ∧ lower.HasTable front) :
    (merge lower upper).get? place = lower.get? place := by
  induction place generalizing lower upper with
  | nil => cases hnone
  | cons key place ih =>
      obtain ⟨⟨entries, hupper⟩, ⟨below, hlower⟩⟩ :=
        htables [] List.nil_prefix (List.cons_ne_nil key place).symm nofun
      obtain rfl := Option.some.inj hupper
      obtain rfl := Option.some.inj hlower
      cases hkeyed with
      | table hkeys hentries =>
          rw [get?_merge_tables hkeys]
          cases hv : entries.lookup key with
          | none => rfl
          | some v =>
              have hrest : v.get? place = none := by rwa [get?, hv] at hnone
              have hne : place ≠ [] := by
                rintro rfl
                cases hrest
              have hinside (front : List Scalar) :
                  (Datum.table entries).get? (key :: front) = v.get? front := by rw [get?, hv]; rfl
              -- The key itself is a proper part of the way, and the upper table has it.
              obtain ⟨-, b, hb⟩ := htables [key] ⟨place, rfl⟩
                (fun heq => hne (List.cons.inj heq).2.symm) (by rw [hinside]; nofun)
              rw [get?_singleton] at hb
              rw [hb, get?, hb]
              refine ih (hentries _ (mem_of_lookup hv)) hrest fun front hfront hproper hsome => ?_
              have hstep := htables (key :: front) (List.cons_prefix_cons.mpr ⟨rfl, hfront⟩)
                (fun heq => hproper (List.cons.inj heq).2) (by rwa [hinside])
              unfold HasTable at hstep ⊢
              rw [hinside] at hstep
              rwa [get?, hb] at hstep

theorem merge_merge (hupper : upper.Keyed) (hlower : lower.Keyed) :
    merge (merge lower upper) upper = merge lower upper := by
  induction hupper generalizing lower with
  | scalar s => rw [merge_scalar, merge_scalar]
  | list hitems ih => rw [merge_list, merge_list]
  | @table entries hkeys hentries ih =>
      -- A table that has every entry laid over something is left as it is.
      have hagain {below : List (Scalar × Datum)} (hbelow : (below.map Prod.fst).Nodup)
          (hsubset : ∀ key ∈ entries.map Prod.fst, key ∈ below.map Prod.fst)
          (hlaid : ∀ key v, entries.lookup key = some v →
            ∃ b, b.Keyed ∧ below.lookup key = some (merge b v)) :
          merge (.table below) (.table entries) = .table below := by
        have hsame := keys_mergeEntries_of_subset hkeys hsubset
        refine congrArg Datum.table (entries_ext hsame (hsame ▸ hbelow) fun sought => ?_)
        rw [lookup_mergeEntries hkeys]
        cases hv : entries.lookup sought with
        | none => rw [Option.map_none, Option.none_or]
        | some v =>
            obtain ⟨b, hb, hlookup⟩ := hlaid sought v hv
            rw [hlookup, Option.map_some, Option.some_or]
            exact congrArg some (ih _ (mem_of_lookup hv) hb)
      have hitself : merge (.table entries) (.table entries) = .table entries := by
        refine hagain hkeys (fun key hkey => hkey) fun key v hv => ⟨.scalar .null, .scalar _, ?_⟩
        rw [hv, scalar_merge]
      cases hlower with
      | scalar s => rw [scalar_merge, hitself]
      | list hitems => exact hitself
      | @table below hbelow hinside =>
          refine hagain (nodup_keys_mergeEntries hbelow hkeys) ?_ fun key v hv => ?_
          · exact fun key hkey => (mem_keys_mergeEntries key).mpr (.inr hkey)
          · rw [lookup_mergeEntries hkeys, hv, Option.map_some, Option.some_or]
            cases hb : below.lookup key with
            | none => exact ⟨.scalar .null, .scalar _, by rw [scalar_merge]; rfl⟩
            | some b => exact ⟨b, hinside _ (mem_of_lookup hb), rfl⟩

theorem table_nil_merge {entries : List (Scalar × Datum)} (h : (entries.map Prod.fst).Nodup) :
    merge (.table []) (.table entries) = .table entries := by
  have hkeys : (mergeEntries [] entries).map Prod.fst = entries.map Prod.fst := by
    rw [keys_mergeEntries h, List.map_nil, List.nil_append]
    exact List.filter_eq_self.mpr fun key _ => by simp
  refine congrArg Datum.table (entries_ext hkeys (hkeys ▸ h) fun sought => ?_)
  rw [lookup_mergeEntries h, List.lookup_nil, Option.or_none]
  exact Option.map_id_apply

/-- Tables laid over one another. What the upper one has at a place without being a table stands
there; what it leaves out is as it was, if both have tables wherever the upper one has something
on the way; and a level that both have lists the keys of the lower one and then the new ones.
Empty tables change nothing, and neither does the upper one a second time. -/
theorem merge_laws {lower upper : List (Scalar × Datum)} (hlower : (table lower).Keyed)
    (hupper : (table upper).Keyed) :
    let a := table lower
    let b := table upper
    (∀ place d, b.get? place = some d → ¬ d.IsTable → (merge a b).get? place = some d) ∧
    (∀ place, b.get? place = none →
      (∀ front, front <+: place → front ≠ place → b.get? front ≠ none →
        b.HasTable front ∧ a.HasTable front) →
      (merge a b).get? place = a.get? place) ∧
    (∀ place below above, a.get? place = some (table below) → b.get? place = some (table above) →
      ∃ merged, (merge a b).get? place = some (table merged) ∧
        merged.map Prod.fst = below.map Prod.fst ++
          (above.map Prod.fst).filter (· ∉ below.map Prod.fst)) ∧
    merge a (table []) = a ∧ merge (table []) b = b ∧
    merge (merge a b) b = merge a b := by
  intro a b
  refine ⟨?_, ?_, ?_, ?_, ?_, merge_merge hupper hlower⟩
  · intro place d hd hplain
    rw [get?_merge hupper hd, laidOver_of_not_isTable hplain]
  · exact fun place hnone htables => get?_merge_of_eq_none hupper hnone htables
  · intro place below above hbelow habove
    refine ⟨mergeEntries below above, ?_, ?_⟩
    · rw [get?_merge hupper habove, hbelow]
      rfl
    · cases keyed_of_get? hupper habove with
      | table hkeys _ => exact keys_mergeEntries hkeys
  · rfl
  · cases hupper with
    | table hkeys _ => exact table_nil_merge hkeys

/-- One level down, a table over a number and a number over a table. -/
theorem merge_laws_conflicts :
    let number (n : Int) : Datum := .scalar (.whole n)
    let inner := [(Scalar.text "x", number 1), (.text "y", .table [(.text "c", number 2)])]
    let changes := [(Scalar.text "y", number 4), (.text "x", .table [(.text "d", number 3)])]
    let a : Datum := .table [(.text "outer", .table inner), (.text "kept", number 5)]
    let b : Datum := .table [(.text "outer", .table changes)]
    a.Keyed ∧ b.Keyed ∧
      (merge a b).get? [.text "outer", .text "y"] = some (number 4) ∧
      (merge a b).get? [.text "outer", .text "x", .text "d"] = some (number 3) ∧
      (merge a b).get? [.text "kept"] = some (number 5) ∧
      (∃ merged, (merge a b).get? [.text "outer"] = some (.table merged) ∧
        merged.map Prod.fst = [.text "x", .text "y"]) ∧
      merge (merge a b) b = merge a b := by
  intro number inner changes a b
  have hinner : (Datum.table inner).Keyed := by
    refine .table (by decide) (List.forall_mem_cons.mpr ⟨.scalar _, ?_⟩)
    refine List.forall_mem_singleton.mpr (.table (by decide) ?_)
    exact List.forall_mem_singleton.mpr (.scalar _)
  have hchanges : (Datum.table changes).Keyed := by
    refine .table (by decide) (List.forall_mem_cons.mpr ⟨.scalar _, ?_⟩)
    refine List.forall_mem_singleton.mpr (.table (by decide) ?_)
    exact List.forall_mem_singleton.mpr (.scalar _)
  have ha : a.Keyed := by
    refine .table (by decide) (List.forall_mem_cons.mpr ⟨hinner, ?_⟩)
    exact List.forall_mem_singleton.mpr (.scalar _)
  have hb : b.Keyed := .table (by decide) (List.forall_mem_singleton.mpr hchanges)
  have hplain (n : Int) : ¬ (number n).IsTable := fun ⟨_, h⟩ => Datum.noConfusion h
  obtain ⟨hstands, hleft, hkeys, -, -, hagain⟩ := merge_laws ha hb
  refine ⟨ha, hb, ?_, ?_, ?_, ?_, hagain⟩
  · exact hstands _ _ rfl (hplain 4)
  · exact hstands _ _ rfl (hplain 3)
  · refine hleft _ rfl fun front hfront hproper _ => ?_
    obtain rfl : front = [] := by
      rcases List.prefix_cons_iff.mp hfront with h | ⟨rest, rfl, hrest⟩
      · exact h
      · exact absurd (congrArg _ (List.prefix_nil.mp hrest)) hproper
    exact ⟨⟨_, rfl⟩, ⟨_, rfl⟩⟩
  · obtain ⟨merged, hmerged, hnames⟩ := hkeys [.text "outer"] inner changes rfl rfl
    exact ⟨merged, hmerged, hnames.trans (by decide)⟩

end FixtureKeywords.Datum
