import FixtureKeywords.Settings.Merge
import Mathlib.Data.List.Nodup

/-!
# What a merge holds

A place inside nested tables is named by the keys that lead to it. A merge is read place by
place: it holds what the upper datum holds there, laid over what the lower one holds; where
the upper datum has nothing, the merge has nothing that the lower one has not.

Tables have one entry for a key. Without that the last entry would stand, and a lookup finds
the first one.
-/
namespace FixtureKeywords.Datum

/-- The datum at a place, if the keys lead to one through nested tables. -/
def get? : List Scalar → Datum → Option Datum
  | [], d => some d
  | key :: place, .table entries => (entries.lookup key).bind (get? place)
  | _ :: _, _ => none

def laidOver (below : Option Datum) (d : Datum) : Datum :=
  match below with
  | some b => merge b d
  | none => d

section Entries
variable {entries lower upper : List (Scalar × Datum)} {key : Scalar}

theorem mem_of_lookup {d : Datum} (h : entries.lookup key = some d) : (key, d) ∈ entries := by
  obtain ⟨front, rest, rfl, -⟩ := List.lookup_eq_some_iff.mp h
  exact List.mem_append_right front List.mem_cons_self

theorem lookup_eq_none (h : key ∉ entries.map Prod.fst) : entries.lookup key = none := by
  rw [List.lookup_eq_none_iff]
  intro entry hentry
  have hne : key ≠ entry.1 := fun heq => h (heq ▸ List.mem_map_of_mem hentry)
  exact bne_iff_ne.mpr hne

theorem lookup_put (value : Datum) (sought : Scalar) :
    (put key value entries).lookup sought =
      if sought = key then some value else entries.lookup sought := by
  induction entries with
  | nil =>
      rw [put, List.lookup_cons, List.lookup_nil]
      split_ifs with h
      · rw [beq_iff_eq.mpr h]
      · rw [beq_eq_false_iff_ne.mpr h]
  | cons entry entries ih =>
      obtain ⟨k, v⟩ := entry
      by_cases hk : k = key
      · subst hk
        rw [put, if_pos rfl, List.lookup_cons, List.lookup_cons]
        split_ifs with h
        · rw [beq_iff_eq.mpr h]
        · rw [beq_eq_false_iff_ne.mpr h]
      · rw [put, if_neg hk, List.lookup_cons, List.lookup_cons, ih]
        by_cases hsought : sought = k
        · have hne : sought ≠ key := hsought ▸ hk
          simp only [beq_iff_eq.mpr hsought, if_neg hne]
        · rw [beq_eq_false_iff_ne.mpr hsought]

theorem mem_keys_put (value : Datum) (sought : Scalar) :
    sought ∈ (put key value entries).map Prod.fst ↔
      sought = key ∨ sought ∈ entries.map Prod.fst := by
  induction entries with
  | nil => simp [put]
  | cons entry entries ih =>
      obtain ⟨k, v⟩ := entry
      rw [put]
      split_ifs with hk
      · simp [hk]
      · rw [List.map_cons, List.mem_cons, ih, List.map_cons, List.mem_cons]
        exact or_left_comm

theorem mem_keys_mergeEntries (sought : Scalar) :
    sought ∈ (mergeEntries lower upper).map Prod.fst ↔
      sought ∈ lower.map Prod.fst ∨ sought ∈ upper.map Prod.fst := by
  induction upper generalizing lower with
  | nil => simp [mergeEntries]
  | cons entry upper ih =>
      obtain ⟨k, v⟩ := entry
      rw [mergeEntries, ih, mem_keys_put, List.map_cons, List.mem_cons, or_assoc, or_left_comm]

theorem mergeEntries_cons (value : Datum) : mergeEntries lower ((key, value) :: upper) =
    mergeEntries (put key (laidOver (lower.lookup key) value) lower) upper := by
  rw [mergeEntries]
  rfl

/-- Under every key a merge of tables has a datum of the upper table over one of the lower
table, or what one of them has alone. -/
theorem lookup_mergeEntries (h : (upper.map Prod.fst).Nodup) (sought : Scalar) :
    (mergeEntries lower upper).lookup sought =
      ((upper.lookup sought).map (laidOver (lower.lookup sought))).or (lower.lookup sought) := by
  induction upper generalizing lower with
  | nil => rw [mergeEntries, List.lookup_nil, Option.map_none, Option.none_or]
  | cons entry upper ih =>
      obtain ⟨k, v⟩ := entry
      obtain ⟨hnew, hrest⟩ := List.nodup_cons.mp h
      rw [mergeEntries_cons, ih hrest, lookup_put, List.lookup_cons]
      by_cases hsought : sought = k
      · subst hsought
        rw [if_pos rfl, lookup_eq_none hnew, beq_self_eq_true]
        rfl
      · rw [if_neg hsought, beq_eq_false_iff_ne.mpr hsought]

end Entries

variable {lower upper d : Datum} {place : List Scalar}

theorem merge_scalar (lower : Datum) (s : Scalar) : merge lower (.scalar s) = .scalar s := by
  cases lower <;> rfl

theorem merge_list (lower : Datum) (items : List Datum) :
    merge lower (.list items) = .list items := by
  cases lower <;> rfl

theorem scalar_merge (s : Scalar) (upper : Datum) : merge (.scalar s) upper = upper := by
  cases upper <;> rfl

theorem get?_singleton (entries : List (Scalar × Datum)) (key : Scalar) :
    (Datum.table entries).get? [key] = entries.lookup key := by
  rw [get?]
  cases entries.lookup key <;> rfl

theorem get?_pair {entries fields : List (Scalar × Datum)} {first : Scalar}
    (h : entries.lookup first = some (.table fields)) (second : Scalar) :
    (Datum.table entries).get? [first, second] = fields.lookup second := by
  rw [get?, h]
  exact get?_singleton fields second

theorem get?_merge_tables {below entries : List (Scalar × Datum)}
    (h : (entries.map Prod.fst).Nodup) (key : Scalar) (place : List Scalar) :
    (merge (.table below) (.table entries)).get? (key :: place) =
      (((entries.lookup key).map (laidOver (below.lookup key))).or (below.lookup key)).bind
        (get? place) :=
  congrArg (Option.bind · (get? place)) (lookup_mergeEntries h key)

/-- What the upper datum has at a place is laid over what the lower one has there. -/
theorem get?_merge (hkeyed : upper.Keyed) (h : upper.get? place = some d) :
    (merge lower upper).get? place = some (laidOver (lower.get? place) d) := by
  induction place generalizing lower upper with
  | nil =>
      obtain rfl := Option.some.inj h
      rfl
  | cons key place ih =>
      cases hkeyed with
      | scalar s => cases h
      | list hitems => cases h
      | @table entries hkeys hentries =>
          cases lower with
          | scalar s => exact h
          | list items => exact h
          | table below =>
              obtain ⟨v, hv, hd⟩ := Option.bind_eq_some_iff.mp h
              rw [get?_merge_tables hkeys, hv]
              change (get? place (laidOver (below.lookup key) v)) =
                some (laidOver ((below.lookup key).bind (get? place)) d)
              cases below.lookup key with
              | none => exact hd
              | some b => exact ih (hentries _ (mem_of_lookup hv)) hd

/-- Where the upper datum has nothing, the merge only has what the lower one has. -/
theorem get?_of_get?_merge (hkeyed : upper.Keyed) (hnone : upper.get? place = none)
    (h : (merge lower upper).get? place = some d) : lower.get? place = some d := by
  induction place generalizing lower upper with
  | nil => cases hnone
  | cons key place ih =>
      have hupper : merge lower upper ≠ upper := fun heq => by
        rw [heq, hnone] at h
        cases h
      cases hkeyed with
      | scalar s => exact absurd (merge_scalar lower s) hupper
      | list hitems => exact absurd (merge_list lower _) hupper
      | @table entries hkeys hentries =>
          cases lower with
          | scalar s => exact absurd rfl hupper
          | list items => exact absurd rfl hupper
          | table below =>
              rw [get?_merge_tables hkeys] at h
              change (below.lookup key).bind (get? place) = some d
              cases hv : entries.lookup key with
              | none => rwa [hv] at h
              | some v =>
                  have hrest : v.get? place = none := by
                    rwa [get?, hv] at hnone
                  rw [hv] at h
                  cases hb : below.lookup key with
                  | none =>
                      rw [hb] at h
                      exact absurd (hrest.symm.trans h) nofun
                  | some b =>
                      rw [hb] at h
                      exact ih (hentries _ (mem_of_lookup hv)) hrest h

end FixtureKeywords.Datum
