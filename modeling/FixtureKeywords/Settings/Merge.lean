import FixtureKeywords.Datum
import FixtureKeywords.Fault

/-!
# Merging

One datum laid over another. Where both are tables they are merged entry by entry,
and everywhere else the upper one stands. The entries of the lower table keep
their places; new ones follow in the order of the upper table.
-/

namespace FixtureKeywords.Datum

mutual

/-- Lays the second datum over the first one. -/
def merge : Datum → Datum → Datum
  | .table lower, .table upper => .table (mergeEntries lower upper)
  | _, upper => upper

/-- Lays entries over a table. -/
def mergeEntries (lower : List (Scalar × Datum)) :
    List (Scalar × Datum) → List (Scalar × Datum)
  | [] => lower
  | (key, value) :: upper =>
      let value := match lower.lookup key with
        | some below => merge below value
        | none => value
      mergeEntries (put key value lower) upper

end

def entries : Datum → Except Fault (List (Scalar × Datum))
  | .table entries => .ok entries
  | _ => .error .notATable

/-- Lays a table over a table; nothing else can be laid over one. -/
def mergeTable (lower : List (Scalar × Datum)) (upper : Datum) : Except Fault Datum := do
  .ok (.table (mergeEntries lower (← upper.entries)))

end FixtureKeywords.Datum
