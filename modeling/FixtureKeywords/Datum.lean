import FixtureKeywords.Calendar.Timestamp
import FixtureKeywords.Double.Shortest
import FixtureKeywords.Text.Quoted

/-!
# Data

A datum is what a cell of a fixture table, a configuration file or a call may
hold: a scalar, a list, or a table of entries in the order of their first
appearance. Keys of a table are scalars. Other collections without keys count as
lists.
-/

namespace FixtureKeywords

/-- A datum without parts. -/
inductive Scalar where
  | null
  | truth (value : Bool)
  | whole (value : Int)
  | floating (value : Double)
  | text (value : String)
  /-- Bytes: how they are written, and the text that they encode, if they do. -/
  | binary (written : String) (encoded : Option String)
  | date (year month day : Nat)
  | moment (time : Timestamp)
deriving DecidableEq, Repr, Inhabited

/-- A scalar, a list of data or a table of data. -/
inductive Datum where
  | scalar (value : Scalar)
  | list (items : List Datum)
  | table (entries : List (Scalar × Datum))
deriving Repr, Inhabited

namespace Scalar

/-- A moment as it is written inside other data: zero microseconds are left out, and
then zero seconds. -/
def quotedMoment (t : Timestamp) : String :=
  let r := t.reading
  let date := Reading.date r
  let fine := [Reading.seconds r, Reading.micros r].reverse.dropWhile (· == 0)
  let numbers := [date.year.toNat, date.month, date.day, Reading.hours r, Reading.minutes r] ++
    fine.reverse
  let zone := t.offset.map fun offset =>
    let seconds := offset / Reading.second
    "tzinfo=datetime.timezone" ++
      if seconds = 0 then ".utc" else "(" ++ Text.lengthOfTime seconds ++ ")"
  "datetime.datetime(" ++ ", ".intercalate (numbers.map toString ++ zone.toList) ++ ")"

/-- A scalar as it is written inside other data: texts are quoted. -/
def quoted : Scalar → String
  | null => "None"
  | truth true => "True"
  | truth false => "False"
  | whole n => toString n
  | floating x => x.written
  | text s => Text.quoted s.toList
  | binary written _ => written
  | date y m d => "datetime.date(" ++ ", ".intercalate [toString y, toString m, toString d] ++ ")"
  | moment t => quotedMoment t

/-- A scalar as it is written by itself: texts stand for themselves. -/
def shown : Scalar → String
  | text s => s
  | date y m d => "-".intercalate [Text.padded 4 y, Text.padded 2 m, Text.padded 2 d]
  | other => other.quoted

/-- Whether a scalar can be written, which only a long integer cannot. -/
def isWritable : Scalar → Bool
  | whole n => Text.isWritable n
  | _ => true

end Scalar

namespace Datum

abbrev text (s : String) : Datum :=
  scalar (.text s)

mutual

/-- A datum as it is written inside other data. -/
def quoted : Datum → String
  | scalar s => s.quoted
  | list items => "[" ++ ", ".intercalate (quotedItems items) ++ "]"
  | table entries => "\x7b" ++ ", ".intercalate (quotedEntries entries) ++ "\x7d"

def quotedItems : List Datum → List String
  | [] => []
  | item :: items => item.quoted :: quotedItems items

/-- The written forms of the entries of a table. -/
def quotedEntries : List (Scalar × Datum) → List String
  | [] => []
  | (key, value) :: entries => (key.quoted ++ ": " ++ value.quoted) :: quotedEntries entries

end

mutual

/-- Whether everything in a datum can be written. -/
def isWritable : Datum → Bool
  | scalar s => s.isWritable
  | list items => itemsWritable items
  | table entries => entriesWritable entries

def itemsWritable : List Datum → Bool
  | [] => true
  | item :: items => item.isWritable && itemsWritable items

/-- Whether all entries of a table can be written. -/
def entriesWritable : List (Scalar × Datum) → Bool
  | [] => true
  | (key, value) :: entries => key.isWritable && value.isWritable && entriesWritable entries

end

/-- A datum as it is written by itself: a text stands for itself. -/
def shown : Datum → String
  | scalar s => s.shown
  | other => other.quoted

/-- Enters a value under a key, in place of an earlier value or behind all entries. -/
def put (key : Scalar) (value : Datum) : List (Scalar × Datum) → List (Scalar × Datum)
  | [] => [(key, value)]
  | (k, v) :: entries =>
      if k = key then (k, value) :: entries else (k, v) :: put key value entries

/-- The text that a datum holds, if it is one. -/
def asText? : Datum → Option String
  | scalar (.text s) => some s
  | _ => none

/-- Every table in a datum has one entry for a key. -/
inductive Keyed : Datum → Prop
  | scalar (s : Scalar) : Keyed (.scalar s)
  | list {items : List Datum} : (∀ d ∈ items, Keyed d) → Keyed (.list items)
  | table {entries : List (Scalar × Datum)} : (entries.map Prod.fst).Nodup →
      (∀ entry ∈ entries, Keyed entry.2) → Keyed (.table entries)

theorem keyed_nil : (table []).Keyed :=
  .table .nil nofun

end Datum

/-- What a text in a notation for data holds. -/
structure Document where
  datum : Datum
  keyed : datum.Keyed

end FixtureKeywords
