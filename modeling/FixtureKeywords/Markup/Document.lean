import FixtureKeywords.Markup.Node
import FixtureKeywords.Markup.Scalar

/-!
# Documents

A text holds one document, perhaps behind a line of three dashes. A text without
any content is nothing.

The scalars of a document get their values after all of it has been read, those of a
collection before those of the collections in it. So of several scalars without a
value the one with the fewest collections around it is reported, and of those the
first.

Keys of a table that are equal as numbers or as instants are one key. It keeps its
first spelling and place, and takes the last value.
-/

namespace FixtureKeywords.Markup

/-- A fault in a document, with the number of collections around it. -/
structure Misfit where
  depth : Nat
  fault : Fault
deriving DecidableEq, Repr

/-- Two things that were read; of two misfits the outer one counts, or else the first. -/
def both (a : Except Misfit α) (b : Except Misfit β) : Except Misfit (α × β) :=
  match a, b with
  | .ok a, .ok b => .ok (a, b)
  | .ok _, .error n => .error n
  | .error m, .ok _ => .error m
  | .error m, .error n => .error (if m.depth ≤ n.depth then m else n)

def asInteger? : Scalar → Option Int
  | .truth b => some (if b then 1 else 0)
  | .whole n => some n
  | .floating x => x.integer?
  | _ => none

def isSameKey (a b : Scalar) : Bool :=
  match a, b with
  | .moment ⟨r, some m⟩, .moment ⟨s, some n⟩ => r - m == s - n
  | a, b => a == b || ((asInteger? a).isSome && asInteger? a == asInteger? b)

/-- Enters a value under a key that may be there in another spelling. -/
def enter (entries : List (Scalar × Datum)) (entry : Scalar × Datum) : List (Scalar × Datum) :=
  match entries with
  | [] => [entry]
  | (key, value) :: rest =>
      if isSameKey key entry.1 then (key, entry.2) :: rest else (key, value) :: enter rest entry

/-- The key that a node is, inside `depth` collections. -/
def Node.asKey (depth : Nat) : Node → Except Misfit Scalar
  | .scalar true text => (resolve text).mapError (⟨depth, ·⟩)
  | .scalar false text => .ok (.text (String.ofList text))
  | _ => .error ⟨depth, .collectionAsKey⟩

mutual

/-- The datum that a node inside `depth` collections stands for. -/
def Node.datum (depth : Nat) : Node → Except Misfit Datum
  | .scalar true text => ((resolve text).map Datum.scalar).mapError (⟨depth, ·⟩)
  | .scalar false text => .ok (.text (String.ofList text))
  | .list items => (itemData (depth + 1) items).map .list
  | .table entries => (entryData (depth + 1) entries).map fun data => .table (data.foldl enter [])

def itemData (depth : Nat) : List Node → Except Misfit (List Datum)
  | [] => .ok []
  | item :: items =>
      (both (item.datum depth) (itemData depth items)).map fun (datum, data) => datum :: data

def entryData (depth : Nat) : List (Node × Node) → Except Misfit (List (Scalar × Datum))
  | [] => .ok []
  | (key, value) :: entries =>
      (both (both (key.asKey depth) (value.datum depth)) (entryData depth entries)).map
        fun (entry, data) => entry :: data

end

end FixtureKeywords.Markup
