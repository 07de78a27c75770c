import FixtureKeywords.Markup.Token

/-!
# Nodes

What a markup text holds, before its scalars are given a meaning: scalars, lists and
tables. Nodes are built from tokens one by one, on a stack of the collections that
are not complete. A missing key, value or item is the empty plain scalar.

A list without a block of its own may stand in the column of the table that it
belongs to. It ends with the first token that is no item.
-/

namespace FixtureKeywords.Markup

/-- A scalar, a list or a table. -/
inductive Node where
  | scalar (plain : Bool) (text : Text)
  | list (items : List Node)
  | table (entries : List (Node × Node))
deriving Repr, Inhabited

namespace Node

/-- What stands for a missing node. -/
def empty : Node :=
  scalar true []

/-- A list with one more item, or a table with one more key that has no value. -/
def push (collection item : Node) : Node :=
  match collection with
  | list items => list (items ++ [item])
  | table entries => table (entries ++ [(item, empty)])
  | scalar plain text => scalar plain text

/-- A table with one more entry; in a list the entry becomes a table of its own. -/
def enter (collection key value : Node) : Node :=
  match collection with
  | list items => list (items ++ [table [(key, value)]])
  | table entries => table (entries ++ [(key, value)])
  | scalar plain text => scalar plain text

end Node

/-- The forms of collections. A loose list has no block of its own. -/
inductive Form where
  | blockList
  | looseList
  | blockTable
  | flowList
  | flowTable
deriving DecidableEq, Repr

namespace Form

/-- Whether a collection stands in brackets or braces. -/
def isFlow : Form → Bool
  | flowList => true
  | flowTable => true
  | _ => false

/-- The token that ends a collection; a loose list has none. -/
def ending? : Form → Option Token
  | blockList => some .blockEnd
  | looseList => none
  | blockTable => some .blockEnd
  | flowList => some .closeList
  | flowTable => some .closeTable

def followers : Form → List Token
  | blockList => [.item, .blockEnd]
  | looseList => [.item, .key, .value, .blockEnd]
  | blockTable => [.key, .value, .blockEnd]
  | flowList => [.separator, .closeList]
  | flowTable => [.separator, .closeTable]

end Form

/-- What is due next in a collection: the mark of a part or the end, an item, a key,
the colon behind a key, or a value. -/
inductive Slot where
  | part
  | item
  | key
  | colon (key : Node)
  | value (key : Node)
deriving Repr, Inhabited

/-- A collection that is not complete. -/
structure Frame where
  form : Form
  node : Node
  slot : Slot
deriving Repr

namespace Frame

def put (node : Node) (f : Frame) : Frame :=
  match f.slot with
  | .item => { f with node := f.node.push node, slot := .part }
  | .key => { f with slot := .colon node }
  | .value key => { f with node := f.node.enter key node, slot := .part }
  | _ => f

def isMissing (token : Token) (f : Frame) : Bool :=
  match f.slot with
  | .item => !f.form.isFlow && f.form.followers.contains token
  | .key => token == .value || f.form.followers.contains token
  | .value _ => f.form.followers.contains token
  | _ => false

def fill (token : Token) (f : Frame) : Frame :=
  let f := if f.isMissing token then f.put .empty else f
  match f.slot with
  | .colon key =>
      if token = .value then f else { f with node := f.node.enter key .empty, slot := .part }
  | _ => f

def isEndedBy (token : Token) (f : Frame) : Bool :=
  f.form.ending? == some token &&
    match f.slot with
    | .part => true
    | .item => true
    | _ => false

/-- What is due after a token that is a mark in the collection, if it is one. -/
def slotAfter? (token : Token) (f : Frame) : Option Slot :=
  match f.slot, token, f.form with
  | .part, .item, .blockList => some .item
  | .part, .item, .looseList => some .item
  | .part, .key, .blockTable => some .key
  | .part, .separator, .flowList => some .item
  | .part, .separator, .flowTable => some .item
  | .item, .key, .flowList => some .key
  | .item, .key, .flowTable => some .key
  | .colon key, .value, _ => some (.value key)
  | _, _, _ => none

/-- Whether a loose list ends in front of a token. -/
def isLeftBy (token : Token) (f : Frame) : Bool :=
  match f.form, f.slot with
  | .looseList, .part => token != .item
  | _, _ => false

/-- Whether a loose list may start: as a key or a value of a table. -/
def takesLooseList (f : Frame) : Bool :=
  match f.form, f.slot with
  | .blockTable, .key => true
  | .blockTable, .value _ => true
  | _, _ => false

def awaitsNode (f : Frame) : Bool :=
  match f.slot with
  | .part => false
  | .colon _ => false
  | _ => true

end Frame

/-- How much of a document has been read: nothing, its mark, a part of its node with
the innermost collection first, or its node. -/
inductive Progress where
  | before
  | begun
  | inside (frames : List Frame)
  | complete (root : Node)
deriving Repr

namespace Progress

/-- Puts a complete node where it is due. -/
def place (node : Node) : List Frame → Progress
  | [] => complete node
  | f :: frames => inside (f.put node :: frames)

def begin (token : Token) (frames : List Frame) : Except Fault Progress :=
  match token with
  | .scalar plain text => .ok (place (.scalar plain text) frames)
  | .blockList => .ok (inside (⟨.blockList, .list [], .part⟩ :: frames))
  | .blockTable => .ok (inside (⟨.blockTable, .table [], .part⟩ :: frames))
  | .openList => .ok (inside (⟨.flowList, .list [], .item⟩ :: frames))
  | .openTable => .ok (inside (⟨.flowTable, .table [], .item⟩ :: frames))
  | .item =>
      if frames.head?.any Frame.takesLooseList then
        .ok (inside (⟨.looseList, .list [], .item⟩ :: frames))
      else .error .markupStructure
  | _ => .error .markupStructure

/-- Ends a loose list in front of a token that is no item of it. -/
def leave (token : Token) : List Frame → List Frame
  | f :: g :: frames =>
      let filled := f.fill token
      if filled.isLeftBy token then g.put filled.node :: frames else f :: g :: frames
  | frames => frames

/-- Reads a token inside collections. -/
def feed (token : Token) (frames : List Frame) : Except Fault Progress :=
  match leave token frames with
  | [] => .error .markupStructure
  | f :: frames =>
      let f := f.fill token
      if f.isEndedBy token then .ok (place f.node frames)
      else
        match f.slotAfter? token with
        | some slot => .ok (inside ({ f with slot } :: frames))
        | none => if f.awaitsNode then begin token (f :: frames) else .error .markupStructure

def step (p : Progress) (token : Token) : Except Fault Progress :=
  match p, token with
  | _, .unreadable fault => .error fault
  | before, .documentStart => .ok begun
  | begun, .documentStart => .error .severalDocuments
  | complete _, .documentStart => .error .severalDocuments
  | begun, .documentEnd => .ok (complete .empty)
  | complete root, .documentEnd => .ok (complete root)
  | before, .textEnd => .ok (complete .empty)
  | begun, .textEnd => .ok (complete .empty)
  | complete root, .textEnd => .ok (complete root)
  | before, token => begin token []
  | begun, token => begin token []
  | inside frames, token => feed token frames
  | complete _, _ => .error .markupStructure

end Progress

def Node.ofTokens (tokens : List Token) : Except Fault Node := do
  match ← tokens.foldlM Progress.step .before with
  | .complete root => .ok root
  | _ => .error .markupStructure

end FixtureKeywords.Markup
