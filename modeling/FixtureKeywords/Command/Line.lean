import FixtureKeywords.Text.DigitTable

/-!
# The command line

Two commands: `generate` prints values of a keyword, `check` tells the family of a
valid one. Options stand anywhere behind the command, long ones with their value
behind an equals sign or as the next word, short ones also run together. An option
that takes a value takes the next word whatever it looks like; the last one of a
repeated option counts; two dashes end the options.

Everything else is a wrong use of the command line and has no reading.
-/

namespace FixtureKeywords

/-- What the words behind `generate` ask for: one value at least. -/
structure GenerateRequest where
  keyword : Text := []
  count : Nat := 1
  positive : 1 ≤ count := by exact Nat.le_of_ble_eq_true rfl
  seed : Option Text := none
  config : Option Text := none
  verbose : Bool := false
deriving DecidableEq, Repr

/-- A command of the user. -/
inductive Command where
  | generate (request : GenerateRequest)
  | check (keyword : Text)
deriving DecidableEq, Repr

namespace Command

/-- An option of `generate`. -/
inductive OptionName where
  | count
  | seed
  | config
  | verbose
deriving DecidableEq, Repr

namespace OptionName

def ofLong? (name : String) : Option OptionName :=
  [("--count", count), ("--seed", seed), ("--config", config), ("--verbose", verbose)].lookup name

def ofShort? (c : Char) : Option OptionName :=
  [('n', count), ('v', verbose)].lookup c

/-- Whether an option stands for itself and takes no value. -/
def isFlag (o : OptionName) : Bool :=
  o = verbose

end OptionName

/-- The words of a command, taken apart. -/
structure Parts where
  options : List (OptionName × Text)
  positionals : List Text
deriving DecidableEq, Repr

namespace Parts

def withOption (o : OptionName) (value : Text) (p : Parts) : Parts :=
  { p with options := (o, value) :: p.options }

def withPositional (word : Text) (p : Parts) : Parts :=
  { p with positionals := word :: p.positionals }

def last? (p : Parts) (o : OptionName) : Option Text :=
  p.options.reverse.lookup o

end Parts

/-- What short options run together come to: flags, and perhaps one option that
takes the rest of the word, or the next word if nothing is left. -/
inductive Cluster where
  | complete (options : List (OptionName × Text))
  | wanting (options : List (OptionName × Text)) (last : OptionName)
deriving DecidableEq, Repr

def cluster? (shortOf : Char → Option OptionName) : Text → Option Cluster
  | [] => some (.complete [])
  | c :: rest => do
      let o ← shortOf c
      if o.isFlag then
        match ← cluster? shortOf rest with
        | .complete options => some (.complete ((o, []) :: options))
        | .wanting options last => some (.wanting ((o, []) :: options) last)
      else if rest.isEmpty then some (.wanting [] o)
      else some (.complete [(o, rest)])

/-- What a word is among options. -/
inductive Word where
  | positional
  | endOfOptions
  | complete (options : List (OptionName × Text))
  | wanting (options : List (OptionName × Text)) (last : OptionName)
deriving DecidableEq, Repr

/-- Tells what a word is, by the options that the command knows. -/
def classify? (longOf : String → Option OptionName) (shortOf : Char → Option OptionName)
    (word : Text) : Option Word :=
  match word with
  | ['-', '-'] => some .endOfOptions
  | '-' :: '-' :: _ => do
      let name := word.takeWhile (· != '=')
      let o ← longOf (String.ofList name)
      match Text.dropChar? '=' (word.drop name.length) with
      | some value => if o.isFlag then none else some (.complete [(o, value)])
      | none => if o.isFlag then some (.complete [(o, [])]) else some (.wanting [] o)
  | '-' :: c :: rest => do
      match ← cluster? shortOf (c :: rest) with
      | .complete options => some (.complete options)
      | .wanting options last => some (.wanting options last)
  | _ => some .positional

/-- Takes the words behind a command apart. -/
def parts? (longOf : String → Option OptionName) (shortOf : Char → Option OptionName) :
    List Text → Option Parts
  | [] => some ⟨[], []⟩
  | word :: words => do
      match ← classify? longOf shortOf word with
      | .endOfOptions => some ⟨[], words⟩
      | .positional => (parts? longOf shortOf words).map (Parts.withPositional word)
      | .complete options =>
          (parts? longOf shortOf words).map fun p => { p with options := options ++ p.options }
      | .wanting options last =>
          match words with
          | [] => none
          | value :: words =>
              (parts? longOf shortOf words).map fun p =>
                { p with options := options ++ (last, value) :: p.options }

/-- A count of at least one, in digits of any script. -/
def count? (t : Text) : Option {n : Nat // 1 ≤ n} := do
  let t := (Text.strip t).map Text.plainDigit
  let digits ← Text.digitsWithGaps? ((Text.dropChar? '+' t).getD t)
  let n ← (Text.readDigits digits).toOption
  if h : 1 ≤ n then some ⟨n, h⟩ else none

/-- The request of the words behind `generate`. -/
def generateRequest? (words : List Text) : Option GenerateRequest := do
  let p ← parts? OptionName.ofLong? OptionName.ofShort? words
  let [keyword] := p.positionals | none
  let ⟨count, positive⟩ ← match p.last? .count with
    | some t => count? t
    | none => some ⟨1, Nat.le_refl 1⟩
  some
    { keyword, count, positive, seed := p.last? .seed, config := p.last? .config,
      verbose := (p.last? .verbose).isSome }

def named? (name : Text) (words : List Text) : Option Command :=
  match String.ofList name with
  | "generate" => (generateRequest? words).map generate
  | "check" => do
      let p ← parts? (fun _ => none) (fun _ => none) words
      let [keyword] := p.positionals | none
      some (check keyword)
  | _ => none

/-- The command that words write; two dashes may stand in front of it. -/
def read? : List Text → Option Command
  | [] => none
  | ['-', '-'] :: name :: words => named? name words
  | name :: words => named? name words

end Command

end FixtureKeywords
